/-
The characters that fold alike.

Closing a set under case adds what its members fold to and then all that fold to what is
there (`closure`).  That these are the characters which fold as some member does, and no
others, rests on two facts about the table: a letter is in one run only, so that every
pair of the table says what its letter folds to, and what a letter folds to is in no run,
so that folding ends after one step.

The sets are lists of bounds.  A code point is inside where the number of bounds at or
below it is odd (`inside_eq_odd`), which is how the set of a list of code points is read.
-/
import Mathlib.Data.List.Chain
import AppBuild.Proofs.Unicode.Folding

namespace AppBuild

/-! ### Sets as lists of bounds -/

namespace CharSet

variable {s t : CharSet} {n : Nat}

/-- The number of bounds up to a code point tells on which side of the set it is. -/
theorem inside_eq_odd {bs : List Nat} (h : bs.Pairwise (· < ·)) (now : Bool) :
    inside now bs n = (now ^^ (bs.countP (· ≤ n) % 2 == 1)) := by
  induction bs generalizing now with
  | nil => simp [inside]
  | cons b bs ih =>
      obtain ⟨hb, hbs⟩ := List.pairwise_cons.mp h
      rw [inside]
      by_cases hn : n < b
      · have hnone : (b :: bs).countP (· ≤ n) = 0 := by
          rw [List.countP_eq_zero]
          intro c hc
          rcases List.mem_cons.mp hc with rfl | hc
          · simpa using hn
          · have hbc := hb c hc
            simp only [decide_eq_true_eq, Nat.not_le]
            omega
        rw [if_pos hn, hnone]
        simp
      · have hle : b ≤ n := Nat.not_lt.mp hn
        rw [if_neg hn, ih hbs, List.countP_cons_of_pos (by simpa using hle)]
        rcases Nat.mod_two_eq_zero_or_one (bs.countP (· ≤ n)) with hodd | hodd
        · rw [Nat.add_mod, hodd]
          cases now <;> rfl
        · rw [Nat.add_mod, hodd]
          cases now <;> rfl

theorem containsCode_iff_odd (h : s.Ordered) :
    s.containsCode n = true ↔ s.bounds.countP (· ≤ n) % 2 = 1 := by
  unfold containsCode
  rw [inside_eq_odd h, Bool.false_xor, beq_iff_eq]

theorem pairwise_emit {before after : Bool} {b : Nat} {bs : List Nat}
    (h : ∀ c ∈ bs, b < c) (hbs : bs.Pairwise (· < ·)) :
    (emit before after b bs).Pairwise (· < ·) := by
  unfold emit
  split
  · exact hbs
  · exact List.pairwise_cons.mpr ⟨h, hbs⟩

theorem pairwise_combineBounds (table : Bool → Bool → Bool) {fuel : Nat} {a b : Bool}
    {xs ys : List Nat} (hx : xs.Pairwise (· < ·)) (hy : ys.Pairwise (· < ·)) :
    (combineBounds table fuel a b xs ys).Pairwise (· < ·) := by
  fun_induction combineBounds table fuel a b xs ys with
  | case1 => exact List.Pairwise.nil
  | case2 => exact List.Pairwise.nil
  | case3 fuel a b x xs ih =>
      obtain ⟨hhead, htail⟩ := List.pairwise_cons.mp hx
      refine pairwise_emit ?_ (ih htail hy)
      intro c hc
      rcases mem_of_mem_combineBounds hc with h | h
      · exact hhead c h
      · exact absurd h (by simp)
  | case4 fuel a b y ys ih =>
      obtain ⟨hhead, htail⟩ := List.pairwise_cons.mp hy
      refine pairwise_emit ?_ (ih hx htail)
      intro c hc
      rcases mem_of_mem_combineBounds hc with h | h
      · exact absurd h (by simp)
      · exact hhead c h
  | case5 fuel a b x xs y ys hxy ih =>
      obtain ⟨hhead, htail⟩ := List.pairwise_cons.mp hx
      refine pairwise_emit ?_ (ih htail hy)
      intro c hc
      rcases mem_of_mem_combineBounds hc with h | h
      · exact hhead c h
      · rcases List.mem_cons.mp h with rfl | h
        · exact hxy
        · exact Nat.lt_trans hxy ((List.pairwise_cons.mp hy).1 c h)
  | case6 fuel a b x xs y ys hxy hyx ih =>
      obtain ⟨hhead, htail⟩ := List.pairwise_cons.mp hy
      refine pairwise_emit ?_ (ih hx htail)
      intro c hc
      rcases mem_of_mem_combineBounds hc with h | h
      · rcases List.mem_cons.mp h with rfl | h
        · exact hyx
        · exact Nat.lt_trans hyx ((List.pairwise_cons.mp hx).1 c h)
      · exact hhead c h
  | case7 fuel a b x xs y ys hxy hyx ih =>
      obtain ⟨hxs, hxtail⟩ := List.pairwise_cons.mp hx
      obtain ⟨hys, hytail⟩ := List.pairwise_cons.mp hy
      refine pairwise_emit ?_ (ih hxtail hytail)
      intro c hc
      rcases mem_of_mem_combineBounds hc with h | h
      · exact hxs c h
      · have := hys c h
        omega

theorem ordered_union (hs : s.Ordered) (ht : t.Ordered) : (s.union t).Ordered :=
  pairwise_combineBounds _ hs ht

theorem containsCode_union (hs : s.Ordered) (ht : t.Ordered) :
    (s.union t).containsCode n = true ↔ s.containsCode n = true ∨ t.containsCode n = true := by
  unfold union
  rw [containsCode_combine rfl hs ht, Bool.or_eq_true]

theorem length_emit_le (before after : Bool) (b : Nat) (bs : List Nat) :
    (emit before after b bs).length ≤ bs.length + 1 := by
  unfold emit
  split
  · exact Nat.le_succ _
  · exact Nat.le_refl _

theorem length_combineBounds_le (table : Bool → Bool → Bool) (fuel : Nat) (a b : Bool)
    (xs ys : List Nat) :
    (combineBounds table fuel a b xs ys).length ≤ xs.length + ys.length := by
  fun_induction combineBounds table fuel a b xs ys with
  | case1 => exact Nat.zero_le _
  | case2 => exact Nat.zero_le _
  | case3 fuel a b x xs ih => grind [length_emit_le]
  | case4 fuel a b y ys ih => grind [length_emit_le]
  | case5 fuel a b x xs y ys h ih => grind [length_emit_le]
  | case6 fuel a b x xs y ys h h' ih => grind [length_emit_le]
  | case7 fuel a b x xs y ys h h' ih => grind [length_emit_le]

theorem length_bounds_union (s t : CharSet) :
    (s.union t).bounds.length ≤ s.bounds.length + t.bounds.length :=
  length_combineBounds_le _ _ _ _ _ _

theorem ordered_singleton (c : Char) : (singleton c).Ordered := by
  simp [Ordered, singleton]

/-- Between a code point and the next there is that code point alone. -/
theorem containsCode_pair (code : Nat) :
    containsCode ⟨[code, code + 1]⟩ n = true ↔ n = code := by
  simp only [containsCode, inside]
  by_cases hbelow : n < code
  · rw [if_pos hbelow]
    simp only [Bool.false_eq_true, false_iff]
    omega
  · by_cases hnext : n < code + 1
    · rw [if_neg hbelow, if_pos hnext]
      simp only [Bool.not_false, true_iff]
      omega
    · rw [if_neg hbelow, if_neg hnext]
      simp only [Bool.not_false, Bool.not_true, Bool.false_eq_true, false_iff]
      omega

theorem containsCode_singleton (c : Char) :
    (singleton c).containsCode n = true ↔ n = c.toNat := containsCode_pair c.toNat

end CharSet

namespace Unicode.Folding

/-! ### The set of a list of code points -/

/-- The bounds of a set of code points, the last first, with one more code point that is not below
the others. -/
def noteCode : List Nat → Nat → List Nat
  | hi :: rest, n =>
    if n < hi then hi :: rest else if n = hi then (n + 1) :: rest
    else (n + 1) :: n :: hi :: rest
  | [], n => [n + 1, n]

theorem setOfCodes_eq (codes : List Nat) :
    setOfCodes codes = ⟨(codes.mergeSort.foldl noteCode []).reverse⟩ := rfl

/-- Of the bounds up to a code point there is an odd number exactly if it was noted. -/
def OddAt (noted bounds : List Nat) : Prop :=
  ∀ m, bounds.countP (· ≤ m) % 2 = 1 ↔ m ∈ noted

section

variable {noted bounds : List Nat} {n : Nat}

theorem mem_concat {m : Nat} : m ∈ noted ++ [n] ↔ m ∈ noted ∨ m = n := by
  rw [List.mem_append, List.mem_singleton]

/-- A code point at the last bound moves that bound. -/
theorem OddAt.extend (h : OddAt noted (n :: bounds)) (hn : n ∉ noted) :
    OddAt (noted ++ [n]) ((n + 1) :: bounds) := by
  intro m
  have hm := h m
  rw [mem_concat, ← hm]
  simp only [List.countP_cons, decide_eq_true_eq] at hm ⊢
  by_cases hmn : m = n
  · subst hmn
    rw [if_pos (Nat.le_refl m)] at hm ⊢
    have heven : ¬ (bounds.countP (· ≤ m) + 1) % 2 = 1 := fun hodd => hn (hm.mp hodd)
    rw [if_neg (Nat.not_succ_le_self m)]
    omega
  · have hsame : (n + 1 ≤ m) ↔ n ≤ m := by omega
    simp only [hsame, hmn, or_false]

/-- A code point past the last bound takes two new ones. -/
theorem OddAt.append (h : OddAt noted bounds) (hn : n ∉ noted) :
    OddAt (noted ++ [n]) ((n + 1) :: n :: bounds) := by
  intro m
  have hm := h m
  rw [mem_concat, ← hm]
  simp only [List.countP_cons, decide_eq_true_eq] at hm ⊢
  by_cases hmn : m = n
  · subst hmn
    have heven : ¬ bounds.countP (· ≤ m) % 2 = 1 := fun hodd => hn (hm.mp hodd)
    rw [if_pos (Nat.le_refl m), if_neg (Nat.not_succ_le_self m)]
    omega
  · have hsame : (n + 1 ≤ m) ↔ n ≤ m := by omega
    simp only [hsame, hmn, or_false]
    split <;> omega

/-- The bounds, the last first, are those of the code points that were noted. -/
structure Notes (noted bounds : List Nat) : Prop where
  descending : bounds.Pairwise (· > ·)
  odd : OddAt noted bounds
  /-- The last bound is past the greatest of them. -/
  last : ∀ hi rest, bounds = hi :: rest → ∃ n ∈ noted, hi = n + 1 ∧ ∀ m ∈ noted, m ≤ n

theorem notes_nil : Notes [] [] where
  descending := List.Pairwise.nil
  odd := by simp [OddAt]
  last := by simp

/-- The next code point becomes the greatest. -/
theorem last_concat (hn : ∀ m ∈ noted, m ≤ n) {hi : Nat} {rest : List Nat}
    (h : (n + 1) :: bounds = hi :: rest) :
    ∃ k ∈ noted ++ [n], hi = k + 1 ∧ ∀ m ∈ noted ++ [n], m ≤ k := by
  refine ⟨n, mem_concat.mpr (Or.inr rfl), (List.cons.inj h).1.symm, ?_⟩
  intro m hm
  rcases mem_concat.mp hm with hm | rfl
  · exact hn m hm
  · exact Nat.le_refl _

theorem Notes.noteCode (h : Notes noted bounds) (hn : ∀ m ∈ noted, m ≤ n) :
    Notes (noted ++ [n]) (noteCode bounds n) := by
  cases bounds with
  | nil =>
      have hnew : n ∉ noted := fun hmem => absurd ((h.odd n).mpr hmem) (by simp)
      exact ⟨by simp [Folding.noteCode], h.odd.append hnew, fun _ _ => last_concat hn⟩
  | cons hi rest =>
      obtain ⟨greatest, hgreatest, rfl, hle⟩ := h.last hi rest rfl
      obtain ⟨hrest, hdescending⟩ := List.pairwise_cons.mp h.descending
      have hge : greatest ≤ n := hn greatest hgreatest
      by_cases hsame : n < greatest + 1
      · -- The code point was noted before.
        obtain rfl : n = greatest := by omega
        have hiff : ∀ m, m ∈ noted ++ [n] ↔ m ∈ noted := by
          intro m
          rw [mem_concat]
          exact or_iff_left_of_imp (fun hm => hm ▸ hgreatest)
        rw [Folding.noteCode, if_pos hsame]
        exact ⟨h.descending, fun m => (h.odd m).trans (hiff m).symm, fun _ _ => last_concat hn⟩
      · have hnew : n ∉ noted := by
          intro hmem
          have hmax := hle n hmem
          omega
        have hpast : ∀ b ∈ rest, b < n := by
          intro b hb
          have hbound := hrest b hb
          omega
        by_cases hnext : n = greatest + 1
        · rw [Folding.noteCode, if_neg hsame, if_pos hnext]
          rw [← hnext] at h
          refine ⟨List.pairwise_cons.mpr ⟨?_, hdescending⟩, h.odd.extend hnew,
            fun _ _ => last_concat hn⟩
          intro b hb
          have hlt := hpast b hb
          omega
        · rw [Folding.noteCode, if_neg hsame, if_neg hnext]
          have hall : ∀ b ∈ (greatest + 1) :: rest, b < n := by
            intro b hb
            rcases List.mem_cons.mp hb with rfl | hb
            · omega
            · exact hpast b hb
          refine ⟨?_, h.odd.append hnew, fun _ _ => last_concat hn⟩
          refine List.pairwise_cons.mpr ⟨?_, List.pairwise_cons.mpr ⟨hall, h.descending⟩⟩
          intro b hb
          rcases List.mem_cons.mp hb with rfl | hb
          · exact Nat.lt_succ_self _
          · exact Nat.lt_succ_of_lt (hall b hb)

end

theorem notes_foldl (codes : List Nat) (h : codes.Pairwise (· ≤ ·)) :
    Notes codes (codes.foldl noteCode []) := by
  induction codes using List.reverseRecOn with
  | nil => exact notes_nil
  | append_singleton codes n ih =>
      obtain ⟨hcodes, -, hle⟩ := List.pairwise_append.mp h
      rw [List.foldl_append, List.foldl_cons, List.foldl_nil]
      exact (ih hcodes).noteCode (fun m hm => hle m hm n (by simp))

theorem notes_setOfCodes (codes : List Nat) :
    Notes codes.mergeSort (setOfCodes codes).bounds.reverse := by
  rw [setOfCodes_eq, List.reverse_reverse]
  have hsorted : codes.mergeSort.Pairwise fun a b => decide (a ≤ b) = true := by
    refine List.pairwise_mergeSort ?_ ?_ codes
    · intro a b c hab hbc
      rw [decide_eq_true_eq] at hab hbc ⊢
      exact Nat.le_trans hab hbc
    · intro a b
      rw [Bool.or_eq_true, decide_eq_true_eq, decide_eq_true_eq]
      exact Nat.le_total a b
  exact notes_foldl _ (hsorted.imp of_decide_eq_true)

theorem ordered_setOfCodes (codes : List Nat) : (setOfCodes codes).Ordered :=
  List.pairwise_reverse.mp (notes_setOfCodes codes).descending

/-- The set of a list holds what is in the list. -/
theorem containsCode_setOfCodes {codes : List Nat} {n : Nat} :
    (setOfCodes codes).containsCode n = true ↔ n ∈ codes := by
  rw [CharSet.containsCode_iff_odd (ordered_setOfCodes codes), ← List.countP_reverse,
    (notes_setOfCodes codes).odd n, List.mem_mergeSort]

/-! ### The table as a function -/

/-- What a code point outside its fold goes to. -/
def image? (n : Nat) : Option Nat := runs.findSome? (·.image? n)

/-- What a code point folds to. -/
def foldCode (n : Nat) : Nat := (image? n).getD n

theorem Run.image?_eq_some_iff {r : Run} (h : r.isPlaced = true) {n m : Nat} :
    r.image? n = some m ↔
      ∃ i < r.count, n = r.first + i * r.stride ∧ m = r.target + i * r.stride := by
  have hstride : 0 < r.stride := by
    unfold Run.isPlaced at h
    simp only [Bool.and_eq_true, decide_eq_true_eq] at h
    exact h.1.2
  unfold Run.image?
  constructor
  · intro himage
    split at himage
    · next hwithin =>
        simp only [Bool.and_eq_true, decide_eq_true_eq, beq_iff_eq] at hwithin
        obtain ⟨⟨hlow, hhigh⟩, hmod⟩ := hwithin
        have hdiv : (n - r.first) / r.stride * r.stride = n - r.first :=
          Nat.div_mul_cancel (Nat.dvd_of_mod_eq_zero hmod)
        refine ⟨(n - r.first) / r.stride, ?_, ?_, ?_⟩
        · rw [Nat.div_lt_iff_lt_mul hstride]
          omega
        · omega
        · have hm := Option.some.inj himage
          omega
    · exact absurd himage (by simp)
  · rintro ⟨i, hi, rfl, rfl⟩
    have hlt : i * r.stride < r.count * r.stride := Nat.mul_lt_mul_of_pos_right hi hstride
    have hsub : r.first + i * r.stride - r.first = i * r.stride :=
      Nat.add_sub_cancel_left _ _
    have hwithin : (r.first ≤ r.first + i * r.stride &&
        r.first + i * r.stride < r.first + r.count * r.stride &&
        (r.first + i * r.stride - r.first) % r.stride == 0) = true := by
      rw [hsub, Nat.mul_mod_left]
      simpa using hlt
    rw [if_pos hwithin, hsub]

theorem isPlaced_of_mem {r : Run} (hr : r ∈ runs) : r.isPlaced = true :=
  List.all_eq_true.mp isTable_runs.placed r hr

theorem bounds_of_image? {r : Run} {n m : Nat} (h : r.image? n = some m) :
    r.first ≤ n ∧ n < r.sourceEnd := by
  unfold Run.image? at h
  split at h
  · next hwithin =>
      simp only [Bool.and_eq_true, decide_eq_true_eq] at hwithin
      exact hwithin.1
  · exact absurd h (by simp)

/-- The runs stand one after the other. -/
theorem pairwise_runs : runs.Pairwise fun r r' => r.sourceEnd ≤ r'.first := by
  have htrans : IsTrans Run fun r r' => r.sourceEnd ≤ r'.first := ⟨by
    intro a b c hab hbc
    have hb : b.first ≤ b.sourceEnd := Nat.le_add_right _ _
    omega⟩
  exact List.isChain_iff_pairwise.mp isTable_runs.ascending

/-- Of runs that stand one after the other one at most has a code point. -/
theorem findSome?_image?_of_mem {table : List Run}
    (htable : table.Pairwise fun r r' => r.sourceEnd ≤ r'.first) {r : Run} (hr : r ∈ table)
    {n m : Nat} (h : r.image? n = some m) : table.findSome? (·.image? n) = some m := by
  induction table with
  | nil => exact absurd hr (by simp)
  | cons first rest ih =>
      obtain ⟨hfirst, hrest⟩ := List.pairwise_cons.mp htable
      rw [List.findSome?_cons]
      rcases List.mem_cons.mp hr with rfl | hr
      · rw [h]
      · -- A code point in a later run is past the first one.
        have hnone : first.image? n = none := by
          cases hother : first.image? n with
          | none => rfl
          | some k =>
              have hpast := hfirst r hr
              have hhere := (bounds_of_image? h).1
              have hthere := (bounds_of_image? hother).2
              omega
        rw [hnone]
        exact ih hrest hr

/-- What one run says, all of them together say. -/
theorem image?_eq_some_iff {n m : Nat} :
    image? n = some m ↔ ∃ r ∈ runs, r.image? n = some m := by
  constructor
  · intro h
    exact List.exists_of_findSome?_eq_some h
  · intro h
    obtain ⟨r, hr, himage⟩ := h
    exact findSome?_image?_of_mem pairwise_runs hr himage

/-- **What a code point folds to folds to itself.** -/
theorem image?_of_image? {n m : Nat} (h : image? n = some m) : image? m = none := by
  cases hagain : image? m with
  | none => rfl
  | some k =>
      exfalso
      obtain ⟨r, hr, himage⟩ := image?_eq_some_iff.mp h
      obtain ⟨r', hr', himage'⟩ := image?_eq_some_iff.mp hagain
      obtain ⟨i, hi, -, rfl⟩ := (Run.image?_eq_some_iff (isPlaced_of_mem hr)).mp himage
      have hplaced := isPlaced_of_mem hr
      unfold Run.isPlaced at hplaced
      simp only [Bool.and_eq_true, decide_eq_true_eq] at hplaced
      have hlt : i * r.stride < r.count * r.stride :=
        Nat.mul_lt_mul_of_pos_right hi hplaced.1.2
      have hapart : r.isApart r' = true :=
        List.all_eq_true.mp (List.all_eq_true.mp isTable_runs.apart r hr) r' hr'
      have hbounds := bounds_of_image? himage'
      unfold Run.isApart Run.targetEnd at hapart
      simp only [Bool.or_eq_true, Nat.ble_eq, List.all_eq_true, List.mem_range] at hapart
      rcases hapart with (hbefore | hafter) | hnone
      · omega
      · omega
      · have hno := hnone i hi
        rw [himage'] at hno
        exact absurd hno (by simp)

theorem capitals_first : ∃ rest, runs = capitals :: rest ∧ ∀ r ∈ rest, 128 ≤ r.first := by
  have hcapitals := isTable_runs.capitals
  cases hruns : runs with
  | nil =>
      rw [hruns] at hcapitals
      exact absurd hcapitals (by simp [startsWithCapitals])
  | cons r rest =>
      rw [hruns] at hcapitals
      obtain ⟨first, count, stride, target⟩ := r
      simp only [startsWithCapitals, Bool.and_eq_true, beq_iff_eq, List.all_eq_true,
        decide_eq_true_eq] at hcapitals
      obtain ⟨⟨⟨⟨rfl, rfl⟩, rfl⟩, rfl⟩, hbeyond⟩ := hcapitals
      exact ⟨rest, rfl, hbeyond⟩

/-- The pairs of the table say what code points fold to. -/
theorem mem_pairs_iff {n m : Nat} : (n, m) ∈ pairs ↔ image? n = some m := by
  obtain ⟨rest, hruns, -⟩ := capitals_first
  have hcapitals : capitals ∈ runs := by
    rw [hruns]
    exact List.mem_cons_self
  rw [image?_eq_some_iff]
  unfold pairs
  rw [List.mem_append, List.mem_map, List.mem_flatMap]
  constructor
  · rintro (⟨i, hi, hpair⟩ | ⟨r, hr, hmem⟩)
    · obtain ⟨rfl, rfl⟩ := Prod.mk.inj hpair
      refine ⟨capitals, hcapitals, (Run.image?_eq_some_iff (isPlaced_of_mem hcapitals)).mpr ?_⟩
      exact ⟨i, List.mem_range.mp hi, by simp [capitals], by simp [capitals]⟩
    · obtain ⟨i, hi, hpair⟩ := List.mem_map.mp hmem
      obtain ⟨rfl, rfl⟩ := Prod.mk.inj hpair
      exact ⟨r, hr, (Run.image?_eq_some_iff (isPlaced_of_mem hr)).mpr
        ⟨i, List.mem_range.mp hi, rfl, rfl⟩⟩
  · rintro ⟨r, hr, himage⟩
    obtain ⟨i, hi, rfl, rfl⟩ := (Run.image?_eq_some_iff (isPlaced_of_mem hr)).mp himage
    exact Or.inr ⟨r, hr, List.mem_map.mpr ⟨i, List.mem_range.mpr hi, rfl⟩⟩

theorem foldCode_of_image? {n m : Nat} (h : image? n = some m) : foldCode n = m := by
  rw [foldCode, h, Option.getD_some]

theorem foldCode_of_none {n : Nat} (h : image? n = none) : foldCode n = n := by
  rw [foldCode, h, Option.getD_none]

/-- Within ASCII the table has the capitals and nothing else. -/
theorem image?_ascii {n : Nat} (h : n < 128) :
    image? n = if 65 ≤ n ∧ n ≤ 90 then some (n + 32) else none := by
  obtain ⟨rest, hruns, hbeyond⟩ := capitals_first
  have hrest : rest.findSome? (·.image? n) = none := by
    rw [List.findSome?_eq_none_iff]
    intro r hr
    cases himage : r.image? n with
    | none => rfl
    | some m =>
        have hpast := hbeyond r hr
        have hhere := (bounds_of_image? himage).1
        omega
  have hcapitals : capitals.image? n = if 65 ≤ n ∧ n ≤ 90 then some (n + 32) else none := by
    show (if (65 ≤ n && n < 91 && (n - 65) % 1 == 0) = true then some (97 + (n - 65)) else none) = _
    rw [Nat.mod_one]
    by_cases hcapital : 65 ≤ n ∧ n ≤ 90
    · have hwithin : (65 ≤ n && n < 91 && (0 : Nat) == 0) = true := by
        simp only [Bool.and_eq_true, decide_eq_true_eq, beq_self_eq_true, and_true]
        omega
      rw [if_pos hcapital, if_pos hwithin, Option.some.injEq]
      omega
    · have hwithout : ¬ (65 ≤ n && n < 91 && (0 : Nat) == 0) = true := by
        simp only [Bool.and_eq_true, decide_eq_true_eq, beq_self_eq_true, and_true]
        omega
      rw [if_neg hcapital, if_neg hwithout]
  unfold image?
  rw [hruns, List.findSome?_cons, hcapitals, hrest]
  by_cases hcapital : 65 ≤ n ∧ n ≤ 90
  · rw [if_pos hcapital]
  · rw [if_neg hcapital]

/-- The table leads from characters to characters. -/
theorem isValidChar_of_image? {n m : Nat} (h : image? n = some m) : m.isValidChar := by
  obtain ⟨r, hr, himage⟩ := image?_eq_some_iff.mp h
  have hplaced := isPlaced_of_mem hr
  obtain ⟨i, hi, -, rfl⟩ := (Run.image?_eq_some_iff hplaced).mp himage
  unfold Run.isPlaced Run.targetEnd at hplaced
  simp only [Bool.and_eq_true, Bool.or_eq_true, decide_eq_true_eq] at hplaced
  have hlt : i * r.stride < r.count * r.stride :=
    Nat.mul_lt_mul_of_pos_right hi hplaced.1.2
  rcases hplaced.2 with hlow | hhigh
  · exact Or.inl (by omega)
  · exact Or.inr ⟨by omega, by omega⟩

/-- Folding a character is folding its code point. -/
theorem toNat_fold (c : Char) : (fold c).toNat = foldCode c.toNat := by
  unfold fold
  by_cases hascii : c.toNat < 128
  · have hall : ∀ n < 128, (Char.ofNat n).toLower.toNat
        = if 65 ≤ n ∧ n ≤ 90 then n + 32 else n := by decide
    have hlower := hall c.toNat hascii
    rw [Char.ofNat_toNat] at hlower
    rw [if_pos hascii, hlower, foldCode, image?_ascii hascii]
    split <;> rfl
  · rw [if_neg hascii]
    show (Char.ofNat (foldCode c.toNat)).toNat = foldCode c.toNat
    cases himage : image? c.toNat with
    | none => rw [foldCode_of_none himage, Char.ofNat_toNat]
    | some m =>
        rw [foldCode_of_image? himage]
        exact Utf8.toNat_ofNat_char (isValidChar_of_image? himage)

theorem fold_eq_iff {c d : Char} : fold c = fold d ↔ foldCode c.toNat = foldCode d.toNat := by
  rw [← toNat_fold, ← toNat_fold]
  exact ⟨fun h => by rw [h], fun h => Char.toNat_inj.mp h⟩

/-! ### The closure of a set -/

/-- The closure of a set has what is in it, what that folds to, and all that folds to either. -/
theorem containsCode_closure_iff_pairs {s : CharSet} (hs : s.Ordered) {n : Nat} :
    (closure s).containsCode n = true ↔
      (s.containsCode n = true ∨ ∃ m, s.containsCode m = true ∧ image? m = some n) ∨
      ∃ k, image? n = some k ∧
        (s.containsCode k = true ∨ ∃ m, s.containsCode m = true ∧ image? m = some k) := by
  have htargets : ∀ k, k ∈ (pairs.filter fun p => s.containsCode p.1).map (·.2) ↔
      ∃ m, s.containsCode m = true ∧ image? m = some k := by
    intro k
    rw [List.mem_map]
    constructor
    · rintro ⟨⟨m, k⟩, hpair, rfl⟩
      obtain ⟨hmem, hm⟩ := List.mem_filter.mp hpair
      exact ⟨m, hm, mem_pairs_iff.mp hmem⟩
    · rintro ⟨m, hm, himage⟩
      exact ⟨(m, k), List.mem_filter.mpr ⟨mem_pairs_iff.mpr himage, hm⟩, rfl⟩
  have hfolded : ∀ k, (s.union (setOfCodes ((pairs.filter fun p =>
      s.containsCode p.1).map (·.2)))).containsCode k = true ↔
        s.containsCode k = true ∨ ∃ m, s.containsCode m = true ∧ image? m = some k := by
    intro k
    rw [CharSet.containsCode_union hs (ordered_setOfCodes _), containsCode_setOfCodes, htargets]
  have hordered := CharSet.ordered_union hs (ordered_setOfCodes
    ((pairs.filter fun p => s.containsCode p.1).map (·.2)))
  unfold closure
  rw [CharSet.containsCode_union hordered (ordered_setOfCodes _), hfolded,
    containsCode_setOfCodes, List.mem_map]
  refine or_congr_right ?_
  constructor
  · rintro ⟨⟨n, k⟩, hpair, rfl⟩
    obtain ⟨hmem, hk⟩ := List.mem_filter.mp hpair
    exact ⟨k, mem_pairs_iff.mp hmem, (hfolded k).mp hk⟩
  · rintro ⟨k, himage, hk⟩
    exact ⟨(n, k), List.mem_filter.mpr ⟨mem_pairs_iff.mpr himage, (hfolded k).mpr hk⟩, rfl⟩

/-- **The closure of a set holds what folds as one of its members does.** -/
theorem containsCode_closure {s : CharSet} (hs : s.Ordered) {n : Nat} :
    (closure s).containsCode n = true ↔
      ∃ m, s.containsCode m = true ∧ foldCode m = foldCode n := by
  rw [containsCode_closure_iff_pairs hs]
  constructor
  · rintro ((hn | ⟨m, hm, himage⟩) | ⟨k, himage, hk | ⟨m, hm, hother⟩⟩)
    · exact ⟨n, hn, rfl⟩
    · exact ⟨m, hm, by
        rw [foldCode_of_image? himage, foldCode_of_none (image?_of_image? himage)]⟩
    · exact ⟨k, hk, by
        rw [foldCode_of_image? himage, foldCode_of_none (image?_of_image? himage)]⟩
    · exact ⟨m, hm, by rw [foldCode_of_image? himage, foldCode_of_image? hother]⟩
  · rintro ⟨m, hm, hfold⟩
    cases hn : image? n with
    | none =>
        rw [foldCode_of_none hn] at hfold
        cases hother : image? m with
        | none =>
            rw [foldCode_of_none hother] at hfold
            exact Or.inl (Or.inl (hfold ▸ hm))
        | some k =>
            rw [foldCode_of_image? hother] at hfold
            exact Or.inl (Or.inr ⟨m, hm, by rw [hother, hfold]⟩)
    | some k =>
        rw [foldCode_of_image? hn] at hfold
        refine Or.inr ⟨k, rfl, ?_⟩
        cases hother : image? m with
        | none =>
            rw [foldCode_of_none hother] at hfold
            exact Or.inl (hfold ▸ hm)
        | some k' =>
            rw [foldCode_of_image? hother] at hfold
            exact Or.inr ⟨m, hm, by rw [hother, hfold]⟩

/-- **The closure of a character holds the characters that fold as it does.** -/
theorem contains_closure_singleton (c d : Char) :
    (closure (.singleton c)).contains d = true ↔ fold d = fold c := by
  unfold CharSet.contains
  rw [containsCode_closure (CharSet.ordered_singleton c), fold_eq_iff]
  constructor
  · rintro ⟨m, hm, hfold⟩
    rw [← hfold, (CharSet.containsCode_singleton c).mp hm]
  · intro hfold
    exact ⟨c.toNat, (CharSet.containsCode_singleton c).mpr rfl, hfold.symm⟩

/-! ### The number of bounds -/

theorem length_pairs : pairs.length ≤ 1538 := by
  have hfew := isTable_runs.few
  rw [List.length_flatMap] at hfew
  unfold pairs
  rw [List.length_append, List.length_map, List.length_range, List.length_flatMap]
  simp only [List.length_map]
  omega

theorem length_noteCode (bounds : List Nat) (n : Nat) :
    (noteCode bounds n).length ≤ bounds.length + 2 := by
  unfold noteCode
  split
  · split
    · simp
    · split <;> simp
  · simp

theorem length_bounds_setOfCodes (codes : List Nat) :
    (setOfCodes codes).bounds.length ≤ 2 * codes.length := by
  have hfold : ∀ (codes bounds : List Nat),
      (codes.foldl noteCode bounds).length ≤ bounds.length + 2 * codes.length := by
    intro codes
    induction codes with
    | nil => intro bounds; simp
    | cons n codes ih =>
        intro bounds
        have hrest := ih (noteCode bounds n)
        have hnote := length_noteCode bounds n
        rw [List.foldl_cons, List.length_cons]
        omega
  have hsorted := hfold codes.mergeSort []
  rw [List.length_mergeSort] at hsorted
  rw [setOfCodes_eq, List.length_reverse]
  simpa using hsorted

/-- A closure has few bounds more than its set. -/
theorem length_bounds_closure (s : CharSet) :
    (closure s).bounds.length ≤ s.bounds.length + 4 * pairs.length := by
  have hcodes : ∀ (p : Nat × Nat → Bool) (f : Nat × Nat → Nat),
      (setOfCodes ((pairs.filter p).map f)).bounds.length ≤ 2 * pairs.length := by
    intro p f
    have hbounds := length_bounds_setOfCodes ((pairs.filter p).map f)
    have hfilter := List.length_filter_le p pairs
    rw [List.length_map] at hbounds
    omega
  unfold closure
  refine Nat.le_trans (CharSet.length_bounds_union _ _) ?_
  have hfolded := CharSet.length_bounds_union s
    (setOfCodes ((pairs.filter fun p => s.containsCode p.1).map (·.2)))
  have htargets := hcodes (fun p => s.containsCode p.1) (·.2)
  have hsources := hcodes (fun p => (s.union (setOfCodes ((pairs.filter fun p =>
    s.containsCode p.1).map (·.2)))).containsCode p.2) (·.1)
  omega

end Unicode.Folding
end AppBuild
