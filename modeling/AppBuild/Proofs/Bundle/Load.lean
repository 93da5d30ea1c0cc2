/-
Loads in a code, and the scanner that replaces them.

A load is a text of a fixed length, and one node for each of its characters says what may
stand there (`callNodes`).  Such nodes are straight, so whether they match at a place is
whether the text there starts with characters that they admit (`strip?`), and a text that
they admit has the shape that one expects (`IsLoad`): the word, a parenthesis, a quote, the
specifier, a quote, a parenthesis, letters being compared by what they fold to.  No
other character folds to a parenthesis, so these stand for themselves.

Replacing all matches is then a plain walk over the text (`route`): where a load stands,
what replaces it is put out and the load passed over, and anywhere else one character is
taken over.  The walk is defined for several specifiers at once, the first to have a
load at a place being the one that counts; for one of them it is what its nodes do
(`replaceAll_callNodes`).
-/
import AppBuild.Bundle.Redirect
import AppBuild.Proofs.Pattern.Straight
import AppBuild.Proofs.Unicode.Folding

namespace AppBuild

/-! ### Nodes that stand for one character -/

namespace Pattern

/-- Does the node stand for one character? -/
def Node.IsSingle : Node → Prop
  | .set _ => True
  | .caseless _ => True
  | _ => False

/-- Does a node that stands for one character stand for this one? -/
def Node.admits : Node → Char → Bool
  | .set s, c => s.contains c
  | .caseless d, c => Unicode.Folding.fold c == Unicode.Folding.fold d
  | _, _ => false

/-- What is left of a text that starts with one character for each of the nodes. -/
def strip? : List Node → List Char → Option (List Char)
  | [], text => some text
  | _ :: _, [] => none
  | n :: ns, c :: cs => if n.admits c then strip? ns cs else none

theorem strip?_cons_eq_some_iff {n : Node} {ns : List Node} {cs rest : List Char} :
    strip? (n :: ns) cs = some rest ↔
      ∃ c cs', cs = c :: cs' ∧ n.admits c = true ∧ strip? ns cs' = some rest := by
  cases cs with
  | nil => simp [strip?]
  | cons c cs =>
      rw [strip?]
      constructor
      · intro h
        split at h
        · next hadmits => exact ⟨c, cs, rfl, hadmits, h⟩
        · exact absurd h (by simp)
      · rintro ⟨d, ds, hcons, hadmits, h⟩
        obtain ⟨rfl, rfl⟩ := List.cons.inj hcons
        rw [if_pos hadmits, h]

theorem strip?_append (ns ms : List Node) (text : List Char) :
    strip? (ns ++ ms) text = (strip? ns text).bind (strip? ms) := by
  induction ns generalizing text with
  | nil => rfl
  | cons n ns ih =>
      cases text with
      | nil => rfl
      | cons c cs =>
          rw [List.cons_append, strip?, strip?]
          split
          · exact ih cs
          · rfl

/-- The characters that are taken away are as many as there are nodes. -/
theorem drop_of_strip? {ns : List Node} {text rest : List Char}
    (h : strip? ns text = some rest) : text.drop ns.length = rest := by
  induction ns generalizing text with
  | nil => exact Option.some.inj h
  | cons n ns ih =>
      cases text with
      | nil => exact absurd h (by simp [strip?])
      | cons c cs =>
          rw [strip?] at h
          split at h
          · exact ih h
          · exact absurd h (by simp)

variable {ns : List Node}

theorem Node.IsSingle.isStraight {n : Node} (h : n.IsSingle) : n.IsStraight := by
  cases n with
  | set s => trivial
  | caseless c => trivial
  | _ => exact h.elim

theorem Thread.pass_single {n : Node} (h : n.IsSingle) (t : Thread) :
    t.pass n = t.eatIf n.admits := by
  cases n with
  | set s => rfl
  | caseless c => rfl
  | _ => exact h.elim

/-- Passing the nodes is taking their characters away. -/
theorem Thread.pos_passAll_single (h : ∀ n ∈ ns, n.IsSingle) (t : Thread) :
    (t.passAll ns).map (·.pos) = (strip? ns t.rest).map fun _ => t.pos + ns.length := by
  induction ns generalizing t with
  | nil => rfl
  | cons n ns ih =>
      have hns : ∀ m ∈ ns, m.IsSingle := fun m hm => h m (by simp [hm])
      rw [passAll, pass_single (h n (by simp)), eatIf]
      cases hrest : t.rest with
      | nil => rfl
      | cons c rest =>
          rw [strip?]
          by_cases hadmits : n.admits c = true
          · simp only [hadmits, if_true, Option.bind_some]
            rw [ih hns, List.length_cons, Nat.add_assoc, Nat.add_comm 1]
          · rw [if_neg hadmits]
            simp only [hadmits]
            rfl

/-- A match at a place is as long as there are nodes. -/
theorem pos_matchAt_single (h : ∀ n ∈ ns, n.IsSingle) {budget : Nat}
    (hbudget : 2 * ns.length + 2 ≤ budget) (seen : Seen) (before : Option Char)
    (rest : List Char) :
    ((Node.sequence ns).matchAt budget seen before rest 0).1.map (·.pos) =
      (strip? ns rest).map fun _ => ns.length := by
  rw [matchAt_straight (fun n hn => (h n hn).isStraight) hbudget, Option.map_map]
  have hpass := Thread.pos_passAll_single h ⟨[], before, rest, 0, []⟩
  rw [Nat.zero_add] at hpass
  exact hpass

theorem strip?_eq_none_of_passFrom (h : ∀ n ∈ ns, n.IsSingle) (before : Option Char)
    (rest : List Char) (pos : Nat) :
    passFrom ns before rest pos = none ↔ strip? ns rest = none := by
  have hpass := Thread.pos_passAll_single h ⟨[], before, rest, pos, []⟩
  rw [← Option.map_eq_none_iff (f := fun _ : List Char => pos + ns.length), ← hpass,
    Option.map_eq_none_iff]
  rfl

/-- There is no match exactly if the nodes take their characters away nowhere. -/
theorem find?_single_eq_none_iff (h : ∀ n ∈ ns, n.IsSingle) (text : List Char) :
    (Node.sequence ns).find? text = none ↔
      ∀ passed ahead, text = passed ++ ahead → strip? ns ahead = none := by
  unfold Node.find?
  rw [findFrom_eq_none_iff (fun n hn => (h n hn).isStraight) (le_budget_straight _ _)]
  simp only [strip?_eq_none_of_passFrom h]

end Pattern

namespace Redirect

open Pattern Unicode.Folding

/-! ### The shape of a load -/

/-- The texts differ at most in the case of their letters. -/
def SameButCase (cs ds : List Char) : Prop := cs.map fold = ds.map fold

instance (cs ds : List Char) : Decidable (SameButCase cs ds) :=
  inferInstanceAs (Decidable (_ = _))

/-- The word that loads. -/
def loadWord : List Char := "require".toList

def IsQuote (c : Char) : Prop := c = '\'' ∨ c = '"'

/-- The text is a load of the specifier: the word and, between parentheses, the specifier between
quotes.  The quotes need not be the same. -/
def IsLoad (specifier : String) (load : List Char) : Prop :=
  ∃ word opening inside closing,
    load = word ++ '(' :: opening :: (inside ++ [closing, ')']) ∧
    SameButCase word loadWord ∧ IsQuote opening ∧ IsQuote closing ∧
    SameButCase inside specifier.toList

/-- The two styles of quotes. -/
def quotes : CharSet := .ofList ['\'', '"']

/-- A text in any case of its letters. -/
def anyCase (text : String) : List Node := text.toList.map .caseless

/-- What may stand at each place of a load. -/
def callNodes (specifier : String) : List Node :=
  anyCase "require(" ++ [.set quotes] ++ anyCase specifier ++ [.set quotes] ++ anyCase ")"

theorem isSingle_callNodes (specifier : String) : ∀ n ∈ callNodes specifier, n.IsSingle := by
  have hany : ∀ text, ∀ n ∈ anyCase text, n.IsSingle := by
    intro text n hn
    obtain ⟨c, -, rfl⟩ := List.mem_map.mp hn
    trivial
  have hquote : ∀ n ∈ [Node.set quotes], n.IsSingle := by
    intro n hn
    rw [List.mem_singleton.mp hn]
    trivial
  unfold callNodes
  intro n hn
  simp only [List.mem_append] at hn
  rcases hn with (((hn | hn) | hn) | hn) | hn
  · exact hany _ n hn
  · exact hquote n hn
  · exact hany _ n hn
  · exact hquote n hn
  · exact hany _ n hn

theorem callNodes_ne_nil (specifier : String) : callNodes specifier ≠ [] := by
  simp [callNodes]

theorem contains_quotes_iff (c : Char) : quotes.contains c = true ↔ IsQuote c := by
  have hbounds : quotes.bounds = [34, 35, 39, 40] := by decide
  have hcode : ∀ d : Char, c = d ↔ c.toNat = d.toNat := fun d => Char.ext_iff.trans (by
    rw [← UInt32.toNat_inj]
    rfl)
  unfold CharSet.contains CharSet.containsCode IsQuote
  rw [hbounds, hcode, hcode]
  show CharSet.inside false [34, 35, 39, 40] c.toNat = true ↔ c.toNat = 39 ∨ c.toNat = 34
  simp only [CharSet.inside]
  grind

theorem strip?_anyCase {text : String} {cs rest : List Char} :
    strip? (anyCase text) cs = some rest ↔
      ∃ start, SameButCase start text.toList ∧ cs = start ++ rest := by
  unfold anyCase SameButCase
  induction text.toList generalizing cs with
  | nil =>
      rw [List.map_nil, strip?, Option.some.injEq]
      simp
  | cons d ds ih =>
      rw [List.map_cons, strip?_cons_eq_some_iff]
      constructor
      · rintro ⟨c, cs', rfl, hadmits, hrest⟩
        obtain ⟨start, hstart, rfl⟩ := ih.mp hrest
        have hfold : fold c = fold d := by simpa [Node.admits] using hadmits
        exact ⟨c :: start, by rw [List.map_cons, List.map_cons, hfold, hstart], rfl⟩
      · rintro ⟨start, hstart, rfl⟩
        cases start with
        | nil => exact absurd hstart (by simp)
        | cons c start =>
            rw [List.map_cons, List.map_cons] at hstart
            obtain ⟨hfold, htail⟩ := List.cons.inj hstart
            exact ⟨c, start ++ rest, rfl, by simp [Node.admits, hfold], ih.mpr ⟨start, htail, rfl⟩⟩

theorem strip?_quote {cs rest : List Char} :
    strip? [.set quotes] cs = some rest ↔ ∃ quote, IsQuote quote ∧ cs = quote :: rest := by
  rw [strip?_cons_eq_some_iff]
  constructor
  · rintro ⟨c, cs', rfl, hadmits, hrest⟩
    exact ⟨c, (contains_quotes_iff c).mp hadmits, by rw [Option.some.inj hrest]⟩
  · rintro ⟨quote, hquote, rfl⟩
    exact ⟨quote, rest, rfl, (contains_quotes_iff quote).mpr hquote, rfl⟩

/-- Only the character itself differs from a parenthesis at most in case. -/
theorem sameButCase_singleton {cs : List Char} {d : Char} (h : d = '(' ∨ d = ')') :
    SameButCase cs [d] ↔ cs = [d] := by
  have hd : 0 < d.toNat ∧ d.toNat < 65 ∧ fold d = d := by
    rcases h with rfl | rfl <;> decide
  constructor
  · intro hsame
    obtain ⟨c, rfl, hc⟩ := List.map_eq_singleton_iff.mp hsame
    rw [eq_of_fold_eq hd.1 hd.2.1 (hc.trans hd.2.2)]
  · rintro rfl
    rfl

theorem strip?_word_open {cs rest : List Char} :
    strip? (anyCase "require(") cs = some rest ↔
      ∃ word, SameButCase word loadWord ∧ cs = word ++ '(' :: rest := by
  have hsplit : anyCase "require(" = anyCase "require" ++ anyCase "(" := by decide
  rw [hsplit, strip?_append, Option.bind_eq_some_iff]
  constructor
  · rintro ⟨more, hword, hopen⟩
    obtain ⟨word, hsame, rfl⟩ := strip?_anyCase.mp hword
    obtain ⟨start, hstart, rfl⟩ := strip?_anyCase.mp hopen
    rw [(sameButCase_singleton (.inl rfl)).mp hstart]
    exact ⟨word, hsame, rfl⟩
  · rintro ⟨word, hsame, rfl⟩
    exact ⟨'(' :: rest, strip?_anyCase.mpr ⟨word, hsame, rfl⟩,
      strip?_anyCase.mpr ⟨['('], (sameButCase_singleton (.inl rfl)).mpr rfl, rfl⟩⟩

/-- The load of a specifier that a text starts with is taken away. -/
def dropLoad? (specifier : String) (text : List Char) : Option (List Char) :=
  strip? (callNodes specifier) text

/-- **A load is what the nodes of the call stand for.** -/
theorem dropLoad?_eq_some_iff {specifier : String} {text rest : List Char} :
    dropLoad? specifier text = some rest ↔
      ∃ load, IsLoad specifier load ∧ text = load ++ rest := by
  unfold dropLoad? callNodes
  simp only [strip?_append, Option.bind_assoc, Option.bind_eq_some_iff]
  constructor
  · rintro ⟨r₁, h₁, r₂, h₂, r₃, h₃, r₄, h₄, h₅⟩
    obtain ⟨word, hword, rfl⟩ := strip?_word_open.mp h₁
    obtain ⟨opening, hopening, rfl⟩ := strip?_quote.mp h₂
    obtain ⟨inside, hinside, rfl⟩ := strip?_anyCase.mp h₃
    obtain ⟨closing, hclosing, rfl⟩ := strip?_quote.mp h₄
    obtain ⟨last, hlast, rfl⟩ := strip?_anyCase.mp h₅
    rw [(sameButCase_singleton (.inr rfl)).mp hlast]
    exact ⟨_, ⟨word, opening, inside, closing, rfl, hword, hopening, hclosing, hinside⟩, by simp⟩
  · rintro ⟨_, ⟨word, opening, inside, closing, rfl, hword, hopening, hclosing, hinside⟩, rfl⟩
    refine ⟨_, strip?_word_open.mpr ⟨word, hword, ?_⟩, _, strip?_quote.mpr ⟨opening, hopening, rfl⟩,
      _, strip?_anyCase.mpr ⟨inside, hinside, rfl⟩, _, strip?_quote.mpr ⟨closing, hclosing, rfl⟩,
      strip?_anyCase.mpr ⟨[')'], (sameButCase_singleton (.inr rfl)).mpr rfl, rfl⟩⟩
    simp

/-- The nodes match nowhere in a text exactly if it has no load of the specifier in it. -/
theorem find?_callNodes_eq_none_iff {specifier : String} {text : List Char} :
    (Node.sequence (callNodes specifier)).find? text = none ↔
      ∀ load, IsLoad specifier load → ¬ load <:+: text := by
  rw [find?_single_eq_none_iff (isSingle_callNodes specifier)]
  constructor
  · rintro hnone load hload ⟨passed, rest, hsplit⟩
    have hsome : dropLoad? specifier (load ++ rest) = some rest :=
      dropLoad?_eq_some_iff.mpr ⟨load, hload, rfl⟩
    have hnothing : dropLoad? specifier (load ++ rest) = none :=
      hnone passed (load ++ rest) (by rw [← hsplit, List.append_assoc])
    rw [hnothing] at hsome
    exact absurd hsome (by simp)
  · intro hnot passed ahead hsplit
    cases hdrop : strip? (callNodes specifier) ahead with
    | none => rfl
    | some rest =>
        obtain ⟨load, hload, rfl⟩ := dropLoad?_eq_some_iff.mp hdrop
        exact absurd ⟨passed, rest, by rw [hsplit, List.append_assoc]⟩ (hnot load hload)

/-! ### The scanner -/

/-- The first of the specifiers of which a text starts with a load, and the text after it. -/
def firstLoad? (specifiers : List String) (text : List Char) : Option (String × List Char) :=
  specifiers.findSome? fun specifier => (dropLoad? specifier text).map (specifier, ·)

theorem IsLoad.ne_nil {specifier : String} {load : List Char} (h : IsLoad specifier load) :
    load ≠ [] := by
  obtain ⟨word, opening, inside, closing, rfl, -⟩ := h
  simp

theorem exists_of_firstLoad? {specifiers : List String} {text rest : List Char}
    {specifier : String} (h : firstLoad? specifiers text = some (specifier, rest)) :
    specifier ∈ specifiers ∧ dropLoad? specifier text = some rest := by
  obtain ⟨other, hmem, hmap⟩ := List.exists_of_findSome?_eq_some h
  obtain ⟨rest', hdrop, hpair⟩ := Option.map_eq_some_iff.mp hmap
  obtain ⟨rfl, rfl⟩ := Prod.mk.inj hpair
  exact ⟨hmem, hdrop⟩

theorem length_lt_of_firstLoad? {specifiers : List String} {text rest : List Char}
    {specifier : String} (h : firstLoad? specifiers text = some (specifier, rest)) :
    rest.length < text.length := by
  obtain ⟨load, hload, rfl⟩ := dropLoad?_eq_some_iff.mp (exists_of_firstLoad? h).2
  have hpos := List.length_pos_iff.mpr hload.ne_nil
  rw [List.length_append]
  omega

/-- The text gone over once: where a load of one of the specifiers stands, what replaces it is put out
and the load is passed over; anywhere else one character is taken over. -/
def route (specifiers : List String) : List Char → List Char
  | [] => []
  | c :: rest =>
    match h : firstLoad? specifiers (c :: rest) with
    | some (specifier, after) =>
      have := length_lt_of_firstLoad? h
      (replacementFor specifier).toList ++ route specifiers after
    | none => c :: route specifiers rest
  termination_by text => text.length
  decreasing_by
    · exact this
    · exact Nat.lt_succ_self _

section

variable {specifiers : List String}

theorem route_nil : route specifiers [] = [] := by
  rw [route]

theorem route_load {text rest : List Char} {specifier : String}
    (h : firstLoad? specifiers text = some (specifier, rest)) :
    route specifiers text =
      (replacementFor specifier).toList ++ route specifiers rest := by
  cases text with
  | nil => exact absurd (length_lt_of_firstLoad? h) (by simp)
  | cons c cs =>
      rw [route]
      split
      · next specifier' rest' h' =>
          rw [h'] at h
          obtain ⟨rfl, rfl⟩ := Prod.mk.inj (Option.some.inj h)
          rfl
      · next h' =>
          rw [h'] at h
          exact absurd h (by simp)

theorem route_none {c : Char} {rest : List Char} (h : firstLoad? specifiers (c :: rest) = none) :
    route specifiers (c :: rest) = c :: route specifiers rest := by
  rw [route]
  split
  · next h' =>
      rw [h'] at h
      exact absurd h (by simp)
  · rfl

end

/-! ### Replacing is scanning -/

theorem firstLoad?_singleton (specifier : String) (text : List Char) :
    firstLoad? [specifier] text = (dropLoad? specifier text).map (specifier, ·) := by
  unfold firstLoad?
  rw [List.findSome?_singleton]

theorem replaceFrom_eq_route (specifier : String) {budget : Nat}
    (hbudget : 2 * (callNodes specifier).length + 2 ≤ budget) (skip : Nat) (after : Bool)
    (before : Option Char) (text : List Char) :
    (Node.sequence (callNodes specifier)).replaceFrom budget (replacementFor specifier).toList
        skip after before text =
      route [specifier] (text.drop skip) := by
  have hmatch : ∀ before rest,
      ((Node.sequence (callNodes specifier)).matchAt budget ∅ before rest 0).1.map (·.pos) =
        (dropLoad? specifier rest).map fun _ => (callNodes specifier).length :=
    pos_matchAt_single (isSingle_callNodes specifier) hbudget ∅
  induction text generalizing skip after before with
  | nil =>
      have hnone : ((Node.sequence (callNodes specifier)).matchAt budget ∅ before [] 0).1 = none :=
        Option.map_eq_none_iff.mp ((hmatch before []).trans rfl)
      rw [List.drop_nil, route_nil, Node.replaceFrom, hnone]
      simp
  | cons c rest ih =>
      cases skip with
      | succ skip =>
          rw [Node.replaceFrom, ih, List.drop_succ_cons]
      | zero =>
          have hhere := hmatch before (c :: rest)
          rw [List.drop_zero, Node.replaceFrom]
          cases hdrop : dropLoad? specifier (c :: rest) with
          | none =>
              rw [hdrop] at hhere
              rw [Option.map_eq_none_iff.mp hhere, route_none (by rw [firstLoad?_singleton, hdrop]; rfl),
                ih, List.drop_zero]
          | some left =>
              rw [hdrop, Option.map_some, Option.map_eq_some_iff] at hhere
              obtain ⟨t, ht, hpos⟩ := hhere
              obtain ⟨length, hlength⟩ : ∃ length, (callNodes specifier).length = length + 1 :=
                Nat.exists_eq_succ_of_ne_zero fun hzero =>
                  callNodes_ne_nil specifier (List.length_eq_zero_iff.mp hzero)
              rw [hlength] at hpos
              rw [ht, route_load (by rw [firstLoad?_singleton, hdrop]; rfl)]
              simp only [hpos]
              rw [ih, ← drop_of_strip? hdrop, hlength, List.drop_succ_cons]

/-- **Replacing the matches of the nodes replaces the loads that a scanner meets.** -/
theorem replaceAll_callNodes (specifier : String) (text : List Char) :
    (Node.sequence (callNodes specifier)).replaceAll (replacementFor specifier).toList text =
      route [specifier] text := by
  have hroute := replaceFrom_eq_route specifier
    (le_budget_straight (callNodes specifier) text.length) 0 false none text
  rwa [List.drop_zero] at hroute

end Redirect
end AppBuild
