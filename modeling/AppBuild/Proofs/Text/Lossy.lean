/-
How bytes that need not be text are read part by part.

An ASCII byte continues no character.  Whatever comes before it, well formed or not, is
over there, and the decoder starts anew (`scan_append_ascii`).  So a slash cuts bytes
where it cuts their text (`decodeLossy_append_slash`).  Nor can a slash come out of
bytes that have none: every character of more than one byte lies above ASCII, as the
bounds on second bytes leave no long forms.  So it is with all ASCII bytes
(`mem_decodeLossy_iff`).

Together they say that the text of a path has the texts of the parts of the path
between its slashes, even where these parts are no text.

Bytes that are a text (`IsText`) lose nothing in being read.
-/
import AppBuild.Path.Basic
import AppBuild.Proofs.Text.Search
import AppBuild.Proofs.Text.Utf8

namespace AppBuild.Utf8

/-- In the midst of a character no ASCII byte is waited for, and the character will be none of
ASCII. -/
def State.AboveAscii : State → Prop
  | .start => True
  | .within bits more least _ =>
    0x80 ≤ least ∧ (2 ≤ bits ∨ more ≠ 0 ∧ 2 ≤ bits * 64 + (least - 0x80))

theorem aboveAscii_start : State.start.AboveAscii := trivial

/-! ### One byte -/

section

variable {bits more least most b : Nat}

/-- A byte that was waited for goes on with the character. -/
theorem step_expected (h : least ≤ b ∧ b ≤ most) :
    step (.within bits more least most) b =
      match more with
      | 0 => ([some (Char.ofNat (bits * 64 + (b - 0x80)))], .start)
      | more + 1 => ([], .within (bits * 64 + (b - 0x80)) more 0x80 0xBF) := by
  cases more with
  | zero => exact if_pos h
  | succ more => exact if_pos h

/-- Any other ends it, ill formed, and is the first of the next. -/
theorem step_unexpected (h : ¬ (least ≤ b ∧ b ≤ most)) :
    step (.within bits more least most) b = (none :: (first b).1, (first b).2) := by
  simp only [step, if_neg h]

end

theorem aboveAscii_first (b : Nat) : (first b).2.AboveAscii := by
  unfold first
  repeat' split
  all_goals simp only [State.AboveAscii]
  all_goals omega

theorem aboveAscii_step {s : State} (hs : s.AboveAscii) (b : Nat) :
    (step s b).2.AboveAscii := by
  cases s with
  | start => exact aboveAscii_first b
  | within bits more least most =>
      obtain ⟨hleast, hbits⟩ := hs
      by_cases hin : least ≤ b ∧ b ≤ most
      · rw [step_expected hin]
        cases more with
        | zero => trivial
        | succ more =>
            have hmore : 2 ≤ bits * 64 + (b - 0x80) := by omega
            exact ⟨Nat.le_refl _, .inl hmore⟩
      · rw [step_unexpected hin]
        exact aboveAscii_first b

/-- A byte of ASCII other than zero.  (A number that is no character is read as zero, too.) -/
def IsMark (mark : UInt8) : Prop := 0 < mark.toNat ∧ mark.toNat < 0x80

instance (mark : UInt8) : Decidable (IsMark mark) := inferInstanceAs (Decidable (_ ∧ _))

section

variable {mark : UInt8} (hmark : IsMark mark)
include hmark

theorem ofNat_ne_mark {n : Nat} (h : n ≠ mark.toNat) : Char.ofNat n ≠ Char.ofNat mark.toNat := by
  intro heq
  have hchar : (Char.ofNat n).val.toNat = mark.toNat := by
    rw [heq]
    exact toNat_ofNat_char (.inl (by have := hmark.2; omega))
  by_cases hvalid : n.isValidChar
  · rw [toNat_ofNat_char hvalid] at hchar
    exact h hchar
  · rw [Char.ofNat, dif_neg hvalid] at hchar
    exact absurd hchar (Nat.ne_of_lt hmark.1)

theorem mark_not_mem_first {b : Nat} (h : b ≠ mark.toNat) :
    some (Char.ofNat mark.toNat) ∉ (first b).1 := by
  have hchar : some (Char.ofNat mark.toNat) ≠ some (Char.ofNat b) :=
    fun heq => ofNat_ne_mark hmark h (Option.some.inj heq).symm
  unfold first
  repeat' split
  all_goals simp [hchar]

theorem mark_not_mem_step {s : State} (hs : s.AboveAscii) {b : Nat} (h : b ≠ mark.toNat) :
    some (Char.ofNat mark.toNat) ∉ (step s b).1 := by
  cases s with
  | start => exact mark_not_mem_first hmark h
  | within bits more least most =>
      obtain ⟨hleast, hbits⟩ := hs
      by_cases hin : least ≤ b ∧ b ≤ most
      · rw [step_expected hin]
        cases more with
        | zero =>
            have hlarge : bits * 64 + (b - 0x80) ≠ mark.toNat := by
              have := hmark.2
              omega
            intro hmem
            exact ofNat_ne_mark hmark hlarge (Option.some.inj (List.mem_singleton.mp hmem)).symm
        | succ more => simp
      · rw [step_unexpected hin, List.mem_cons, not_or]
        exact ⟨by simp, mark_not_mem_first hmark h⟩

end

/-! ### Whole texts -/

/-- **At an ASCII byte the decoder starts anew.** -/
theorem scan_append_ascii {b : UInt8} (hb : b.toNat < 0x80) {s : State} (hs : s.AboveAscii)
    (before after : List UInt8) :
    scan s (before ++ b :: after) = scan s before ++ scan .start (b :: after) := by
  induction before generalizing s with
  | nil =>
      cases s with
      | start => rfl
      | within bits more least most =>
          have hout : ¬ (least ≤ b.toNat ∧ b.toNat ≤ most) := by
            have := hs.1
            omega
          rw [List.nil_append, scan_cons, step_unexpected hout, scan_cons]
          rfl
  | cons a before ih =>
      rw [List.cons_append, scan_cons s, scan_cons s, ih (aboveAscii_step hs a.toNat),
        List.append_assoc]

theorem mark_not_mem_scan {mark : UInt8} (hmark : IsMark mark) {bs : List UInt8} (h : mark ∉ bs)
    {s : State} (hs : s.AboveAscii) : some (Char.ofNat mark.toNat) ∉ scan s bs := by
  induction bs generalizing s with
  | nil => cases s <;> simp [scan]
  | cons b bs ih =>
      rw [List.mem_cons, not_or] at h
      have hb : b.toNat ≠ mark.toNat := fun hb => h.1 (UInt8.toNat_inj.mp hb.symm)
      rw [scan_cons, List.mem_append, not_or]
      exact ⟨mark_not_mem_step hmark hs hb, ih h.2 (aboveAscii_step hs b.toNat)⟩

theorem toList_decodeLossy (bs : List UInt8) :
    (decodeLossy bs).toList = (scan .start bs).map (·.getD '\uFFFD') := by
  unfold decodeLossy
  rw [String.toList_ofList]

/-- **A slash cuts bytes where it cuts their text.** -/
theorem decodeLossy_append_slash (before after : List UInt8) :
    decodeLossy (before ++ Path.slash :: after) =
      decodeLossy before ++ "/" ++ decodeLossy after := by
  have hslash : scan .start (Path.slash :: after) = some '/' :: scan .start after :=
    scan_one (by decide) after
  rw [← String.toList_inj]
  simp only [String.toList_append, toList_decodeLossy]
  rw [scan_append_ascii (by decide) aboveAscii_start, hslash]
  simp

/-- **A mark is in a text as it is in the bytes.** -/
theorem mem_decodeLossy_iff {mark : UInt8} (hmark : IsMark mark) {bs : List UInt8} :
    Char.ofNat mark.toNat ∈ (decodeLossy bs).toList ↔ mark ∈ bs := by
  rw [toList_decodeLossy, List.mem_map]
  constructor
  · rintro ⟨c, hc, hchar⟩
    refine Decidable.of_not_not fun h => ?_
    cases c with
    | none =>
        have hlarge : (0xFFFD : Nat) ≠ mark.toNat := by
          have := hmark.2
          omega
        exact ofNat_ne_mark hmark hlarge hchar
    | some c =>
        have hchar : c = Char.ofNat mark.toNat := hchar
        rw [hchar] at hc
        exact mark_not_mem_scan hmark h aboveAscii_start hc
  · intro h
    obtain ⟨before, after, rfl⟩ := List.append_of_mem h
    refine ⟨some (Char.ofNat mark.toNat), ?_, rfl⟩
    rw [scan_append_ascii hmark.2 aboveAscii_start, scan_one hmark.2]
    simp

theorem slash_not_mem_decodeLossy {bs : List UInt8} (h : Path.slash ∉ bs) :
    '/' ∉ (decodeLossy bs).toList :=
  mt (mem_decodeLossy_iff (by decide : IsMark Path.slash)).mp h

/-- Bytes of a text are read as that text. -/
theorem decodeLossy_encode (s : String) : decodeLossy (encode s) = s := by
  rw [← String.toList_inj, toList_decodeLossy, encode, scan_flatMap_utf8EncodeChar, List.map_map]
  exact List.map_id _

/-- Where there are bytes there is text. -/
theorem decodeLossy_ne_nil {bs : List UInt8} (h : bs ≠ []) : (decodeLossy bs).toList ≠ [] := by
  rw [toList_decodeLossy]
  intro hnil
  exact h (scan_start_eq_nil (List.map_eq_nil_iff.mp hnil))

/-! ### Bytes that are a text -/

/-- The bytes are those of a text. -/
def IsText (bs : List UInt8) : Prop := ∃ s, encode s = bs

theorem isText_encode (s : String) : IsText (encode s) := ⟨s, rfl⟩

theorem IsText.encode_decodeLossy {bs : List UInt8} (h : IsText bs) :
    encode (decodeLossy bs) = bs := by
  obtain ⟨s, rfl⟩ := h
  rw [decodeLossy_encode]

/-- Bytes that are read without a replacement are a text. -/
theorem isText_of_replacement_not_mem {bs : List UInt8}
    (h : '\uFFFD' ∉ (decodeLossy bs).toList) : IsText bs := by
  rw [toList_decodeLossy] at h
  have hchars : scan .start bs = ((scan .start bs).map (·.getD '\uFFFD')).map some := by
    rw [List.map_map]
    refine (List.map_id _).symm.trans (List.map_congr_left ?_)
    intro c hc
    cases c with
    | none => exact absurd (List.mem_map_of_mem hc) h
    | some c => rfl
  refine ⟨decodeLossy bs, ?_⟩
  rw [encode, toList_decodeLossy]
  exact (eq_flatMap_of_scan hchars).symm

theorem encode_append (s t : String) : encode (s ++ t) = encode s ++ encode t := by
  unfold encode
  rw [String.toList_append, List.flatMap_append]

theorem IsText.append {as bs : List UInt8} (has : IsText as) (hbs : IsText bs) :
    IsText (as ++ bs) := by
  obtain ⟨s, rfl⟩ := has
  obtain ⟨t, rfl⟩ := hbs
  exact ⟨s ++ t, encode_append s t⟩

theorem IsText.slash_cons {bs : List UInt8} (h : IsText bs) : IsText (Path.slash :: bs) :=
  (isText_encode "/").append h

/-! ### Marks in the bytes of a text -/

/-- The bytes of characters. -/
def encodeChars (cs : List Char) : List UInt8 := cs.flatMap String.utf8EncodeChar

@[simp] theorem encodeChars_toList (s : String) : encodeChars s.toList = encode s := rfl

@[simp] theorem encodeChars_append (cs ds : List Char) :
    encodeChars (cs ++ ds) = encodeChars cs ++ encodeChars ds :=
  List.flatMap_append

/-- A text in front of bytes is read by itself. -/
theorem decodeLossy_encodeChars_append (cs : List Char) (bs : List UInt8) :
    decodeLossy (encodeChars cs ++ bs) = String.ofList cs ++ decodeLossy bs := by
  have hscan : scan .start (encodeChars cs ++ bs) = cs.map some ++ scan .start bs := by
    induction cs with
    | nil => rfl
    | cons c cs ih =>
        rw [encodeChars, List.flatMap_cons, List.append_assoc, scan_utf8EncodeChar, ← encodeChars,
          ih, List.map_cons, List.cons_append]
  rw [← String.toList_inj, String.toList_append, toList_decodeLossy, toList_decodeLossy, hscan,
    List.map_append, List.map_map, String.toList_ofList]
  exact congrArg (· ++ _) (List.map_id cs)

theorem decodeLossy_encodeChars (cs : List Char) :
    decodeLossy (encodeChars cs) = String.ofList cs := by
  rw [← decodeLossy_encode (String.ofList cs), encode, String.toList_ofList, encodeChars]

section

variable {mark : UInt8} (hmark : IsMark mark)
include hmark

theorem mark_mem_encodeChars_iff {cs : List Char} :
    mark ∈ encodeChars cs ↔ Char.ofNat mark.toNat ∈ cs := by
  rw [← mem_decodeLossy_iff hmark, decodeLossy_encodeChars, String.toList_ofList]

theorem mark_not_mem_utf8EncodeChar {c : Char} (h : c ≠ Char.ofNat mark.toNat) :
    mark ∉ String.utf8EncodeChar c := by
  have hmem : mark ∈ encodeChars [c] ↔ _ := mark_mem_encodeChars_iff hmark
  rw [encodeChars, List.flatMap_singleton, List.mem_singleton] at hmem
  exact fun hbyte => h (hmem.mp hbyte).symm

theorem utf8EncodeChar_mark : String.utf8EncodeChar (Char.ofNat mark.toNat) = [mark] := by
  have hval := toNat_ofNat_char (n := mark.toNat) (.inl (by have := hmark.2; omega))
  unfold String.utf8EncodeChar
  simp only [hval]
  rw [if_pos (by have := hmark.2; omega), UInt8.ofNat_toNat]

/-- **A mark cuts bytes of a text where it cuts the text.** -/
theorem splitAll_encodeChars (cs : List Char) :
    splitAll mark (encodeChars cs) = (splitAll (Char.ofNat mark.toNat) cs).map encodeChars := by
  induction cs with
  | nil => rfl
  | cons c cs ih =>
      rw [encodeChars, List.flatMap_cons, ← encodeChars]
      by_cases hc : c = Char.ofNat mark.toNat
      · rw [hc, utf8EncodeChar_mark hmark]
        show splitAll mark ([] ++ mark :: encodeChars cs) =
          (splitAll _ ([] ++ Char.ofNat mark.toNat :: cs)).map encodeChars
        rw [splitAll_append (by simp), splitAll_append (by simp), ih, List.map_cons]
        rfl
      · rw [splitAll_append_left (mark_not_mem_utf8EncodeChar hmark hc), ih,
          ← List.singleton_append, splitAll_append_left (by simpa using Ne.symm hc)]
        obtain ⟨part, parts, hparts⟩ := List.exists_cons_of_ne_nil
          (splitAll_ne_nil (Char.ofNat mark.toNat) cs)
        simp [hparts, encodeChars]

theorem cutAt_encodeChars (cs : List Char) :
    cutAt mark (encodeChars cs) =
      (encodeChars (cutAt (Char.ofNat mark.toNat) cs).1,
        (cutAt (Char.ofNat mark.toNat) cs).2.map encodeChars) := by
  rcases cutAt_cases (Char.ofNat mark.toNat) cs with ⟨hcs, hcut⟩ | ⟨before, after, hbefore, rfl, hcut⟩
  · rw [hcut, cutAt_of_not_mem (mt (mark_mem_encodeChars_iff hmark).mp hcs)]
    rfl
  · have hbytes : encodeChars (before ++ Char.ofNat mark.toNat :: after) =
        encodeChars before ++ mark :: encodeChars after := by
      rw [encodeChars_append, encodeChars, encodeChars, List.flatMap_cons,
        utf8EncodeChar_mark hmark]
      rfl
    rw [hcut, hbytes, cutAt_append (mt (mark_mem_encodeChars_iff hmark).mp hbefore)]
    rfl

end

end AppBuild.Utf8
