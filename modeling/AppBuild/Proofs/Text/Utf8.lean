/-
Texts and their bytes.

Bytes are well formed exactly when they are the bytes of a text, and then of one text
only (`decode?_eq_some_iff`).  Both halves follow the decoder: from the start of a
character it comes back to the start over the bytes of that character and over no
others.  What makes the second half true is that the least and the greatest value of a
second byte leave out the long forms, the surrogates and what lies above all
characters.
-/
import AppBuild.Text.Utf8

namespace AppBuild.Utf8

theorem scan_cons (s : State) (b : UInt8) (bs : List UInt8) :
    scan s (b :: bs) = (step s b.toNat).1 ++ scan (step s b.toNat).2 bs := by
  cases s <;> rfl

/-! ### The first byte -/

theorem scan_one {b : UInt8} (h : b.toNat < 0x80) (bs : List UInt8) :
    scan .start (b :: bs) = some (Char.ofNat b.toNat) :: scan .start bs := by
  rw [scan_cons]
  simp [step, first, h]

theorem scan_ill {b : UInt8} (h : 0x80 ≤ b.toNat) (h' : b.toNat < 0xC2) (bs : List UInt8) :
    scan .start (b :: bs) = none :: scan .start bs := by
  rw [scan_cons]
  simp [step, first, h', Nat.not_lt.mpr h]

theorem scan_lead_two {b : UInt8} (h : 0xC2 ≤ b.toNat) (h' : b.toNat < 0xE0)
    (bs : List UInt8) :
    scan .start (b :: bs) = scan (.within (b.toNat - 0xC0) 0 0x80 0xBF) bs := by
  rw [scan_cons]
  have h80 : ¬ b.toNat < 0x80 := by omega
  simp [step, first, h', h80, Nat.not_lt.mpr h]

/-- The least value of the byte after the first of three. -/
def leastOfThree (b : Nat) : Nat := if b = 0xE0 then 0xA0 else 0x80

/-- The greatest value of the byte after the first of three. -/
def mostOfThree (b : Nat) : Nat := if b = 0xED then 0x9F else 0xBF

theorem scan_lead_three {b : UInt8} (h : 0xE0 ≤ b.toNat) (h' : b.toNat < 0xF0)
    (bs : List UInt8) :
    scan .start (b :: bs) =
      scan (.within (b.toNat - 0xE0) 1 (leastOfThree b.toNat) (mostOfThree b.toNat)) bs := by
  rw [scan_cons]
  have h80 : ¬ b.toNat < 0x80 := by omega
  have hC2 : ¬ b.toNat < 0xC2 := by omega
  have hE0 : ¬ b.toNat < 0xE0 := by omega
  by_cases hlow : b.toNat = 0xE0
  · simp [step, first, leastOfThree, mostOfThree, hlow]
  · by_cases hsurrogate : b.toNat = 0xED
    · simp [step, first, leastOfThree, mostOfThree, hsurrogate]
    · simp [step, first, leastOfThree, mostOfThree, h', h80, hC2, hE0, hlow, hsurrogate]

/-- The least value of the byte after the first of four. -/
def leastOfFour (b : Nat) : Nat := if b = 0xF0 then 0x90 else 0x80

/-- The greatest value of the byte after the first of four. -/
def mostOfFour (b : Nat) : Nat := if b = 0xF4 then 0x8F else 0xBF

theorem scan_lead_four {b : UInt8} (h : 0xF0 ≤ b.toNat) (h' : b.toNat < 0xF5)
    (bs : List UInt8) :
    scan .start (b :: bs) =
      scan (.within (b.toNat - 0xF0) 2 (leastOfFour b.toNat) (mostOfFour b.toNat)) bs := by
  rw [scan_cons]
  have hcases : b.toNat = 0xF0 ∨ b.toNat = 0xF1 ∨ b.toNat = 0xF2 ∨ b.toNat = 0xF3 ∨
      b.toNat = 0xF4 := by omega
  rcases hcases with hb | hb | hb | hb | hb <;>
    simp [step, first, leastOfFour, mostOfFour, hb]

theorem scan_lead_ill {b : UInt8} (h : 0xF5 ≤ b.toNat) (bs : List UInt8) :
    scan .start (b :: bs) = none :: scan .start bs := by
  rw [scan_cons]
  have h80 : ¬ b.toNat < 0x80 := by omega
  have hC2 : ¬ b.toNat < 0xC2 := by omega
  have hE0 : ¬ b.toNat < 0xE0 := by omega
  have hF0 : ¬ b.toNat < 0xF0 := by omega
  have hF4 : ¬ b.toNat < 0xF4 := by omega
  have hne : b.toNat ≠ 0xE0 ∧ b.toNat ≠ 0xED ∧ b.toNat ≠ 0xF0 ∧ b.toNat ≠ 0xF4 := by omega
  simp [step, first, h80, hC2, hE0, hF0, hF4, hne]

/-! ### The bytes after it -/

theorem scan_last {bits least most : Nat} {b : UInt8} (h : least ≤ b.toNat)
    (h' : b.toNat ≤ most) (bs : List UInt8) :
    scan (.within bits 0 least most) (b :: bs) =
      some (Char.ofNat (bits * 64 + (b.toNat - 0x80))) :: scan .start bs := by
  rw [scan_cons]
  simp [step, h, h']

theorem scan_next {bits more least most : Nat} {b : UInt8} (h : least ≤ b.toNat)
    (h' : b.toNat ≤ most) (bs : List UInt8) :
    scan (.within bits (more + 1) least most) (b :: bs) =
      scan (.within (bits * 64 + (b.toNat - 0x80)) more 0x80 0xBF) bs := by
  rw [scan_cons]
  simp [step, h, h']

/-- In a character that turns out well formed the next byte is there and within its bounds. -/
theorem next_of_scan_within {bits more least most : Nat} {bs : List UInt8} {c : Char}
    {out : List (Option Char)} (h : scan (.within bits more least most) bs = some c :: out) :
    ∃ b rest, bs = b :: rest ∧ least ≤ b.toNat ∧ b.toNat ≤ most := by
  cases bs with
  | nil => simp [scan] at h
  | cons b rest =>
      refine ⟨b, rest, rfl, ?_⟩
      by_cases hin : least ≤ b.toNat ∧ b.toNat ≤ most
      · exact hin
      · rw [scan_cons] at h
        simp [step, hin] at h

/-- Some character comes out of any bytes, ill formed or not. -/
theorem scan_within_ne_nil (bits more least most : Nat) (bs : List UInt8) :
    scan (.within bits more least most) bs ≠ [] := by
  induction bs generalizing bits more least most with
  | nil => simp [scan]
  | cons b rest ih =>
      rw [scan_cons]
      by_cases hin : least ≤ b.toNat ∧ b.toNat ≤ most
      · cases more with
        | zero => simp [step, hin]
        | succ more => simpa [step, hin] using ih _ _ _ _
      · simp [step, hin]

theorem bounds_of_three {b b₂ : UInt8} (hlo : leastOfThree b.toNat ≤ b₂.toNat)
    (hhi : b₂.toNat ≤ mostOfThree b.toNat) :
    0x80 ≤ b₂.toNat ∧ b₂.toNat ≤ 0xBF ∧ (b.toNat = 0xE0 → 0xA0 ≤ b₂.toNat) ∧
      (b.toNat = 0xED → b₂.toNat ≤ 0x9F) := by
  unfold leastOfThree at hlo
  unfold mostOfThree at hhi
  split at hlo <;> split at hhi <;> omega

theorem bounds_of_four {b b₂ : UInt8} (hlo : leastOfFour b.toNat ≤ b₂.toNat)
    (hhi : b₂.toNat ≤ mostOfFour b.toNat) :
    0x80 ≤ b₂.toNat ∧ b₂.toNat ≤ 0xBF ∧ (b.toNat = 0xF0 → 0x90 ≤ b₂.toNat) ∧
      (b.toNat = 0xF4 → b₂.toNat ≤ 0x8F) := by
  unfold leastOfFour at hlo
  unfold mostOfFour at hhi
  split at hlo <;> split at hhi <;> omega

/-! ### A text is what its bytes say -/

theorem toNat_ofNat_of_lt {n : Nat} (h : n < 256) : (UInt8.ofNat n).toNat = n :=
  UInt8.toNat_ofNat_of_lt' h

theorem scan_utf8EncodeChar (c : Char) (bs : List UInt8) :
    scan .start (String.utf8EncodeChar c ++ bs) = some c :: scan .start bs := by
  have hvalid : c.toNat < 0xD800 ∨ 0xDFFF < c.toNat ∧ c.toNat < 0x110000 := c.valid
  have hval : c.val.toNat = c.toNat := rfl
  unfold String.utf8EncodeChar
  simp only [hval]
  split
  · next h1 =>
    have hb := toNat_ofNat_of_lt (n := c.toNat) (by omega)
    rw [List.singleton_append, scan_one (by omega), hb, Char.ofNat_toNat]
  split
  · next h1 h2 =>
    have hb := toNat_ofNat_of_lt (n := c.toNat / 64 % 0x20 + 0xc0) (by omega)
    have hb' := toNat_ofNat_of_lt (n := c.toNat % 0x40 + 0x80) (by omega)
    rw [List.cons_append, List.singleton_append, scan_lead_two (by omega) (by omega),
      scan_last (by omega) (by omega), hb, hb']
    rw [show (c.toNat / 64 % 0x20 + 0xc0 - 0xC0) * 64 + (c.toNat % 0x40 + 0x80 - 0x80)
      = c.toNat by omega, Char.ofNat_toNat]
  split
  · next h1 h2 h3 =>
    have hb := toNat_ofNat_of_lt (n := c.toNat / 4096 % 0x10 + 0xe0) (by omega)
    have hb' := toNat_ofNat_of_lt (n := c.toNat / 64 % 0x40 + 0x80) (by omega)
    have hb'' := toNat_ofNat_of_lt (n := c.toNat % 0x40 + 0x80) (by omega)
    rw [List.cons_append, List.cons_append, List.singleton_append,
      scan_lead_three (by omega) (by omega), hb,
      scan_next (by rw [hb']; unfold leastOfThree; split <;> omega)
        (by rw [hb']; unfold mostOfThree; split <;> omega),
      scan_last (by omega) (by omega), hb', hb'']
    rw [show ((c.toNat / 4096 % 0x10 + 0xe0 - 0xE0) * 64 +
        (c.toNat / 64 % 0x40 + 0x80 - 0x80)) * 64 + (c.toNat % 0x40 + 0x80 - 0x80)
      = c.toNat by omega, Char.ofNat_toNat]
  · next h1 h2 h3 =>
    have hb := toNat_ofNat_of_lt (n := c.toNat / 262144 % 0x08 + 0xf0) (by omega)
    have hb' := toNat_ofNat_of_lt (n := c.toNat / 4096 % 0x40 + 0x80) (by omega)
    have hb'' := toNat_ofNat_of_lt (n := c.toNat / 64 % 0x40 + 0x80) (by omega)
    have hb''' := toNat_ofNat_of_lt (n := c.toNat % 0x40 + 0x80) (by omega)
    rw [List.cons_append, List.cons_append, List.cons_append, List.singleton_append,
      scan_lead_four (by omega) (by omega), hb,
      scan_next (by rw [hb']; unfold leastOfFour; split <;> omega)
        (by rw [hb']; unfold mostOfFour; split <;> omega),
      scan_next (by omega) (by omega), scan_last (by omega) (by omega), hb', hb'', hb''']
    rw [show (((c.toNat / 262144 % 0x08 + 0xf0 - 0xF0) * 64 +
        (c.toNat / 4096 % 0x40 + 0x80 - 0x80)) * 64 +
        (c.toNat / 64 % 0x40 + 0x80 - 0x80)) * 64 + (c.toNat % 0x40 + 0x80 - 0x80)
      = c.toNat by omega, Char.ofNat_toNat]

theorem scan_flatMap_utf8EncodeChar (cs : List Char) :
    scan .start (cs.flatMap String.utf8EncodeChar) = cs.map some := by
  induction cs with
  | nil => rfl
  | cons c rest ih => rw [List.flatMap_cons, scan_utf8EncodeChar, ih, List.map_cons]

/-! ### Well-formed bytes are the bytes of a text -/

theorem toNat_ofNat_char {n : Nat} (h : n.isValidChar) : (Char.ofNat n).val.toNat = n := by
  rw [Char.ofNat, dif_pos h]
  rfl

theorem ofNat_eq_of_toNat {b : UInt8} {n : Nat} (h : n = b.toNat) : UInt8.ofNat n = b := by
  rw [h, UInt8.ofNat_toNat]

/-- The bytes begin with those of a character, and the rest of them gives the rest. -/
def Begins (bs : List UInt8) (c : Char) (out : List (Option Char)) : Prop :=
  ∃ rest, bs = String.utf8EncodeChar c ++ rest ∧ scan .start rest = out

section

variable {b : UInt8} {bs : List UInt8} {c : Char} {out : List (Option Char)}
  (h : scan .start (b :: bs) = some c :: out)

include h

theorem begins_one (hhi : b.toNat < 0x80) : Begins (b :: bs) c out := by
  rw [scan_one hhi] at h
  obtain ⟨rfl, hout⟩ := by simpa using h
  refine ⟨bs, ?_, hout⟩
  have hn := toNat_ofNat_char (n := b.toNat) (.inl (by omega))
  simp [String.utf8EncodeChar, hn, show b.toNat ≤ 127 by omega]

theorem begins_two (hlo : 0xC2 ≤ b.toNat) (hhi : b.toNat < 0xE0) : Begins (b :: bs) c out := by
  rw [scan_lead_two hlo hhi] at h
  obtain ⟨b₂, rest, rfl, hlo₂, hhi₂⟩ := next_of_scan_within h
  rw [scan_last hlo₂ hhi₂] at h
  obtain ⟨rfl, hout⟩ := by simpa using h
  refine ⟨rest, ?_, hout⟩
  have hn := toNat_ofNat_char (n := (b.toNat - 0xC0) * 64 + (b₂.toNat - 0x80))
    (.inl (by omega))
  unfold String.utf8EncodeChar
  simp only [hn]
  rw [if_neg (by omega), if_pos (by omega), ofNat_eq_of_toNat (b := b) (by omega),
    ofNat_eq_of_toNat (b := b₂) (by omega)]
  rfl

theorem begins_three (hlo : 0xE0 ≤ b.toNat) (hhi : b.toNat < 0xF0) :
    Begins (b :: bs) c out := by
  rw [scan_lead_three hlo hhi] at h
  obtain ⟨b₂, rest, rfl, hlo₂, hhi₂⟩ := next_of_scan_within h
  rw [scan_next hlo₂ hhi₂] at h
  obtain ⟨b₃, rest, rfl, hlo₃, hhi₃⟩ := next_of_scan_within h
  rw [scan_last hlo₃ hhi₃] at h
  obtain ⟨rfl, hout⟩ := by simpa using h
  refine ⟨rest, ?_, hout⟩
  -- The bounds of the second byte leave out long forms and surrogates.
  have hsecond := bounds_of_three hlo₂ hhi₂
  have hn := toNat_ofNat_char
    (n := ((b.toNat - 0xE0) * 64 + (b₂.toNat - 0x80)) * 64 + (b₃.toNat - 0x80))
    (by unfold Nat.isValidChar; omega)
  unfold String.utf8EncodeChar
  simp only [hn]
  rw [if_neg (by omega), if_neg (by omega), if_pos (by omega),
    ofNat_eq_of_toNat (b := b) (by omega), ofNat_eq_of_toNat (b := b₂) (by omega),
    ofNat_eq_of_toNat (b := b₃) (by omega)]
  rfl

theorem begins_four (hlo : 0xF0 ≤ b.toNat) (hhi : b.toNat < 0xF5) :
    Begins (b :: bs) c out := by
  have hb256 : b.toNat < 256 := b.toNat_lt
  rw [scan_lead_four hlo hhi] at h
  obtain ⟨b₂, rest, rfl, hlo₂, hhi₂⟩ := next_of_scan_within h
  rw [scan_next hlo₂ hhi₂] at h
  obtain ⟨b₃, rest, rfl, hlo₃, hhi₃⟩ := next_of_scan_within h
  rw [scan_next hlo₃ hhi₃] at h
  obtain ⟨b₄, rest, rfl, hlo₄, hhi₄⟩ := next_of_scan_within h
  rw [scan_last hlo₄ hhi₄] at h
  obtain ⟨rfl, hout⟩ := by simpa using h
  refine ⟨rest, ?_, hout⟩
  -- Here they leave out long forms and what lies above all characters.
  have hsecond := bounds_of_four hlo₂ hhi₂
  have hn := toNat_ofNat_char
    (n := (((b.toNat - 0xF0) * 64 + (b₂.toNat - 0x80)) * 64 + (b₃.toNat - 0x80)) * 64 +
      (b₄.toNat - 0x80))
    (by unfold Nat.isValidChar; omega)
  unfold String.utf8EncodeChar
  simp only [hn]
  rw [if_neg (by omega), if_neg (by omega), if_neg (by omega),
    ofNat_eq_of_toNat (b := b) (by omega), ofNat_eq_of_toNat (b := b₂) (by omega),
    ofNat_eq_of_toNat (b := b₃) (by omega), ofNat_eq_of_toNat (b := b₄) (by omega)]
  rfl

end

/-- The bytes that a well-formed character takes are those that encode it. -/
theorem begins_of_scan {bs : List UInt8} {c : Char} {out : List (Option Char)}
    (h : scan .start bs = some c :: out) : Begins bs c out := by
  cases bs with
  | nil => simp [scan] at h
  | cons b bs =>
      by_cases h1 : b.toNat < 0x80
      · exact begins_one h h1
      by_cases h2 : b.toNat < 0xC2
      · rw [scan_ill (by omega) h2] at h
        simp at h
      by_cases h3 : b.toNat < 0xE0
      · exact begins_two h (by omega) h3
      by_cases h4 : b.toNat < 0xF0
      · exact begins_three h (by omega) h4
      by_cases h5 : b.toNat < 0xF5
      · exact begins_four h (by omega) h5
      · rw [scan_lead_ill (by omega)] at h
        simp at h

theorem scan_start_eq_nil {bs : List UInt8} (h : scan .start bs = []) : bs = [] := by
  cases bs with
  | nil => rfl
  | cons b rest =>
      rw [scan_cons] at h
      obtain ⟨hchars, hrest⟩ := List.append_eq_nil_iff.mp h
      -- The first byte gives a character or leads into one, which gives one later.
      have hstate : (first b.toNat).2 = .start := by
        cases hfirst : (first b.toNat).2 with
        | start => rfl
        | within bits more least most =>
            rw [show step .start b.toNat = first b.toNat from rfl, hfirst] at hrest
            exact absurd hrest (scan_within_ne_nil _ _ _ _ _)
      have hgives : (first b.toNat).1 = [] → (first b.toNat).2 ≠ .start := by
        unfold first
        repeat' split
        all_goals simp
      exact absurd hstate (hgives hchars)

theorem eq_flatMap_of_scan {cs : List Char} {bs : List UInt8}
    (h : scan .start bs = cs.map some) : bs = cs.flatMap String.utf8EncodeChar := by
  induction cs generalizing bs with
  | nil => exact scan_start_eq_nil h
  | cons c rest ih =>
      obtain ⟨bs', rfl, hrest⟩ := begins_of_scan h
      rw [ih hrest, List.flatMap_cons]

theorem mapM_id_eq_some {α : Type} {os : List (Option α)} {as : List α} :
    os.mapM id = some as ↔ os = as.map some := by
  induction os generalizing as with
  | nil => cases as <;> simp
  | cons o rest ih =>
      cases o with
      | none => cases as <;> simp
      | some a =>
          rw [List.mapM_cons]
          show ((rest.mapM id).bind fun later => some (a :: later)) = some as ↔ _
          rw [Option.bind_eq_some_iff]
          constructor
          · rintro ⟨later, hlater, hcons⟩
            rw [ih.mp hlater, ← Option.some.inj hcons, List.map_cons]
          · intro h
            cases as with
            | nil => simp at h
            | cons b later =>
                obtain ⟨rfl, hlater⟩ := by simpa using h
                exact ⟨later, ih.mpr hlater, rfl⟩

/-- **Bytes are well formed exactly when they are those of a text.** -/
theorem decode?_eq_some_iff {bs : List UInt8} {s : String} :
    decode? bs = some s ↔ bs = encode s := by
  unfold decode? encode
  rw [Option.map_eq_some_iff]
  constructor
  · rintro ⟨cs, hcs, rfl⟩
    rw [String.toList_ofList]
    exact eq_flatMap_of_scan (mapM_id_eq_some.mp hcs)
  · rintro rfl
    refine ⟨s.toList, ?_, String.ofList_toList⟩
    rw [mapM_id_eq_some, scan_flatMap_utf8EncodeChar]

theorem decode?_encode (s : String) : decode? (encode s) = some s :=
  decode?_eq_some_iff.mpr rfl

end AppBuild.Utf8
