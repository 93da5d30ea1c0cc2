/-
What the folding of letters leaves alone.

The characters below the letters fold to themselves, and nothing else folds to them:
ASCII letters fold to small ones, and all that the runs of the table lead to lies above.
The table is text, and looking through it means to read it.  Its lines are first put
side by side with their characters (`numbers_of_lines`), so that reading goes over lists
of characters and decodes no text.
-/
import Mathlib.Data.List.Forall2
import AppBuild.Proofs.Text.Utf8
import AppBuild.Unicode.Folding

namespace AppBuild.Unicode.Folding

/-! ### The table -/

/-- The numbers of a table whose lines have these characters. -/
theorem numbers_of_lines {table : List String} {lines : List (List Char)}
    (h : List.Forall₂ (fun line cs => line = String.ofList cs) table lines) :
    CharSet.numbers table = lines.flatMap CharSet.hexNumbers := by
  unfold CharSet.numbers
  induction h with
  | nil => rfl
  | cons hline _ ih =>
      rw [List.flatMap_cons, List.flatMap_cons, ih, hline, CharSet.lineNumbers,
        String.toList_ofList]

/-- Past the letters of a run. -/
def Run.sourceEnd (r : Run) : Nat := r.first + r.count * r.stride

/-- Past the letters that a run leads to. -/
def Run.targetEnd (r : Run) : Nat := r.target + r.count * r.stride

/-- The run leads to characters, none of them below the small letters. -/
def Run.isPlaced (r : Run) : Bool :=
  97 ≤ r.target && 0 < r.stride &&
    (r.targetEnd ≤ 0xD800 || (0xE000 ≤ r.target && r.targetEnd ≤ 0x110000))

/-- The run leads to no letter of the other one. -/
def Run.isApart (r r' : Run) : Bool :=
  r.targetEnd.ble r'.first || r'.sourceEnd.ble r.target ||
    (List.range r.count).all fun i => (r'.image? (r.target + i * r.stride)).isNone

/-- The run of the capital letters in ASCII. -/
def capitals : Run := ⟨65, 26, 1, 97⟩

/-- The runs begin with the capitals in ASCII and go on beyond ASCII. -/
def startsWithCapitals : List Run → Bool
  | r :: rs => r.first == 65 && r.count == 26 && r.stride == 1 && r.target == 97 &&
      rs.all (128 ≤ ·.first)
  | [] => false

/-- What is relied on of a table of runs. -/
structure IsTable (table : List Run) : Prop where
  placed : table.all Run.isPlaced = true
  /-- No letter is in two runs. -/
  ascending : table.IsChain fun r r' => r.sourceEnd ≤ r'.first
  /-- What a letter folds to folds to itself. -/
  apart : (table.all fun r => table.all r.isApart) = true
  capitals : startsWithCapitals table = true
  /-- There are not many letters in the table. -/
  few : (table.flatMap fun r => List.range r.count).length ≤ 1512

theorem isTable_runs : IsTable runs := by
  have hlines : ∃ lines : List (List Char),
      runs = Run.ofNumbers (lines.flatMap CharSet.hexNumbers) ∧
      IsTable (Run.ofNumbers (lines.flatMap CharSet.hexNumbers)) := by
    -- The lines are not written out: each is found where its text is compared.
    apply Exists.intro
    apply And.intro
    · apply congrArg Run.ofNumbers
      apply numbers_of_lines
      repeat (apply List.Forall₂.cons; exact rfl)
      exact .nil
    · constructor <;> decide +kernel
  obtain ⟨lines, hruns, htable⟩ := hlines
  rw [hruns]
  exact htable

/-- No run leads below the small letters. -/
theorem le_target : ∀ r ∈ runs, 97 ≤ r.target := by
  intro r hr
  have hplaced : r.isPlaced = true := List.all_eq_true.mp isTable_runs.placed r hr
  unfold Run.isPlaced at hplaced
  simp only [Bool.and_eq_true, decide_eq_true_eq] at hplaced
  exact hplaced.1.1

/-! ### What folds to a character below the letters -/

theorem le_of_image? {r : Run} (hr : r ∈ runs) {n m : Nat} (h : r.image? n = some m) : 97 ≤ m := by
  have htarget := le_target r hr
  unfold Run.image? at h
  split at h
  · have hm := Option.some.inj h
    omega
  · exact absurd h (by simp)

theorem toLower_ascii {c : Char} (h : c.toNat < 128) : c.toLower = c ∨ 97 ≤ c.toLower.toNat := by
  have hall : ∀ n < 128, (Char.ofNat n).toLower = Char.ofNat n ∨
      97 ≤ (Char.ofNat n).toLower.toNat := by decide
  have hc := hall c.toNat h
  rwa [Char.ofNat_toNat] at hc

/-- Below the letters nothing folds to a character but that character. -/
theorem eq_of_fold_eq {c d : Char} (hpos : 0 < d.toNat) (hd : d.toNat < 65) (h : fold c = d) :
    c = d := by
  unfold fold at h
  split at h
  · next hascii =>
      rcases toLower_ascii hascii with hsame | hletter
      · rw [← hsame, h]
      · rw [h] at hletter
        omega
  · cases hfind : runs.findSome? (·.image? c.toNat) with
    | none =>
        rw [hfind, Option.getD_none, Char.ofNat_toNat] at h
        exact h
    | some m =>
        obtain ⟨r, hr, himage⟩ := List.exists_of_findSome?_eq_some hfind
        have hm : 97 ≤ m := le_of_image? hr himage
        rw [hfind, Option.getD_some] at h
        have hcode : d.toNat = m ∨ d.toNat = 0 := by
          by_cases hvalid : m.isValidChar
          · left
            rw [← h]
            exact Utf8.toNat_ofNat_char hvalid
          · right
            rw [← h, Char.ofNat, dif_neg hvalid]
            rfl
        omega

end AppBuild.Unicode.Folding
