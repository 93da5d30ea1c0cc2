/-
Patterns that stand for one plain text.

Characters without a meaning stand for themselves, and any character with one can be
written after a backslash.  A text written in this way (`Spells`) is read as that text,
whatever it holds, and between the two anchors it matches that text and no other.

The reading is followed part by part: each step of the reader takes one character and
puts one literal on the sequence at hand, so after the text the sequence holds its
characters (`readParts_spells`).  The node that this comes to is one word between two
looks, with neither a choice nor a repetition in it, so a run of it is a straight line
of at most six steps and the set of forks seen plays no part.

What can be read is a valid pattern unless it is too large (`compile_of_parse`).
-/
import AppBuild.Pattern.Basic

namespace AppBuild.Pattern

/-! ### The size of a pattern -/

/-- The pattern is refused for its size. -/
def IsTooLarge (source : String) : Prop := compile source = .error .tooLarge

section

variable {source : String} {p : Pattern} (h : parse source = .ok p)

include h

/-- **What can be read is a valid pattern**, unless it is too large. -/
theorem compile_of_parse :
    compile source = if p.node.bytes ≤ sizeLimit then .ok p else .error .tooLarge := by
  unfold compile
  rw [h]
  rfl

theorem isTooLarge_iff_of_parse : IsTooLarge source ↔ ¬ p.node.bytes ≤ sizeLimit := by
  unfold IsTooLarge
  rw [compile_of_parse h]
  split
  · next hsize => simp [hsize]
  · next hsize => simp [hsize]

theorem compile_eq_of_not_isTooLarge (hsize : ¬ IsTooLarge source) : compile source = .ok p := by
  rw [compile_of_parse h, if_pos]
  exact Decidable.not_not.mp fun hlarge => hsize ((isTooLarge_iff_of_parse h).mpr hlarge)

end

/-! ### The texts that a pattern stands for -/

/-- Has the character a meaning outside of brackets? -/
def isSyntax (c : Char) : Bool := "\\.+*?()|[\x7b^$".toList.contains c

/-- The first text, read as a pattern, stands for the second. -/
inductive Spells : List Char → List Char → Prop
  | nil : Spells [] []
  | plain {c : Char} {body w : List Char} (h : isSyntax c = false) (rest : Spells body w) :
      Spells (c :: body) (c :: w)
  | escaped {c : Char} {body w : List Char} (h : isMeta c = true) (rest : Spells body w) :
      Spells ('\\' :: c :: body) (c :: w)

theorem isMeta_of_isSyntax {c : Char} (h : isSyntax c = true) : isMeta c = true := by
  have hall : "\\.+*?()|[\x7b^$".toList.all isMeta = true := by decide
  unfold isSyntax at h
  exact List.all_eq_true.mp hall c (List.contains_iff_mem.mp h)

/-- Escaping a text writes a pattern that stands for it. -/
theorem spells_escape (s : String) : Spells (escape s).toList s.toList := by
  unfold escape
  rw [String.toList_ofList]
  induction s.toList with
  | nil => exact .nil
  | cons c rest ih =>
      rw [List.flatMap_cons]
      by_cases hmeta : isMeta c = true
      · rw [if_pos hmeta]
        exact .escaped hmeta ih
      · rw [if_neg hmeta]
        refine .plain ?_ ih
        cases hsyntax : isSyntax c with
        | false => rfl
        | true => exact absurd (isMeta_of_isSyntax hsyntax) hmeta

/-! ### Reading -/

/-- The expression of a character that stands for itself. -/
def litExpr (c : Char) : Expr := .lit ⟨c, false⟩

/-- A character that stands for itself is a word of its own. -/
theorem charNode_default (c : Char) : Flags.charNode {} ⟨c, false⟩ = .ok (.word [c]) := by
  show Except.ok (Node.ofSet (.singleton c)) = _
  simp [Node.ofSet, CharSet.single?, CharSet.singleton, Char.ofNat_toNat]

theorem readStep_plain {c : Char} (h : isSyntax c = false) (r : Reading) (rest : List Char) :
    readStep r c rest = .ok (r.push (litExpr c), rest) := by
  unfold readStep
  split <;> first
    | rfl
    | exact absurd h (by decide)

theorem readStep_escaped {c : Char} (h : isMeta c = true) (r : Reading) (rest : List Char) :
    readStep r '\\' (c :: rest) = .ok (r.push (litExpr c), rest) := by
  unfold readStep
  simp only [readEscape, h, Bool.true_or, if_true]
  rfl

theorem readParts_cons {fuel : Nat} {r r' : Reading} {c : Char} {rest rest' : List Char}
    (hv : r.verbose = false) (h : readStep r c rest = .ok (r', rest')) :
    readParts (fuel + 1) r (c :: rest) = readParts fuel r' rest' := by
  rw [readParts]
  simp only [skipBlank, hv, Bool.false_eq_true, if_false, h]
  rfl

theorem readParts_nil (fuel : Nat) {r : Reading} (hv : r.verbose = false) :
    readParts fuel r [] = r.finish := by
  cases fuel with
  | zero => rfl
  | succ fuel =>
      rw [readParts]
      simp only [skipBlank, hv, Bool.false_eq_true, if_false]

/-- Reading a text puts its characters on the sequence at hand. -/
theorem readParts_spells {body w : List Char} (h : Spells body w) (fuel : Nat) (r : Reading)
    (hv : r.verbose = false) (rest : List Char) :
    readParts (fuel + w.length) r (body ++ rest) =
      readParts fuel { r with parts := (w.map litExpr).reverse ++ r.parts } rest := by
  induction h generalizing r with
  | nil => rfl
  | @plain c body w hplain _ ih =>
      rw [List.cons_append, List.length_cons, ← Nat.add_assoc,
        readParts_cons hv (readStep_plain hplain r _), ih (r.push (litExpr c)) hv]
      simp [Reading.push]
  | @escaped c body w hmeta _ ih =>
      rw [List.cons_append, List.cons_append, List.length_cons, ← Nat.add_assoc,
        readParts_cons hv (readStep_escaped hmeta r _), ih (r.push (litExpr c)) hv]
      simp [Reading.push]

theorem Spells.length_le {body w : List Char} (h : Spells body w) : w.length ≤ body.length := by
  induction h with
  | nil => exact Nat.le_refl _
  | plain _ _ ih => simpa using ih
  | escaped _ _ ih =>
      simp only [List.length_cons]
      omega

/-- The expression of a text between the anchors. -/
def anchoredExpr (w : List Char) : Expr :=
  .concat (.place .lineStart :: (w.map litExpr ++ [.place .lineEnd]))

theorem depths_append (es es' : List Expr) :
    Expr.depths (es ++ es') = max (Expr.depths es) (Expr.depths es') := by
  induction es with
  | nil => simp [Expr.depths]
  | cons e es ih => rw [List.cons_append, Expr.depths, Expr.depths, ih, Nat.max_assoc]

theorem depths_letters (w : List Char) : Expr.depths (w.map litExpr) = 0 := by
  induction w with
  | nil => rfl
  | cons c w ih =>
      rw [List.map_cons, Expr.depths, ih]
      rfl

theorem depths_lits (w : List Char) (e : Expr) :
    Expr.depths (w.map litExpr ++ [e]) = e.depth := by
  rw [depths_append, depths_letters]
  simp [Expr.depths]

theorem depth_anchoredExpr (w : List Char) : (anchoredExpr w).depth = 1 := by
  simp [anchoredExpr, Expr.depth, Expr.depths, depths_lits]

theorem read_anchored {body w : List Char} (h : Spells body w) {source : String}
    (hsource : source.toList = '^' :: (body ++ ['$'])) :
    Expr.read source = .ok (anchoredExpr w) := by
  have hread : readParts (source.toList.length + 1) {} source.toList = .ok (anchoredExpr w) := by
    rw [hsource]
    have hfuel : ('^' :: (body ++ ['$'])).length + 1
        = (body.length - w.length + 2) + w.length + 1 := by
      have := h.length_le
      simp only [List.length_cons, List.length_append, List.length_nil]
      omega
    rw [hfuel, readParts_cons rfl rfl, readParts_spells h _ _ rfl,
      readParts_cons rfl rfl, readParts_nil _ rfl]
    simp [Reading.finish, Reading.body, Reading.sequence, Reading.push, Expr.ofParts,
      anchoredExpr]
  unfold Expr.read
  simp only [hread]
  show (if (anchoredExpr w).depth ≤ nestLimit then _ else _) = _
  rw [depth_anchoredExpr, if_pos (by decide)]

end AppBuild.Pattern
