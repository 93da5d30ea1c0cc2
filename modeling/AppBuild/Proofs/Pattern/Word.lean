/-
What a plain text without anchors matches.

The node of such a pattern is its word and nothing besides.  It leads on from a place
exactly if the word stands there, so the pattern finds the first place where it does
(`find?_plain_eq_some`), and nothing in a text that does not hold the word
(`find?_plain_eq_none_iff`).

As between anchors, only its size can refuse such a pattern (`compile_plain`).
-/
import AppBuild.Proofs.Pattern.Literal
import AppBuild.Proofs.Pattern.Straight

namespace AppBuild.Pattern

/-! ### The node of a plain text -/

/-- The parts of the node of a plain text. -/
def plainParts (w : List Char) : List Node := if w = [] then [] else [.word w]

/-- The node of a plain text. -/
def plain (w : List Char) : Node := .sequence (plainParts w)

theorem isStraight_plainParts (w : List Char) : ∀ n ∈ plainParts w, n.IsStraight := by
  intro n hn
  unfold plainParts at hn
  split at hn
  · exact absurd hn (by simp)
  · rw [List.mem_singleton.mp hn]
    trivial

theorem read_plain {source : String} {w : List Char} (h : Spells source.toList w) :
    Expr.read source = .ok (.ofParts (w.map litExpr)) := by
  have hread : readParts (source.toList.length + 1) {} source.toList
      = .ok (.ofParts (w.map litExpr)) := by
    have hfuel : source.toList.length + 1
        = (source.toList.length - w.length + 1) + w.length := by
      have := h.length_le
      omega
    have hspelled := readParts_spells h (source.toList.length - w.length + 1) {} rfl []
    rw [List.append_nil] at hspelled
    rw [hfuel, hspelled, readParts_nil _ rfl]
    simp [Reading.finish, Reading.body, Reading.sequence]
  have hdepth : (Expr.ofParts (w.map litExpr)).depth ≤ 1 := by
    rcases w with _ | ⟨c, _ | ⟨d, rest⟩⟩
    · exact Nat.zero_le _
    · exact Nat.zero_le _
    · show Expr.depths ((c :: d :: rest).map litExpr) + 1 ≤ 1
      exact Nat.le_of_eq (by rw [depths_letters])
  unfold Expr.read
  simp only [hread]
  show (if (Expr.ofParts (w.map litExpr)).depth ≤ nestLimit then _ else _) = _
  rw [if_pos (Nat.le_trans hdepth (by decide))]

theorem ofExprs_word (w : List Char) :
    Node.ofExprs {} (w.map litExpr) = .ok (w.map (fun c => .word [c]), {}) := by
  induction w with
  | nil => rfl
  | cons c rest ih =>
      rw [List.map_cons, Node.ofExprs, litExpr, Node.ofExpr, charNode_default]
      simp only [bind, Except.bind, ih]
      rfl

theorem ofParts_words (w : List Char) :
    Node.ofParts (w.map fun c => .word [c]) = plain w := by
  have hparts : (w.map fun c => Node.word [c]).flatMap Node.parts
      = w.map fun c => .word [c] := by
    rw [List.flatMap_map]
    simp [Node.parts, List.map_eq_flatMap]
  have hfold : (w.map fun c => Node.word [c]).foldr Node.prepend [] = plainParts w := by
    clear hparts
    induction w with
    | nil => rfl
    | cons c rest ih =>
        rw [List.map_cons, List.foldr_cons, ih]
        cases rest <;> rfl
  rw [Node.ofParts, hparts, hfold]
  rfl

theorem ofExpr_plain (w : List Char) :
    Node.ofExpr {} (.ofParts (w.map litExpr)) = .ok (plain w, {}) := by
  match w with
  | [] => rfl
  | [c] =>
      show Node.ofExpr {} (litExpr c) = _
      rw [litExpr, Node.ofExpr, charNode_default]
      rfl
  | c :: d :: rest =>
      show Node.ofExpr {} (.concat ((c :: d :: rest).map litExpr)) = _
      rw [Node.ofExpr]
      simp only [bind, Except.bind, ofExprs_word, ofParts_words]

section

variable {source : String} {w : List Char} (h : Spells source.toList w)

include h

theorem parse_plain : parse source = .ok ⟨source, plain w⟩ := by
  have hnumber : (plain w).number 0 = (plain w, 0) := by
    unfold plain plainParts
    split <;> rfl
  unfold parse
  simp only [read_plain h, bind, Except.bind, ofExpr_plain, hnumber]

/-- **A plain text is a valid pattern**, unless it is too long. -/
theorem compile_plain :
    compile source =
      if (plain w).bytes ≤ sizeLimit then .ok ⟨source, plain w⟩ else .error .tooLarge :=
  compile_of_parse (parse_plain h)

theorem isTooLarge_plain : IsTooLarge source ↔ ¬ (plain w).bytes ≤ sizeLimit :=
  isTooLarge_iff_of_parse (parse_plain h)

end

/-! ### What it matches -/

/-- A plain text leads on from the places where it stands. -/
theorem passFrom_plain (w : List Char) (before : Option Char) (rest : List Char) (pos : Nat) :
    passFrom (plainParts w) before rest pos =
      if w <+: rest then
        some ⟨[], w.getLast?.or before, rest.drop w.length, pos + w.length, []⟩
      else none := by
  have heat : ∀ t : Thread, t.passAll (plainParts w) = t.eat w := by
    intro t
    unfold plainParts
    split
    · next hw =>
        rw [hw]
        rfl
    · show (t.eat w).bind (·.passAll []) = _
      cases t.eat w <;> rfl
  rw [passFrom, heat, Thread.eat_eq]

/-- Where a word stands first in a text. -/
structure StandsFirst (w before after text : List Char) : Prop where
  split : text = before ++ w ++ after
  first : ∀ before' after', text = before' ++ w ++ after' → before.length ≤ before'.length

/-- A text that holds a word holds it somewhere first. -/
theorem exists_standsFirst {w text : List Char} (h : w <:+: text) :
    ∃ before after, StandsFirst w before after text := by
  induction text with
  | nil =>
      obtain rfl : w = [] := List.eq_nil_of_infix_nil h
      exact ⟨[], [], rfl, fun _ _ _ => Nat.zero_le _⟩
  | cons c rest ih =>
      by_cases hhere : w <+: c :: rest
      · obtain ⟨after, hafter⟩ := hhere
        exact ⟨[], after, hafter.symm, fun _ _ _ => Nat.zero_le _⟩
      · have hrest : w <:+: rest := (List.infix_cons_iff.mp h).resolve_left hhere
        obtain ⟨before, after, hsplit, hfirst⟩ := ih hrest
        refine ⟨c :: before, after, by rw [hsplit]; rfl, fun before' after' hsplit' => ?_⟩
        cases before' with
        | nil => exact absurd ⟨after', hsplit'.symm⟩ hhere
        | cons d before' =>
            have hsplit'' : rest = before' ++ w ++ after' := (List.cons.inj hsplit').2
            have := hfirst before' after' hsplit''
            simpa using this

namespace StandsFirst

variable {w before after before' after' text : List Char}

theorem isInfix (h : StandsFirst w before after text) : w <:+: text := ⟨before, after, h.split.symm⟩

/-- There is one such place. -/
theorem unique (h : StandsFirst w before after text) (h' : StandsFirst w before' after' text) :
    before = before' ∧ after = after' := by
  have hlength : before.length = before'.length :=
    Nat.le_antisymm (h.first _ _ h'.split) (h'.first _ _ h.split)
  have hsplit : before ++ (w ++ after) = before' ++ (w ++ after') := by
    rw [← List.append_assoc, ← List.append_assoc, ← h.split, ← h'.split]
  obtain ⟨hbefore, hrest⟩ := List.append_inj hsplit hlength
  exact ⟨hbefore, List.append_cancel_left hrest⟩

end StandsFirst

/-- A word stands first where it stands and nowhere ahead of that. -/
theorem standsFirst_iff {w before after text : List Char} :
    StandsFirst w before after text ↔
      text = before ++ w ++ after ∧ ∀ n < before.length, ¬ w <+: text.drop n := by
  constructor
  · rintro ⟨hsplit, hfirst⟩
    refine ⟨hsplit, fun n hn ⟨rest, hrest⟩ => ?_⟩
    have hlong := hfirst (text.take n) rest (by
      rw [List.append_assoc, hrest, List.take_append_drop])
    rw [List.length_take] at hlong
    omega
  · rintro ⟨hsplit, hnot⟩
    refine ⟨hsplit, fun before' after' hsplit' => Nat.le_of_not_lt fun hshort => ?_⟩
    refine hnot before'.length hshort ⟨after', ?_⟩
    rw [hsplit', List.append_assoc, List.drop_left]

instance (w before after text : List Char) : Decidable (StandsFirst w before after text) :=
  decidable_of_iff _ standsFirst_iff.symm

/-- **A plain text matches in the texts that hold it**, and in no other. -/
theorem find?_plain_eq_none_iff (w text : List Char) :
    (plain w).find? text = none ↔ ¬ w <:+: text := by
  unfold Node.find? plain
  rw [findFrom_eq_none_iff (isStraight_plainParts w) (le_budget_straight _ _)]
  constructor
  · rintro hall ⟨before, after, hsplit⟩
    have hnone := hall before (w ++ after) (by rw [← hsplit, List.append_assoc])
    rw [passFrom_plain, if_pos (List.prefix_append w after)] at hnone
    exact absurd hnone (by simp)
  · intro hnot passed ahead hsplit
    rw [passFrom_plain, if_neg]
    rintro ⟨after, hafter⟩
    exact hnot ⟨passed, after, by rw [hsplit, ← hafter, List.append_assoc]⟩

/-- **The match of a plain text is where it stands first.** -/
theorem find?_plain_eq_some {w before after text : List Char}
    (h : StandsFirst w before after text) :
    (plain w).find? text = some ⟨before.length, before.length + w.length, []⟩ := by
  obtain ⟨hsplit, hfirst⟩ := h
  have hsplit : text = before ++ (w ++ after) := by rw [hsplit, List.append_assoc]
  have hhere : passFrom (plainParts w) (before.getLast?.or none) (w ++ after)
      (0 + before.length) = some ⟨[], w.getLast?.or (before.getLast?.or none),
        (w ++ after).drop w.length, 0 + before.length + w.length, []⟩ := by
    rw [passFrom_plain, if_pos (List.prefix_append w after)]
  unfold Node.find? plain
  rw [hsplit, findFrom_eq_some (isStraight_plainParts w) (le_budget_straight _ _) ∅ none 0 hhere]
  · rw [Nat.zero_add]
  · intro before' ahead' hsplit' hshort
    rw [passFrom_plain, if_neg]
    rintro ⟨after', hafter'⟩
    have hlong := hfirst before' after' (by rw [hsplit, hsplit', ← hafter', List.append_assoc])
    omega

end AppBuild.Pattern
