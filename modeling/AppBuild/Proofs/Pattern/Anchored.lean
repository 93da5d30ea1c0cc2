/-
What a plain text between anchors matches.

The node of such a pattern is one word between two looks, so a run of it is a straight
line.  From the start of a text the line goes through exactly when the text is the word,
and from any later place it ends at the first look.  So the pattern finds its word,
whole, and nothing else (`find?_anchored`).

What can refuse such a pattern is its size alone (`compile_anchored`).
-/
import AppBuild.Proofs.Pattern.Literal
import AppBuild.Proofs.Pattern.Straight

namespace AppBuild.Pattern

/-! ### The node of an anchored text -/

/-- The parts of the node of a text between anchors. -/
def anchoredParts (w : List Char) : List Node :=
  .look .textStart :: ((if w = [] then [] else [.word w]) ++ [.look .textEnd])

/-- The node of a text between anchors. -/
def anchored (w : List Char) : Node := .sequence (anchoredParts w)

theorem isStraight_anchoredParts (w : List Char) : ∀ n ∈ anchoredParts w, n.IsStraight := by
  intro n hn
  unfold anchoredParts at hn
  split at hn
  · rcases List.mem_cons.mp hn with rfl | hn
    · trivial
    · rw [List.mem_singleton.mp hn]
      trivial
  · rcases List.mem_cons.mp hn with rfl | hn
    · trivial
    · rcases List.mem_cons.mp hn with rfl | hn
      · trivial
      · rw [List.mem_singleton.mp hn]
        trivial

theorem ofExprs_lits (w : List Char) :
    Node.ofExprs {} (w.map litExpr ++ [.place .lineEnd]) =
      .ok (w.map (fun c => .word [c]) ++ [.look .textEnd], {}) := by
  induction w with
  | nil => rfl
  | cons c rest ih =>
      rw [List.map_cons, List.cons_append, Node.ofExprs, litExpr, Node.ofExpr, charNode_default]
      simp only [bind, Except.bind, ih]
      rfl

theorem foldr_prepend_words (w : List Char) :
    (w.map (fun c => Node.word [c]) ++ [Node.look .textEnd]).foldr Node.prepend [] =
      (if w = [] then [] else [.word w]) ++ [.look .textEnd] := by
  induction w with
  | nil => rfl
  | cons c rest ih =>
      rw [List.map_cons, List.cons_append, List.foldr_cons, ih]
      cases rest <;> rfl

theorem ofExpr_anchored (w : List Char) :
    Node.ofExpr {} (anchoredExpr w) = .ok (anchored w, {}) := by
  have hparts : (Node.look .textStart :: (w.map (fun c => Node.word [c]) ++
      [.look .textEnd])).flatMap Node.parts
      = .look .textStart :: (w.map (fun c => Node.word [c]) ++ [.look .textEnd]) := by
    rw [List.flatMap_cons, List.flatMap_append, List.flatMap_map]
    simp [Node.parts, List.map_eq_flatMap]
  unfold anchoredExpr
  rw [Node.ofExpr, Node.ofExprs, Node.ofExpr]
  simp only [bind, Except.bind, ofExprs_lits]
  show Except.ok (Node.ofParts (Node.look .textStart :: _), _) = _
  rw [Node.ofParts, hparts, List.foldr_cons, foldr_prepend_words]
  rfl

theorem number_anchored (w : List Char) (n : Nat) : (anchored w).number n = (anchored w, n) := by
  unfold anchored anchoredParts
  split <;> rfl

section

variable {body w : List Char} (h : Spells body w) {source : String}
  (hsource : source.toList = '^' :: (body ++ ['$']))

include h hsource

theorem parse_anchored : parse source = .ok ⟨source, anchored w⟩ := by
  unfold parse
  simp only [read_anchored h hsource, bind, Except.bind, ofExpr_anchored, number_anchored]

/-- **A text between anchors is a valid pattern**, unless it is too long. -/
theorem compile_anchored :
    compile source =
      if (anchored w).bytes ≤ sizeLimit then .ok ⟨source, anchored w⟩ else .error .tooLarge :=
  compile_of_parse (parse_anchored h hsource)

theorem isTooLarge_anchored : IsTooLarge source ↔ ¬ (anchored w).bytes ≤ sizeLimit :=
  isTooLarge_iff_of_parse (parse_anchored h hsource)

end

/-! ### What it matches -/

/-- From the start of a text the parts lead through exactly the word. -/
theorem passAll_anchored (w : List Char) (t : Thread) :
    t.passAll (anchoredParts w) =
      if t.before = none ∧ t.rest = w then
        some { t with before := w.getLast?, rest := [], pos := t.pos + w.length }
      else none := by
  have hend : ∀ t : Thread, t.passAll [.look .textEnd] = if t.rest = [] then some t else none := by
    intro t
    show (if t.rest.head?.isNone then some t else none).bind _ = _
    cases t.rest <;> rfl
  have hword : ∀ t : Thread, t.passAll ((if w = [] then [] else [.word w]) ++ [.look .textEnd])
      = (t.eat w).bind (·.passAll [.look .textEnd]) := by
    intro t
    split
    · next hw => rw [hw]; rfl
    · rfl
  unfold anchoredParts
  show (if t.before.isNone then some t else none).bind (·.passAll _) = _
  cases hbefore : t.before with
  | some c => simp
  | none =>
      rw [Option.isNone_none, if_pos rfl, Option.bind_some, hword, Thread.eat_eq]
      by_cases hrest : t.rest = w
      · subst hrest
        simp [hend, hbefore]
      · by_cases hstarts : w <+: t.rest
        · obtain ⟨more, hmore⟩ := hstarts
          have hne : more ≠ [] := by
            rintro rfl
            exact hrest (by simpa using hmore.symm)
          simp [hend, ← hmore, hne]
        · simp [hstarts, hrest]

theorem matchAt_anchored {w : List Char} {budget : Nat}
    (h : 2 * (anchoredParts w).length + 2 ≤ budget) (seen : Seen) (before : Option Char)
    (rest : List Char) (pos : Nat) :
    (anchored w).matchAt budget seen before rest pos =
      (if before = none ∧ rest = w then some ⟨[], w.getLast?, [], pos + w.length, []⟩ else none,
        seen) := by
  unfold anchored
  rw [matchAt_straight (isStraight_anchoredParts w) h, passFrom, passAll_anchored]
  split <;> rfl

/-- No later place is the start of a text. -/
theorem findFrom_anchored_some {w : List Char} {budget : Nat}
    (h : 2 * (anchoredParts w).length + 2 ≤ budget) (seen : Seen) (c : Char) (rest : List Char)
    (pos : Nat) : (anchored w).findFrom budget seen (some c) rest pos = none := by
  induction rest generalizing c pos with
  | nil =>
      rw [Node.findFrom, matchAt_anchored h]
      simp
  | cons d rest ih =>
      rw [Node.findFrom, matchAt_anchored h]
      simp only [reduceCtorEq, false_and, if_false]
      exact ih d (pos + 1)

/-- **A text between anchors matches that text, whole, and no other.** -/
theorem find?_anchored (w text : List Char) :
    (anchored w).find? text = if text = w then some ⟨0, w.length, []⟩ else none := by
  have hbudget : 2 * (anchoredParts w).length + 2 ≤ (anchored w).budget text.length :=
    le_budget_straight (anchoredParts w) text.length
  unfold Node.find?
  cases text with
  | nil =>
      rw [Node.findFrom, matchAt_anchored hbudget]
      by_cases hw : [] = w
      · simp [← hw]
      · simp [hw]
  | cons c rest =>
      rw [Node.findFrom, matchAt_anchored hbudget]
      by_cases hw : c :: rest = w
      · simp [hw]
      · simp only [hw, and_false, if_false]
        exact findFrom_anchored_some hbudget _ c rest 1

end AppBuild.Pattern
