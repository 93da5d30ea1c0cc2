/-
Patterns read without regard to case.

Under the flag for it a letter is read as the set of all that fold as it does, and as a
word of one character if there is no other; neighbouring words are then made into one.
None of this plays a part in matching.  A set of one character passes what the word does
(`pass_ofSet`), and one word for several passes what they do one after the other
(`passAll_foldr_prepend`).  So a sequence of letters read in this way is passed as the
sequence of their `caseless` nodes is, and two sequences that are passed alike replace
alike, wherever they come from (`replaceAll_congr`).
-/
import AppBuild.Pattern.Replace
import AppBuild.Proofs.Pattern.Literal
import AppBuild.Proofs.Pattern.Straight
import AppBuild.Proofs.Unicode.Closure

namespace AppBuild.Pattern

open Unicode.Folding

/-! ### Letters under the flag -/

/-- The flags where case plays no part. -/
def caselessFlags : Flags := { caseless := true }

/-- The node of a letter where case plays no part. -/
def letterNode (c : Char) : Node := .ofSet (closure (.singleton c))

theorem isStraight_ofSet (s : CharSet) : (Node.ofSet s).IsStraight := by
  unfold Node.ofSet
  split <;> trivial

theorem parts_ofSet (s : CharSet) : (Node.ofSet s).parts = [Node.ofSet s] := by
  unfold Node.ofSet
  split <;> rfl

/-- The one character of a set that has a character is that one. -/
theorem contains_of_single? {s : CharSet} {c d : Char} (hsingle : s.single? = some c)
    (hd : s.contains d = true) (e : Char) : s.contains e = (e == c) := by
  obtain ⟨bounds⟩ := s
  unfold CharSet.single? at hsingle
  split at hsingle
  · next lo hi hbounds =>
      simp only at hbounds
      subst hbounds
      by_cases hnext : hi = lo + 1
      · subst hnext
        rw [if_pos rfl] at hsingle
        have hlo : d.toNat = lo := (CharSet.containsCode_pair lo).mp hd
        have hc : c = d := by
          rw [← Option.some.inj hsingle, ← hlo, Char.ofNat_toNat]
        rw [Bool.eq_iff_iff, beq_iff_eq, hc, ← Char.toNat_inj, hlo]
        exact CharSet.containsCode_pair lo
      · rw [if_neg hnext] at hsingle
        exact absurd hsingle (by simp)
  · exact absurd hsingle (by simp)

namespace Thread

/-- A set is passed by its characters, whichever form its node has. -/
theorem pass_ofSet {s : CharSet} {c : Char} (hc : s.contains c = true) (t : Thread) :
    t.pass (.ofSet s) = t.eatIf s.contains := by
  unfold Node.ofSet
  split
  · next d hsingle =>
      have hsame : s.contains = (· == d) := funext (contains_of_single? hsingle hc)
      show (t.eatIf (· == d)).bind some = t.eatIf s.contains
      rw [hsame, Option.bind_fun_some]
  · rfl

/-- **A letter passes what folds as it does.** -/
theorem pass_letterNode (c : Char) (t : Thread) : t.pass (letterNode c) = t.pass (.caseless c) := by
  have hself : (closure (.singleton c)).contains c = true :=
    (contains_closure_singleton c c).mpr rfl
  have hsame : (closure (.singleton c)).contains = fun d => fold d == fold c := by
    funext d
    rw [Bool.eq_iff_iff, contains_closure_singleton, beq_iff_eq]
  unfold letterNode
  rw [pass_ofSet hself, hsame]
  rfl

/-! ### Words in a row -/

theorem eat_append (t : Thread) (cs ds : List Char) :
    t.eat (cs ++ ds) = (t.eat cs).bind (·.eat ds) := by
  induction cs generalizing t with
  | nil => rfl
  | cons c cs ih =>
      show (t.eatIf (· == c)).bind (·.eat (cs ++ ds)) = ((t.eatIf (· == c)).bind (·.eat cs)).bind _
      rw [Option.bind_assoc]
      refine Option.bind_congr ?_
      intro t' _
      exact ih t'

/-- Putting a node before others is passing it before them. -/
theorem passAll_prepend {n : Node} {ns : List Node} (t : Thread) :
    t.passAll (Node.prepend n ns) = t.passAll (n :: ns) := by
  unfold Node.prepend
  split
  · next cs ds ns =>
      show (t.eat (cs ++ ds)).bind (·.passAll ns)
        = (t.eat cs).bind fun t => (t.eat ds).bind (·.passAll ns)
      rw [eat_append, Option.bind_assoc]
  · rfl

theorem passAll_foldr_prepend (ns : List Node) (t : Thread) :
    t.passAll (ns.foldr Node.prepend []) = t.passAll ns := by
  induction ns generalizing t with
  | nil => rfl
  | cons n ns ih =>
      rw [List.foldr_cons, passAll_prepend]
      show (t.pass n).bind (·.passAll _) = (t.pass n).bind (·.passAll ns)
      refine Option.bind_congr ?_
      intro t' _
      exact ih t'

/-- Nodes that are passed alike one by one are passed alike in a row. -/
theorem passAll_congr {ns ms : List Node}
    (h : List.Forall₂ (fun n m => ∀ t : Thread, t.pass n = t.pass m) ns ms) (t : Thread) :
    t.passAll ns = t.passAll ms := by
  induction h generalizing t with
  | nil => rfl
  | cons hhead _ ih =>
      show (t.pass _).bind _ = (t.pass _).bind _
      rw [hhead t]
      refine Option.bind_congr ?_
      intro t' _
      exact ih t'

end Thread

variable {ns ms : List Node}

theorem isStraight_prepend {n : Node} (hn : n.IsStraight) (h : ∀ m ∈ ns, m.IsStraight) :
    ∀ m ∈ Node.prepend n ns, m.IsStraight := by
  unfold Node.prepend
  intro m hm
  split at hm
  · rcases List.mem_cons.mp hm with rfl | hm
    · trivial
    · exact h m (List.mem_cons_of_mem _ hm)
  · rcases List.mem_cons.mp hm with rfl | hm
    · exact hn
    · exact h m hm

theorem isStraight_foldr_prepend (h : ∀ n ∈ ns, n.IsStraight) :
    ∀ n ∈ ns.foldr Node.prepend [], n.IsStraight := by
  induction ns with
  | nil => simp
  | cons n ns ih =>
      rw [List.foldr_cons]
      exact isStraight_prepend (h n (by simp)) (ih fun m hm => h m (by simp [hm]))

/-- There is nothing to number in straight nodes. -/
theorem number_sequence (h : ∀ n ∈ ns, n.IsStraight) (k : Nat) :
    (Node.sequence ns).number k = (Node.sequence ns, k) := by
  have hone : ∀ n : Node, n.IsStraight → n.number k = (n, k) := by
    intro n hn
    cases n with
    | word cs => rfl
    | set s => rfl
    | caseless c => rfl
    | look l => rfl
    | _ => exact hn.elim
  induction ns with
  | nil => rfl
  | cons n ns ih =>
      cases ns with
      | nil => exact hone n (h n (by simp))
      | cons m rest =>
          have hrest := ih fun l hl => h l (by simp [hl])
          show (Node.seq n (Node.sequence (m :: rest))).number k = _
          rw [Node.number, hone n (h n (by simp))]
          simp only [hrest]
          rfl

/-! ### Replacing -/

/-- Nodes that match alike replace alike. -/
theorem replaceFrom_congr {n m : Node} {budget budget' : Nat}
    (h : ∀ before rest, (n.matchAt budget ∅ before rest 0).1 = (m.matchAt budget' ∅ before rest 0).1)
    (new : List Char) (skip : Nat) (after : Bool) (before : Option Char) (text : List Char) :
    n.replaceFrom budget new skip after before text =
      m.replaceFrom budget' new skip after before text := by
  induction text generalizing skip after before with
  | nil => rw [Node.replaceFrom, Node.replaceFrom, h]
  | cons c rest ih =>
      cases skip with
      | succ skip => rw [Node.replaceFrom, Node.replaceFrom, ih]
      | zero =>
          rw [Node.replaceFrom, Node.replaceFrom, h]
          simp only [ih]

/-- **Straight nodes that are passed alike replace alike.** -/
theorem replaceAll_congr (hns : ∀ n ∈ ns, n.IsStraight) (hms : ∀ m ∈ ms, m.IsStraight)
    (h : ∀ t : Thread, t.passAll ns = t.passAll ms) (new text : List Char) :
    (Node.sequence ns).replaceAll new text = (Node.sequence ms).replaceAll new text := by
  unfold Node.replaceAll
  refine replaceFrom_congr ?_ new 0 false none text
  intro before rest
  rw [matchAt_straight hns (le_budget_straight ns _), matchAt_straight hms (le_budget_straight ms _)]
  show (Thread.passAll ⟨[], before, rest, 0, []⟩ ns).map _ = _
  rw [h]
  rfl

end AppBuild.Pattern
