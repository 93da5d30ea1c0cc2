/-
Patterns without forks.

A node that holds neither a choice nor a repetition is run along a straight line: each
part moves the thread or ends it, no fork is ever seen, and the fuel is never short
(`run_straight`).  What was tried before therefore plays no part, and whether there is a
match at a place is decided by the text around that place alone (`matchAt_straight`).

So the first match in a text is at the first place from which the line goes through.
There is none exactly if it goes through from nowhere (`findFrom_eq_none_iff`), and a
place from which it does, with none before it, is where the match starts
(`findFrom_eq_some`).
-/
import AppBuild.Pattern.Machine

namespace AppBuild.Pattern

/-- Has the node neither a choice nor a repetition, nor anything within it? -/
def Node.IsStraight : Node → Prop
  | .word _ => True
  | .set _ => True
  | .caseless _ => True
  | .look _ => True
  | _ => False

namespace Thread

/-- Where a thread is after a straight node, if it gets through. -/
def pass (t : Thread) : Node → Option Thread
  | .word cs => t.eat cs
  | .set s => t.eatIf s.contains
  | .caseless c => t.eatIf fun d => Unicode.Folding.fold d == Unicode.Folding.fold c
  | .look l => if l.holds t.before t.rest.head? then some t else none
  | _ => none

/-- Where a thread is after straight nodes, if it gets through. -/
def passAll (t : Thread) : List Node → Option Thread
  | [] => some t
  | n :: ns => (t.pass n).bind (·.passAll ns)

/-- What a thread that eats has before it, and what it has in front of it. -/
theorem eat_eq (t : Thread) (cs : List Char) :
    t.eat cs =
      if cs <+: t.rest then
        some { t with
          before := cs.getLast?.or t.before, rest := t.rest.drop cs.length,
          pos := t.pos + cs.length }
      else none := by
  induction cs generalizing t with
  | nil => simp [eat]
  | cons c cs ih =>
      unfold eat eatIf
      cases hrest : t.rest with
      | nil => simp
      | cons d rest =>
          by_cases hd : d = c
          · subst hd
            simp only [beq_self_eq_true, if_true, Option.bind_some, ih, List.cons_prefix_cons,
              true_and, List.length_cons, List.drop_succ_cons]
            split
            · cases hlast : cs.getLast? <;>
                simp [List.getLast?_cons, hlast, Nat.add_assoc, Nat.add_comm 1]
            · rfl
          · have hne : (d == c) = false := by simpa using hd
            have hnot : ¬ c :: cs <+: d :: rest := by
              rw [List.cons_prefix_cons]
              exact fun h => hd h.1.symm
            simp [hne, hnot]

theorem eatIf_todo (t : Thread) (p : Char → Bool) (k : List Todo) :
    ({ t with todo := k }).eatIf p = (t.eatIf p).map ({ · with todo := k }) := by
  unfold eatIf
  cases t.rest with
  | nil => rfl
  | cons c rest =>
      show (if p c then _ else none) = (if p c then _ else none : Option Thread).map _
      split <;> rfl

variable {n : Node}

theorem step_straight (h : n.IsStraight) (t : Thread) (k : List Todo) :
    step { t with todo := .run n :: k } = goOn (({ t with todo := k }).pass n) := by
  cases n with
  | word cs => rfl
  | set s => rfl
  | caseless c => rfl
  | look l =>
      show (if l.holds t.before t.rest.head? then Outcome.next { t with todo := k }
        else .failed) = goOn (if l.holds t.before t.rest.head? then _ else _)
      split <;> rfl
  | _ => exact h.elim

theorem step_seq (t : Thread) (a b : Node) (k : List Todo) :
    step { t with todo := .run (.seq a b) :: k } =
      .next { t with todo := .run a :: .run b :: k } := rfl

/-- What is still to be matched plays no part in passing a node. -/
theorem pass_todo (h : n.IsStraight) (t : Thread) (k : List Todo) :
    ({ t with todo := k }).pass n = (t.pass n).map ({ · with todo := k }) := by
  cases n with
  | word cs =>
      show ({ t with todo := k }).eat cs = (t.eat cs).map _
      rw [eat_eq, eat_eq]
      split <;> rfl
  | set s => exact t.eatIf_todo _ k
  | caseless c => exact t.eatIf_todo _ k
  | look l =>
      show (if l.holds t.before t.rest.head? then _ else _)
        = (if l.holds t.before t.rest.head? then _ else _ : Option Thread).map _
      split <;> rfl
  | _ => exact h.elim

end Thread

/-! ### Running -/

/-- One straight node takes one step. -/
theorem run_pass {n : Node} (h : n.IsStraight) (fuel : Nat) (seen : Seen) (t : Thread)
    (k : List Todo) :
    run (fuel + 2) seen [{ t with todo := .run n :: k }] =
      match t.pass n with
      | some t' => run (fuel + 1) seen [{ t' with todo := k }]
      | none => (none, seen) := by
  rw [run, Thread.step_straight h, Thread.pass_todo h]
  cases t.pass n <;> rfl

variable {ns : List Node}

/-- A run of straight nodes gets to where they lead, or comes to nothing. -/
theorem run_straight (h : ∀ n ∈ ns, n.IsStraight) (fuel : Nat) (seen : Seen) (t : Thread) :
    run (fuel + 2 * ns.length + 2) seen [{ t with todo := [.run (Node.sequence ns)] }] =
      ((t.passAll ns).map ({ · with todo := [] }), seen) := by
  induction ns generalizing fuel t with
  | nil => rfl
  | cons n ns ih =>
      have hn : n.IsStraight := h n (by simp)
      have hns : ∀ m ∈ ns, m.IsStraight := fun m hm => h m (by simp [hm])
      cases ns with
      | nil =>
          show run (fuel + 2 + 2) seen [{ t with todo := [.run n] }] = _
          rw [run_pass hn]
          show _ = (((t.pass n).bind (·.passAll [])).map _, seen)
          cases t.pass n <;> rfl
      | cons m rest =>
          have hfuel : fuel + 2 * (n :: m :: rest).length + 2
              = (fuel + 2 * (m :: rest).length + 1) + 2 + 1 := by
            simp only [List.length_cons]
            omega
          rw [hfuel]
          show run ((fuel + 2 * (m :: rest).length + 1) + 2 + 1) seen
            [{ t with todo := [.run (.seq n (Node.sequence (m :: rest)))] }] = _
          rw [run, Thread.step_seq]
          show run ((fuel + 2 * (m :: rest).length + 1) + 2) seen
            [{ t with todo := [.run n, .run (Node.sequence (m :: rest))] }] = _
          rw [run_pass hn]
          show _ = (((t.pass n).bind (·.passAll (m :: rest))).map _, seen)
          cases t.pass n with
          | none => rfl
          | some t' => exact ih hns fuel t'

theorem Node.weight_pos (n : Node) : 0 < n.weight := by
  cases n <;> simp [weight]

theorem Node.length_le_weight (ns : List Node) : ns.length ≤ (sequence ns).weight := by
  induction ns with
  | nil => exact Nat.zero_le _
  | cons n ns ih =>
      cases ns with
      | nil => exact n.weight_pos
      | cons m rest =>
          show rest.length + 1 + 1 ≤ n.weight + (sequence (m :: rest)).weight + 1
          have hn := n.weight_pos
          simp only [List.length_cons] at ih
          omega

/-- The budget of straight nodes lets them through. -/
theorem le_budget_straight (ns : List Node) (length : Nat) :
    2 * ns.length + 2 ≤ (Node.sequence ns).budget length := by
  have hweight := Node.length_le_weight ns
  have hsquare : 1 * ((Node.sequence ns).weight + 2) ≤
      ((Node.sequence ns).weight + 2) * ((Node.sequence ns).weight + 2) :=
    Nat.mul_le_mul (by omega) (Nat.le_refl _)
  have hbudget : 4 * (1 * ((Node.sequence ns).weight + 2)) * 1 ≤
      (Node.sequence ns).budget length := by
    unfold Node.budget
    rw [Nat.mul_assoc 4 ((Node.sequence ns).weight + 2)]
    exact Nat.mul_le_mul (Nat.mul_le_mul (Nat.le_refl 4) hsquare) (by omega)
  omega

/-! ### The first match -/

/-- Where straight nodes lead from a place in a text, if they lead on. -/
def passFrom (ns : List Node) (before : Option Char) (rest : List Char) (pos : Nat) :
    Option Thread :=
  Thread.passAll ⟨[], before, rest, pos, []⟩ ns

/-- A place after one more character is a place in the rest of the text. -/
theorem passFrom_cons (before : Option Char) (c : Char) (passed ahead : List Char) (pos : Nat) :
    passFrom ns ((c :: passed).getLast?.or before) ahead (pos + (c :: passed).length) =
      passFrom ns (passed.getLast?.or (some c)) ahead (pos + 1 + passed.length) := by
  have hlast : (c :: passed).getLast?.or before = passed.getLast?.or (some c) := by
    rw [List.getLast?_cons]
    cases passed.getLast? <;> rfl
  have hpos : pos + (c :: passed).length = pos + 1 + passed.length := by
    rw [List.length_cons]
    omega
  rw [hlast, hpos]

/-- **A match at a place is a straight line from there.** -/
theorem matchAt_straight (h : ∀ n ∈ ns, n.IsStraight) {budget : Nat}
    (hbudget : 2 * ns.length + 2 ≤ budget) (seen : Seen) (before : Option Char)
    (rest : List Char) (pos : Nat) :
    (Node.sequence ns).matchAt budget seen before rest pos =
      ((passFrom ns before rest pos).map ({ · with todo := [] }), seen) := by
  obtain ⟨fuel, rfl⟩ : ∃ fuel, budget = fuel + 2 * ns.length + 2 :=
    ⟨budget - (2 * ns.length + 2), by omega⟩
  exact run_straight h fuel seen ⟨[], before, rest, pos, []⟩

section

variable (h : ∀ n ∈ ns, n.IsStraight) {budget : Nat} (hbudget : 2 * ns.length + 2 ≤ budget)

include h hbudget

/-- There is no match exactly if straight nodes lead on from nowhere. -/
theorem findFrom_eq_none_iff (seen : Seen) (before : Option Char) (rest : List Char)
    (pos : Nat) :
    (Node.sequence ns).findFrom budget seen before rest pos = none ↔
      ∀ passed ahead, rest = passed ++ ahead →
        passFrom ns (passed.getLast?.or before) ahead (pos + passed.length) = none := by
  induction rest generalizing before pos with
  | nil =>
      rw [Node.findFrom, matchAt_straight h hbudget]
      constructor
      · intro hnone passed ahead hsplit
        obtain ⟨rfl, rfl⟩ := List.append_eq_nil_iff.mp hsplit.symm
        simpa using hnone
      · intro hall
        have hhere : passFrom ns before [] pos = none := hall [] [] rfl
        rw [hhere]
        rfl
  | cons c rest ih =>
      rw [Node.findFrom, matchAt_straight h hbudget]
      cases hhere : passFrom ns before (c :: rest) pos with
      | some t =>
          refine iff_of_false (by simp) (fun hall => ?_)
          have hnone : passFrom ns before (c :: rest) pos = none := hall [] (c :: rest) rfl
          rw [hhere] at hnone
          exact absurd hnone (by simp)
      | none =>
          show (Node.sequence ns).findFrom budget seen (some c) rest (pos + 1) = none ↔ _
          rw [ih (some c) (pos + 1)]
          constructor
          · intro hall passed ahead hsplit
            cases passed with
            | nil =>
                rw [List.nil_append] at hsplit
                rw [← hsplit]
                exact hhere
            | cons d passed =>
                rw [List.cons_append] at hsplit
                obtain ⟨hc, hrest⟩ := List.cons.inj hsplit
                rw [← hc, passFrom_cons]
                exact hall passed ahead hrest
          · intro hall passed ahead hsplit
            rw [← passFrom_cons]
            exact hall (c :: passed) ahead (by rw [hsplit, List.cons_append])

/-- The match starts at the first place from which straight nodes lead on. -/
theorem findFrom_eq_some (seen : Seen) (before : Option Char) {passed ahead : List Char}
    (pos : Nat) {t : Thread}
    (hhere : passFrom ns (passed.getLast?.or before) ahead (pos + passed.length) = some t)
    (hfirst : ∀ passed' ahead', passed ++ ahead = passed' ++ ahead' →
      passed'.length < passed.length →
        passFrom ns (passed'.getLast?.or before) ahead' (pos + passed'.length) = none) :
    (Node.sequence ns).findFrom budget seen before (passed ++ ahead) pos =
      some ⟨pos + passed.length, t.pos, t.slots⟩ := by
  induction passed generalizing before pos with
  | nil =>
      have hhere : passFrom ns before ahead pos = some t := hhere
      cases ahead with
      | nil =>
          rw [List.append_nil, Node.findFrom, matchAt_straight h hbudget, hhere]
          rfl
      | cons c ahead =>
          rw [List.nil_append, Node.findFrom, matchAt_straight h hbudget, hhere]
          rfl
  | cons c passed ih =>
      have hnot : passFrom ns before (c :: (passed ++ ahead)) pos = none :=
        hfirst [] (c :: (passed ++ ahead)) rfl (by simp)
      rw [List.cons_append, Node.findFrom, matchAt_straight h hbudget, hnot]
      show (Node.sequence ns).findFrom budget seen (some c) (passed ++ ahead) (pos + 1) = _
      have hlength : pos + (c :: passed).length = pos + 1 + passed.length := by
        rw [List.length_cons]
        omega
      rw [hlength]
      refine ih (some c) (pos + 1) ?_ ?_
      · rw [← passFrom_cons]
        exact hhere
      · intro passed' ahead' hsplit hshort
        rw [← passFrom_cons]
        exact hfirst (c :: passed') ahead' (by rw [List.cons_append, hsplit, List.cons_append])
          (by simpa using hshort)

end

end AppBuild.Pattern
