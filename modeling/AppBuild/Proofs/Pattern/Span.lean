/-
Where a match lies.

A thread has its place in the text: what it has in front of it is the text from there
on.  Passing characters keeps that, and no other step moves a thread (`standsIn_step`),
so all threads of a run stand in the text, and none of them before the place where the
run started (`standsIn_run`).  A match therefore ends at or after its start and within
the text (`span_find?`): it cuts the text into what is before it, what it matches and
what is after it (`split_at_match`).
-/
import AppBuild.Pattern.Machine

namespace AppBuild.Pattern

variable {text : List Char} {start : Nat}

/-- Where there is a character in front there is a place after it. -/
theorem drop_succ_of_drop {pos : Nat} {c : Char} {rest : List Char}
    (h : text.drop pos = c :: rest) : pos + 1 ≤ text.length ∧ text.drop (pos + 1) = rest := by
  have hlength := congrArg List.length h
  rw [List.length_drop, List.length_cons] at hlength
  refine ⟨by omega, ?_⟩
  rw [← List.drop_drop, h]
  rfl

/-! ### Threads in a text -/

/-- The threads that a step goes on with. -/
def Outcome.threads : Outcome → List Thread
  | .matched => []
  | .failed => []
  | .next t => [t]
  | .fork _ first second => [first, second]

namespace Thread

variable {t t' : Thread}

/-- The thread stands in the text, at or after a place. -/
structure StandsIn (text : List Char) (start : Nat) (t : Thread) : Prop where
  start_le : start ≤ t.pos
  pos_le : t.pos ≤ text.length
  rest_eq : t.rest = text.drop t.pos

/-- What is still to be matched and what is remembered play no part. -/
theorem StandsIn.with (h : t.StandsIn text start) (todo : List Todo) (slots : List (Nat × Nat)) :
    StandsIn text start { t with todo, slots } := ⟨h.start_le, h.pos_le, h.rest_eq⟩

theorem StandsIn.eatIf (h : t.StandsIn text start) {p : Char → Bool}
    (ht : t.eatIf p = some t') : t'.StandsIn text start := by
  unfold Thread.eatIf at ht
  split at ht
  · exact absurd ht (by simp)
  · next c rest hrest =>
      split at ht
      · obtain ⟨hle, hdrop⟩ := drop_succ_of_drop (h.rest_eq.symm.trans hrest)
        rw [← Option.some.inj ht]
        exact ⟨Nat.le_succ_of_le h.start_le, hle, hdrop.symm⟩
      · exact absurd ht (by simp)

theorem StandsIn.eat (h : t.StandsIn text start) {cs : List Char}
    (ht : t.eat cs = some t') : t'.StandsIn text start := by
  induction cs generalizing t with
  | nil => exact Option.some.inj ht ▸ h
  | cons c cs ih =>
      obtain ⟨next, hnext, ht⟩ := Option.bind_eq_some_iff.mp ht
      exact ih (h.eatIf hnext) ht

theorem standsIn_goOn {passed : Option Thread}
    (h : ∀ t, passed = some t → t.StandsIn text start) :
    ∀ t ∈ (goOn passed).threads, t.StandsIn text start := by
  cases passed with
  | none => simp [goOn, Outcome.threads]
  | some t =>
      intro t' ht'
      rw [List.mem_singleton.mp ht']
      exact h t rfl

theorem standsIn_fork (h : t.StandsIn text start) (key : List Nat) (greedy : Bool)
    (inside after : List Todo) :
    ∀ t' ∈ (t.fork key greedy inside after).threads, t'.StandsIn text start := by
  have hboth : ∀ a b : List Todo, ∀ t' ∈ [{ t with todo := a }, { t with todo := b }],
      t'.StandsIn text start := by
    intro a b t' ht'
    rw [List.mem_cons, List.mem_singleton] at ht'
    rcases ht' with rfl | rfl
    · exact h.with a t.slots
    · exact h.with b t.slots
  cases greedy with
  | true => exact hboth inside after
  | false => exact hboth after inside

/-- **A step leaves a thread in the text.** -/
theorem standsIn_step (h : t.StandsIn text start) :
    ∀ t' ∈ t.step.threads, t'.StandsIn text start := by
  have hnext : ∀ (todo : List Todo) (slots : List (Nat × Nat)),
      ∀ t' ∈ (Outcome.next { t with todo, slots }).threads, t'.StandsIn text start := by
    intro todo slots t' ht'
    rw [List.mem_singleton.mp ht']
    exact h.with todo slots
  have heatIf : ∀ (k : List Todo) (p : Char → Bool),
      ∀ t' ∈ (goOn ({ t with todo := k }.eatIf p)).threads, t'.StandsIn text start :=
    fun k p => standsIn_goOn fun t' ht' => (h.with k t.slots).eatIf ht'
  unfold step
  split
  · simp [Outcome.threads]
  · exact hnext _ _
  · exact standsIn_fork h _ _ _ _
  · next n k _ =>
      cases n with
      | empty => exact hnext k t.slots
      | word cs => exact standsIn_goOn fun t' ht' => (h.with k t.slots).eat ht'
      | set s => exact heatIf k _
      | caseless c => exact heatIf k _
      | look l =>
          simp only
          split
          · exact hnext k t.slots
          · simp [Outcome.threads]
      | seq a b => exact hnext _ t.slots
      | alt id a b =>
          exact standsIn_fork h [id, 0, 0] true (.run a :: k) (.run b :: k)
      | capture index body => exact hnext _ t.slots
      | «repeat» id min max greedy body =>
          rcases min with _ | _ | min <;> rcases max with _ | _ | max <;> simp only
          · split
            · exact standsIn_fork h _ _ _ _
            · exact hnext _ t.slots
          · exact hnext k t.slots
          · exact standsIn_fork h _ _ _ _
          all_goals exact hnext _ t.slots

end Thread

/-! ### Runs -/

/-- **All that a run comes to stands in the text.** -/
theorem standsIn_run {fuel : Nat} {seen seen' : Seen} {ts : List Thread} {t : Thread}
    (h : ∀ t ∈ ts, t.StandsIn text start) (hrun : run fuel seen ts = (some t, seen')) :
    t.StandsIn text start := by
  induction fuel generalizing seen ts with
  | zero => exact absurd (congrArg Prod.fst hrun) (by simp [run])
  | succ fuel ih =>
      cases ts with
      | nil => exact absurd (congrArg Prod.fst hrun) (by simp [run])
      | cons first ts =>
          have hrest : ∀ t ∈ ts, t.StandsIn text start := fun t ht => h t (by simp [ht])
          have hstep := Thread.standsIn_step (h first (by simp))
          rw [run] at hrun
          cases hout : first.step with
          | matched =>
              rw [hout] at hrun
              obtain ⟨hfirst, -⟩ := Prod.mk.inj hrun
              exact Option.some.inj hfirst ▸ h first (by simp)
          | failed =>
              rw [hout] at hrun
              exact ih hrest hrun
          | next next =>
              rw [hout] at hrun hstep
              exact ih (List.forall_mem_cons.mpr ⟨hstep next (by simp [Outcome.threads]), hrest⟩) hrun
          | fork key one other =>
              rw [hout] at hrun hstep
              simp only at hrun
              split at hrun
              · exact ih hrest hrun
              · refine ih (List.forall_mem_cons.mpr ⟨hstep one (by simp [Outcome.threads]), ?_⟩) hrun
                exact List.forall_mem_cons.mpr ⟨hstep other (by simp [Outcome.threads]), hrest⟩

/-! ### Matches -/

/-- The match ends at or after its start, and within a text of the given length. -/
structure Match.Spans (m : Match) (length : Nat) : Prop where
  start_le : m.start ≤ m.stop
  stop_le : m.stop ≤ length

theorem spans_of_matchAt {n : Node} {budget : Nat} {seen seen' : Seen} {before : Option Char}
    {rest : List Char} {pos : Nat} {t : Thread} (hpos : pos ≤ text.length)
    (hrest : rest = text.drop pos) (h : n.matchAt budget seen before rest pos = (some t, seen')) :
    Match.Spans ⟨pos, t.pos, t.slots⟩ text.length := by
  have hstands : ∀ t ∈ [(⟨[.run n], before, rest, pos, []⟩ : Thread)],
      t.StandsIn text pos := by
    intro t ht
    rw [List.mem_singleton.mp ht]
    exact ⟨Nat.le_refl pos, hpos, hrest⟩
  have ht := standsIn_run hstands h
  exact ⟨ht.start_le, ht.pos_le⟩

theorem spans_findFrom {n : Node} {budget : Nat} {seen : Seen} {before : Option Char}
    {rest : List Char} {pos : Nat} {m : Match} (hpos : pos ≤ text.length)
    (hrest : rest = text.drop pos) (h : n.findFrom budget seen before rest pos = some m) :
    m.Spans text.length := by
  induction rest generalizing seen before pos with
  | nil =>
      obtain ⟨t, ht, rfl⟩ := Option.map_eq_some_iff.mp h
      exact spans_of_matchAt hpos hrest (Prod.ext ht rfl)
  | cons c rest ih =>
      rw [Node.findFrom] at h
      split at h
      · next t seen' hmatch =>
          rw [← Option.some.inj h]
          exact spans_of_matchAt hpos hrest hmatch
      · obtain ⟨hle, hdrop⟩ := drop_succ_of_drop hrest.symm
        exact ih hle hdrop.symm h

/-- **The first match in a text lies within the text.** -/
theorem Node.spans_find? {n : Node} {m : Match} (h : n.find? text = some m) :
    m.Spans text.length :=
  spans_findFrom (Nat.zero_le _) rfl h

/-- A match cuts the text in three. -/
theorem Match.Spans.split {m : Match} (h : m.Spans text.length) :
    text = text.take m.start ++ (text.take m.stop).drop m.start ++ text.drop m.stop := by
  have htake : text.take m.start = (text.take m.stop).take m.start := by
    rw [List.take_take, Nat.min_eq_left h.start_le]
  rw [htake, List.take_append_drop, List.take_append_drop]

end AppBuild.Pattern
