/-
Patterns with forks.

At a fork a run follows one thread and keeps the other, and it enters no fork twice at one
place.  Two things are said of such runs.  A match that is found is one that steps lead to
(`CanMatch`), so what it passed on the way can be read off what was to be matched (`CanRead`).
And a match that is there is found, if one can say which threads are given up before it
(`GivesUp`, `Finds`): what waits behind a thread plays no part in what becomes of it.

For the second, the forks on the way must be new to the run (`Unentered`).  They are told
from each other by their numbers, and those of one loop by their place (`LoopNew`).  A loop
through characters of a set goes on as far as it can (`finds_again`), and ends where it can go
no further (`finds_stop`) or where all that it could go on to is given up (`finds_back`).
-/
import AppBuild.Proofs.Pattern.Span
import AppBuild.Proofs.Pattern.Straight

namespace AppBuild.Pattern

/-! ### What was found was to be found -/

/-- Steps lead from the thread to a match. -/
inductive CanMatch : Thread → Prop
  | now {t : Thread} (h : t.step = .matched) : CanMatch t
  | later {t t' : Thread} (h : t' ∈ t.step.threads) (rest : CanMatch t') : CanMatch t

/-- **What a run finds can be found from one of its threads.** -/
theorem canMatch_of_run {fuel : Nat} {seen seen' : Seen} {ts : List Thread} {t : Thread}
    (h : run fuel seen ts = (some t, seen')) : ∃ t₀ ∈ ts, CanMatch t₀ := by
  induction fuel generalizing seen ts with
  | zero => exact absurd (congrArg Prod.fst h) (by simp [run])
  | succ fuel ih =>
      cases ts with
      | nil => exact absurd (congrArg Prod.fst h) (by simp [run])
      | cons first ts =>
          rw [run] at h
          cases hout : first.step with
          | matched => exact ⟨first, by simp, .now hout⟩
          | failed =>
              rw [hout] at h
              obtain ⟨t₀, hmem, hcan⟩ := ih h
              exact ⟨t₀, by simp [hmem], hcan⟩
          | next next =>
              rw [hout] at h
              obtain ⟨t₀, hmem, hcan⟩ := ih h
              rcases List.mem_cons.mp hmem with rfl | hmem
              · exact ⟨first, by simp, .later (by simp [hout, Outcome.threads]) hcan⟩
              · exact ⟨t₀, by simp [hmem], hcan⟩
          | fork key one other =>
              rw [hout] at h
              simp only at h
              have hrest : ∀ {t₀}, t₀ ∈ ts → CanMatch t₀ → ∃ t₀ ∈ first :: ts, CanMatch t₀ :=
                fun hmem hcan => ⟨_, by simp [hmem], hcan⟩
              split at h
              · obtain ⟨t₀, hmem, hcan⟩ := ih h
                exact hrest hmem hcan
              · obtain ⟨t₀, hmem, hcan⟩ := ih h
                rcases List.mem_cons.mp hmem with rfl | hmem
                · exact ⟨first, by simp, .later (by simp [hout, Outcome.threads]) hcan⟩
                rcases List.mem_cons.mp hmem with rfl | hmem
                · exact ⟨first, by simp, .later (by simp [hout, Outcome.threads]) hcan⟩
                · exact hrest hmem hcan

/-- From somewhere, what is to be matched can be matched to the text ahead. -/
def CanRead (todo : List Todo) (ahead : List Char) : Prop :=
  ∃ before pos slots, CanMatch ⟨todo, before, ahead, pos, slots⟩

section

variable {todo : Todo} {k : List Todo} {before : Option Char} {ahead : List Char} {pos : Nat}
  {slots : List (Nat × Nat)}

/-- With something to be matched there is no match yet. -/
theorem Thread.step_ne_matched : Thread.step ⟨todo :: k, before, ahead, pos, slots⟩ ≠ .matched := by
  unfold Thread.step Thread.fork Thread.goOn
  repeat' split
  all_goals simp_all

/-- A thread with something to be matched goes on by a step. -/
theorem CanMatch.exists_later (h : CanMatch ⟨todo :: k, before, ahead, pos, slots⟩) :
    ∃ t' ∈ (Thread.step ⟨todo :: k, before, ahead, pos, slots⟩).threads, CanMatch t' := by
  cases h with
  | now h => exact absurd h Thread.step_ne_matched
  | later h rest => exact ⟨_, h, rest⟩

/-- It gets through a straight node that comes first. -/
theorem CanMatch.passes {n : Node} (hn : n.IsStraight)
    (h : CanMatch ⟨.run n :: k, before, ahead, pos, slots⟩) :
    ∃ t', Thread.pass ⟨k, before, ahead, pos, slots⟩ n = some t' ∧ CanMatch t' := by
  obtain ⟨t', hmem, hcan⟩ := h.exists_later
  rw [Thread.step_straight hn ⟨k, before, ahead, pos, slots⟩ k] at hmem
  cases hpass : Thread.pass ⟨k, before, ahead, pos, slots⟩ n with
  | none =>
      rw [hpass] at hmem
      exact absurd hmem (by simp [Thread.goOn, Outcome.threads])
  | some passed =>
      rw [hpass] at hmem
      rw [List.mem_singleton.mp hmem] at hcan
      exact ⟨passed, rfl, hcan⟩

end

namespace CanRead

variable {k : List Todo} {ahead : List Char}

theorem word {cs : List Char} (h : CanRead (.run (.word cs) :: k) ahead) :
    ∃ rest, ahead = cs ++ rest ∧ CanRead k rest := by
  obtain ⟨before, pos, slots, h⟩ := h
  obtain ⟨t', hpass, hcan⟩ := h.passes (n := .word cs) trivial
  rw [Thread.pass, Thread.eat_eq] at hpass
  split at hpass
  · next hprefix =>
      rw [← Option.some.inj hpass] at hcan
      exact ⟨_, (List.prefix_iff_eq_append.mp hprefix).symm, _, _, _, hcan⟩
  · exact absurd hpass (by simp)

theorem set {s : CharSet} (h : CanRead (.run (.set s) :: k) ahead) :
    ∃ c rest, ahead = c :: rest ∧ s.contains c = true ∧ CanRead k rest := by
  obtain ⟨before, pos, slots, h⟩ := h
  obtain ⟨t', hpass, hcan⟩ := h.passes (n := .set s) trivial
  rw [Thread.pass, Thread.eatIf] at hpass
  split at hpass
  · exact absurd hpass (by simp)
  · next c rest hahead =>
      split at hpass
      · next hc =>
          rw [← Option.some.inj hpass] at hcan
          exact ⟨c, rest, hahead, hc, _, _, _, hcan⟩
      · exact absurd hpass (by simp)

theorem textEnd (h : CanRead (.run (.look .textEnd) :: k) ahead) :
    ahead = [] ∧ CanRead k ahead := by
  obtain ⟨before, pos, slots, h⟩ := h
  obtain ⟨t', hpass, hcan⟩ := h.passes (n := .look .textEnd) trivial
  rw [Thread.pass] at hpass
  split at hpass
  · next hholds =>
      rw [← Option.some.inj hpass] at hcan
      exact ⟨by simpa [Look.holds] using hholds, _, _, _, hcan⟩
  · exact absurd hpass (by simp)

theorem seq {a b : Node} (h : CanRead (.run (.seq a b) :: k) ahead) :
    CanRead (.run a :: .run b :: k) ahead := by
  obtain ⟨before, pos, slots, h⟩ := h
  obtain ⟨t', hmem, hcan⟩ := h.exists_later
  rw [List.mem_singleton.mp hmem] at hcan
  exact ⟨_, _, _, hcan⟩

theorem alt {id : Nat} {a b : Node} (h : CanRead (.run (.alt id a b) :: k) ahead) :
    CanRead (.run a :: k) ahead ∨ CanRead (.run b :: k) ahead := by
  obtain ⟨before, pos, slots, h⟩ := h
  obtain ⟨t', hmem, hcan⟩ := h.exists_later
  rcases List.mem_cons.mp hmem with rfl | hmem
  · exact .inl ⟨_, _, _, hcan⟩
  · rw [List.mem_singleton.mp hmem] at hcan
    exact .inr ⟨_, _, _, hcan⟩

/-- A loop through a set passes characters of it, and then what comes after is read. -/
theorem again {id : Nat} {s : CharSet} (h : CanRead (.again id true (.set s) :: k) ahead) :
    ∃ cs rest, ahead = cs ++ rest ∧ (∀ c ∈ cs, s.contains c = true) ∧ CanRead k rest := by
  induction ahead with
  | nil =>
      obtain ⟨before, pos, slots, h⟩ := h
      obtain ⟨t', hmem, hcan⟩ := h.exists_later
      rcases List.mem_cons.mp hmem with rfl | hmem
      · obtain ⟨c, rest, hahead, -⟩ := CanRead.set ⟨_, _, _, hcan⟩
        exact absurd hahead (by simp)
      · rw [List.mem_singleton.mp hmem] at hcan
        exact ⟨[], [], rfl, by simp, _, _, _, hcan⟩
  | cons first ahead ih =>
      obtain ⟨before, pos, slots, h⟩ := h
      obtain ⟨t', hmem, hcan⟩ := h.exists_later
      rcases List.mem_cons.mp hmem with rfl | hmem
      · obtain ⟨c, rest, hahead, hc, hrest⟩ := CanRead.set ⟨_, _, _, hcan⟩
        obtain ⟨rfl, rfl⟩ := List.cons.inj hahead
        obtain ⟨cs, rest, rfl, hcs, hrest⟩ := ih hrest
        exact ⟨first :: cs, rest, rfl, List.forall_mem_cons.mpr ⟨hc, hcs⟩, hrest⟩
      · rw [List.mem_singleton.mp hmem] at hcan
        exact ⟨[], first :: ahead, rfl, by simp, _, _, _, hcan⟩

/-- Once or more often through a set. -/
theorem plus {id : Nat} {s : CharSet}
    (h : CanRead (.run (.repeat id 1 none true (.set s)) :: k) ahead) :
    ∃ cs rest, ahead = cs ++ rest ∧ cs ≠ [] ∧ (∀ c ∈ cs, s.contains c = true) ∧ CanRead k rest := by
  obtain ⟨before, pos, slots, h⟩ := h
  obtain ⟨t', hmem, hcan⟩ := h.exists_later
  rw [List.mem_singleton.mp hmem] at hcan
  obtain ⟨c, rest, rfl, hc, hrest⟩ := CanRead.set ⟨_, _, _, hcan⟩
  obtain ⟨cs, rest, rfl, hcs, hrest⟩ := hrest.again
  exact ⟨c :: cs, rest, rfl, by simp, List.forall_mem_cons.mpr ⟨hc, hcs⟩, hrest⟩

end CanRead

/-- What is found from some place on was found at one of the places. -/
theorem exists_canMatch_of_findFrom {n : Node} {budget : Nat} {seen : Seen}
    {before : Option Char} {rest : List Char} {pos : Nat} {m : Match}
    (h : n.findFrom budget seen before rest pos = some m) :
    ∃ passed ahead pos', rest = passed ++ ahead ∧
      CanMatch ⟨[.run n], passed.getLast?.or before, ahead, pos', []⟩ := by
  have hhere : ∀ {seen seen' : Seen} {before rest pos t},
      n.matchAt budget seen before rest pos = (some t, seen') →
      CanMatch ⟨[.run n], before, rest, pos, []⟩ := by
    intro seen seen' before rest pos t hmatch
    obtain ⟨t₀, hmem, hcan⟩ := canMatch_of_run hmatch
    rwa [← List.mem_singleton.mp hmem]
  induction rest generalizing seen before pos with
  | nil =>
      obtain ⟨t, ht, -⟩ := Option.map_eq_some_iff.mp h
      exact ⟨[], [], pos, rfl, hhere (Prod.ext ht rfl)⟩
  | cons c rest ih =>
      rw [Node.findFrom] at h
      split at h
      · next t seen' hmatch => exact ⟨[], c :: rest, pos, rfl, hhere hmatch⟩
      · obtain ⟨passed, ahead, pos', rfl, hcan⟩ := ih h
        refine ⟨c :: passed, ahead, pos', rfl, ?_⟩
        rw [List.getLast?_cons]
        cases hlast : passed.getLast? with
        | none => rwa [hlast] at hcan
        | some last => rwa [hlast] at hcan

/-- **A match that is bound to the start of the text reads all of it from there.** -/
theorem canRead_of_find? {n : Node} {text : List Char} {m : Match}
    (h : (Node.seq (.look .textStart) n).find? text = some m) : CanRead [.run n] text := by
  obtain ⟨passed, ahead, pos, rfl, hcan⟩ := exists_canMatch_of_findFrom h
  obtain ⟨t', hmem, hcan⟩ := hcan.exists_later
  rw [List.mem_singleton.mp hmem] at hcan
  obtain ⟨t', hpass, hcan⟩ := CanMatch.passes (n := .look .textStart) trivial hcan
  rw [Thread.pass] at hpass
  split at hpass
  · next hholds =>
      have hpassed : passed = [] := by simpa [Look.holds] using hholds
      rw [← Option.some.inj hpass] at hcan
      rw [hpassed]
      exact ⟨_, _, _, hcan⟩
  · exact absurd hpass (by simp)

/-! ### What can be found is found -/

/-- With so much fuel and more, a run finds a match from the thread, whatever waits behind it. -/
def Finds (seen : Seen) (t : Thread) (cost : Nat) : Prop :=
  ∀ fuel ts, cost ≤ fuel → (run fuel seen (t :: ts)).1.isSome = true

/-- After so many steps a run gives the thread up, whatever waits behind it, having seen so much. -/
def GivesUp (seen : Seen) (t : Thread) (cost : Nat) (seen' : Seen) : Prop :=
  ∀ fuel ts, run (fuel + cost) seen (t :: ts) = run fuel seen' ts

section

variable {seen seen₁ seen₂ : Seen} {t t' one other : Thread} {key : List Nat} {cost cost' : Nat}

theorem finds_of_matched (h : t.step = .matched) (seen : Seen) : Finds seen t 1 := by
  intro fuel ts hfuel
  obtain ⟨fuel, rfl⟩ := Nat.exists_eq_add_of_le' hfuel
  rw [run, h]
  rfl

theorem finds_of_next (h : t.step = .next t') (rest : Finds seen t' cost) :
    Finds seen t (cost + 1) := by
  intro fuel ts hfuel
  obtain ⟨fuel, rfl⟩ := Nat.exists_eq_add_of_le' (Nat.le_of_add_left_le hfuel)
  rw [run, h]
  exact rest fuel ts (by omega)

theorem finds_of_first (h : t.step = .fork key one other)
    (hnew : seen.contains (key, t.pos) = false) (rest : Finds (seen.insert (key, t.pos)) one cost) :
    Finds seen t (cost + 1) := by
  intro fuel ts hfuel
  obtain ⟨fuel, rfl⟩ := Nat.exists_eq_add_of_le' (Nat.le_of_add_left_le hfuel)
  rw [run, h]
  simp only [hnew, Bool.false_eq_true, if_false]
  exact rest fuel _ (by omega)

theorem finds_of_second (h : t.step = .fork key one other)
    (hnew : seen.contains (key, t.pos) = false)
    (hone : GivesUp (seen.insert (key, t.pos)) one cost seen₁) (hother : Finds seen₁ other cost') :
    Finds seen t (cost + cost' + 1) := by
  intro fuel ts hfuel
  obtain ⟨fuel, rfl⟩ : ∃ n, fuel = n + cost + 1 := ⟨fuel - (cost + 1), by omega⟩
  rw [run, h]
  simp only [hnew, Bool.false_eq_true, if_false]
  rw [hone]
  exact hother fuel ts (by omega)

theorem givesUp_of_failed (h : t.step = .failed) (seen : Seen) : GivesUp seen t 1 seen := by
  intro fuel ts
  rw [run, h]

theorem givesUp_of_next (h : t.step = .next t') (rest : GivesUp seen t' cost seen₁) :
    GivesUp seen t (cost + 1) seen₁ := by
  intro fuel ts
  rw [← Nat.add_assoc, run, h]
  exact rest fuel ts

theorem givesUp_of_fork (h : t.step = .fork key one other)
    (hnew : seen.contains (key, t.pos) = false)
    (hone : GivesUp (seen.insert (key, t.pos)) one cost seen₁)
    (hother : GivesUp seen₁ other cost' seen₂) : GivesUp seen t (cost + cost' + 1) seen₂ := by
  intro fuel ts
  have hfuel : fuel + (cost + cost' + 1) = fuel + cost' + cost + 1 := by omega
  rw [hfuel, run, h]
  simp only [hnew, Bool.false_eq_true, if_false]
  rw [hone, hother]

end

/-! ### Forks that are new

Choices and loops are numbered in the order in which they stand in the pattern, so on the way
through it none with a number from some number on was entered before.
-/

/-- No fork with the number or a higher one was entered. -/
def Unentered (seen : Seen) (id : Nat) : Prop :=
  ∀ id' key pos, id ≤ id' → seen.contains (id' :: key, pos) = false

theorem unentered_empty (id : Nat) : Unentered ∅ id := fun _ _ _ _ => Std.HashSet.contains_empty

theorem Unentered.insert {seen : Seen} {id : Nat} (h : Unentered seen id) (key : List Nat)
    (pos : Nat) : Unentered (seen.insert (id :: key, pos)) (id + 1) := by
  intro id' key' pos' hle
  rw [Std.HashSet.contains_insert, h id' key' pos' (by omega), Bool.or_false, beq_eq_false_iff_ne]
  intro hsame
  have hid : id = id' := (List.cons.inj (Prod.mk.inj hsame).1).1
  omega

/-- A loop with the number can go on from a place: none that comes after it was entered, nor itself
from the place on. -/
structure LoopNew (seen : Seen) (id pos : Nat) : Prop where
  later : Unentered seen (id + 1)
  ahead : ∀ key pos', pos ≤ pos' → seen.contains (id :: key, pos') = false

theorem Unentered.loopNew {seen : Seen} {id : Nat} (h : Unentered seen id) (pos : Nat) :
    LoopNew seen id pos :=
  ⟨fun id' key pos' hle => h id' key pos' (by omega),
    fun key pos' _ => h id key pos' (Nat.le_refl _)⟩

theorem LoopNew.insert {seen : Seen} {id pos : Nat} (h : LoopNew seen id pos) (key : List Nat) :
    LoopNew (seen.insert (id :: key, pos)) id (pos + 1) := by
  constructor
  · intro id' key' pos' hle
    rw [Std.HashSet.contains_insert, h.later id' key' pos' hle, Bool.or_false, beq_eq_false_iff_ne]
    intro hsame
    have hid : id = id' := (List.cons.inj (Prod.mk.inj hsame).1).1
    omega
  · intro key' pos' hle
    rw [Std.HashSet.contains_insert, h.ahead key' pos' (by omega), Bool.or_false,
      beq_eq_false_iff_ne]
    intro hsame
    have hpos : pos = pos' := (Prod.mk.inj hsame).2
    omega

/-- From anywhere, a run finds what is to be matched in the text ahead, unless it has entered forks
with the number or a higher one. -/
def Succeeds (id : Nat) (todo : List Todo) (ahead : List Char) (cost : Nat) : Prop :=
  ∀ seen before pos slots, Unentered seen id → Finds seen ⟨todo, before, ahead, pos, slots⟩ cost

/-- From anywhere, a run gives up what is to be matched in the text ahead, and enters no fork. -/
def Fails (todo : List Todo) (ahead : List Char) (cost : Nat) : Prop :=
  ∀ seen before pos slots, GivesUp seen ⟨todo, before, ahead, pos, slots⟩ cost seen

theorem Fails.word {cs ahead : List Char} (h : ¬ cs <+: ahead) (k : List Todo) :
    Fails (.run (.word cs) :: k) ahead 1 := by
  intro seen before pos slots
  refine givesUp_of_failed ?_ seen
  show Thread.goOn (Thread.eat ⟨k, before, ahead, pos, slots⟩ cs) = .failed
  rw [Thread.eat_eq, if_neg h]
  rfl

theorem Fails.seq {a b : Node} {k : List Todo} {ahead : List Char} {cost : Nat}
    (h : Fails (.run a :: .run b :: k) ahead cost) :
    Fails (.run (.seq a b) :: k) ahead (cost + 1) :=
  fun seen before pos slots => givesUp_of_next rfl (h seen before pos slots)

theorem Fails.set {s : CharSet} {ahead : List Char}
    (h : ∀ c, ahead.head? = some c → s.contains c = false) (k : List Todo) :
    Fails (.run (.set s) :: k) ahead 1 := by
  intro seen before pos slots
  refine givesUp_of_failed ?_ seen
  show Thread.goOn (Thread.eatIf ⟨k, before, ahead, pos, slots⟩ s.contains) = .failed
  cases ahead with
  | nil => rfl
  | cons c rest =>
      unfold Thread.eatIf
      simp only [h c rfl, Bool.false_eq_true, if_false]
      rfl

namespace Succeeds

variable {id : Nat} {k : List Todo} {ahead : List Char} {cost : Nat}

theorem nil (id : Nat) (ahead : List Char) : Succeeds id [] ahead 1 :=
  fun seen _ _ _ _ => finds_of_matched rfl seen

theorem word (h : Succeeds id k ahead cost) (cs : List Char) :
    Succeeds id (.run (.word cs) :: k) (cs ++ ahead) (cost + 1) := by
  intro seen before pos slots hnew
  refine finds_of_next ?_ (h seen (cs.getLast?.or before) (pos + cs.length) slots hnew)
  show Thread.goOn (Thread.eat ⟨k, before, cs ++ ahead, pos, slots⟩ cs) = _
  rw [Thread.eat_eq, if_pos (List.prefix_append cs ahead), List.drop_left]
  rfl

/-- It is no harder when fewer forks were entered, or with more fuel. -/
theorem weaken {id' cost' : Nat} (h : Succeeds id' k ahead cost) (hid : id ≤ id')
    (hcost : cost ≤ cost') : Succeeds id k ahead cost' := by
  intro seen before pos slots hnew fuel ts hfuel
  have hlater : Unentered seen id' :=
    fun later key pos' hle => hnew later key pos' (Nat.le_trans hid hle)
  exact h seen before pos slots hlater fuel ts (Nat.le_trans hcost hfuel)

theorem textEnd (h : Succeeds id k [] cost) :
    Succeeds id (.run (.look .textEnd) :: k) [] (cost + 1) :=
  fun seen before pos slots hnew => finds_of_next rfl (h seen before pos slots hnew)

theorem seq {a b : Node} (h : Succeeds id (.run a :: .run b :: k) ahead cost) :
    Succeeds id (.run (.seq a b) :: k) ahead (cost + 1) :=
  fun seen before pos slots hnew => finds_of_next rfl (h seen before pos slots hnew)

theorem altFirst {a : Node} (h : Succeeds (id + 1) (.run a :: k) ahead cost) (b : Node) :
    Succeeds id (.run (.alt id a b) :: k) ahead (cost + 1) :=
  fun _ before pos slots hnew =>
    finds_of_first rfl (hnew id _ pos (Nat.le_refl _)) (h _ before pos slots (hnew.insert _ pos))

theorem altSecond {a b : Node} {cost' : Nat} (hfails : Fails (.run a :: k) ahead cost')
    (h : Succeeds (id + 1) (.run b :: k) ahead cost) :
    Succeeds id (.run (.alt id a b) :: k) ahead (cost' + cost + 1) :=
  fun _ before pos slots hnew =>
    finds_of_second rfl (hnew id _ pos (Nat.le_refl _)) (hfails _ before pos slots)
      (h _ before pos slots (hnew.insert _ pos))

end Succeeds

/-! ### Loops through a set -/

section

variable {id : Nat} {s : CharSet} {k : List Todo} {slots : List (Nat × Nat)} {cost : Nat}

/-- The thread of a loop that has been through its body. -/
def looping (id : Nat) (s : CharSet) (k : List Todo) (slots : List (Nat × Nat))
    (before : Option Char) (ahead : List Char) (pos : Nat) : Thread :=
  ⟨.again id true (.set s) :: k, before, ahead, pos, slots⟩

theorem step_looping (before : Option Char) (ahead : List Char) (pos : Nat) :
    (looping id s k slots before ahead pos).step =
      .fork (id :: 0 :: 0 :: k.flatMap Todo.stamp)
        ⟨.run (.set s) :: .again id true (.set s) :: k, before, ahead, pos, slots⟩
        ⟨k, before, ahead, pos, slots⟩ := rfl

theorem step_set_looping {c : Char} (hc : s.contains c = true) (before : Option Char)
    (ahead : List Char) (pos : Nat) :
    Thread.step ⟨.run (.set s) :: .again id true (.set s) :: k, before, c :: ahead, pos, slots⟩ =
      .next (looping id s k slots (some c) ahead (pos + 1)) := by
  show Thread.goOn (if s.contains c then _ else _) = _
  rw [if_pos hc]
  rfl

/-- **A loop goes on as far as it can.**  What it finds where it can go no further, it finds. -/
theorem finds_again {cs ahead : List Char} (hcs : ∀ c ∈ cs, s.contains c = true)
    (hthere : ∀ seen before pos, LoopNew seen id pos →
      Finds seen (looping id s k slots before ahead pos) cost)
    {seen : Seen} {pos : Nat} (hnew : LoopNew seen id pos) (before : Option Char) :
    Finds seen (looping id s k slots before (cs ++ ahead) pos) (cost + 2 * cs.length) := by
  induction cs generalizing seen before pos with
  | nil => exact hthere seen before pos hnew
  | cons c cs ih =>
      have hrest := ih (fun d hd => hcs d (by simp [hd]))
        (hnew.insert (0 :: 0 :: k.flatMap Todo.stamp)) (some c)
      exact finds_of_first (step_looping before _ pos) (hnew.ahead _ pos (Nat.le_refl _))
        (finds_of_next (step_set_looping (hcs c (by simp)) before _ pos) hrest)

/-- At a character that it cannot pass, it goes on to what comes after. -/
theorem finds_stop {ahead : List Char} (hstop : ∀ c, ahead.head? = some c → s.contains c = false)
    (h : Succeeds (id + 1) k ahead cost) (seen : Seen) (before : Option Char) (pos : Nat)
    (hnew : LoopNew seen id pos) :
    Finds seen (looping id s k slots before ahead pos) (1 + cost + 1) :=
  finds_of_second (step_looping before ahead pos) (hnew.ahead _ pos (Nat.le_refl _))
    (Fails.set hstop _ _ before pos slots) (h _ before pos slots (hnew.insert _).later)

variable (slots) in
/-- A loop to the end of the text is given up if all is that it could go on to. -/
theorem givesUp_again {cs : List Char} (hcs : ∀ c ∈ cs, s.contains c = true)
    (hfails : ∀ ahead, ahead <:+ cs → Fails k ahead cost) {seen : Seen} {pos : Nat}
    (hnew : LoopNew seen id pos) (before : Option Char) :
    ∃ seen', Unentered seen' (id + 1) ∧
      GivesUp seen (looping id s k slots before cs pos) ((cost + 2) * (cs.length + 1)) seen' := by
  have hinsert := hnew.insert (0 :: 0 :: k.flatMap Todo.stamp)
  induction cs generalizing seen before pos with
  | nil =>
      refine ⟨_, hinsert.later, ?_⟩
      have hcost : (cost + 2) * (([] : List Char).length + 1) = 1 + cost + 1 := by
        simp only [List.length_nil]
        omega
      rw [hcost]
      exact givesUp_of_fork (step_looping before [] pos) (hnew.ahead _ pos (Nat.le_refl _))
        (Fails.set (by simp) _ _ before pos slots)
        (hfails [] (List.suffix_refl _) _ before pos slots)
  | cons c cs ih =>
      obtain ⟨seen', hlater, hrest⟩ := ih (fun d hd => hcs d (by simp [hd]))
        (fun ahead hsuffix => hfails ahead (hsuffix.trans (List.suffix_cons c cs)))
        hinsert (some c) (hinsert.insert _)
      refine ⟨seen', hlater, ?_⟩
      have hcost : (cost + 2) * ((c :: cs).length + 1) =
          (cost + 2) * (cs.length + 1) + 1 + cost + 1 := by
        rw [List.length_cons, Nat.mul_add_one]
        omega
      rw [hcost]
      exact givesUp_of_fork (step_looping before (c :: cs) pos) (hnew.ahead _ pos (Nat.le_refl _))
        (givesUp_of_next (step_set_looping (hcs c (by simp)) before cs pos) hrest)
        (hfails (c :: cs) (List.suffix_refl _) _ before pos slots)

/-- Where all that a loop could go on to further on is given up, it turns back to where it is. -/
theorem finds_back {c : Char} {cs : List Char} {cost' : Nat}
    (hcs : ∀ d ∈ c :: cs, s.contains d = true)
    (hfails : ∀ ahead, ahead <:+ cs → Fails k ahead cost)
    (h : Succeeds (id + 1) k (c :: cs) cost') (seen : Seen) (before : Option Char) (pos : Nat)
    (hnew : LoopNew seen id pos) :
    Finds seen (looping id s k slots before (c :: cs) pos)
      ((cost + 2) * (cs.length + 1) + 1 + cost' + 1) := by
  obtain ⟨hc, hcs⟩ := List.forall_mem_cons.mp hcs
  obtain ⟨seen', hlater, hback⟩ := givesUp_again slots hcs hfails
    (hnew.insert (0 :: 0 :: k.flatMap Todo.stamp)) (some c)
  exact finds_of_second (step_looping before _ pos) (hnew.ahead _ pos (Nat.le_refl _))
    (givesUp_of_next (step_set_looping hc before cs pos) hback) (h _ before pos slots hlater)

namespace Succeeds

/-- Once or more often through a set: once, and then as often as it goes. -/
theorem plus {cs ahead : List Char} (hne : cs ≠ []) (hcs : ∀ c ∈ cs, s.contains c = true)
    (hthere : ∀ slots seen before pos, LoopNew seen id pos →
      Finds seen (looping id s k slots before ahead pos) cost) :
    Succeeds id (.run (.repeat id 1 none true (.set s)) :: k) (cs ++ ahead)
      (cost + 2 * cs.length) := by
  intro seen before pos slots hnew
  obtain ⟨c, cs, rfl⟩ := List.exists_cons_of_ne_nil hne
  obtain ⟨hc, hcs⟩ := List.forall_mem_cons.mp hcs
  have hrest := finds_again hcs (hthere slots) (hnew.loopNew (pos + 1)) (some c)
  exact finds_of_next rfl (finds_of_next (step_set_looping hc before (cs ++ ahead) pos) hrest)

/-- Through a set up to a character outside. -/
theorem plusStop {cs ahead : List Char} (hne : cs ≠ []) (hcs : ∀ c ∈ cs, s.contains c = true)
    (hstop : ∀ c, ahead.head? = some c → s.contains c = false)
    (h : Succeeds (id + 1) k ahead cost) :
    Succeeds id (.run (.repeat id 1 none true (.set s)) :: k) (cs ++ ahead)
      (1 + cost + 1 + 2 * cs.length) :=
  plus hne hcs fun _ => finds_stop hstop h

/-- Through a set to the end of the text, and back to where the rest starts. -/
theorem plusBack {cs back : List Char} {c : Char} {cost' : Nat} (hne : cs ≠ [])
    (hcs : ∀ d ∈ cs ++ c :: back, s.contains d = true)
    (hfails : ∀ ahead, ahead <:+ back → Fails k ahead cost)
    (h : Succeeds (id + 1) k (c :: back) cost') :
    Succeeds id (.run (.repeat id 1 none true (.set s)) :: k) (cs ++ c :: back)
      ((cost + 2) * (back.length + 1) + 1 + cost' + 1 + 2 * cs.length) :=
  plus hne (fun d hd => hcs d (List.mem_append_left _ hd)) fun _ =>
    finds_back (fun d hd => hcs d (List.mem_append_right _ hd)) hfails h

end Succeeds

end

/-- **A match that is bound to the start of the text is found if it is found from there.** -/
theorem isSome_find? {n : Node} {text : List Char} {cost : Nat}
    (h : Succeeds 0 [.run n] text cost)
    (hcost : cost + 2 ≤ (Node.seq (.look .textStart) n).budget text.length) :
    ((Node.seq (.look .textStart) n).find? text).isSome = true := by
  have hstart : Finds ∅ ⟨[.run (.seq (.look .textStart) n)], none, text, 0, []⟩ (cost + 2) :=
    finds_of_next rfl (finds_of_next rfl (h ∅ none 0 [] (unentered_empty 0)))
  have hmatch := hstart _ [] hcost
  unfold Node.find?
  cases text with
  | nil => rwa [Node.findFrom, Option.isSome_map]
  | cons c rest =>
      rw [Node.findFrom]
      split
      · rfl
      · next hrun =>
          unfold Node.matchAt at hrun
          rw [hrun] at hmatch
          exact absurd hmatch (by simp)

end AppBuild.Pattern
