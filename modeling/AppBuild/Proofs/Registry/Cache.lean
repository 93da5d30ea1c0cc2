/-
Remembered answers are the answers.

A registry remembers the path or the miss that it answered for a tag.  That is right
only as long as the matchers are those that gave the answer, so what has to be carried
through a history is `Coherent`: each remembered path and each remembered miss is what
the first match among the matchers *at hand* comes to.

Asking keeps the matchers and remembers what it just computed; configuring and
invalidating replace the matchers and forget everything in the same step, also where
the configuration fails.  So every step keeps `Coherent`, and the matchers at hand
after a history are those that its last configuration or invalidation left
(`inForce`).
-/
import AppBuild.Component.Registry
import Mathlib.Data.List.Induction

namespace AppBuild

/-- The path that the first of the matchers that matches a tag gives, with nothing remembered. -/
def firstMatch (matchers : List Matcher) (tag : String) : Option String :=
  (matchers.find? (·.test tag)).map (·.apply tag)

namespace Registry

/-! ### Histories -/

/-- What can be done with a registry.  A configuration brings the disk that it finds: between two
events the file system may change in any way. -/
inductive Event where
  | configure (d : Disk) (c : ScanConfig)
  | resolve (tag : String)
  | invalidate

/-- The registry after an event. -/
def after (r : Registry) : Event → Registry
  | .configure d c => (r.configure d c).registry
  | .resolve tag => (r.resolve tag).2
  | .invalidate => r.invalidate

/-- The registry after a history. -/
def run (r : Registry) (history : List Event) : Registry := history.foldl after r

/-- The matchers that a configuration comes to; one that fails comes to none. -/
def matchersOf (d : Disk) (c : ScanConfig) : List Matcher :=
  match (plan d c).1 with
  | .ok (matchers, _) => matchers
  | .error _ => []

/-- The matchers that an event sets, if it sets any. -/
def Event.matchers? : Event → Option (List Matcher)
  | .configure d c => some (matchersOf d c)
  | .resolve _ => none
  | .invalidate => some []

/-- The matchers that the last configuration or invalidation of a history set; none if it has
neither. -/
def inForce (history : List Event) : List Matcher :=
  (history.reverse.findSome? Event.matchers?).getD []

theorem run_append (r : Registry) (before later : List Event) :
    r.run (before ++ later) = (r.run before).run later :=
  List.foldl_append

theorem inForce_concat (history : List Event) (e : Event) :
    inForce (history ++ [e]) = (e.matchers?).getD (inForce history) := by
  unfold inForce
  rw [List.reverse_append, List.reverse_singleton, List.singleton_append, List.findSome?_cons]
  cases e.matchers? <;> rfl

/-! ### What asking can do

One case for each way through `resolve`.  Everything below that speaks of asking goes through
these, so none of it opens `resolve` again.
-/

/-- Asking for a tag gives the answer `a` and leaves the registry `s`. -/
inductive Asked (r : Registry) (tag : String) : Option String → Registry → Prop
  /-- There are no matchers. -/
  | idle (hany : r.hasAny = false) : Asked r tag none r
  /-- A path is remembered. -/
  | hit {path : String} (hany : r.hasAny = true) (hpath : r.resolved.get? tag = some path) :
      Asked r tag (some path) r
  /-- A miss is remembered. -/
  | miss (hany : r.hasAny = true) (hnone : r.resolved.get? tag = none)
      (hmem : tag ∈ r.unresolved) : Asked r tag none r
  /-- The matchers were gone through and none matches. -/
  | lost (hany : r.hasAny = true) (hnone : r.resolved.get? tag = none)
      (hmem : tag ∉ r.unresolved) (hfind : r.matchers.find? (·.test tag) = none) :
      Asked r tag none
        { r with lookups := r.lookups + 1, unresolved := tag :: r.unresolved }
  /-- The matchers were gone through and this is the first that matches. -/
  | found {m : Matcher} (hany : r.hasAny = true) (hnone : r.resolved.get? tag = none)
      (hmem : tag ∉ r.unresolved) (hfind : r.matchers.find? (·.test tag) = some m) :
      Asked r tag (some (m.apply tag))
        { r with lookups := r.lookups + 1, resolved := r.resolved.insert tag (m.apply tag) }

theorem asked_resolve (r : Registry) (tag : String) :
    Asked r tag (r.resolve tag).1 (r.resolve tag).2 := by
  unfold resolve
  by_cases hany : r.hasAny = true
  · rw [if_neg (by simp [hany])]
    cases hpath : r.resolved.get? tag with
    | some path => exact .hit hany hpath
    | none =>
        by_cases hmem : tag ∈ r.unresolved
        · simpa only [List.contains_iff_mem.mpr hmem, if_true] using Asked.miss hany hpath hmem
        · have hcontains : r.unresolved.contains tag = false := by simpa using hmem
          cases hfind : r.matchers.find? (·.test tag) with
          | none =>
              simpa only [hcontains, hfind, Bool.false_eq_true, if_false] using
                Asked.lost hany hpath hmem hfind
          | some m =>
              simpa only [hcontains, hfind, Bool.false_eq_true, if_false] using
                Asked.found hany hpath hmem hfind
  · have hfalse : r.hasAny = false := by simpa using hany
    rw [if_pos (by simp [hfalse])]
    exact .idle hfalse

theorem Asked.matchers_eq {r s : Registry} {tag : String} {a : Option String}
    (h : Asked r tag a s) : s.matchers = r.matchers := by
  cases h <;> rfl

/-! ### What configuring can do -/

theorem configure_matchers (r : Registry) (d : Disk) (c : ScanConfig) :
    (r.configure d c).registry.matchers = matchersOf d c := by
  unfold configure matchersOf
  rcases plan d c with ⟨outcome, warnings⟩
  cases outcome <;> rfl

theorem configure_hasAny (r : Registry) (d : Disk) (c : ScanConfig) :
    (r.configure d c).registry.hasAny = !(matchersOf d c).isEmpty := by
  unfold configure matchersOf
  rcases plan d c with ⟨outcome, warnings⟩
  cases outcome <;> rfl

/-- Nothing is remembered over a configuration, whether it fails or not. -/
theorem configure_forgets (r : Registry) (d : Disk) (c : ScanConfig) :
    (r.configure d c).registry.resolved = .empty ∧
      (r.configure d c).registry.unresolved = [] := by
  unfold configure
  rcases plan d c with ⟨outcome, warnings⟩
  cases outcome <;> exact ⟨rfl, rfl⟩

/-- A configuration that fails has no matchers. -/
theorem matchersOf_of_error {r : Registry} {d : Disk} {c : ScanConfig} {e : BuildError}
    (h : (r.configure d c).outcome = .error e) : matchersOf d c = [] := by
  unfold configure at h
  unfold matchersOf
  rcases hplan : plan d c with ⟨outcome, warnings⟩
  rw [hplan] at h
  cases outcome with
  | error e => rfl
  | ok found => exact absurd h (by simp)

/-! ### The invariant -/

/-- What is remembered is what the matchers at hand say. -/
structure Coherent (r : Registry) : Prop where
  hit : ∀ tag path, r.resolved.get? tag = some path → firstMatch r.matchers tag = some path
  miss : ∀ tag ∈ r.unresolved, firstMatch r.matchers tag = none
  hasAny : r.hasAny = !r.matchers.isEmpty
  /-- Without matchers there is nothing to remember. -/
  idle : r.hasAny = false → r.resolved.entries = [] ∧ r.unresolved = []

/-- A registry that remembers nothing is coherent. -/
theorem coherent_of_forgotten {r : Registry} (hhit : r.resolved = .empty)
    (hmiss : r.unresolved = []) (hany : r.hasAny = !r.matchers.isEmpty) : Coherent r where
  hit tag path h := by
    rw [hhit] at h
    simp [OrderedMap.get?, OrderedMap.empty] at h
  miss tag h := by
    rw [hmiss] at h
    simp at h
  hasAny := hany
  idle _ := ⟨by rw [hhit]; rfl, hmiss⟩

theorem coherent_new : Coherent new := coherent_of_forgotten rfl rfl rfl

theorem coherent_invalidate (r : Registry) : Coherent r.invalidate :=
  coherent_of_forgotten rfl rfl rfl

theorem coherent_configure (r : Registry) (d : Disk) (c : ScanConfig) :
    Coherent (r.configure d c).registry := by
  obtain ⟨hhit, hmiss⟩ := r.configure_forgets d c
  refine coherent_of_forgotten hhit hmiss ?_
  rw [configure_hasAny, configure_matchers]

namespace Coherent

variable {r s : Registry} {tag : String} {a : Option String}

/-- Without matchers no tag has an answer. -/
theorem firstMatch_of_idle (ok : Coherent r) (hany : r.hasAny = false) (tag : String) :
    firstMatch r.matchers tag = none := by
  have hempty : r.matchers = [] := by simpa [hany] using ok.hasAny
  rw [hempty]
  rfl

/-- **Asking gives what the first match gives.** -/
theorem answer_eq (ok : Coherent r) (h : Asked r tag a s) : a = firstMatch r.matchers tag := by
  cases h with
  | idle hany => exact (ok.firstMatch_of_idle hany tag).symm
  | hit _ hpath => exact (ok.hit _ _ hpath).symm
  | miss _ _ hmem => exact (ok.miss _ hmem).symm
  | lost _ _ _ hfind => simp [firstMatch, hfind]
  | found _ _ _ hfind => simp [firstMatch, hfind]

theorem resolve_eq (ok : Coherent r) (tag : String) :
    (r.resolve tag).1 = firstMatch r.matchers tag :=
  ok.answer_eq (r.asked_resolve tag)

/-- Asking keeps the invariant: the only new memory is of the answer just computed. -/
theorem asked (ok : Coherent r) (h : Asked r tag a s) : Coherent s := by
  cases h with
  | idle => exact ok
  | hit => exact ok
  | miss => exact ok
  | lost hany _ _ hfind =>
      refine ⟨ok.hit, ?_, ok.hasAny, fun hfalse => ?_⟩
      · intro other hother
        rcases List.mem_cons.mp hother with rfl | hold
        · simp [firstMatch, hfind]
        · exact ok.miss other hold
      · exact absurd hany (by simpa using hfalse)
  | @found m hany _ _ hfind =>
      refine ⟨?_, ok.miss, ok.hasAny, fun hfalse => ?_⟩
      · intro other path hpath
        simp only [OrderedMap.get?_insert] at hpath
        by_cases hsame : other = tag
        · subst hsame
          simp only [if_true, Option.some.injEq] at hpath
          simp [firstMatch, hfind, hpath]
        · rw [if_neg hsame] at hpath
          exact ok.hit other path hpath
      · exact absurd hany (by simpa using hfalse)

/-- No tag has both a remembered path and a remembered miss. -/
theorem disjoint (ok : Coherent r) (hmem : tag ∈ r.unresolved) : r.resolved.get? tag = none := by
  cases hpath : r.resolved.get? tag with
  | none => rfl
  | some path =>
      have hmiss := ok.miss tag hmem
      rw [ok.hit tag path hpath] at hmiss
      simp at hmiss

end Coherent

/-! ### Along a history -/

theorem coherent_after {r : Registry} (ok : Coherent r) (e : Event) : Coherent (r.after e) := by
  cases e with
  | configure d c => exact coherent_configure r d c
  | resolve tag => exact ok.asked (r.asked_resolve tag)
  | invalidate => exact coherent_invalidate r

theorem matchers_after (r : Registry) (e : Event) :
    (r.after e).matchers = (e.matchers?).getD r.matchers := by
  cases e with
  | configure d c => exact r.configure_matchers d c
  | resolve tag => exact (r.asked_resolve tag).matchers_eq
  | invalidate => rfl

theorem coherent_run {r : Registry} (ok : Coherent r) (history : List Event) :
    Coherent (r.run history) := by
  induction history generalizing r with
  | nil => exact ok
  | cons e rest ih => exact ih (coherent_after ok e)

/-- Questions leave the matchers as they are. -/
theorem matchers_run_asked (r : Registry) (asked : List String) :
    (r.run (asked.map .resolve)).matchers = r.matchers := by
  induction asked generalizing r with
  | nil => rfl
  | cons first asked ih => exact (ih _).trans (matchers_after r (.resolve first))

/-- Whatever it was asked since, a registry answers with the first match of its configuration. -/
theorem resolve_asked (r : Registry) (d : Disk) (c : ScanConfig) (asked : List String)
    (tag : String) :
    (((r.configure d c).registry.run (asked.map .resolve)).resolve tag).1 =
      firstMatch (matchersOf d c) tag := by
  rw [(coherent_run (coherent_configure r d c) _).resolve_eq, matchers_run_asked,
    configure_matchers]

/-- The matchers at hand are those of the last configuration or invalidation. -/
theorem matchers_run (history : List Event) : (new.run history).matchers = inForce history := by
  -- The last event decides, so the induction takes histories apart from their end.
  induction history using List.reverseRecOn with
  | nil => rfl
  | append_singleton history e ih =>
      rw [run_append, inForce_concat, ← ih]
      exact matchers_after _ e

/--
**A registry answers as if it remembered nothing.**  After any history of
configurations, questions and invalidations, with the file system changing as it may
between them, a tag is answered by the first match among the matchers that the last
configuration or invalidation set.  A tag is never remembered both as a path and as a
miss, `hasAny` says whether there are matchers, and without matchers nothing is
remembered.
-/
theorem resolve_run_eq_firstMatch (history : List Event) :
    (∀ tag, ((new.run history).resolve tag).1 = firstMatch (inForce history) tag) ∧
    (∀ tag ∈ (new.run history).unresolved, (new.run history).resolved.get? tag = none) ∧
    ((new.run history).hasAny = true ↔ (new.run history).matchers ≠ []) ∧
    ((new.run history).hasAny = false →
      (new.run history).resolved.entries = [] ∧ (new.run history).unresolved = []) := by
  have ok : Coherent (new.run history) := coherent_run coherent_new history
  refine ⟨fun tag => ?_, fun tag hmem => ok.disjoint hmem, ?_, ok.idle⟩
  · rw [← matchers_run]
    exact ok.answer_eq (asked_resolve _ tag)
  · rw [ok.hasAny]
    simp

end Registry
end AppBuild
