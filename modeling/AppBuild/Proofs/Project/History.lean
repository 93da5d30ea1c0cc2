/-
What a project that is not configured answers.

A project forgets its configuration as soon as a refresh begins, but its registry only
later: first the scan configuration has to be built, which can fail, and only then is
the registry invalidated.  So the two can fall apart.  What the registry holds after a
history is decided by the last scan configuration that the project came up with
(`lastPlanned`), and a refresh that came up with none leaves it alone.

From that follows exactly when a project is idle, that is, answers nothing: when this
last scan configuration, if there is one, came to no matchers.  A refresh that fails
while it scans or compiles meets this.  One that fails before does not have to: it can
leave a project that has no configuration and answers from the old one.
-/
import Mathlib
import AppBuild.Component.Project
import AppBuild.Proofs.Registry.Cache

namespace AppBuild.Project

/-! ### Histories -/

/-- What can be done with a project.  An event brings the disk that it finds, if it looks at one:
between two events the file system may change in any way. -/
inductive Event where
  | init (d : Disk) (options : ComponentOptions)
  | refresh (d : Disk) (options : ComponentOptions)
  | scanConfig (d : Disk) (options : ComponentOptions)
  | resolve (tag : String)

/-- The project after an event.  Asking for a scan configuration changes nothing. -/
def after (p : Project) : Event → Project
  | .init d options => ((p.init d options).map (·.project)).getD p
  | .refresh d options => (p.refresh d options).project
  | .scanConfig _ _ => p
  | .resolve tag => (p.resolve tag).2

/-- The project after a history. -/
def run (p : Project) (history : List Event) : Project := history.foldl after p

/-- The scan configuration that a project builds to configure itself, with the disk it is for; none
if it fails to. -/
def planned? (p : Project) (d : Disk) (options : ComponentOptions) : Option (Disk × ScanConfig) :=
  match p.scanConfig d options with
  | .ok c => some (d, c)
  | .error _ => none

/-- The scan configuration that an event makes a project come up with.  A configured project is not
initialized again. -/
def Event.planned? (p : Project) : Event → Option (Disk × ScanConfig)
  | .init d options => if p.config.isSome then none else p.planned? d options
  | .refresh d options => p.planned? d options
  | .scanConfig _ _ => none
  | .resolve _ => none

/-- The last scan configuration that a project comes up with in a history; the given one, if it comes
up with none. -/
def lastPlanned (p : Project) (last : Option (Disk × ScanConfig)) :
    List Event → Option (Disk × ScanConfig)
  | [] => last
  | e :: rest => lastPlanned (p.after e) ((e.planned? p).or last) rest

/-- The matchers that a scan configuration comes to, if there is one. -/
def matchersOf? : Option (Disk × ScanConfig) → List Matcher
  | some (d, c) => Registry.matchersOf d c
  | none => []

/-- Nothing is known and no tag has an answer. -/
structure Idle (p : Project) : Prop where
  hasAny : p.registry.hasAny = false
  matchers : p.registry.matchers = []
  resolve : ∀ tag, (p.resolve tag).1 = none

/-! ### One refresh -/

/-- A refresh goes on to the registry exactly when it has built a scan configuration. -/
theorem refresh_registry (p : Project) (d : Disk) (options : ComponentOptions) :
    (p.refresh d options).project.registry =
      match p.planned? d options with
      | some (d, c) => (p.registry.invalidate.configure d c).registry
      | none => p.registry := by
  unfold planned?
  cases hbuild : p.scanConfig d options with
  | error e => rw [refresh_of_error hbuild]
  | ok c => rw [refresh_of_ok hbuild]

theorem refresh_matchers (p : Project) (d : Disk) (options : ComponentOptions) :
    (p.refresh d options).project.registry.matchers =
      match p.planned? d options with
      | some (d, c) => Registry.matchersOf d c
      | none => p.registry.matchers := by
  rw [refresh_registry]
  cases p.planned? d options with
  | none => rfl
  | some plan => exact Registry.configure_matchers _ _ _

theorem planned?_eq_some {p : Project} {d : Disk} {options : ComponentOptions}
    {plan : Disk × ScanConfig} (h : p.planned? d options = some plan) :
    plan.1 = d ∧ p.scanConfig d options = .ok plan.2 := by
  unfold planned? at h
  cases hbuild : p.scanConfig d options with
  | error e => simp [hbuild] at h
  | ok c =>
      simp only [hbuild, Option.some.injEq] at h
      subst h
      exact ⟨rfl, rfl⟩

/-- A refresh that built a scan configuration and failed had no matchers to give. -/
theorem matchersOf_eq_nil_of_failed {p : Project} {d : Disk} {options : ComponentOptions}
    {plan : Disk × ScanConfig} (hplan : p.planned? d options = some plan)
    (hfailed : (p.refresh d options).project.config = none) :
    Registry.matchersOf plan.1 plan.2 = [] := by
  obtain ⟨hd, hbuild⟩ := planned?_eq_some hplan
  rw [refresh_of_ok hbuild] at hfailed
  rw [hd]
  cases hout : (p.registry.invalidate.configure d plan.2).outcome with
  | error e => exact Registry.matchersOf_of_error hout
  | ok report => simp [hout, Except.isOk, Except.toBool] at hfailed

theorem coherent_refresh {p : Project} (ok : p.registry.Coherent) (d : Disk)
    (options : ComponentOptions) : (p.refresh d options).project.registry.Coherent := by
  rw [refresh_registry]
  cases p.planned? d options with
  | none => exact ok
  | some plan => exact Registry.coherent_configure _ _ _

/-! ### Along a history -/

/-- Initializing is a refresh, unless the project is configured. -/
theorem after_init (p : Project) (d : Disk) (options : ComponentOptions) :
    p.after (.init d options) =
      if p.config.isSome then p else (p.refresh d options).project := by
  show ((p.init d options).map (·.project)).getD p = _
  unfold init
  split <;> rfl

theorem planned?_init (p : Project) (d : Disk) (options : ComponentOptions) :
    Event.planned? p (.init d options) =
      if p.config.isSome then none else p.planned? d options := rfl

theorem coherent_after {p : Project} (ok : p.registry.Coherent) (e : Event) :
    (p.after e).registry.Coherent := by
  cases e with
  | init d options =>
      rw [after_init]
      cases p.config.isSome with
      | true => exact ok
      | false => exact coherent_refresh ok d options
  | refresh d options => exact coherent_refresh ok d options
  | scanConfig d options => exact ok
  | resolve tag => exact ok.asked (p.registry.asked_resolve tag)

/-- An event that comes up with a scan configuration sets its matchers; the others keep those at
hand. -/
theorem matchers_after (p : Project) (e : Event) :
    (p.after e).registry.matchers =
      match e.planned? p with
      | some (d, c) => Registry.matchersOf d c
      | none => p.registry.matchers := by
  cases e with
  | init d options =>
      rw [after_init, planned?_init]
      cases p.config.isSome with
      | true => rfl
      | false => exact refresh_matchers p d options
  | refresh d options => exact refresh_matchers p d options
  | scanConfig d options => rfl
  | resolve tag => exact (p.registry.asked_resolve tag).matchers_eq

theorem coherent_run {p : Project} (ok : p.registry.Coherent) (history : List Event) :
    (p.run history).registry.Coherent := by
  induction history generalizing p with
  | nil => exact ok
  | cons e rest ih => exact ih (coherent_after ok e)

theorem matchers_run {p : Project} {last : Option (Disk × ScanConfig)}
    (h : p.registry.matchers = matchersOf? last) (history : List Event) :
    (p.run history).registry.matchers = matchersOf? (lastPlanned p last history) := by
  induction history generalizing p last with
  | nil => exact h
  | cons e rest ih =>
      refine ih ?_
      rw [matchers_after]
      cases e.planned? p with
      | none => exact h
      | some plan => rfl

/-- A project is idle exactly when its registry has no matchers. -/
theorem idle_iff {p : Project} (ok : p.registry.Coherent) :
    p.Idle ↔ p.registry.matchers = [] := by
  refine ⟨Idle.matchers, fun hempty => ?_⟩
  have hany : p.registry.hasAny = false := by rw [ok.hasAny, hempty]; rfl
  refine ⟨hany, hempty, fun tag => ?_⟩
  show (p.registry.resolve tag).1 = none
  rw [ok.resolve_eq]
  exact ok.firstMatch_of_idle hany tag

/-- A refresh that fails leaves the project idle if it got as far as the registry; if not, the
project is as idle as it was. -/
theorem idle_refresh_iff {p : Project} (ok : p.registry.Coherent) {d : Disk}
    {options : ComponentOptions} (hfailed : (p.refresh d options).project.config = none) :
    (p.refresh d options).project.Idle ↔ (p.planned? d options).isSome ∨ p.Idle := by
  rw [idle_iff (coherent_refresh ok d options), idle_iff ok, refresh_matchers]
  cases hplan : p.planned? d options with
  | none => simp
  | some plan =>
      have hnone : Registry.matchersOf plan.1 plan.2 = [] :=
        matchersOf_eq_nil_of_failed hplan hfailed
      simp [hnone]

/--
**When a project answers nothing.**  After any history, with the file system changing
as it may, a project is idle exactly when the last scan configuration that it came up
with, if it came up with any, leads to no matchers.  After a refresh that failed, this
is so exactly when the refresh had built its scan configuration, or the project was
idle before it.
-/
theorem idle_iff_lastPlanned (layout : Layout) (history : List Event) :
    (((new layout).run history).Idle ↔
      ∀ d c, lastPlanned (new layout) none history = some (d, c) →
        Registry.matchersOf d c = []) ∧
    ∀ d options, (((new layout).run history).refresh d options).project.config = none →
      ((((new layout).run history).refresh d options).project.Idle ↔
        (((new layout).run history).planned? d options).isSome ∨
          ((new layout).run history).Idle) := by
  have ok : ((new layout).run history).registry.Coherent :=
    coherent_run Registry.coherent_new history
  refine ⟨?_, fun d options hfailed => idle_refresh_iff ok hfailed⟩
  have hmatchers : ((new layout).run history).registry.matchers
      = matchersOf? (lastPlanned (new layout) none history) :=
    matchers_run rfl history
  rw [idle_iff ok, hmatchers]
  cases lastPlanned (new layout) none history with
  | none => simp [matchersOf?]
  | some plan => exact ⟨fun h d c hplan => by cases hplan; exact h, fun h => h _ _ rfl⟩

/-! ### A refresh that fails too early

The sources first have no modules, and the one entry of the settings is configured.
Then a plain file appears among the modules.  No scan configuration can be built over
it, and the refresh ends before the registry is touched.
-/

/-- A project whose sources are at `/p`. -/
def sampleLayout : Layout := ⟨.ofText "/p", .ofText "/lib"⟩

/-- Settings with one entry. -/
def sampleOptions : ComponentOptions := ⟨none, ⟨[("^Foo$", "foo.vue")], by decide⟩⟩

/-- Sources without anything in them. -/
def bareSources : Disk := ⟨⟨[([Utf8.encode "p"], .directory)], by decide⟩, some (.ofText "/")⟩

/-- Sources with a plain file among the modules. -/
def strayModule : Disk :=
  ⟨⟨[([Utf8.encode "p"], .directory),
      ([Utf8.encode "p", Utf8.encode "uni_modules"], .directory),
      ([Utf8.encode "p", Utf8.encode "uni_modules", Utf8.encode "notes"], .file [])],
    by decide⟩, some (.ofText "/")⟩

/-- A project without a configuration that still answers a tag. -/
theorem failed_refresh_keeps_answers :
    ((new sampleLayout).run
        [.refresh bareSources sampleOptions, .refresh strayModule sampleOptions]).config = none ∧
      (((new sampleLayout).run
        [.refresh bareSources sampleOptions, .refresh strayModule sampleOptions]).resolve
          "Foo").1 = some "foo.vue" := by
  constructor <;> cbv

end AppBuild.Project
