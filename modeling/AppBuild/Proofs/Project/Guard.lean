/-
Once configured, a project is left alone.

Initializing and refreshing both try to configure a project, and both through the same
steps; but an initialization does not try where there is a configuration already.  The
configuration is dropped at the start of each attempt and set at its end, so whether
there is one is a matter of how the last attempt went (`lastAttempt`), and of nothing
else that was done to the project in between.

That is why a success lasts.  Short of a refresh no call tries again, and those that do
not try keep the configuration and the matchers (`serve_quiet`); a registry that keeps
its matchers keeps its answers.  After a failure there is nothing to keep, and the next
initialization is a refresh.
-/
import AppBuild.Proofs.Project.History

namespace AppBuild.Project

/-! ### Calls and attempts -/

/-- What can be asked of a project: an event, or whether a change to a path matters.  Calls bring what
they find of the file system, so between two calls it may change in any way. -/
inductive Call where
  | event (e : Event)
  | watches (cwd : Option Path) (path : Path)

/-- Is it a refresh? -/
def Call.isRefresh : Call → Bool
  | .event (.refresh _ _) => true
  | _ => false

/-- The project after a call.  Asking whether a change matters changes nothing. -/
def afterCall (p : Project) : Call → Project
  | .event e => p.after e
  | .watches _ _ => p

/-- The project after calls. -/
def serve (p : Project) (calls : List Call) : Project := calls.foldl afterCall p

/-- How a call comes out that tries to configure the project.  An initialization that finds the
project configured does not try. -/
def attempt? (p : Project) : Call → Option (Except BuildError Report)
  | .event (.init d options) => (p.init d options).map (·.outcome)
  | .event (.refresh d options) => some (p.refresh d options).outcome
  | _ => none

/-- How the last of the calls that tried came out; the given outcome, if none of them did. -/
def lastAttempt (p : Project) (last : Option (Except BuildError Report)) :
    List Call → Option (Except BuildError Report)
  | [] => last
  | call :: rest => lastAttempt (p.afterCall call) ((p.attempt? call).or last) rest

/-- For all that can be asked the projects are the same. -/
structure Unmoved (p q : Project) : Prop where
  config : q.config = p.config
  matchers : q.registry.matchers = p.registry.matchers
  resolve : ∀ tag, (q.resolve tag).1 = (p.resolve tag).1

/-! ### One call -/

theorem init_of_configured {p : Project} (h : p.config.isSome = true) (d : Disk)
    (options : ComponentOptions) : p.init d options = none := by
  unfold init
  rw [if_pos h]

theorem init_of_unconfigured {p : Project} (h : p.config.isSome = false) (d : Disk)
    (options : ComponentOptions) : p.init d options = some (p.refresh d options) := by
  unfold init
  rw [if_neg (by simp [h])]

/-- A refresh leaves a configuration exactly when it succeeds. -/
theorem isSome_config_refresh (p : Project) (d : Disk) (options : ComponentOptions) :
    (p.refresh d options).project.config.isSome = (p.refresh d options).outcome.isOk := by
  cases hbuild : p.scanConfig d options with
  | error e => rw [refresh_of_error hbuild]; rfl
  | ok c =>
      rw [refresh_of_ok hbuild]
      simp only
      cases (p.registry.invalidate.configure d c).outcome <;> rfl

/-- After a call that tried there is a configuration if it succeeded; after another, if there was
one. -/
theorem isSome_config_afterCall (p : Project) (call : Call) :
    (p.afterCall call).config.isSome =
      (p.attempt? call).elim p.config.isSome Except.isOk := by
  cases call with
  | watches cwd path => rfl
  | event e =>
      cases e with
      | init d options =>
          show (p.after (.init d options)).config.isSome =
            ((p.init d options).map (·.outcome)).elim p.config.isSome Except.isOk
          rw [after_init]
          cases hconfig : p.config.isSome with
          | true =>
              rw [init_of_configured hconfig, if_pos rfl]
              exact hconfig
          | false =>
              rw [init_of_unconfigured hconfig, if_neg (by simp)]
              exact isSome_config_refresh p d options
      | refresh d options => exact isSome_config_refresh p d options
      | scanConfig d options => rfl
      | resolve tag => rfl

theorem coherent_afterCall {p : Project} (ok : p.registry.Coherent) (call : Call) :
    (p.afterCall call).registry.Coherent := by
  cases call with
  | event e => exact coherent_after ok e
  | watches cwd path => exact ok

/-- Of a configured project only a refresh changes the configuration or the matchers. -/
theorem afterCall_quiet {p : Project} (h : p.config.isSome = true) {call : Call}
    (hquiet : call.isRefresh = false) :
    (p.afterCall call).config = p.config ∧
      (p.afterCall call).registry.matchers = p.registry.matchers := by
  cases call with
  | watches cwd path => exact ⟨rfl, rfl⟩
  | event e =>
      cases e with
      | init d options =>
          show (p.after (.init d options)).config = p.config ∧
            (p.after (.init d options)).registry.matchers = p.registry.matchers
          rw [after_init, if_pos h]
          exact ⟨rfl, rfl⟩
      | refresh d options => exact absurd hquiet (by simp [Call.isRefresh])
      | scanConfig d options => exact ⟨rfl, rfl⟩
      | resolve tag => exact ⟨rfl, (p.registry.asked_resolve tag).matchers_eq⟩

/-! ### Many calls -/

theorem coherent_serve {p : Project} (ok : p.registry.Coherent) (calls : List Call) :
    (p.serve calls).registry.Coherent := by
  induction calls generalizing p with
  | nil => exact ok
  | cons call rest ih => exact ih (coherent_afterCall ok call)

/-- Whether a project is configured follows its last attempt. -/
theorem isSome_config_serve {p : Project} {last : Option (Except BuildError Report)}
    (h : p.config.isSome = last.any Except.isOk) (calls : List Call) :
    (p.serve calls).config.isSome = (lastAttempt p last calls).any Except.isOk := by
  induction calls generalizing p last with
  | nil => exact h
  | cons call rest ih =>
      refine ih ?_
      rw [isSome_config_afterCall]
      cases p.attempt? call with
      | none => exact h
      | some outcome => rfl

theorem any_isOk_iff {last : Option (Except BuildError Report)} :
    last.any Except.isOk = true ↔ ∃ report, last = some (.ok report) := by
  cases last with
  | none => simp
  | some outcome => cases outcome <;> simp [Except.isOk, Except.toBool]

/-- A configured project keeps its configuration and its matchers as long as it is not refreshed. -/
theorem serve_quiet {p : Project} (h : p.config.isSome = true) {calls : List Call}
    (hquiet : ∀ call ∈ calls, call.isRefresh = false) :
    (p.serve calls).config = p.config ∧
      (p.serve calls).registry.matchers = p.registry.matchers := by
  induction calls generalizing p with
  | nil => exact ⟨rfl, rfl⟩
  | cons call rest ih =>
      obtain ⟨hconfig, hmatchers⟩ := afterCall_quiet h (hquiet call (by simp))
      obtain ⟨hconfig', hmatchers'⟩ := ih (p := p.afterCall call) (by rw [hconfig]; exact h)
        fun later hlater => hquiet later (by simp [hlater])
      exact ⟨hconfig'.trans hconfig, hmatchers'.trans hmatchers⟩

/-- Projects with the same matchers answer alike. -/
theorem resolve_congr {p q : Project} (hp : p.registry.Coherent) (hq : q.registry.Coherent)
    (h : q.registry.matchers = p.registry.matchers) (tag : String) :
    (q.resolve tag).1 = (p.resolve tag).1 := by
  show (q.registry.resolve tag).1 = (p.registry.resolve tag).1
  rw [hq.resolve_eq, hp.resolve_eq, h]

/--
**A success lasts until the next refresh.**  After any calls, with the file system
changing as it may between them, a project is configured exactly when the last call that
tried to configure it succeeded.  If so, no calls but a refresh change its
configuration, its matchers or its answer to a tag, and after any of them an
initialization finds it configured and does nothing: it gives no error and no warning,
whatever its options are.  If not, the next initialization is a refresh.
-/
theorem config_guards (layout : Layout) (calls : List Call) :
    (((new layout).serve calls).config.isSome = true ↔
      ∃ report, lastAttempt (new layout) none calls = some (.ok report)) ∧
    ((∃ report, lastAttempt (new layout) none calls = some (.ok report)) →
      ∀ quiet : List Call, (∀ call ∈ quiet, call.isRefresh = false) →
        Unmoved ((new layout).serve calls) (((new layout).serve calls).serve quiet) ∧
        ∀ d options, (((new layout).serve calls).serve quiet).init d options = none) ∧
    ((¬ ∃ report, lastAttempt (new layout) none calls = some (.ok report)) →
      ∀ d options, ((new layout).serve calls).init d options =
        some (((new layout).serve calls).refresh d options)) := by
  have hconfigured : ((new layout).serve calls).config.isSome = true ↔
      ∃ report, lastAttempt (new layout) none calls = some (.ok report) := by
    have hfresh : (new layout).config.isSome =
        (none : Option (Except BuildError Report)).any Except.isOk := rfl
    rw [isSome_config_serve hfresh, any_isOk_iff]
  refine ⟨hconfigured, fun hsuccess quiet hquiet => ?_, fun hnone d options => ?_⟩
  · have hsome := hconfigured.mpr hsuccess
    have ok : ((new layout).serve calls).registry.Coherent :=
      coherent_serve Registry.coherent_new calls
    obtain ⟨hconfig, hmatchers⟩ := serve_quiet hsome hquiet
    refine ⟨⟨hconfig, hmatchers, resolve_congr ok (coherent_serve ok quiet) hmatchers⟩, ?_⟩
    exact init_of_configured (by rw [hconfig]; exact hsome)
  · have hfalse : ((new layout).serve calls).config.isSome = false := by
      rw [← Bool.not_eq_true, hconfigured]
      exact hnone
    exact init_of_unconfigured hfalse d options

/-! ### A failure, a success, and another plain file -/

/-- An initialization that fails for the plain file among the modules. -/
def strayStart : List Call := [.event (.init strayModule sampleOptions)]

/-- The plain file is gone, and the next one succeeds. -/
def retriedStart : List Call := strayStart ++ [.event (.init bareSources sampleOptions)]

/-- The plain file is back.  Configuring would fail again. -/
def strayCalls : List Call :=
  [.event (.init strayModule sampleOptions), .event (.resolve "Foo"),
    .watches (some (.ofText "/")) (.ofText "/p/components/Foo/Foo.vue"),
    .event (.scanConfig strayModule sampleOptions)]

/-- The failure lets the next initialization try, and its success outlasts the plain file. -/
theorem retried_stays :
    ((new sampleLayout).serve strayStart).init bareSources sampleOptions =
        some (((new sampleLayout).serve strayStart).refresh bareSources sampleOptions) ∧
      Unmoved ((new sampleLayout).serve retriedStart)
        (((new sampleLayout).serve retriedStart).serve strayCalls) ∧
      (((new sampleLayout).serve retriedStart).serve strayCalls).init strayModule sampleOptions =
        none ∧
      ((((new sampleLayout).serve retriedStart).serve strayCalls).resolve "Foo").1 =
        some "foo.vue" := by
  obtain ⟨hfailed, -, hretry⟩ := config_guards sampleLayout strayStart
  obtain ⟨hdone, hlasts, -⟩ := config_guards sampleLayout retriedStart
  have hstart : ((new sampleLayout).serve strayStart).config.isSome = false := by cbv
  have hconfigured : ((new sampleLayout).serve retriedStart).config.isSome = true := by cbv
  obtain ⟨hunmoved, hinit⟩ := hlasts (hdone.mp hconfigured) strayCalls (by decide)
  have hanswer : (((new sampleLayout).serve retriedStart).resolve "Foo").1 = some "foo.vue" := by
    cbv
  refine ⟨hretry (fun h => ?_) bareSources sampleOptions, hunmoved,
    hinit strayModule sampleOptions, (hunmoved.resolve "Foo").trans hanswer⟩
  rw [← hfailed, hstart] at h
  exact Bool.false_ne_true h

end AppBuild.Project
