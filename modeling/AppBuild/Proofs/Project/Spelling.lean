/-
Which spellings of its directory a project takes for the same.

A project looks for its modules from the working directory, and whether a spelling of
its directory is relative makes no difference to what it finds (`mirrors_forProject`).
But the directories that it then scans are resolved from the root of the sources, and
they start with the spelling of that root already.  So a spelling counts twice: what is
scanned stands below where the spelling leads when it is taken from itself
(`plan_configFrom`).

For absolute spellings this is the directory, and all of them are alike.  A relative
one leads somewhere else from itself, mostly to nothing.  Two spellings of a directory
are alike exactly when the scans from these two places are (`alike_iff_places`), and so
whenever the places are one.

The limits on the length of paths and on links are left out of this: a long spelling
can run into them where a short one does not.
-/
import AppBuild.Component.Project
import AppBuild.Proofs.Registry.Resolution

namespace AppBuild

open AppBuild.Path (resolve here)

variable {d : Disk} {dir : Path} {at_ : Location}

/-! ### What a configuration reads of its paths -/

theorem scanDirs_congr {root root' : Path} {extensions : List String} {dirs dirs' : List Path}
    (h : dirs.map (resolve d.cwd root) = dirs'.map (resolve d.cwd root')) :
    scanDirs d root extensions dirs = scanDirs d root' extensions dirs' := by
  induction dirs generalizing dirs' with
  | nil =>
      rw [List.map_nil] at h
      rw [List.map_eq_nil_iff.mp h.symm]
      rfl
  | cons dir dirs ih =>
      cases dirs' with
      | nil => exact absurd h (by simp)
      | cons dir' dirs' =>
          obtain ⟨hdir, hdirs⟩ := List.cons.inj h
          have hscan : scanDir d root extensions dir = scanDir d root' extensions dir' := by
            unfold scanDir
            rw [hdir]
          unfold scanDirs
          rw [hscan, ih hdirs]

/-- Paths are resolved and seen alike from two roots. -/
structure SameRoot (cwd : Option Path) (root root' : Path) : Prop where
  here : resolve cwd here root = resolve cwd here root'
  resolve : ∀ path, resolve cwd root path = resolve cwd root' path

/-- A configuration reads where its directories lead from the root, and nothing else of them. -/
theorem plan_congr {c c' : ScanConfig} (hroot : SameRoot d.cwd c.rootDir c'.rootDir)
    (hdirs : c.scanned.map (resolve d.cwd c.rootDir) = c'.scanned.map (resolve d.cwd c'.rootDir))
    (hextensions : c.extensions = c'.extensions) (hcustom : c.custom = c'.custom) :
    Registry.plan d c = Registry.plan d c' := by
  have hrelative : Path.relative d.cwd c.rootDir = Path.relative d.cwd c'.rootDir := by
    funext target
    unfold Path.relative
    rw [hroot.here]
  have hscan : Scan.ofComponents d.cwd c.rootDir = Scan.ofComponents d.cwd c'.rootDir := by
    have hadd : Scan.add d.cwd c.rootDir = Scan.add d.cwd c'.rootDir := by
      funext s component
      unfold Scan.add
      rw [hrelative]
    unfold Scan.ofComponents
    rw [hadd]
  have hwarning : conflictWarning? d.cwd c.rootDir = conflictWarning? d.cwd c'.rootDir := by
    funext conflicts
    unfold conflictWarning?
    rw [hrelative]
  have hlayOut : layOut d.cwd c.rootDir = layOut d.cwd c'.rootDir := by
    have hcustom : Slot.ofCustom d.cwd c.rootDir = Slot.ofCustom d.cwd c'.rootDir := by
      funext entry
      have hresolve : resolve d.cwd c.rootDir = resolve d.cwd c'.rootDir :=
        funext hroot.resolve
      unfold Slot.ofCustom Slot.customPath
      rw [hresolve]
    unfold layOut
    rw [hcustom]
  unfold Registry.plan
  rw [scanDirs_congr hdirs, hextensions, hcustom, hscan, hwarning, hlayOut]

/-! ### The modules of a project -/

/-- The components of a module, from the directory of the project. -/
def componentsOf (name : FileName) : Path :=
  ((Path.ofText "uni_modules").join ⟨name⟩).child "components"

namespace Tree

/-- Those of the modules of a project at a place that have components. -/
def modulesAmong (t : Tree) (at_ : Location) : List FileName → Except Fault (List FileName)
  | [] => .ok []
  | name :: rest => do
    let found ← t.walk true linkLimit at_ (componentsOf name).parts
    let modules ← modulesAmong t at_ rest
    .ok (if found.isSome then name :: modules else modules)

/-- The modules with components of a project at a place. -/
def modules (t : Tree) (at_ : Location) : Except Fault (List FileName) := do
  match ← t.walk true linkLimit at_ (Path.ofText "uni_modules").parts with
  | some (below, .directory) =>
    modulesAmong t at_ ((t.listing below).map Prod.fst)
  | _ => .ok []

end Tree

/-! ### Short of the limits

What is looked up from a directory is compared with a walk from its place.  The two
come to the same as long as the path is not too long and the links suffice.
-/

/-- Is the failure one of the limits of the file system? -/
def BuildError.IsLimit (e : BuildError) : Prop :=
  ∃ p, e = .io p .nameTooLong ∨ e = .io p .linkLoop

/-- No limit is met. -/
def Within {α : Type} (y : Except BuildError α) : Prop := ∀ e, y = .error e → ¬ e.IsLimit

theorem Within.first {α β : Type} {y : Except BuildError α} {next : α → Except BuildError β}
    (h : Within (y >>= next)) : Within y := by
  intro e he
  refine h e ?_
  rw [he]
  rfl

theorem Within.second {α β : Type} {y : Except BuildError α} {next : α → Except BuildError β}
    (h : Within (y >>= next)) {a : α} (ha : y = .ok a) : Within (next a) := by
  rw [ha] at h
  exact h

/-- What is asked of paths comes to the same as what is asked of places, with the fault the same if
there is one. -/
inductive Mirrors {α β : Type} (f : α → β) : Except Fault α → Except BuildError β → Prop
  | ok (a : α) : Mirrors f (.ok a) (.ok (f a))
  | fault (fault : Fault) (p : Path) : Mirrors f (.error fault) (.error (.io p fault))

theorem Mirrors.bind {α β γ δ : Type} {f : α → β} {g : γ → δ} {x : Except Fault α}
    {y : Except BuildError β} {xnext : α → Except Fault γ} {ynext : β → Except BuildError δ}
    (h : Mirrors f x y)
    (hnext : ∀ a, x = .ok a → y = .ok (f a) → Mirrors g (xnext a) (ynext (f a))) :
    Mirrors g (x >>= xnext) (y >>= ynext) := by
  cases h with
  | ok a => exact hnext a rfl rfl
  | fault fault p => exact .fault fault p

theorem Mirrors.then {α β γ : Type} {f : α → β} {g : α → γ} {x : Except Fault α}
    {y : Except BuildError β} {next : β → Except BuildError γ} (h : Mirrors f x y)
    (hnext : ∀ a, next (f a) = .ok (g a)) : Mirrors g x (y >>= next) := by
  cases h with
  | ok a =>
      show Mirrors g _ (next (f a))
      rw [hnext]
      exact .ok a
  | fault fault p => exact .fault fault p

theorem locate_eq_walk (h : d.locate dir = .ok (some (at_, .directory))) {q : Path}
    (hq : q.IsBelow) (hwithin : Within (d.check (dir.join q))) :
    d.locate (dir.join q) = d.tree.walk true linkLimit at_ q.parts := by
  refine Disk.locate_join_eq_walk h hq (fun hlong => ?_) (fun hloop => ?_)
  · exact hwithin _ (by rw [check_eq, hlong]) ⟨_, .inl rfl⟩
  · exact hwithin _ (by rw [check_eq, hloop]) ⟨_, .inr rfl⟩

theorem mirrors_check (h : d.locate dir = .ok (some (at_, .directory))) {q : Path}
    (hq : q.IsBelow) (hwithin : Within (d.check (dir.join q))) :
    Mirrors Option.isSome (d.tree.walk true linkLimit at_ q.parts) (d.check (dir.join q)) := by
  rw [← locate_eq_walk h hq hwithin, check_eq]
  cases d.locate (dir.join q) with
  | error fault => exact .fault fault _
  | ok found => exact .ok found

/-! ### The scan configuration of a project -/

/-- The name of the directory for modules. -/
theorem isBelow_uni_modules : (Path.ofText "uni_modules").IsBelow :=
  Path.isBelow_name (by decide : IsName (Utf8.encode "uni_modules"))

theorem isBelow_components : (Path.ofText "components").IsBelow :=
  Path.isBelow_name (by decide : IsName (Utf8.encode "components"))

theorem isBelow_componentsOf {name : FileName} (h : IsName name) : (componentsOf name).IsBelow :=
  (isBelow_uni_modules.join (Path.isBelow_name h)).join isBelow_components

/-- The components of a module stand below the directory of the project. -/
theorem child_modulesDir (dir : Path) {name : FileName} (h : IsName name) :
    ((dir.child "uni_modules").join ⟨name⟩).child "components" = dir.join (componentsOf name) := by
  unfold componentsOf Path.child
  rw [Path.join_assoc dir isBelow_uni_modules (Path.isAbsolute_name h),
    Path.join_assoc dir (isBelow_uni_modules.join (Path.isBelow_name h))
      isBelow_components.relative]

/-- The component directories of modules are found below the directory, however it is spelled. -/
theorem mirrors_moduleDirs (h : d.locate dir = .ok (some (at_, .directory)))
    {entries : List (FileName × Entry)} (hnames : ∀ e ∈ entries, IsName e.1)
    (hwithin : Within (ScanConfig.moduleDirs d (dir.child "uni_modules") entries)) :
    Mirrors (List.map fun m => dir.join (componentsOf m))
      (d.tree.modulesAmong at_ (entries.map Prod.fst))
      (ScanConfig.moduleDirs d (dir.child "uni_modules") entries) := by
  induction entries with
  | nil => exact .ok []
  | cons entry rest ih =>
      obtain ⟨name, e⟩ := entry
      have hname : IsName name := hnames (name, e) (by simp)
      rw [ScanConfig.moduleDirs, child_modulesDir dir hname] at hwithin ⊢
      refine (mirrors_check h (isBelow_componentsOf hname) hwithin.first).bind
        fun found _ hthere => ?_
      refine (ih (fun e he => hnames e (by simp [he])) (hwithin.second hthere).first).bind
        fun ms _ _ => ?_
      cases found with
      | none => exact .ok ms
      | some x => exact .ok (name :: ms)

theorem mirrors_allModuleDirs (h : d.locate dir = .ok (some (at_, .directory)))
    (hwithin : Within (ScanConfig.allModuleDirs d (dir.child "uni_modules"))) :
    Mirrors (List.map fun m => dir.join (componentsOf m)) (d.tree.modules at_)
      (ScanConfig.allModuleDirs d (dir.child "uni_modules")) := by
  unfold ScanConfig.allModuleDirs at hwithin ⊢
  refine (mirrors_check h isBelow_uni_modules hwithin.first).bind fun found hwalk hthere => ?_
  have hlocate : d.locate (dir.child "uni_modules") = .ok found :=
    (locate_eq_walk h isBelow_uni_modules hwithin.first).trans hwalk
  have hwithin := hwithin.second hthere
  rcases found with _ | ⟨below, e⟩
  · exact .ok []
  · by_cases hdir : e = .directory
    · subst hdir
      have hentries := Disk.entries_of_list (Disk.list_eq_listing hlocate)
      rw [Option.isSome_some, if_pos rfl, hentries] at hwithin ⊢
      exact mirrors_moduleDirs h
        (fun e he => Tree.isName_of_get? (Tree.mem_listing.mp he)) hwithin
    · have hentries := Disk.entries_of_list (Disk.list_eq_nil hlocate
        (fun at' hat => hdir (Prod.mk.inj (Option.some.inj hat)).2))
      rw [Option.isSome_some, if_pos rfl, hentries]
      cases e with
      | directory => exact absurd rfl hdir
      | file content => exact .ok []
      | link target => exact .ok []

/-- The modules that a project at a place looks at. -/
def projectModules (t : Tree) (at_ : Location) (options : ComponentOptions) :
    Except Fault (List FileName) :=
  if options.scans then t.modules at_ else .ok []

/-- What is scanned for a project whose own directories stand below `dir`. -/
def configFrom (builtinDir rootDir dir : Path) (options : ComponentOptions)
    (modules : List FileName) : ScanConfig where
  dirs := builtinDir ::
    if options.scans then
      dir.child "components" :: modules.map fun m => dir.join (componentsOf m)
    else []
  rootDir := rootDir
  extensions := ScanConfig.defaultExtensions
  autoscan := options.scans
  custom := options.custom

/-- **What is scanned for a project is written with the spelling of its directory.** -/
theorem mirrors_forProject (h : d.locate dir = .ok (some (at_, .directory))) (builtinDir : Path)
    (options : ComponentOptions)
    (hwithin : Within (ScanConfig.forProject d ⟨dir, builtinDir⟩ options)) :
    Mirrors (configFrom builtinDir dir dir options) (projectModules d.tree at_ options)
      (ScanConfig.forProject d ⟨dir, builtinDir⟩ options) := by
  unfold ScanConfig.forProject projectModules configFrom at *
  cases hscans : options.scans with
  | false =>
      simp only [Bool.false_eq_true, if_false]
      exact .ok []
  | true =>
      simp only [hscans, if_true] at hwithin ⊢
      exact (mirrors_allModuleDirs h hwithin.first).then fun modules => rfl

/-- **What is scanned stands below where the spelling leads from itself.** -/
theorem plan_configFrom {w : Path} (hcwd : d.cwd = some w) (hw : w.isAbsolute = true)
    (builtinDir dir : Path) (options : ComponentOptions) (modules : List FileName) :
    Registry.plan d (configFrom builtinDir dir dir options modules) =
      Registry.plan d (configFrom builtinDir (resolve d.cwd here dir) (resolve d.cwd dir dir)
        options modules) := by
  have hhere : resolve d.cwd here dir = resolve d.cwd here (resolve d.cwd here dir) := by
    rw [hcwd, Path.resolve_here_resolve hw]
  have hroot : SameRoot d.cwd dir (resolve d.cwd here dir) := by
    refine ⟨hhere, fun path => ?_⟩
    rw [hcwd] at hhere ⊢
    exact Path.resolve_congr hw hhere path
  have hbelow : ∀ q : Path, resolve d.cwd dir (dir.join q)
      = resolve d.cwd (resolve d.cwd here dir) ((resolve d.cwd dir dir).join q) := by
    intro q
    rw [hcwd, Path.resolve_join hw dir dir q,
      Path.resolve_join_of_absolute _ _ (Path.isAbsolute_resolve hw dir dir)]
  refine plan_congr hroot ?_ rfl rfl
  unfold ScanConfig.scanned configFrom
  cases options.scans with
  | false => simp [hroot.resolve]
  | true =>
      simp only [if_true, List.map_cons, List.map_map, hroot.resolve builtinDir]
      congr 2
      · exact hbelow _
      · exact List.map_congr_left fun m _ => hbelow _

/-! ### What an initialization comes to -/

/-- What the first initialization of a project comes to. -/
def firstInit (layout : Layout) (d : Disk) (options : ComponentOptions) : Project.Refreshed :=
  ((Project.new layout).init d options).get rfl

/-- The outcomes are the same, up to how the path of a fault is spelled. -/
inductive SameOutcome : Except BuildError Report → Except BuildError Report → Prop
  | refl (outcome : Except BuildError Report) : SameOutcome outcome outcome
  | io (p q : Path) (fault : Fault) : SameOutcome (.error (.io p fault)) (.error (.io q fault))

/-- Two registries were configured alike: with one outcome, the same warnings and patterns, and one
answer to each tag. -/
structure Alike (a b : Configured) : Prop where
  outcome : SameOutcome a.outcome b.outcome
  warnings : a.warnings = b.warnings
  patterns : a.registry.patterns = b.registry.patterns
  resolve : ∀ tag, (a.registry.resolve tag).1 = (b.registry.resolve tag).1

theorem Alike.refl (a : Configured) : Alike a a := ⟨.refl _, rfl, rfl, fun _ => rfl⟩

/-- A refresh, for what it makes of the registry. -/
def Project.Refreshed.configured (a : Project.Refreshed) : Configured :=
  ⟨a.project.registry, a.outcome, a.warnings⟩

/-- A refresh configures the registry anew once it has built a scan configuration. -/
theorem configured_refresh (p : Project) (d : Disk) (options : ComponentOptions) :
    (p.refresh d options).configured =
      match p.scanConfig d options with
      | .error e => ⟨p.registry, .error e, []⟩
      | .ok c => p.registry.invalidate.configure d c := by
  cases hbuild : p.scanConfig d options with
  | error e => rw [Project.refresh_of_error hbuild]; rfl
  | ok c => rw [Project.refresh_of_ok hbuild]; rfl

theorem configured_firstInit (layout : Layout) (d : Disk) (options : ComponentOptions) :
    (firstInit layout d options).configured =
      match ScanConfig.forProject d layout options with
      | .error e => ⟨.new, .error e, []⟩
      | .ok c => Registry.new.configure d c :=
  configured_refresh (Project.new layout) d options

/-- A failure to build the scan configuration is the outcome. -/
theorem within_forProject {layout : Layout} {options : ComponentOptions}
    (h : Within (firstInit layout d options).outcome) :
    Within (ScanConfig.forProject d layout options) := by
  intro e he
  refine h e ?_
  show (firstInit layout d options).configured.outcome = .error e
  rw [configured_firstInit, he]

/-- What the registry is configured to by the first initialization of a project whose directory is
spelled so. -/
def initFrom (d : Disk) (builtinDir : Path) (options : ComponentOptions) (dir : Path) :
    Configured :=
  (firstInit ⟨dir, builtinDir⟩ d options).configured

/-- What it is configured to for a project at a root whose own directories stand below `dir`. -/
def configuredFrom (d : Disk) (builtinDir : Path) (options : ComponentOptions) (rootDir : Path)
    (modules : List FileName) (dir : Path) : Configured :=
  Registry.new.configure d (configFrom builtinDir rootDir dir options modules)

section

variable {w : Path} (hcwd : d.cwd = some w) (hw : w.isAbsolute = true)

include hcwd hw in
/-- An initialization that finds the modules configures the registry for what stands below where the
spelling leads from itself. -/
theorem initFrom_eq_configuredFrom (h : d.locate dir = .ok (some (at_, .directory)))
    (builtinDir : Path) (options : ComponentOptions)
    (hwithin : Within (initFrom d builtinDir options dir).outcome) {modules : List FileName}
    (hmodules : projectModules d.tree at_ options = .ok modules) :
    initFrom d builtinDir options dir =
      configuredFrom d builtinDir options (resolve d.cwd here dir) modules
        (resolve d.cwd dir dir) := by
  have hmirrors := mirrors_forProject h builtinDir options (within_forProject hwithin)
  unfold initFrom configuredFrom
  rw [configured_firstInit]
  rw [hmodules] at hmirrors
  generalize ScanConfig.forProject d ⟨dir, builtinDir⟩ options = config at hmirrors
  cases hmirrors with
  | ok modules =>
      show Registry.configure .new d _ = Registry.configure .new d _
      unfold Registry.configure
      rw [plan_configFrom hcwd hw builtinDir dir options modules]

/-- An initialization that cannot look at the modules fails as they do. -/
theorem initFrom_eq_failed (h : d.locate dir = .ok (some (at_, .directory)))
    (builtinDir : Path) (options : ComponentOptions)
    (hwithin : Within (initFrom d builtinDir options dir).outcome) {fault : Fault}
    (hmodules : projectModules d.tree at_ options = .error fault) :
    ∃ p, initFrom d builtinDir options dir = ⟨.new, .error (.io p fault), []⟩ := by
  have hmirrors := mirrors_forProject h builtinDir options (within_forProject hwithin)
  unfold initFrom
  rw [configured_firstInit]
  rw [hmodules] at hmirrors
  generalize ScanConfig.forProject d ⟨dir, builtinDir⟩ options = config at hmirrors
  cases hmirrors with
  | fault fault p => exact ⟨p, rfl⟩

variable {dir₁ dir₂ : Path} (h₁ : d.locate dir₁ = .ok (some (at_, .directory)))
  (h₂ : d.locate dir₂ = .ok (some (at_, .directory)))
  (hsame : resolve d.cwd here dir₁ = resolve d.cwd here dir₂)
  {builtinDir : Path} {options : ComponentOptions}
  (hwithin₁ : Within (initFrom d builtinDir options dir₁).outcome)
  (hwithin₂ : Within (initFrom d builtinDir options dir₂).outcome)

include hcwd hw h₁ h₂ hsame hwithin₁ hwithin₂

theorem alike_iff_places :
    Alike (initFrom d builtinDir options dir₁) (initFrom d builtinDir options dir₂) ↔
      ∀ modules, projectModules d.tree at_ options = .ok modules →
        Alike
          (configuredFrom d builtinDir options (resolve d.cwd here dir₁) modules
            (resolve d.cwd dir₁ dir₁))
          (configuredFrom d builtinDir options (resolve d.cwd here dir₁) modules
            (resolve d.cwd dir₂ dir₂)) := by
  cases hmodules : projectModules d.tree at_ options with
  | ok modules =>
      rw [initFrom_eq_configuredFrom hcwd hw h₁ builtinDir options hwithin₁ hmodules,
        initFrom_eq_configuredFrom hcwd hw h₂ builtinDir options hwithin₂ hmodules, ← hsame]
      constructor
      · intro halike others hothers
        rw [← Except.ok.inj hothers]
        exact halike
      · intro halike
        exact halike modules rfl
  | error fault =>
      obtain ⟨p₁, hfailed₁⟩ := initFrom_eq_failed h₁ builtinDir options hwithin₁ hmodules
      obtain ⟨p₂, hfailed₂⟩ := initFrom_eq_failed h₂ builtinDir options hwithin₂ hmodules
      rw [hfailed₁, hfailed₂]
      constructor
      · intro _ modules hok
        exact absurd hok (by simp)
      · intro _
        exact ⟨.io p₁ p₂ fault, rfl, rfl, fun tag => rfl⟩

theorem alike_of_place_eq (hplace : resolve d.cwd dir₁ dir₁ = resolve d.cwd dir₂ dir₂) :
    Alike (initFrom d builtinDir options dir₁) (initFrom d builtinDir options dir₂) := by
  rw [alike_iff_places hcwd hw h₁ h₂ hsame hwithin₁ hwithin₂, hplace]
  intro modules _
  exact Alike.refl _

end

/--
**When two spellings of a directory are alike.**  In an absolute working directory, take
two spellings that lead to one place and name the directory there.  Short of the limits
of the file system, initializing with the one and with the other comes to the same
exactly when configuring does from the two places to which the spellings lead when each
is taken from itself.  So it does whenever these places are one, and then for any two
absolute spellings.
-/
theorem init_alike_iff {w : Path} (hcwd : d.cwd = some w) (hw : w.isAbsolute = true)
    {dir₁ dir₂ : Path} (h₁ : d.locate dir₁ = .ok (some (at_, .directory)))
    (h₂ : d.locate dir₂ = .ok (some (at_, .directory)))
    (hsame : resolve d.cwd here dir₁ = resolve d.cwd here dir₂) (builtinDir : Path)
    (options : ComponentOptions)
    (hwithin₁ : Within (initFrom d builtinDir options dir₁).outcome)
    (hwithin₂ : Within (initFrom d builtinDir options dir₂).outcome) :
    (Alike (initFrom d builtinDir options dir₁) (initFrom d builtinDir options dir₂) ↔
      ∀ modules, projectModules d.tree at_ options = .ok modules →
        Alike
          (configuredFrom d builtinDir options (resolve d.cwd here dir₁) modules
            (resolve d.cwd dir₁ dir₁))
          (configuredFrom d builtinDir options (resolve d.cwd here dir₁) modules
            (resolve d.cwd dir₂ dir₂))) ∧
    (resolve d.cwd dir₁ dir₁ = resolve d.cwd dir₂ dir₂ →
      Alike (initFrom d builtinDir options dir₁) (initFrom d builtinDir options dir₂)) ∧
    (dir₁.isAbsolute = true → dir₂.isAbsolute = true →
      Alike (initFrom d builtinDir options dir₁) (initFrom d builtinDir options dir₂)) := by
  refine ⟨alike_iff_places hcwd hw h₁ h₂ hsame hwithin₁ hwithin₂,
    alike_of_place_eq hcwd hw h₁ h₂ hsame hwithin₁ hwithin₂, ?_⟩
  intro habs₁ habs₂
  refine alike_of_place_eq hcwd hw h₁ h₂ hsame hwithin₁ hwithin₂ ?_
  rw [Path.resolve_self_of_absolute _ habs₁, Path.resolve_self_of_absolute _ habs₂, hsame]

/-! ### Spellings that are alike, and spellings that are not -/

/-- The sources at `/w/p`, seen from `/w`, with one component. -/
def spelledDisk : Disk :=
  ⟨⟨[([Utf8.encode "w"], .directory),
      ([Utf8.encode "w", Utf8.encode "p"], .directory),
      ([Utf8.encode "w", Utf8.encode "p", Utf8.encode "components"], .directory),
      ([Utf8.encode "w", Utf8.encode "p", Utf8.encode "components", Utf8.encode "Foo"],
        .directory),
      ([Utf8.encode "w", Utf8.encode "p", Utf8.encode "components", Utf8.encode "Foo",
        Utf8.encode "Foo.vue"], .file [])],
    by decide⟩, some (.ofText "/w")⟩

/-- Where the sources are. -/
def spelledPlace : Location := [Utf8.encode "w", Utf8.encode "p"]

/-- What is scanned for it. -/
def spelledConfig (dir : String) : ScanConfig :=
  configFrom (.ofText "/lib") (.ofText dir) (.ofText dir) default []

/-- What such a scan finds if it finds the sources. -/
def spelledFound : List Component := [("Foo", "/w/p/components/Foo/Foo.vue")]

theorem isOk_spelledConfig {dir : String}
    (hscan : scanDirs spelledDisk (.ofText dir) [".vue"] (spelledConfig dir).scanned
      = .ok spelledFound) :
    (Registry.new.configure spelledDisk (spelledConfig dir)).outcome.isOk = true := by
  refine Registry.configure_isOk .new (fun entry hentry => by cases hentry) hscan ?_
  show ∀ entry ∈ spelledFound, _
  decide

theorem initFrom_spelled {dir : String}
    (hconfig : ScanConfig.forProject spelledDisk ⟨.ofText dir, .ofText "/lib"⟩ default
      = .ok (spelledConfig dir)) :
    initFrom spelledDisk (.ofText "/lib") default (.ofText dir)
      = Registry.new.configure spelledDisk (spelledConfig dir) := by
  unfold initFrom
  rw [configured_firstInit, hconfig]

theorem within_of_isOk {α : Type} {y : Except BuildError α} (h : y.isOk = true) : Within y := by
  intro e he
  exact absurd he (ne_error_of_isOk h e)

theorem within_spelled {dir : String}
    (hconfig : ScanConfig.forProject spelledDisk ⟨.ofText dir, .ofText "/lib"⟩ default
      = .ok (spelledConfig dir))
    (hscan : scanDirs spelledDisk (.ofText dir) [".vue"] (spelledConfig dir).scanned
      = .ok spelledFound) :
    Within (initFrom spelledDisk (.ofText "/lib") default (.ofText dir)).outcome := by
  rw [initFrom_spelled hconfig]
  exact within_of_isOk (isOk_spelledConfig hscan)

/-- A dot and a slash at the end make no difference. -/
theorem absolute_spellings_alike :
    Alike (initFrom spelledDisk (.ofText "/lib") default (.ofText "/w/p"))
      (initFrom spelledDisk (.ofText "/lib") default (.ofText "/w/./p/")) := by
  have hplain : spelledDisk.locate (.ofText "/w/p") = .ok (some (spelledPlace, .directory)) := by
    cbv
  have hdotted : spelledDisk.locate (.ofText "/w/./p/")
      = .ok (some (spelledPlace, .directory)) := by cbv
  exact (init_alike_iff rfl (by decide) hplain hdotted (by decide) (.ofText "/lib") default
    (within_spelled (by cbv) (by cbv)) (within_spelled (by cbv) (by cbv))).2.2
      (by decide) (by decide)

/-- A relative spelling and the absolute one name the same directory, but only from the absolute one
the component is found. -/
theorem relative_spelling_differs :
    spelledDisk.locate (.ofText "p") = .ok (some (spelledPlace, .directory)) ∧
    spelledDisk.locate (.ofText "/w/p") = .ok (some (spelledPlace, .directory)) ∧
    resolve spelledDisk.cwd here (.ofText "p") = resolve spelledDisk.cwd here (.ofText "/w/p") ∧
    ((initFrom spelledDisk (.ofText "/lib") default (.ofText "p")).registry.resolve "Foo").1
      = none ∧
    ((initFrom spelledDisk (.ofText "/lib") default (.ofText "/w/p")).registry.resolve "Foo").1
      = some "/w/p/components/Foo/Foo.vue" := by
  refine ⟨by cbv, by cbv, by decide, by cbv, ?_⟩
  have hscan : scanDirs spelledDisk (.ofText "/w/p") [".vue"] (spelledConfig "/w/p").scanned
      = .ok spelledFound := by cbv
  rw [initFrom_spelled (by cbv), Registry.resolve_configure
    (fun entry hentry => by cases hentry) (isOk_spelledConfig hscan) hscan]
  decide

end AppBuild
