/-
What a project sees that does not scan its own directories.

Where the options say not to scan, the built-in components are all that is left.  The
directories of the project may then hold anything, or be no directories, or lead in
circles: nothing of it is looked at, so nothing of it can be told from the outcome.

Said of two disks, it is enough that the path of the built-in components leads alike on both
(`LeadsAlike`).  The places it leads to need not be the same, since links may stand on the way.
A scan asks for three things only, whether the path leads to something, what is listed there,
and what is listed in a folder below, and all three come from what stands at the place and
below it (`LeadsAlike.check_eq`, `LeadsAlike.entries_eq`, `LeadsAlike.folder`).  So the scan is
the same, with its faults, and with it the plan, the registry and the outcome.

The path is the one that is scanned.  It is resolved without a look at the disk, so a path
that goes through a directory and back can lead nowhere as it is given and to the components
as it is scanned (`detour_told_apart`).
-/
import Mathlib
import AppBuild.Component.Project
import AppBuild.Proofs.Component.Provides
import AppBuild.Proofs.Registry.Plan
import AppBuild.Proofs.Tree.Agreement

namespace AppBuild

/-- A path leads to the same on two disks: it fails alike, leads to nothing, or leads to places, of
each disk one, at which and below which the same stands. -/
inductive LeadsAlike (d₁ d₂ : Disk) (p : Path) : Prop
  | fault {f : Fault} (h₁ : d₁.locate p = .error f) (h₂ : d₂.locate p = .error f)
  | missing (h₁ : d₁.locate p = .ok none) (h₂ : d₂.locate p = .ok none)
  | found {at₁ at₂ : Location} {e : Entry} (h₁ : d₁.locate p = .ok (some (at₁, e)))
      (h₂ : d₂.locate p = .ok (some (at₂, e)))
      (below : ∀ names, d₁.tree.get? (at₁ ++ names) = d₂.tree.get? (at₂ ++ names))

section

variable {d₁ d₂ : Disk} {p dir rootDir : Path} {extensions : List String}

/-! ### What a scan asks for -/

namespace LeadsAlike

theorem check_eq (h : LeadsAlike d₁ d₂ p) : d₁.check p = d₂.check p := by
  rw [AppBuild.check_eq, AppBuild.check_eq]
  cases h with
  | fault h₁ h₂ => rw [h₁, h₂]
  | missing h₁ h₂ => rw [h₁, h₂]
  | found h₁ h₂ _ =>
      rw [h₁, h₂]
      rfl

theorem entries_eq (h : LeadsAlike d₁ d₂ p) : d₁.entries p = d₂.entries p := by
  have hlist : d₁.list p = d₂.list p := by
    cases h with
    | fault h₁ h₂ =>
        unfold Disk.list
        rw [h₁, h₂]
        rfl
    | missing h₁ h₂ =>
        rw [Disk.list_eq_nil h₁ (by simp), Disk.list_eq_nil h₂ (by simp)]
    | @found at₁ at₂ e h₁ h₂ below =>
        by_cases hdir : e = .directory
        · subst hdir
          rw [Disk.list_eq_listing h₁, Disk.list_eq_listing h₂,
            Tree.listing_congr fun name => below [name]]
        · rw [Disk.list_eq_nil h₁ (by simp [hdir]), Disk.list_eq_nil h₂ (by simp [hdir])]
  unfold Disk.entries
  rw [hlist]

/-- A folder directly below leads alike, too. -/
theorem below_directory {at₁ at₂ : Location}
    (h₁ : d₁.locate dir = .ok (some (at₁, .directory)))
    (h₂ : d₂.locate dir = .ok (some (at₂, .directory)))
    (below : ∀ names, d₁.tree.get? (at₁ ++ names) = d₂.tree.get? (at₂ ++ names))
    {name : FileName} (hsub : d₁.tree.get? (at₁ ++ [name]) = some .directory) :
    LeadsAlike d₁ d₂ (dir.join ⟨name⟩) := by
  have hname := Tree.isName_of_get? hsub
  have hsub₂ : d₂.tree.get? (at₂ ++ [name]) = some .directory := by rw [← below, hsub]
  obtain ⟨hdir₁, links₁, -, hjoin₁⟩ := Disk.locate_join h₁
  obtain ⟨hdir₂, links₂, -, hjoin₂⟩ := Disk.locate_join h₂
  have hlocate₁ := hjoin₁ ⟨name⟩ (Path.isBelow_name hname)
  have hlocate₂ := hjoin₂ ⟨name⟩ (Path.isBelow_name hname)
  rw [Path.parts_name hname, Tree.walk_name hdir₁ hname hsub] at hlocate₁
  rw [Path.parts_name hname, Tree.walk_name hdir₂ hname hsub₂] at hlocate₂
  by_cases hpath : pathLimit < (dir.join ⟨name⟩).bytes.length
  · rw [if_pos hpath] at hlocate₁ hlocate₂
    exact .fault hlocate₁ hlocate₂
  rw [if_neg hpath] at hlocate₁ hlocate₂
  by_cases hlong : nameLimit < name.length
  · rw [if_pos hlong] at hlocate₁ hlocate₂
    exact .fault hlocate₁ hlocate₂
  rw [if_neg hlong] at hlocate₁ hlocate₂
  refine .found hlocate₁ hlocate₂ fun names => ?_
  rw [List.append_assoc, List.append_assoc]
  exact below _

/-- So does each folder that is listed. -/
theorem folder (h : LeadsAlike d₁ d₂ p) {entries : List (FileName × Entry)}
    (hentries : d₁.entries p = .ok entries) {name : FileName}
    (hmem : (name, .directory) ∈ entries) : LeadsAlike d₁ d₂ (p.join ⟨name⟩) := by
  cases h with
  | fault h₁ h₂ =>
      unfold Disk.entries Disk.list at hentries
      rw [h₁] at hentries
      exact absurd hentries (by simp [bind, Except.bind])
  | missing h₁ h₂ =>
      rw [Disk.entries_of_list (Disk.list_eq_nil h₁ (by simp))] at hentries
      rw [← Except.ok.inj hentries] at hmem
      exact absurd hmem (by simp)
  | @found at₁ at₂ e h₁ h₂ below =>
      by_cases hdir : e = .directory
      · subst hdir
        rw [Disk.entries_of_list (Disk.list_eq_listing h₁)] at hentries
        rw [← Except.ok.inj hentries, Tree.mem_listing] at hmem
        exact below_directory h₁ h₂ below hmem
      · rw [Disk.entries_of_list (Disk.list_eq_nil h₁ (by simp [hdir]))] at hentries
        rw [← Except.ok.inj hentries] at hmem
        exact absurd hmem (by simp)

end LeadsAlike

/-! ### The scan of a directory -/

theorem folderComponent?_congr {name : FileName} {entry : Entry}
    (h : entry = .directory → LeadsAlike d₁ d₂ (dir.join ⟨name⟩)) :
    folderComponent? d₁ dir extensions name entry =
      folderComponent? d₂ dir extensions name entry := by
  cases entry with
  | file content => rfl
  | link target => rfl
  | directory =>
      simp only [folderComponent?, (h rfl).entries_eq]

theorem componentsAmong_congr {entries : List (FileName × Entry)}
    (h : ∀ e ∈ entries, folderComponent? d₁ dir extensions e.1 e.2 =
      folderComponent? d₂ dir extensions e.1 e.2) :
    componentsAmong d₁ dir extensions entries = componentsAmong d₂ dir extensions entries := by
  induction entries with
  | nil => rfl
  | cons e entries ih =>
      rw [componentsAmong, componentsAmong, h e (by simp), ih fun e he => h e (by simp [he])]

/-- **A directory whose path leads alike is scanned alike**, faults included. -/
theorem scanDir_congr (hcwd : d₁.cwd = d₂.cwd)
    (h : LeadsAlike d₁ d₂ (.resolve d₁.cwd rootDir dir)) :
    scanDir d₁ rootDir extensions dir = scanDir d₂ rootDir extensions dir := by
  unfold scanDir
  simp only [← hcwd, ← h.check_eq, ← h.entries_eq]
  cases d₁.check (.resolve d₁.cwd rootDir dir) with
  | error e => rfl
  | ok there =>
      cases there with
      | false => rfl
      | true =>
          cases hentries : d₁.entries (.resolve d₁.cwd rootDir dir) with
          | error e => rfl
          | ok entries =>
              refine componentsAmong_congr fun e he => folderComponent?_congr fun hdir => ?_
              rw [← Prod.eta e, hdir] at he
              exact h.folder hentries he

end

/-! ### A project that scans nothing of its own -/

/-- What is scanned for a project with options that say not to scan. -/
def ScanConfig.builtinOnly (layout : Layout) (custom : OrderedMap String String) : ScanConfig where
  dirs := [layout.builtinDir]
  rootDir := layout.inputDir
  extensions := defaultExtensions
  autoscan := false
  custom := custom

section

variable {t₁ t₂ : Tree} {cwd : Option Path} {options : ComponentOptions}

/-- Nothing is looked at to tell what is scanned. -/
theorem forProject_of_not_scans (d : Disk) (layout : Layout)
    (hscans : options.autoscan = some false) :
    ScanConfig.forProject d layout options = .ok (.builtinOnly layout options.custom) := by
  have hno : options.scans = false := by
    unfold ComponentOptions.scans
    rw [hscans]
    rfl
  unfold ScanConfig.forProject
  rw [hno]
  rfl

/-- What is planned depends on the tree by the scan alone. -/
theorem Registry.plan_congr {c : ScanConfig}
    (h : scanDirs ⟨t₁, cwd⟩ c.rootDir c.extensions c.scanned =
      scanDirs ⟨t₂, cwd⟩ c.rootDir c.extensions c.scanned) :
    plan ⟨t₁, cwd⟩ c = plan ⟨t₂, cwd⟩ c := by
  unfold plan
  rw [h]

namespace Project

/-- A refresh that scans nothing of the project sees the built-in components alone. -/
theorem refresh_congr (p : Project) (hscans : options.autoscan = some false)
    (h : LeadsAlike ⟨t₁, cwd⟩ ⟨t₂, cwd⟩ (.resolve cwd p.layout.inputDir p.layout.builtinDir)) :
    p.refresh ⟨t₁, cwd⟩ options = p.refresh ⟨t₂, cwd⟩ options := by
  have hscan : scanDir ⟨t₁, cwd⟩ p.layout.inputDir ScanConfig.defaultExtensions p.layout.builtinDir
      = scanDir ⟨t₂, cwd⟩ p.layout.inputDir ScanConfig.defaultExtensions p.layout.builtinDir :=
    scanDir_congr rfl h
  have hplan : Registry.plan ⟨t₁, cwd⟩ (.builtinOnly p.layout options.custom) =
      Registry.plan ⟨t₂, cwd⟩ (.builtinOnly p.layout options.custom) := by
    refine Registry.plan_congr ?_
    show scanDirs ⟨t₁, cwd⟩ p.layout.inputDir ScanConfig.defaultExtensions [p.layout.builtinDir]
      = scanDirs ⟨t₂, cwd⟩ p.layout.inputDir ScanConfig.defaultExtensions [p.layout.builtinDir]
    rw [scanDirs, scanDirs, hscan]
    rfl
  rw [refresh_of_ok (forProject_of_not_scans ⟨t₁, cwd⟩ p.layout hscans),
    refresh_of_ok (forProject_of_not_scans ⟨t₂, cwd⟩ p.layout hscans)]
  unfold Registry.configure
  rw [hplan]

/--
**Without a scan of its own a project is isolated from what is in its directories.**  Take
two trees that agree on the built-in components: the path that they are scanned at fails
alike in both, leads to nothing in both, or leads to places at which and below which the
same stands.  If the options say not to scan, an initialization comes to the same with
both, whatever else the trees hold.  That is all of it: the report or the error, the
warnings, the configuration of the project, and its registry with the patterns and the
answers to all tags.
-/
theorem init_isolated (p : Project) (cwd : Option Path) (options : ComponentOptions)
    (hscans : options.autoscan = some false)
    (h : LeadsAlike ⟨t₁, cwd⟩ ⟨t₂, cwd⟩ (.resolve cwd p.layout.inputDir p.layout.builtinDir)) :
    p.init ⟨t₁, cwd⟩ options = p.init ⟨t₂, cwd⟩ options := by
  unfold init
  rw [p.refresh_congr hscans h]

/-! ### Sources that lead nowhere -/

/-- What a new project answers that scans nothing of its own is what its registry does. -/
theorem answer_unscanned {p : Project} (hnew : p.config = none) (d : Disk)
    (hscans : options.autoscan = some false) (tag : String) :
    (p.init d options).map (fun a => (a.project.resolve tag).1) =
      some ((p.registry.invalidate.configure d
        (.builtinOnly p.layout options.custom)).registry.resolve tag).1 := by
  unfold init
  rw [hnew, refresh_of_ok (forProject_of_not_scans d p.layout hscans)]
  rfl

/-- One built-in component. -/
def builtinEntries : List (Location × Entry) :=
  [([Utf8.encode "lib"], .directory),
    ([Utf8.encode "lib", Utf8.encode "Foo"], .directory),
    ([Utf8.encode "lib", Utf8.encode "Foo", Utf8.encode "Foo.vue"], .file [])]

/-- Sources with a component. -/
def soundEntries : List (Location × Entry) :=
  [([Utf8.encode "p"], .directory),
    ([Utf8.encode "p", Utf8.encode "components"], .directory),
    ([Utf8.encode "p", Utf8.encode "components", Utf8.encode "Bar"], .directory),
    ([Utf8.encode "p", Utf8.encode "components", Utf8.encode "Bar", Utf8.encode "Bar.vue"],
      .file [])]

/-- Sources with components that lead in a circle and a file for the modules. -/
def brokenEntries : List (Location × Entry) :=
  [([Utf8.encode "p"], .directory),
    ([Utf8.encode "p", Utf8.encode "components"], .link (.ofText "components")),
    ([Utf8.encode "p", Utf8.encode "uni_modules"], .file [])]

def soundDisk : Disk := ⟨⟨builtinEntries ++ soundEntries, by decide⟩, none⟩

def brokenDisk : Disk := ⟨⟨builtinEntries ++ brokenEntries, by decide⟩, none⟩

/-- The project of these sources. -/
def atSources : Project := .new ⟨.ofText "/p", .ofText "/lib"⟩

/-- Options that say not to scan. -/
def unscanned : ComponentOptions := ⟨some false, .empty⟩

/-- Below the built-in components the sources have nothing. -/
theorem lookup_builtin {rest : List (Location × Entry)}
    (h : ∀ e ∈ rest, e.1.head? ≠ some (Utf8.encode "lib")) (names : List FileName) :
    (builtinEntries ++ rest).lookup ([Utf8.encode "lib"] ++ names) =
      builtinEntries.lookup ([Utf8.encode "lib"] ++ names) := by
  have hnone : rest.lookup ([Utf8.encode "lib"] ++ names) = none := by
    rw [List.lookup_eq_none_iff]
    intro e he
    rw [bne_iff_ne]
    rintro hsame
    exact h e he (by rw [← hsame]; rfl)
  rw [List.lookup_append, hnone, Option.or_none]

theorem leadsAlike_builtin :
    LeadsAlike soundDisk brokenDisk (.resolve none (.ofText "/p") (.ofText "/lib")) := by
  have hsound : soundDisk.locate (.resolve none (.ofText "/p") (.ofText "/lib"))
      = .ok (some ([Utf8.encode "lib"], .directory)) := by cbv
  have hbroken : brokenDisk.locate (.resolve none (.ofText "/p") (.ofText "/lib"))
      = .ok (some ([Utf8.encode "lib"], .directory)) := by cbv
  refine .found hsound hbroken fun names => ?_
  rw [Tree.get?_eq_lookup _ (by simp), Tree.get?_eq_lookup _ (by simp)]
  exact (lookup_builtin (by decide) names).trans (lookup_builtin (by decide) names).symm

theorem sound_answers :
    (atSources.init soundDisk unscanned).map (fun a => (a.project.resolve "Foo").1) =
      some (some "/lib/Foo/Foo.vue") := by
  have hscan : scanDirs soundDisk (.ofText "/p") ScanConfig.defaultExtensions
      (ScanConfig.builtinOnly atSources.layout unscanned.custom).scanned
        = .ok [("Foo", "/lib/Foo/Foo.vue")] := by cbv
  rw [answer_unscanned rfl soundDisk rfl]
  unfold Registry.configure
  rw [Registry.plan_of_scan (c := .builtinOnly atSources.layout unscanned.custom) hscan]
  decide +kernel

/-- The sources that lead nowhere do not matter unless they are scanned, which fails. -/
theorem broken_sources_isolated :
    (atSources.init brokenDisk default).map (·.outcome.isOk) = some false ∧
    unscanned.autoscan = some false ∧
    LeadsAlike soundDisk brokenDisk (.resolve none (.ofText "/p") (.ofText "/lib")) ∧
    (atSources.init brokenDisk unscanned).map (fun a => (a.project.resolve "Foo").1) =
      some (some "/lib/Foo/Foo.vue") := by
  refine ⟨by cbv, rfl, leadsAlike_builtin, ?_⟩
  have hsame : atSources.init soundDisk unscanned = atSources.init brokenDisk unscanned :=
    init_isolated atSources none unscanned rfl leadsAlike_builtin
  rw [← hsame, sound_answers]

/-! ### A path with a detour -/

/-- The project of these sources, with a path for the built-in components that goes through a
directory and back. -/
def atDetour : Project := .new ⟨.ofText "/p", .ofText "/x/../lib"⟩

def emptyDisk : Disk := ⟨.empty, none⟩

/-- The components are scanned where the path leads without the detour, so that it leads nowhere on
two disks does not make them alike. -/
theorem detour_told_apart :
    (Path.ofText "/x/../lib").isAbsolute = true ∧ unscanned.autoscan = some false ∧
    LeadsAlike soundDisk emptyDisk (.ofText "/x/../lib") ∧
    (atDetour.init soundDisk unscanned).map (fun a => (a.project.resolve "Foo").1) =
      some (some "/lib/Foo/Foo.vue") ∧
    (atDetour.init emptyDisk unscanned).map (fun a => (a.project.resolve "Foo").1) =
      some none := by
  have hsound : scanDirs soundDisk (.ofText "/p") ScanConfig.defaultExtensions
      (ScanConfig.builtinOnly atDetour.layout unscanned.custom).scanned
        = .ok [("Foo", "/lib/Foo/Foo.vue")] := by cbv
  have hempty : scanDirs emptyDisk (.ofText "/p") ScanConfig.defaultExtensions
      (ScanConfig.builtinOnly atDetour.layout unscanned.custom).scanned = .ok [] := by cbv
  refine ⟨by decide, rfl, .missing (by cbv) (by cbv), ?_, ?_⟩
  · rw [answer_unscanned rfl soundDisk rfl]
    unfold Registry.configure
    rw [Registry.plan_of_scan (c := .builtinOnly atDetour.layout unscanned.custom) hsound]
    decide +kernel
  · rw [answer_unscanned rfl emptyDisk rfl]
    unfold Registry.configure
    rw [Registry.plan_of_scan (c := .builtinOnly atDetour.layout unscanned.custom) hempty]
    decide +kernel

end Project

end

end AppBuild
