/-
Which changes a project has to watch for.

Of a change to a file a project is told the path, and from the path alone it decides
whether the change matters (`Project.watches`): whether the names on the way from the
root of the sources lead to where a component can be.  That this is enough is a matter of
what a refresh looks at.  It scans the built-in directory, the components of the sources
and those of the modules, and outside of the first it sees a file only where the file can
be the component of a folder (`scans_agree`); each such place is one of those watched
(`watches_of_canBeComponent`).

So where two trees differ in one file that is not watched and not built in, a refresh
that succeeds in both comes to the same: one outcome, the same warnings and one registry
(`refresh_agrees`).
-/
import AppBuild.Proofs.Component.Agreement
import AppBuild.Proofs.Component.Conflicts
import AppBuild.Proofs.Project.Spelling

namespace AppBuild

open AppBuild.Path (resolve here)

variable {t₁ t₂ : Tree} {cwd : Option Path} {place : Location}

/-! ### What is scanned for a project -/

/-- The built-in directory comes first, and after it only what the options allow. -/
theorem scanned_of_forProject {d : Disk} {layout : Layout} {options : ComponentOptions}
    {c : ScanConfig} (h : ScanConfig.forProject d layout options = .ok c) :
    c.rootDir = layout.inputDir ∧ c.extensions = ScanConfig.defaultExtensions ∧
      c.custom = options.custom ∧
      if options.scans then
        ∃ modules, ScanConfig.allModuleDirs d layout.modulesDir = .ok modules ∧
          c.scanned = layout.builtinDir :: layout.componentsDir :: modules
      else c.scanned = [layout.builtinDir] := by
  unfold ScanConfig.forProject at h
  cases hscans : options.scans with
  | false =>
      simp only [hscans, Bool.false_eq_true, if_false] at h ⊢
      obtain rfl := Except.ok.inj h
      exact ⟨rfl, rfl, rfl, rfl⟩
  | true =>
      simp only [hscans, if_true] at h ⊢
      obtain ⟨modules, hmodules, h⟩ := parts_of_bind h
      obtain rfl := Except.ok.inj h
      exact ⟨rfl, rfl, rfl, modules, hmodules, rfl⟩

/-- **A file that is neither built in nor where a component can be is not seen by the scans of a
project.** -/
theorem scans_agree (h : t₁.DifferInFile t₂ place) {layout : Layout}
    (hinput : layout.inputDir.isAbsolute = true)
    (hbuiltin : ¬ (layout.inputDir.join layout.builtinDir).place <+: place)
    (hcomponents : ¬ CanBeComponent ScanConfig.defaultExtensions layout.componentsDir.place place)
    (hmodules : ∀ name, ¬ CanBeComponent ScanConfig.defaultExtensions
      (layout.modulesDir.place ++ [name, Utf8.encode "components"]) place)
    {options : ComponentOptions} {c₁ c₂ : ScanConfig}
    (hconfig₁ : ScanConfig.forProject ⟨t₁, cwd⟩ layout options = .ok c₁)
    (hconfig₂ : ScanConfig.forProject ⟨t₂, cwd⟩ layout options = .ok c₂)
    {cs₁ cs₂ : List Component}
    (hscan₁ : scanDirs ⟨t₁, cwd⟩ c₁.rootDir c₁.extensions c₁.scanned = .ok cs₁)
    (hscan₂ : scanDirs ⟨t₂, cwd⟩ c₂.rootDir c₂.extensions c₂.scanned = .ok cs₂) : cs₁ = cs₂ := by
  obtain ⟨hroot₁, hext₁, -, hdirs₁⟩ := scanned_of_forProject hconfig₁
  obtain ⟨hroot₂, hext₂, -, hdirs₂⟩ := scanned_of_forProject hconfig₂
  rw [hroot₁, hext₁] at hscan₁
  rw [hroot₂, hext₂] at hscan₂
  have habs : ∀ q : Path, (layout.inputDir.join q).isAbsolute = true := by
    intro q
    rw [Path.isAbsolute_join, hinput, Bool.or_true]
  have hcomponentsDir : layout.inputDir.join layout.componentsDir = layout.componentsDir :=
    Path.join_of_absolute _ (habs _)
  have hinBuiltin : ¬ CanBeComponent ScanConfig.defaultExtensions
      (layout.inputDir.join layout.builtinDir).place place := by
    rintro ⟨name, file, ext, rfl, -, -⟩
    exact hbuiltin (List.prefix_append _ _)
  cases hscans : options.scans with
  | false =>
      rw [hscans, if_neg (by simp)] at hdirs₁ hdirs₂
      rw [hdirs₁] at hscan₁
      rw [hdirs₂] at hscan₂
      obtain ⟨here₁, later₁, hhere₁, hlater₁, rfl⟩ := parts_of_scanDirs hscan₁
      obtain ⟨here₂, later₂, hhere₂, hlater₂, rfl⟩ := parts_of_scanDirs hscan₂
      rw [scanDir_agrees h (habs _) hinBuiltin hhere₁ hhere₂,
        Except.ok.inj (hlater₁.symm.trans hlater₂)]
  | true =>
      rw [hscans, if_pos rfl] at hdirs₁ hdirs₂
      obtain ⟨modules₁, hmodules₁, hdirs₁⟩ := hdirs₁
      obtain ⟨modules₂, hmodules₂, hdirs₂⟩ := hdirs₂
      rw [hdirs₁] at hscan₁
      rw [hdirs₂] at hscan₂
      obtain ⟨here₁, own₁, hhere₁, hown₁, rfl⟩ := parts_of_scanDirs hscan₁
      obtain ⟨here₂, own₂, hhere₂, hown₂, rfl⟩ := parts_of_scanDirs hscan₂
      obtain ⟨components₁, later₁, hcomponents₁, hlater₁, rfl⟩ := parts_of_scanDirs hown₁
      obtain ⟨components₂, later₂, hcomponents₂, hlater₂, rfl⟩ := parts_of_scanDirs hown₂
      rw [scanDir_agrees h (habs _) hinBuiltin hhere₁ hhere₂,
        scanDir_agrees h (habs _) (by rw [hcomponentsDir]; exact hcomponents) hcomponents₁
          hcomponents₂,
        scanDirs_modules_agree h (habs _) hmodules hmodules₁ hmodules₂ hlater₁ hlater₂]

/-! ### What is watched -/

namespace Project

theorem isComponentFile_append {name : List Char} (h : name ≠ []) :
    isComponentFile (name ++ ['.', 'v', 'u', 'e']) = true := by
  have hlength : 0 < name.length := List.length_pos_iff.mpr h
  unfold isComponentFile
  rw [Bool.and_eq_true, List.isSuffixOf_iff_suffix, decide_eq_true_eq, List.length_append]
  refine ⟨List.suffix_append _ _, ?_⟩
  rw [show ['.', 'v', 'u', 'e'].length = 4 from rfl]
  omega

/-- The name of a component file has something before its ending. -/
theorem isComponentFile_iff {name : List Char} :
    isComponentFile name = true ↔ ∃ stem, stem ≠ [] ∧ name = stem ++ ['.', 'v', 'u', 'e'] := by
  constructor
  · intro h
    unfold isComponentFile at h
    rw [Bool.and_eq_true, List.isSuffixOf_iff_suffix, decide_eq_true_eq] at h
    obtain ⟨⟨stem, rfl⟩, hlength⟩ := h
    refine ⟨stem, fun hempty => ?_, rfl⟩
    rw [hempty] at hlength
    exact absurd hlength (by decide)
  · rintro ⟨stem, hne, rfl⟩
    exact isComponentFile_append hne

/-- **Names that lead to where a component can be are of one of two forms.** -/
theorem isComponentPlace_iff {names : List (List Char)} :
    isComponentPlace names = true ↔
      (∃ folder file, folder ≠ [] ∧ isComponentFile file = true ∧
        names = ["components".toList, folder, file]) ∨
      ∃ module_ folder file, module_ ≠ [] ∧ folder ≠ [] ∧ isComponentFile file = true ∧
        names = ["uni_modules".toList, module_, "components".toList, folder, file] := by
  constructor
  · intro h
    unfold isComponentPlace at h
    split at h
    · next top folder file =>
        simp only [Bool.and_eq_true, beq_iff_eq, Bool.not_eq_true', List.isEmpty_eq_false_iff] at h
        obtain ⟨⟨rfl, hfolder⟩, hfile⟩ := h
        exact .inl ⟨folder, file, hfolder, hfile, rfl⟩
    · next top module_ inside folder file =>
        simp only [Bool.and_eq_true, beq_iff_eq, Bool.not_eq_true', List.isEmpty_eq_false_iff] at h
        obtain ⟨⟨⟨⟨rfl, hmodule⟩, rfl⟩, hfolder⟩, hfile⟩ := h
        exact .inr ⟨module_, folder, file, hmodule, hfolder, hfile, rfl⟩
    · exact absurd h (by simp)
  · rintro (⟨folder, file, hfolder, hfile, rfl⟩ |
      ⟨module_, folder, file, hmodule, hfolder, hfile, rfl⟩)
    · simp [isComponentPlace, hfolder, hfile]
    · simp [isComponentPlace, hmodule, hfolder, hfile]

/-- What is watched is decided by the names on the way from the root of the sources. -/
theorem watches_eq (p : Project) (cwd : Option Path) {path : Path}
    (hinput : p.layout.inputDir.isAbsolute = true) {names : List FileName} (hne : names ≠ [])
    (hplace : (p.layout.inputDir.join path).place = p.layout.inputDir.place ++ names) :
    p.watches cwd path =
      isComponentPlace (names.map fun name => (Utf8.decodeLossy name).toList) := by
  have hpath : (p.layout.inputDir.join path).isAbsolute = true := by
    rw [Path.isAbsolute_join, hinput, Bool.or_true]
  have hroot : here.join p.layout.inputDir = p.layout.inputDir := Path.join_of_absolute here hinput
  have hroot' : (here.join p.layout.inputDir).isAbsolute = true := by rw [hroot, hinput]
  have hwithin : (Path.resolve cwd p.layout.inputDir path).isWithin
      (Path.resolve cwd here p.layout.inputDir) = true := by
    rw [Path.isWithin_resolve cwd hpath hroot', hroot, hplace]
    exact List.prefix_append _ _
  have hresolved : (Path.resolve cwd p.layout.inputDir path).place
      = (Path.resolve cwd here p.layout.inputDir).place ++ names := by
    rw [Path.place_resolve cwd hpath, Path.place_resolve cwd hroot', hroot, hplace]
  have hnames : ∀ name ∈ names, Path.slash ∉ name := by
    intro name hname
    have hmem : name ∈ (p.layout.inputDir.join path).place := by rw [hplace]; simp [hname]
    exact (Path.isName_of_mem_place hmem).2.1
  have hrelative := Path.relative_eq cwd (Path.isAbsolute_resolve_of_absolute cwd hroot')
    (Path.isAbsolute_resolve_of_absolute cwd hpath) hresolved
  unfold watches
  simp only [hwithin, Bool.true_and, hrelative]
  rw [splitAll_decodeLossy_joinSlash hne hnames]

/-- **Where a component can be is watched.** -/
theorem watches_of_canBeComponent (p : Project) (cwd : Option Path) {path : Path}
    (hinput : p.layout.inputDir.isAbsolute = true) {above : List FileName}
    (habove : above = [Utf8.encode "components"] ∨ ∃ name,
      above = [Utf8.encode "uni_modules", name, Utf8.encode "components"])
    (hcan : CanBeComponent ScanConfig.defaultExtensions (p.layout.inputDir.place ++ above)
      (p.layout.inputDir.join path).place) : p.watches cwd path = true := by
  obtain ⟨name, file, ext, hplace, hext, htext⟩ := hcan
  rw [List.append_assoc] at hplace
  have hext : ext = ".vue" := List.mem_singleton.mp hext
  have hisName : ∀ n ∈ above ++ [Utf8.encode name, file], IsName n := fun n hn =>
    Path.isName_of_mem_place (by rw [hplace]; exact List.mem_append_right _ hn)
  have hname : name.toList ≠ [] := by
    have hne := Utf8.decodeLossy_ne_nil (hisName (Utf8.encode name) (by simp)).1
    rwa [Utf8.decodeLossy_encode] at hne
  have hfile := isComponentFile_append hname
  rw [watches_eq p cwd hinput (by simp) hplace]
  rcases habove with rfl | ⟨module_, rfl⟩
  · simp [isComponentPlace, Utf8.decodeLossy_encode, htext, hext, hfile, hname]
  · have hmodule := Utf8.decodeLossy_ne_nil (hisName module_ (by simp)).1
    simp [isComponentPlace, Utf8.decodeLossy_encode, htext, hext, hfile, hname, hmodule]

/-! ### What a refresh comes to -/

/-- A refresh that succeeds has built a scan configuration and scanned its directories. -/
theorem parts_of_refresh {p : Project} {d : Disk} {options : ComponentOptions}
    (hok : (p.refresh d options).outcome.isOk = true) :
    ∃ c cs, ScanConfig.forProject d p.layout options = .ok c ∧
      scanDirs d c.rootDir c.extensions c.scanned = .ok cs ∧
      (p.refresh d options).configured = p.registry.invalidate.configure d c := by
  have hok : (p.refresh d options).configured.outcome.isOk = true := hok
  cases hconfig : p.scanConfig d options with
  | error e =>
      rw [configured_refresh, hconfig] at hok
      exact absurd rfl (ne_error_of_isOk hok e)
  | ok c =>
      have hconfigured : (p.refresh d options).configured
          = p.registry.invalidate.configure d c := by
        rw [configured_refresh, hconfig]
      rw [hconfigured] at hok
      obtain ⟨cs, hscan⟩ := Registry.scanned_of_isOk hok
      exact ⟨c, cs, hconfig, hscan, hconfigured⟩

/-- **A file that is not watched, and not built in, is not seen by a refresh.** -/
theorem refresh_agrees (p : Project) (cwd : Option Path) (options : ComponentOptions) {path : Path}
    (hinput : p.layout.inputDir.isAbsolute = true)
    (h : t₁.DifferInFile t₂ (Path.resolve cwd p.layout.inputDir path).place)
    (hbuiltin : (Path.resolve cwd p.layout.inputDir path).isWithin
      (Path.resolve cwd p.layout.inputDir p.layout.builtinDir) = false)
    (hok₁ : (p.refresh ⟨t₁, cwd⟩ options).outcome.isOk = true)
    (hok₂ : (p.refresh ⟨t₂, cwd⟩ options).outcome.isOk = true)
    (hunwatched : p.watches cwd path = false) :
    (p.refresh ⟨t₁, cwd⟩ options).configured = (p.refresh ⟨t₂, cwd⟩ options).configured := by
  obtain ⟨c₁, cs₁, hconfig₁, hscan₁, hrefresh₁⟩ := parts_of_refresh hok₁
  obtain ⟨c₂, cs₂, hconfig₂, hscan₂, hrefresh₂⟩ := parts_of_refresh hok₂
  have habs : ∀ q : Path, (p.layout.inputDir.join q).isAbsolute = true := by
    intro q
    rw [Path.isAbsolute_join, hinput, Bool.or_true]
  rw [Path.place_resolve cwd (habs path)] at h
  rw [← Bool.not_eq_true, Path.isWithin_resolve cwd (habs path) (habs _)] at hbuiltin
  have hcan : ∀ above : List FileName,
      (above = [Utf8.encode "components"] ∨ ∃ name,
        above = [Utf8.encode "uni_modules", name, Utf8.encode "components"]) →
      ¬ CanBeComponent ScanConfig.defaultExtensions (p.layout.inputDir.place ++ above)
        (p.layout.inputDir.join path).place := by
    intro above habove hcan
    rw [watches_of_canBeComponent p cwd hinput habove hcan] at hunwatched
    exact absurd hunwatched (by simp)
  have hcomponents : p.layout.componentsDir.place
      = p.layout.inputDir.place ++ [Utf8.encode "components"] :=
    Path.place_join_name _ (by decide)
  have hmodules : p.layout.modulesDir.place
      = p.layout.inputDir.place ++ [Utf8.encode "uni_modules"] :=
    Path.place_join_name _ (by decide)
  have hscans : cs₁ = cs₂ := by
    refine scans_agree h hinput hbuiltin ?_ (fun name => ?_) hconfig₁ hconfig₂ hscan₁ hscan₂
    · rw [hcomponents]
      exact hcan _ (.inl rfl)
    · rw [hmodules, List.append_assoc]
      exact hcan _ (.inr ⟨name, rfl⟩)
  subst hscans
  obtain ⟨hroot₁, -, hcustom₁, -⟩ := scanned_of_forProject hconfig₁
  obtain ⟨hroot₂, -, hcustom₂, -⟩ := scanned_of_forProject hconfig₂
  have hplan : Registry.plan ⟨t₁, cwd⟩ c₁ = Registry.plan ⟨t₂, cwd⟩ c₂ :=
    Registry.plan_eq_of_scan rfl (hroot₁.trans hroot₂.symm) (hcustom₁.trans hcustom₂.symm) hscan₁
      hscan₂
  rw [hrefresh₁, hrefresh₂]
  unfold Registry.configure
  rw [hplan]

/--
**Watching is complete.**  Take a project at an absolute directory and two trees without
links that differ in one file, which is not among the built-in components.  If a refresh
succeeds in both and comes to another outcome, other patterns or another answer to some
tag, the file is one that is watched.
-/
theorem watches_of_refresh_differs (p : Project) (cwd : Option Path) (options : ComponentOptions)
    {path : Path} (hinput : p.layout.inputDir.isAbsolute = true)
    (h : t₁.DifferInFile t₂ (Path.resolve cwd p.layout.inputDir path).place)
    (hbuiltin : (Path.resolve cwd p.layout.inputDir path).isWithin
      (Path.resolve cwd p.layout.inputDir p.layout.builtinDir) = false)
    (hok₁ : (p.refresh ⟨t₁, cwd⟩ options).outcome.isOk = true)
    (hok₂ : (p.refresh ⟨t₂, cwd⟩ options).outcome.isOk = true)
    (hdiffer : (p.refresh ⟨t₁, cwd⟩ options).outcome ≠ (p.refresh ⟨t₂, cwd⟩ options).outcome ∨
      (p.refresh ⟨t₁, cwd⟩ options).project.registry.patterns
        ≠ (p.refresh ⟨t₂, cwd⟩ options).project.registry.patterns ∨
      ∃ tag, ((p.refresh ⟨t₁, cwd⟩ options).project.resolve tag).1
        ≠ ((p.refresh ⟨t₂, cwd⟩ options).project.resolve tag).1) :
    p.watches cwd path = true := by
  by_contra hnot
  have hunwatched : p.watches cwd path = false := by simpa using hnot
  have hagree := refresh_agrees p cwd options hinput h hbuiltin hok₁ hok₂ hunwatched
  have hregistry : (p.refresh ⟨t₁, cwd⟩ options).project.registry
      = (p.refresh ⟨t₂, cwd⟩ options).project.registry := congrArg Configured.registry hagree
  rcases hdiffer with houtcome | hpatterns | ⟨tag, hanswer⟩
  · exact houtcome (congrArg Configured.outcome hagree)
  · exact hpatterns (by rw [hregistry])
  · refine hanswer ?_
    show ((p.refresh ⟨t₁, cwd⟩ options).project.registry.resolve tag).1
      = ((p.refresh ⟨t₂, cwd⟩ options).project.registry.resolve tag).1
    rw [hregistry]

/-! ### A component that comes -/

/-- Sources at `/p` with a folder for a component. -/
def bareTree : Tree :=
  ⟨[([Utf8.encode "p"], .directory),
    ([Utf8.encode "p", Utf8.encode "components"], .directory),
    ([Utf8.encode "p", Utf8.encode "components", Utf8.encode "Foo"], .directory)], by decide⟩

/-- The sources with the component. -/
def filledTree : Tree :=
  bareTree.insert
    [Utf8.encode "p", Utf8.encode "components", Utf8.encode "Foo", Utf8.encode "Foo.vue"]
    (.file [])

/-- The project of these sources. -/
def watching : Project := .new ⟨.ofText "/p", .ofText "/lib"⟩

/-- What is scanned for it. -/
def watchedConfig : ScanConfig where
  dirs := [.ofText "/lib", .ofText "/p/components"]
  rootDir := .ofText "/p"
  extensions := [".vue"]
  autoscan := true
  custom := .empty

/-- The component that comes. -/
def arrived : List Component := [("Foo", "/p/components/Foo/Foo.vue")]

theorem refresh_watching (t : Tree) (cs : List Component)
    (hconfig : watching.scanConfig ⟨t, none⟩ default = .ok watchedConfig)
    (hscan : scanDirs ⟨t, none⟩ (.ofText "/p") [".vue"] watchedConfig.scanned = .ok cs)
    (hsize : ∀ entry ∈ (withCustom (Scan.ofComponents none (.ofText "/p") cs).kept []).entries,
      (Pattern.anchored entry.1.toList).bytes ≤ Pattern.sizeLimit) :
    (watching.refresh ⟨t, none⟩ default).outcome.isOk = true ∧
      ((watching.refresh ⟨t, none⟩ default).project.resolve "Foo").1 = cs.lookup "Foo" := by
  have hplain : ∀ entry ∈ watchedConfig.custom.entries, PlainEntry entry :=
    fun entry hentry => by cases hentry
  have hok : (Registry.new.invalidate.configure ⟨t, none⟩ watchedConfig).outcome.isOk = true :=
    Registry.configure_isOk _ hplain hscan hsize
  have hconfigured : (watching.refresh ⟨t, none⟩ default).configured
      = Registry.new.invalidate.configure ⟨t, none⟩ watchedConfig := by
    rw [configured_refresh, hconfig]
    rfl
  constructor
  · show (watching.refresh ⟨t, none⟩ default).configured.outcome.isOk = true
    rw [hconfigured]
    exact hok
  · show ((watching.refresh ⟨t, none⟩ default).configured.registry.resolve "Foo").1 = _
    rw [hconfigured, Registry.resolve_configure hplain hok hscan]
    rfl

/-- The component is told from the path of its file, relative to the sources. -/
theorem arrival_watched :
    ((watching.refresh ⟨bareTree, none⟩ default).project.resolve "Foo").1 = none ∧
    ((watching.refresh ⟨filledTree, none⟩ default).project.resolve "Foo").1
      = some "/p/components/Foo/Foo.vue" ∧
    watching.watches none (.ofText "components/Foo/Foo.vue") = true := by
  obtain ⟨hok₁, hanswer₁⟩ := refresh_watching bareTree [] (by cbv) (by cbv) (by decide)
  obtain ⟨hok₂, hanswer₂⟩ := refresh_watching filledTree arrived (by cbv) (by cbv) (by decide)
  have hfree : bareTree.LinkFree := Tree.linkFree_of_entries fun e he target hlink => by
    have hdirectories : ∀ e ∈ bareTree.entries, e.2 = .directory := by decide
    rw [hdirectories e he] at hlink
    exact absurd hlink (by simp)
  refine ⟨hanswer₁, hanswer₂, ?_⟩
  have hdiffer : bareTree.DifferInFile filledTree
      (Path.resolve none (.ofText "/p") (.ofText "components/Foo/Foo.vue")).place :=
    Tree.differInFile_insert hfree (.inl (by decide)) []
  refine watches_of_refresh_differs watching none default (by decide) hdiffer (by decide) hok₁ hok₂
    (.inr (.inr ⟨"Foo", ?_⟩))
  rw [hanswer₁, hanswer₂]
  decide

end Project
end AppBuild
