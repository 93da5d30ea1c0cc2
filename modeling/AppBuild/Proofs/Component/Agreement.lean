/-
What of a tree a scan depends on.

A scan looks at which directories there are, and at the names in the folders of the
directories that it scans.  So a file that comes, goes or changes is seen by a scan of a
directory only where it can be the component of one of the folders: where it stands in
the folder and its name is that of the folder with an extension (`CanBeComponent`).  A
file anywhere else leaves what the directory provides as it was (`scanDir_agrees`), and
also what the modules of a project provide (`scanDirs_modules_agree`): a file in the
place of a module makes the scan fail, and one in the place of its components provides
nothing.

All of this is said of scans that succeed.  There a file can only come between by its
name, while a failure could be due to it in many ways.
-/
import AppBuild.Proofs.Component.Provides
import AppBuild.Proofs.Tree.Agreement

namespace AppBuild

open AppBuild.Path (resolve)

/-- At the place stands what can be the component of a folder of a directory. -/
def CanBeComponent (extensions : List String) (at_ place : Location) : Prop :=
  ∃ name file ext, place = at_ ++ [Utf8.encode name, file] ∧ ext ∈ extensions ∧
    Utf8.decodeLossy file = name ++ ext

variable {t₁ t₂ : Tree} {cwd : Option Path} {place at_ : Location} {rootDir dir : Path}
  {extensions : List String}

/-! ### One folder -/

/-- The file is not seen by who looks for another name, or in another folder. -/
theorem Tree.DifferInFile.holds_iff (h : t₁.DifferInFile t₂ place) {text : String}
    (hno : ∀ file, place = at_ ++ [file] → Utf8.decodeLossy file ≠ text) :
    t₁.Holds at_ text ↔ t₂.Holds at_ text := by
  unfold Tree.Holds
  refine exists_congr fun file => exists_congr fun e => and_congr_left fun htext => ?_
  rw [h.elsewhere _ fun hplace => hno file hplace.symm htext]

theorem Tree.DifferInFile.firstHeld_iff (h : t₁.DifferInFile t₂ place)
    (hno : ¬ CanBeComponent extensions at_ place) {name ext : String} :
    FirstHeld t₁ (at_ ++ [Utf8.encode name]) name extensions ext ↔
      FirstHeld t₂ (at_ ++ [Utf8.encode name]) name extensions ext := by
  have hholds : ∀ ext ∈ extensions, (t₁.Holds (at_ ++ [Utf8.encode name]) (name ++ ext) ↔
      t₂.Holds (at_ ++ [Utf8.encode name]) (name ++ ext)) := by
    intro ext hext
    refine h.holds_iff fun file hplace htext => hno ⟨name, file, ext, ?_, hext, htext⟩
    rw [hplace, List.append_assoc]
    rfl
  constructor
  · rintro ⟨hheld, before, after, rfl, hbefore⟩
    refine ⟨(hholds ext (by simp)).mp hheld, before, after, rfl, fun other hother hheld => ?_⟩
    exact hbefore other hother ((hholds other (by simp [hother])).mpr hheld)
  · rintro ⟨hheld, before, after, rfl, hbefore⟩
    refine ⟨(hholds ext (by simp)).mpr hheld, before, after, rfl, fun other hother hheld => ?_⟩
    exact hbefore other hother ((hholds other (by simp [hother])).mp hheld)

/-- A folder of both trees is the same component in both. -/
theorem folderComponent?_agrees (h : t₁.DifferInFile t₂ place)
    (hno : ¬ CanBeComponent extensions at_ place)
    (hlocate₁ : (⟨t₁, cwd⟩ : Disk).locate dir = .ok (some (at_, .directory)))
    (hlocate₂ : (⟨t₂, cwd⟩ : Disk).locate dir = .ok (some (at_, .directory))) {file : FileName}
    (hget₁ : t₁.get? (at_ ++ [file]) = some .directory)
    (hget₂ : t₂.get? (at_ ++ [file]) = some .directory) {found₁ found₂ : Option Component}
    (hfound₁ : folderComponent? ⟨t₁, cwd⟩ dir extensions file .directory = .ok found₁)
    (hfound₂ : folderComponent? ⟨t₂, cwd⟩ dir extensions file .directory = .ok found₂) :
    found₁ = found₂ := by
  refine Option.ext fun c => ?_
  obtain ⟨name, path⟩ := c
  rw [folderComponent?_eq_some_iff hlocate₁ hget₁ hfound₁,
    folderComponent?_eq_some_iff hlocate₂ hget₂ hfound₂]
  refine and_congr_right fun hfile => and_congr_right fun _ => exists_congr fun ext =>
    and_congr_left fun _ => ?_
  subst hfile
  exact h.firstHeld_iff hno

/-! ### One directory -/

/-- What is no folder is no component. -/
theorem componentsAmong_filter_directories (d : Disk) (dir : Path) (extensions : List String)
    (entries : List (FileName × Entry)) :
    componentsAmong d dir extensions (entries.filter fun e => e.2 = .directory) =
      componentsAmong d dir extensions entries := by
  induction entries with
  | nil => rfl
  | cons e entries ih =>
      obtain ⟨name, entry⟩ := e
      by_cases hdir : entry = .directory
      · rw [List.filter_cons_of_pos (by simpa using hdir), componentsAmong, componentsAmong, ih]
      · have hnone : folderComponent? d dir extensions name entry = .ok none := by
          cases entry with
          | directory => exact absurd rfl hdir
          | file content => rfl
          | link target => rfl
        rw [List.filter_cons_of_neg (by simpa using hdir), ih, componentsAmong, hnone]
        cases componentsAmong d dir extensions entries <;> rfl

theorem componentsAmong_agrees {d₁ d₂ : Disk} {entries : List (FileName × Entry)}
    (hagree : ∀ e ∈ entries, ∀ found₁ found₂,
      folderComponent? d₁ dir extensions e.1 e.2 = .ok found₁ →
      folderComponent? d₂ dir extensions e.1 e.2 = .ok found₂ → found₁ = found₂)
    {cs₁ cs₂ : List Component} (h₁ : componentsAmong d₁ dir extensions entries = .ok cs₁)
    (h₂ : componentsAmong d₂ dir extensions entries = .ok cs₂) : cs₁ = cs₂ := by
  induction entries generalizing cs₁ cs₂ with
  | nil => exact (Except.ok.inj h₁).symm.trans (Except.ok.inj h₂)
  | cons e entries ih =>
      obtain ⟨here₁, later₁, hhere₁, hlater₁, rfl⟩ := parts_of_componentsAmong h₁
      obtain ⟨here₂, later₂, hhere₂, hlater₂, rfl⟩ := parts_of_componentsAmong h₂
      rw [hagree e (by simp) here₁ here₂ hhere₁ hhere₂,
        ih (fun e he => hagree e (by simp [he])) hlater₁ hlater₂]

/-- What is asked whether it is there is looked for without a fault. -/
theorem located_of_check {d : Disk} {p : Path} {there : Bool} (h : d.check p = .ok there) :
    ∃ found, d.locate p = .ok found ∧ found.isSome = there := by
  rw [check_eq] at h
  split at h
  · next found hlocate => exact ⟨found, hlocate, Except.ok.inj h⟩
  · exact absurd h (by simp)

theorem located_of_scanDir {d : Disk} {cs : List Component}
    (h : scanDir d rootDir extensions dir = .ok cs) :
    ∃ found, d.locate (resolve d.cwd rootDir dir) = .ok found := by
  obtain ⟨there, hthere, -⟩ := parts_of_bind h
  obtain ⟨found, hlocate, -⟩ := located_of_check hthere
  exact ⟨found, hlocate⟩

/-- **A file that can be no component of a directory leaves what the directory provides.** -/
theorem scanDir_agrees (h : t₁.DifferInFile t₂ place)
    (habs : (rootDir.join dir).isAbsolute = true)
    (hno : ¬ CanBeComponent extensions (rootDir.join dir).place place)
    {cs₁ cs₂ : List Component}
    (hscan₁ : scanDir ⟨t₁, cwd⟩ rootDir extensions dir = .ok cs₁)
    (hscan₂ : scanDir ⟨t₂, cwd⟩ rootDir extensions dir = .ok cs₂) : cs₁ = cs₂ := by
  obtain ⟨found₁, hlocate₁⟩ := located_of_scanDir hscan₁
  obtain ⟨found₂, hlocate₂⟩ := located_of_scanDir hscan₂
  have habs' := Path.isAbsolute_resolve_of_absolute cwd habs
  have halike := Disk.locate_agrees h habs' hlocate₁ hlocate₂
  -- Either both trees have a directory there, with the same folders in it, or neither has.
  by_cases hdir : ∃ at_, found₁ = some (at_, .directory)
  · obtain ⟨at_, hfound₁⟩ := hdir
    rw [hfound₁] at hlocate₁
    rw [(halike.directory_iff at_).mp hfound₁] at hlocate₂
    have hplace : at_ = (rootDir.join dir).place := by
      rw [(Disk.place_of_locate h.linkFree₁ habs' hlocate₁).1, Path.place_resolve cwd habs]
    rw [← hplace] at hno
    have hamong₁ := componentsAmong_of_scanDir hscan₁ hlocate₁
    have hamong₂ := componentsAmong_of_scanDir hscan₂ hlocate₂
    rw [← componentsAmong_filter_directories] at hamong₁ hamong₂
    rw [← h.directories_eq at_] at hamong₂
    refine componentsAmong_agrees (fun e he found₁ found₂ => ?_) hamong₁ hamong₂
    obtain ⟨file, e⟩ := e
    have hboth := he
    rw [h.directories_eq at_, List.mem_filter, Tree.mem_listing] at hboth
    rw [List.mem_filter, Tree.mem_listing] at he
    obtain rfl : e = .directory := by simpa using he.2
    exact folderComponent?_agrees h hno hlocate₁ hlocate₂ he.1 hboth.1
  · have hno₁ : ∀ at_, found₁ ≠ some (at_, .directory) := fun at_ hat => hdir ⟨at_, hat⟩
    rw [eq_nil_of_scanDir hscan₁ fun at_ hat =>
        hno₁ at_ (Except.ok.inj (hlocate₁.symm.trans hat)),
      eq_nil_of_scanDir hscan₂ fun at_ hat =>
        hno₁ at_ ((halike.directory_iff at_).mpr (Except.ok.inj (hlocate₂.symm.trans hat)))]

/-- A file in the place of a directory provides nothing. -/
theorem scanDir_eq_nil_of_file {t : Tree} (ht : t.LinkFree) (habs : dir.isAbsolute = true)
    {content : List UInt8}
    (hfile : (⟨t, cwd⟩ : Disk).locate dir = .ok (some (at_, .file content)))
    {cs : List Component} (hscan : scanDir ⟨t, cwd⟩ rootDir extensions dir = .ok cs) : cs = [] := by
  have hjoin : rootDir.join dir = dir := Path.join_of_absolute rootDir habs
  have habs' : (rootDir.join dir).isAbsolute = true := by rw [hjoin, habs]
  refine eq_nil_of_scanDir hscan fun at' hdirectory => ?_
  have hat := Disk.place_of_locate ht habs hfile
  have hat' := Disk.place_of_locate ht (Path.isAbsolute_resolve_of_absolute cwd habs') hdirectory
  rw [Path.place_resolve cwd habs', hjoin, ← hat.1] at hat'
  rw [hat'.1, hat.2] at hat'
  exact absurd hat'.2 (by simp)

/-! ### The modules of a project -/

/-- What a directory provides that is scanned only if it is there. -/
def ScannedIf (d : Disk) (rootDir : Path) (extensions : List String) (dir : Path) (there : Bool)
    (cs : List Component) : Prop :=
  if there then scanDir d rootDir extensions dir = .ok cs else cs = []

theorem parts_of_scanDirs_ite {d : Disk} {there : Bool} {dirs : List Path} {cs : List Component}
    (h : scanDirs d rootDir extensions (if there then dir :: dirs else dirs) = .ok cs) :
    ∃ here later, ScannedIf d rootDir extensions dir there here ∧
      scanDirs d rootDir extensions dirs = .ok later ∧ cs = here ++ later := by
  cases there with
  | false => exact ⟨[], cs, rfl, h, rfl⟩
  | true =>
      obtain ⟨here, later, hhere, hlater, hcs⟩ := parts_of_scanDirs h
      exact ⟨here, later, hhere, hlater, hcs⟩

/-- A directory that is there in one tree only is the file. -/
theorem scannedIf_agrees (h : t₁.DifferInFile t₂ place) (habs : dir.isAbsolute = true)
    (hno : ¬ CanBeComponent extensions dir.place place) {there₁ there₂ : Bool}
    (hthere₁ : (⟨t₁, cwd⟩ : Disk).check dir = .ok there₁)
    (hthere₂ : (⟨t₂, cwd⟩ : Disk).check dir = .ok there₂) {cs₁ cs₂ : List Component}
    (hscan₁ : ScannedIf ⟨t₁, cwd⟩ rootDir extensions dir there₁ cs₁)
    (hscan₂ : ScannedIf ⟨t₂, cwd⟩ rootDir extensions dir there₂ cs₂) : cs₁ = cs₂ := by
  obtain ⟨found₁, hlocate₁, rfl⟩ := located_of_check hthere₁
  obtain ⟨found₂, hlocate₂, rfl⟩ := located_of_check hthere₂
  have halike := Disk.locate_agrees h habs hlocate₁ hlocate₂
  have hnil : ∀ {t : Tree} {found : Option (Location × Entry)} {cs : List Component},
      t.LinkFree → (⟨t, cwd⟩ : Disk).locate dir = .ok found → Tree.AtMostFile place found →
      ScannedIf ⟨t, cwd⟩ rootDir extensions dir found.isSome cs → cs = [] := by
    intro t found cs ht hlocate hfile hscan
    rcases hfile with rfl | ⟨content, rfl⟩
    · exact hscan
    · exact scanDir_eq_nil_of_file ht habs hlocate hscan
  rcases halike with rfl | ⟨hfile₁, hfile₂⟩
  · cases hthere : found₁.isSome with
    | false =>
        rw [hthere] at hscan₁ hscan₂
        exact hscan₁.trans hscan₂.symm
    | true =>
        rw [hthere] at hscan₁ hscan₂
        have hjoin : rootDir.join dir = dir := Path.join_of_absolute rootDir habs
        rw [← hjoin] at habs hno
        exact scanDir_agrees h habs hno hscan₁ hscan₂
  · rw [hnil h.linkFree₁ hlocate₁ hfile₁ hscan₁, hnil h.linkFree₂ hlocate₂ hfile₂ hscan₂]

/-- The components of a module stand in a directory of the module. -/
theorem place_moduleDir (modules : Path) {name : FileName} (h : IsName name) :
    ((modules.join ⟨name⟩).child "components").place =
      modules.place ++ [name, Utf8.encode "components"] := by
  have hcomponents : IsName (Utf8.encode "components") := by decide
  show ((modules.join ⟨name⟩).join ⟨Utf8.encode "components"⟩).place = _
  rw [Path.place_join_name _ hcomponents, Path.place_join_name _ h, List.append_assoc]
  rfl

section

variable {modules : Path} {entries : List (FileName × Entry)}

theorem parts_of_moduleDirs {d : Disk} {e : FileName × Entry} {dirs : List Path}
    (h : ScanConfig.moduleDirs d modules (e :: entries) = .ok dirs) :
    ∃ there rest, d.check ((modules.join ⟨e.1⟩).child "components") = .ok there ∧
      ScanConfig.moduleDirs d modules entries = .ok rest ∧
      dirs = if there then (modules.join ⟨e.1⟩).child "components" :: rest else rest := by
  obtain ⟨there, hthere, h⟩ := parts_of_bind h
  obtain ⟨rest, hrest, h⟩ := parts_of_bind h
  exact ⟨there, rest, hthere, hrest, (Except.ok.inj h).symm⟩

theorem scanDirs_moduleDirs_agree (h : t₁.DifferInFile t₂ place) (habs : modules.isAbsolute = true)
    (hnames : ∀ e ∈ entries, IsName e.1)
    (hno : ∀ name, ¬ CanBeComponent extensions
      (modules.place ++ [name, Utf8.encode "components"]) place) {dirs₁ dirs₂ : List Path}
    (hdirs₁ : ScanConfig.moduleDirs ⟨t₁, cwd⟩ modules entries = .ok dirs₁)
    (hdirs₂ : ScanConfig.moduleDirs ⟨t₂, cwd⟩ modules entries = .ok dirs₂)
    {cs₁ cs₂ : List Component}
    (hscan₁ : scanDirs ⟨t₁, cwd⟩ rootDir extensions dirs₁ = .ok cs₁)
    (hscan₂ : scanDirs ⟨t₂, cwd⟩ rootDir extensions dirs₂ = .ok cs₂) : cs₁ = cs₂ := by
  induction entries generalizing dirs₁ dirs₂ cs₁ cs₂ with
  | nil =>
      rw [← Except.ok.inj hdirs₁] at hscan₁
      rw [← Except.ok.inj hdirs₂] at hscan₂
      exact (Except.ok.inj hscan₁).symm.trans (Except.ok.inj hscan₂)
  | cons e entries ih =>
      obtain ⟨name, entry⟩ := e
      have hname : IsName name := hnames (name, entry) (by simp)
      have hdir : ((modules.join ⟨name⟩).child "components").isAbsolute = true := by
        unfold Path.child
        rw [Path.isAbsolute_join, Path.isAbsolute_join, habs]
        simp
      obtain ⟨there₁, rest₁, hthere₁, hrest₁, rfl⟩ := parts_of_moduleDirs hdirs₁
      obtain ⟨there₂, rest₂, hthere₂, hrest₂, rfl⟩ := parts_of_moduleDirs hdirs₂
      obtain ⟨here₁, later₁, hhere₁, hlater₁, rfl⟩ := parts_of_scanDirs_ite hscan₁
      obtain ⟨here₂, later₂, hhere₂, hlater₂, rfl⟩ := parts_of_scanDirs_ite hscan₂
      have hhere : here₁ = here₂ := by
        refine scannedIf_agrees h hdir ?_ hthere₁ hthere₂ hhere₁ hhere₂
        rw [place_moduleDir modules hname]
        exact hno name
      rw [hhere, ih (fun e he => hnames e (by simp [he])) hrest₁ hrest₂ hlater₁ hlater₂]

theorem check_of_moduleDirs {d : Disk} {dirs : List Path}
    (h : ScanConfig.moduleDirs d modules entries = .ok dirs) {e : FileName × Entry}
    (he : e ∈ entries) :
    ∃ there, d.check ((modules.join ⟨e.1⟩).child "components") = .ok there := by
  induction entries generalizing dirs with
  | nil => exact absurd he (by simp)
  | cons first entries ih =>
      obtain ⟨there, rest, hthere, hrest, -⟩ := parts_of_moduleDirs h
      rcases List.mem_cons.mp he with rfl | he
      · exact ⟨there, hthere⟩
      · exact ih hrest he

/-- The components of a file among the modules are not missing: they cannot be looked for. -/
theorem locate_components_of_file {d : Disk}
    (hlocate : d.locate modules = .ok (some (at_, .directory))) {name : FileName}
    {content : List UInt8} (hfile : d.tree.get? (at_ ++ [name]) = some (.file content)) :
    let path := (modules.join ⟨name⟩).child "components"
    d.locate path =
      if pathLimit < path.bytes.length ∨ nameLimit < name.length then .error .nameTooLong
      else .error .notADirectory := by
  have hname := Tree.isName_of_get? hfile
  have hcomponents : IsName (Utf8.encode "components") := by decide
  have hbelow : Path.IsBelow ⟨name⟩ := Path.isBelow_name hname
  have hin : Path.IsBelow (.ofText "components") := Path.isBelow_name hcomponents
  obtain ⟨hdir, links, -, hjoin⟩ := Disk.locate_join hlocate
  have hparts : (Path.join ⟨name⟩ (.ofText "components")).parts
      = [name, Utf8.encode "components"] := by
    rw [Path.parts_join _ hin.relative, Path.parts_name hname]
    exact congrArg _ (Path.parts_name hcomponents)
  intro path
  have hpath : path = modules.join (Path.join ⟨name⟩ (.ofText "components")) :=
    Path.join_assoc _ hbelow hin.relative
  rw [hpath, hjoin _ (hbelow.join hin), hparts,
    Tree.walk_past_file hdir hfile]
  by_cases hlong : pathLimit < (modules.join (Path.join ⟨name⟩ (.ofText "components"))).bytes.length
  · simp [hlong]
  · simp [hlong]

/-- Where the modules can be looked at, none of them is a file. -/
theorem get?_module_ne_file {d : Disk} (hlocate : d.locate modules = .ok (some (at_, .directory)))
    {dirs : List Path}
    (hdirs : ScanConfig.moduleDirs d modules (d.tree.listing at_) = .ok dirs) (name : FileName)
    (content : List UInt8) : d.tree.get? (at_ ++ [name]) ≠ some (.file content) := by
  intro hfile
  obtain ⟨there, hthere⟩ := check_of_moduleDirs hdirs (Tree.mem_listing.mpr hfile)
  obtain ⟨found, hfound, -⟩ := located_of_check hthere
  rw [locate_components_of_file hlocate hfile] at hfound
  split at hfound <;> exact absurd hfound (by simp)

/-- A directory of modules is looked through entry by entry. -/
theorem allModuleDirs_of_directory {d : Disk}
    (h : d.locate modules = .ok (some (at_, .directory))) :
    ScanConfig.allModuleDirs d modules = ScanConfig.moduleDirs d modules (d.tree.listing at_) := by
  have hcheck : d.check modules = .ok true := by
    rw [check_eq, h]
    rfl
  unfold ScanConfig.allModuleDirs
  rw [hcheck, Disk.entries_of_list (Disk.list_eq_listing h)]
  rfl

theorem parts_of_allModuleDirs {d : Disk} {dirs : List Path}
    (h : ScanConfig.allModuleDirs d modules = .ok dirs) :
    ∃ found, d.locate modules = .ok found ∧
      ((∃ at_, found = some (at_, .directory) ∧
          ScanConfig.moduleDirs d modules (d.tree.listing at_) = .ok dirs) ∨
        (∀ at_, found ≠ some (at_, .directory)) ∧ dirs = []) := by
  obtain ⟨there, hthere, hmodules⟩ := parts_of_bind h
  obtain ⟨found, hlocate, rfl⟩ := located_of_check hthere
  refine ⟨found, hlocate, ?_⟩
  by_cases hdir : ∃ at_, found = some (at_, .directory)
  · obtain ⟨at_, rfl⟩ := hdir
    rw [allModuleDirs_of_directory hlocate] at h
    exact .inl ⟨at_, rfl, h⟩
  · have hno : ∀ at_, found ≠ some (at_, .directory) := fun at_ hat => hdir ⟨at_, hat⟩
    rw [Disk.entries_of_list (Disk.list_eq_nil hlocate hno)] at hmodules
    refine .inr ⟨hno, ?_⟩
    split at hmodules <;> exact (Except.ok.inj hmodules).symm

/-- **A file that can be no component of a module leaves what the modules provide.** -/
theorem scanDirs_modules_agree (h : t₁.DifferInFile t₂ place) (habs : modules.isAbsolute = true)
    (hno : ∀ name, ¬ CanBeComponent extensions
      (modules.place ++ [name, Utf8.encode "components"]) place) {dirs₁ dirs₂ : List Path}
    (hdirs₁ : ScanConfig.allModuleDirs ⟨t₁, cwd⟩ modules = .ok dirs₁)
    (hdirs₂ : ScanConfig.allModuleDirs ⟨t₂, cwd⟩ modules = .ok dirs₂)
    {cs₁ cs₂ : List Component}
    (hscan₁ : scanDirs ⟨t₁, cwd⟩ rootDir extensions dirs₁ = .ok cs₁)
    (hscan₂ : scanDirs ⟨t₂, cwd⟩ rootDir extensions dirs₂ = .ok cs₂) : cs₁ = cs₂ := by
  obtain ⟨found₁, hlocate₁, hcase₁⟩ := parts_of_allModuleDirs hdirs₁
  obtain ⟨found₂, hlocate₂, hcase₂⟩ := parts_of_allModuleDirs hdirs₂
  have halike := Disk.locate_agrees h habs hlocate₁ hlocate₂
  rcases hcase₁ with ⟨at_, hfound₁, hmodules₁⟩ | ⟨hno₁, rfl⟩
  · have hfound₂ := (halike.directory_iff at_).mp hfound₁
    rcases hcase₂ with ⟨at', hat', hmodules₂⟩ | ⟨hno₂, -⟩
    · rw [hfound₂] at hat'
      obtain ⟨rfl, -⟩ := Prod.mk.inj (Option.some.inj hat')
      rw [hfound₁] at hlocate₁
      rw [hfound₂] at hlocate₂
      -- The file itself is no module, so the modules are the same.
      have hlisting : t₁.listing at_ = t₂.listing at_ :=
        h.listing_eq (get?_module_ne_file hlocate₁ hmodules₁)
          (get?_module_ne_file hlocate₂ hmodules₂)
      have hnames : ∀ e ∈ t₁.listing at_, IsName e.1 := fun e he =>
        Tree.isName_of_get? (Tree.mem_listing.mp he)
      have hmodules₂ : ScanConfig.moduleDirs ⟨t₂, cwd⟩ modules (t₁.listing at_) = .ok dirs₂ := by
        rw [hlisting]
        exact hmodules₂
      exact scanDirs_moduleDirs_agree h habs hnames hno hmodules₁ hmodules₂ hscan₁ hscan₂
    · exact absurd hfound₂ (hno₂ at_)
  · rcases hcase₂ with ⟨at_, hfound₂, -⟩ | ⟨-, rfl⟩
    · exact absurd ((halike.directory_iff at_).mpr hfound₂) (hno₁ at_)
    · exact (Except.ok.inj hscan₁).symm.trans (Except.ok.inj hscan₂)

end

end AppBuild
