/-
What a stray file among the modules does.

For each entry of the modules directory it is looked whether there are components in it,
and only a path that leads to nothing counts as none.  A path through a file does not
lead to nothing: it cannot be followed.  So a file in the place of a module, which has
no components, is no module without any, and nothing can be scanned at all
(`stray_file_fails`).  Folders of components are filtered by their kind before anything
is looked up in them, and there a stray file is passed over
(`componentsAmong_filter_directories`).

To see that it is the file alone which is to blame, the two trees are compared walk by
walk.  A walk sees of the new file only that something is where nothing was.  What was
found is still found, and a path that led to nothing leads to the file now or breaks off
at it (`locate_gains`).
-/
import Mathlib
import AppBuild.Component.Project
import AppBuild.Proofs.Component.Agreement
import AppBuild.Proofs.Registry.Plan

namespace AppBuild

/-! ### A tree with a file more -/

namespace Tree

variable {t t' : Tree} {place at_ : Location} {content : List UInt8}

/-- The second tree has a file where the first has nothing, and is the same elsewhere. -/
structure GainsFile (t t' : Tree) (place : Location) (content : List UInt8) : Prop where
  fresh : t.get? place = none
  file : t'.get? place = some (.file content)
  elsewhere : ∀ at_, at_ ≠ place → t'.get? at_ = t.get? at_

theorem gainsFile_insert (hfresh : t.get? place = none) (hnames : ∀ name ∈ place, IsName name)
    (content : List UInt8) : t.GainsFile (t.insert place (.file content)) place content where
  fresh := hfresh
  file := by
    refine get?_insert_self t _ ?_ hnames
    rintro rfl
    exact absurd hfresh (by simp [get?])
  elsewhere at_ hne := get?_insert_of_ne t _ hne

/-- What is found is the same; or nothing was found, and now the file is, or the way ends at it. -/
def Gains (place : Location) (content : List UInt8)
    (found found' : Except Fault (Option (Location × Entry))) : Prop :=
  found' = found ∨
    found = .ok none ∧ (found' = .ok (some (place, .file content)) ∨ found' = .error .notADirectory)

theorem walk_of_file (h : t.get? place = some (.file content)) (links : Nat)
    (parts : List FileName) :
    t.walk true links place parts = .ok (some (place, .file content)) ∨
      t.walk true links place parts = .error .notADirectory := by
  cases parts with
  | nil =>
      left
      rw [walk_nil, h]
      rfl
  | cons part rest =>
      right
      rw [walk_cons, turn, h]

/-- A turn is the same; or it ended at nothing, and now it ends at the file or goes on to it. -/
theorem GainsFile.turn (h : t.GainsFile t' place content) (links : Nat) (at_ : Location)
    (part : FileName) :
    t'.turn links at_ part = t.turn links at_ part ∨
      t.turn links at_ part = .ends (.ok none) ∧
        (t'.turn links at_ part = .ends (.error .notADirectory) ∨
          t'.turn links at_ part = .goesOn links place []) := by
  by_cases hat : at_ = place
  · subst hat
    refine .inr ⟨?_, .inl ?_⟩
    · rw [Tree.turn, h.fresh]
    · rw [Tree.turn, h.file]
  unfold Tree.turn
  rw [h.elsewhere at_ hat]
  by_cases hnext : at_ ++ [part] = place
  · rw [hnext, h.fresh, h.file]
    dsimp only
    repeat' split
    all_goals simp
  · rw [h.elsewhere _ hnext]
    exact .inl rfl

/-- **A walk loses nothing to a new file, and gains nothing but the file.** -/
theorem GainsFile.walk (h : t.GainsFile t' place content) (links : Nat) (at_ : Location)
    (parts : List FileName) :
    Gains place content (t.walk true links at_ parts) (t'.walk true links at_ parts) := by
  cases parts with
  | nil =>
      rw [walk_nil, walk_nil]
      by_cases hat : at_ = place
      · rw [hat, h.fresh, h.file]
        exact .inr ⟨rfl, .inl rfl⟩
      · rw [h.elsewhere at_ hat]
        exact .inl rfl
  | cons part rest =>
      rw [walk_cons, walk_cons]
      rcases h.turn links at_ part with hsame | ⟨hnothing, hends | hgoes⟩
      · rw [hsame]
        cases hturn : t.turn links at_ part with
        | ends result => exact .inl rfl
        | goesOn links' at' first =>
            have hmeasure := turn_goesOn hturn
            exact h.walk links' at' (first ++ rest)
      · rw [hnothing, hends]
        exact .inr ⟨rfl, .inr rfl⟩
      · rw [hnothing, hgoes]
        exact .inr ⟨rfl, walk_of_file h.file links rest⟩
  termination_by (links, parts.length)
  decreasing_by
    rcases hmeasure with hlt | ⟨rfl, rfl⟩
    · exact Prod.Lex.left _ _ hlt
    · exact Prod.Lex.right _ (by simp)

end Tree

/-- So it is with the paths on disks. -/
theorem Disk.locate_gains {t t' : Tree} {place : Location} {content : List UInt8}
    (h : t.GainsFile t' place content) (cwd : Option Path) (p : Path) :
    Tree.Gains place content ((⟨t, cwd⟩ : Disk).locate p) ((⟨t', cwd⟩ : Disk).locate p) := by
  have horigin : (⟨t', cwd⟩ : Disk).origin? p = (⟨t, cwd⟩ : Disk).origin? p := rfl
  unfold Disk.locate
  split
  · exact .inl rfl
  split
  · exact .inl rfl
  rw [horigin]
  cases (⟨t, cwd⟩ : Disk).origin? p with
  | none => exact .inl rfl
  | some start => exact h.walk linkLimit start p.segments

/-! ### Looking for the components of modules -/

variable {d : Disk} {modules : Path} {entries : List (FileName × Entry)}

/-- What makes it fail to look through the modules is that one of them cannot be looked at. -/
theorem check_of_moduleDirs_error {e : BuildError}
    (h : ScanConfig.moduleDirs d modules entries = .error e) :
    ∃ entry ∈ entries, d.check ((modules.join ⟨entry.1⟩).child "components") = .error e := by
  induction entries with
  | nil => exact absurd h (by simp [ScanConfig.moduleDirs])
  | cons first entries ih =>
      cases hcheck : d.check ((modules.join ⟨first.1⟩).child "components") with
      | error e' =>
          simp only [ScanConfig.moduleDirs, hcheck, bind, Except.bind, Except.error.injEq] at h
          exact ⟨first, by simp, by rw [hcheck, h]⟩
      | ok there =>
          cases hrest : ScanConfig.moduleDirs d modules entries with
          | ok dirs => simp [ScanConfig.moduleDirs, hcheck, hrest, bind, Except.bind] at h
          | error e' =>
              simp only [ScanConfig.moduleDirs, hcheck, hrest, bind, Except.bind,
                Except.error.injEq] at h
              obtain ⟨entry, hentry, herror⟩ := ih (hrest.trans (congrArg _ h))
              exact ⟨entry, by simp [hentry], herror⟩

/-- What could be looked at before cannot be now only where the way to it ends at the file. -/
theorem check_of_gainsFile {t t' : Tree} {place : Location} {content : List UInt8}
    (h : t.GainsFile t' place content) {cwd : Option Path} {p : Path} {there : Bool}
    (hbefore : (⟨t, cwd⟩ : Disk).check p = .ok there) {e : BuildError}
    (hafter : (⟨t', cwd⟩ : Disk).check p = .error e) : e = .io p .notADirectory := by
  obtain ⟨found, hfound, -⟩ := located_of_check hbefore
  rw [check_eq] at hafter
  rcases Disk.locate_gains h cwd p with hsame | ⟨-, hfile | hends⟩
  · rw [hsame, hfound] at hafter
    exact absurd hafter (by simp)
  · rw [hfile] at hafter
    exact absurd hafter (by simp)
  · rw [hends] at hafter
    exact (Except.error.inj hafter).symm

/-! ### A file among the modules -/

/-- The modules of a project are looked through unless the options say no. -/
theorem forProject_of_error {layout : Layout} {options : ComponentOptions}
    (hscans : options.scans = true) {e : BuildError}
    (h : ScanConfig.allModuleDirs d layout.modulesDir = .error e) :
    ScanConfig.forProject d layout options = .error e := by
  unfold ScanConfig.forProject
  rw [hscans, if_pos rfl, h]
  rfl

/-- Where the modules could be looked through, a file among them is in the way: it is a path through
the file that cannot be followed. -/
theorem allModuleDirs_of_gainsFile {t t' : Tree} {cwd : Option Path} {at_ : Location}
    {name : FileName} {content : List UInt8} (h : t.GainsFile t' (at_ ++ [name]) content)
    (hlocate : (⟨t, cwd⟩ : Disk).locate modules = .ok (some (at_, .directory))) {dirs : List Path}
    (hbefore : ScanConfig.allModuleDirs ⟨t, cwd⟩ modules = .ok dirs) :
    ∃ module_ fault,
      let path := (modules.join ⟨module_⟩).child "components"
      ScanConfig.allModuleDirs ⟨t', cwd⟩ modules = .error (.io path fault) ∧
      (∃ entry, t'.get? (at_ ++ [module_]) = some entry) ∧
      (fault = .notADirectory ∨ fault = .nameTooLong ∧ module_ = name ∧
        (pathLimit < path.bytes.length ∨ nameLimit < name.length)) := by
  have hlocate' : (⟨t', cwd⟩ : Disk).locate modules = .ok (some (at_, .directory)) := by
    rcases Disk.locate_gains h cwd modules with hsame | ⟨hnothing, -⟩
    · rw [hsame, hlocate]
    · rw [hnothing] at hlocate
      exact absurd hlocate (by simp)
  have hstray := locate_components_of_file hlocate' h.file
  rw [allModuleDirs_of_directory hlocate] at hbefore
  rw [allModuleDirs_of_directory hlocate']
  cases hafter : ScanConfig.moduleDirs ⟨t', cwd⟩ modules (t'.listing at_) with
  | ok dirs' => exact absurd h.file (get?_module_ne_file hlocate' hafter name content)
  | error e =>
      obtain ⟨⟨module_, entry⟩, hentry, hcheck⟩ := check_of_moduleDirs_error hafter
      have hget : t'.get? (at_ ++ [module_]) = some entry := Tree.mem_listing.mp hentry
      by_cases hname : module_ = name
      · subst hname
        rw [check_eq, hstray] at hcheck
        by_cases hlong : pathLimit < ((modules.join ⟨module_⟩).child "components").bytes.length ∨
            nameLimit < module_.length
        · rw [if_pos hlong] at hcheck
          exact ⟨module_, _, by rw [← Except.error.inj hcheck], ⟨_, hget⟩, .inr ⟨rfl, rfl, hlong⟩⟩
        · rw [if_neg hlong] at hcheck
          exact ⟨module_, _, by rw [← Except.error.inj hcheck], ⟨_, hget⟩, .inl rfl⟩
      · -- The entry was there before, and was looked at then.
        have hold : (module_, entry) ∈ t.listing at_ := by
          rw [Tree.mem_listing, ← h.elsewhere _ (by simpa using hname)]
          exact hget
        obtain ⟨there, hthere⟩ := check_of_moduleDirs hbefore hold
        exact ⟨module_, _, by rw [check_of_gainsFile h hthere hcheck], ⟨_, hget⟩, .inl rfl⟩

/-- The names on the way to an entry are names. -/
theorem Tree.isName_of_mem {t : Tree} {at_ : Location} {e : Entry} (h : t.get? at_ = some e) :
    ∀ name ∈ at_, IsName name := by
  by_cases hne : at_ = []
  · simp [hne]
  · exact t.named _ (mem_entries_of_get? hne h)

namespace Project

/--
**A stray file among the modules stops a project.**  Say it can be told what to scan for a
project that is not configured, its modules directory is there, and no entry in it has a
certain name.  With a file of that name in it, whatever the file holds, it cannot be told
any more: the components of one of the entries cannot be looked for, as the way to them
breaks off at the file, or else the file is the entry and its name or the path is too long.
So `init` fails with this, and leaves the project as it was.
-/
theorem stray_file_fails (p : Project) (d : Disk) (options : ComponentOptions)
    (hscans : options.scans = true) (hidle : p.config = none) {config : ScanConfig}
    (hbefore : p.scanConfig d options = .ok config) {at_ : Location}
    (hmodules : d.locate p.layout.modulesDir = .ok (some (at_, .directory))) {name : FileName}
    (hname : IsName name) (hunused : d.tree.get? (at_ ++ [name]) = none) (content : List UInt8) :
    let after : Disk := ⟨d.tree.insert (at_ ++ [name]) (.file content), d.cwd⟩
    ∃ module_ fault,
      let path := (p.layout.modulesDir.join ⟨module_⟩).child "components"
      p.scanConfig after options = .error (.io path fault) ∧
      p.init after options = some ⟨p, .error (.io path fault), []⟩ ∧
      (∃ entry, after.tree.get? (at_ ++ [module_]) = some entry) ∧
      (fault = .notADirectory ∨ fault = .nameTooLong ∧ module_ = name ∧
        (pathLimit < path.bytes.length ∨ nameLimit < name.length)) := by
  intro after
  have hnames : ∀ part ∈ at_ ++ [name], IsName part := by
    intro part hpart
    rcases List.mem_append.mp hpart with hpart | hpart
    · exact Tree.isName_of_mem (Disk.locate_join hmodules).1 part hpart
    · rw [List.mem_singleton.mp hpart]
      exact hname
  have hgains := Tree.gainsFile_insert hunused hnames content
  obtain ⟨dirs, hdirs⟩ : ∃ dirs, ScanConfig.allModuleDirs d p.layout.modulesDir = .ok dirs := by
    cases hdirs : ScanConfig.allModuleDirs d p.layout.modulesDir with
    | ok dirs => exact ⟨dirs, rfl⟩
    | error e =>
        have hfails : p.scanConfig d options = .error e := forProject_of_error hscans hdirs
        exact absurd (hbefore.symm.trans hfails) (by simp)
  obtain ⟨module_, fault, hfails, hentry, hfault⟩ :=
    allModuleDirs_of_gainsFile hgains hmodules hdirs
  have hscan : p.scanConfig after options = _ := forProject_of_error hscans hfails
  refine ⟨module_, fault, hscan, ?_, hentry, hfault⟩
  have hsame : ({ p with config := none } : Project) = p := by rw [← hidle]
  unfold init
  rw [hidle, if_neg (by simp), refresh_of_error hscan, hsame]

/-! ### A file beside a module -/

/-- Sources at `/p` that take one module, with one component. -/
def sharedTree : Tree :=
  let modules : Location := [Utf8.encode "p", Utf8.encode "uni_modules"]
  let components := modules ++ [Utf8.encode "ui", Utf8.encode "components"]
  ⟨[([Utf8.encode "p"], .directory), (modules, .directory),
      (modules ++ [Utf8.encode "ui"], .directory), (components, .directory),
      (components ++ [Utf8.encode "Foo"], .directory),
      (components ++ [Utf8.encode "Foo", Utf8.encode "Foo.vue"], .file [])], by decide⟩

/-- The sources with a text beside the module. -/
def clutteredTree : Tree :=
  sharedTree.insert [Utf8.encode "p", Utf8.encode "uni_modules", Utf8.encode "README"] (.file [])

/-- The project of these sources. -/
def sharing : Project := .new ⟨.ofText "/p", .ofText "/lib"⟩

/-- What is scanned for it without the text. -/
def sharedConfig : ScanConfig where
  dirs := [.ofText "/lib", .ofText "/p/components", .ofText "/p/uni_modules/ui/components"]
  rootDir := .ofText "/p"
  extensions := [".vue"]
  autoscan := true
  custom := .empty

theorem scanConfig_sharing : sharing.scanConfig ⟨sharedTree, none⟩ default = .ok sharedConfig := by
  cbv

/-- With the text there is no telling what to scan. -/
theorem readme_fails : (sharing.scanConfig ⟨clutteredTree, none⟩ default).isOk = false := by
  have hname : IsName (Utf8.encode "README") := by decide
  obtain ⟨module_, fault, hscan, -⟩ := stray_file_fails sharing ⟨sharedTree, none⟩ default
    (by decide) rfl scanConfig_sharing (by cbv) hname (by decide) []
  have hscan : sharing.scanConfig ⟨clutteredTree, none⟩ default = .error _ := hscan
  rw [hscan]
  rfl

/-- The component of the module is found without the text, and not with it. -/
theorem readme_differs :
    (sharing.scanConfig ⟨sharedTree, none⟩ default).isOk = true ∧
    (sharing.init ⟨sharedTree, none⟩ default).map (fun r => (r.outcome.isOk,
      (r.project.resolve "Foo").1)) = some (true, some "/p/uni_modules/ui/components/Foo/Foo.vue") ∧
    (sharing.scanConfig ⟨clutteredTree, none⟩ default) =
      .error (.io (.ofText "/p/uni_modules/README/components") .notADirectory) ∧
    (sharing.init ⟨clutteredTree, none⟩ default).map (fun r => (r.outcome.isOk,
      (r.project.resolve "Foo").1)) = some (false, none) := by
  have hfound : scanDirs ⟨sharedTree, none⟩ (.ofText "/p") [".vue"] sharedConfig.scanned
      = .ok [("Foo", "/p/uni_modules/ui/components/Foo/Foo.vue")] := by cbv
  have hinit : sharing.init ⟨sharedTree, none⟩ default
      = some (sharing.refresh ⟨sharedTree, none⟩ default) := rfl
  refine ⟨?_, ?_, by cbv, by cbv⟩
  · rw [scanConfig_sharing]
    rfl
  · rw [hinit, refresh_of_ok scanConfig_sharing]
    unfold Registry.configure
    rw [Registry.plan_of_scan hfound]
    decide +kernel

end Project
end AppBuild
