/-
Which components directories provide.

`Provides` says it of the tree, without a listing: below the place that the directory
leads to stands a folder with the name of the component, and in it an entry whose name
reads as that name with one of the extensions, of which the first counts.  A scan that
succeeds finds these components and no others (`mem_scanDir`).  The listing of a
folder comes in an order of its own, but nothing hangs on it: a directory gives a name
one path at most, so among what several directories provide the first to have the name
decides (`lookup_scanDirs`).

Failures play no part here.  A scan that meets a name or a path that is too long, or a
loop of links, is no scan that succeeds.
-/
import AppBuild.Component.Scan
import AppBuild.Proofs.Text.Utf8
import AppBuild.Proofs.Tree.Walk

namespace AppBuild

/-! ### What it is to provide a component -/

/-- Directly below the place stands an entry whose name reads so. -/
def Tree.Holds (t : Tree) (at_ : Location) (name : String) : Prop :=
  ∃ file e, t.get? (at_ ++ [file]) = some e ∧ Utf8.decodeLossy file = name

/-- The extension is the first with which the folder at a place holds an entry of its name. -/
def FirstHeld (t : Tree) (at_ : Location) (name : String) (extensions : List String)
    (ext : String) : Prop :=
  t.Holds at_ (name ++ ext) ∧ ∃ before after, extensions = before ++ ext :: after ∧
    ∀ other ∈ before, ¬ t.Holds at_ (name ++ other)

/-- The directory, seen from the root, provides a component of the name at the path. -/
def Provides (d : Disk) (rootDir : Path) (extensions : List String) (dir : Path)
    (name path : String) : Prop :=
  ∃ at_ ext,
    d.locate (.resolve d.cwd rootDir dir) = .ok (some (at_, .directory)) ∧
    d.tree.get? (at_ ++ [Utf8.encode name]) = some .directory ∧
    FirstHeld d.tree (at_ ++ [Utf8.encode name]) name extensions ext ∧
    path = ((Path.resolve d.cwd rootDir dir).child name).toText ++ "/" ++ name ++ ext

/-- The first of the directories that provides a component of the name provides it at the path. -/
inductive FirstProvides (d : Disk) (rootDir : Path) (extensions : List String) (name : String)
    (path : String) : List Path → Prop
  | here {dir : Path} {dirs : List Path} (h : Provides d rootDir extensions dir name path) :
      FirstProvides d rootDir extensions name path (dir :: dirs)
  | later {dir : Path} {dirs : List Path}
      (h : ∀ other, ¬ Provides d rootDir extensions dir name other)
      (rest : FirstProvides d rootDir extensions name path dirs) :
      FirstProvides d rootDir extensions name path (dir :: dirs)

theorem FirstHeld.unique {t : Tree} {at_ : Location} {name : String} {extensions : List String}
    {ext ext' : String} (h : FirstHeld t at_ name extensions ext)
    (h' : FirstHeld t at_ name extensions ext') : ext = ext' := by
  obtain ⟨hheld, before, after, hsplit, hbefore⟩ := h
  obtain ⟨hheld', before', after', hsplit', hbefore'⟩ := h'
  rw [hsplit] at hsplit'
  rcases List.append_eq_append_iff.mp hsplit' with ⟨more, hmore, hrest⟩ | ⟨more, hmore, hrest⟩
  · cases more with
    | nil => exact (List.cons.inj hrest).1
    | cons e more =>
        obtain ⟨rfl, -⟩ := List.cons.inj hrest
        exact absurd hheld (hbefore' ext (by rw [hmore]; simp))
  · cases more with
    | nil => exact (List.cons.inj hrest).1.symm
    | cons e more =>
        obtain ⟨rfl, -⟩ := List.cons.inj hrest
        exact absurd hheld' (hbefore ext' (by rw [hmore]; simp))

/-- A directory gives a name one path. -/
theorem Provides.unique {d : Disk} {rootDir dir : Path} {extensions : List String}
    {name path path' : String} (h : Provides d rootDir extensions dir name path)
    (h' : Provides d rootDir extensions dir name path') : path = path' := by
  obtain ⟨at_, ext, hlocate, -, hheld, rfl⟩ := h
  obtain ⟨at', ext', hlocate', -, hheld', rfl⟩ := h'
  rw [hlocate] at hlocate'
  obtain ⟨rfl, -⟩ := Prod.mk.inj (Option.some.inj (Except.ok.inj hlocate'))
  rw [hheld.unique hheld']

/-! ### One folder -/

/-- Two steps succeed when the first does, and the second after it. -/
theorem parts_of_bind {ε α β : Type} {first : Except ε α} {second : α → Except ε β} {b : β}
    (h : first >>= second = .ok b) : ∃ a, first = .ok a ∧ second a = .ok b := by
  cases first with
  | ok a => exact ⟨a, rfl, h⟩
  | error e => cases h

variable {d : Disk} {rootDir dir : Path} {extensions : List String}

theorem check_eq (d : Disk) (p : Path) :
    d.check p = match d.locate p with
      | .ok found => .ok found.isSome
      | .error fault => .error (.io p fault) := by
  unfold Disk.check Disk.present
  cases d.locate p <;> rfl

theorem Disk.entries_of_list {p : Path} {entries : List (FileName × Entry)}
    (h : d.list p = .ok entries) : d.entries p = .ok entries := by
  unfold Disk.entries
  rw [h]

/-- Whether a listing has a name with an extension is whether the folder holds it. -/
theorem find?_eq_some_iff_firstHeld {at_ : Location} {name ext : String} {files : List String}
    (hfiles : ∀ file, file ∈ files ↔ d.tree.Holds at_ file) :
    extensions.find? (fun ext => files.contains (name ++ ext)) = some ext ↔
      FirstHeld d.tree at_ name extensions ext := by
  unfold FirstHeld
  rw [List.find?_eq_some_iff_append, List.contains_iff_mem, hfiles]
  refine and_congr_right fun _ => exists_congr fun before => exists_congr fun after =>
    and_congr_right fun _ => forall₂_congr fun other _ => ?_
  rw [← hfiles]
  simp

theorem mem_names_iff_holds {t : Tree} {at_ : Location} (name : String) :
    name ∈ (t.listing at_).map (fun e => Utf8.decodeLossy e.1) ↔ t.Holds at_ name := by
  rw [List.mem_map]
  constructor
  · rintro ⟨⟨file, e⟩, hmem, rfl⟩
    exact ⟨file, e, Tree.mem_listing.mp hmem, rfl⟩
  · rintro ⟨file, e, hget, rfl⟩
    exact ⟨(file, e), Tree.mem_listing.mpr hget, rfl⟩

/-- A folder below a directory that can be listed is found there. -/
theorem locate_of_entries {at_ : Location}
    (hlocate : d.locate dir = .ok (some (at_, .directory))) {file : FileName}
    (hget : d.tree.get? (at_ ++ [file]) = some .directory) {entries : List (FileName × Entry)}
    (hentries : d.entries (dir.join ⟨file⟩) = .ok entries) :
    d.locate (dir.join ⟨file⟩) = .ok (some (at_ ++ [file], .directory)) := by
  rcases Disk.locate_name hlocate hget with hfolder | hlong
  · exact hfolder
  · exfalso
    simp [Disk.entries, Disk.list, hlong, bind, Except.bind] at hentries

/-- What is listed of it is what is there. -/
theorem listing_of_entries {at_ : Location}
    (hlocate : d.locate dir = .ok (some (at_, .directory))) {file : FileName}
    (hget : d.tree.get? (at_ ++ [file]) = some .directory) {entries : List (FileName × Entry)}
    (hentries : d.entries (dir.join ⟨file⟩) = .ok entries) :
    entries = d.tree.listing (at_ ++ [file]) := by
  have hfolder := locate_of_entries hlocate hget hentries
  rw [Disk.entries_of_list (Disk.list_eq_listing hfolder)] at hentries
  exact (Except.ok.inj hentries).symm

/-- A folder of a scan that succeeds is the component that it should be. -/
theorem folderComponent?_eq_some_iff {at_ : Location}
    (hlocate : d.locate dir = .ok (some (at_, .directory))) {file : FileName} {e : Entry}
    (hget : d.tree.get? (at_ ++ [file]) = some e) {found : Option Component}
    (h : folderComponent? d dir extensions file e = .ok found) (name path : String) :
    found = some (name, path) ↔
      file = Utf8.encode name ∧ e = .directory ∧ ∃ ext,
        FirstHeld d.tree (at_ ++ [file]) name extensions ext ∧
        path = (dir.child name).toText ++ "/" ++ name ++ ext := by
  cases e with
  | file content => simp [← Except.ok.inj h]
  | link target => simp [← Except.ok.inj h]
  | directory =>
      unfold folderComponent? at h
      cases hdecode : Utf8.decode? file with
      | none =>
          simp only [hdecode, Except.ok.injEq] at h
          have hno : file ≠ Utf8.encode name := by
            rintro rfl
            simp [Utf8.decode?_encode] at hdecode
          simp [← h, hno]
      | some text =>
          simp only [hdecode] at h
          obtain ⟨entries, hentries, hfound⟩ := parts_of_bind h
          obtain rfl := listing_of_entries hlocate hget hentries
          have hfile : file = Utf8.encode text := Utf8.decode?_eq_some_iff.mp hdecode
          rw [← Except.ok.inj hfound, Option.map_eq_some_iff]
          constructor
          · rintro ⟨ext, hext, hpair⟩
            obtain ⟨rfl, rfl⟩ := Prod.mk.inj hpair
            rw [find?_eq_some_iff_firstHeld mem_names_iff_holds] at hext
            exact ⟨hfile, rfl, ext, hext, by rw [hfile]; rfl⟩
          · rintro ⟨hname, -, ext, hext, rfl⟩
            have htext : text = name := by
              rw [hname, Utf8.decode?_encode] at hdecode
              exact (Option.some.inj hdecode).symm
            subst htext
            refine ⟨ext, ?_, by rw [hfile]; rfl⟩
            exact (find?_eq_some_iff_firstHeld mem_names_iff_holds).mpr hext

/-! ### One directory -/

theorem parts_of_componentsAmong {e : FileName × Entry} {entries : List (FileName × Entry)}
    {cs : List Component} (h : componentsAmong d dir extensions (e :: entries) = .ok cs) :
    ∃ here later, folderComponent? d dir extensions e.1 e.2 = .ok here ∧
      componentsAmong d dir extensions entries = .ok later ∧ cs = here.toList ++ later := by
  obtain ⟨here, hhere, h⟩ := parts_of_bind h
  obtain ⟨later, hlater, h⟩ := parts_of_bind h
  exact ⟨here, later, hhere, hlater, (Except.ok.inj h).symm⟩

theorem mem_componentsAmong {entries : List (FileName × Entry)} {cs : List Component}
    (h : componentsAmong d dir extensions entries = .ok cs) (c : Component) :
    c ∈ cs ↔ ∃ e ∈ entries, folderComponent? d dir extensions e.1 e.2 = .ok (some c) := by
  induction entries generalizing cs with
  | nil => simp [← Except.ok.inj h]
  | cons e rest ih =>
      obtain ⟨here, later, hhere, hlater, rfl⟩ := parts_of_componentsAmong h
      rw [List.mem_append, ih hlater]
      simp [hhere, Except.ok.injEq]

theorem folderComponent?_ok_of_mem {entries : List (FileName × Entry)} {cs : List Component}
    (h : componentsAmong d dir extensions entries = .ok cs) {e : FileName × Entry}
    (he : e ∈ entries) : ∃ found, folderComponent? d dir extensions e.1 e.2 = .ok found := by
  induction entries generalizing cs with
  | nil => exact absurd he (by simp)
  | cons first rest ih =>
      obtain ⟨here, later, hhere, hlater, -⟩ := parts_of_componentsAmong h
      rcases List.mem_cons.mp he with rfl | he
      · exact ⟨here, hhere⟩
      · exact ih hlater he

theorem componentsAmong_of_scanDir {cs : List Component}
    (h : scanDir d rootDir extensions dir = .ok cs) {at_ : Location}
    (hlocate : d.locate (.resolve d.cwd rootDir dir) = .ok (some (at_, .directory))) :
    componentsAmong d (.resolve d.cwd rootDir dir) extensions (d.tree.listing at_) = .ok cs := by
  unfold scanDir at h
  obtain ⟨there, hthere, h⟩ := parts_of_bind h
  simp only [Disk.check, Disk.present, hlocate, bind, Except.bind, Except.ok.injEq] at hthere
  rw [← hthere, Option.isSome_some, if_pos rfl,
    Disk.entries_of_list (Disk.list_eq_listing hlocate)] at h
  exact h

/-- In a scan that succeeds, every folder whose name is a text could be listed. -/
theorem entries_of_scanDir {cs : List Component}
    (h : scanDir d rootDir extensions dir = .ok cs) {at_ : Location}
    (hlocate : d.locate (.resolve d.cwd rootDir dir) = .ok (some (at_, .directory)))
    {name : String} (hfolder : d.tree.get? (at_ ++ [Utf8.encode name]) = some .directory) :
    ∃ entries, d.entries ((Path.resolve d.cwd rootDir dir).child name) = .ok entries := by
  obtain ⟨found, hfound⟩ :=
    folderComponent?_ok_of_mem (componentsAmong_of_scanDir h hlocate) (Tree.mem_listing.mpr hfolder)
  unfold folderComponent? at hfound
  simp only [Utf8.decode?_encode] at hfound
  obtain ⟨entries, hentries, -⟩ := parts_of_bind hfound
  exact ⟨entries, hentries⟩

/-- What is missing or no directory provides nothing. -/
theorem eq_nil_of_scanDir {cs : List Component}
    (h : scanDir d rootDir extensions dir = .ok cs)
    (hno : ∀ at_, d.locate (.resolve d.cwd rootDir dir) ≠ .ok (some (at_, .directory))) :
    cs = [] := by
  unfold scanDir at h
  obtain ⟨there, hthere, h⟩ := parts_of_bind h
  cases hlocate : d.locate (.resolve d.cwd rootDir dir) with
  | error fault => simp [Disk.check, Disk.present, hlocate, bind, Except.bind] at hthere
  | ok found =>
      have hlist : d.list (.resolve d.cwd rootDir dir) = .ok [] := by
        refine Disk.list_eq_nil hlocate ?_
        rintro at_ rfl
        exact hno at_ hlocate
      rw [Disk.entries_of_list hlist] at h
      split at h <;> exact (Except.ok.inj h).symm

/-- **A scan of a directory finds what the directory provides.** -/
theorem mem_scanDir {cs : List Component} (h : scanDir d rootDir extensions dir = .ok cs)
    (name path : String) :
    (name, path) ∈ cs ↔ Provides d rootDir extensions dir name path := by
  constructor
  · intro hmem
    by_cases hdir : ∃ at_, d.locate (.resolve d.cwd rootDir dir) = .ok (some (at_, .directory))
    · obtain ⟨at_, hlocate⟩ := hdir
      rw [mem_componentsAmong (componentsAmong_of_scanDir h hlocate)] at hmem
      obtain ⟨⟨file, e⟩, hlisted, hfound⟩ := hmem
      have hget := Tree.mem_listing.mp hlisted
      obtain ⟨rfl, rfl, ext, hheld, hpath⟩ :=
        (folderComponent?_eq_some_iff hlocate hget hfound name path).mp rfl
      exact ⟨at_, ext, hlocate, hget, hheld, hpath⟩
    · rw [eq_nil_of_scanDir h (fun at_ hat => hdir ⟨at_, hat⟩)] at hmem
      exact absurd hmem (by simp)
  · rintro ⟨at_, ext, hlocate, hget, hheld, hpath⟩
    have hamong := componentsAmong_of_scanDir h hlocate
    have hlisted := Tree.mem_listing.mpr hget
    obtain ⟨component, hcomponent⟩ := folderComponent?_ok_of_mem hamong hlisted
    rw [mem_componentsAmong hamong]
    refine ⟨_, hlisted, ?_⟩
    rw [hcomponent, (folderComponent?_eq_some_iff hlocate hget hcomponent name path).mpr
      ⟨rfl, rfl, ext, hheld, hpath⟩]

/-! ### Several directories -/

theorem parts_of_scanDirs {dirs : List Path} {cs : List Component}
    (h : scanDirs d rootDir extensions (dir :: dirs) = .ok cs) :
    ∃ here later, scanDir d rootDir extensions dir = .ok here ∧
      scanDirs d rootDir extensions dirs = .ok later ∧ cs = here ++ later := by
  obtain ⟨here, hhere, h⟩ := parts_of_bind h
  obtain ⟨later, hlater, h⟩ := parts_of_bind h
  exact ⟨here, later, hhere, hlater, (Except.ok.inj h).symm⟩

/-- A scan that succeeds has succeeded in every directory. -/
theorem exists_ok_of_scanDirs {dirs : List Path} {cs : List Component}
    (h : scanDirs d rootDir extensions dirs = .ok cs) (hdir : dir ∈ dirs) :
    ∃ here, scanDir d rootDir extensions dir = .ok here := by
  induction dirs generalizing cs with
  | nil => exact absurd hdir (by simp)
  | cons first dirs ih =>
      obtain ⟨here, later, hhere, hlater, -⟩ := parts_of_scanDirs h
      rcases List.mem_cons.mp hdir with rfl | hdir
      · exact ⟨here, hhere⟩
      · exact ih hlater hdir

theorem lookup_scanDir {cs : List Component} (h : scanDir d rootDir extensions dir = .ok cs)
    (name path : String) :
    cs.lookup name = some path ↔ Provides d rootDir extensions dir name path := by
  rw [← mem_scanDir h]
  constructor
  · intro hlookup
    obtain ⟨before, after, hcs, -⟩ := List.lookup_eq_some_iff.mp hlookup
    rw [hcs]
    simp
  · intro hmem
    cases hlookup : cs.lookup name with
    | none => exact absurd (List.lookup_eq_none_iff.mp hlookup _ hmem) (by simp)
    | some other =>
        obtain ⟨before, after, hcs, -⟩ := List.lookup_eq_some_iff.mp hlookup
        have hother : (name, other) ∈ cs := by rw [hcs]; simp
        rw [((mem_scanDir h name other).mp hother).unique ((mem_scanDir h name path).mp hmem)]

/-- **The first directory that provides a name decides its path.** -/
theorem lookup_scanDirs {dirs : List Path} {cs : List Component}
    (h : scanDirs d rootDir extensions dirs = .ok cs) (name path : String) :
    cs.lookup name = some path ↔ FirstProvides d rootDir extensions name path dirs := by
  induction dirs generalizing cs with
  | nil =>
      rw [← Except.ok.inj h]
      exact ⟨fun hlookup => absurd hlookup (by simp), fun hfirst => by cases hfirst⟩
  | cons dir dirs ih =>
      obtain ⟨here, later, hhere, hlater, rfl⟩ := parts_of_scanDirs h
      rw [List.lookup_append, Option.or_eq_some_iff, lookup_scanDir hhere,
        ih hlater]
      constructor
      · rintro (hprovides | ⟨hnone, hfirst⟩)
        · exact .here hprovides
        · refine .later (fun other hother => ?_) hfirst
          rw [← lookup_scanDir hhere, hnone] at hother
          exact absurd hother (by simp)
      · intro hfirst
        cases hfirst with
        | here hprovides => exact .inl hprovides
        | later hnot hfirst =>
            refine .inr ⟨?_, hfirst⟩
            cases hlookup : here.lookup name with
            | none => rfl
            | some other => exact absurd ((lookup_scanDir hhere name other).mp hlookup) (hnot other)

namespace Scan

/-- A scan keeps the first path of each name. -/
theorem get?_kept_foldl_add (cwd : Option Path) (rootDir : Path) (s : Scan)
    (cs : List Component) (name : String) :
    (cs.foldl (add cwd rootDir) s).kept.get? name = (s.kept.get? name).or (cs.lookup name) := by
  induction cs generalizing s with
  | nil => simp
  | cons c cs ih =>
      obtain ⟨other, path⟩ := c
      have hadd : (add cwd rootDir s (other, path)).kept.get? name
          = (s.kept.get? name).or (if name = other then some path else none) := by
        unfold add
        cases hother : s.kept.get? other with
        | none =>
            simp only [OrderedMap.get?_insert]
            by_cases hname : name = other
            · subst hname
              simp [hother]
            · simp [hname]
        | some kept =>
            by_cases hname : name = other
            · subst hname
              simp [hother]
            · simp [hname]
      rw [List.foldl_cons, ih, hadd, Option.or_assoc, List.lookup_cons]
      congr 1
      by_cases hname : name = other
      · subst hname
        simp
      · have hbeq : (name == other) = false := by simpa using hname
        simp [hname, hbeq]

theorem get?_kept (cwd : Option Path) (rootDir : Path) (cs : List Component) (name : String) :
    (ofComponents cwd rootDir cs).kept.get? name = cs.lookup name :=
  get?_kept_foldl_add cwd rootDir empty cs name

end Scan
end AppBuild
