/-
Whether the paths that a scan finds are there.

A folder provides a component when the text of one of its entries is the name of the folder
with an extension.  The path of the component is written with this text, though, and not
with the name of the entry.  So there is an entry under the path exactly if the folder
holds one of which the text is the name (`hasEntry_candidate_iff`).  An entry whose text
has no replaced characters is one; another may stand for it without being there.

What lost to a kept path is listed as it is seen from the root.  It leads back to the path
of the component, so the same holds of it.
-/
import AppBuild.Proofs.Component.Conflicts
import AppBuild.Proofs.Path.RoundTrip

namespace AppBuild

variable {d : Disk}

/-! ### Entries that paths name -/

/-- The path names an entry: its last part stands in the directory to which those before it lead. -/
def Disk.HasEntry (d : Disk) (p : Path) : Prop :=
  ∃ start above name at_ e, d.origin? p = some start ∧ p.parts = above ++ [name] ∧
    d.tree.walk true linkLimit start above = .ok (some (at_, .directory)) ∧
    d.tree.get? (at_ ++ [name]) = some e

/-- Below a directory it is a matter of the names in it. -/
theorem Disk.hasEntry_join_iff {dir : Path} {at_ : Location}
    (h : d.locate dir = .ok (some (at_, .directory))) {name : FileName} (hname : IsName name) :
    d.HasEntry (dir.join ⟨name⟩) ↔ ∃ e, d.tree.get? (at_ ++ [name]) = some e := by
  obtain ⟨hdir, start, links, hstart, harrives⟩ := arrives_of_locate h
  have horigin : d.origin? (dir.join ⟨name⟩) = some start := by
    rw [origin?_join d dir (Path.isAbsolute_name hname), hstart]
  have hparts : (dir.join ⟨name⟩).parts = dir.parts ++ [name] := by
    rw [Path.parts_join dir (Path.isAbsolute_name hname), Path.parts_name hname]
  have hwalk : d.tree.walk true linkLimit start dir.parts = .ok (some (at_, .directory)) := by
    have hend := harrives.walk_append []
    rw [List.append_nil, Tree.walk_nil, hdir] at hend
    exact hend
  constructor
  · rintro ⟨start', above, last, at', e, horigin', hparts', hwalk', hget⟩
    rw [horigin] at horigin'
    rw [hparts] at hparts'
    obtain ⟨rfl, hlast⟩ := List.append_inj' hparts' rfl
    obtain rfl := Option.some.inj horigin'
    rw [hwalk] at hwalk'
    obtain ⟨rfl, -⟩ := Prod.mk.inj (Option.some.inj (Except.ok.inj hwalk'))
    rw [(List.cons.inj hlast).1]
    exact ⟨e, hget⟩
  · rintro ⟨e, hget⟩
    exact ⟨start, dir.parts, name, at_, e, horigin, hparts, hwalk, hget⟩

/-! ### The paths of components -/

section

variable {rootDir dir : Path}

/-- What leads to something was resolved to a canonical path. -/
theorem isCanonical_of_locate (hcwd : ∀ w, d.cwd = some w → w.isAbsolute = true)
    {x : Location × Entry} (h : d.locate (.resolve d.cwd rootDir dir) = .ok (some x)) :
    (Path.resolve d.cwd rootDir dir).IsCanonical := by
  cases hdisk : d.cwd with
  | some w => exact Path.isCanonical_resolve (hcwd w hdisk) rootDir dir
  | none =>
      cases hjoin : (rootDir.join dir).isAbsolute with
      | true =>
          rw [Path.resolve_eq_spell none hjoin]
          exact Path.isCanonical_spell fun name hname => Path.isName_of_mem_place hname
      | false =>
          -- Without a working directory a relative path leads nowhere.
          rw [Path.isAbsolute_join, Bool.or_eq_false_iff] at hjoin
          have hrelative := Path.isAbsolute_resolve_none hjoin.2 hjoin.1
          rw [hdisk] at h
          have horigin : d.origin? (Path.resolve none rootDir dir) = none := by
            unfold Disk.origin?
            rw [hrelative, hdisk]
            rfl
          unfold Disk.locate at h
          rw [horigin] at h
          split at h
          · exact absurd h (by simp)
          split at h
          · exact absurd h (by simp)
          · exact absurd h (by simp)

/-- The path of a file below a canonical folder is canonical, and it is a text if the folder is. -/
theorem ofText_candidate {above : Path} (habove : above.IsCanonical)
    (htext : Utf8.IsText above.bytes) {name ext : String} (hname : IsName (Utf8.encode name))
    (hfile : IsName (Utf8.encode (name ++ ext))) :
    Path.ofText ((above.child name).toText ++ "/" ++ name ++ ext) =
        (above.child name).join ⟨Utf8.encode (name ++ ext)⟩ ∧
      ((above.child name).join ⟨Utf8.encode (name ++ ext)⟩).IsCanonical ∧
      Utf8.IsText ((above.child name).join ⟨Utf8.encode (name ++ ext)⟩).bytes := by
  have hnames : ∀ part ∈ above.place, IsName part := fun part => Path.isName_of_mem_place
  have hfolder : above.child name = Path.spell (above.place ++ [Utf8.encode name]) := by
    rw [← Path.spell_join_name hnames hname, habove.spell_place]
    rfl
  have hfolderText : Utf8.IsText (above.child name).bytes :=
    Path.isText_join htext (Utf8.isText_encode name)
  have hnames' : ∀ part ∈ above.place ++ [Utf8.encode name], IsName part := by
    intro part hpart
    rcases List.mem_append.mp hpart with hpart | hpart
    · exact hnames part hpart
    · rwa [List.mem_singleton.mp hpart]
  have hpath : (above.child name).join ⟨Utf8.encode (name ++ ext)⟩ =
      Path.spell (above.place ++ [Utf8.encode name] ++ [Utf8.encode (name ++ ext)]) := by
    rw [hfolder, Path.spell_join_name hnames' hfile]
  refine ⟨?_, ?_, Path.isText_join hfolderText (Utf8.isText_encode _)⟩
  · rw [hpath, Path.spell_concat (by simp), ← hfolder]
    unfold Path.ofText Path.toText
    rw [String.append_assoc, Utf8.encode_append, Utf8.encode_append, hfolderText.encode_decodeLossy,
      show Utf8.encode "/" = [Path.slash] from rfl, List.append_assoc, List.singleton_append]
  · rw [hpath]
    refine Path.isCanonical_spell fun part hpart => ?_
    rcases List.mem_append.mp hpart with hpart | hpart
    · exact hnames' part hpart
    · rwa [List.mem_singleton.mp hpart]

end

/-! ### What a scan finds -/

/-- The text of an entry in the folder of a component is its name with the extension.  The path has
an entry exactly if one is spelled so. -/
structure Reads (d : Disk) (c : ScanConfig) (name : String) (p : Path) (folder : Location)
    (ext : String) : Prop where
  scanned : ∃ dir ∈ c.scanned, ∃ at_,
    d.locate (.resolve d.cwd c.rootDir dir) = .ok (some (at_, .directory)) ∧
      folder = at_ ++ [Utf8.encode name] ∧ d.tree.get? folder = some .directory
  held : FirstHeld d.tree folder name c.extensions ext
  present_iff : d.HasEntry p ↔ ∃ e, d.tree.get? (folder ++ [Utf8.encode (name ++ ext)]) = some e
  present : '\uFFFD' ∉ (name ++ ext).toList → d.HasEntry p

/-- An entry that is read without a replacement is there as it is read. -/
theorem Tree.Holds.exists_get? {t : Tree} {at_ : Location} {name : String} (h : t.Holds at_ name)
    (hname : '\uFFFD' ∉ name.toList) : ∃ e, t.get? (at_ ++ [Utf8.encode name]) = some e := by
  obtain ⟨file, e, hget, rfl⟩ := h
  rw [(Utf8.isText_of_replacement_not_mem hname).encode_decodeLossy]
  exact ⟨e, hget⟩

theorem FirstHeld.mem {t : Tree} {at_ : Location} {name : String} {extensions : List String}
    {ext : String} (h : FirstHeld t at_ name extensions ext) : ext ∈ extensions := by
  obtain ⟨-, before, after, hsplit, -⟩ := h
  rw [hsplit]
  simp

theorem Tree.Holds.isName {t : Tree} {at_ : Location} {name : String} (h : t.Holds at_ name) :
    IsName (Utf8.encode name) := by
  obtain ⟨file, e, hget, rfl⟩ := h
  exact Path.isName_shown (Tree.isName_of_get? hget)

section

variable {c : ScanConfig} (hcwd : ∀ w, d.cwd = some w → w.isAbsolute = true)
  (htext : ∀ dir ∈ c.scanned, Utf8.IsText (Path.resolve d.cwd c.rootDir dir).bytes)
  {cs : List Component} (hscan : scanDirs d c.rootDir c.extensions c.scanned = .ok cs)

include hcwd htext hscan

/-- **A component that is found is read off an entry of its folder**, and what is seen of its path
leads back to it. -/
theorem reads_of_mem {name path : String} (h : (name, path) ∈ cs) :
    (∃ folder ext, Reads d c name (.ofText path) folder ext) ∧
      Path.resolve d.cwd c.rootDir (.ofText (fromRoot d.cwd c.rootDir (name, path))) =
        .ofText path := by
  obtain ⟨dir, hdir, at_, ext, hlocate, hfolder, hheld, hpath⟩ := (mem_scanDirs hscan name path).mp h
  obtain ⟨here, hhere⟩ := exists_ok_of_scanDirs hscan hdir
  obtain ⟨entries, hentries⟩ := entries_of_scanDir hhere hlocate hfolder
  have hlocated := locate_of_entries hlocate hfolder hentries
  have hfile := hheld.1.isName
  obtain ⟨heq, hcanonical, hreads⟩ := ofText_candidate (isCanonical_of_locate hcwd hlocate)
    (htext dir hdir) (Tree.isName_of_get? hfolder) hfile
  rw [← hpath] at heq
  have hpresent : d.HasEntry (.ofText path) ↔
      ∃ e, d.tree.get? (at_ ++ [Utf8.encode name] ++ [Utf8.encode (name ++ ext)]) = some e := by
    rw [heq]
    exact Disk.hasEntry_join_iff hlocated hfile
  refine ⟨⟨_, ext, ⟨dir, hdir, at_, hlocate, rfl, hfolder⟩, hheld, hpresent, ?_⟩, ?_⟩
  · intro hplain
    exact hpresent.mpr (hheld.1.exists_get? hplain)
  · unfold fromRoot
    rw [heq]
    exact Path.resolve_relative_of_isCanonical hcwd c.rootDir hcanonical hreads

end

namespace Registry

/--
**The path of a component names an entry exactly if its folder holds one that is spelled so.**
Where the scanned directories are texts, this holds of every path that is kept and, taken
from the root again, of every path on record that lost to one.  It always does unless the
name or the extension has a replacement character.
-/
theorem scanned_paths_present {d : Disk} {c : ScanConfig}
    (hcwd : ∀ w, d.cwd = some w → w.isAbsolute = true)
    (htext : ∀ dir ∈ c.scanned, Utf8.IsText (Path.resolve d.cwd c.rootDir dir).bytes)
    {r : Registry} {report : Report} (h : (r.configure d c).outcome = .ok report) :
    ∃ cs, scanDirs d c.rootDir c.extensions c.scanned = .ok cs ∧
      (∀ name path, (Scan.ofComponents d.cwd c.rootDir cs).kept.get? name = some path →
        (name, path) ∈ cs ∧ ∃ folder ext, Reads d c name (.ofText path) folder ext) ∧
      ∀ kept losers, (kept, losers) ∈ report.conflicts.entries → ∀ loser ∈ losers,
        ∃ name path, (name, path) ∈ cs ∧
          Path.resolve d.cwd c.rootDir (.ofText loser) = .ofText path ∧
          ∃ folder ext, Reads d c name (.ofText path) folder ext := by
  obtain ⟨cs, hscan⟩ := scanned_of_isOk (by rw [h]; rfl : (r.configure d c).outcome.isOk = true)
  refine ⟨cs, hscan, ?_, ?_⟩
  · intro name path hkept
    rw [Scan.get?_kept] at hkept
    obtain ⟨before, after, hcs, -⟩ := List.lookup_eq_some_iff.mp hkept
    have hmem : (name, path) ∈ cs := by
      rw [hcs]
      simp
    exact ⟨hmem, (reads_of_mem hcwd htext hscan hmem).1⟩
  · intro kept losers hentry loser hloser
    rw [conflicts_of_report h hscan] at hentry
    obtain ⟨name, first, later, hof, hrecord⟩ :=
      (Scan.accounts_ofComponents (pathsTellNames_scanDirs hscan)).exists_recorded hentry
    rw [(Prod.mk.inj hrecord).2] at hloser
    obtain ⟨⟨other, path⟩, hlater, rfl⟩ := List.mem_map.mp hloser
    have hmem : (other, path) ∈ ofName name cs := by
      rw [hof]
      exact List.mem_cons_of_mem _ hlater
    obtain ⟨hreads, hback⟩ := reads_of_mem hcwd htext hscan (mem_of_mem_ofName hmem).1
    exact ⟨other, path, (mem_of_mem_ofName hmem).1, hback, hreads⟩

/-- The three directories without the custom entry. -/
def scannedAlone : ScanConfig := { crowdedConfig with custom := .empty }

/-- The paths of components without a replacement character are there, be they kept or lost. -/
theorem crowded_present :
    (∃ report, (new.configure crowdedDisk scannedAlone).outcome =
        .ok report ∧
      ("/a/Foo/Foo.vue", ["b/Foo/Foo.vue", "c/Foo/Foo.vue"]) ∈ report.conflicts.entries) ∧
    crowdedDisk.HasEntry (.ofText "/a/Foo/Foo.vue") ∧
    crowdedDisk.HasEntry (.resolve none (.ofText "/") (.ofText "c/Foo/Foo.vue")) := by
  have hscan : scanDirs crowdedDisk scannedAlone.rootDir scannedAlone.extensions
      scannedAlone.scanned = .ok crowdedFound := by cbv
  have hok : (new.configure crowdedDisk scannedAlone).outcome.isOk =
      true := by
    rw [isOk_configure, plan_of_scan (c := scannedAlone) hscan]
    decide +kernel
  cases hreport : (new.configure crowdedDisk scannedAlone).outcome with
  | error e => exact absurd hreport (ne_error_of_isOk hok e)
  | ok report =>
      have hconflicts : ("/a/Foo/Foo.vue", ["b/Foo/Foo.vue", "c/Foo/Foo.vue"]) ∈
          report.conflicts.entries := by
        rw [conflicts_of_report hreport hscan]
        decide +kernel
      have htext : ∀ dir ∈ scannedAlone.scanned,
          Utf8.IsText (Path.resolve crowdedDisk.cwd scannedAlone.rootDir dir).bytes := by
        intro dir hdir
        have hdirs : ∀ dir ∈ scannedAlone.scanned, dir.isAbsolute = true ∧
            ∃ s ∈ ["/a", "/b", "/c"], dir = .ofText s := by decide
        obtain ⟨habs, s, -, rfl⟩ := hdirs dir hdir
        exact Path.isText_resolve _ (Path.isAbsolute_join_right _ habs) (Utf8.isText_encode "/")
          (Utf8.isText_encode s)
      obtain ⟨cs, hcs, hkept, hlost⟩ :=
        scanned_paths_present (by simp [crowdedDisk]) htext hreport
      obtain rfl : crowdedFound = cs := Except.ok.inj (hscan.symm.trans hcs)
      have hplain : ∀ c ∈ crowdedFound, ∀ ext ∈ scannedAlone.extensions,
          '\uFFFD' ∉ (c.1 ++ ext).toList := by decide
      obtain ⟨hmem, folder, ext, hreads⟩ := hkept "Foo" "/a/Foo/Foo.vue" (by decide)
      obtain ⟨name, path, hmem', hback, folder', ext', hreads'⟩ :=
        hlost _ _ hconflicts "c/Foo/Foo.vue" (by decide)
      refine ⟨⟨report, rfl, hconflicts⟩, hreads.present (hplain _ hmem ext hreads.held.mem), ?_⟩
      rw [show crowdedDisk.cwd = none from rfl,
        show scannedAlone.rootDir = Path.ofText "/" from rfl] at hback
      rw [hback]
      exact hreads'.present (hplain _ hmem' ext' hreads'.held.mem)

/-! ### A file that is read as another -/

/-- The folder has a replacement character in its name, and its file a byte there that is no
text. -/
def misreadDisk : Disk :=
  let lib := [Utf8.encode "vroot", Utf8.encode "lib"]
  let folder := lib ++ [Utf8.encode "X\uFFFD"]
  ⟨⟨[([Utf8.encode "vroot"], .directory), (lib, .directory), (folder, .directory),
      (folder ++ [Utf8.encode "X" ++ [0xFF] ++ Utf8.encode ".vue"], .file [])], by decide⟩,
    some (.ofText "/")⟩

def misreadConfig : ScanConfig where
  dirs := [.ofText "/vroot/lib"]
  rootDir := .ofText "/vroot"
  extensions := [".vue"]
  autoscan := true
  custom := .empty

/-- **A tag can stand for a path at which there is nothing.** -/
theorem misread_path_absent :
    (∀ dir ∈ misreadConfig.scanned,
      Utf8.IsText (Path.resolve misreadDisk.cwd misreadConfig.rootDir dir).bytes) ∧
    (new.configure misreadDisk misreadConfig).outcome.isOk = true ∧
    ((new.configure misreadDisk misreadConfig).registry.resolve "X\uFFFD").1 =
      some "/vroot/lib/X\uFFFD/X\uFFFD.vue" ∧
    ¬ misreadDisk.HasEntry (.ofText "/vroot/lib/X\uFFFD/X\uFFFD.vue") := by
  have hscan : scanDirs misreadDisk misreadConfig.rootDir misreadConfig.extensions
      misreadConfig.scanned = .ok [("X\uFFFD", "/vroot/lib/X\uFFFD/X\uFFFD.vue")] := by cbv
  refine ⟨?_, ?_, ?_, ?_⟩
  · intro dir hdir
    rw [List.mem_singleton.mp hdir]
    exact Path.isText_resolve _ (by decide) (Utf8.isText_encode "/vroot")
      (Utf8.isText_encode "/vroot/lib")
  · rw [isOk_configure, plan_of_scan hscan]
    decide +kernel
  · unfold configure
    rw [plan_of_scan hscan]
    decide +kernel
  · have hfolder : misreadDisk.locate (.ofText "/vroot/lib/X\uFFFD") =
        .ok (some ([Utf8.encode "vroot", Utf8.encode "lib", Utf8.encode "X\uFFFD"],
          .directory)) := by cbv
    have hpath : Path.ofText "/vroot/lib/X\uFFFD/X\uFFFD.vue" =
        (Path.ofText "/vroot/lib/X\uFFFD").join ⟨Utf8.encode "X\uFFFD.vue"⟩ := by decide
    rw [hpath, Disk.hasEntry_join_iff hfolder (by decide)]
    rintro ⟨e, hget⟩
    have hnone : misreadDisk.tree.get? ([Utf8.encode "vroot", Utf8.encode "lib",
        Utf8.encode "X\uFFFD"] ++ [Utf8.encode "X\uFFFD.vue"]) = none := by decide
    rw [hnone] at hget
    exact absurd hget (by simp)

end Registry
end AppBuild
