/-
Where a configured registry says that components are.

With plain custom entries the whole of a configuration can be said of the tree alone.
A tag has the value of the custom entry that names it.  Without one it has the path
that the first of the scanned directories to provide it gives it, and otherwise none.
Nothing is asked of the names and paths that are found: they can have any characters
in them, those with a meaning in patterns or templates included.

The way there is in the modules below.  What is scanned is what the directories
provide, the first keeping its name; the slots laid out stand for these and the custom
entries; their matchers match the names and nothing more.  Here they are put together,
and a registry that was asked before answers no differently.
-/
import Mathlib
import AppBuild.Proofs.Component.Provides
import AppBuild.Proofs.Component.Slots
import AppBuild.Proofs.Registry.Plan

namespace AppBuild.Registry

variable {d : Disk} {c : ScanConfig} {r : Registry}

/-- What a tag stands for under a configuration. -/
inductive StandsFor (d : Disk) (c : ScanConfig) (tag path : String) : Prop
  /-- A custom entry names the tag. -/
  | custom (h : c.custom.get? ("^" ++ tag ++ "$") = some path)
  /-- None does, and the directories that are scanned provide it. -/
  | scanned (hnone : c.custom.get? ("^" ++ tag ++ "$") = none)
      (h : FirstProvides d c.rootDir c.extensions tag path c.scanned)

/-- The slots of a configuration stand for what the scan kept with the custom entries put in. -/
theorem stands_layOut (hplain : ∀ entry ∈ c.custom.entries, PlainEntry entry)
    (cs : List Component) :
    ∃ taken, List.Forall₂ (Slot.Stands taken)
      (layOut d.cwd c.rootDir (Scan.ofComponents d.cwd c.rootDir cs).kept.entries
        c.custom.entries)
      (withCustom (Scan.ofComponents d.cwd c.rootDir cs).kept c.custom.entries).entries := by
  have hfree : ∀ entry ∈ c.custom.entries, Slot.nameOf entry.1 ∉ [] := by simp
  refine stands_foldl_place d.cwd c.rootDir hplain c.custom.distinct hfree ?_
  rw [List.forall₂_map_left_iff, List.forall₂_same]
  exact fun component _ => Slot.stands_ofComponent component

/-- The matchers of a configuration that succeeds are those of its slots. -/
theorem matchersOf_of_isOk {cs : List Component}
    (hscan : scanDirs d c.rootDir c.extensions c.scanned = .ok cs)
    (hok : (r.configure d c).outcome.isOk = true) :
    (layOut d.cwd c.rootDir (Scan.ofComponents d.cwd c.rootDir cs).kept.entries
      c.custom.entries).mapM Slot.compile = .ok (matchersOf d c) := by
  unfold configure at hok
  unfold matchersOf
  rw [plan_of_scan hscan] at hok ⊢
  cases hcompile : (layOut d.cwd c.rootDir (Scan.ofComponents d.cwd c.rootDir cs).kept.entries
      c.custom.entries).mapM Slot.compile with
  | error e =>
      rw [hcompile] at hok
      exact absurd rfl (ne_error_of_isOk hok e)
  | ok ms => rfl

/-- The matchers of a configuration that succeeds answer with the custom entry of a tag, or else with
what the scan found. -/
theorem firstMatch_matchersOf (hplain : ∀ entry ∈ c.custom.entries, PlainEntry entry)
    (h : (r.configure d c).outcome.isOk = true) :
    ∃ cs, scanDirs d c.rootDir c.extensions c.scanned = .ok cs ∧ ∀ tag,
      firstMatch (matchersOf d c) tag =
        (c.custom.get? ("^" ++ tag ++ "$")).or (cs.lookup tag) := by
  obtain ⟨cs, hscan⟩ := scanned_of_isOk h
  refine ⟨cs, hscan, fun tag => ?_⟩
  obtain ⟨taken, hstands⟩ := stands_layOut (d := d) hplain cs
  rw [Slot.firstMatch_of_stands hstands (matchersOf_of_isOk hscan h), ← OrderedMap.get?,
    get?_withCustom hplain c.custom.distinct, Scan.get?_kept]
  rfl

/-- With plain custom entries a configuration succeeds when its scan does, unless a name is too long
for a pattern. -/
theorem configure_isOk (r : Registry) (hplain : ∀ entry ∈ c.custom.entries, PlainEntry entry)
    {cs : List Component} (hscan : scanDirs d c.rootDir c.extensions c.scanned = .ok cs)
    (hsize : ∀ entry ∈
        (withCustom (Scan.ofComponents d.cwd c.rootDir cs).kept c.custom.entries).entries,
      (Pattern.anchored entry.1.toList).bytes ≤ Pattern.sizeLimit) :
    (r.configure d c).outcome.isOk = true := by
  obtain ⟨taken, hstands⟩ := stands_layOut (d := d) hplain cs
  obtain ⟨ms, hms⟩ := Slot.exists_mapM_compile hstands hsize
  unfold configure plan
  simp only [hscan, hms]
  rfl

/-- So configured, a registry answers with the custom entry of a tag, or else with what the scan
found. -/
theorem resolve_configure (hplain : ∀ entry ∈ c.custom.entries, PlainEntry entry)
    (h : (r.configure d c).outcome.isOk = true) {cs : List Component}
    (hscan : scanDirs d c.rootDir c.extensions c.scanned = .ok cs) (tag : String) :
    ((r.configure d c).registry.resolve tag).1 =
      (c.custom.get? ("^" ++ tag ++ "$")).or (cs.lookup tag) := by
  obtain ⟨found, hfound, hfirst⟩ := firstMatch_matchersOf hplain h
  obtain rfl : cs = found := Except.ok.inj (hscan.symm.trans hfound)
  rw [(coherent_configure r d c).resolve_eq, configure_matchers, hfirst]

theorem or_eq_some_iff_standsFor {cs : List Component}
    (hscan : scanDirs d c.rootDir c.extensions c.scanned = .ok cs) (tag path : String) :
    (c.custom.get? ("^" ++ tag ++ "$")).or (cs.lookup tag) = some path ↔
      StandsFor d c tag path := by
  rw [Option.or_eq_some_iff, lookup_scanDirs hscan]
  constructor
  · rintro (hcustom | ⟨hnone, hfirst⟩)
    · exact .custom hcustom
    · exact .scanned hnone hfirst
  · intro hstands
    cases hstands with
    | custom hcustom => exact .inl hcustom
    | scanned hnone hfirst => exact .inr ⟨hnone, hfirst⟩

/--
**What a configured registry answers.**  Say a configuration whose custom entries are
plain succeeds.  Then, whatever the registry was before and whatever it was asked
since, it answers a tag with a path exactly when the tag stands for that path: it is
the value of the custom entry of the tag, or there is no such entry and it is what the
first of the scanned directories that provides the tag has for it.
-/
theorem resolve_eq_some_iff_standsFor (r : Registry) (d : Disk) (c : ScanConfig)
    (hplain : ∀ entry ∈ c.custom.entries, PlainEntry entry)
    (h : (r.configure d c).outcome.isOk = true) (asked : List String) (tag path : String) :
    (((r.configure d c).registry.run (asked.map .resolve)).resolve tag).1 = some path ↔
      StandsFor d c tag path := by
  obtain ⟨cs, hscan, hfirst⟩ := firstMatch_matchersOf hplain h
  rw [resolve_asked, hfirst]
  exact or_eq_some_iff_standsFor hscan tag path

/-! ### A name with a meaning as a pattern -/

/-- A directory with one component. -/
def sampleDisk : Disk :=
  ⟨⟨[([Utf8.encode "lib"], .directory),
      ([Utf8.encode "lib", Utf8.encode "a+b"], .directory),
      ([Utf8.encode "lib", Utf8.encode "a+b", Utf8.encode "a+b.vue"], .file [])],
    by decide⟩, none⟩

/-- The directory is scanned, and there is a custom entry besides. -/
def sampleConfig : ScanConfig where
  dirs := [.ofText "/lib"]
  rootDir := .ofText "/"
  extensions := [".vue"]
  autoscan := false
  custom := ⟨[("^my-tag$", "tag.vue")], by decide⟩

theorem plain_sampleConfig : ∀ entry ∈ sampleConfig.custom.entries, PlainEntry entry := by
  intro entry hentry
  have hall : "my-tag".toList.all (fun c => !Pattern.isSyntax c) = true := by decide
  rw [List.mem_singleton.mp hentry]
  refine ⟨⟨"my-tag", by decide, fun c hc => ?_⟩, by decide, by decide⟩
  simpa using List.all_eq_true.mp hall c hc

/-- What the scan finds. -/
def sampleFound : List Component := [("a+b", "/lib/a+b/a+b.vue")]

theorem isOk_sampleConfig : (new.configure sampleDisk sampleConfig).outcome.isOk = true := by
  have hscan : scanDirs sampleDisk sampleConfig.rootDir sampleConfig.extensions
      sampleConfig.scanned = .ok sampleFound := by cbv
  refine configure_isOk new plain_sampleConfig hscan ?_
  show ∀ entry ∈ [("a+b", "/lib/a+b/a+b.vue"), ("my-tag", "tag.vue")], _
  decide

theorem sample_provides : Provides sampleDisk sampleConfig.rootDir sampleConfig.extensions
    (.ofText "/lib") "a+b" "/lib/a+b/a+b.vue" :=
  ⟨[Utf8.encode "lib"], ".vue", by cbv, by decide,
    ⟨⟨Utf8.encode "a+b.vue", .file [], by decide, by cbv⟩, [], [], by decide, by simp⟩, by cbv⟩

/-- A folder whose name is no pattern for itself is found by its name. -/
theorem sample_resolves :
    (((new.configure sampleDisk sampleConfig).registry.run (["ab"].map .resolve)).resolve
      "a+b").1 = some "/lib/a+b/a+b.vue" :=
  (resolve_eq_some_iff_standsFor new sampleDisk sampleConfig plain_sampleConfig
    isOk_sampleConfig ["ab"] "a+b" "/lib/a+b/a+b.vue").mpr
      (.scanned (by decide) (.here sample_provides))

end AppBuild.Registry
