/-
What one custom entry does to the components beside it.

A custom entry whose key is the bare name of a scanned component takes the place of
that component among the matchers.  Its pattern has no anchors, so it matches each tag
that holds the name, wherever in it.  What comes before it among the matchers is not
reached by that, and neither is a tag that does not hold the name.  The other tags that
are scanned components get what the entry makes of them (`Spared`, `overridden`).

The matchers stand in the order in which the names were found, so which components are
before the entry can be said of the scan (`idxOf_ranked_lt_iff`).  Without the entry
they all have their own paths: the name that it is for is short, for a folder has it.
-/
import Mathlib
import AppBuild.Proofs.Component.Conflicts
import AppBuild.Proofs.Pattern.Word
import AppBuild.Proofs.Registry.Resolution

namespace AppBuild

/-! ### Names of folders are short -/

/-- A folder that could be listed has a name short enough. -/
theorem Disk.length_le_of_entries {d : Disk} {dir : Path} {at_ : Location} {name : FileName}
    (hlocate : d.locate dir = .ok (some (at_, .directory)))
    (hget : d.tree.get? (at_ ++ [name]) = some .directory) {entries : List (FileName × Entry)}
    (hentries : d.entries (dir.join ⟨name⟩) = .ok entries) : name.length ≤ nameLimit := by
  obtain ⟨hdir, links, -, hjoin⟩ := locate_join hlocate
  have hname : IsName name := Tree.isName_of_get? hget
  refine Nat.le_of_not_lt fun hlong => ?_
  have hfault : d.locate (dir.join ⟨name⟩) = .error .nameTooLong := by
    rw [hjoin ⟨name⟩ (Path.isBelow_name hname), Path.parts_name hname,
      Tree.walk_name hdir hname hget, if_pos hlong, ite_self]
  simp [Disk.entries, Disk.list, hfault, bind, Except.bind] at hentries

section

variable {d : Disk} {rootDir dir : Path} {extensions : List String}

theorem length_le_of_mem_scanDir {cs : List Component}
    (h : scanDir d rootDir extensions dir = .ok cs) {c : Component} (hc : c ∈ cs) :
    (Utf8.encode c.1).length ≤ nameLimit := by
  obtain ⟨at_, ext, hlocate, hfolder, -, -⟩ := (mem_scanDir h c.1 c.2).mp hc
  obtain ⟨entries, hentries⟩ := entries_of_scanDir h hlocate hfolder
  exact Disk.length_le_of_entries hlocate hfolder hentries

/-- What a scan finds has short names. -/
theorem length_le_of_mem_scanDirs {dirs : List Path} {cs : List Component}
    (h : scanDirs d rootDir extensions dirs = .ok cs) {c : Component} (hc : c ∈ cs) :
    (Utf8.encode c.1).length ≤ nameLimit := by
  induction dirs generalizing cs with
  | nil =>
      rw [← Except.ok.inj h] at hc
      exact absurd hc (by simp)
  | cons dir dirs ih =>
      obtain ⟨here, later, hhere, hlater, rfl⟩ := parts_of_scanDirs h
      rcases List.mem_append.mp hc with hc | hc
      · exact length_le_of_mem_scanDir hhere hc
      · exact ih hlater hc

end

/-- A short name makes a small pattern. -/
theorem Pattern.bytes_anchored_le {name : String} (h : (Utf8.encode name).length ≤ nameLimit) :
    (anchored name.toList).bytes ≤ sizeLimit := by
  have hsize : (String.ofList name.toList).utf8ByteSize = (Utf8.encode name).length := by
    unfold String.utf8ByteSize String.ofList List.utf8Encode Utf8.encode
    rw [List.size_toByteArray]
  have hbytes : (anchored name.toList).bytes ≤ 32 * (Utf8.encode name).length + 96 := by
    rw [← hsize]
    unfold anchored anchoredParts
    split
    · simp [Node.sequence, Node.bytes]
    · simp [Node.sequence, Node.bytes]
      omega
  unfold nameLimit at h
  unfold sizeLimit
  omega

/-! ### The order of names -/

theorem mem_map_ranked_zero {name : String} {cs : List Component} :
    name ∈ (ranked 0 cs).map Prod.fst ↔ name ∈ cs.map Prod.fst := by
  rw [mem_map_ranked, List.length_pos_iff_exists_mem, List.mem_map]
  constructor
  · rintro ⟨c, hc⟩
    exact ⟨c, mem_of_mem_ofName hc⟩
  · rintro ⟨c, hc, hname⟩
    exact ⟨c, by simpa [ofName, hname] using hc⟩

/-- What is put at the end of a list does not change which of two elements comes first, if one of
them was there before. -/
theorem idxOf_append_lt_iff {α : Type} [DecidableEq α] {a b : α} {l : List α}
    (h : a ∈ l ∨ b ∈ l) (more : List α) :
    (l ++ more).idxOf a < (l ++ more).idxOf b ↔ l.idxOf a < l.idxOf b := by
  have hin : ∀ {x}, x ∈ l → (l ++ more).idxOf x = l.idxOf x ∧ l.idxOf x < l.length :=
    fun hx => ⟨List.idxOf_append_of_mem hx, List.idxOf_lt_length_of_mem hx⟩
  have hout : ∀ {x}, x ∉ l →
      (l ++ more).idxOf x = l.length + more.idxOf x ∧ l.idxOf x = l.length :=
    fun hx => ⟨List.idxOf_append_of_notMem hx, List.idxOf_eq_length hx⟩
  by_cases ha : a ∈ l
  · have hina := hin ha
    by_cases hb : b ∈ l
    · rw [hina.1, (hin hb).1]
    · have houtb := hout hb
      omega
  · have hinb := hin (h.resolve_left ha)
    have houta := hout ha
    omega

/-- Around an entry, what is not found before it stands after it. -/
theorem idxOf_lt_iff_of_parts {before after : List Component} {name other path : String}
    (hfree : name ∉ before.map Prod.fst) (hne : other ≠ name) :
    ((before ++ (name, path) :: after).map Prod.fst).idxOf name <
        ((before ++ (name, path) :: after).map Prod.fst).idxOf other ↔
      before.lookup other = none := by
  rw [List.map_append, List.map_cons, List.idxOf_append_of_notMem hfree, List.idxOf_cons_self,
    OrderedMap.lookup_eq_none_iff_not_mem]
  by_cases hin : other ∈ before.map Prod.fst
  · have hlt := List.idxOf_lt_length_of_mem hin
    rw [List.idxOf_append_of_mem hin]
    exact ⟨fun hafter => by omega, fun hnot => absurd hin hnot⟩
  · rw [List.idxOf_append_of_notMem hin, List.idxOf_cons_ne _ (Ne.symm hne)]
    exact ⟨fun _ => hin, fun _ => by omega⟩

/-- **Names are kept in the order in which they were found.** -/
theorem idxOf_ranked_lt_iff (name other : String) (cs : List Component) :
    ((ranked 0 cs).map Prod.fst).idxOf name < ((ranked 0 cs).map Prod.fst).idxOf other ↔
      (cs.map Prod.fst).idxOf name < (cs.map Prod.fst).idxOf other := by
  induction cs using List.reverseRecOn with
  | nil => rfl
  | append_singleton cs c ih =>
      rw [ranked_concat, List.map_append, List.map_append, List.map_singleton]
      by_cases hseen : name ∈ cs.map Prod.fst ∨ other ∈ cs.map Prod.fst
      · have hkept : name ∈ (ranked 0 cs).map Prod.fst ∨ other ∈ (ranked 0 cs).map Prod.fst := by
          rwa [mem_map_ranked_zero, mem_map_ranked_zero]
        rw [idxOf_append_lt_iff hseen, idxOf_append_lt_iff hkept, ih]
      · rw [not_or] at hseen
        obtain ⟨hname, hother⟩ := hseen
        rw [List.idxOf_append_of_notMem hname, List.idxOf_append_of_notMem hother,
          List.idxOf_append_of_notMem (mt mem_map_ranked_zero.mp hname),
          List.idxOf_append_of_notMem (mt mem_map_ranked_zero.mp hother),
          Nat.add_lt_add_iff_left, Nat.add_lt_add_iff_left]
        split
        · rfl
        · next hrank =>
            -- The candidate is none of the two, since its name was there before.
            have hc : c.1 ∈ cs.map Prod.fst := by
              rw [← mem_map_ranked_zero, mem_map_ranked]
              omega
            have hname : name ≠ c.1 := fun h => hname (h ▸ hc)
            have hother : other ≠ c.1 := fun h => hother (h ▸ hc)
            simp [Ne.symm hname, Ne.symm hother]

/-! ### The matchers around an entry -/

theorem firstMatch_append (ms ms' : List Matcher) (tag : String) :
    firstMatch (ms ++ ms') tag = (firstMatch ms tag).or (firstMatch ms' tag) := by
  unfold firstMatch
  rw [List.find?_append]
  cases ms.find? (·.test tag) <;> rfl

namespace Slot

/-- The slot of an entry stands where the component that it names stood. -/
theorem place_among {name path : String} {before : List Component}
    (h : name ∉ before.map Prod.fst) (slot : Slot) (after : List Component) :
    place name slot ((before ++ (name, path) :: after).map ofComponent) =
      before.map ofComponent ++ slot :: after.map ofComponent := by
  induction before with
  | nil => simp [place, ofComponent]
  | cons c before ih =>
      rw [List.map_cons, List.mem_cons, not_or] at h
      have hother : (ofComponent c).scanned ≠ some name := by
        simpa [ofComponent] using Ne.symm h.1
      rw [List.cons_append, List.map_cons, place, if_neg hother, ih h.2]
      rfl

theorem firstMatch_ofComponents {cs : List Component} {ms : List Matcher}
    (h : (cs.map ofComponent).mapM compile = .ok ms) (tag : String) :
    firstMatch ms tag = cs.lookup tag := by
  have hstands : List.Forall₂ (Stands []) (cs.map ofComponent) cs := by
    rw [List.forall₂_map_left_iff, List.forall₂_same]
    exact fun c _ => stands_ofComponent c
  exact firstMatch_of_stands hstands h tag

/-- A name without a meaning as a pattern is no text between anchors. -/
theorem nameOf_plain {name : String} (h : ∀ c ∈ name.toList, Pattern.isSyntax c = false) :
    nameOf name = name := by
  unfold nameOf
  split
  · next rest hname =>
      have hanchor := h '^' (by rw [hname]; simp)
      exact absurd hanchor (by decide)
  · rfl

/-- The matcher of an entry whose key is a plain name. -/
theorem compile_ofCustom_plain {name : String}
    (h : ∀ c ∈ name.toList, Pattern.isSyntax c = false) {cwd : Option Path} {rootDir : Path}
    {value : String} {m : Matcher} (hm : (ofCustom cwd rootDir (name, value)).compile = .ok m) :
    m.pattern.node = Pattern.plain name.toList ∧
      m.replacement = .parse (customPath cwd rootDir value) 0 := by
  have hgroups : (Pattern.plain name.toList).groups = 0 := by
    unfold Pattern.plain Pattern.plainParts
    split <;> rfl
  have hpattern := Pattern.compile_plain (spells_plain h)
  unfold compile at hm
  split at hm
  · exact absurd hm (by simp)
  · next pattern hcompile =>
      have hcompile : Pattern.compile name = .ok pattern := hcompile
      rw [hpattern] at hcompile
      split at hcompile
      · rw [← Except.ok.inj hm, ← Except.ok.inj hcompile]
        exact ⟨rfl, congrArg (Replacement.parse (customPath cwd rootDir value)) hgroups⟩
      · exact absurd hcompile (by simp)

end Slot

namespace Registry

variable {d : Disk} {c : ScanConfig} {r : Registry} {name value : String} {cs : List Component}

/-- The one custom entry has a plain name for its key. -/
structure Overrides (c : ScanConfig) (name value : String) : Prop where
  only : c.custom.entries = [(name, value)]
  plain : ∀ ch ∈ name.toList, Pattern.isSyntax ch = false

/-- What an entry makes of a tag that has its name between two texts. -/
def overridden (cwd : Option Path) (rootDir : Path) (name value : String)
    (before after : List Char) : String :=
  String.ofList (before ++
    (Replacement.parse (Slot.customPath cwd rootDir value) 0).expand
      ⟨before.length, before.length + name.toList.length, []⟩ (before ++ name.toList ++ after) ++
    after)

/-- Without dollar signs and alias the name is replaced by the value as it is. -/
theorem overridden_of_unaliased (cwd : Option Path) (rootDir : Path) (name : String)
    (hvalue : '$' ∉ value.toList) (hunaliased : ¬ ['@', '/'] <+: value.toList)
    (before after : List Char) :
    overridden cwd rootDir name value before after =
      String.ofList (before ++ value.toList ++ after) := by
  unfold overridden
  rw [Slot.customPath_of_unaliased cwd rootDir hunaliased, Replacement.expand_parse hvalue]

/-- A matcher of a plain name matches no tag that does not hold it. -/
theorem test_plain_eq_false {m : Matcher} (hnode : m.pattern.node = Pattern.plain name.toList)
    {tag : String} (hnot : ¬ name.toList <:+: tag.toList) : m.test tag = false := by
  unfold Matcher.test Pattern.test Pattern.find?
  rw [hnode, (Pattern.find?_plain_eq_none_iff _ _).mpr hnot]
  rfl

/-- What a matcher of a plain name answers. -/
theorem answer_plain {m : Matcher} (hnode : m.pattern.node = Pattern.plain name.toList)
    (hreplacement : m.replacement = .parse (Slot.customPath d.cwd c.rootDir value) 0)
    {tag : String} {before after : List Char}
    (h : Pattern.StandsFirst name.toList before after tag.toList) :
    m.test tag = true ∧ m.apply tag = overridden d.cwd c.rootDir name value before after := by
  have hfind : m.pattern.find? tag.toList
      = some ⟨before.length, before.length + name.toList.length, []⟩ := by
    unfold Pattern.find?
    rw [hnode]
    exact Pattern.find?_plain_eq_some h
  constructor
  · unfold Matcher.test Pattern.test
    rw [hfind]
    rfl
  · have htake : tag.toList.take before.length = before := by
      rw [h.split, List.append_assoc, List.take_left]
    have hdrop : tag.toList.drop (before.length + name.toList.length) = after := by
      rw [h.split, ← List.length_append, List.drop_left]
    unfold Matcher.apply overridden
    simp only [hfind, hreplacement, htake, hdrop]
    rw [h.split]

/-- **What is answered around an entry.**  The components before the entry come first, then all tags
that hold its name, then the components after it. -/
theorem firstMatch_overrides (hover : Overrides c name value)
    (hscan : scanDirs d c.rootDir c.extensions c.scanned = .ok cs)
    (hok : (r.configure d c).outcome.isOk = true) {before after : List Component} {path : String}
    (hkept : ranked 0 cs = before ++ (name, path) :: after) (hfree : name ∉ before.map Prod.fst)
    (tag : String) :
    (¬ name.toList <:+: tag.toList →
      firstMatch (matchersOf d c) tag = (before.lookup tag).or (after.lookup tag)) ∧
    (∀ left right, Pattern.StandsFirst name.toList left right tag.toList →
      firstMatch (matchersOf d c) tag =
        (before.lookup tag).or (some (overridden d.cwd c.rootDir name value left right))) := by
  have hentries : (Scan.ofComponents d.cwd c.rootDir cs).kept.entries
      = before ++ (name, path) :: after := by
    rw [(Scan.accounts_ofComponents (pathsTellNames_scanDirs hscan)).kept, hkept]
  have hcompiled := matchersOf_of_isOk hscan hok
  unfold layOut at hcompiled
  rw [hentries, hover.only, List.foldl_cons, List.foldl_nil, Slot.nameOf_plain hover.plain,
    Slot.place_among hfree, List.mapM_append] at hcompiled
  obtain ⟨ms, hms, hcompiled⟩ := parts_of_bind hcompiled
  obtain ⟨ms', hms', hcompiled⟩ := parts_of_bind hcompiled
  rw [List.mapM_cons] at hms'
  obtain ⟨m, hm, hms'⟩ := parts_of_bind hms'
  obtain ⟨later, hlater, hms'⟩ := parts_of_bind hms'
  have hall : matchersOf d c = ms ++ m :: later := by
    rw [← Except.ok.inj hcompiled, ← Except.ok.inj hms']
  obtain ⟨hnode, hreplacement⟩ := Slot.compile_ofCustom_plain hover.plain hm
  rw [hall, firstMatch_append, Slot.firstMatch_ofComponents hms]
  constructor
  · intro hnot
    rw [← Slot.firstMatch_ofComponents hlater]
    unfold firstMatch
    rw [List.find?_cons, test_plain_eq_false hnode hnot]
  · intro left right hfirst
    obtain ⟨htest, happly⟩ := answer_plain (d := d) (c := c) hnode hreplacement hfirst
    unfold firstMatch
    rw [List.find?_cons, htest, Option.map_some, happly]

/-- With no custom entries every component that the scan found has its path. -/
theorem resolve_uncustomized (r : Registry)
    (hscan : scanDirs d c.rootDir c.extensions c.scanned = .ok cs) (tag : String) :
    ((r.configure d { c with custom := .empty }).registry.resolve tag).1 = cs.lookup tag := by
  have hplain : ∀ entry ∈ (OrderedMap.empty : OrderedMap String String).entries,
      PlainEntry entry := fun entry hentry => absurd hentry (by simp [OrderedMap.empty])
  have hok : (r.configure d { c with custom := .empty }).outcome.isOk = true := by
    refine configure_isOk r hplain hscan fun entry hentry => ?_
    have hkept : entry ∈ ranked 0 cs := by
      rw [← (Scan.accounts_ofComponents (pathsTellNames_scanDirs hscan)).kept]
      exact hentry
    obtain ⟨found, hfound, hname⟩ :=
      List.mem_map.mp (mem_map_ranked_zero.mp (List.mem_map_of_mem hkept))
    rw [← hname]
    exact Pattern.bytes_anchored_le (length_le_of_mem_scanDirs hscan hfound)
  exact resolve_configure hplain hok hscan tag

/--
**A bare name overrides what comes after it and holds it.**  With one custom entry whose
key is the plain name of a scanned component, any other scanned component has its path,
as it has with no custom entry, unless the name was found before it and is a part of its
name.  Then the first place where the name stands in it is replaced by what the value
of the entry comes to.
-/
theorem resolve_beside_override (r : Registry) (d : Disk) (c : ScanConfig) {name value : String}
    (hover : Overrides c name value) (hok : (r.configure d c).outcome.isOk = true)
    {cs : List Component} (hscan : scanDirs d c.rootDir c.extensions c.scanned = .ok cs)
    (hname : name ∈ cs.map Prod.fst) {other path : String} (hne : other ≠ name)
    (hother : cs.lookup other = some path) :
    ((r.configure d { c with custom := .empty }).registry.resolve other).1 = some path ∧
    (¬ ((cs.map Prod.fst).idxOf name < (cs.map Prod.fst).idxOf other ∧
        name.toList <:+: other.toList) →
      ((r.configure d c).registry.resolve other).1 = some path) ∧
    ((cs.map Prod.fst).idxOf name < (cs.map Prod.fst).idxOf other →
      ∀ before after, Pattern.StandsFirst name.toList before after other.toList →
        ((r.configure d c).registry.resolve other).1 =
          some (overridden d.cwd c.rootDir name value before after)) := by
  obtain ⟨⟨name', kept⟩, hmem, hsame⟩ := List.mem_map.mp (mem_map_ranked_zero.mpr hname)
  obtain rfl : name' = name := hsame
  obtain ⟨before, after, hkept⟩ := List.append_of_mem hmem
  have hdistinct := nodup_map_ranked 0 cs
  rw [hkept, List.map_append, List.map_cons, List.nodup_append] at hdistinct
  have hfree : name' ∉ before.map Prod.fst := fun hbefore =>
    hdistinct.2.2 name' hbefore name' (by simp) rfl
  have hlookup : (before.lookup other).or (after.lookup other) = some path := by
    have hbeq : (other == name') = false := by simpa using hne
    rw [← hother, ← lookup_ranked_zero other cs, hkept, List.lookup_append, List.lookup_cons, hbeq]
  -- Those before the entry are those that were found before it.
  have hbefore : (cs.map Prod.fst).idxOf name' < (cs.map Prod.fst).idxOf other ↔
      before.lookup other = none := by
    rw [← idxOf_ranked_lt_iff, hkept, idxOf_lt_iff_of_parts hfree hne]
  have hresolve : ((r.configure d c).registry.resolve other).1
      = firstMatch (matchersOf d c) other := by
    rw [(coherent_configure r d c).answer_eq (asked_resolve _ other), configure_matchers]
  obtain ⟨hwithout, hwith⟩ := firstMatch_overrides hover hscan hok hkept hfree other
  refine ⟨by rw [resolve_uncustomized r hscan, hother], fun hspared => ?_,
    fun hfirst left right hstands => ?_⟩
  · rw [hresolve]
    by_cases hholds : name'.toList <:+: other.toList
    · -- The component is before the entry, so the entry is not asked.
      obtain ⟨left, right, hstands⟩ := Pattern.exists_standsFirst hholds
      rw [hwith left right hstands]
      cases hown : before.lookup other with
      | none => exact absurd ⟨hbefore.mpr hown, hholds⟩ hspared
      | some own =>
          rw [hown, Option.some_or] at hlookup
          rw [Option.some_or, hlookup]
    · rw [hwithout hholds, hlookup]
  · rw [hresolve, hwith left right hstands, hbefore.mp hfirst, Option.none_or]

/-! ### A name within two others -/

/-- A directory with three components, each with the name of the second in its own. -/
def nestedDisk : Disk :=
  let component (name : String) : List (Location × Entry) :=
    [([Utf8.encode "lib", Utf8.encode name], .directory),
      ([Utf8.encode "lib", Utf8.encode name, Utf8.encode (name ++ ".vue")], .file [])]
  ⟨⟨([Utf8.encode "lib"], .directory) ::
      component "AFoo" ++ component "Foo" ++ component "FooBar", by decide⟩, none⟩

/-- The directory is scanned, and one entry overrides the second component. -/
def nestedConfig : ScanConfig where
  dirs := [.ofText "/lib"]
  rootDir := .ofText "/"
  extensions := [".vue"]
  autoscan := true
  custom := ⟨[("Foo", "foo.vue")], by decide⟩

/-- What the scan finds. -/
def nestedFound : List Component :=
  [("AFoo", "/lib/AFoo/AFoo.vue"), ("Foo", "/lib/Foo/Foo.vue"),
    ("FooBar", "/lib/FooBar/FooBar.vue")]

theorem scanDirs_nested : scanDirs nestedDisk nestedConfig.rootDir nestedConfig.extensions
    nestedConfig.scanned = .ok nestedFound := by cbv

theorem overrides_nested : Overrides nestedConfig "Foo" "foo.vue" := by
  refine ⟨rfl, fun ch hch => ?_⟩
  have hall : "Foo".toList.all (fun ch => !Pattern.isSyntax ch) = true := by decide
  simpa using List.all_eq_true.mp hall ch hch

theorem isOk_nested : (new.configure nestedDisk nestedConfig).outcome.isOk = true := by
  unfold configure
  rw [plan_of_scan scanDirs_nested]
  decide +kernel

/-- The component before the entry keeps its path, the one after it does not. -/
theorem nested_resolves :
    ((new.configure nestedDisk nestedConfig).registry.resolve "AFoo").1
      = some "/lib/AFoo/AFoo.vue" ∧
    ((new.configure nestedDisk nestedConfig).registry.resolve "FooBar").1
      = some "foo.vueBar" := by
  have hname : "Foo" ∈ nestedFound.map Prod.fst := by decide
  have hstands : Pattern.StandsFirst "Foo".toList [] "Bar".toList "FooBar".toList :=
    ⟨by decide, fun _ _ _ => Nat.zero_le _⟩
  obtain ⟨-, hspared, -⟩ := resolve_beside_override new nestedDisk nestedConfig overrides_nested
    isOk_nested scanDirs_nested hname (by decide : "AFoo" ≠ "Foo") rfl
  obtain ⟨-, -, hreached⟩ := resolve_beside_override new nestedDisk nestedConfig overrides_nested
    isOk_nested scanDirs_nested hname (by decide : "FooBar" ≠ "Foo") rfl
  refine ⟨hspared (fun hfirst => absurd hfirst.1 (by decide)), ?_⟩
  rw [hreached (by decide) _ _ hstands]
  decide +kernel

/-- **An override reaches another component**: it has its path without the entry, and with it not,
although neither name has a meaning as a pattern. -/
theorem override_reaches_beside :
    nestedConfig.custom.entries = [("Foo", "foo.vue")] ∧
    scanDirs nestedDisk nestedConfig.rootDir nestedConfig.extensions nestedConfig.scanned
      = .ok nestedFound ∧
    (nestedFound.all fun c => c.1.toList.all fun ch => !Pattern.isSyntax ch) = true ∧
    (new.configure nestedDisk nestedConfig).outcome.isOk = true ∧
    nestedFound.lookup "FooBar" = some "/lib/FooBar/FooBar.vue" ∧
    ((new.configure nestedDisk nestedConfig).registry.resolve "FooBar").1
      ≠ some "/lib/FooBar/FooBar.vue" := by
  refine ⟨rfl, scanDirs_nested, by decide, isOk_nested, by decide, ?_⟩
  unfold configure
  rw [plan_of_scan scanDirs_nested]
  decide +kernel

end Registry
end AppBuild
