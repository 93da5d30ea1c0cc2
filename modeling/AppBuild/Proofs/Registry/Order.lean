/-
In which order the matchers stand.

Custom entries are laid out one after the other, each in a list that the earlier ones
have changed already: the first that is for a scanned name takes the place of that
component, and one that comes later for the same name finds the place taken and is put
at the end.  The outcome can be said without the way there (`layOut_eq`).  For each
component there is the first entry for its name, or else its own slot, in the order of
the scan; then come the entries that are the first for no component, in their own order.

The argument goes along the entries from the last one.  What an entry finds is told by
the entries before it: a slot is marked as scanned exactly when none of them is for its
name, so there are only two cases, an entry that takes a place (`place_slotFor`) and one
that finds none (`place_of_unmarked`).

Of the slots a registry shows the patterns (`configure_patterns`).
-/
import Mathlib
import AppBuild.Proofs.Registry.Override

namespace AppBuild

/-! ### Custom entries and what they are for -/

section

variable {custom : List (String × String)} {kept : List Component} {entry : String × String}
variable {name : String}

/-- The first custom entry for a name. -/
def entryFor? (custom : List (String × String)) (name : String) : Option (String × String) :=
  custom.find? fun entry => Slot.nameOf entry.1 = name

/-- The slot at the place of a component. -/
def slotFor (cwd : Option Path) (rootDir : Path) (custom : List (String × String))
    (c : Component) : Slot :=
  match entryFor? custom c.1 with
  | some entry => .ofCustom cwd rootDir entry
  | none => .ofComponent c

/-- The custom entries that are the first for no component. -/
def extraEntries (kept : List Component) (custom : List (String × String)) :
    List (String × String) :=
  custom.filter fun entry => ∀ c ∈ kept, entryFor? custom c.1 ≠ some entry

theorem mem_of_entryFor? (h : entryFor? custom name = some entry) :
    entry ∈ custom ∧ Slot.nameOf entry.1 = name :=
  ⟨List.mem_of_find?_eq_some h, by simpa using List.find?_some h⟩

theorem entryFor?_concat (custom : List (String × String)) (entry : String × String)
    (name : String) :
    entryFor? (custom ++ [entry]) name =
      (entryFor? custom name).or (if Slot.nameOf entry.1 = name then some entry else none) := by
  unfold entryFor?
  rw [List.find?_append, List.find?_singleton]
  simp only [decide_eq_true_eq]

/-- An entry changes nothing for other names, nor for its own if that has an entry already. -/
theorem entryFor?_concat_of_not (h : Slot.nameOf entry.1 = name → entryFor? custom name ≠ none) :
    entryFor? (custom ++ [entry]) name = entryFor? custom name := by
  rw [entryFor?_concat]
  cases hfirst : entryFor? custom name with
  | some first => rfl
  | none => rw [if_neg fun hname => h hname hfirst, Option.none_or]

theorem slotFor_concat_of_not {cwd : Option Path} {rootDir : Path} {c : Component}
    (h : Slot.nameOf entry.1 = c.1 → entryFor? custom c.1 ≠ none) :
    slotFor cwd rootDir (custom ++ [entry]) c = slotFor cwd rootDir custom c := by
  unfold slotFor
  rw [entryFor?_concat_of_not h]

/-- A slot is marked with the name of its component until an entry is for it. -/
theorem scanned_slotFor (cwd : Option Path) (rootDir : Path) (custom : List (String × String))
    (c : Component) :
    (slotFor cwd rootDir custom c).scanned =
      if entryFor? custom c.1 = none then some c.1 else none := by
  unfold slotFor
  cases entryFor? custom c.1 <;> rfl

/-! ### One entry more -/

namespace Slot

/-- Where no slot is marked with the name, the entry is put at the end. -/
theorem place_of_unmarked {slots : List Slot} (h : ∀ s ∈ slots, s.scanned ≠ some name)
    (slot : Slot) : place name slot slots = slots ++ [slot] := by
  induction slots with
  | nil => rfl
  | cons s slots ih =>
      rw [place, if_neg (h s (by simp)), ih fun other hother => h other (by simp [hother])]
      rfl

/-- The first entry for a component takes its place, and all other slots stay. -/
theorem place_slotFor (cwd : Option Path) (rootDir : Path) (hkept : (kept.map Prod.fst).Nodup)
    (hmem : nameOf entry.1 ∈ kept.map Prod.fst)
    (hfree : entryFor? custom (nameOf entry.1) = none) (more : List Slot) :
    place (nameOf entry.1) (ofCustom cwd rootDir entry)
        (kept.map (slotFor cwd rootDir custom) ++ more) =
      kept.map (slotFor cwd rootDir (custom ++ [entry])) ++ more := by
  induction kept with
  | nil => exact absurd hmem (by simp)
  | cons c kept ih =>
      rw [List.map_cons, List.nodup_cons] at hkept
      rw [List.map_cons, List.map_cons, List.cons_append, List.cons_append, place,
        scanned_slotFor]
      by_cases hname : nameOf entry.1 = c.1
      · -- This is the component, and no other has its name.
        have hother : ∀ other ∈ kept, slotFor cwd rootDir (custom ++ [entry]) other
            = slotFor cwd rootDir custom other := by
          intro other hother
          refine slotFor_concat_of_not fun hsame => absurd ?_ hkept.1
          rw [← hname, hsame]
          exact List.mem_map_of_mem hother
        have hown : slotFor cwd rootDir (custom ++ [entry]) c = ofCustom cwd rootDir entry := by
          unfold slotFor
          rw [entryFor?_concat, if_pos hname, ← hname, hfree]
          rfl
        rw [← hname, hfree, if_pos rfl, if_pos rfl, hown, List.map_congr_left hother]
      · have hunmarked : (if entryFor? custom c.1 = none then some c.1 else none)
            ≠ some (nameOf entry.1) := by
          split
          · simpa using Ne.symm hname
          · simp
        rw [List.map_cons, List.mem_cons] at hmem
        rw [if_neg hunmarked, ih hkept.2 (hmem.resolve_left hname),
          slotFor_concat_of_not fun hsame => absurd hsame hname]

end Slot

/-- An entry that takes a place is the first for a component. -/
theorem extraEntries_concat_of_free (hmem : Slot.nameOf entry.1 ∈ kept.map Prod.fst)
    (hfree : entryFor? custom (Slot.nameOf entry.1) = none) (hnew : entry ∉ custom) :
    extraEntries kept (custom ++ [entry]) = extraEntries kept custom := by
  obtain ⟨c, hc, hname⟩ := List.mem_map.mp hmem
  have hfirst : entryFor? (custom ++ [entry]) c.1 = some entry := by
    rw [entryFor?_concat, hname, hfree, if_pos rfl]
    rfl
  have hout : decide (∀ c ∈ kept, entryFor? (custom ++ [entry]) c.1 ≠ some entry) = false :=
    decide_eq_false fun hall => hall c hc hfirst
  unfold extraEntries
  rw [List.filter_append, List.filter_singleton, hout, cond_false, List.append_nil]
  refine List.filter_congr fun e he => ?_
  have hne : entry ≠ e := fun heq => hnew (heq ▸ he)
  simp only [decide_eq_decide]
  refine forall₂_congr fun other _ => not_congr ?_
  rw [entryFor?_concat]
  cases entryFor? custom other.1 with
  | some first => rfl
  | none =>
      rw [Option.none_or]
      split <;> simp [hne]

/-- An entry that takes no place stands at the end. -/
theorem extraEntries_concat_of_not
    (h : ∀ c ∈ kept, Slot.nameOf entry.1 = c.1 → entryFor? custom c.1 ≠ none)
    (hnew : entry ∉ custom) :
    extraEntries kept (custom ++ [entry]) = extraEntries kept custom ++ [entry] := by
  have hsame : ∀ c ∈ kept, entryFor? (custom ++ [entry]) c.1 = entryFor? custom c.1 :=
    fun c hc => entryFor?_concat_of_not (h c hc)
  have hfilter : ∀ e : String × String,
      (∀ c ∈ kept, entryFor? (custom ++ [entry]) c.1 ≠ some e) ↔
        ∀ c ∈ kept, entryFor? custom c.1 ≠ some e := fun e =>
    forall₂_congr fun c hc => by rw [hsame c hc]
  have hin : decide (∀ c ∈ kept, entryFor? custom c.1 ≠ some entry) = true :=
    decide_eq_true fun c _ hfirst => hnew (mem_of_entryFor? hfirst).1
  unfold extraEntries
  simp only [hfilter]
  rw [List.filter_append, List.filter_singleton, hin, cond_true]

/-! ### All entries -/

/-- The last entry is put in where the others are laid out already. -/
theorem layOut_concat (cwd : Option Path) (rootDir : Path) (kept : List Component)
    (custom : List (String × String)) (entry : String × String) :
    layOut cwd rootDir kept (custom ++ [entry]) =
      Slot.place (Slot.nameOf entry.1) (.ofCustom cwd rootDir entry)
        (layOut cwd rootDir kept custom) :=
  List.foldl_append

/-- **How entries are laid out.**  Each component has the slot of the first entry for its name, or
else its own; the entries that are the first for none of them come after. -/
theorem layOut_eq (cwd : Option Path) (rootDir : Path) (hkept : (kept.map Prod.fst).Nodup)
    (hcustom : custom.Nodup) :
    layOut cwd rootDir kept custom =
      kept.map (slotFor cwd rootDir custom) ++
        (extraEntries kept custom).map (Slot.ofCustom cwd rootDir) := by
  induction custom using List.reverseRecOn with
  | nil => simp [layOut, extraEntries, slotFor, entryFor?]
  | append_singleton custom entry ih =>
      obtain ⟨hcustom, -, hnew⟩ := List.nodup_append.mp hcustom
      have hnew : entry ∉ custom := fun hmem => hnew entry hmem entry (by simp) rfl
      rw [layOut_concat, ih hcustom]
      by_cases htakes : Slot.nameOf entry.1 ∈ kept.map Prod.fst ∧
          entryFor? custom (Slot.nameOf entry.1) = none
      · rw [Slot.place_slotFor cwd rootDir hkept htakes.1 htakes.2,
          extraEntries_concat_of_free htakes.1 htakes.2 hnew]
      · have hnone : ∀ c ∈ kept,
            Slot.nameOf entry.1 = c.1 → entryFor? custom c.1 ≠ none := by
          rintro c hc hname hfree
          rw [← hname] at hfree
          exact htakes ⟨hname ▸ List.mem_map_of_mem hc, hfree⟩
        rw [Slot.place_of_unmarked, extraEntries_concat_of_not hnone hnew, List.map_append,
          List.map_congr_left fun c hc => slotFor_concat_of_not (hnone c hc), List.append_assoc]
        · rfl
        · intro s hs
          rcases List.mem_append.mp hs with hs | hs
          · obtain ⟨c, hc, rfl⟩ := List.mem_map.mp hs
            rw [scanned_slotFor]
            split
            · next hfree =>
                rw [ne_eq, Option.some_inj]
                exact fun hname => hnone c hc hname.symm hfree
            · simp
          · obtain ⟨e, -, rfl⟩ := List.mem_map.mp hs
            simp [Slot.ofCustom]

end

/-! ### The keys alone -/

section

variable {keys names : List String}

/-- The first custom key for a name. -/
def keyFor? (keys : List String) (name : String) : Option String :=
  keys.find? fun key => Slot.nameOf key = name

/-- The pattern at the place of a scanned name. -/
def patternFor (keys : List String) (name : String) : String :=
  (keyFor? keys name).getD ("^" ++ Pattern.escape name ++ "$")

/-- The custom keys that are the first for none of the names. -/
def extraKeys (names keys : List String) : List String :=
  keys.filter fun key => ∀ name ∈ names, keyFor? keys name ≠ some key

theorem mem_of_keyFor? {key name : String} (h : keyFor? keys name = some key) :
    key ∈ keys ∧ Slot.nameOf key = name :=
  ⟨List.mem_of_find?_eq_some h, by simpa using List.find?_some h⟩

/-- **Every key has one place.**  The keys at the places of names and those after them are all the
keys, none of them twice. -/
theorem perm_keys (hnames : names.Nodup) (hkeys : keys.Nodup) :
    (names.filterMap (keyFor? keys) ++ extraKeys names keys).Perm keys := by
  have hplaced : (names.filterMap (keyFor? keys)).Nodup := by
    refine hnames.filterMap fun a b key ha hb => ?_
    rw [← (mem_of_keyFor? ha).2, (mem_of_keyFor? hb).2]
  have hall : (names.filterMap (keyFor? keys) ++ extraKeys names keys).Nodup := by
    refine List.nodup_append.mpr ⟨hplaced, hkeys.filter _, ?_⟩
    rintro a ha b hb rfl
    obtain ⟨name, hname, hfirst⟩ := List.mem_filterMap.mp ha
    exact of_decide_eq_true (List.mem_filter.mp hb).2 name hname hfirst
  rw [List.perm_ext_iff_of_nodup hall hkeys]
  intro key
  rw [List.mem_append, List.mem_filterMap]
  unfold extraKeys
  rw [List.mem_filter, decide_eq_true_eq]
  constructor
  · rintro (⟨name, -, hfirst⟩ | ⟨hkey, -⟩)
    · exact (mem_of_keyFor? hfirst).1
    · exact hkey
  · intro hkey
    by_cases hextra : ∀ name ∈ names, keyFor? keys name ≠ some key
    · exact .inr ⟨hkey, hextra⟩
    · obtain ⟨name, hname, hfirst⟩ : ∃ name ∈ names, keyFor? keys name = some key := by
        simpa using hextra
      exact .inl ⟨name, hname, hfirst⟩

variable {kept : List Component} {custom : List (String × String)}

theorem keyFor?_map (custom : List (String × String)) (name : String) :
    keyFor? (custom.map Prod.fst) name = (entryFor? custom name).map Prod.fst := by
  unfold keyFor? entryFor?
  rw [List.find?_map]
  rfl

theorem pattern_slotFor (cwd : Option Path) (rootDir : Path) (c : Component) :
    (slotFor cwd rootDir custom c).pattern = patternFor (custom.map Prod.fst) c.1 := by
  unfold slotFor patternFor
  rw [keyFor?_map]
  cases entryFor? custom c.1 <;> rfl

theorem map_extraEntries (hcustom : (custom.map Prod.fst).Nodup) :
    (extraEntries kept custom).map Prod.fst =
      extraKeys (kept.map Prod.fst) (custom.map Prod.fst) := by
  unfold extraEntries extraKeys
  rw [List.filter_map]
  congr 1
  refine List.filter_congr fun entry hentry => ?_
  simp only [Function.comp_apply, List.forall_mem_map, decide_eq_decide]
  refine forall₂_congr fun c _ => not_congr ?_
  rw [keyFor?_map]
  constructor
  · intro hfirst
    rw [hfirst]
    rfl
  · intro hfirst
    obtain ⟨first, hfound, hkey⟩ := Option.map_eq_some_iff.mp hfirst
    rw [hfound, List.inj_on_of_nodup_map hcustom (mem_of_entryFor? hfound).1 hentry hkey]

end

/-! ### A configured registry -/

/-- The kept components have the names that were found, each where it was found first. -/
theorem map_ranked_zero (cs : List Component) :
    (ranked 0 cs).map Prod.fst = (cs.map Prod.fst).eraseDups := by
  induction cs using List.reverseRecOn with
  | nil => rfl
  | append_singleton cs c ih =>
      rw [ranked_concat, List.map_append, ih, List.map_append, List.eraseDups_append]
      congr 1
      have hrank : (ofName c.1 cs).length = 0 ↔ c.1 ∉ cs.map Prod.fst := by
        rw [← mem_map_ranked_zero, mem_map_ranked]
        omega
      by_cases hseen : c.1 ∈ cs.map Prod.fst
      · rw [if_neg fun h => hrank.mp h hseen]
        simp [List.removeAll, hseen]
      · rw [if_pos (hrank.mpr hseen)]
        simp [List.removeAll, hseen, List.eraseDups_cons]

/-- A pattern keeps its text. -/
theorem Pattern.source_of_compile {source : String} {p : Pattern} (h : compile source = .ok p) :
    p.source = source := by
  obtain ⟨q, hparse, h⟩ := parts_of_bind h
  obtain ⟨e, -, hparse⟩ := parts_of_bind hparse
  obtain ⟨node, -, hparse⟩ := parts_of_bind hparse
  split at h
  · rw [← Except.ok.inj h, ← Except.ok.inj hparse]
  · exact absurd h (by simp)

/-- A matcher has the pattern of its slot. -/
theorem Slot.source_of_compile {s : Slot} {m : Matcher} (h : s.compile = .ok m) :
    m.pattern.source = s.pattern := by
  unfold Slot.compile at h
  split at h
  · exact absurd h (by simp)
  · next pattern hpattern =>
      rw [← Except.ok.inj h]
      exact Pattern.source_of_compile hpattern

/-- The matchers of slots have the patterns of the slots. -/
theorem Slot.sources_of_mapM {slots : List Slot} {ms : List Matcher}
    (h : slots.mapM compile = .ok ms) :
    ms.map (·.pattern.source) = slots.map (·.pattern) := by
  induction slots generalizing ms with
  | nil =>
      rw [List.mapM_nil] at h
      rw [← Except.ok.inj h]
      rfl
  | cons s slots ih =>
      rw [List.mapM_cons] at h
      obtain ⟨m, hm, h⟩ := parts_of_bind h
      obtain ⟨rest, hrest, h⟩ := parts_of_bind h
      rw [← Except.ok.inj h, List.map_cons, List.map_cons, ih hrest, source_of_compile hm]

namespace Registry

variable {r : Registry} {d : Disk} {c : ScanConfig}

/-- What is reported is the number of the matchers that the registry has then. -/
theorem matchers_of_report {report : Report} (h : (r.configure d c).outcome = .ok report) :
    report.matchers = (r.configure d c).registry.patterns.length := by
  unfold patterns
  rw [List.length_map]
  unfold configure at h ⊢
  rcases hplan : plan d c with ⟨outcome, warnings⟩
  rw [hplan] at h
  cases outcome with
  | error e => exact absurd h (by simp)
  | ok found => rw [← Except.ok.inj h]

/--
**In which order the matchers stand.**  Say a configuration succeeds, and take the names
that its scan found, each where it was found first.  Then the patterns of the registry are
these.  First comes for each name the first custom key that is for it, or if there is none
the name itself between anchors; then come the custom keys that are the first for no name,
in their own order.  So there are as many matchers as names and keys of the second kind,
and every custom key has one place.
-/
theorem configure_patterns (r : Registry) (d : Disk) (c : ScanConfig)
    (h : (r.configure d c).outcome.isOk = true) :
    ∃ cs report, scanDirs d c.rootDir c.extensions c.scanned = .ok cs ∧
      (r.configure d c).outcome = .ok report ∧
      let names := (cs.map Prod.fst).eraseDups
      let extra := extraKeys names c.custom.keys
      (r.configure d c).registry.patterns = names.map (patternFor c.custom.keys) ++ extra ∧
      report.matchers = names.length + extra.length ∧
      (names.filterMap (keyFor? c.custom.keys) ++ extra).Perm c.custom.keys := by
  obtain ⟨cs, hscan⟩ := scanned_of_isOk h
  obtain ⟨report, hreport⟩ : ∃ report, (r.configure d c).outcome = .ok report := by
    cases houtcome : (r.configure d c).outcome with
    | ok report => exact ⟨report, rfl⟩
    | error e => exact absurd houtcome (ne_error_of_isOk h e)
  have hkept : (Scan.ofComponents d.cwd c.rootDir cs).kept.entries = ranked 0 cs :=
    (Scan.accounts_ofComponents (pathsTellNames_scanDirs hscan)).kept
  have hnames := nodup_map_ranked 0 cs
  have hkeys := c.custom.distinct
  have hcompiled := matchersOf_of_isOk hscan h
  rw [hkept, layOut_eq d.cwd c.rootDir hnames (hkeys.of_map _)] at hcompiled
  have hpatterns : (r.configure d c).registry.patterns =
      ((ranked 0 cs).map Prod.fst).map (patternFor c.custom.keys) ++
        extraKeys ((ranked 0 cs).map Prod.fst) c.custom.keys := by
    unfold patterns OrderedMap.keys
    rw [configure_matchers, Slot.sources_of_mapM hcompiled, List.map_append, List.map_map,
      List.map_map, List.map_map, ← map_extraEntries hkeys]
    congr 1
    exact List.map_congr_left fun component _ => pattern_slotFor d.cwd c.rootDir component
  rw [map_ranked_zero] at hpatterns hnames
  refine ⟨cs, report, hscan, hreport, hpatterns, ?_, perm_keys hnames hkeys⟩
  rw [matchers_of_report hreport, hpatterns, List.length_append, List.length_map]

/-! ### Two keys for one name -/

/-- Three components are scanned.  Two keys are for the last, one is for the second, one only looks
as if it were for the first, and one is for no component. -/
def rivalConfig : ScanConfig where
  dirs := [.ofText "/lib"]
  rootDir := .ofText "/"
  extensions := [".vue"]
  autoscan := true
  custom := ⟨[("FooBar", "first.vue"), ("my-tag", "tag.vue"), ("^FooBar$", "second.vue"),
    ("^AFoo", "open.vue"), ("^Foo$", "foo.vue")], by decide⟩

theorem scanDirs_rival : scanDirs nestedDisk rivalConfig.rootDir rivalConfig.extensions
    rivalConfig.scanned = .ok nestedFound := by cbv

theorem isOk_rival : (new.configure nestedDisk rivalConfig).outcome.isOk = true := by
  unfold configure
  rw [plan_of_scan scanDirs_rival]
  decide +kernel

/-- The first of the two keys has the place, and the other is put at the end. -/
theorem rival_patterns :
    (new.configure nestedDisk rivalConfig).registry.patterns =
      ["^AFoo$", "^Foo$", "FooBar", "my-tag", "^FooBar$", "^AFoo"] := by
  obtain ⟨cs, report, hscan, -, hpatterns, -⟩ :=
    configure_patterns new nestedDisk rivalConfig isOk_rival
  obtain rfl : nestedFound = cs := Except.ok.inj (scanDirs_rival.symm.trans hscan)
  rw [hpatterns]
  decide

end Registry
end AppBuild
