/-
What custom entries without anchors answer.

A key none of whose characters has a meaning as a pattern matches each tag that holds it,
wherever in it.  Several keys may stand in a tag, also over one another, and the one that
answers is neither the leftmost nor the longest of them but the first in the map; of the
places where it stands in the tag the first is replaced.  All of this can be said of the
texts alone (`Answers`).

The relation has one answer for each tag (`Answers.unique`).  That what is computed is
such an answer goes along the entries (`answers_firstMatch`): one that does not stand in
the tag leaves it to those after it.
-/
import Mathlib
import AppBuild.Proofs.Registry.Anew
import AppBuild.Proofs.Registry.Order

namespace AppBuild

/-- No character of the key has a meaning in a pattern, and the value is a path as it is. -/
structure BareEntry (entry : String × String) : Prop where
  key : ∀ ch ∈ entry.1.toList, Pattern.isSyntax ch = false
  value : '$' ∉ entry.2.toList
  unaliased : ¬ ['@', '/'] <+: entry.2.toList

/-! ### What the texts say -/

/-- What a tag comes to by the keys that stand in it. -/
inductive Answers (entries : List (String × String)) (tag : String) : Option String → Prop
  /-- No key stands in the tag. -/
  | miss (hnone : ∀ entry ∈ entries, ¬ entry.1.toList <:+: tag.toList) : Answers entries tag none
  /-- The first of the keys that do is replaced by its value, in the first place where it stands. -/
  | hit {earlier later : List (String × String)} {key value : String} {before after : List Char}
      (hsplit : entries = earlier ++ (key, value) :: later)
      (hearlier : ∀ entry ∈ earlier, ¬ entry.1.toList <:+: tag.toList)
      (hfirst : Pattern.StandsFirst key.toList before after tag.toList) :
      Answers entries tag (some (String.ofList (before ++ value.toList ++ after)))

namespace Answers

variable {entries earlier later : List (String × String)} {entry : String × String}
variable {tag : String} {a a' : Option String}

/-- The first entry whose key stands in the tag. -/
theorem find?_of_split (hsplit : entries = earlier ++ entry :: later)
    (hearlier : ∀ e ∈ earlier, ¬ e.1.toList <:+: tag.toList)
    (hentry : entry.1.toList <:+: tag.toList) :
    entries.find? (fun e => decide (e.1.toList <:+: tag.toList)) = some entry := by
  rw [List.find?_eq_some_iff_append]
  refine ⟨decide_eq_true hentry, earlier, later, hsplit, fun e he => ?_⟩
  simpa using hearlier e he

theorem find?_of_miss (hnone : ∀ e ∈ entries, ¬ e.1.toList <:+: tag.toList) :
    entries.find? (fun e => decide (e.1.toList <:+: tag.toList)) = none := by
  simpa using hnone

/-- **A tag has one answer.** -/
theorem unique (h : Answers entries tag a) (h' : Answers entries tag a') : a = a' := by
  cases h with
  | miss hnone =>
      cases h' with
      | miss => rfl
      | hit hsplit hearlier hfirst =>
          have hfound := find?_of_split hsplit hearlier hfirst.isInfix
          exact absurd (hfound.symm.trans (find?_of_miss hnone)) (by simp)
  | hit hsplit hearlier hfirst =>
      have hfound := find?_of_split hsplit hearlier hfirst.isInfix
      cases h' with
      | miss hnone => exact absurd (hfound.symm.trans (find?_of_miss hnone)) (by simp)
      | hit hsplit' hearlier' hfirst' =>
          have hsame := hfound.symm.trans (find?_of_split hsplit' hearlier' hfirst'.isInfix)
          obtain ⟨rfl, rfl⟩ := Prod.mk.inj (Option.some.inj hsame)
          obtain ⟨rfl, rfl⟩ := hfirst.unique hfirst'
          rfl

/-- An entry whose key does not stand in the tag has no say. -/
theorem cons (hnot : ¬ entry.1.toList <:+: tag.toList) (h : Answers entries tag a) :
    Answers (entry :: entries) tag a := by
  cases h with
  | miss hnone => exact .miss (List.forall_mem_cons.mpr ⟨hnot, hnone⟩)
  | hit hsplit hearlier hfirst =>
      exact .hit (by rw [hsplit]; rfl) (List.forall_mem_cons.mpr ⟨hnot, hearlier⟩) hfirst

end Answers

/-! ### What is computed -/

/-- Where nothing was scanned, the entries are laid out as they come. -/
theorem layOut_nil (cwd : Option Path) (rootDir : Path) {custom : List (String × String)}
    (hcustom : custom.Nodup) :
    layOut cwd rootDir [] custom = custom.map (Slot.ofCustom cwd rootDir) := by
  rw [layOut_eq cwd rootDir (by simp) hcustom]
  simp [extraEntries]

namespace Registry

variable {d : Disk} {c : ScanConfig}

/-- **The first match is the answer.** -/
theorem answers_firstMatch {entries : List (String × String)}
    (hbare : ∀ entry ∈ entries, BareEntry entry) {ms : List Matcher}
    (hms : (entries.map (Slot.ofCustom d.cwd c.rootDir)).mapM Slot.compile = .ok ms)
    (tag : String) : Answers entries tag (firstMatch ms tag) := by
  induction entries generalizing ms with
  | nil =>
      rw [← Except.ok.inj hms]
      exact .miss (by simp)
  | cons entry entries ih =>
      obtain ⟨hentry, hbare⟩ := List.forall_mem_cons.mp hbare
      rw [List.map_cons, List.mapM_cons] at hms
      obtain ⟨m, hm, hms⟩ := parts_of_bind hms
      obtain ⟨rest, hrest, hms⟩ := parts_of_bind hms
      rw [← Except.ok.inj hms]
      obtain ⟨hnode, hreplacement⟩ := Slot.compile_ofCustom_plain hentry.key hm
      by_cases hstands : entry.1.toList <:+: tag.toList
      · obtain ⟨before, after, hfirst⟩ := Pattern.exists_standsFirst hstands
        obtain ⟨htest, happly⟩ := answer_plain (d := d) (c := c) hnode hreplacement hfirst
        have hanswer : firstMatch (m :: rest) tag
            = some (String.ofList (before ++ entry.2.toList ++ after)) := by
          unfold firstMatch
          rw [List.find?_cons, htest, Option.map_some, happly,
            overridden_of_unaliased d.cwd c.rootDir entry.1 hentry.value hentry.unaliased]
        rw [hanswer]
        exact .hit (List.nil_append _).symm (by simp) hfirst
      · have hskip : firstMatch (m :: rest) tag = firstMatch rest tag := by
          unfold firstMatch
          rw [List.find?_cons, test_plain_eq_false hnode hstands]
        rw [hskip]
        exact (ih hbare hrest).cons hstands

/-- Without directories only the size of a key is in the way. -/
theorem isOk_iff_of_bare (r : Registry) (hdirs : c.dirs = [])
    (hbare : ∀ entry ∈ c.custom.entries, BareEntry entry) :
    (r.configure d c).outcome.isOk = true ↔
      ∀ entry ∈ c.custom.entries, ¬ Pattern.IsTooLarge entry.1 := by
  rw [isOk_iff_no_obstacle]
  constructor
  · intro hnone entry hentry hlarge
    exact hnone _ (.pattern hentry hlarge)
  · intro hsize e hobstacle
    cases hobstacle with
    | directory hdir _ => simp [ScanConfig.scanned, hdirs] at hdir
    | pattern hentry hinvalid =>
        have hparse := Pattern.parse_plain (Slot.spells_plain (hbare _ hentry).key)
        rw [Pattern.compile_eq_of_not_isTooLarge hparse (hsize _ hentry)] at hinvalid
        exact absurd hinvalid (by simp)

/--
**What bare keys answer.**  Say nothing is scanned, no character of a key has a meaning
in a pattern, and the values are paths as they are.  Then the configuration succeeds
unless a key is too long for a pattern.  Whatever the registry was before and whatever
it was asked since, a tag in which no key stands has no path; and otherwise it has the
tag itself, with the first key of the map that stands in it replaced by its value in
the first place where it does.
-/
theorem resolve_eq_iff_answers (r : Registry) (d : Disk) (c : ScanConfig) (hdirs : c.dirs = [])
    (hbare : ∀ entry ∈ c.custom.entries, BareEntry entry) :
    ((r.configure d c).outcome.isOk = true ↔
      ∀ entry ∈ c.custom.entries, ¬ Pattern.IsTooLarge entry.1) ∧
    ((r.configure d c).outcome.isOk = true →
      ∀ (asked : List String) (tag : String) (answer : Option String),
        (((r.configure d c).registry.run (asked.map .resolve)).resolve tag).1 = answer ↔
          Answers c.custom.entries tag answer) := by
  refine ⟨isOk_iff_of_bare r hdirs hbare, fun hok asked tag answer => ?_⟩
  have hscan : scanDirs d c.rootDir c.extensions c.scanned = .ok [] := by
    simp [ScanConfig.scanned, hdirs, scanDirs]
  have hcompiled := matchersOf_of_isOk hscan hok
  have hkept : (Scan.ofComponents d.cwd c.rootDir []).kept.entries = [] := rfl
  rw [hkept, layOut_nil d.cwd c.rootDir (c.custom.distinct.of_map _)] at hcompiled
  have hfirst : Answers c.custom.entries tag (firstMatch (matchersOf d c) tag) :=
    answers_firstMatch hbare hcompiled tag
  rw [resolve_asked]
  constructor
  · rintro rfl
    exact hfirst
  · exact hfirst.unique

/-! ### Keys that stand over one another -/

/-- Of these keys one stands ahead of the others in a tag, one is the longest, and one is first. -/
def overlappingConfig : ScanConfig where
  dirs := []
  rootDir := .ofText "/"
  extensions := [".vue"]
  autoscan := true
  custom := ⟨[("tab-", "t/"), ("ar-", "r/"), ("na", "n/"), ("nav-bar", "bar.vue")], by decide⟩

theorem bare_overlapping : ∀ entry ∈ overlappingConfig.custom.entries, BareEntry entry := by
  have hkeys : overlappingConfig.custom.entries.all
      (fun entry => entry.1.toList.all fun ch => !Pattern.isSyntax ch) = true := by decide
  have hvalues : ∀ entry ∈ overlappingConfig.custom.entries,
      '$' ∉ entry.2.toList ∧ ¬ ['@', '/'] <+: entry.2.toList := by decide
  intro entry hentry
  refine ⟨fun ch hch => ?_, (hvalues entry hentry).1, (hvalues entry hentry).2⟩
  simpa using List.all_eq_true.mp (List.all_eq_true.mp hkeys entry hentry) ch hch

/-- The first key of the map answers, and the second place where it stands is kept. -/
theorem overlapping_resolves :
    (((new.configure ⟨.empty, none⟩ overlappingConfig).registry.run
      (["nav-bar"].map .resolve)).resolve "nav-bar-car-").1 = some "nav-br/car-" ∧
    (((new.configure ⟨.empty, none⟩ overlappingConfig).registry.run
      (["nav-bar"].map .resolve)).resolve "Na").1 = none := by
  obtain ⟨hsize, hanswers⟩ :=
    resolve_eq_iff_answers new ⟨.empty, none⟩ overlappingConfig rfl bare_overlapping
  have hlimit : ∀ entry ∈ overlappingConfig.custom.entries,
      (Pattern.plain entry.1.toList).bytes ≤ Pattern.sizeLimit := by decide
  have hok := hsize.mpr fun entry hentry hlarge =>
    (Pattern.isTooLarge_plain (Slot.spells_plain (bare_overlapping entry hentry).key)).mp hlarge
      (hlimit entry hentry)
  have hsplit : overlappingConfig.custom.entries =
      [("tab-", "t/")] ++ ("ar-", "r/") :: [("na", "n/"), ("nav-bar", "bar.vue")] := rfl
  have hfirst : Pattern.StandsFirst "ar-".toList "nav-b".toList "car-".toList
      "nav-bar-car-".toList := by decide
  constructor
  · exact (hanswers hok _ _ _).mpr (.hit hsplit (by decide) hfirst)
  · exact (hanswers hok _ _ _).mpr (.miss (by decide))

end Registry
end AppBuild
