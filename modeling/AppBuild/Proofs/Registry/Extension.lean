/-
One custom entry more.

A custom entry with a new key changes nothing for the tags that have an answer, as long
as its key is for no component that is scanned.  All slots of the earlier configuration
stay where they are and the new one comes after them (`matchersOf_withEntry`), so the
first match is an earlier one wherever there was one (`firstMatch_append`).

That a key is for no component is said of its text (`IsFreeKey`): it is neither the name
nor the name between anchors.  A slot that an earlier entry took from its component has
no name, so no key could take it again.
-/
import Mathlib
import AppBuild.Proofs.Registry.Anew
import AppBuild.Proofs.Registry.Order

namespace AppBuild

/-- The configuration with one custom entry put in. -/
def ScanConfig.withEntry (c : ScanConfig) (key value : String) : ScanConfig :=
  { c with custom := c.custom.insert key value }

/-- The key is for no component that the scanned directories provide: it is neither the name nor
the name between anchors. -/
def IsFreeKey (d : Disk) (c : ScanConfig) (key : String) : Prop :=
  ∀ dir ∈ c.scanned, ∀ name path, Provides d c.rootDir c.extensions dir name path →
    key ≠ name ∧ key ≠ "^" ++ name ++ "$"

namespace Slot

/-- Only two keys are for a name. -/
theorem eq_or_eq_anchored {key name : String} (h : nameOf key = name) :
    key = name ∨ key = "^" ++ name ++ "$" := by
  unfold nameOf at h
  split at h
  · next rest hkey =>
      split at h
      · next inside hrest =>
          refine .inr (String.toList_inj.mp ?_)
          rw [toList_anchored, hkey, ← h, String.toList_ofList, ← List.reverse_cons, ← hrest,
            List.reverse_reverse]
      · exact .inl h
  · exact .inl h

end Slot

/-- A key that is the name of no component is put at the end. -/
theorem layOut_concat_of_free (cwd : Option Path) (rootDir : Path) {kept : List Component}
    (custom : List (String × String)) {entry : String × String}
    (h : ∀ c ∈ kept, Slot.nameOf entry.1 ≠ c.1) :
    layOut cwd rootDir kept (custom ++ [entry]) =
      layOut cwd rootDir kept custom ++ [.ofCustom cwd rootDir entry] := by
  rw [layOut_concat, Slot.place_of_unmarked]
  intro s hs
  rcases of_mem_layOut hs with ⟨c, hc, rfl⟩ | ⟨other, -, rfl⟩
  · simpa [Slot.ofComponent] using (h c hc).symm
  · simp [Slot.ofCustom]

theorem parts_of_mapM_concat {ε α β : Type} {f : α → Except ε β} {xs : List α} {x : α}
    {ys : List β} (h : (xs ++ [x]).mapM f = .ok ys) :
    ∃ before last, xs.mapM f = .ok before ∧ f x = .ok last ∧ ys = before ++ [last] := by
  rw [List.mapM_append] at h
  obtain ⟨before, hbefore, h⟩ := parts_of_bind h
  obtain ⟨after, hafter, h⟩ := parts_of_bind h
  rw [List.mapM_cons] at hafter
  obtain ⟨last, hlast, hafter⟩ := parts_of_bind hafter
  rw [List.mapM_nil] at hafter
  obtain rfl : [last] = after := Except.ok.inj hafter
  exact ⟨before, last, hbefore, hlast, (Except.ok.inj h).symm⟩

/-- A free key is for none of the components that are kept. -/
theorem IsFreeKey.nameOf_ne {d : Disk} {c : ScanConfig} {key : String}
    (hfree : IsFreeKey d c key) {cs : List Component}
    (hscan : scanDirs d c.rootDir c.extensions c.scanned = .ok cs) :
    ∀ e ∈ (Scan.ofComponents d.cwd c.rootDir cs).kept.entries, Slot.nameOf key ≠ e.1 := by
  intro e he hname
  rw [(Scan.accounts_ofComponents (pathsTellNames_scanDirs hscan)).kept] at he
  obtain ⟨⟨name, path⟩, hfound, hsame⟩ :=
    List.mem_map.mp (mem_map_ranked_zero.mp (List.mem_map_of_mem he))
  obtain ⟨dir, hdir, hprovides⟩ := (mem_scanDirs hscan name path).mp hfound
  obtain ⟨hbare, hanchored⟩ := hfree dir hdir name path hprovides
  rw [show e.1 = name from hsame.symm] at hname
  exact (Slot.eq_or_eq_anchored hname).elim hbare hanchored

namespace Registry

variable {r r' : Registry} {d : Disk} {c : ScanConfig} {key value : String}

/-- **All matchers stay, and that of the entry comes after them.** -/
theorem matchersOf_withEntry (hnew : key ∉ c.custom.keys) (hfree : IsFreeKey d c key)
    (h : (r.configure d c).outcome.isOk = true)
    (h' : (r'.configure d (c.withEntry key value)).outcome.isOk = true) :
    ∃ m, (Slot.ofCustom d.cwd c.rootDir (key, value)).compile = .ok m ∧
      matchersOf d (c.withEntry key value) = matchersOf d c ++ [m] := by
  obtain ⟨cs, hscan⟩ := scanned_of_isOk h
  have hcompiled := matchersOf_of_isOk hscan h
  have hcompiled' := matchersOf_of_isOk (c := c.withEntry key value) hscan h'
  have hentries : (c.withEntry key value).custom.entries = c.custom.entries ++ [(key, value)] :=
    insertEntries_of_not_mem hnew value
  have hroot : (c.withEntry key value).rootDir = c.rootDir := rfl
  rw [hroot, hentries, layOut_concat_of_free d.cwd c.rootDir c.custom.entries
    (hfree.nameOf_ne hscan)] at hcompiled'
  obtain ⟨before, m, hbefore, hm, hall⟩ := parts_of_mapM_concat hcompiled'
  rw [hcompiled] at hbefore
  obtain rfl := Except.ok.inj hbefore
  exact ⟨m, hm, hall⟩

/-- The conflicts are those of the scan, in which custom entries have no part. -/
theorem conflicts_withEntry {report report' : Report}
    (h : (r.configure d c).outcome = .ok report)
    (h' : (r'.configure d (c.withEntry key value)).outcome = .ok report') :
    report'.conflicts = report.conflicts := by
  obtain ⟨cs, hscan⟩ := scanned_of_isOk (isOk_of_report h)
  rw [conflicts_of_report h hscan, conflicts_of_report h' hscan]
  rfl

theorem firstMatch_singleton (m : Matcher) (tag : String) :
    firstMatch [m] tag = if m.test tag = true then some (m.apply tag) else none := by
  unfold firstMatch
  rw [List.find?_singleton]
  split <;> rfl

/--
**A custom entry more keeps every answer.**  Say two registries are configured, one with
a custom entry more than the other, whose key is new and for none of the components that
are scanned, and both configurations succeed.  Then they report the same conflicts.
After any questions, a tag to which the smaller configuration has an answer has the same
answer in the larger one, and a tag to which it has none is answered by the entry if the
pattern of the entry matches it, and else not at all.
-/
theorem resolve_extended (r r' : Registry) (d : Disk) (c : ScanConfig) {key : String}
    (value : String) (hnew : key ∉ c.custom.keys) (hfree : IsFreeKey d c key)
    {report report' : Report} (h : (r.configure d c).outcome = .ok report)
    (h' : (r'.configure d (c.withEntry key value)).outcome = .ok report') :
    report'.conflicts = report.conflicts ∧
    ∃ m, (Slot.ofCustom d.cwd c.rootDir (key, value)).compile = .ok m ∧
      ∀ (asked asked' : List String) (tag : String),
        let before := (((r.configure d c).registry.run (asked.map .resolve)).resolve tag).1
        let after := (((r'.configure d (c.withEntry key value)).registry.run
          (asked'.map .resolve)).resolve tag).1
        (∀ path, before = some path → after = some path) ∧
        (before = none → ∀ path,
          after = some path ↔ m.test tag = true ∧ m.apply tag = path) := by
  obtain ⟨m, hm, hall⟩ := matchersOf_withEntry hnew hfree (isOk_of_report h) (isOk_of_report h')
  refine ⟨conflicts_withEntry h h', m, hm, fun asked asked' tag => ?_⟩
  dsimp only
  rw [resolve_asked, resolve_asked, hall, firstMatch_append, firstMatch_singleton]
  constructor
  · intro path hbefore
    rw [hbefore, Option.some_or]
  · intro hbefore path
    rw [hbefore, Option.none_or, Option.ite_none_right_eq_some, Option.some_inj]

/-! ### An entry for what begins with a letter -/

/-- The key is no name between anchors, for it has more than a name there. -/
theorem isFreeKey_nested : IsFreeKey nestedDisk nestedConfig "^A(.*)$" := by
  intro dir hdir name path hprovides
  have hfound : (name, path) ∈ nestedFound :=
    (mem_scanDirs scanDirs_nested name path).mpr ⟨dir, hdir, hprovides⟩
  have hall : ∀ e ∈ nestedFound, "^A(.*)$" ≠ e.1 ∧ "^A(.*)$" ≠ "^" ++ e.1 ++ "$" := by decide
  exact hall _ hfound

theorem scanDirs_lettered :
    let c := nestedConfig.withEntry "^A(.*)$" "$1.vue"
    scanDirs nestedDisk c.rootDir c.extensions c.scanned = .ok nestedFound :=
  scanDirs_nested

theorem isOk_lettered :
    (new.configure nestedDisk (nestedConfig.withEntry "^A(.*)$" "$1.vue")).outcome.isOk
      = true := by
  unfold configure
  rw [plan_of_scan scanDirs_lettered]
  decide +kernel

/-- A component that begins with the letter keeps its path, and another tag that does has a path
from then on. -/
theorem lettered_extends :
    let before := new.configure nestedDisk nestedConfig
    let after := new.configure nestedDisk (nestedConfig.withEntry "^A(.*)$" "$1.vue")
    "^A(.*)$" ∉ nestedConfig.custom.keys ∧
    IsFreeKey nestedDisk nestedConfig "^A(.*)$" ∧
    before.outcome.isOk = true ∧ after.outcome.isOk = true ∧
    (after.registry.resolve "AFoo").1 = some "/lib/AFoo/AFoo.vue" ∧
    (before.registry.resolve "Abc").1 = none ∧
    (after.registry.resolve "Abc").1 = some "bc.vue" := by
  have hcomponent : ((new.configure nestedDisk nestedConfig).registry.resolve "AFoo").1
      = some "/lib/AFoo/AFoo.vue" := by
    unfold configure
    rw [plan_of_scan scanDirs_nested]
    decide +kernel
  have hnone : ((new.configure nestedDisk nestedConfig).registry.resolve "Abc").1 = none := by
    unfold configure
    rw [plan_of_scan scanDirs_nested]
    decide +kernel
  have hentry : (Slot.ofCustom nestedDisk.cwd nestedConfig.rootDir
      ("^A(.*)$", "$1.vue")).compile.toOption.map (fun m => (m.test "Abc", m.apply "Abc"))
        = some (true, "bc.vue") := by cbv
  have hnew : "^A(.*)$" ∉ nestedConfig.custom.keys := by decide
  obtain ⟨report, hreport⟩ := exists_report isOk_nested
  obtain ⟨report', hreport'⟩ := exists_report isOk_lettered
  obtain ⟨-, m, hm, hanswers⟩ := resolve_extended new new nestedDisk nestedConfig "$1.vue" hnew
    isFreeKey_nested hreport hreport'
  rw [hm] at hentry
  obtain ⟨htest, happly⟩ := Prod.mk.inj (Option.some.inj hentry)
  refine ⟨hnew, isFreeKey_nested, isOk_nested, isOk_lettered, ?_, hnone, ?_⟩
  · exact (hanswers [] [] "AFoo").1 _ hcomponent
  · exact ((hanswers [] [] "Abc").2 hnone "bc.vue").mpr ⟨htest, happly⟩

end Registry
end AppBuild
