/-
What a custom entry with the root alias leads to.

The alias is put in first: the value of the entry becomes the text of a path from the
root directory, and that whole text is read as a template.  So it is not the path of
the entry alone that can refer to a match, but the path of the root directory as well.
With a key that is a plain name between anchors there is nothing much to refer to, for
the match is the whole tag and the pattern has no groups.  Still a dollar sign that one
of the four signs follows is gone from the answer, and with it the path is another one:
a text comes to itself exactly when no dollar sign in it is followed by a sign
(`substitute_eq_self_iff`), since every reference takes a dollar sign away.

A text without dollar signs has none of that.  The text of a path has one only if a byte
of the directory or of the entry is one (`Path.mem_resolve`).
-/
import Mathlib
import AppBuild.Proofs.Component.Slots
import AppBuild.Proofs.Component.Substitution
import AppBuild.Proofs.Path.Place
import AppBuild.Proofs.Registry.Plan

namespace AppBuild

/-! ### Templates that come to themselves -/

/-- A dollar sign stands with one of its signs somewhere in the text. -/
def Refers (cs : List Char) : Prop := ∃ a ∈ Matched.signs, ['$', a] <:+: cs

theorem not_refers_nil : ¬ Refers [] := by simp [Refers]

theorem refers_cons_of_ne {c : Char} (h : c ≠ '$') (rest : List Char) :
    Refers (c :: rest) ↔ Refers rest := by
  unfold Refers
  simp [List.infix_cons_iff, List.cons_prefix_cons, Ne.symm h]

theorem refers_dollar (a : Char) (rest : List Char) :
    Refers ('$' :: a :: rest) ↔ a ∈ Matched.signs ∨ Refers (a :: rest) := by
  unfold Refers
  simp only [List.infix_cons_iff (a := '$'), List.cons_prefix_cons, true_and,
    List.nil_prefix, and_true]
  constructor
  · rintro ⟨b, hb, rfl | hpart⟩
    · exact .inl hb
    · exact .inr ⟨b, hb, hpart⟩
  · rintro (ha | ⟨b, hb, hpart⟩)
    · exact ⟨a, ha, .inl rfl⟩
    · exact ⟨b, hb, .inr hpart⟩

theorem not_refers_dollar : ¬ Refers ['$'] := by
  rintro ⟨a, -, hpart⟩
  exact absurd hpart.length_le (by simp)

theorem not_refers_of_not_mem {cs : List Char} (h : '$' ∉ cs) : ¬ Refers cs := by
  rintro ⟨a, -, hpart⟩
  exact h (hpart.subset (by simp))

namespace Matched

/-- The match is the whole of a tag without dollar signs, and there are no groups. -/
structure IsWhole (m : Matched) : Prop where
  before : m.before = []
  after : m.after = []
  groups : m.groups = []
  whole : '$' ∉ m.whole

variable {m : Matched}

theorem IsWhole.substitute_dollar (h : m.IsWhole) {a : Char} (ha : a ∉ signs)
    (rest : List Char) : m.substitute ('$' :: a :: rest) = '$' :: m.substitute (a :: rest) := by
  have hnone : ∀ digits, m.reference? digits = none := by
    intro digits
    unfold reference?
    rw [h.groups, if_neg]
    simp only [List.length_nil]
    omega
  cases rest with
  | nil =>
      have hne : a ≠ '$' := by
        rintro rfl
        exact ha (by simp [signs])
      rw [substitute_one ha, hnone, substitute_of_ne hne]
      rfl
  | cons b rest => rw [substitute_two ha, hnone, hnone]

/-- What a dollar sign with one of its signs stands for has no more than one dollar sign. -/
theorem IsWhole.count_substitute_sign (h : m.IsWhole) {a : Char} (ha : a ∈ signs)
    (rest : List Char) :
    (m.substitute ('$' :: a :: rest)).count '$' =
      (m.substitute rest).count '$' + if a = '$' then 1 else 0 := by
  have hwhole : m.whole.count '$' = 0 := List.count_eq_zero.mpr h.whole
  simp only [signs, List.mem_cons, List.not_mem_nil, or_false] at ha
  rcases ha with rfl | rfl | rfl | rfl
  · rw [substitute, List.count_cons_self, if_pos rfl]
  · rw [substitute, List.count_append, hwhole, Nat.zero_add, if_neg (by decide), Nat.add_zero]
  · rw [substitute, h.before, List.nil_append, if_neg (by decide), Nat.add_zero]
  · rw [substitute, h.after, List.nil_append, if_neg (by decide), Nat.add_zero]

/-- A text comes to itself, or it refers to something and loses a dollar sign. -/
def KeptOrLost (m : Matched) (cs : List Char) : Prop :=
  (¬ Refers cs ∧ m.substitute cs = cs) ∨
    (Refers cs ∧ (m.substitute cs).count '$' < cs.count '$')

theorem KeptOrLost.count_le {cs : List Char} (h : m.KeptOrLost cs) :
    (m.substitute cs).count '$' ≤ cs.count '$' := by
  rcases h with ⟨-, hsame⟩ | ⟨-, hlt⟩
  · rw [hsame]
  · exact Nat.le_of_lt hlt

/-- A dollar sign is taken together with the sign after it, or stays. -/
theorem IsWhole.keptOrLost_dollar (h : m.IsWhole) (rest : List Char)
    (hlater : ∀ later : List Char, later.length ≤ rest.length → m.KeptOrLost later) :
    m.KeptOrLost ('$' :: rest) := by
  cases rest with
  | nil => exact .inl ⟨not_refers_dollar, by simp [substitute]⟩
  | cons a rest =>
      by_cases ha : a ∈ signs
      · have hrest := (hlater rest (by simp)).count_le
        refine .inr ⟨(refers_dollar a rest).mpr (.inl ha), ?_⟩
        rw [h.count_substitute_sign ha, List.count_cons_self, List.count_cons]
        simp only [beq_iff_eq]
        omega
      · unfold KeptOrLost
        rw [refers_dollar, or_iff_right ha, h.substitute_dollar ha, List.count_cons_self,
          List.count_cons_self]
        rcases hlater (a :: rest) (Nat.le_refl _) with ⟨hnot, hsame⟩ | ⟨hrefers, hlt⟩
        · exact .inl ⟨hnot, by rw [hsame]⟩
        · exact .inr ⟨hrefers, by omega⟩

theorem IsWhole.keptOrLost (h : m.IsWhole) (cs : List Char) : m.KeptOrLost cs := by
  induction hlength : cs.length using Nat.strong_induction_on generalizing cs with
  | _ n ih =>
      cases cs with
      | nil => exact .inl ⟨not_refers_nil, by simp [substitute]⟩
      | cons c rest =>
          by_cases hc : c = '$'
          · subst hc
            exact h.keptOrLost_dollar rest fun later hle =>
              ih later.length (by simp at hlength; omega) later rfl
          · unfold KeptOrLost
            rw [refers_cons_of_ne hc, substitute_of_ne hc, List.count_cons_of_ne hc,
              List.count_cons_of_ne hc]
            rcases ih rest.length (by simp [← hlength]) rest rfl with ⟨hnot, hsame⟩ | hlost
            · exact .inl ⟨hnot, by rw [hsame]⟩
            · exact .inr hlost

/-- **A text comes to itself exactly when it refers to nothing.** -/
theorem IsWhole.substitute_eq_self_iff (h : m.IsWhole) (cs : List Char) :
    m.substitute cs = cs ↔ ¬ Refers cs := by
  rcases h.keptOrLost cs with ⟨hnot, hsame⟩ | ⟨hrefers, hlt⟩
  · exact ⟨fun _ => hnot, fun _ => hsame⟩
  · refine ⟨fun hsame => ?_, fun hnot => absurd hrefers hnot⟩
    rw [hsame] at hlt
    exact absurd hlt (Nat.lt_irrefl _)

end Matched

/-! ### A registry with one aliased entry -/

namespace Registry

variable {c : ScanConfig} {name rest : String}

/-- Nothing is scanned, and the one custom entry gives a plain name a path from the root. -/
structure Aliases (c : ScanConfig) (name rest : String) : Prop where
  dirs : c.dirs = []
  only : c.custom.entries = [("^" ++ name ++ "$", "@/" ++ rest)]
  plain : ∀ ch ∈ name.toList, Pattern.isSyntax ch = false

/-- The text of the path that the alias stands for. -/
def aliased (d : Disk) (c : ScanConfig) (rest : String) : String :=
  (Path.resolve d.cwd c.rootDir (.ofText rest)).toText

/-- The byte of a dollar sign. -/
def dollar : UInt8 := 36

theorem isMark_dollar : Utf8.IsMark dollar := by decide

/-- The match of a name as a whole. -/
def wholeMatch (name : String) : Matched := ⟨[], name.toList, [], []⟩

theorem isWhole_wholeMatch (h : ∀ ch ∈ name.toList, Pattern.isSyntax ch = false) :
    (wholeMatch name).IsWhole where
  before := rfl
  after := rfl
  groups := rfl
  whole hmem := absurd (h '$' hmem) (by decide)

/-- The matcher of such an entry. -/
def aliasMatcher (d : Disk) (c : ScanConfig) (name rest : String) : Matcher :=
  ⟨⟨"^" ++ name ++ "$", Pattern.anchored name.toList⟩, .parse (aliased d c rest) 0⟩

/-- The entry is valid unless its name is too long for a pattern. -/
theorem compile_alias (d : Disk) (c : ScanConfig) (rest : String)
    (h : ∀ ch ∈ name.toList, Pattern.isSyntax ch = false) :
    (Slot.ofCustom d.cwd c.rootDir ("^" ++ name ++ "$", "@/" ++ rest)).compile =
      if (Pattern.anchored name.toList).bytes ≤ Pattern.sizeLimit then
        .ok (aliasMatcher d c name rest)
      else .error (.invalidPattern ("^" ++ name ++ "$") .tooLarge) := by
  have hgroups : (Pattern.anchored name.toList).groups = 0 := by
    unfold Pattern.anchored Pattern.anchoredParts
    split <;> rfl
  have hpath : Slot.customPath d.cwd c.rootDir ("@/" ++ rest) = aliased d c rest := by
    unfold Slot.customPath
    simp [String.toList_append, aliased]
  have hpattern := Pattern.compile_anchored (Slot.spells_plain h) (Slot.toList_anchored name)
  unfold Slot.compile Slot.ofCustom
  dsimp only
  rw [hpattern, hpath]
  by_cases hsize : (Pattern.anchored name.toList).bytes ≤ Pattern.sizeLimit
  · rw [if_pos hsize, if_pos hsize]
    simp only [SlotPath.replacement, Pattern.groups, hgroups]
    rfl
  · rw [if_neg hsize, if_neg hsize]

/-- What such a configuration plans. -/
theorem plan_aliases (d : Disk) (h : Aliases c name rest) :
    (plan d c).1 =
      if (Pattern.anchored name.toList).bytes ≤ Pattern.sizeLimit then
        .ok ([aliasMatcher d c name rest], .empty)
      else .error (.invalidPattern ("^" ++ name ++ "$") .tooLarge) := by
  have hscanned : c.scanned = [] := by
    unfold ScanConfig.scanned
    rw [h.dirs]
    split <;> rfl
  have hscan : scanDirs d c.rootDir c.extensions c.scanned = .ok [] := by
    rw [hscanned]
    rfl
  have hlayOut : layOut d.cwd c.rootDir [] c.custom.entries
      = [Slot.ofCustom d.cwd c.rootDir ("^" ++ name ++ "$", "@/" ++ rest)] := by
    rw [h.only]
    rfl
  rw [plan_of_scan hscan]
  show Except.map (·, OrderedMap.empty)
    ((layOut d.cwd c.rootDir [] c.custom.entries).mapM Slot.compile) = _
  rw [hlayOut, List.mapM_cons, List.mapM_nil, compile_alias d c rest h.plain]
  split <;> rfl

/-- The matcher gives the name what the text of the path comes to. -/
theorem answer_aliasMatcher (d : Disk) (c : ScanConfig) (name rest : String) :
    (aliasMatcher d c name rest).test name = true ∧
    (aliasMatcher d c name rest).apply name =
      String.ofList ((wholeMatch name).substitute (aliased d c rest).toList) := by
  have hfind : (aliasMatcher d c name rest).pattern.find? name.toList
      = some ⟨0, name.toList.length, []⟩ := by
    unfold Pattern.find? aliasMatcher
    rw [Pattern.find?_anchored, if_pos rfl]
  constructor
  · unfold Matcher.test Pattern.test
    rw [hfind]
    rfl
  · have hmatched : Pattern.Match.matched ⟨0, name.toList.length, []⟩ name.toList 0
        = wholeMatch name := by
      simp [Pattern.Match.matched, wholeMatch, Replacement.slice]
    unfold Matcher.apply
    simp only [hfind]
    show String.ofList (name.toList.take 0 ++
      (Replacement.parse (aliased d c rest) 0).expand _ name.toList ++
        name.toList.drop name.toList.length) = _
    rw [Replacement.expand_parse_eq, hmatched]
    simp

/--
**What an aliased entry leads to.**  Say nothing is scanned, and the one custom entry gives a plain
name a path from the root.  Then the configuration succeeds unless the name is too long for a
pattern, and the registry gives the name what the text of the resolved path comes to as a template.
That is the text itself exactly when no dollar sign in it is followed by one of the four signs, in
the part that is from the root directory as well as in the rest.  So it is with any root directory
without dollar signs, if the path of the entry has none.
-/
theorem resolve_aliased (r : Registry) (d : Disk) {c : ScanConfig} {name rest : String}
    (h : Aliases c name rest) :
    ((r.configure d c).outcome.isOk = true ↔ ¬ Pattern.IsTooLarge ("^" ++ name ++ "$")) ∧
    ((r.configure d c).outcome.isOk = true →
      ((r.configure d c).registry.resolve name).1 =
        some (String.ofList ((wholeMatch name).substitute (aliased d c rest).toList)) ∧
      (((r.configure d c).registry.resolve name).1 = some (aliased d c rest) ↔
        ¬ Refers (aliased d c rest).toList) ∧
      (c.rootDir.isAbsolute = true → dollar ∉ c.rootDir.bytes → '$' ∉ rest.toList →
        ((r.configure d c).registry.resolve name).1 = some (aliased d c rest))) := by
  have houtcome : (r.configure d c).outcome.isOk = true ↔
      (Pattern.anchored name.toList).bytes ≤ Pattern.sizeLimit := by
    rw [isOk_configure, plan_aliases d h]
    split
    · next hsize => simp [hsize, Except.isOk, Except.toBool]
    · next hsize => simp [hsize, Except.isOk, Except.toBool]
  have hlarge := Pattern.isTooLarge_anchored (Slot.spells_plain h.plain) (Slot.toList_anchored name)
  refine ⟨by rw [houtcome, hlarge, not_not], fun hok => ?_⟩
  have hmatchers : matchersOf d c = [aliasMatcher d c name rest] := by
    unfold matchersOf
    rw [plan_aliases d h, if_pos (houtcome.mp hok)]
  obtain ⟨htest, happly⟩ := answer_aliasMatcher d c name rest
  have hanswer : ((r.configure d c).registry.resolve name).1
      = some (String.ofList ((wholeMatch name).substitute (aliased d c rest).toList)) := by
    rw [(coherent_configure r d c).resolve_eq, configure_matchers, hmatchers, ← happly]
    unfold firstMatch
    rw [List.find?_singleton, htest]
    rfl
  have hverbatim : ((r.configure d c).registry.resolve name).1 = some (aliased d c rest) ↔
      ¬ Refers (aliased d c rest).toList := by
    rw [hanswer, Option.some_inj, ← String.toList_inj, String.toList_ofList,
      (isWhole_wholeMatch h.plain).substitute_eq_self_iff]
  refine ⟨hanswer, hverbatim, fun hroot hdollar hrest => hverbatim.mpr ?_⟩
  have hencoded : dollar ∉ (Path.ofText rest).bytes := by
    rw [← Utf8.mem_decodeLossy_iff isMark_dollar]
    show '$' ∉ (Utf8.decodeLossy (Utf8.encode rest)).toList
    rwa [Utf8.decodeLossy_encode]
  exact not_refers_of_not_mem
    (Path.not_mem_toText_resolve d.cwd hroot isMark_dollar (by decide) hdollar hencoded)

/-! ### Root directories with dollar signs -/

/-- Nothing at all, without a working directory. -/
def bareDisk : Disk := ⟨.empty, none⟩

/-- The one entry is for a file right in the root directory. -/
def aliasConfig (root : String) : ScanConfig where
  dirs := []
  rootDir := .ofText root
  extensions := [".vue"]
  autoscan := true
  custom := ⟨[("^Foo$", "@/x.vue")], by decide⟩

theorem aliases_aliasConfig (root : String) : Aliases (aliasConfig root) "Foo" "x.vue" where
  dirs := rfl
  only := by
    show [("^Foo$", "@/x.vue")] = _
    decide
  plain ch hch := by
    have hall : "Foo".toList.all (fun ch => !Pattern.isSyntax ch) = true := by decide
    simpa using List.all_eq_true.mp hall ch hch

/-- A dollar sign before a digit stays, as there are no groups. -/
theorem numbered_root_verbatim :
    ((new.configure bareDisk (aliasConfig "/a$1")).registry.resolve "Foo").1 =
      some "/a$1/x.vue" := by
  have hpath : aliased bareDisk (aliasConfig "/a$1") "x.vue" = "/a$1/x.vue" := by decide +kernel
  obtain ⟨houtcome, hanswer⟩ := resolve_aliased new bareDisk (aliases_aliasConfig "/a$1")
  have hlarge := Pattern.isTooLarge_anchored
    (Slot.spells_plain (aliases_aliasConfig "/a$1").plain) (Slot.toList_anchored "Foo")
  obtain ⟨-, hverbatim, -⟩ := hanswer (houtcome.mpr (mt hlarge.mp (not_not.mpr (by decide))))
  rw [hpath] at hverbatim
  have hself : (wholeMatch "Foo").substitute "/a$1/x.vue".toList = "/a$1/x.vue".toList := by cbv
  have hwhole := isWhole_wholeMatch (aliases_aliasConfig "/a$1").plain
  exact hverbatim.mpr ((hwhole.substitute_eq_self_iff _).mp hself)

/-- Of two dollar signs in the name of the root directory one is lost, and the path is that of another
directory. -/
theorem doubled_dollar_lost :
    (aliasConfig "/a$$b").rootDir.isAbsolute = true ∧
    (new.configure bareDisk (aliasConfig "/a$$b")).outcome.isOk = true ∧
    aliased bareDisk (aliasConfig "/a$$b") "x.vue" = "/a$$b/x.vue" ∧
    ((new.configure bareDisk (aliasConfig "/a$$b")).registry.resolve "Foo").1 =
      some "/a$b/x.vue" := by
  decide +kernel

end Registry

end AppBuild
