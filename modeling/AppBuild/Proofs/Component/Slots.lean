/-
What the matchers of named slots answer.

A slot stands for a name and a path (`Slot.Stands`) when its pattern spells the name
between anchors and what takes the place of a match is the path as it is.  The slots of
scanned components are such, whatever characters are in their names and paths, and so
are those of custom entries with plain keys and values.  Slots that stand for the
entries of a map answer a tag as the map does (`firstMatch_of_stands`).

Laying out custom entries is then a matter of maps: putting an entry in the place of
the component that it names, or else at the end, is inserting it under its name
(`stands_place`).  What keeps the two in step is which names are taken already: a slot
is marked as scanned exactly as long as no entry took its name.
-/
import AppBuild.Proofs.Pattern.Anchored
import AppBuild.Proofs.Registry.Cache
import Mathlib.Data.List.Forall2

namespace AppBuild

/-! ### Replacements -/

namespace Replacement

/-- A template without a dollar sign is the text itself. -/
theorem parseFrom_of_not_mem (groups : Nat) {cs : List Char} (h : '$' ∉ cs) (text : List Char) :
    parseFrom groups 0 text cs = flush (cs.reverse ++ text) := by
  induction cs generalizing text with
  | nil => rfl
  | cons c cs ih =>
      rw [List.mem_cons, not_or] at h
      rw [parseFrom, if_neg (Ne.symm h.1), ih h.2]
      simp

theorem expand_parse {template : String} (h : '$' ∉ template.toList) (groups : Nat)
    (m : Pattern.Match) (text : List Char) :
    (parse template groups).expand m text = template.toList := by
  unfold expand parse
  rw [parseFrom_of_not_mem groups h, List.append_nil]
  unfold flush
  cases template.toList with
  | nil => rfl
  | cons c cs => simp [expandPart]

theorem expand_literal (path : String) (m : Pattern.Match) (text : List Char) :
    (literal path).expand m text = path.toList := by
  simp [expand, literal, expandPart]

end Replacement

/-! ### Slots that stand for a name and a path -/

namespace Slot

/-- The slot stands for a name and a path.  It is marked with the name, unless that is taken. -/
structure Stands (taken : List String) (s : Slot) (entry : String × String) : Prop where
  pattern : ∃ body, s.pattern.toList = '^' :: (body ++ ['$']) ∧
    Pattern.Spells body entry.1.toList
  path : s.path = .verbatim entry.2 ∨ s.path = .template entry.2 ∧ '$' ∉ entry.2.toList
  scanned : s.scanned = if entry.1 ∈ taken then none else some entry.1

variable {taken : List String} {s : Slot} {name path : String}

theorem Stands.expand (h : s.Stands taken (name, path)) (groups : Nat) (m : Pattern.Match)
    (text : List Char) : (s.path.replacement groups).expand m text = path.toList := by
  rcases h.path with hpath | ⟨hpath, hplain⟩
  · rw [hpath]
    exact Replacement.expand_literal path m text
  · rw [hpath]
    exact Replacement.expand_parse hplain groups m text

/-- The matcher of the slot matches the name, and gives it the path. -/
theorem Stands.compile (h : s.Stands taken (name, path)) {m : Matcher}
    (hm : s.compile = .ok m) (tag : String) :
    m.test tag = decide (tag = name) ∧ (tag = name → m.apply tag = path) := by
  obtain ⟨body, hsource, hspells⟩ := h.pattern
  unfold Slot.compile at hm
  rw [Pattern.compile_anchored hspells hsource] at hm
  split at hm
  · next cause hcause => exact absurd hm (by simp)
  · next pattern hpattern =>
      have hnode : pattern.node = Pattern.anchored name.toList := by
        split at hpattern
        · rw [← Except.ok.inj hpattern]
        · exact absurd hpattern (by simp)
      rw [← Except.ok.inj hm]
      constructor
      · unfold Matcher.test Pattern.test Pattern.find?
        rw [hnode, Pattern.find?_anchored]
        by_cases htag : tag = name
        · simp [htag]
        · have hlist : tag.toList ≠ name.toList := fun hlist => htag (String.toList_inj.mp hlist)
          simp [htag, hlist]
      · rintro rfl
        unfold Matcher.apply Pattern.find?
        simp only [hnode, Pattern.find?_anchored, if_true, h.expand]
        simp

/-- The pattern of the slot is valid unless the name is too long. -/
theorem Stands.exists_compile (h : s.Stands taken (name, path))
    (hsize : (Pattern.anchored name.toList).bytes ≤ Pattern.sizeLimit) :
    ∃ m, s.compile = .ok m := by
  obtain ⟨body, hsource, hspells⟩ := h.pattern
  unfold Slot.compile
  rw [Pattern.compile_anchored hspells hsource, if_pos hsize]
  exact ⟨_, rfl⟩

theorem stands_ofComponent (c : Component) : (ofComponent c).Stands [] c where
  pattern := by
    refine ⟨(Pattern.escape c.1).toList, ?_, Pattern.spells_escape c.1⟩
    simp [ofComponent, String.toList_append]
  path := .inl rfl
  scanned := rfl

end Slot

/-! ### Slots that stand for a map -/

namespace Slot

variable {taken : List String} {slots : List Slot} {entries : List (String × String)}

/-- **Slots that stand for entries answer as the entries do.** -/
theorem firstMatch_of_stands (h : List.Forall₂ (Stands taken) slots entries)
    {ms : List Matcher} (hms : slots.mapM compile = .ok ms) (tag : String) :
    firstMatch ms tag = entries.lookup tag := by
  induction h generalizing ms with
  | nil =>
      rw [List.mapM_nil] at hms
      rw [← Except.ok.inj hms]
      rfl
  | @cons s entry slots entries hs _ ih =>
      obtain ⟨name, path⟩ := entry
      rw [List.mapM_cons] at hms
      cases hm : s.compile with
      | error e => simp [hm, bind, Except.bind] at hms
      | ok m =>
          cases hrest : slots.mapM compile with
          | error e => simp [hm, hrest, bind, Except.bind] at hms
          | ok rest =>
              simp only [hm, hrest, bind, Except.bind, pure, Except.pure,
                Except.ok.injEq] at hms
              obtain ⟨htest, happly⟩ := hs.compile hm tag
              have hih : firstMatch rest tag = entries.lookup tag := ih hrest
              unfold firstMatch at hih ⊢
              rw [← hms, List.find?_cons, htest, List.lookup_cons]
              by_cases htag : tag = name
              · simp [htag, ← happly htag]
              · have hbeq : (tag == name) = false := by simpa using htag
                simp only [htag, decide_false, hbeq]
                exact hih

theorem exists_mapM_compile (h : List.Forall₂ (Stands taken) slots entries)
    (hsize : ∀ entry ∈ entries,
      (Pattern.anchored entry.1.toList).bytes ≤ Pattern.sizeLimit) :
    ∃ ms, slots.mapM compile = .ok ms := by
  induction h with
  | nil => exact ⟨[], rfl⟩
  | @cons s entry slots entries hs _ ih =>
      obtain ⟨m, hm⟩ := Stands.exists_compile hs (hsize entry (by simp))
      obtain ⟨ms, hms⟩ := ih fun e he => hsize e (by simp [he])
      rw [List.mapM_cons, hm, hms]
      exact ⟨m :: ms, rfl⟩

theorem Stands.skip {s : Slot} {entry : String × String} {name : String}
    (h : s.Stands taken entry) (hne : entry.1 ≠ name) : s.Stands (name :: taken) entry where
  pattern := h.pattern
  path := h.path
  scanned := by
    rw [h.scanned]
    simp [hne]

theorem stands_skip {name : String} (h : List.Forall₂ (Stands taken) slots entries)
    (hne : name ∉ entries.map Prod.fst) : List.Forall₂ (Stands (name :: taken)) slots entries := by
  induction h with
  | nil => exact .nil
  | cons hs _ ih =>
      rw [List.map_cons, List.mem_cons, not_or] at hne
      exact .cons (hs.skip (Ne.symm hne.1)) (ih hne.2)

/-- **Placing the slot of an entry inserts the entry.** -/
theorem stands_place {slot : Slot} {name path : String}
    (h : List.Forall₂ (Stands taken) slots entries) (hdistinct : (entries.map Prod.fst).Nodup)
    (hfree : name ∉ taken) (hslot : slot.Stands (name :: taken) (name, path)) :
    List.Forall₂ (Stands (name :: taken)) (place name slot slots)
      (OrderedMap.insertEntries name path entries) := by
  induction h with
  | nil => exact .cons hslot .nil
  | @cons s entry slots entries hs hrest ih =>
      rw [List.map_cons, List.nodup_cons] at hdistinct
      unfold place OrderedMap.insertEntries
      by_cases hname : entry.1 = name
      · have hscanned : s.scanned = some name := by
          rw [hs.scanned, hname, if_neg hfree]
        rw [if_pos hscanned, if_pos hname]
        exact .cons hslot (stands_skip hrest (hname ▸ hdistinct.1))
      · have hscanned : s.scanned ≠ some name := by
          rw [hs.scanned]
          split
          · simp
          · simpa using hname
        rw [if_neg hscanned, if_neg hname]
        exact .cons (hs.skip hname) (ih hdistinct.2)

end Slot

/-! ### Plain custom entries -/

/-- The key is a name between anchors, none of whose characters has a meaning in a pattern, and the
value is a path as it is. -/
structure PlainEntry (entry : String × String) : Prop where
  key : ∃ name : String, entry.1 = "^" ++ name ++ "$" ∧
    ∀ c ∈ name.toList, Pattern.isSyntax c = false
  value : '$' ∉ entry.2.toList
  unaliased : ¬ ['@', '/'] <+: entry.2.toList

namespace Slot

theorem toList_anchored (name : String) :
    ("^" ++ name ++ "$").toList = '^' :: (name.toList ++ ['$']) := by
  simp [String.toList_append]

theorem nameOf_anchored (name : String) : nameOf ("^" ++ name ++ "$") = name := by
  unfold nameOf
  simp

theorem anchored_inj {name other : String} :
    "^" ++ name ++ "$" = "^" ++ other ++ "$" ↔ name = other := by
  refine ⟨fun h => ?_, fun h => by rw [h]⟩
  rw [← nameOf_anchored name, h, nameOf_anchored]

theorem spells_plain {cs : List Char} (h : ∀ c ∈ cs, Pattern.isSyntax c = false) :
    Pattern.Spells cs cs := by
  induction cs with
  | nil => exact .nil
  | cons c cs ih => exact .plain (h c (by simp)) (ih fun d hd => h d (by simp [hd]))

theorem customPath_of_unaliased (cwd : Option Path) (rootDir : Path) {value : String}
    (h : ¬ ['@', '/'] <+: value.toList) : customPath cwd rootDir value = value := by
  unfold customPath
  split
  · next rest hvalue => exact absurd ⟨rest, hvalue.symm⟩ h
  · rfl

theorem stands_ofCustom {entry : String × String} (h : PlainEntry entry) (cwd : Option Path)
    (rootDir : Path) (taken : List String) :
    (ofCustom cwd rootDir entry).Stands (nameOf entry.1 :: taken) (nameOf entry.1, entry.2) := by
  obtain ⟨name, hkey, hplain⟩ := h.key
  have hname : nameOf entry.1 = name := by rw [hkey, nameOf_anchored]
  refine ⟨⟨name.toList, ?_, ?_⟩, .inr ⟨?_, h.value⟩, ?_⟩
  · rw [ofCustom, hkey, toList_anchored]
  · rw [hname]
    exact spells_plain hplain
  · rw [ofCustom, customPath_of_unaliased cwd rootDir h.unaliased]
  · simp [ofCustom]

end Slot

/-! ### All slots of a configuration -/

/-- A map with the custom entries put in under their names. -/
def withCustom (m : OrderedMap String String) (custom : List (String × String)) :
    OrderedMap String String :=
  custom.foldl (fun m entry => m.insert (Slot.nameOf entry.1) entry.2) m

theorem stands_foldl_place (cwd : Option Path) (rootDir : Path) {custom : List (String × String)}
    (hplain : ∀ entry ∈ custom, PlainEntry entry) (hdistinct : (custom.map Prod.fst).Nodup)
    {taken : List String} (hfree : ∀ entry ∈ custom, Slot.nameOf entry.1 ∉ taken)
    {slots : List Slot} {m : OrderedMap String String}
    (h : List.Forall₂ (Slot.Stands taken) slots m.entries) :
    ∃ taken, List.Forall₂ (Slot.Stands taken)
      (custom.foldl (fun slots entry =>
        Slot.place (Slot.nameOf entry.1) (.ofCustom cwd rootDir entry) slots) slots)
      (withCustom m custom).entries := by
  induction custom generalizing taken slots m with
  | nil => exact ⟨taken, h⟩
  | cons entry rest ih =>
      rw [List.map_cons, List.nodup_cons] at hdistinct
      have hentry : PlainEntry entry := hplain entry (by simp)
      have hrest : ∀ e ∈ rest, PlainEntry e := fun e he => hplain e (by simp [he])
      -- Names between anchors are equal only if the keys are, and these are distinct.
      have hnames : ∀ e ∈ rest, Slot.nameOf e.1 ∉ Slot.nameOf entry.1 :: taken := by
        intro e he
        rw [List.mem_cons, not_or]
        refine ⟨fun hname => hdistinct.1 ?_, hfree e (by simp [he])⟩
        obtain ⟨name, hkey, -⟩ := hentry.key
        obtain ⟨other, hother, -⟩ := (hrest e he).key
        rw [hkey, hother, Slot.nameOf_anchored, Slot.nameOf_anchored] at hname
        exact List.mem_map.mpr ⟨e, he, by rw [hkey, hother, hname]⟩
      exact ih hrest hdistinct.2 hnames (m := m.insert (Slot.nameOf entry.1) entry.2)
        (Slot.stands_place h m.distinct (hfree entry (by simp))
          (Slot.stands_ofCustom hentry cwd rootDir taken))

/-- A tag has the custom entry whose key is the tag between anchors, or else what it had. -/
theorem get?_withCustom {custom : List (String × String)}
    (hplain : ∀ entry ∈ custom, PlainEntry entry) (hdistinct : (custom.map Prod.fst).Nodup)
    (m : OrderedMap String String) (tag : String) :
    (withCustom m custom).get? tag = (custom.lookup ("^" ++ tag ++ "$")).or (m.get? tag) := by
  induction custom generalizing m with
  | nil => rfl
  | cons entry rest ih =>
      obtain ⟨key, value⟩ := entry
      rw [List.map_cons, List.nodup_cons] at hdistinct
      obtain ⟨name, hkey, -⟩ := (hplain (key, value) (by simp)).key
      have hkey : key = "^" ++ name ++ "$" := hkey
      show (withCustom (m.insert (Slot.nameOf key) value) rest).get? tag = _
      rw [ih (fun e he => hplain e (by simp [he])) hdistinct.2, OrderedMap.get?_insert,
        List.lookup_cons, hkey, Slot.nameOf_anchored]
      by_cases htag : tag = name
      · have hnone : rest.lookup ("^" ++ name ++ "$") = none := by
          rw [List.lookup_eq_none_iff]
          intro e he
          simp only [ne_eq, bne_iff_ne]
          exact fun heq => hdistinct.1 (List.mem_map.mpr ⟨e, he, by rw [hkey, heq]⟩)
        simp [htag, hnone]
      · have hbeq : ("^" ++ tag ++ "$" == "^" ++ name ++ "$") = false := by
          simpa [Slot.anchored_inj] using htag
        rw [hbeq]
        simp [htag]

end AppBuild
