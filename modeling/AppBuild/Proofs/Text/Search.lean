/-
What stands in a text that is cut at marks.

Cutting undoes joining: parts without the mark, joined by it, are cut into these parts
again, and any text is its parts joined (`splitAll_intercalate`, `intercalate_splitAll`).

A word can stand in such a text in two ways.  A word without the mark stands on one side of
it (`infix_append_cons_iff`).  A word with one mark in it stands around a mark of the text:
there are two parts next to each other, of which the first ends with what the word has
before the mark and the second begins with the rest (`infix_around_iff`).
-/
import AppBuild.Text.Search
import Mathlib.Data.List.Infix
import Mathlib.Data.List.TakeWhile

namespace AppBuild

variable {α : Type} {mark : α}

/-! ### Words -/

/-- **A word without the mark stands before it or after it.** -/
theorem infix_append_cons_iff {word before after : List α} (h : mark ∉ word) :
    word <:+: before ++ mark :: after ↔ word <:+: before ∨ word <:+: after := by
  constructor
  · intro hword
    rcases List.infix_append_iff.mp hword with hbefore | hafter | ⟨left, right, rfl, hleft, hright⟩
    · exact .inl hbefore
    · rcases List.infix_cons_iff.mp hafter with hprefix | hinfix
      · rcases List.prefix_cons_iff.mp hprefix with rfl | ⟨rest, rfl, -⟩
        · exact .inl List.nil_infix
        · exact absurd List.mem_cons_self h
      · exact .inr hinfix
    · rcases List.prefix_cons_iff.mp hright with rfl | ⟨rest, rfl, -⟩
      · rw [List.append_nil]
        exact .inl hleft.isInfix
      · exact absurd (by simp) h
  · intro hword
    rcases hword with hbefore | hafter
    · exact List.infix_append_of_infix_left hbefore
    · exact hafter.trans ((List.suffix_cons mark after).trans (List.suffix_append ..)).isInfix

/-- Parts next to each other stand joined in what all parts are joined to. -/
theorem infix_intercalate (sep : List α) (before : List (List α)) (first second : List α)
    (after : List (List α)) :
    first ++ sep ++ second <:+: sep.intercalate (before ++ first :: second :: after) := by
  induction before with
  | nil =>
      rw [List.nil_append, List.intercalate_cons_cons]
      have hsecond : second <+: sep.intercalate (second :: after) := by
        cases after with
        | nil => rw [List.intercalate_singleton]
        | cons part after =>
            rw [List.intercalate_cons_cons, List.append_assoc]
            exact List.prefix_append ..
      exact ((List.prefix_append_right_inj _).mpr hsecond).isInfix
  | cons part before ih =>
      rw [List.cons_append, List.intercalate_cons_of_ne_nil (by simp)]
      exact ih.trans (List.suffix_append ..).isInfix

variable [BEq α]

section

variable [LawfulBEq α]

/-- **A word is found exactly when it stands in the text.** -/
theorem occursIn_iff {needle as : List α} : occursIn needle as = true ↔ needle <:+: as := by
  induction as with
  | nil => simp [occursIn]
  | cons a as ih =>
      rw [occursIn, Bool.or_eq_true, List.isPrefixOf_iff_prefix, ih, List.infix_cons_iff]

/-! ### The first mark -/

theorem cutAt_append {before : List α} (h : mark ∉ before) (after : List α) :
    cutAt mark (before ++ mark :: after) = (before, some after) := by
  have hbefore : (before ++ mark :: after).takeWhile (· != mark) = before := by
    rw [List.takeWhile_append_of_pos (fun a ha => by simpa using ne_of_mem_of_not_mem ha h)]
    simp
  unfold cutAt
  simp only [hbefore, List.drop_left]

theorem cutAt_of_not_mem {as : List α} (h : mark ∉ as) : cutAt mark as = (as, none) := by
  have hall : as.takeWhile (· != mark) = as :=
    List.takeWhile_eq_self_iff.mpr (fun a ha => by simpa using ne_of_mem_of_not_mem ha h)
  unfold cutAt
  simp only [hall, List.drop_length]

/-- A text has no mark, or the part before its first mark has none. -/
theorem cutAt_cases (mark : α) (as : List α) :
    (mark ∉ as ∧ cutAt mark as = (as, none)) ∨
      ∃ before after, mark ∉ before ∧ as = before ++ mark :: after ∧
        cutAt mark as = (before, some after) := by
  by_cases h : mark ∈ as
  · obtain ⟨before, after, rfl, hbefore⟩ := List.eq_append_cons_of_mem h
    exact .inr ⟨before, after, hbefore, rfl, cutAt_append hbefore after⟩
  · exact .inl ⟨h, cutAt_of_not_mem h⟩

end

/-! ### All marks -/

theorem splitAll_eq_splitOn (mark : α) (as : List α) : splitAll mark as = as.splitOn mark := by
  induction as with
  | nil => rw [List.splitOn_nil, splitAll]
  | cons a as ih =>
      obtain ⟨part, parts, hparts⟩ := List.exists_cons_of_ne_nil (List.splitOn_ne_nil mark as)
      rw [splitAll, ih, List.splitOn_cons_eq_if_modifyHead, hparts, List.modifyHead_cons]

theorem splitAll_ne_nil (mark : α) (as : List α) : splitAll mark as ≠ [] := by
  rw [splitAll_eq_splitOn]
  exact List.splitOn_ne_nil mark as

variable [LawfulBEq α]

theorem splitAll_append_cons (before after : List α) :
    splitAll mark (before ++ mark :: after) = splitAll mark before ++ splitAll mark after := by
  simp only [splitAll_eq_splitOn, List.splitOn_append_cons_self]

theorem splitAll_of_not_mem {as : List α} (h : mark ∉ as) : splitAll mark as = [as] := by
  rw [splitAll_eq_splitOn, List.splitOn_eq_singleton h]

theorem splitAll_append {before : List α} (h : mark ∉ before) (after : List α) :
    splitAll mark (before ++ mark :: after) = before :: splitAll mark after := by
  rw [splitAll_append_cons, splitAll_of_not_mem h, List.singleton_append]

/-- What comes before all marks begins the first part. -/
theorem splitAll_append_left {left : List α} (h : mark ∉ left) (as : List α) :
    splitAll mark (left ++ as) = (splitAll mark as).modifyHead (left ++ ·) := by
  rcases cutAt_cases mark as with ⟨has, -⟩ | ⟨before, after, hbefore, rfl, -⟩
  · rw [splitAll_of_not_mem has, splitAll_of_not_mem (by simp [h, has]), List.modifyHead_cons]
  · rw [splitAll_append hbefore, List.modifyHead_cons, ← List.append_assoc,
      splitAll_append (by simp [h, hbefore])]

theorem splitAll_intercalate {parts : List (List α)} (h : ∀ part ∈ parts, mark ∉ part)
    (hne : parts ≠ []) : splitAll mark ([mark].intercalate parts) = parts := by
  rw [splitAll_eq_splitOn, List.splitOn_intercalate mark h hne]

theorem intercalate_splitAll (mark : α) (as : List α) :
    [mark].intercalate (splitAll mark as) = as := by
  rw [splitAll_eq_splitOn, List.intercalate_splitOn]

/-- There is no mark in a part. -/
theorem not_mem_of_mem_splitAll {as part : List α} (h : part ∈ splitAll mark as) :
    mark ∉ part := by
  induction as generalizing part with
  | nil => simp [List.mem_singleton.mp h]
  | cons a as ih =>
      rw [splitAll] at h
      split at h
      · rcases List.mem_cons.mp h with rfl | h
        · simp
        · exact ih h
      · next ha =>
          have ha : mark ≠ a := fun hsame => ha (by simp [hsame])
          split at h
          · simp [List.mem_singleton.mp h, ha]
          · next first parts hparts =>
              rcases List.mem_cons.mp h with rfl | h
              · have hfirst : mark ∉ first := ih (by simp [hparts])
                simp [ha, hfirst]
              · exact ih (by simp [hparts, h])

/-! ### Words around a mark -/

/-- What comes after all marks of a text ends its last part. -/
theorem exists_last_part {right : List α} (h : mark ∉ right) (as : List α) :
    ∃ parts part, splitAll mark (as ++ right) = parts ++ [part] ∧ right <:+ part := by
  by_cases has : mark ∈ as
  · obtain ⟨after, before, hreverse, hafter⟩ :=
      List.eq_append_cons_of_mem (List.mem_reverse.mpr has)
    have hcut : as = before.reverse ++ mark :: after.reverse := by
      rw [← List.reverse_reverse as, hreverse]
      simp
    have hlast : splitAll mark (after.reverse ++ right) = [after.reverse ++ right] :=
      splitAll_of_not_mem (by simp [h, hafter])
    refine ⟨splitAll mark before.reverse, after.reverse ++ right, ?_, List.suffix_append ..⟩
    rw [hcut, List.append_assoc, List.cons_append, splitAll_append_cons, hlast]
  · exact ⟨[], as ++ right, splitAll_of_not_mem (by simp [h, has]), List.suffix_append ..⟩

/-- **A word with one mark in it stands in a text around a mark: it ends one part and begins the
next.** -/
theorem infix_around_iff {left right as : List α} (hleft : mark ∉ left) (hright : mark ∉ right) :
    left ++ mark :: right <:+: as ↔
      ∃ before first second after, splitAll mark as = before ++ first :: second :: after ∧
        left <:+ first ∧ right <+: second := by
  constructor
  · rintro ⟨before, after, rfl⟩
    obtain ⟨parts, first, hparts, hfirst⟩ := exists_last_part hleft before
    obtain ⟨second, parts', hparts'⟩ := List.exists_cons_of_ne_nil (splitAll_ne_nil mark after)
    refine ⟨parts, first, right ++ second, parts', ?_, hfirst, List.prefix_append ..⟩
    have hcut : before ++ (left ++ mark :: right) ++ after =
        (before ++ left) ++ mark :: (right ++ after) := by simp
    rw [hcut, splitAll_append_cons, hparts, splitAll_append_left hright, hparts',
      List.modifyHead_cons, List.append_assoc, List.singleton_append]
  · rintro ⟨before, first, second, after, hparts, ⟨s, rfl⟩, ⟨t, rfl⟩⟩
    have hword : left ++ mark :: right <:+: (s ++ left) ++ [mark] ++ (right ++ t) := ⟨s, t, by simp⟩
    rw [← intercalate_splitAll mark as, hparts]
    exact hword.trans (infix_intercalate [mark] before _ _ after)

end AppBuild
