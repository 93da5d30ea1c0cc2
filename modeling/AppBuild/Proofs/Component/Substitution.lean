/-
What takes the place of a match.

A template is read once for its pattern, and what was read is put together anew for
each match.  The same comes from going over the template itself, from left to right,
with the match at hand: two dollars are one, a dollar with a sign stands for the match
or the text around it, one with digits for the group that the longest of its references
names, and any other for itself (`Matched.substitute`).  That the two agree is shown dollar by
dollar (`substitute_dollar`).

So a matcher gives a tag in which its pattern matches the text before the match, what the
template comes to for it, and the text after it (`apply_parse`).
-/
import Mathlib
import AppBuild.Component.Matcher
import AppBuild.Proofs.Pattern.Span

namespace AppBuild

/-! ### Going over a template -/

/-- A match as templates refer to it. -/
structure Matched where
  before : List Char
  whole : List Char
  after : List Char
  /-- The texts of the groups from the first on; none for one that took no part. -/
  groups : List (Option (List Char))

namespace Matched

/-- The text that digits refer to, if there is a group with their number.  A group that took no part
stands for nothing. -/
def reference? (m : Matched) (digits : List Char) : Option (List Char) :=
  let index := Nat.ofDigitChars 10 digits 0
  if digits.all Char.isDigit ∧ 1 ≤ index ∧ index ≤ m.groups.length then
    some (m.groups[index - 1]?.join.getD [])
  else none

/-- What a template comes to for a match. -/
def substitute (m : Matched) : List Char → List Char
  | [] => []
  | '$' :: '$' :: rest => '$' :: m.substitute rest
  | '$' :: '&' :: rest => m.whole ++ m.substitute rest
  | '$' :: '\x60' :: rest => m.before ++ m.substitute rest
  | '$' :: '\'' :: rest => m.after ++ m.substitute rest
  | '$' :: a :: b :: rest =>
    match m.reference? [a, b], m.reference? [a] with
    | some text, _ => text ++ m.substitute rest
    | none, some text => text ++ m.substitute (b :: rest)
    | none, none => '$' :: m.substitute (a :: b :: rest)
  | ['$', a] => (m.reference? [a]).getD ['$', a]
  | c :: rest => c :: m.substitute rest

/-- The characters that a dollar sign goes together with. -/
def signs : List Char := ['$', '&', '\x60', '\'']

variable {m : Matched} {c a b : Char}

theorem substitute_of_ne (h : c ≠ '$') (rest : List Char) :
    m.substitute (c :: rest) = c :: m.substitute rest := by
  rw [substitute]
  all_goals simp [h]

theorem substitute_two (h : a ∉ signs) (rest : List Char) :
    m.substitute ('$' :: a :: b :: rest) =
      match m.reference? [a, b], m.reference? [a] with
      | some text, _ => text ++ m.substitute rest
      | none, some text => text ++ m.substitute (b :: rest)
      | none, none => '$' :: m.substitute (a :: b :: rest) := by
  simp only [signs, List.mem_cons, List.not_mem_nil, or_false, not_or] at h
  rw [substitute]
  all_goals simp [h]

theorem substitute_one (h : a ∉ signs) :
    m.substitute ['$', a] = (m.reference? [a]).getD ['$', a] := by
  simp only [signs, List.mem_cons, List.not_mem_nil, or_false, not_or] at h
  rw [substitute]
  all_goals simp [h]

end Matched

/-- A match in a text as the templates of a pattern with so many groups refer to it. -/
def Pattern.Match.matched (found : Pattern.Match) (text : List Char) (groups : Nat) : Matched where
  before := text.take found.start
  whole := Replacement.slice text (found.start, found.stop)
  after := text.drop found.stop
  groups := (List.range groups).map fun i =>
    (found.group? (i + 1)).map (Replacement.slice text)

namespace Replacement

variable (found : Pattern.Match) (text : List Char) (groups : Nat)

/-! ### What digits refer to -/

/-- A number that is that of a group refers to what the group stands for. -/
def groupText? (index : Nat) : Option (List Char) :=
  if 1 ≤ index ∧ index ≤ groups then some (expandPart found text (.group index)) else none

/-- The digits in a text refer to the group of their number. -/
theorem reference?_eq (digits : List Char) :
    (found.matched text groups).reference? digits =
      if digits.all Char.isDigit then
        groupText? found text groups (Nat.ofDigitChars 10 digits 0)
      else none := by
  unfold Matched.reference? groupText? Pattern.Match.matched
  simp only [List.length_map, List.length_range]
  by_cases hdigits : digits.all Char.isDigit = true
  · simp only [hdigits, true_and, if_true]
    split
    · next hindex =>
        have hlt : Nat.ofDigitChars 10 digits 0 - 1 < groups := by omega
        have hsucc : Nat.ofDigitChars 10 digits 0 - 1 + 1 = Nat.ofDigitChars 10 digits 0 := by
          omega
        rw [List.getElem?_map, List.getElem?_range hlt, Option.map_some, hsucc]
        rfl
    · rfl
  · simp [hdigits]

theorem reference?_one (a : Char) :
    (found.matched text groups).reference? [a] =
      (digit? a).bind (groupText? found text groups) := by
  have hnumber : Nat.ofDigitChars 10 [a] 0 = a.toNat - 48 := by
    show 10 * 0 + (a.toNat - 48) = a.toNat - 48
    omega
  rw [reference?_eq, hnumber]
  unfold digit?
  cases ha : a.isDigit <;> simp [ha]

theorem reference?_two (a b : Char) :
    (found.matched text groups).reference? [a, b] =
      (digit? a).bind fun n => (digit? b).bind fun n' =>
        groupText? found text groups (n * 10 + n') := by
  have hnumber : Nat.ofDigitChars 10 [a, b] 0 = (a.toNat - 48) * 10 + (b.toNat - 48) := by
    show 10 * (10 * 0 + (a.toNat - 48)) + (b.toNat - 48) = _
    omega
  rw [reference?_eq, hnumber]
  unfold digit?
  cases ha : a.isDigit <;> cases hb : b.isDigit <;> simp [ha, hb]

/-! ### One dollar sign -/

/-- What is read after a dollar sign that no sign follows. -/
theorem reference_of_not_mem {a : Char} (h : a ∉ Matched.signs) (rest : List Char) :
    reference groups (a :: rest) =
      match (digit? a).bind fun n => groupReference? groups n (rest.head?.bind digit?) with
      | some (index, n) => (some (.group index), n)
      | none => (none, 0) := by
  simp only [Matched.signs, List.mem_cons, List.not_mem_nil, or_false, not_or] at h
  unfold reference
  simp only [h, if_false]
  cases digit? a <;> rfl

/-- What is read after a dollar sign stands for what the template comes to there. -/
def Agrees (rest : List Char) : Prop :=
  (found.matched text groups).substitute ('$' :: rest) =
    ((reference groups rest).1.map (expandPart found text)).getD ['$'] ++
      (found.matched text groups).substitute (rest.drop (reference groups rest).2)

theorem agrees_of_mem {a : Char} (h : a ∈ Matched.signs) (rest : List Char) :
    Agrees found text groups (a :: rest) := by
  unfold Agrees
  simp only [Matched.signs, List.mem_cons, List.not_mem_nil, or_false] at h
  rcases h with rfl | rfl | rfl | rfl
  all_goals simp [reference, Matched.substitute, expandPart, Pattern.Match.matched, Pattern.Match.group?]

theorem agrees_of_not_mem {a : Char} (h : a ∉ Matched.signs) (rest : List Char) :
    Agrees found text groups (a :: rest) := by
  unfold Agrees
  rw [reference_of_not_mem groups h]
  cases rest with
  | nil =>
      have hne : a ≠ '$' := by
        rintro rfl
        exact h (by simp [Matched.signs])
      have hself : (found.matched text groups).substitute [a] = [a] := by
        simp [Matched.substitute_of_ne hne, Matched.substitute]
      rw [Matched.substitute_one h, reference?_one]
      cases digit? a with
      | none => simp [hself]
      | some index =>
          unfold groupText? groupReference?
          by_cases hone : 1 ≤ index ∧ index ≤ groups
          · simp [if_pos hone, Matched.substitute]
          · simp [if_neg hone, hself]
  | cons b rest =>
      rw [Matched.substitute_two h, reference?_one, reference?_two, List.head?_cons,
        Option.bind_some]
      cases digit? a with
      | none => rfl
      | some index =>
          unfold groupText? groupReference?
          cases digit? b with
          | none =>
              by_cases hone : 1 ≤ index ∧ index ≤ groups
              · simp [if_pos hone]
              · simp [if_neg hone]
          | some n =>
              by_cases htwo : 1 ≤ index * 10 + n ∧ index * 10 + n ≤ groups
              · simp [if_pos htwo]
              · by_cases hone : 1 ≤ index ∧ index ≤ groups
                · simp [if_neg htwo, if_pos hone]
                · simp [if_neg htwo, if_neg hone]

/-- **After each dollar sign the same is read as the template comes to.** -/
theorem substitute_dollar (rest : List Char) : Agrees found text groups rest := by
  cases rest with
  | nil =>
      unfold Agrees
      simp [reference, Matched.substitute]
  | cons a rest =>
      by_cases h : a ∈ Matched.signs
      · exact agrees_of_mem found text groups h rest
      · exact agrees_of_not_mem found text groups h rest

/-! ### Whole templates -/

theorem expand_flush (literal : List Char) :
    (flush literal).flatMap (expandPart found text) = literal.reverse := by
  unfold flush
  cases literal with
  | nil => rfl
  | cons c literal => simp [expandPart]

/-- What is read from a place of a template on, after the literal text at hand. -/
theorem expand_parseFrom (skip : Nat) (literal cs : List Char) :
    (parseFrom groups skip literal cs).flatMap (expandPart found text) =
      literal.reverse ++ (found.matched text groups).substitute (cs.drop skip) := by
  induction cs generalizing skip literal with
  | nil =>
      cases skip <;>
        simp [parseFrom, expand_flush, Matched.substitute]
  | cons c cs ih =>
      cases skip with
      | succ skip => exact ih skip literal
      | zero =>
          rw [parseFrom, List.drop_zero]
          by_cases hc : c = '$'
          · subst hc
            rw [if_pos rfl, substitute_dollar found text groups cs]
            split
            · next n hreference =>
                rw [hreference, ih]
                simp
            · next part n hreference =>
                rw [hreference, List.flatMap_append, List.flatMap_cons, expand_flush, ih]
                simp
          · rw [if_neg hc, ih, Matched.substitute_of_ne hc]
            simp

/-- **What was read of a template comes to what the template does.** -/
theorem expand_parse_eq (template : String) :
    (parse template groups).expand found text =
      (found.matched text groups).substitute template.toList := by
  unfold expand parse
  rw [expand_parseFrom]
  rfl

/-! ### The groups that are read -/

theorem index_le_of_groupReference? {a : Nat} {b : Option Nat} {index n : Nat}
    (h : groupReference? groups a b = some (index, n)) : index ≤ groups := by
  unfold groupReference? at h
  repeat' split at h
  all_goals cases h
  all_goals omega

theorem index_le_of_reference {rest : List Char} {index n : Nat}
    (h : reference groups rest = (some (.group index), n)) : index ≤ groups := by
  cases rest with
  | nil => exact absurd h (by simp [reference])
  | cons a rest =>
      by_cases ha : a ∈ Matched.signs
      · simp only [Matched.signs, List.mem_cons, List.not_mem_nil, or_false] at ha
        -- Of the signs only one stands for a group, which is the match itself.
        rcases ha with rfl | rfl | rfl | rfl
        all_goals simp [reference] at h
        omega
      · rw [reference_of_not_mem groups ha] at h
        split at h
        · next index' n' hreference =>
            obtain ⟨number, -, hreference⟩ := Option.bind_eq_some_iff.mp hreference
            obtain ⟨hpart, -⟩ := Prod.mk.inj h
            cases hpart
            exact index_le_of_groupReference? groups hreference
        · exact absurd h (by simp)

theorem index_le_of_mem_parseFrom {skip : Nat} {literal cs : List Char} {index : Nat}
    (h : .group index ∈ parseFrom groups skip literal cs) : index ≤ groups := by
  have hflush : ∀ literal : List Char, .group index ∉ flush literal := by
    intro literal
    unfold flush
    split <;> simp
  induction cs generalizing skip literal with
  | nil => cases skip <;> exact absurd h (hflush literal)
  | cons c cs ih =>
      cases skip with
      | succ skip => exact ih h
      | zero =>
          rw [parseFrom] at h
          split at h
          · split at h
            · exact ih h
            · next part n hreference =>
                rcases List.mem_append.mp h with h | h
                · exact absurd h (hflush literal)
                · rcases List.mem_cons.mp h with rfl | h
                  · exact index_le_of_reference groups hreference
                  · exact ih h
          · exact ih h

end Replacement

namespace Matcher

/--
**What a matcher makes of a tag.**  Say the pattern of a matcher matches first so in a
tag, and what takes the place of the match is a template read for the groups of the
pattern.  Then the match cuts the tag in three, and the tag becomes the text before the
match, what the template comes to for it, and the text after it.  The template refers to
no group that the pattern does not have.
-/
theorem apply_parse (p : Pattern) (template : String) {tag : String} {found : Pattern.Match}
    (h : p.find? tag.toList = some found) :
    let m := found.matched tag.toList p.groups
    tag.toList = m.before ++ m.whole ++ m.after ∧
    (Replacement.parse template p.groups).expand found tag.toList =
      m.substitute template.toList ∧
    (⟨p, .parse template p.groups⟩ : Matcher).apply tag =
      String.ofList (m.before ++ m.substitute template.toList ++ m.after) ∧
    ∀ index, .group index ∈ (Replacement.parse template p.groups).parts →
      index ≤ p.groups := by
  have hspans : found.Spans tag.toList.length := Pattern.Node.spans_find? h
  have hexpand := Replacement.expand_parse_eq found tag.toList p.groups template
  refine ⟨hspans.split, hexpand, ?_, fun index => Replacement.index_le_of_mem_parseFrom p.groups⟩
  unfold apply
  simp only [h, hexpand]
  rfl

/-! ### A group that takes no part -/

/-- A pattern with two groups, of which the second need not be there. -/
def optionalGroup : Pattern where
  source := "(a)(b)?"
  node := .seq (.capture 1 (.word ['a']))
    (.repeat 0 0 (some 1) true (.capture 2 (.word ['b'])))

/-- A template with every kind of reference, and dollars that are none. -/
def allReferences : String := "[$`|$&|$'|$1|$2|$02|$12|$$|$3|$]"

/-- Where there is no twelfth group, the first one is meant, with a digit after it. -/
theorem allReferences_apply :
    Pattern.compile "(a)(b)?" = .ok optionalGroup ∧
    optionalGroup.find? "xay".toList = some ⟨1, 2, [(3, 2), (2, 1)]⟩ ∧
    (⟨optionalGroup, .parse allReferences optionalGroup.groups⟩ : Matcher).apply "xay" =
      "x[x|a|y|a|||a2|$|$3|$]y" := by
  have hfind : optionalGroup.find? "xay".toList = some ⟨1, 2, [(3, 2), (2, 1)]⟩ := by cbv
  obtain ⟨-, -, happly, -⟩ := apply_parse optionalGroup allReferences hfind
  exact ⟨by cbv, hfind, happly.trans (by decide)⟩

end Matcher
end AppBuild
