/-
Loads whose quotes do not fit.

A call that code can hold has its specifier between two quotes of one kind
(`IsEvenLoad`).  A redirect asks for a quote on either side and does not compare the two,
so it takes one more form for a load, with a quote of each kind (`IsCrossedLoad`).  That is
no call: one of its quotes belongs to a literal around it, which the redirect breaks, as
in a string that ends after the name of a module (`unclosed_call_redirected`).

The service chunk without any proper load of its two specifiers therefore stays as it is
exactly if it has no crossed one either.
-/
import AppBuild.Proofs.Bundle.Settled

namespace AppBuild.Redirect

open Unicode.Folding

/-! ### The two kinds of loads -/

/-- The text is a load of the specifier between these two characters. -/
def IsLoadBetween (opening closing : Char) (specifier : String) (load : List Char) : Prop :=
  ∃ word inside, load = word ++ '(' :: opening :: (inside ++ [closing, ')']) ∧
    SameButCase word loadWord ∧ SameButCase inside specifier.toList

/-- The text is a load whose quotes are of one kind. -/
def IsEvenLoad (specifier : String) (load : List Char) : Prop :=
  ∃ quote, IsQuote quote ∧ IsLoadBetween quote quote specifier load

/-- The text has the form of a load but for its quotes, which differ. -/
def IsCrossedLoad (specifier : String) (load : List Char) : Prop :=
  ∃ opening closing, IsQuote opening ∧ IsQuote closing ∧ opening ≠ closing ∧
    IsLoadBetween opening closing specifier load

/-- The code holds no text of this kind for a specifier that is sent elsewhere in the service
chunk. -/
def ServiceLacks (kind : String → List Char → Prop) (code : String) : Prop :=
  ∀ s ∈ [Chunk.librarySpecifier, Chunk.sharedSpecifier], ∀ load, kind s load →
    ¬ load <:+: code.toList

variable {s : String} {load : List Char}

/-- What a redirect looks for is a load of either kind. -/
theorem isLoad_iff : IsLoad s load ↔ IsEvenLoad s load ∨ IsCrossedLoad s load := by
  constructor
  · intro h
    obtain ⟨word, opening, inside, closing, hform, hword, hopening, hclosing, hinside⟩ := h
    have hbetween : IsLoadBetween opening closing s load :=
      ⟨word, inside, hform, hword, hinside⟩
    by_cases hquotes : opening = closing
    · subst hquotes
      exact Or.inl ⟨opening, hopening, hbetween⟩
    · exact Or.inr ⟨opening, closing, hopening, hclosing, hquotes, hbetween⟩
  · intro h
    rcases h with ⟨quote, hquote, word, inside, hform, hword, hinside⟩ |
      ⟨opening, closing, hopening, hclosing, -, word, inside, hform, hword, hinside⟩
    · exact ⟨word, quote, inside, quote, hform, hword, hquote, hquote, hinside⟩
    · exact ⟨word, opening, inside, closing, hform, hword, hopening, hclosing, hinside⟩

theorem serviceLacks_isLoad_iff {code : String} :
    ServiceLacks IsLoad code ↔
      ServiceLacks IsEvenLoad code ∧ ServiceLacks IsCrossedLoad code := by
  constructor
  · intro h
    refine ⟨?_, ?_⟩
    · intro s hs load heven
      exact h s hs load (isLoad_iff.mpr (Or.inl heven))
    · intro s hs load hcrossed
      exact h s hs load (isLoad_iff.mpr (Or.inr hcrossed))
  · intro h s hs load hload
    rcases isLoad_iff.mp hload with heven | hcrossed
    · exact h.1 s hs load heven
    · exact h.2 s hs load hcrossed

/-- **The service chunk stays as it is exactly if it holds nothing that a redirect looks for.** -/
theorem routeService_eq_self_iff {code : String} :
    Chunk.routeService code = code ↔ ServiceLacks IsLoad code := by
  constructor
  · intro hsame s hs load hload hholds
    rw [← hsame] at hholds
    exact not_infix_routeService code hs hload hholds
  · intro hlacks
    rw [← String.toList_inj, toList_routeService]
    exact route_eq_self hlacks

/--
**A service chunk without proper loads stays as it is exactly if it has no crossed one.**
Where one stands it is replaced, though one of its quotes ends or begins a literal that
the load is not part of.
-/
theorem routeService_eq_self_iff_of_even (code : String) (heven : ServiceLacks IsEvenLoad code) :
    Chunk.routeService code = code ↔ ServiceLacks IsCrossedLoad code := by
  rw [routeService_eq_self_iff, serviceLacks_isLoad_iff]
  exact and_iff_right heven

/-- Loads of modules with similar names are none of the two. -/
theorem similar_specifiers_kept :
    ServiceLacks IsEvenLoad "require('vuex');require('@vue/shared')" ∧
    Chunk.routeService "require('vuex');require('@vue/shared')"
      = "require('vuex');require('@vue/shared')" := by
  have hlacks : ServiceLacks IsLoad "require('vuex');require('@vue/shared')" := by
    intro s hs
    refine find?_callNodes_eq_none_iff.mp ?_
    revert s
    decide +kernel
  obtain ⟨heven, hcrossed⟩ := serviceLacks_isLoad_iff.mp hlacks
  exact ⟨heven, (routeService_eq_self_iff_of_even _ heven).mpr hcrossed⟩

/-! ### A string that ends after the name of a module -/

/-- What a load in a text leaves of the text is what is left at one of the places in it. -/
theorem exists_tail_of_infix (hload : IsLoad s load) {text : List Char} (h : load <:+: text) :
    ∃ tail ∈ text.tails, load <+: tail ∧ (dropLoad? s tail).isSome := by
  obtain ⟨before, after, htext⟩ := h
  refine ⟨load ++ after, ?_, List.prefix_append _ _, ?_⟩
  · rw [List.mem_tails]
    exact ⟨before, by rw [← htext, List.append_assoc]⟩
  · rw [dropLoad?_eq_some_iff.mpr ⟨load, hload, rfl⟩]
    rfl

/-- A load between quotes of one kind has two of them. -/
theorem IsLoadBetween.two_le_count {quote : Char} (h : IsLoadBetween quote quote s load) :
    2 ≤ load.count quote := by
  obtain ⟨word, inside, rfl, -, -⟩ := h
  simp only [List.count_append, List.count_cons, List.count_nil, beq_self_eq_true, if_true]
  omega

/-- A string that ends after the name of a module has no proper load in it, but the end of the
string is taken for the end of a load, and the string is left open. -/
theorem unclosed_call_redirected :
    ServiceLacks IsEvenLoad "log(\"require('vue\")" ∧
    Chunk.routeService "log(\"require('vue\")" = "log(\"$cjs_require$('vue')" := by
  have hreplaced : Chunk.routeService "log(\"require('vue\")" = "log(\"$cjs_require$('vue')" := by
    rw [routeService_eq, applyAll_eq_replaceLoads]
    decide +kernel
  refine ⟨?_, hreplaced⟩
  intro s hs load heven hholds
  obtain ⟨tail, htail, hstarts, hdrop⟩ :=
    exists_tail_of_infix (isLoad_iff.mpr (Or.inl heven)) hholds
  have honly : ∀ s ∈ [Chunk.librarySpecifier, Chunk.sharedSpecifier],
      ∀ tail ∈ "log(\"require('vue\")".toList.tails, (dropLoad? s tail).isSome →
        tail = "require('vue\")".toList := by
    decide +kernel
  obtain ⟨quote, hquote, hbetween⟩ := heven
  have htwo : 2 ≤ load.count quote := hbetween.two_le_count
  have hle : load.count quote ≤ "require('vue\")".toList.count quote := by
    rw [← honly s hs tail htail hdrop]
    exact hstarts.sublist.count_le quote
  have hone : "require('vue\")".toList.count quote = 1 := by
    rcases hquote with rfl | rfl <;> decide
  omega

end AppBuild.Redirect
