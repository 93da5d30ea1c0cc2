/-
Redirecting once is enough.

A load and what replaces it are both calls: a name, and in parentheses something that,
for a specifier without parentheses, has none itself.  Such calls overlap only where the
name of one is the end of the name of the other (`name_suffix_of_overlap`), for the
first parenthesis of a text can be cut at in one way.  The resolver and the word that
loads do not end alike, so

* no load starts within what was put in (`not_prefix_replacement`),
* no load starts within another (`eq_load_of_prefix`), and
* what comes later cannot complete a load that was not there (`prefix_of_prefix_route`).

Hence a code gone over has no load left (`not_infix_route`), and going over it for one
specifier after the other is going over it once for all of them (`route_route`).  At one
place there are loads of two specifiers only if these differ at most in case, so the
order of specifiers that differ in more plays no part.
-/
import Mathlib
import AppBuild.Bundle.Chunk
import AppBuild.Proofs.Bundle.Call

namespace AppBuild.Redirect

open Unicode.Folding

/-! ### Texts cut at their first parenthesis -/

/-- There is no parenthesis in the text. -/
def NoParens (cs : List Char) : Prop := '(' ∉ cs ∧ ')' ∉ cs

instance (cs : List Char) : Decidable (NoParens cs) :=
  inferInstanceAs (Decidable (_ ∧ _))

def IsParen (c : Char) : Prop := c = '(' ∨ c = ')'

theorem NoParens.not_isParen {cs : List Char} (h : NoParens cs) {c : Char} (hc : c ∈ cs) :
    ¬ IsParen c := by
  rintro (rfl | rfl)
  · exact h.1 hc
  · exact h.2 hc

theorem NoParens.of_suffix {cs ds : List Char} (h : NoParens ds) (hsuffix : cs <:+ ds) :
    NoParens cs :=
  ⟨fun hc => h.1 (hsuffix.mem hc), fun hc => h.2 (hsuffix.mem hc)⟩

/-- Letters stay letters in another case. -/
theorem NoParens.of_sameButCase {cs ds : List Char} (h : NoParens ds)
    (hsame : SameButCase cs ds) : NoParens cs := by
  have hnot : ∀ p, IsParen p → p ∉ cs := by
    intro p hp hmem
    have hfold : 0 < p.toNat ∧ p.toNat < 65 ∧ fold p = p := by
      rcases hp with rfl | rfl <;> decide
    have hfolded : fold p ∈ ds.map fold := by
      rw [← hsame]
      exact List.mem_map_of_mem hmem
    obtain ⟨c, hc, hcp⟩ := List.mem_map.mp hfolded
    rw [eq_of_fold_eq hfold.1 hfold.2.1 (hcp.trans hfold.2.2)] at hc
    exact h.not_isParen hc hp
  exact ⟨hnot '(' (.inl rfl), hnot ')' (.inr rfl)⟩

/-- A text has one first parenthesis. -/
theorem parts_of_first_paren {before before' after after' : List Char} {p p' : Char}
    (hbefore : NoParens before) (hbefore' : NoParens before') (hp : IsParen p) (hp' : IsParen p')
    (h : before ++ p :: after = before' ++ p' :: after') :
    before = before' ∧ p = p' ∧ after = after' := by
  rcases List.append_eq_append_iff.mp h with ⟨more, hmore, hrest⟩ | ⟨more, hmore, hrest⟩
  · cases more with
    | nil => exact ⟨by simpa using hmore.symm, List.cons.inj hrest⟩
    | cons c more =>
        obtain ⟨rfl, -⟩ := List.cons.inj hrest
        exact absurd hp (hbefore'.not_isParen (by rw [hmore]; simp))
  · cases more with
    | nil =>
        obtain ⟨hpp, hafter⟩ := List.cons.inj hrest
        exact ⟨by simpa using hmore, hpp.symm, hafter.symm⟩
    | cons c more =>
        obtain ⟨rfl, -⟩ := List.cons.inj hrest
        exact absurd hp' (hbefore.not_isParen (by rw [hmore]; simp))

/-! ### Calls that overlap -/

/-- A call of a name. -/
def callText (name inside : List Char) : List Char := name ++ '(' :: (inside ++ [')'])

theorem callText_append (name inside rest : List Char) :
    callText name inside ++ rest = name ++ '(' :: (inside ++ ')' :: rest) := by
  simp [callText]

/-- The end of a call starts in its name, or has no parenthesis but its last. -/
theorem suffix_callText {name inside w : List Char} (h : w <:+ callText name inside)
    (hne : w ≠ []) :
    (∃ u, u <:+ name ∧ w = callText u inside) ∨ ∃ u, u <:+ inside ∧ w = u ++ [')'] := by
  obtain ⟨passed, hpassed⟩ := h
  unfold callText at hpassed
  rcases List.append_eq_append_iff.mp hpassed with ⟨u, hname, hw⟩ | ⟨more, -, hrest⟩
  · exact .inl ⟨u, ⟨passed, hname.symm⟩, hw⟩
  · cases more with
    | nil => exact .inl ⟨[], List.nil_suffix, hrest.symm⟩
    | cons c more =>
        obtain ⟨-, hrest⟩ := List.cons.inj hrest
        rcases List.append_eq_append_iff.mp hrest.symm with ⟨u, hinside, hw⟩ | ⟨u, -, hw⟩
        · exact .inr ⟨u, ⟨more, hinside.symm⟩, hw⟩
        · cases u with
          | nil => exact .inr ⟨[], List.nil_suffix, hw.symm⟩
          | cons d u =>
              have hnil : u ++ w = [] := (List.cons.inj hw).2.symm
              exact absurd (List.append_eq_nil_iff.mp hnil).2 hne

section

variable {name inside name' inside' w rest : List Char} (hname : NoParens name)
  (hinside : NoParens inside) (hname' : NoParens name') (hw : w <:+ callText name inside)
  (hne : w ≠ [])

include hname hinside hname' hw hne

/-- **A call that starts within another starts in its name**, and its name is the end of that name. -/
theorem name_suffix_of_overlap (h : callText name' inside' <+: w ++ rest) :
    name' <:+ name ∧ w = callText name' inside := by
  obtain ⟨more, hmore⟩ := h
  rw [callText_append] at hmore
  rcases suffix_callText hw hne with ⟨u, hu, rfl⟩ | ⟨u, hu, rfl⟩
  · rw [callText_append] at hmore
    obtain ⟨rfl, -, -⟩ := parts_of_first_paren hname' (hname.of_suffix hu) (.inl rfl) (.inl rfl)
      hmore
    exact ⟨hu, rfl⟩
  · rw [List.append_assoc, List.singleton_append] at hmore
    obtain ⟨-, hparen, -⟩ := parts_of_first_paren hname' (hinside.of_suffix hu) (.inl rfl)
      (.inr rfl) hmore
    exact absurd hparen (by decide)

/-- **The end of a call that starts like another call** has the name of that in its own. -/
theorem name_suffix_of_prefix (h : w <+: callText name' inside' ++ rest) : name' <:+ name := by
  obtain ⟨more, hmore⟩ := h
  rw [callText_append] at hmore
  rcases suffix_callText hw hne with ⟨u, hu, rfl⟩ | ⟨u, hu, rfl⟩
  · rw [callText_append] at hmore
    obtain ⟨rfl, -, -⟩ := parts_of_first_paren (hname.of_suffix hu) hname' (.inl rfl) (.inl rfl)
      hmore
    exact hu
  · rw [List.append_assoc, List.singleton_append] at hmore
    obtain ⟨-, hparen, -⟩ := parts_of_first_paren (hinside.of_suffix hu) hname' (.inr rfl)
      (.inl rfl) hmore
    exact absurd hparen (by decide)

end

/-! ### Loads and what replaces them, as calls -/

section

variable {s t : String} {load load' w rest : List Char}

theorem IsQuote.not_isParen {c : Char} (h : IsQuote c) : ¬ IsParen c := by
  rcases h with rfl | rfl <;> rintro (h | h) <;> exact absurd h (by decide)

theorem noParens_quoted {opening closing : Char} {inside : List Char} (hopening : IsQuote opening)
    (hclosing : IsQuote closing) (h : NoParens inside) :
    NoParens (opening :: (inside ++ [closing])) := by
  have hnot : ∀ p, IsParen p → p ∉ opening :: (inside ++ [closing]) := by
    intro p hp hmem
    simp only [List.mem_cons, List.mem_append, List.not_mem_nil, or_false] at hmem
    rcases hmem with rfl | hmem | rfl
    · exact hopening.not_isParen hp
    · exact h.not_isParen hmem hp
    · exact hclosing.not_isParen hp
  exact ⟨hnot '(' (.inl rfl), hnot ')' (.inr rfl)⟩

theorem noParens_of_loadWord {word : List Char} (h : SameButCase word loadWord) : NoParens word :=
  (by decide : NoParens loadWord).of_sameButCase h

theorem length_of_loadWord {word : List Char} (h : SameButCase word loadWord) :
    word.length = 7 := by
  have hlength := congrArg List.length h
  rw [List.length_map, List.length_map] at hlength
  exact hlength

/-- A load is a call of the word. -/
theorem IsLoad.exists_callText (hs : NoParens s.toList) (h : IsLoad s load) :
    ∃ word inside, load = callText word inside ∧ SameButCase word loadWord ∧ NoParens inside := by
  obtain ⟨word, opening, inside, closing, rfl, hword, hopening, hclosing, hinside⟩ := h
  refine ⟨word, opening :: (inside ++ [closing]), ?_, hword,
    noParens_quoted hopening hclosing (hs.of_sameButCase hinside)⟩
  simp [callText]

/-- What replaces a load is a call of the resolver. -/
theorem toList_replacementFor (s : String) :
    (replacementFor s).toList = callText resolver.toList ('\'' :: (s.toList ++ ['\''])) := by
  simp [replacementFor, callText, String.toList_append]

theorem noParens_replaced (hs : NoParens s.toList) : NoParens ('\'' :: (s.toList ++ ['\''])) :=
  noParens_quoted (.inl rfl) (.inl rfl) hs

/-- The resolver does not end in the word. -/
theorem not_suffix_resolver {word : List Char} (h : SameButCase word loadWord) :
    ¬ word <:+ resolver.toList := by
  intro hsuffix
  have hword : word = resolver.toList.drop (resolver.toList.length - word.length) :=
    List.suffix_iff_eq_drop.mp hsuffix
  rw [length_of_loadWord h] at hword
  rw [hword] at h
  exact absurd h (by decide)

/-- **No load starts within what was put in.** -/
theorem not_prefix_replacement (hs : NoParens s.toList) (ht : NoParens t.toList)
    (hload : IsLoad t load) (hw : w <:+ (replacementFor s).toList) (hne : w ≠ []) :
    ¬ load <+: w ++ rest := by
  intro hstarts
  obtain ⟨word, inside, rfl, hword, -⟩ := hload.exists_callText ht
  rw [toList_replacementFor] at hw
  exact not_suffix_resolver hword (name_suffix_of_overlap (by decide) (noParens_replaced hs)
    (noParens_of_loadWord hword) hw hne hstarts).1

/-- **No load starts within another.** -/
theorem eq_load_of_prefix (hs : NoParens s.toList) (ht : NoParens t.toList) (hload : IsLoad s load)
    (hload' : IsLoad t load') (hw : w <:+ load) (hne : w ≠ []) (h : load' <+: w ++ rest) :
    w = load := by
  obtain ⟨word, inside, rfl, hword, hinside⟩ := hload.exists_callText hs
  obtain ⟨word', inside', rfl, hword', -⟩ := hload'.exists_callText ht
  obtain ⟨hsuffix, hwhole⟩ := name_suffix_of_overlap (noParens_of_loadWord hword) hinside
    (noParens_of_loadWord hword') hw hne h
  have hsame : word' = word :=
    hsuffix.eq_of_length ((length_of_loadWord hword').trans (length_of_loadWord hword).symm)
  rw [hwhole, hsame]

/-- No end of a load is the start of what replaces one. -/
theorem eq_nil_of_prefix_replacement (ht : NoParens t.toList) (hload : IsLoad t load)
    (hw : w <:+ load) (h : w <+: (replacementFor s).toList ++ rest) : w = [] := by
  by_contra hne
  obtain ⟨word, inside, rfl, hword, hinside⟩ := hload.exists_callText ht
  rw [toList_replacementFor] at h
  have hsuffix := name_suffix_of_prefix (noParens_of_loadWord hword) hinside (by decide) hw hne h
  have hlength := hsuffix.length_le
  rw [length_of_loadWord hword] at hlength
  exact absurd hlength (by decide)

/-- **At one place there are loads of two specifiers only if these differ at most in case.** -/
theorem eq_of_loads_at (hs : NoParens s.toList) (ht : NoParens t.toList) {rest' : List Char}
    (hload : IsLoad s load) (hload' : IsLoad t load') (h : load ++ rest = load' ++ rest') :
    SameButCase s.toList t.toList ∧ rest = rest' := by
  obtain ⟨word, opening, inside, closing, rfl, hword, hopening, hclosing, hinside⟩ := hload
  obtain ⟨word', opening', inside', closing', rfl, hword', hopening', hclosing', hinside'⟩ := hload'
  have hcalls : word ++ '(' :: (opening :: (inside ++ [closing]) ++ ')' :: rest)
      = word' ++ '(' :: (opening' :: (inside' ++ [closing']) ++ ')' :: rest') := by
    simpa using h
  obtain ⟨-, -, hargs⟩ := parts_of_first_paren (noParens_of_loadWord hword)
    (noParens_of_loadWord hword') (.inl rfl) (.inl rfl) hcalls
  obtain ⟨hquoted, -, hrest⟩ := parts_of_first_paren
    (noParens_quoted hopening hclosing (hs.of_sameButCase hinside))
    (noParens_quoted hopening' hclosing' (ht.of_sameButCase hinside')) (.inr rfl) (.inr rfl) hargs
  have hsame : inside = inside' := (List.append_inj' (List.cons.inj hquoted).2 rfl).1
  rw [hsame] at hinside
  exact ⟨hinside.symm.trans hinside', hrest⟩

end

/-! ### No load is left -/

section

variable {specifiers : List String} {t : String} {load : List Char}

theorem firstLoad?_eq_none_iff {text : List Char} :
    firstLoad? specifiers text = none ↔
      ∀ s ∈ specifiers, ∀ load, IsLoad s load → ¬ load <+: text := by
  unfold firstLoad?
  rw [List.findSome?_eq_none_iff]
  refine forall₂_congr fun s _ => ?_
  rw [Option.map_eq_none_iff]
  constructor
  · rintro hnone load hload ⟨rest, hsplit⟩
    have hsome := dropLoad?_eq_some_iff.mpr ⟨load, hload, hsplit.symm⟩
    rw [hnone] at hsome
    exact absurd hsome (by simp)
  · intro hnot
    cases hdrop : dropLoad? s text with
    | none => rfl
    | some rest =>
        obtain ⟨load, hload, hsplit⟩ := dropLoad?_eq_some_iff.mp hdrop
        exact absurd ⟨rest, hsplit.symm⟩ (hnot load hload)

/-- **The end of a load that starts what was gone over was there before.** -/
theorem prefix_of_prefix_route (ht : NoParens t.toList) (hload : IsLoad t load) {w : List Char}
    (hw : w <:+ load) {text : List Char} (h : w <+: route specifiers text) : w <+: text := by
  induction text using route.induct specifiers generalizing w with
  | case1 => rwa [route_nil] at h
  | case2 c rest s after hfirst _ ih =>
      rw [route_load hfirst] at h
      rw [eq_nil_of_prefix_replacement ht hload hw h]
      exact List.nil_prefix
  | case3 c rest hfirst ih =>
      rw [route_none hfirst] at h
      cases w with
      | nil => exact List.nil_prefix
      | cons d w =>
          obtain ⟨rfl, htail⟩ := List.cons_prefix_cons.mp h
          exact List.cons_prefix_cons.mpr ⟨rfl, ih ((List.suffix_cons d w).trans hw) htail⟩

/-- So a load that starts one character before was there before, too. -/
theorem prefix_cons_of_route (ht : NoParens t.toList) (hload : IsLoad t load) {c : Char}
    {rest : List Char} (h : load <+: c :: route specifiers rest) : load <+: c :: rest := by
  cases hcons : load with
  | nil => exact absurd hcons hload.ne_nil
  | cons d tail =>
      rw [hcons] at h
      obtain ⟨rfl, htail⟩ := List.cons_prefix_cons.mp h
      have hsuffix : tail <:+ load := by
        rw [hcons]
        exact List.suffix_cons d tail
      exact List.cons_prefix_cons.mpr ⟨rfl, prefix_of_prefix_route ht hload hsuffix htail⟩

/-- What stands in two texts in a row starts in the first or stands in the second. -/
theorem infix_append_cases {w cs ds : List Char} (h : w <:+: cs ++ ds) :
    (∃ u, u <:+ cs ∧ u ≠ [] ∧ w <+: u ++ ds) ∨ w <:+: ds := by
  obtain ⟨passed, rest, hsplit⟩ := h
  rw [List.append_assoc] at hsplit
  rcases List.append_eq_append_iff.mp hsplit with ⟨u, hcs, hu⟩ | ⟨more, -, hds⟩
  · cases u with
    | nil => exact .inr ⟨[], rest, hu⟩
    | cons c u => exact .inl ⟨c :: u, ⟨passed, hcs.symm⟩, by simp, ⟨rest, hu⟩⟩
  · exact .inr ⟨more, rest, by rw [hds, List.append_assoc]⟩

variable (hparens : ∀ s ∈ specifiers, NoParens s.toList)

include hparens

/-- **After a code was gone over no load is left in it.** -/
theorem not_infix_route (ht : t ∈ specifiers) (hload : IsLoad t load) (text : List Char) :
    ¬ load <:+: route specifiers text := by
  induction text using route.induct specifiers with
  | case1 =>
      rw [route_nil]
      intro h
      exact hload.ne_nil (List.eq_nil_of_infix_nil h)
  | case2 c rest s after hfirst _ ih =>
      rw [route_load hfirst]
      intro h
      have hs := hparens s (exists_of_firstLoad? hfirst).1
      rcases infix_append_cases h with ⟨u, hu, hne, hstarts⟩ | hrest
      · exact not_prefix_replacement hs (hparens t ht) hload hu hne hstarts
      · exact ih hrest
  | case3 c rest hfirst ih =>
      rw [route_none hfirst]
      intro h
      rcases List.infix_cons_iff.mp h with hstarts | hrest
      · -- The load would have been there before, and replaced.
        exact firstLoad?_eq_none_iff.mp hfirst t ht load hload
          (prefix_cons_of_route (hparens t ht) hload hstarts)
      · exact ih hrest

end

/-- Without loads there is nothing to do. -/
theorem route_eq_self {specifiers : List String} {text : List Char}
    (h : ∀ s ∈ specifiers, ∀ load, IsLoad s load → ¬ load <:+: text) :
    route specifiers text = text := by
  induction text with
  | nil => exact route_nil
  | cons c rest ih =>
      have hnone : firstLoad? specifiers (c :: rest) = none :=
        firstLoad?_eq_none_iff.mpr fun s hs load hload hstarts =>
          h s hs load hload hstarts.isInfix
      rw [route_none hnone, ih fun s hs load hload hholds =>
        h s hs load hload (hholds.trans (List.suffix_cons c rest).isInfix)]

/-! ### One specifier after the other -/

section

variable {specifiers : List String}

/-- A text in which no load starts is taken over. -/
theorem route_append {cs ds : List Char}
    (h : ∀ u, u <:+ cs → u ≠ [] → firstLoad? specifiers (u ++ ds) = none) :
    route specifiers (cs ++ ds) = cs ++ route specifiers ds := by
  induction cs with
  | nil => rfl
  | cons c cs ih =>
      have hnone : firstLoad? specifiers (c :: (cs ++ ds)) = none :=
        h (c :: cs) (List.suffix_refl _) (by simp)
      rw [List.cons_append, route_none hnone,
        ih fun u hu hne => h u (hu.trans (List.suffix_cons c cs)) hne, List.cons_append]

theorem firstLoad?_concat (s : String) (text : List Char) :
    firstLoad? (specifiers ++ [s]) text =
      (firstLoad? specifiers text).or (firstLoad? [s] text) := by
  unfold firstLoad?
  rw [List.findSome?_append]

variable {s : String} (hparens : ∀ t ∈ specifiers, NoParens t.toList) (hs : NoParens s.toList)

include hparens hs

/-- **Going over a code for one specifier more** is going over it for all of them at once. -/
theorem route_route (text : List Char) :
    route [s] (route specifiers text) = route (specifiers ++ [s]) text := by
  have hone : ∀ r ∈ [s], NoParens r.toList := fun r hr => by rwa [List.mem_singleton.mp hr]
  induction text using route.induct (specifiers ++ [s]) with
  | case1 => rw [route_nil, route_nil, route_nil]
  | case2 c rest r after hfirst _ ih =>
      rw [route_load hfirst, ← ih]
      rw [firstLoad?_concat] at hfirst
      cases hearlier : firstLoad? specifiers (c :: rest) with
      | some found =>
          rw [hearlier, Option.some_or] at hfirst
          rw [Option.some.inj hfirst] at hearlier
          have hr := hparens r (exists_of_firstLoad? hearlier).1
          rw [route_load hearlier]
          refine route_append fun u hu hne => firstLoad?_eq_none_iff.mpr fun t ht load hload => ?_
          exact not_prefix_replacement hr (hone t ht) hload hu hne
      | none =>
          rw [hearlier, Option.none_or] at hfirst
          obtain ⟨hr, hdrop⟩ := exists_of_firstLoad? hfirst
          obtain rfl : r = s := List.mem_singleton.mp hr
          obtain ⟨load, hload, htext⟩ := dropLoad?_eq_some_iff.mp hdrop
          -- The load is still there after the earlier specifiers.
          have hkept : route specifiers (c :: rest) = load ++ route specifiers after := by
            rw [htext]
            refine route_append fun u hu hne => ?_
            by_cases hwhole : u = load
            · rw [hwhole, ← htext, hearlier]
            · refine firstLoad?_eq_none_iff.mpr fun t ht load' hload' hstarts => hwhole ?_
              exact eq_load_of_prefix hs (hparens t ht) hload hload' hu hne hstarts
          have hagain : firstLoad? [r] (load ++ route specifiers after)
              = some (r, route specifiers after) := by
            rw [firstLoad?_singleton, dropLoad?_eq_some_iff.mpr ⟨load, hload, rfl⟩]
            rfl
          rw [hkept, route_load hagain]
  | case3 c rest hfirst ih =>
      rw [route_none hfirst, ← ih]
      rw [firstLoad?_concat, Option.or_eq_none_iff] at hfirst
      have hagain : firstLoad? [s] (c :: route specifiers rest) = none :=
        firstLoad?_eq_none_iff.mpr fun t ht load hload hstarts =>
          firstLoad?_eq_none_iff.mp hfirst.2 t ht load hload
            (prefix_cons_of_route (hone t ht) hload hstarts)
      rw [route_none hfirst.1, route_none hagain]

end

/-- **Redirects, one after the other, go over the code once.** -/
theorem toList_applyAll {specifiers : List String}
    (hparens : ∀ s ∈ specifiers, NoParens s.toList) (code : String) :
    (applyAll (specifiers.map asRead) code).toList = route specifiers code.toList := by
  induction specifiers using List.reverseRecOn with
  | nil => exact (route_eq_self fun s hs => absurd hs (by simp)).symm
  | append_singleton specifiers s ih =>
      have hearlier : ∀ t ∈ specifiers, NoParens t.toList :=
        fun t ht => hparens t (List.mem_append_left _ ht)
      have hs : NoParens s.toList := hparens s (by simp)
      unfold applyAll at ih ⊢
      rw [List.map_append, List.foldl_append, List.map_singleton, List.foldl_cons, List.foldl_nil,
        apply_asRead, String.toList_ofList, ih hearlier, route_route hearlier hs]

/-! ### The order of specifiers -/

/-- The specifiers differ from each other in more than case. -/
def DifferByMore (specifiers : List String) : Prop :=
  specifiers.Pairwise fun s t => ¬ SameButCase s.toList t.toList

instance : Std.Symm fun s t : String => ¬ SameButCase s.toList t.toList :=
  ⟨fun _ _ hdiffer hsame => hdiffer hsame.symm⟩

section

variable {specifiers others : List String} {text rest : List Char}

/-- The only load at a place is the first one there. -/
theorem firstLoad?_eq_some_iff (hparens : ∀ s ∈ specifiers, NoParens s.toList)
    (hdiffer : DifferByMore specifiers) {s : String} :
    firstLoad? specifiers text = some (s, rest) ↔
      s ∈ specifiers ∧ dropLoad? s text = some rest := by
  refine ⟨exists_of_firstLoad?, fun ⟨hs, hdrop⟩ => ?_⟩
  obtain ⟨load, hload, htext⟩ := dropLoad?_eq_some_iff.mp hdrop
  cases hfirst : firstLoad? specifiers text with
  | none => exact absurd ⟨rest, htext.symm⟩ (firstLoad?_eq_none_iff.mp hfirst s hs load hload)
  | some found =>
      obtain ⟨t, rest'⟩ := found
      obtain ⟨ht, hdrop'⟩ := exists_of_firstLoad? hfirst
      obtain ⟨load', hload', htext'⟩ := dropLoad?_eq_some_iff.mp hdrop'
      obtain ⟨hsame, rfl⟩ := eq_of_loads_at (hparens s hs) (hparens t ht) hload hload'
        (htext.symm.trans htext')
      have hst : s = t := by
        by_contra hne
        exact List.Pairwise.forall hdiffer hs ht hne hsame
      rw [hst]

/-- **The order of specifiers that differ by more than case plays no part.** -/
theorem route_perm (hparens : ∀ s ∈ specifiers, NoParens s.toList)
    (hdiffer : DifferByMore specifiers) (hperm : others.Perm specifiers) (text : List Char) :
    route others text = route specifiers text := by
  have hparens' : ∀ s ∈ others, NoParens s.toList := fun s hs => hparens s (hperm.mem_iff.mp hs)
  have hdiffer' : DifferByMore others := (hperm.pairwise_iff fun h hsame => h hsame.symm).mpr hdiffer
  have hfirst : ∀ text, firstLoad? others text = firstLoad? specifiers text := by
    intro text
    refine Option.ext fun found => ?_
    rw [firstLoad?_eq_some_iff hparens hdiffer, firstLoad?_eq_some_iff hparens' hdiffer',
      hperm.mem_iff]
  induction text using route.induct specifiers with
  | case1 => rw [route_nil, route_nil]
  | case2 c rest s after hload _ ih =>
      rw [route_load hload, route_load ((hfirst _).trans hload), ih]
  | case3 c rest hnone ih =>
      rw [route_none hnone, route_none ((hfirst _).trans hnone), ih]

end

/-! ### The chunks -/

/-- Can a text that starts so start with one character for each of the nodes? -/
def mayStart : List Pattern.Node → List Char → Bool
  | [], _ => true
  | _, [] => true
  | n :: ns, c :: cs => n.admits c && mayStart ns cs

theorem mayStart_of_strip? {ns : List Pattern.Node} {cs ds rest : List Char}
    (h : Pattern.strip? ns (cs ++ ds) = some rest) : mayStart ns cs = true := by
  induction ns generalizing cs with
  | nil => rfl
  | cons n ns ih =>
      cases cs with
      | nil => rfl
      | cons c cs =>
          obtain ⟨d, cs', hcons, hadmits, hrest⟩ := Pattern.strip?_cons_eq_some_iff.mp h
          obtain ⟨rfl, rfl⟩ := List.cons.inj hcons
          rw [mayStart, hadmits, Bool.true_and]
          exact ih hrest

/-- No load starts in the text, whatever comes after it. -/
def startsNoLoad (specifier : String) (cs : List Char) : Bool :=
  cs.tails.all fun u => u.isEmpty || !mayStart (callNodes specifier) u

theorem infix_of_startsNoLoad {s : String} {load cs ds : List Char} (hload : IsLoad s load)
    (h : startsNoLoad s cs = true) (hholds : load <:+: cs ++ ds) : load <:+: ds := by
  refine (infix_append_cases hholds).resolve_left ?_
  rintro ⟨u, hu, hne, rest, hrest⟩
  have hstart : mayStart (callNodes s) u = true :=
    mayStart_of_strip? (dropLoad?_eq_some_iff.mpr ⟨load, hload, hrest.symm⟩)
  have hnot := List.all_eq_true.mp h u ((List.mem_tails _ _).mpr hu)
  rw [hstart] at hnot
  exact hne (by simpa using hnot)

theorem not_mem_of_sameButCase {c : Char} {cs ds : List Char} (h : fold c ∉ ds.map fold)
    (hsame : SameButCase cs ds) : c ∉ cs := by
  intro hc
  rw [← hsame] at h
  exact h (List.mem_map_of_mem hc)

theorem brace_not_mem_load {load : List Char} (h : IsLoad Chunk.librarySpecifier load) :
    '\x7d' ∉ load := by
  obtain ⟨word, opening, inside, closing, rfl, hword, hopening, hclosing, hinside⟩ := h
  have hquote : ∀ {c}, IsQuote c → '\x7d' ≠ c := by
    rintro c (rfl | rfl) <;> decide
  have hletters : '\x7d' ∉ word ∧ '\x7d' ∉ inside :=
    ⟨not_mem_of_sameButCase (by decide) hword, not_mem_of_sameButCase (by decide) hinside⟩
  simp [hletters, hquote hopening, hquote hclosing]

/-- None of the redirects of fixed specifiers is left out, if these are short. -/
theorem redirectsFor_eq {specifiers : List String} (h : ∀ s ∈ specifiers, s.length ≤ 90) :
    Chunk.redirectsFor specifiers = specifiers.map asRead := by
  unfold Chunk.redirectsFor
  induction specifiers with
  | nil => rfl
  | cons s specifiers ih =>
      obtain ⟨hs, hrest⟩ := List.forall_mem_cons.mp h
      have hhead := ofSpecifier_eq_asRead (not_isTooLarge_of_length_le hs)
      rw [List.filterMap_cons_some (by rw [hhead]; rfl), ih hrest, List.map_cons]

theorem noParens_serviceSpecifiers : ∀ s ∈ Chunk.serviceSpecifiers, NoParens s.toList := by
  decide

theorem routeService_eq (code : String) :
    Chunk.routeService code = applyAll (Chunk.serviceSpecifiers.map asRead) code := by
  unfold Chunk.routeService Chunk.serviceRedirects
  rw [redirectsFor_eq (by decide)]

theorem toList_routeService (code : String) :
    (Chunk.routeService code).toList = route Chunk.serviceSpecifiers code.toList := by
  rw [routeService_eq, toList_applyAll noParens_serviceSpecifiers]

theorem toList_wrapShared (code : String) :
    (Chunk.wrapShared code).toList =
      Chunk.sharedHeader.toList ++
        (route [Chunk.librarySpecifier] code.toList ++ Chunk.sharedFooter.toList) := by
  have happly : applyAll Chunk.sharedRedirects code = (asRead Chunk.librarySpecifier).apply code := by
    unfold Chunk.sharedRedirects
    rw [redirectsFor_eq (by decide)]
    rfl
  rw [Chunk.wrapShared, String.toList_append, String.toList_append, happly, apply_asRead,
    String.toList_ofList, List.append_assoc]

/-- **The shared chunk does not load the library**, its wrapper included. -/
theorem not_infix_wrapShared (code : String) {load : List Char}
    (hload : IsLoad Chunk.librarySpecifier load) :
    ¬ load <:+: (Chunk.wrapShared code).toList := by
  have hparens : ∀ s ∈ [Chunk.librarySpecifier], NoParens s.toList := by decide
  have hheader : startsNoLoad Chunk.librarySpecifier Chunk.sharedHeader.toList = true := by
    decide +kernel
  have hfooter : startsNoLoad Chunk.librarySpecifier Chunk.sharedFooter.toList = true := by
    decide +kernel
  intro hholds
  rw [toList_wrapShared] at hholds
  rcases infix_append_cases (infix_of_startsNoLoad hload hheader hholds) with
    ⟨u, hu, -, rest, hrest⟩ | hend
  · have hwithin : ¬ load <+: u := fun hstarts =>
      not_infix_route hparens (by simp) hload code.toList (hstarts.isInfix.trans hu.isInfix)
    rcases List.append_eq_append_iff.mp hrest with ⟨more, hmore, -⟩ | ⟨more, hmore, hafter⟩
    · exact hwithin ⟨more, hmore.symm⟩
    · -- A load that starts in the code and ends after it has a brace in it.
      cases more with
      | nil => exact hwithin (by rw [hmore, List.append_nil])
      | cons c more =>
          have hbrace : Chunk.sharedFooter.toList.head? = some c := by
            rw [hafter]
            rfl
          have hc : '\x7d' = c := Option.some.inj ((by decide : _ = some '\x7d').symm.trans hbrace)
          refine brace_not_mem_load hload ?_
          rw [hmore, hc]
          simp
  · rw [← List.append_nil Chunk.sharedFooter.toList] at hend
    exact hload.ne_nil (List.eq_nil_of_infix_nil (infix_of_startsNoLoad hload hfooter hend))

/-- **The service chunk loads neither the library nor the shared chunk.** -/
theorem not_infix_routeService (code : String) {s : String}
    (hs : s ∈ [Chunk.librarySpecifier, Chunk.sharedSpecifier]) {load : List Char}
    (hload : IsLoad s load) : ¬ load <:+: (Chunk.routeService code).toList := by
  rw [toList_routeService]
  exact not_infix_route noParens_serviceSpecifiers hs hload code.toList

/-! ### All together -/

/--
**Redirecting once is enough.**  After the redirects of specifiers without parentheses
none of them has a match left, so applying them again changes nothing.  Where the specifiers
differ by more than case, they may be given in any order.  In particular the service
chunk loads neither the library nor the shared chunk, and the shared chunk, its wrapper
included, does not load the library, whatever their code.
-/
theorem applyAll_settles {specifiers : List String} {redirects : List Redirect}
    (hredirects : specifiers.mapM ofSpecifier = .ok redirects)
    (hparens : ∀ s ∈ specifiers, NoParens s.toList) (code : String) :
    (∀ r ∈ redirects, r.call.find? (applyAll redirects code).toList = none) ∧
    applyAll redirects (applyAll redirects code) = applyAll redirects code ∧
    (DifferByMore specifiers → ∀ others : List String, others.Perm specifiers →
      (others.mapM ofSpecifier).map (applyAll · code) = .ok (applyAll redirects code)) ∧
    (∀ s ∈ [Chunk.librarySpecifier, Chunk.sharedSpecifier], ∀ load, IsLoad s load →
      ¬ load <:+: (Chunk.routeService code).toList) ∧
    (∀ load, IsLoad Chunk.librarySpecifier load →
      ¬ load <:+: (Chunk.wrapShared code).toList) := by
  obtain ⟨hsizes, rfl⟩ := mapM_ofSpecifier_eq_ok_iff.mp hredirects
  have hroute := toList_applyAll hparens code
  refine ⟨fun r hr => ?_, ?_, fun hdiffer others hperm => ?_,
    fun s hs load hload => not_infix_routeService code hs hload,
    fun load hload => not_infix_wrapShared code hload⟩
  · obtain ⟨s, hs, rfl⟩ := List.mem_map.mp hr
    rw [find?_call_eq_none_iff, hroute]
    exact fun load hload => not_infix_route hparens hs hload code.toList
  · rw [← String.toList_inj, toList_applyAll hparens, hroute]
    exact route_eq_self fun s hs load hload => not_infix_route hparens hs hload code.toList
  · have hparens' : ∀ s ∈ others, NoParens s.toList :=
      fun s hs => hparens s (hperm.mem_iff.mp hs)
    have hothers : others.mapM ofSpecifier = .ok (others.map asRead) :=
      mapM_ofSpecifier_eq_ok_iff.mpr ⟨fun s hs => hsizes s (hperm.mem_iff.mp hs), rfl⟩
    have hsame : applyAll (others.map asRead) code = applyAll (specifiers.map asRead) code := by
      rw [← String.toList_inj, toList_applyAll hparens', hroute,
        route_perm hparens hdiffer hperm]
    rw [hothers, ← hsame]
    rfl

/-- Two loads, one of them in capitals, are redirected once and in either order. -/
theorem mixedLoads_settle :
    (∀ s ∈ ["vue", "$x"], NoParens s.toList) ∧
    (["vue", "$x"].mapM ofSpecifier).map (applyAll · "require(\"vue\");REQUIRE('$X')")
      = .ok "$cjs_require$('vue');$cjs_require$('$x')" ∧
    (["vue", "$x"].mapM ofSpecifier).map (applyAll · "$cjs_require$('vue');$cjs_require$('$x')")
      = .ok "$cjs_require$('vue');$cjs_require$('$x')" ∧
    (["$x", "vue"].mapM ofSpecifier).map (applyAll · "require(\"vue\");REQUIRE('$X')")
      = .ok "$cjs_require$('vue');$cjs_require$('$x')" := by
  have hparens : ∀ s ∈ ["vue", "$x"], NoParens s.toList := by decide
  have hdiffer : DifferByMore ["vue", "$x"] := by
    refine List.pairwise_pair.mpr ?_
    decide
  have hshort : ∀ s ∈ ["vue", "$x"], s.length ≤ 90 := by decide
  have hredirects : ["vue", "$x"].mapM ofSpecifier = .ok (["vue", "$x"].map asRead) :=
    mapM_ofSpecifier_eq_ok_iff.mpr ⟨fun s hs => not_isTooLarge_of_length_le (hshort s hs), rfl⟩
  have honce := applyAll_eq_replaceLoads ["vue", "$x"] "require(\"vue\");REQUIRE('$X')"
  rw [show replaceLoads ["vue", "$x"] "require(\"vue\");REQUIRE('$X')"
    = "$cjs_require$('vue');$cjs_require$('$x')" by decide +kernel] at honce
  obtain ⟨-, hagain, hperm, -, -⟩ :=
    applyAll_settles hredirects hparens "require(\"vue\");REQUIRE('$X')"
  rw [honce] at hagain hperm
  refine ⟨hparens, ?_, ?_, hperm hdiffer ["$x", "vue"] (List.Perm.swap _ _ _)⟩
  · rw [hredirects]
    exact congrArg Except.ok honce
  · rw [hredirects]
    exact congrArg Except.ok hagain

end AppBuild.Redirect
