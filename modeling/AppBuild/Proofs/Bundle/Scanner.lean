/-
A redirect is a plain scanner.

`scan` goes over a code from left to right and compares text: where a call of the
specifier stands, a call of the resolver is put out and the call passed over, and anywhere
else one character is copied.  A redirect does the same (`apply_eq_scan`), whatever characters
its specifier holds.  Only the size of its call can be in the way, so for a specifier of
many letters there is no redirect (`longSpecifier_refused`).
-/
import AppBuild.Proofs.Bundle.Call

namespace AppBuild.Redirect

open Pattern Unicode.Folding

/-! ### The scanner -/

/-- What follows a word that a text starts with, letters in any case. -/
def dropWord? : List Char → List Char → Option (List Char)
  | [], text => some text
  | _ :: _, [] => none
  | w :: word, c :: text => if fold c = fold w then dropWord? word text else none

/-- What follows a quote that a text starts with. -/
def dropQuote? : List Char → Option (List Char)
  | [] => none
  | c :: text => if c = '\'' ∨ c = '"' then some text else none

/-- What follows a call of the specifier that a text starts with. -/
def dropCall? (specifier : String) (text : List Char) : Option (List Char) := do
  let text ← dropWord? "require(".toList text
  let text ← dropQuote? text
  let text ← dropWord? specifier.toList text
  let text ← dropQuote? text
  dropWord? ")".toList text

theorem dropWord?_eq_strip? (word text : List Char) :
    dropWord? word text = strip? (word.map .caseless) text := by
  induction word generalizing text with
  | nil => rfl
  | cons w word ih =>
      cases text with
      | nil => rfl
      | cons c text =>
          rw [dropWord?, List.map_cons, strip?, ih]
          simp only [Node.admits, beq_iff_eq]

theorem dropQuote?_eq_strip? (text : List Char) :
    dropQuote? text = strip? [.set quotes] text := by
  cases text with
  | nil => rfl
  | cons c text =>
      have hquote : (Node.set quotes).admits c = true ↔ c = '\'' ∨ c = '"' :=
        contains_quotes_iff c
      rw [dropQuote?, strip?, strip?]
      by_cases hc : c = '\'' ∨ c = '"'
      · rw [if_pos hc, if_pos (hquote.mpr hc)]
      · rw [if_neg hc, if_neg (fun h => hc (hquote.mp h))]

/-- The scanner and the nodes of a redirect know the same calls. -/
theorem dropCall?_eq_dropLoad? (specifier : String) (text : List Char) :
    dropCall? specifier text = dropLoad? specifier text := by
  unfold dropCall? dropLoad? callNodes anyCase
  simp only [strip?_append, Option.bind_assoc, dropWord?_eq_strip?, dropQuote?_eq_strip?]
  rfl

theorem length_lt_of_dropCall? {specifier : String} {text rest : List Char}
    (h : dropCall? specifier text = some rest) : rest.length < text.length := by
  rw [dropCall?_eq_dropLoad?] at h
  obtain ⟨load, hload, rfl⟩ := dropLoad?_eq_some_iff.mp h
  have hpos := List.length_pos_iff.mpr hload.ne_nil
  rw [List.length_append]
  omega

/-- The call that is put in the place of a call of the specifier. -/
def resolverCall (specifier : String) : String := "$cjs_require$('" ++ specifier ++ "')"

/-- The text with each call of the specifier replaced, gone over once from left to right. -/
def scan (specifier : String) : List Char → List Char
  | [] => []
  | c :: rest =>
    match h : dropCall? specifier (c :: rest) with
    | some after =>
      have := length_lt_of_dropCall? h
      (resolverCall specifier).toList ++ scan specifier after
    | none => c :: scan specifier rest
  termination_by text => text.length
  decreasing_by
    · exact this
    · exact Nat.lt_succ_self _

theorem replacementFor_eq (specifier : String) :
    replacementFor specifier = resolverCall specifier := by
  have hstart : resolver ++ "('" = "$cjs_require$('" := by decide
  unfold replacementFor
  rw [hstart]
  rfl

theorem scan_eq_route (specifier : String) (text : List Char) :
    scan specifier text = route [specifier] text := by
  induction text using scan.induct specifier with
  | case1 => rw [scan, route_nil]
  | case2 c rest after hcall _ ih =>
      have hfirst : firstLoad? [specifier] (c :: rest) = some (specifier, after) := by
        rw [firstLoad?_singleton, ← dropCall?_eq_dropLoad?, hcall]
        rfl
      rw [scan, route_load hfirst, ← ih, replacementFor_eq]
      split
      · next after' hcall' =>
          rw [hcall] at hcall'
          rw [Option.some.inj hcall']
      · next hnone =>
          rw [hcall] at hnone
          exact absurd hnone (by simp)
  | case3 c rest hcall ih =>
      have hfirst : firstLoad? [specifier] (c :: rest) = none := by
        rw [firstLoad?_singleton, ← dropCall?_eq_dropLoad?, hcall]
        rfl
      rw [scan, route_none hfirst, ← ih]
      split
      · next after' hcall' =>
          rw [hcall] at hcall'
          exact absurd hcall' (by simp)
      · rfl

/-! ### All together -/

/--
**A redirect is a plain scanner.**  The call of a specifier can be read, whatever characters
it holds, and the redirect for it replaces the calls that the scanner meets and leaves all
other text as it is.  There is this redirect for the specifier unless the call is too large
for a pattern.
-/
theorem apply_eq_scan (specifier : String) :
    ∃ r : Redirect, parse (callPattern specifier) = .ok r.call ∧
      (∀ code, r.apply code = String.ofList (scan specifier code.toList)) ∧
      (¬ IsTooLarge (callPattern specifier) → ofSpecifier specifier = .ok r) := by
  refine ⟨asRead specifier, parse_callPattern specifier, ?_, ofSpecifier_eq_asRead⟩
  intro code
  rw [apply_asRead, scan_eq_route]

/-- A specifier that would match almost anything as a pattern, and refer to a match as a
replacement, stands for itself. -/
theorem unescaped_redirected :
    ¬ IsTooLarge (callPattern "(.*)$1") ∧
    (ofSpecifier "(.*)$1").map (·.apply "require('x');Require(\"(.*)$1')")
      = .ok "require('x');$cjs_require$('(.*)$1')" := by
  have hshort : ¬ IsTooLarge (callPattern "(.*)$1") := not_isTooLarge_of_length_le (by decide)
  obtain ⟨r, -, happly, hthere⟩ := apply_eq_scan "(.*)$1"
  refine ⟨hshort, ?_⟩
  rw [hthere hshort, Except.map, happly, scan_eq_route, ← replaceAll_callNodes]
  decide +kernel

/-- A specifier of many letters. -/
def longSpecifier : String := String.ofList (List.replicate 170000 'a')

/-- There is no redirect for a specifier of many letters, so there is none that leaves a code
without a call as it is. -/
theorem longSpecifier_refused :
    ofSpecifier longSpecifier = .error .tooLarge ∧
    (ofSpecifier longSpecifier).map (·.apply "x")
      ≠ .ok (String.ofList (scan longSpecifier "x".toList)) := by
  have hlarge : IsTooLarge (callPattern longSpecifier) :=
    isTooLarge_replicate (by decide : 'A' ≠ 'a') (by decide) (by decide)
  have hrefused := ofSpecifier_of_isTooLarge hlarge
  refine ⟨hrefused, ?_⟩
  rw [hrefused]
  simp [Except.map]

end AppBuild.Redirect
