/-
What is emitted, and what a renderer is asked on the way.

A renderer has a state, so it matters which filters it is asked for and in what order.  A
recording renderer answers as another one does and keeps the list (`emitAll_recording`): it
is asked for the filters of one file after the other, each of them once, and for no others.
So the text of a file is made from the answers to its own filters, in the state that the
filters of the files before it have led to (`getElem?_emitAll`).
-/
import AppBuild.Proofs.Template.Replay
import Mathlib.Data.List.ReduceOption

namespace AppBuild.Assembler

variable {σ : Type} (render : Renderer σ)

/-! ### Asking a renderer -/

/-- The answers of a renderer that is asked for filters one after the other. -/
def answers : List Filter → σ → List (Option String)
  | [], _ => []
  | f :: fs, s => (render s f).1 :: answers fs (render s f).2

/-- The state that it is left in. -/
def stateAfter (fs : List Filter) (s : σ) : σ := fs.foldl (fun s f => (render s f).2) s

/-- Answers as a renderer does, and keeps the filters that it was asked for. -/
def recording : Renderer (σ × List Filter) := fun s f =>
  ((render s.1 f).1, (render s.1 f).2, s.2 ++ [f])

theorem stateAfter_append (fs gs : List Filter) (s : σ) :
    stateAfter render (fs ++ gs) s = stateAfter render gs (stateAfter render fs s) := by
  unfold stateAfter
  rw [List.foldl_append]

theorem renderAll_eq (fs : List Filter) (s : σ) :
    renderAll render fs s = ((answers render fs s).reduceOption, stateAfter render fs s) := by
  induction fs generalizing s with
  | nil => rfl
  | cons f fs ih =>
      simp only [renderAll, ih, answers, stateAfter, List.foldl_cons]
      cases (render s f).1 <;> rfl

theorem answers_recording (fs : List Filter) (s : σ) (asked : List Filter) :
    answers (recording render) fs (s, asked) = answers render fs s := by
  induction fs generalizing s asked with
  | nil => rfl
  | cons f fs ih => exact congrArg ((render s f).1 :: ·) (ih _ _)

theorem stateAfter_recording (fs : List Filter) (s : σ) (asked : List Filter) :
    stateAfter (recording render) fs (s, asked) = (stateAfter render fs s, asked ++ fs) := by
  induction fs generalizing s asked with
  | nil => rw [List.append_nil]; rfl
  | cons f fs ih =>
      refine (ih _ _).trans ?_
      rw [List.append_assoc, List.singleton_append]
      rfl

/-! ### One file after the other -/

/-- The text of a file is its code, or the answers to its filters that are not empty, one on a line,
and then its code on a line of its own. -/
theorem fileText_eq (s : σ) (fs : List Filter) (code : String) :
    fileText render s fs code =
      if fs = [] then code
      else "\n".intercalate ((answers render fs s).reduceOption.filter (· ≠ "")) ++ "\n" ++ code := by
  cases fs with
  | nil => rfl
  | cons f fs =>
      have hblocks : ∀ blocks : List String,
          blocks.filter (!·.isEmpty) = blocks.filter (· ≠ "") := by
        intro blocks
        refine List.filter_congr fun block _ => ?_
        rw [Bool.eq_iff_iff]
        simp
      rw [if_neg (by simp)]
      unfold fileText assemble
      simp only [renderAll_eq, hblocks]

section

variable (a : Assembler)

/-- The filters of files, one file after the other. -/
def filtersOfAll (files : List (String × String)) : List Filter :=
  (files.map Prod.fst).flatMap a.filtersOf

theorem map_fst_emitAll (files : List (String × String)) (s : σ) :
    (a.emitAll render files s).1.map Prod.fst = files.map Prod.fst := by
  induction files generalizing s with
  | nil => rfl
  | cons file files ih =>
      rw [emitAll_cons]
      exact congrArg (file.1 :: ·) (ih _)

theorem snd_emitAll (files : List (String × String)) (s : σ) :
    (a.emitAll render files s).2 = stateAfter render (a.filtersOfAll files) s := by
  induction files generalizing s with
  | nil => rfl
  | cons file files ih =>
      rw [emitAll_cons]
      refine (ih _).trans ?_
      rw [renderAll_eq, ← stateAfter_append]
      rfl

/-- **A file is emitted in its place, from the state that the files before it have led to.** -/
theorem getElem?_emitAll (before : List (String × String)) (filename code : String)
    (after : List (String × String)) (s : σ) :
    (a.emitAll render (before ++ (filename, code) :: after) s).1[before.length]? =
      some (filename, fileText render (stateAfter render (a.filtersOfAll before) s)
        (a.filtersOf filename) code) := by
  induction before generalizing s with
  | nil =>
      rw [List.nil_append, emitAll_cons]
      rfl
  | cons file before ih =>
      rw [List.cons_append, emitAll_cons, List.length_cons, List.getElem?_cons_succ, ih,
        renderAll_eq, ← stateAfter_append]
      rfl

/-- **A renderer is asked for the filters of one file after the other.** -/
theorem emitAll_recording (files : List (String × String)) (s : σ) (asked : List Filter) :
    a.emitAll (recording render) files (s, asked) =
      ((a.emitAll render files s).1, (a.emitAll render files s).2,
        asked ++ a.filtersOfAll files) := by
  refine Prod.ext ?_ ?_
  · induction files generalizing s asked with
    | nil => rfl
    | cons file files ih =>
        rw [emitAll_cons, emitAll_cons, renderAll_eq, renderAll_eq, stateAfter_recording, ih,
          fileText_eq, fileText_eq, answers_recording]
  · rw [snd_emitAll, stateAfter_recording, snd_emitAll]

end

/--
**The emission of a build.**  The files are emitted in the order of their registration.  A
renderer is asked for the filters of one file after the other, in the order that they have in
the file, for each of them once and for none of a file that is not registered; its state
goes from one to the next.  A file with filters gets the answers to these that are not empty
on the lines before its code, and an empty line if there are none.  Every other file is
its code, as are all files where there is no renderer.  The assembler is only read: what is
registered is what was registered before.
-/
theorem materialize_eq_answers (a : Assembler) (s : σ) :
    (a.materialize (some render) s).1.map Prod.fst = a.files.keys ∧
    a.materialize (some (recording render)) (s, []) =
      ((a.materialize (some render) s).1, (a.materialize (some render) s).2,
        a.files.keys.flatMap a.filtersOf) ∧
    (a.materialize (some render) s).2 =
      stateAfter render (a.files.keys.flatMap a.filtersOf) s ∧
    (∀ before filename code after, a.files.entries = before ++ (filename, code) :: after →
      (a.materialize (some render) s).1[before.length]? =
        some (filename,
          if a.filtersOf filename = [] then code
          else "\n".intercalate ((answers render (a.filtersOf filename)
              (stateAfter render ((before.map Prod.fst).flatMap a.filtersOf) s)).reduceOption.filter
                (· ≠ "")) ++ "\n" ++ code)) ∧
    a.materialize (none : Option (Renderer σ)) s = (a.files.entries, s) := by
  refine ⟨map_fst_emitAll render a _ s, ?_, snd_emitAll render a _ s, ?_, rfl⟩
  · exact emitAll_recording render a a.files.entries s []
  · intro before filename code after hentries
    show (a.emitAll render a.files.entries s).1[before.length]? = _
    rw [hentries, getElem?_emitAll, fileText_eq]
    rfl

/-- Answers every other time. -/
def everyOther : Renderer Bool := fun answer f => (if answer then some f.code else none, !answer)

/-- Three files, one of them without filters, and filters of a file that is not registered. -/
def threeFiles : Assembler := empty.run
  [.registerFile "a" "<a/>", .registerFilter "c" (sampleFilter "z" ""),
    .registerFilter "none" (sampleFilter "o" "O"), .registerFilter "a" (sampleFilter "x" "X"),
    .registerFile "b" "<b/>", .registerFilter "a" (sampleFilter "y" "Y"),
    .registerFile "c" "<c/>", .registerFilter "c" (sampleFilter "w" "W")]

/-- Of the filters of the last file one has an empty answer and one is left out, and still an empty
line comes before its code. -/
theorem threeFiles_emitted :
    threeFiles.files.entries = [("a", "<a/>"), ("b", "<b/>")] ++ ("c", "<c/>") :: [] ∧
    (threeFiles.materialize (some everyOther) true).1[2]? = some ("c", "\n<c/>") := by
  have hentries : threeFiles.files.entries =
      [("a", "<a/>"), ("b", "<b/>")] ++ ("c", "<c/>") :: [] := by decide
  obtain ⟨-, -, -, hfile, -⟩ := materialize_eq_answers everyOther threeFiles true
  exact ⟨hentries, (hfile _ _ _ _ hentries).trans (by decide)⟩

end AppBuild.Assembler
