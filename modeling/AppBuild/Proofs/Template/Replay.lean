/-
What an assembler holds after a log.

An assembler keeps two maps, and registrations, removals and clearings reach into them
in any order.  What they come to can be said of the log alone.  The files are those
registered since the last clearing, and the filters of a file are those registered for
it since it last lost them; of each the first registration decides the place and the
last one the content (`OrderedMap.lastWrites`).

The file maps are built by insertions (`OrderedMap.ofList`), so the argument is that an
event that empties a map starts the log of that map anew and every other event makes
its log longer by what it puts in (`files_after`, `filterMap_after`).

The text of a file is made from its own code and its own filters.  Both are as they
would be had nothing but the events that concern the file taken place (`sameFor_run`).
-/
import AppBuild.Template.Assembler
import Mathlib.Data.List.DropRight
import Mathlib.Data.List.Induction

namespace AppBuild

/-! ### Maps built by insertions -/

namespace OrderedMap

variable {κ ν : Type} [DecidableEq κ]

/-- One entry for each key, in the order in which the keys first come, with the value that comes last
for it. -/
def lastWrites (es : List (κ × ν)) : List (κ × ν) :=
  (es.map Prod.fst).eraseDups.filterMap fun k => (es.reverse.lookup k).map (k, ·)

theorem eq_filterMap_lookup {es : List (κ × ν)} (h : (es.map Prod.fst).Nodup) :
    es = (es.map Prod.fst).filterMap fun k => (es.lookup k).map (k, ·) := by
  induction es with
  | nil => rfl
  | cons e es ih =>
      rw [List.map_cons, List.nodup_cons] at h
      -- No later key is the first one, so all later values are found among the later entries.
      have hlater : ∀ k ∈ es.map Prod.fst,
          ((e :: es).lookup k).map (k, ·) = (es.lookup k).map (k, ·) := by
        intro k hk
        have hbeq : (k == e.1) = false := by
          rw [beq_eq_false_iff_ne]
          rintro rfl
          exact h.1 hk
        rw [List.lookup_cons, hbeq]
      have hfirst : (e :: es).lookup e.1 = some e.2 := by
        rw [List.lookup_cons, beq_self_eq_true]
      rw [List.map_cons, List.filterMap_cons, hfirst, Option.map_some, List.filterMap_congr hlater,
        ← ih h.2]

/-- A map is its keys in order, each with its value. -/
theorem entries_eq_filterMap (m : OrderedMap κ ν) :
    m.entries = m.keys.filterMap fun k => (m.get? k).map (k, ·) :=
  eq_filterMap_lookup m.distinct

theorem ofList_concat (es : List (κ × ν)) (e : κ × ν) :
    ofList (es ++ [e]) = (ofList es).insert e.1 e.2 := by
  unfold ofList
  rw [List.foldl_append]
  rfl

theorem keys_ofList (es : List (κ × ν)) : (ofList es).keys = (es.map Prod.fst).eraseDups := by
  induction es using List.reverseRecOn with
  | nil => rfl
  | append_singleton es e ih =>
      rw [ofList_concat, keys_insert, ih, List.map_append, List.eraseDups_append]
      by_cases hseen : e.1 ∈ es.map Prod.fst
      · rw [if_pos (List.mem_eraseDups.mpr hseen)]
        simp [List.removeAll, hseen]
      · rw [if_neg (mt List.mem_eraseDups.mp hseen)]
        simp [List.removeAll, hseen, List.eraseDups_cons]

theorem get?_ofList (es : List (κ × ν)) (k : κ) : (ofList es).get? k = es.reverse.lookup k := by
  induction es using List.reverseRecOn with
  | nil => rfl
  | append_singleton es e ih =>
      rw [ofList_concat, get?_insert, ih, List.reverse_append, List.reverse_singleton,
        List.singleton_append, List.lookup_cons]
      by_cases hk : k = e.1
      · simp [hk]
      · have hbeq : (k == e.1) = false := by simpa using hk
        rw [if_neg hk, hbeq]

/-- **Insertions come to the last writes.** -/
theorem entries_ofList (es : List (κ × ν)) : (ofList es).entries = lastWrites es := by
  rw [entries_eq_filterMap, keys_ofList]
  unfold lastWrites
  exact List.filterMap_congr fun k _ => by rw [get?_ofList]

end OrderedMap

namespace Assembler

/-! ### Logs -/

/-- What can be done with an assembler. -/
inductive Event where
  | registerFile (filename code : String)
  | registerFilter (filename : String) (f : Filter)
  | removeFilters (filename : String)
  | clear
  deriving DecidableEq

/-- The assembler after an event. -/
def after (a : Assembler) : Event → Assembler
  | .registerFile filename code => a.registerFile filename code
  | .registerFilter filename f => a.registerFilter filename f
  | .removeFilters filename => a.removeFilters filename
  | .clear => a.clear

/-- The assembler after a log. -/
def run (a : Assembler) (log : List Event) : Assembler := log.foldl after a

theorem run_concat (a : Assembler) (log : List Event) (e : Event) :
    a.run (log ++ [e]) = (a.run log).after e := by
  unfold run
  rw [List.foldl_append]
  rfl

namespace Event

/-- Does the event take all files away? -/
def isClear : Event → Bool
  | .clear => true
  | _ => false

/-- Does the event take the filters of the file away? -/
def dropsFilters (filename : String) : Event → Bool
  | .removeFilters name => name = filename
  | .clear => true
  | _ => false

/-- The file that the event registers, with its code. -/
def code? : Event → Option (String × String)
  | .registerFile filename code => some (filename, code)
  | _ => none

/-- The filter that the event registers for the file, with its id. -/
def filter? (filename : String) : Event → Option (String × Filter)
  | .registerFilter name f => if name = filename then some (f.id, f) else none
  | _ => none

/-- Does the event name the file, or take everything away? -/
def concerns (filename : String) : Event → Bool
  | .registerFile name _ => name = filename
  | .registerFilter name _ => name = filename
  | .removeFilters name => name = filename
  | .clear => true

end Event

/-- The codes registered since the last clearing, each with its file. -/
def codesSinceClear (log : List Event) : List (String × String) :=
  (log.rtakeWhile fun e => !e.isClear).filterMap Event.code?

/-- The filters registered for a file since it last lost its filters, each with its id. -/
def filtersSinceDrop (log : List Event) (filename : String) : List (String × Filter) :=
  (log.rtakeWhile fun e => !e.dropsFilters filename).filterMap (Event.filter? filename)

theorem codesSinceClear_concat (log : List Event) (e : Event) :
    codesSinceClear (log ++ [e]) =
      if e.isClear then [] else codesSinceClear log ++ e.code?.toList := by
  unfold codesSinceClear
  rw [List.rtakeWhile_concat]
  cases hclear : e.isClear with
  | true => rfl
  | false =>
      simp only [Bool.not_false, if_true, Bool.false_eq_true, if_false, List.filterMap_append]
      cases hcode : e.code? <;> simp [hcode]

theorem filtersSinceDrop_concat (log : List Event) (e : Event) (filename : String) :
    filtersSinceDrop (log ++ [e]) filename =
      if e.dropsFilters filename then []
      else filtersSinceDrop log filename ++ (e.filter? filename).toList := by
  unfold filtersSinceDrop
  rw [List.rtakeWhile_concat]
  cases hdrops : e.dropsFilters filename with
  | true => rfl
  | false =>
      simp only [Bool.not_false, if_true, Bool.false_eq_true, if_false, List.filterMap_append]
      cases hfilter : e.filter? filename <;> simp [hfilter]

/-! ### One event -/

/-- The filters of a file by their ids. -/
def filterMap (a : Assembler) (filename : String) : OrderedMap String Filter :=
  (a.filters.get? filename).getD .empty

theorem filtersOf_eq (a : Assembler) (filename : String) :
    a.filtersOf filename = (a.filterMap filename).values := by
  unfold filtersOf filterMap
  cases a.filters.get? filename <;> rfl

/-- The files after an event: none, or those before it with the one that it registers. -/
theorem files_after (a : Assembler) (e : Event) :
    (a.after e).files =
      if e.isClear then .empty
      else e.code?.elim a.files fun file => a.files.insert file.1 file.2 := by
  cases e <;> rfl

/-- The filters of a file after an event: none, or those before it with the one that it registers for
the file. -/
theorem filterMap_after (a : Assembler) (e : Event) (filename : String) :
    (a.after e).filterMap filename =
      if e.dropsFilters filename then .empty
      else (e.filter? filename).elim (a.filterMap filename) fun f =>
        (a.filterMap filename).insert f.1 f.2 := by
  cases e with
  | registerFile name code => rfl
  | registerFilter name f =>
      show ((a.filters.insert name ((a.filterMap name).insert f.id f)).get? filename).getD .empty = _
      rw [OrderedMap.get?_insert]
      by_cases hname : name = filename
      · subst hname
        simp [Event.dropsFilters, Event.filter?]
      · rw [if_neg (Ne.symm hname)]
        simp [Event.dropsFilters, Event.filter?, hname, filterMap]
  | removeFilters name =>
      show ((a.filters.erase name).get? filename).getD .empty = _
      rw [OrderedMap.get?_erase]
      by_cases hname : name = filename
      · simp [Event.dropsFilters, hname]
      · rw [if_neg (Ne.symm hname)]
        simp [Event.dropsFilters, Event.filter?, hname, filterMap]
  | clear => rfl

/-! ### Along a log -/

theorem files_run (log : List Event) : (empty.run log).files = .ofList (codesSinceClear log) := by
  induction log using List.reverseRecOn with
  | nil => rfl
  | append_singleton log e ih =>
      rw [run_concat, files_after, codesSinceClear_concat, ih]
      cases e.isClear with
      | true => rfl
      | false =>
          cases e.code? with
          | none => simp
          | some file => simp [OrderedMap.ofList_concat]

theorem filterMap_run (log : List Event) (filename : String) :
    (empty.run log).filterMap filename = .ofList (filtersSinceDrop log filename) := by
  induction log using List.reverseRecOn with
  | nil => rfl
  | append_singleton log e ih =>
      rw [run_concat, filterMap_after, filtersSinceDrop_concat, ih]
      cases e.dropsFilters filename with
      | true => rfl
      | false =>
          cases e.filter? filename with
          | none => simp
          | some f => simp [OrderedMap.ofList_concat]

/-! ### What concerns one file -/

/-- For the file there is no difference between the assemblers. -/
structure SameFor (filename : String) (a b : Assembler) : Prop where
  code : a.files.get? filename = b.files.get? filename
  filters : a.filterMap filename = b.filterMap filename

namespace SameFor

variable {filename : String} {a b c : Assembler}

theorem symm (h : SameFor filename a b) : SameFor filename b a := ⟨h.code.symm, h.filters.symm⟩

theorem trans (h : SameFor filename a b) (h' : SameFor filename b c) : SameFor filename a c :=
  ⟨h.code.trans h'.code, h.filters.trans h'.filters⟩

/-- An event does not make a difference where there was none. -/
theorem after (h : SameFor filename a b) (e : Event) :
    SameFor filename (a.after e) (b.after e) := by
  refine ⟨?_, by rw [filterMap_after, filterMap_after, h.filters]⟩
  rw [files_after, files_after]
  cases e.isClear with
  | true => rfl
  | false =>
      cases e.code? with
      | none => exact h.code
      | some file =>
          show (a.files.insert file.1 file.2).get? filename =
            (b.files.insert file.1 file.2).get? filename
          rw [OrderedMap.get?_insert, OrderedMap.get?_insert, h.code]

end SameFor

/-- An event that does not concern the file changes nothing for it. -/
theorem sameFor_after {filename : String} {e : Event} (h : e.concerns filename = false)
    (a : Assembler) : SameFor filename (a.after e) a := by
  cases e with
  | registerFile name code =>
      have hne : filename ≠ name := by simpa [Event.concerns, eq_comm] using h
      refine ⟨?_, rfl⟩
      show (a.files.insert name code).get? filename = a.files.get? filename
      rw [OrderedMap.get?_insert, if_neg hne]
  | registerFilter name f =>
      have hne : name ≠ filename := by simpa [Event.concerns] using h
      refine ⟨rfl, ?_⟩
      rw [filterMap_after]
      simp [Event.dropsFilters, Event.filter?, hne]
  | removeFilters name =>
      have hne : name ≠ filename := by simpa [Event.concerns] using h
      refine ⟨rfl, ?_⟩
      rw [filterMap_after]
      simp [Event.dropsFilters, Event.filter?, hne]
  | clear => exact absurd h (by simp [Event.concerns])

/-- **For a file only the events that concern it have taken place.** -/
theorem sameFor_run (filename : String) (log : List Event) :
    SameFor filename (empty.run log) (empty.run (log.filter (·.concerns filename))) := by
  induction log using List.reverseRecOn with
  | nil => exact ⟨rfl, rfl⟩
  | append_singleton log e ih =>
      rw [run_concat, List.filter_append]
      by_cases hconcerns : e.concerns filename = true
      · rw [List.filter_singleton, hconcerns, cond_true, run_concat]
        exact ih.after e
      · have hother : e.concerns filename = false := by simpa using hconcerns
        rw [List.filter_singleton, hother, cond_false, List.append_nil]
        exact (sameFor_after hother _).trans ih

/-! ### The text of a file -/

section

variable {σ : Type} {render : Renderer σ}

/-- What a renderer makes of a filter does not depend on its state. -/
def Stateless (render : Renderer σ) : Prop := ∀ s t f, (render s f).1 = (render t f).1

theorem renderAll_of_stateless (h : Stateless render) (fs : List Filter) (s t : σ) :
    (renderAll render fs s).1 = (renderAll render fs t).1 := by
  induction fs generalizing s t with
  | nil => rfl
  | cons f fs ih =>
      show (render s f).1.toList ++ (renderAll render fs (render s f).2).1 =
        (render t f).1.toList ++ (renderAll render fs (render t f).2).1
      rw [h s t f, ih _ (render t f).2]

/-- The text of a file whose filters are rendered from a state. -/
def fileText (render : Renderer σ) (s : σ) (fs : List Filter) (code : String) : String :=
  match fs with
  | [] => code
  | fs => assemble (renderAll render fs s).1 code

theorem fileText_of_stateless (h : Stateless render) (s t : σ) (fs : List Filter)
    (code : String) : fileText render s fs code = fileText render t fs code := by
  cases fs with
  | nil => rfl
  | cons f fs =>
      unfold fileText
      simp only
      rw [renderAll_of_stateless h (f :: fs) s t]

/-- The first file has its text, and the later ones are rendered from where it left the state. -/
theorem emitAll_cons (a : Assembler) (render : Renderer σ) (filename code : String)
    (files : List (String × String)) (s : σ) :
    a.emitAll render ((filename, code) :: files) s =
      ((filename, fileText render s (a.filtersOf filename) code) ::
          (a.emitAll render files (renderAll render (a.filtersOf filename) s).2).1,
        (a.emitAll render files (renderAll render (a.filtersOf filename) s).2).2) := by
  rw [emitAll]
  cases a.filtersOf filename <;> rfl

/-- Without a state, a file has its text whatever files come before it. -/
theorem lookup_emitAll (h : Stateless render) (a : Assembler) (files : List (String × String))
    (s t : σ) (filename : String) :
    (a.emitAll render files s).1.lookup filename =
      (files.lookup filename).map (fileText render t (a.filtersOf filename)) := by
  induction files generalizing s with
  | nil => rfl
  | cons file files ih =>
      obtain ⟨name, code⟩ := file
      simp only [emitAll_cons, List.lookup_cons]
      by_cases hname : filename = name
      · subst hname
        simp [fileText_of_stateless h s t]
      · have hbeq : (filename == name) = false := by simpa using hname
        rw [hbeq]
        exact ih _

end

/-- Where there is no difference for a file, it has one text. -/
theorem SameFor.lookup_materialize {filename : String} {a b : Assembler}
    (h : SameFor filename a b) {σ : Type} {render : Option (Renderer σ)}
    (hstateless : ∀ r ∈ render, Stateless r) (s t : σ) :
    (a.materialize render s).1.lookup filename = (b.materialize render t).1.lookup filename := by
  cases render with
  | none => exact h.code
  | some r =>
      have hr : Stateless r := hstateless r rfl
      show (a.emitAll r a.files.entries s).1.lookup filename =
        (b.emitAll r b.files.entries t).1.lookup filename
      rw [lookup_emitAll hr a _ s t, lookup_emitAll hr b _ t t, filtersOf_eq, filtersOf_eq, h.filters]
      exact congrArg _ h.code

/--
**An assembler is its log replayed.**  After any log the files are those registered since
the last clearing, in the order in which they were first registered, each with the code
registered last; and the filters of a file, whether it is registered or not, are those
registered for it since the last clearing or removal of its filters, in the same way.
So the text that a renderer without a state gives a file is the same after any two logs
that have in common the events that name the file and the clearings, whatever they do
with other files and in whatever order.
-/
theorem run_eq_replay (log : List Event) (filename : String) :
    (empty.run log).files.entries = OrderedMap.lastWrites (codesSinceClear log) ∧
    (empty.run log).filtersOf filename =
      (OrderedMap.lastWrites (filtersSinceDrop log filename)).map Prod.snd ∧
    ∀ other : List Event,
      other.filter (·.concerns filename) = log.filter (·.concerns filename) →
      ∀ {σ : Type} (render : Option (Renderer σ)), (∀ r ∈ render, Stateless r) → ∀ s t : σ,
        ((empty.run log).materialize render s).1.lookup filename =
          ((empty.run other).materialize render t).1.lookup filename := by
  refine ⟨?_, ?_, ?_⟩
  · rw [files_run, OrderedMap.entries_ofList]
  · rw [filtersOf_eq, filterMap_run, OrderedMap.values, OrderedMap.entries_ofList]
  · intro other hcommon σ render hstateless s t
    have hsame : SameFor filename (empty.run log) (empty.run other) := by
      refine (sameFor_run filename log).trans ?_
      rw [← hcommon]
      exact (sameFor_run filename other).symm
    exact hsame.lookup_materialize hstateless s t

/-! ### Two files at once -/

/-- A filter with its id for its name. -/
def sampleFilter (id code : String) : Filter := ⟨id, .wxs, id, none, code⟩

/-- What is done with one file. -/
def oneFile : List Event :=
  [.registerFile "a" "old", .clear, .registerFilter "a" (sampleFilter "x" "X"),
    .registerFile "a" "code", .registerFilter "a" (sampleFilter "y" "Y"),
    .registerFilter "a" (sampleFilter "x" "X again")]

/-- The same, with another file registered, provided with filters and deprived of them in between. -/
def twoFiles : List Event :=
  [.registerFilter "b" (sampleFilter "x" "other"), .registerFile "a" "old", .clear,
    .registerFilter "a" (sampleFilter "x" "X"), .registerFile "b" "first",
    .registerFilter "b" (sampleFilter "y" "other"), .registerFile "a" "code",
    .registerFilter "a" (sampleFilter "y" "Y"), .removeFilters "b",
    .registerFilter "a" (sampleFilter "x" "X again"), .registerFile "b" "last"]

/-- A renderer that counts filters, and takes their codes whatever its count is. -/
def countingRenderer : Renderer Nat := fun n f => (some f.code, n + 1)

/-- Work on another file in between does not show. -/
theorem twoFiles_text :
    oneFile.filter (·.concerns "a") = twoFiles.filter (·.concerns "a") ∧
    Stateless countingRenderer ∧
    ((empty.run twoFiles).materialize (some countingRenderer) 0).1.lookup "a" =
      some "X again\nY\ncode" := by
  have hcommon : oneFile.filter (·.concerns "a") = twoFiles.filter (·.concerns "a") := by decide
  have hstateless : Stateless countingRenderer := fun _ _ _ => rfl
  refine ⟨hcommon, hstateless, ?_⟩
  rw [(run_eq_replay twoFiles "a").2.2 oneFile hcommon (some countingRenderer)
    (fun r hr => by cases hr; exact hstateless) 0 7]
  decide

end Assembler
end AppBuild
