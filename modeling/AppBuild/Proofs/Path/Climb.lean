/-
Relative paths without a working directory.

A relative path climbs some way above where it starts and then goes down by names, and what
it leads to from a directory depends on nothing else (`place_join_eq`).  Where there is no
working directory, resolving leaves such a path relative.  It keeps the names, but a step up
takes back the step up before it, so that one is left of an odd number of them and none of an
even one (`resolve_relative_eq`).  So the path is left with what it leads to if it climbs one
step at the most, and from a directory that has no more above it than is left.
-/
import AppBuild.Proofs.Path.Canonical

namespace AppBuild

/-! ### What steps come to -/

/-- How far above their start steps lead at the most.  A name that is gone into is one step less for
those that follow. -/
def climb : List Step → Nat
  | [] => 0
  | .up :: steps => climb steps + 1
  | .into _ :: steps => climb steps - 1

/-- Where steps have led so far: up a number of times, and down by names, the last of these
first. -/
structure Course where
  ups : Nat
  names : List FileName

namespace Course

/-- Goes one step further. -/
def next (c : Course) : Step → Course
  | .into name => ⟨c.ups, name :: c.names⟩
  | .up =>
    match c.names with
    | [] => ⟨c.ups + 1, []⟩
    | _ :: names => ⟨c.ups, names⟩

/-- Where steps lead. -/
def ofSteps (steps : List Step) : Course := steps.foldl next ⟨0, []⟩

/-- The names so far are taken back before anything is climbed. -/
theorem ups_foldl_next (c : Course) (steps : List Step) :
    (steps.foldl next c).ups = c.ups + (climb steps - c.names.length) := by
  induction steps generalizing c with
  | nil => simp [climb]
  | cons s steps ih =>
      rw [List.foldl_cons, ih]
      cases s with
      | into name =>
          simp only [next, climb, List.length_cons]
          omega
      | up =>
          cases hnames : c.names with
          | nil =>
              simp only [next, climb, hnames, List.length_nil]
              omega
          | cons name names =>
              simp only [next, climb, hnames, List.length_cons]
              omega

theorem ups_ofSteps (steps : List Step) : (ofSteps steps).ups = climb steps := by
  rw [ofSteps, ups_foldl_next]
  simp

theorem mem_names_foldl_next {c : Course} {steps : List Step} {name : FileName}
    (h : name ∈ (steps.foldl next c).names) : name ∈ c.names ∨ .into name ∈ steps := by
  induction steps generalizing c with
  | nil => exact .inl h
  | cons s steps ih =>
      rcases ih h with hnext | hsteps
      · cases s with
        | into first =>
            rcases List.mem_cons.mp hnext with rfl | hnames
            · exact .inr (by simp)
            · exact .inl hnames
        | up =>
            cases hnames : c.names with
            | nil =>
                simp only [next, hnames] at hnext
                exact absurd hnext (by simp)
            | cons last names =>
                simp only [next, hnames] at hnext
                exact .inl (List.mem_cons_of_mem _ hnext)
      · exact .inr (List.mem_cons_of_mem _ hsteps)

/-! ### From a place -/

/-- Where a course leads from a place.  It goes up to the root at the most. -/
def placeFrom (c : Course) (at_ : Location) : Location :=
  at_.take (at_.length - c.ups) ++ c.names.reverse

theorem advance_placeFrom (c : Course) (at_ : Location) (s : Step) :
    Route.advance true ((c.placeFrom at_).map .into).reverse s =
      (((c.next s).placeFrom at_).map .into).reverse := by
  cases s with
  | into name => simp [Route.advance, placeFrom, next]
  | up =>
      rw [Path.advance_up]
      cases hnames : c.names with
      | nil =>
          -- At the root there is nothing left to drop, and nothing is dropped for one step more.
          simp only [placeFrom, next, hnames, List.reverse_nil, List.append_nil]
          rw [List.dropLast_eq_take, List.take_take, List.length_take]
          congr 4
          omega
      | cons last names =>
          simp only [placeFrom, next, hnames, List.reverse_cons]
          rw [← List.append_assoc, List.dropLast_concat]

theorem foldl_advance_placeFrom (c : Course) (at_ : Location) (steps : List Step) :
    steps.foldl (Route.advance true) ((c.placeFrom at_).map .into).reverse =
      (((steps.foldl next c).placeFrom at_).map .into).reverse := by
  induction steps generalizing c with
  | nil => rfl
  | cons s steps ih => rw [List.foldl_cons, advance_placeFrom, ih, List.foldl_cons]

/-! ### Without a place -/

/-- What is kept of a course from nowhere, last first: of two steps up the second takes back the
first. -/
def kept (c : Course) : List Step := c.names.map .into ++ List.replicate (c.ups % 2) .up

theorem advance_kept (c : Course) (s : Step) :
    Route.advance false c.kept s = (c.next s).kept := by
  cases s with
  | into name => rfl
  | up =>
      cases hnames : c.names with
      | nil =>
          simp only [kept, next, hnames, List.map_nil, List.nil_append]
          rcases Nat.mod_two_eq_zero_or_one c.ups with heven | hodd
          · rw [heven, show (c.ups + 1) % 2 = 1 by omega]
            rfl
          · rw [hodd, show (c.ups + 1) % 2 = 0 by omega]
            rfl
      | cons last names =>
          simp only [kept, next, hnames]
          rfl

theorem foldl_advance_kept (c : Course) (steps : List Step) :
    steps.foldl (Route.advance false) c.kept = (steps.foldl next c).kept := by
  induction steps generalizing c with
  | nil => rfl
  | cons s steps ih => rw [List.foldl_cons, advance_kept, ih, List.foldl_cons]

end Course

/-! ### What relative paths lead to -/

namespace Path

/-- Where the steps of a path lead. -/
def course (p : Path) : Course := .ofSteps p.route.steps

theorem ups_course (p : Path) : p.course.ups = climb p.route.steps := Course.ups_ofSteps _

theorem isName_of_mem_course {p : Path} {name : FileName} (h : name ∈ p.course.names) :
    IsName name := by
  rcases Course.mem_names_foldl_next h with hnil | hsteps
  · exact absurd hnil (by simp)
  · exact isName_of_mem_steps hsteps

/-- **What a relative path leads to is decided by how far it climbs and the names it ends in.** -/
theorem place_join_eq (d : Path) {p : Path} (hp : p.isAbsolute = false) :
    (d.join p).place = p.course.placeFrom d.place := by
  have hdown : ∀ s ∈ d.place.map Step.into, s ≠ .up := by simp
  have hstart : (⟨0, []⟩ : Course).placeFrom d.place = d.place := by simp [Course.placeFrom]
  refine into_injective.list_map ?_
  rw [map_into_place, steps_join d hp, ← Route.clean_append, ← map_into_place]
  unfold Route.clean
  simp only [List.foldl_append, Route.foldl_advance_down hdown, List.append_nil]
  have hfold := Course.foldl_advance_placeFrom ⟨0, []⟩ d.place p.route.steps
  rw [hstart] at hfold
  rw [hfold, List.reverse_reverse]
  rfl

section

variable {base path : Path} (hbase : base.isAbsolute = false) (hpath : path.isAbsolute = false)

include hbase hpath

/-- **Without a working directory, two steps up take back each other.** -/
theorem resolve_relative_eq :
    resolve none base path =
      way (climb (base.join path).route.steps % 2) (base.join path).course.names.reverse := by
  have hjoin := isAbsolute_join_false hbase hpath
  have hclean : (base.join path).route.clean = ⟨false, (base.join path).course.kept.reverse⟩ := by
    have hfold := Course.foldl_advance_kept ⟨0, []⟩ (base.join path).route.steps
    show (⟨(base.join path).isAbsolute, ((base.join path).route.steps.foldl
      (Route.advance (base.join path).isAbsolute) []).reverse⟩ : Route) = _
    rw [hjoin]
    exact congrArg (fun steps : List Step => (⟨false, steps.reverse⟩ : Route)) hfold
  have hresolve : resolve none base path = (base.join path).route.clean.toPath := by
    unfold resolve
    simp only [hjoin, Bool.false_eq_true, if_false]
  rw [hresolve, hclean, Course.kept, ups_course, List.reverse_append, List.reverse_replicate,
    ← List.map_reverse]
  unfold Route.toPath way
  simp only [Bool.false_eq_true, if_false, List.map_append, List.map_replicate, map_bytes_into]
  rfl

theorem isAbsolute_resolve_none : (resolve none base path).isAbsolute = false := by
  rw [resolve_relative_eq hbase hpath]
  exact isAbsolute_way _ fun name hname => isName_of_mem_course (List.mem_reverse.mp hname)

/-- From a directory, the path that is left leads where the path itself does if no step is
missed. -/
theorem resolve_resolve_iff {d : Path} (hd : d.isAbsolute = true) :
    resolve none d (resolve none base path) = resolve none d (base.join path) ↔
      climb (base.join path).route.steps ≤ 1 ∨
        d.place.length ≤ climb (base.join path).route.steps % 2 := by
  have hnames : ∀ name ∈ (base.join path).course.names.reverse, IsName name :=
    fun name hname => isName_of_mem_course (List.mem_reverse.mp hname)
  rw [resolve_eq_iff_of_absolute none (isAbsolute_join_left hd _) (isAbsolute_join_left hd _),
    resolve_relative_eq hbase hpath, place_join d (isAbsolute_way _ hnames),
    foldl_onward_way _ hnames, place_join_eq d (isAbsolute_join_false hbase hpath),
    Course.placeFrom, ups_course, List.append_cancel_right_eq, List.take_eq_take_iff]
  omega

/--
**A relative path is left with what it leads to if it climbs one step at the most.**  From a
directory it is so too if there is no more above the directory than the one step that is left
of an odd number, or none of an even one.  For it to be so from every directory the path must
not climb more than one step.
-/
theorem resolve_relative_keeps_iff :
    (∀ d : Path, d.isAbsolute = true →
      (resolve none d (resolve none base path) = resolve none d (base.join path) ↔
        climb (base.join path).route.steps ≤ 1 ∨
          d.place.length ≤ climb (base.join path).route.steps % 2)) ∧
    ((∀ d : Path, d.isAbsolute = true →
        resolve none d (resolve none base path) = resolve none d (base.join path)) ↔
      climb (base.join path).route.steps ≤ 1) := by
  refine ⟨fun d hd => resolve_resolve_iff hbase hpath hd, ?_, ?_⟩
  · intro hkeeps
    -- Two names deep there is a step to miss, whatever is left.
    have hd : (ofText "/a/b").isAbsolute = true := by decide
    have hdeep : (ofText "/a/b").place.length = 2 := by decide
    have hcases := (resolve_resolve_iff hbase hpath hd).mp (hkeeps _ hd)
    omega
  · intro hclimb d hd
    exact (resolve_resolve_iff hbase hpath hd).mpr (.inl hclimb)

end

/-- A step up above the base is kept, whatever else is taken back. -/
theorem one_step_up_kept :
    (ofText "a").isAbsolute = false ∧ (ofText "../../b/./c/..").isAbsolute = false ∧
    resolve none (ofText "a") (ofText "../../b/./c/..") = ofText "../b" ∧
    resolve none (ofText "/x/y") (ofText "../b") =
      resolve none (ofText "/x/y") ((ofText "a").join (ofText "../../b/./c/..")) := by
  have hbase : (ofText "a").isAbsolute = false := by decide
  have hpath : (ofText "../../b/./c/..").isAbsolute = false := by decide
  have hd : (ofText "/x/y").isAbsolute = true := by decide
  have hleft : resolve none (ofText "a") (ofText "../../b/./c/..") = ofText "../b" := by
    decide +kernel
  have hclimb : climb ((ofText "a").join (ofText "../../b/./c/..")).route.steps ≤ 1 := by
    decide +kernel
  refine ⟨hbase, hpath, hleft, ?_⟩
  rw [← ((resolve_relative_keeps_iff hbase hpath).1 _ hd).mpr (.inl hclimb), hleft]

/-- Of two steps up nothing is left, so that the path leads nowhere else than to where it starts. -/
theorem two_steps_up_lost :
    (ofText "..").isAbsolute = false ∧ (ofText "/a/b").isAbsolute = true ∧
    resolve none (ofText "..") (ofText "..") = ofText "" ∧
    resolve none (ofText "/a/b") (ofText "") = ofText "/a/b" ∧
    resolve none (ofText "/a/b") ((ofText "..").join (ofText "..")) = ofText "/" ∧
    resolve none (ofText "/a/b") (resolve none (ofText "..") (ofText "..")) ≠
      resolve none (ofText "/a/b") ((ofText "..").join (ofText "..")) := by
  decide +kernel

end Path
end AppBuild
