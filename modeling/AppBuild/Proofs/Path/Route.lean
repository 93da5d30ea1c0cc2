/-
What becomes of the steps of paths when paths are joined and resolved.

Joining two paths joins what they say: the parts of the second follow those of the
first, however many slashes stand between them.  Cleaning steps from the root on can
be done piece by piece, since steps that were cleaned go straight down and are taken
as they are (`clean_append`).  And a clean path from the root says its steps and
nothing else, so no two of them are spelled alike (`route_toPath`).

Together these make resolving a matter of steps.  In an absolute working directory,
what a path leads to from a base is decided by where the base leads, whichever way it
is spelled (`resolve_congr`), and two paths after each other lead where the second
leads from what the first is resolved to (`resolve_join`).
-/
import AppBuild.Path.Resolve
import AppBuild.Tree.Walk
import Mathlib.Data.List.Basic

namespace AppBuild

namespace Path

/-! ### Parts between slashes -/

theorem splitSlash_ne_nil (bs : List UInt8) : splitSlash bs ≠ [] := by
  cases bs with
  | nil => simp [splitSlash]
  | cons b bs =>
      unfold splitSlash
      split
      · simp
      · split <;> simp

theorem splitSlash_cons_of_ne {b : UInt8} (h : b ≠ slash) {bs : List UInt8} {part : FileName}
    {parts : List FileName} (hbs : splitSlash bs = part :: parts) :
    splitSlash (b :: bs) = (b :: part) :: parts := by
  rw [splitSlash, if_neg h, hbs]

theorem splitSlash_append_slash (as bs : List UInt8) :
    splitSlash (as ++ slash :: bs) = splitSlash as ++ splitSlash bs := by
  induction as with
  | nil => rfl
  | cons a as ih =>
      by_cases ha : a = slash
      · subst ha
        rw [List.cons_append, splitSlash, if_pos rfl, ih, splitSlash, if_pos rfl]
        rfl
      · obtain ⟨part, parts, hparts⟩ := List.exists_cons_of_ne_nil (splitSlash_ne_nil as)
        rw [splitSlash_cons_of_ne ha hparts]
        rw [hparts, List.cons_append] at ih
        rw [List.cons_append, splitSlash_cons_of_ne ha ih, List.cons_append]

theorem slash_not_mem_of_mem_splitSlash {bs : List UInt8} {part : FileName}
    (h : part ∈ splitSlash bs) : slash ∉ part := by
  induction bs generalizing part with
  | nil =>
      rw [List.mem_singleton.mp h]
      simp
  | cons b bs ih =>
      by_cases hb : b = slash
      · rw [splitSlash, if_pos hb] at h
        rcases List.mem_cons.mp h with rfl | h
        · simp
        · exact ih h
      · obtain ⟨first, rest, hsplit⟩ := List.exists_cons_of_ne_nil (splitSlash_ne_nil bs)
        rw [splitSlash_cons_of_ne hb hsplit] at h
        rcases List.mem_cons.mp h with rfl | h
        · intro hmem
          rcases List.mem_cons.mp hmem with heq | hmem
          · exact hb heq.symm
          · exact ih (by rw [hsplit]; simp) hmem
        · exact ih (by rw [hsplit]; simp [h])

theorem splitSlash_of_not_mem {bs : List UInt8} (h : slash ∉ bs) : splitSlash bs = [bs] := by
  induction bs with
  | nil => rfl
  | cons b bs ih =>
      rw [List.mem_cons, not_or] at h
      exact splitSlash_cons_of_ne (Ne.symm h.1) (ih h.2)

theorem splitSlash_joinSlash {parts : List FileName} (hne : parts ≠ [])
    (h : ∀ part ∈ parts, slash ∉ part) : splitSlash (Route.joinSlash parts) = parts := by
  induction parts with
  | nil => exact absurd rfl hne
  | cons part rest ih =>
      cases rest with
      | nil => exact splitSlash_of_not_mem (h part (by simp))
      | cons next rest =>
          show splitSlash (part ++ slash :: Route.joinSlash (next :: rest)) = _
          rw [splitSlash_append_slash, splitSlash_of_not_mem (h part (by simp)),
            ih (by simp) (fun p hp => h p (by simp [hp]))]
          rfl

/-! ### What a path says -/

/-- The name as a path. -/
theorem parts_name {name : FileName} (h : IsName name) : parts ⟨name⟩ = [name] := by
  unfold parts
  rw [splitSlash_of_not_mem h.2.1]
  simp [h.1]

section

variable {names : List FileName} (h : ∀ name ∈ names, name ≠ [] ∧ slash ∉ name)

include h

theorem parts_joinSlash : parts ⟨Route.joinSlash names⟩ = names := by
  cases names with
  | nil => rfl
  | cons name rest =>
      unfold parts
      rw [splitSlash_joinSlash (by simp) fun part hpart => (h part hpart).2]
      refine List.filter_eq_self.mpr ?_
      intro part hpart
      simpa using (h part hpart).1

theorem isAbsolute_joinSlash : isAbsolute ⟨Route.joinSlash names⟩ = false := by
  cases names with
  | nil => rfl
  | cons name rest =>
      obtain ⟨hne, hslash⟩ := h name (by simp)
      obtain ⟨b, bs, rfl⟩ := List.exists_cons_of_ne_nil hne
      have hb : b ≠ slash := fun hb => hslash (by rw [hb]; simp)
      have hhead : (Route.joinSlash ((b :: bs) :: rest)).head? = some b := by
        cases rest <;> rfl
      unfold isAbsolute
      rw [hhead]
      simpa using hb

end

theorem isAbsolute_name {name : FileName} (h : IsName name) : isAbsolute ⟨name⟩ = false := by
  obtain ⟨b, rest, rfl⟩ := List.exists_cons_of_ne_nil h.1
  have hb : b ≠ slash := fun hb => h.2.1 (by rw [hb]; simp)
  simpa [isAbsolute] using hb

/-- The parts of a path after those of another. -/
theorem parts_append_slash (as bs : List UInt8) :
    parts ⟨as ++ slash :: bs⟩ = parts ⟨as⟩ ++ parts ⟨bs⟩ := by
  unfold parts
  rw [splitSlash_append_slash, List.filter_append]

theorem parts_join (p : Path) {q : Path} (hq : q.isAbsolute = false) :
    (p.join q).parts = p.parts ++ q.parts := by
  unfold join
  rw [hq, if_neg (by simp)]
  split
  · next h =>
      rcases Bool.or_eq_true_iff.mp h with hempty | hslash
      · have hp : p.bytes = [] := by simpa using hempty
        simp [parts, hp, splitSlash]
      · have hlast : p.bytes.getLast? = some slash := by simpa using hslash
        obtain ⟨front, hfront⟩ := List.getLast?_eq_some_iff.mp hlast
        have hp : p.parts = parts ⟨front⟩ := by
          have := parts_append_slash front []
          rw [← hfront] at this
          rw [this]
          simp [parts, splitSlash]
        rw [hp, hfront, List.append_assoc]
        exact parts_append_slash front q.bytes
  · exact parts_append_slash p.bytes q.bytes

theorem isAbsolute_join (p q : Path) :
    (p.join q).isAbsolute = (q.isAbsolute || p.isAbsolute) := by
  unfold join
  cases hq : q.isAbsolute with
  | true => simp [hq]
  | false =>
      rw [if_neg (by simp)]
      cases hp : p.bytes with
      | nil =>
          simp only [isAbsolute] at hq
          simp [isAbsolute, hp, hq]
      | cons b bs =>
          split <;> simp [isAbsolute, hp]

theorem isAbsolute_join_left {p : Path} (hp : p.isAbsolute = true) (q : Path) :
    (p.join q).isAbsolute = true := by rw [isAbsolute_join, hp, Bool.or_true]

theorem isAbsolute_join_right (p : Path) {q : Path} (hq : q.isAbsolute = true) :
    (p.join q).isAbsolute = true := by rw [isAbsolute_join, hq, Bool.true_or]

theorem isAbsolute_join_false {p q : Path} (hp : p.isAbsolute = false)
    (hq : q.isAbsolute = false) : (p.join q).isAbsolute = false := by
  rw [isAbsolute_join, hp, hq, Bool.or_false]

/-- An absolute path stands for itself. -/
theorem join_of_absolute (p : Path) {q : Path} (hq : q.isAbsolute = true) : p.join q = q := by
  rw [join, if_pos hq]

theorem steps_eq_parts (p : Path) : p.route.steps = p.parts.filterMap Step.ofPart? := by
  unfold parts
  rw [List.filterMap_filter]
  refine List.filterMap_congr fun part _ => ?_
  cases part with
  | nil => rfl
  | cons b bs => rfl

theorem steps_join (p : Path) {q : Path} (hq : q.isAbsolute = false) :
    (p.join q).route.steps = p.route.steps ++ q.route.steps := by
  rw [steps_eq_parts, parts_join p hq, List.filterMap_append, ← steps_eq_parts,
    ← steps_eq_parts]

/-- The names among the steps of a path are names. -/
theorem isName_of_mem_steps {p : Path} {name : FileName} (h : .into name ∈ p.route.steps) :
    IsName name := by
  obtain ⟨part, hpart, hstep⟩ := List.mem_filterMap.mp h
  unfold Step.ofPart? at hstep
  split at hstep
  · exact absurd hstep (by simp)
  · next hsays =>
      split at hstep
      · exact absurd hstep (by simp)
      · next hup =>
          rw [← Step.into.inj (Option.some.inj hstep)]
          have hne : part ≠ [] := fun hnil => hsays (by simp [hnil])
          have hdot : part ≠ [dot] := fun hdot => hsays (by simp [hdot])
          exact ⟨hne, slash_not_mem_of_mem_splitSlash hpart, hdot, hup⟩

/-! ### What a walk goes through -/

theorem segments_eq (p : Path) :
    p.segments = if p.bytes.getLast? = some slash then p.parts ++ [[dot]] else p.parts := rfl

/-- The path goes down from a directory to something, and does not ask for a directory there. -/
structure IsBelow (q : Path) : Prop where
  relative : q.isAbsolute = false
  ne_nil : q.bytes ≠ []
  last : q.bytes.getLast? ≠ some slash

theorem isBelow_name {name : FileName} (h : IsName name) : IsBelow ⟨name⟩ where
  relative := isAbsolute_name h
  ne_nil := h.1
  last hlast := h.2.1 (List.mem_of_getLast? hlast)

theorem bytes_join (p : Path) {q : Path} (hq : q.isAbsolute = false) :
    (p.join q).bytes =
      (if p.bytes.isEmpty || p.bytes.getLast? == some slash then p.bytes
        else p.bytes ++ [slash]) ++ q.bytes := by
  unfold join
  rw [hq, if_neg (by simp)]
  split <;> simp

theorem getLast?_join (p : Path) {q : Path} (hq : q.IsBelow) :
    (p.join q).bytes.getLast? = q.bytes.getLast? := by
  rw [bytes_join p hq.relative, List.getLast?_append_of_ne_nil _ hq.ne_nil]

/-- What stands below a directory is the last to go through. -/
theorem segments_join (p : Path) {q : Path} (hq : q.IsBelow) :
    (p.join q).segments = p.parts ++ q.parts := by
  rw [segments_eq, getLast?_join p hq, if_neg hq.last, parts_join p hq.relative]

theorem IsBelow.join {p q : Path} (hp : p.IsBelow) (hq : q.IsBelow) : (p.join q).IsBelow where
  relative := isAbsolute_join_false hp.relative hq.relative
  ne_nil := by
    rw [bytes_join p hq.relative]
    simp [hq.ne_nil]
  last := by
    rw [getLast?_join p hq]
    exact hq.last

theorem join_assoc (p : Path) {q r : Path} (hq : q.IsBelow) (hr : r.isAbsolute = false) :
    (p.join q).join r = p.join (q.join r) := by
  have hqr : (q.join r).isAbsolute = false := isAbsolute_join_false hq.relative hr
  have hslash : (q.bytes.getLast? == some slash) = false := by simpa using hq.last
  have hempty : q.bytes.isEmpty = false := by simpa using hq.ne_nil
  have hjoin : (p.join q).bytes.isEmpty = false := by
    rw [bytes_join p hq.relative]
    simp [hq.ne_nil]
  have hlast : ((p.join q).bytes.getLast? == some slash) = false := by
    rw [getLast?_join p hq]
    exact hslash
  have hbytes : ((p.join q).join r).bytes = (p.join (q.join r)).bytes := by
    rw [bytes_join _ hr, hjoin, hlast, bytes_join p hq.relative, bytes_join p hqr,
      bytes_join q hr, hempty, hslash]
    simp
  exact congrArg mk hbytes

end Path

/-! ### Clean steps from the root -/

namespace Route

/-- Steps that only go down are taken as they are. -/
theorem foldl_advance_down {down : List Step} (h : ∀ s ∈ down, s ≠ .up) (done : List Step) :
    down.foldl (advance true) done = down.reverse ++ done := by
  induction down generalizing done with
  | nil => rfl
  | cons s down ih =>
      cases s with
      | up => exact absurd rfl (h .up (by simp))
      | into name =>
          rw [List.foldl_cons, ih (fun s hs => h s (by simp [hs]))]
          simp [advance]

theorem mem_foldl_advance {steps done : List Step} {s : Step}
    (h : s ∈ steps.foldl (advance true) done) : s ∈ done ∨ s ∈ steps ∧ s ≠ .up := by
  induction steps generalizing done with
  | nil => exact .inl h
  | cons first steps ih =>
      rcases ih h with hdone | ⟨hsteps, hup⟩
      · cases first with
        | into name =>
            rcases List.mem_cons.mp hdone with rfl | hdone
            · exact .inr ⟨by simp, by simp⟩
            · exact .inl hdone
        | up =>
            cases done with
            | nil => exact absurd hdone (by simp [advance])
            | cons last done => exact .inl (List.mem_cons_of_mem _ hdone)
      · exact .inr ⟨List.mem_cons_of_mem _ hsteps, hup⟩

/-- What is clean from the root goes down all the way, by steps that were there. -/
theorem mem_clean {steps : List Step} {s : Step} (h : s ∈ (clean ⟨true, steps⟩).steps) :
    s ∈ steps ∧ s ≠ .up := by
  rcases mem_foldl_advance (List.mem_reverse.mp h) with hnil | h
  · exact absurd hnil (by simp)
  · exact h

/-- Steps can be cleaned before more follow. -/
theorem clean_append (steps more : List Step) :
    clean ⟨true, (clean ⟨true, steps⟩).steps ++ more⟩ = clean ⟨true, steps ++ more⟩ := by
  have hdown : (clean ⟨true, steps⟩).steps.foldl (advance true) []
      = steps.foldl (advance true) [] := by
    rw [foldl_advance_down (fun s hs => (mem_clean hs).2)]
    simp [clean]
  unfold clean at hdown ⊢
  simp only [List.foldl_append, hdown]

theorem clean_clean (steps : List Step) :
    clean ⟨true, (clean ⟨true, steps⟩).steps⟩ = clean ⟨true, steps⟩ := by
  have happend := clean_append steps []
  rwa [List.append_nil, List.append_nil] at happend

/-- **A clean path from the root says its steps.** -/
theorem route_toPath {steps : List Step} (hdown : ∀ s ∈ steps, s ≠ .up)
    (hnames : ∀ name, .into name ∈ steps → IsName name) :
    (toPath ⟨true, steps⟩).route = ⟨true, steps⟩ := by
  have hofPart : ∀ s ∈ steps, Step.ofPart? s.bytes = some s := by
    intro s hs
    cases s with
    | up => exact absurd rfl (hdown .up hs)
    | into name =>
        obtain ⟨hne, -, hdot, hup⟩ := hnames name hs
        simp [Step.ofPart?, Step.bytes, hne, hdot, hup]
  have hslash : ∀ part ∈ steps.map Step.bytes, Path.slash ∉ part := by
    intro part hpart
    obtain ⟨s, hs, rfl⟩ := List.mem_map.mp hpart
    cases s with
    | up => exact absurd rfl (hdown .up hs)
    | into name => exact (hnames name hs).2.1
  have hsteps : (Path.splitSlash (joinSlash (steps.map Step.bytes))).filterMap Step.ofPart?
      = steps := by
    cases steps with
    | nil => rfl
    | cons s rest =>
        rw [Path.splitSlash_joinSlash (by simp) hslash, List.filterMap_map]
        exact (List.filterMap_congr hofPart).trans List.filterMap_some
  show (⟨true, (Path.splitSlash (Path.slash :: joinSlash (steps.map Step.bytes))).filterMap
    Step.ofPart?⟩ : Route) = _
  rw [Path.splitSlash, if_pos rfl, List.filterMap_cons]
  simp only [show Step.ofPart? [] = none from rfl, hsteps]

end Route

/-! ### Resolving in an absolute working directory -/

namespace Path

variable {w : Path}

/-- The steps from the root that a path stands for in a working directory. -/
def stepsIn (w p : Path) : List Step :=
  if p.isAbsolute then p.route.steps else w.route.steps ++ p.route.steps

theorem stepsIn_join (w p : Path) {q : Path} (hq : q.isAbsolute = false) :
    stepsIn w (p.join q) = stepsIn w p ++ q.route.steps := by
  unfold stepsIn
  rw [isAbsolute_join, steps_join p hq, hq, Bool.false_or]
  split
  · rfl
  · rw [List.append_assoc]

theorem stepsIn_join_absolute (w p : Path) {q : Path} (hq : q.isAbsolute = true) :
    stepsIn w (p.join q) = stepsIn w q := by
  rw [join_of_absolute p hq]

theorem stepsIn_here (w p : Path) : stepsIn w (here.join p) = stepsIn w p := by
  cases hp : p.isAbsolute with
  | true => exact stepsIn_join_absolute w here hp
  | false =>
      rw [stepsIn_join w here hp]
      simp [stepsIn, hp, show here.isAbsolute = false from rfl,
        show here.route.steps = [] from rfl]

/-- Resolving cleans the steps. -/
theorem resolve_eq (hw : w.isAbsolute = true) (base path : Path) :
    resolve (some w) base path = (Route.clean ⟨true, stepsIn w (base.join path)⟩).toPath := by
  unfold resolve stepsIn
  cases h : (base.join path).isAbsolute with
  | true =>
      simp only [h, if_true]
      unfold route
      rw [h]
  | false =>
      have hroute : (w.join (base.join path)).route
          = ⟨true, w.route.steps ++ (base.join path).route.steps⟩ := by
        rw [← steps_join w h]
        unfold route
        rw [isAbsolute_join, h, hw]
        rfl
      simp only [h, Bool.false_eq_true, if_false, hroute]

/-- What is resolved says the clean steps. -/
theorem route_resolve (hw : w.isAbsolute = true) (base path : Path) :
    (resolve (some w) base path).route = Route.clean ⟨true, stepsIn w (base.join path)⟩ := by
  rw [resolve_eq hw]
  refine Route.route_toPath (fun s hs => (Route.mem_clean hs).2) (fun name hname => ?_)
  have hmem := (Route.mem_clean hname).1
  unfold stepsIn at hmem
  split at hmem
  · exact isName_of_mem_steps hmem
  · rcases List.mem_append.mp hmem with h | h <;> exact isName_of_mem_steps h

theorem isAbsolute_resolve (hw : w.isAbsolute = true) (base path : Path) :
    (resolve (some w) base path).isAbsolute = true := by
  show (resolve (some w) base path).route.rooted = true
  rw [route_resolve hw]
  rfl

/-- Where a path leads from a base is where it leads from where the base leads. -/
theorem clean_stepsIn_join (w p : Path) {q : Path} (hq : q.isAbsolute = false) :
    Route.clean ⟨true, stepsIn w (p.join q)⟩ =
      Route.clean ⟨true, (Route.clean ⟨true, stepsIn w p⟩).steps ++ q.route.steps⟩ := by
  rw [stepsIn_join w p hq, Route.clean_append]

/-- **Bases that lead to one place are alike.** -/
theorem resolve_congr (hw : w.isAbsolute = true) {base₁ base₂ : Path}
    (h : resolve (some w) here base₁ = resolve (some w) here base₂) (path : Path) :
    resolve (some w) base₁ path = resolve (some w) base₂ path := by
  have hclean : Route.clean ⟨true, stepsIn w base₁⟩ = Route.clean ⟨true, stepsIn w base₂⟩ := by
    rw [← stepsIn_here, ← route_resolve hw, h, route_resolve hw, stepsIn_here]
  rw [resolve_eq hw, resolve_eq hw]
  cases hpath : path.isAbsolute with
  | true => rw [stepsIn_join_absolute w base₁ hpath, stepsIn_join_absolute w base₂ hpath]
  | false => rw [clean_stepsIn_join w base₁ hpath, clean_stepsIn_join w base₂ hpath, hclean]

/-- The steps of what was resolved are clean. -/
theorem stepsIn_resolve (hw : w.isAbsolute = true) (base path : Path) :
    stepsIn w (resolve (some w) base path) =
      (Route.clean ⟨true, stepsIn w (base.join path)⟩).steps := by
  rw [stepsIn, if_pos (isAbsolute_resolve hw base path), route_resolve hw]

theorem stepsIn_join_join (w base path : Path) {q : Path} (hq : q.isAbsolute = false) :
    stepsIn w (base.join (path.join q)) = stepsIn w (base.join path) ++ q.route.steps := by
  cases hpath : path.isAbsolute with
  | true =>
      rw [stepsIn_join_absolute w base (isAbsolute_join_left hpath q),
        stepsIn_join_absolute w base hpath, stepsIn_join w path hq]
  | false =>
      rw [stepsIn_join w base (isAbsolute_join_false hpath hq), steps_join path hq,
        stepsIn_join w base hpath, List.append_assoc]

/-- An absolute path leads to one place from any base. -/
theorem resolve_of_absolute (cwd : Option Path) (base base' : Path) {path : Path}
    (h : path.isAbsolute = true) : resolve cwd base path = resolve cwd base' path := by
  unfold resolve
  rw [join_of_absolute base h, join_of_absolute base' h]

/-- **A path leads on from where the one before it leads.** -/
theorem resolve_join (hw : w.isAbsolute = true) (base path q : Path) :
    resolve (some w) base (path.join q) =
      resolve (some w) (resolve (some w) base path) q := by
  cases hq : q.isAbsolute with
  | true => rw [join_of_absolute path hq, resolve_of_absolute (some w) base _ hq]
  | false =>
      rw [resolve_eq hw, resolve_eq hw, stepsIn_join_join w base path hq, stepsIn_join w _ hq,
        stepsIn_resolve hw, Route.clean_append]

/-- What is absolute leads to one place in any working directory. -/
theorem resolve_cwd (cwd cwd' : Option Path) {base path : Path}
    (h : (base.join path).isAbsolute = true) : resolve cwd base path = resolve cwd' base path := by
  unfold resolve
  simp only [h, if_true]

/-- Taken from itself, an absolute path leads where it leads anyway. -/
theorem resolve_self_of_absolute (cwd : Option Path) {path : Path}
    (h : path.isAbsolute = true) : resolve cwd path path = resolve cwd here path :=
  resolve_of_absolute cwd path here h

theorem resolve_join_of_absolute (cwd : Option Path) (base : Path) {p : Path}
    (hp : p.isAbsolute = true) (q : Path) : resolve cwd base (p.join q) = resolve cwd p q := by
  unfold resolve
  rw [join_of_absolute base (isAbsolute_join_left hp q)]

/-- What was resolved is resolved. -/
theorem resolve_here_resolve (hw : w.isAbsolute = true) (base path : Path) :
    resolve (some w) here (resolve (some w) base path) = resolve (some w) base path := by
  rw [resolve_eq hw here, stepsIn_here, stepsIn_resolve hw, Route.clean_clean, resolve_eq hw]

end Path
end AppBuild
