/-
What resolving makes of paths.

A canonical path starts at the root and goes down by names, with one slash before each and
none at the end.  Resolving gives no others (`isCanonical_resolve`), and a canonical path it
leaves as it is, whatever it is taken from (`resolve_of_isCanonical`).  So every place has
one canonical path, and what leads to one place is resolved to one path (`resolve_eq_iff`).
-/
import AppBuild.Proofs.Path.Way

namespace AppBuild.Path

/-- The path starts at the root, and unless it is the root, no slash ends it and what is between its
slashes and after the last one is neither empty nor one of the dots. -/
structure IsCanonical (p : Path) : Prop where
  absolute : p.isAbsolute = true
  named : p.bytes ≠ [slash] →
    ∀ part ∈ splitSlash p.bytes.tail, part ≠ [] ∧ part ≠ [dot] ∧ part ≠ [dot, dot]
  last : p.bytes ≠ [slash] → p.bytes.getLast? ≠ some slash

/-- The path from the root down to a place. -/
def spell (place : Location) : Path := ⟨slash :: Route.joinSlash place⟩

/-! ### Canonical paths spell places -/

theorem joinSlash_splitSlash (bs : List UInt8) : Route.joinSlash (splitSlash bs) = bs := by
  induction bs with
  | nil => rfl
  | cons b bs ih =>
      obtain ⟨part, parts, hsplit⟩ := List.exists_cons_of_ne_nil (splitSlash_ne_nil bs)
      rw [hsplit] at ih
      by_cases hb : b = slash
      · rw [splitSlash, if_pos hb, hsplit, hb]
        show slash :: Route.joinSlash (part :: parts) = slash :: bs
        rw [ih]
      · rw [splitSlash_cons_of_ne hb hsplit]
        cases parts with
        | nil => exact congrArg (b :: ·) ih
        | cons next parts => exact congrArg (b :: ·) ih

/-- Nothing follows a slash at the end. -/
theorem nil_mem_splitSlash_of_last {bs : List UInt8}
    (h : (slash :: bs).getLast? = some slash) : [] ∈ splitSlash bs := by
  rcases List.eq_nil_or_concat' bs with rfl | ⟨front, b, rfl⟩
  · simp [splitSlash]
  · rw [← List.cons_append, List.getLast?_concat] at h
    rw [Option.some.inj h, splitSlash_append_slash]
    exact List.mem_append_right _ (by simp [splitSlash])

section

variable {place : Location} (h : ∀ name ∈ place, IsName name)

include h

theorem place_spell : (spell place).place = place := by
  have hparts : (spell place).parts = place := by
    refine (parts_append_slash [] (Route.joinSlash place)).trans ?_
    exact parts_joinSlash fun name hname => ⟨(h name hname).1, (h name hname).2.1⟩
  unfold Path.place
  rw [hparts, foldl_onward_names h, List.nil_append]

theorem isCanonical_spell : (spell place).IsCanonical := by
  cases place with
  | nil => exact ⟨rfl, fun hroot => absurd rfl hroot, fun hroot => absurd rfl hroot⟩
  | cons name rest =>
      have hsplit : splitSlash (Route.joinSlash (name :: rest)) = name :: rest :=
        splitSlash_joinSlash (by simp) fun part hpart => (h part hpart).2.1
      refine ⟨rfl, fun _ part hpart => ?_, fun _ hlast => ?_⟩
      · rw [spell, List.tail_cons, hsplit] at hpart
        obtain ⟨hne, -, hdot, hup⟩ := h part hpart
        exact ⟨hne, hdot, hup⟩
      · have hnil := nil_mem_splitSlash_of_last hlast
        rw [hsplit] at hnil
        exact (h [] hnil).1 rfl

end

/-- Every canonical path is the path down to its place. -/
theorem IsCanonical.spell_place {p : Path} (h : p.IsCanonical) : spell p.place = p := by
  obtain ⟨bytes⟩ := p
  obtain ⟨bs, rfl⟩ := List.head?_eq_some_iff.mp (beq_iff_eq.mp h.absolute)
  by_cases hroot : bs = []
  · rw [hroot]
    rfl
  · have hparts : ∀ part ∈ splitSlash bs, IsName part := by
      intro part hpart
      obtain ⟨hne, hdot, hup⟩ := h.named (by simpa using hroot) part hpart
      exact ⟨hne, slash_not_mem_of_mem_splitSlash hpart, hdot, hup⟩
    have hspell : (⟨slash :: bs⟩ : Path) = spell (splitSlash bs) := by
      rw [spell, joinSlash_splitSlash]
    rw [hspell, place_spell hparts]

/-- One name more on the way down. -/
theorem spell_concat {place : Location} (hne : place ≠ []) (name : FileName) :
    spell (place ++ [name]) = ⟨(spell place).bytes ++ slash :: name⟩ := by
  have hjoin : Route.joinSlash (place ++ [name]) = Route.joinSlash place ++ slash :: name := by
    induction place with
    | nil => exact absurd rfl hne
    | cons first rest ih =>
        cases rest with
        | nil => rfl
        | cons next rest =>
            show first ++ slash :: Route.joinSlash (next :: rest ++ [name]) = _
            rw [ih (by simp)]
            simp [Route.joinSlash]
  rw [spell, hjoin]
  rfl

theorem spell_join_name {place : Location} (h : ∀ name ∈ place, IsName name) {name : FileName}
    (hname : IsName name) : (spell place).join ⟨name⟩ = spell (place ++ [name]) := by
  cases place with
  | nil =>
      unfold join
      rw [isAbsolute_name hname]
      rfl
  | cons first rest =>
      have hlast : (spell (first :: rest)).bytes.getLast? ≠ some slash :=
        (isCanonical_spell h).last (by
          intro hroot
          have hplace := place_spell h
          rw [show spell (first :: rest) = ⟨[slash]⟩ from congrArg mk hroot] at hplace
          exact absurd hplace (by simp [Path.place, parts, splitSlash]))
      have hopen : ¬ ((spell (first :: rest)).bytes.isEmpty ||
          (spell (first :: rest)).bytes.getLast? == some slash) = true := by
        simpa [spell] using hlast
      rw [spell_concat (by simp), join, isAbsolute_name hname, if_neg (by simp), if_neg hopen]

theorem IsCanonical.toPath_route {p : Path} (h : p.IsCanonical) : p.route.toPath = p := by
  have hsteps : Route.toPath ⟨true, p.place.map Step.into⟩ = p := by
    unfold Route.toPath
    rw [map_bytes_into]
    exact h.spell_place
  have hroute : (Route.toPath ⟨true, p.place.map Step.into⟩).route =
      ⟨true, p.place.map Step.into⟩ := by
    refine Route.route_toPath (by simp) fun name hname => ?_
    obtain ⟨other, hother, hsame⟩ := List.mem_map.mp hname
    rw [← Step.into.inj hsame]
    exact isName_of_mem_place hother
  rw [← hsteps, hroute]

/-! ### Resolving -/

section

variable (cwd : Option Path) {base base' path path' : Path}

/-- What is resolved is the path down to the place that it names. -/
theorem resolve_eq_spell (h : (base.join path).isAbsolute = true) :
    resolve cwd base path = spell (base.join path).place :=
  congrArg mk (bytes_resolve cwd h)

theorem resolve_eq_iff_of_absolute (h : (base.join path).isAbsolute = true)
    (h' : (base'.join path').isAbsolute = true) :
    resolve cwd base path = resolve cwd base' path' ↔
      (base.join path).place = (base'.join path').place := by
  constructor
  · intro hsame
    rw [← place_resolve cwd h, hsame, place_resolve cwd h']
  · intro hplace
    rw [resolve_eq_spell cwd h, hplace, resolve_eq_spell cwd h']

theorem resolve_of_isCanonical (base : Path) {p : Path} (h : p.IsCanonical) :
    resolve cwd base p = p := by
  rw [resolve_eq_spell cwd (isAbsolute_join_right base h.absolute),
    join_of_absolute base h.absolute,
    h.spell_place]

end

section

variable {w : Path} (hw : w.isAbsolute = true) (base path : Path)

include hw

theorem isCanonical_resolve : (resolve (some w) base path).IsCanonical := by
  rw [resolve_eq_resolve hw base path none,
    resolve_eq_spell none (isAbsolute_join_left hw (base.join path))]
  exact isCanonical_spell fun name hname => isName_of_mem_place hname

/-- **Paths are resolved alike if they lead to one place.** -/
theorem resolve_eq_iff (base' path' : Path) :
    resolve (some w) base path = resolve (some w) base' path' ↔
      (resolve (some w) base path).place = (resolve (some w) base' path').place := by
  rw [place_resolve_in hw, place_resolve_in hw, resolve_eq_resolve hw base path none,
    resolve_eq_resolve hw base' path' none]
  exact resolve_eq_iff_of_absolute none (isAbsolute_join_left hw _) (isAbsolute_join_left hw _)

/--
**Resolving gives a normal form that can be taken piece by piece.**  What is resolved is
canonical, and resolving it once more changes nothing, whatever it is taken from and in
whatever working directory.  A path that is resolved from there leads where the two paths,
one after the other, lead from the base, be they absolute or not and however far up they go.
-/
theorem resolve_isCanonical_and_composes :
    (resolve (some w) base path).IsCanonical ∧
    (∀ (cwd : Option Path) (base' : Path),
      resolve cwd base' (resolve (some w) base path) = resolve (some w) base path) ∧
    ∀ q : Path, resolve (some w) (resolve (some w) base path) q =
      resolve (some w) base (path.join q) := by
  have hcanonical := isCanonical_resolve hw base path
  refine ⟨hcanonical, ?_, ?_⟩
  · intro cwd base'
    exact resolve_of_isCanonical cwd base' hcanonical
  · intro q
    exact (resolve_join hw base path q).symm

end

/-- Beyond the root there is nothing to climb to, whether in one path or in two. -/
theorem climbing_past_root_composes :
    (ofText "/work").isAbsolute = true ∧
    resolve (some (ofText "/work")) (ofText "lib/../..") (ofText "../../a//./b/") =
      ofText "/a/b" ∧
    resolve (some (ofText "/work")) (ofText "/a/b") (ofText "../../../c") =
      resolve (some (ofText "/work")) (ofText "lib/../..")
        ((ofText "../../a//./b/").join (ofText "../../../c")) := by
  have hw : (ofText "/work").isAbsolute = true := by decide
  have hplace : resolve (some (ofText "/work")) (ofText "lib/../..") (ofText "../../a//./b/") =
      ofText "/a/b" := by decide +kernel
  obtain ⟨-, -, hcomposes⟩ :=
    resolve_isCanonical_and_composes hw (ofText "lib/../..") (ofText "../../a//./b/")
  refine ⟨hw, hplace, ?_⟩
  rw [← hcomposes (ofText "../../../c"), hplace]

end AppBuild.Path
