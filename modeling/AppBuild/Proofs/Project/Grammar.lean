/-
Which paths are watched.

A project decides from a path alone whether a file could be a component, and it decides it
on the text of the path as seen from the sources.  What is accepted is a short list of forms
(`IsComponentWay`): from the root of the sources down into the components, or into those of
a module, then into a folder, and there to a name that ends like a component and has something
before the ending.  The names in between may be any at all.

However the path is spelled, it is the names it leads to that decide (`watches_iff_place`).
Below the sources they are parts of the path itself, so if this is a text so are they, and
nothing is lost by reading them (`exists_texts_below`).  The forms are those of the pattern of
the component files, which matches the text exactly when the names are of one of them
(`watches_eq_test`).
-/
import AppBuild.Proofs.Path.Way
import AppBuild.Proofs.Project.FilePattern

namespace AppBuild

/-! ### The forms of a place -/

/-- The names lead from the root of the sources to where a component can be. -/
inductive IsComponentWay : List String → Prop
  /-- Among the components of the project. -/
  | own (folder : String) {stem : String} (h : stem ≠ "") :
      IsComponentWay ["components", folder, stem ++ ".vue"]
  /-- Among those of a module. -/
  | inModule (module_ folder : String) {stem : String} (h : stem ≠ "") :
      IsComponentWay ["uni_modules", module_, "components", folder, stem ++ ".vue"]

namespace Project

/-- **Names without an empty one lead to where a component can be when they are of the forms.** -/
theorem isComponentPlace_map_iff {names : List String} (h : "" ∉ names) :
    isComponentPlace (names.map String.toList) = true ↔ IsComponentWay names := by
  rw [isComponentPlace_iff]
  constructor
  · intro hforms
    have hback : names = (names.map String.toList).map String.ofList := by simp
    have hending : ∀ stem, String.ofList (stem ++ ['.', 'v', 'u', 'e']) =
        String.ofList stem ++ ".vue" := fun _ => String.ofList_append
    rcases hforms with ⟨folder, file, -, hfile, hnames⟩ |
        ⟨module_, folder, file, -, -, hfile, hnames⟩
    · obtain ⟨stem, hstem, rfl⟩ := isComponentFile_iff.mp hfile
      rw [hback, hnames, List.map_cons, List.map_cons, List.map_singleton, String.ofList_toList,
        hending]
      exact .own _ (by simpa using hstem)
    · obtain ⟨stem, hstem, rfl⟩ := isComponentFile_iff.mp hfile
      rw [hback, hnames, List.map_cons, List.map_cons, List.map_cons, List.map_cons,
        List.map_singleton, String.ofList_toList, String.ofList_toList, hending]
      exact .inModule _ _ (by simpa using hstem)
  · intro hway
    have hnonempty : ∀ name ∈ names, name.toList ≠ [] := by
      intro name hname hempty
      have hsame : name = "" := by simpa using hempty
      exact h (hsame ▸ hname)
    have hfile : ∀ {stem : String}, stem ≠ "" → isComponentFile (stem ++ ".vue").toList = true :=
      fun hne => isComponentFile_iff.mpr ⟨_, by simpa using hne, String.toList_append⟩
    cases hway with
    | own folder hne => exact .inl ⟨_, _, hnonempty folder (by simp), hfile hne, rfl⟩
    | inModule module_ folder hne =>
        exact .inr ⟨_, _, _, hnonempty module_ (by simp), hnonempty folder (by simp), hfile hne,
          rfl⟩

/-- Names on the way to some place, written and read again, are of the forms if they were. -/
theorem isComponentPlace_below_iff {path : Path} {above : List FileName} {names : List String}
    (h : path.place = above ++ names.map Utf8.encode) :
    isComponentPlace ((names.map Utf8.encode).map fun name => (Utf8.decodeLossy name).toList) =
      true ↔ IsComponentWay names := by
  have hread : (names.map Utf8.encode).map (fun name => (Utf8.decodeLossy name).toList)
      = names.map String.toList := by
    rw [List.map_map]
    exact List.map_congr_left fun name _ => by
      rw [Function.comp_apply, Utf8.decodeLossy_encode]
  have hempty : "" ∉ names := by
    intro hmem
    have hname : Utf8.encode "" ∈ path.place := by
      rw [h]
      exact List.mem_append_right _ (List.mem_map_of_mem hmem)
    exact (Path.isName_of_mem_place hname).1 rfl
  rw [hread, isComponentPlace_map_iff hempty]

end Project

/-! ### What is below the sources -/

section

variable {w : Path} (hw : w.isAbsolute = true) (base : Path)

include hw

/-- A path is within a directory when its place is. -/
theorem Path.isWithin_resolve_in (path : Path) :
    (Path.resolve (some w) base path).isWithin (Path.resolve (some w) .here base) = true ↔
      (Path.resolve (some w) .here base).place <+: (Path.resolve (some w) base path).place := by
  unfold Path.isWithin
  rw [route_resolve_in hw, route_resolve_in hw, beq_self_eq_true, Bool.true_and,
    List.isPrefixOf_iff_prefix, List.prefix_map_iff_of_injective into_injective]

/-- What a path's steps are below a directory, its names are. -/
theorem Path.steps_eq_append_iff (path : Path) (names : List String) :
    (Path.resolve (some w) base path).route.steps =
        (Path.resolve (some w) .here base).route.steps ++
          names.map (fun name => .into (Utf8.encode name)) ↔
      (Path.resolve (some w) base path).place =
        (Path.resolve (some w) .here base).place ++ names.map Utf8.encode := by
  have hnames : names.map (fun name => Step.into (Utf8.encode name))
      = (names.map Utf8.encode).map .into := (List.map_map).symm
  rw [route_resolve_in hw, route_resolve_in hw, hnames]
  dsimp only
  rw [← List.map_append, into_injective.list_map.eq_iff]

/-- **The names of a text that are below where it counts from are texts.** -/
theorem exists_texts_below {path : String} {below : List FileName}
    (h : (Path.resolve (some w) base (.ofText path)).place =
      (Path.resolve (some w) .here base).place ++ below) :
    ∃ names : List String, below = names.map Utf8.encode := by
  have hdepth : Path.sharedDepth (Path.resolve (some w) .here base).place
        (Path.resolve (some w) base (.ofText path)).place =
      (Path.resolve (some w) .here base).place.length :=
    Nat.le_antisymm (Path.sharedDepth_le_source _ _)
      (Path.length_le_sharedDepth List.prefix_rfl ⟨below, h.symm⟩)
  have htext : ∀ name ∈ below, Utf8.IsText name := by
    intro name hname
    refine Path.isText_of_mem_parts (Utf8.isText_encode path)
      (Path.mem_parts_of_mem_drop hw base (.ofText path) ?_)
    rwa [hdepth, h, List.drop_left]
  have hsame : ∀ name ∈ below, (Utf8.encode ∘ Utf8.decodeLossy) name = id name :=
    fun name hname => (htext name hname).encode_decodeLossy
  refine ⟨below.map Utf8.decodeLossy, ?_⟩
  rw [List.map_map, List.map_congr_left hsame, List.map_id]

end

namespace Project

section

variable (p : Project) {w : Path} (hw : w.isAbsolute = true)

include hw

/-- **It is the names below the sources that decide**, as they read. -/
theorem watches_iff_place (path : Path) :
    p.watches (some w) path = true ↔
      ∃ below, (Path.resolve (some w) p.layout.inputDir path).place =
          (Path.resolve (some w) .here p.layout.inputDir).place ++ below ∧
        isComponentPlace (below.map fun name => (Utf8.decodeLossy name).toList) = true := by
  have hsplit : ∀ below, (Path.resolve (some w) p.layout.inputDir path).place =
      (Path.resolve (some w) .here p.layout.inputDir).place ++ below →
      isComponentPlace (splitAll '/' (Path.relative (some w)
        (Path.resolve (some w) .here p.layout.inputDir)
        (Path.resolve (some w) p.layout.inputDir path)).toList) =
      isComponentPlace (below.map fun name => (Utf8.decodeLossy name).toList) := by
    intro below hplace
    rw [Path.relative_eq (some w) (Path.isAbsolute_resolve hw _ _)
      (Path.isAbsolute_resolve hw _ _) hplace]
    by_cases hne : below = []
    · -- The sources themselves are seen as no text at all.
      rw [hne]
      rfl
    · rw [splitAll_decodeLossy_joinSlash hne fun name hname => ?_]
      have hmem : name ∈ (Path.resolve (some w) p.layout.inputDir path).place := by
        rw [hplace]
        exact List.mem_append_right _ hname
      exact (Path.isName_of_mem_place hmem).2.1
  unfold watches
  simp only
  rw [Bool.and_eq_true, Path.isWithin_resolve_in hw]
  constructor
  · rintro ⟨⟨below, hplace⟩, hform⟩
    exact ⟨below, hplace.symm, by rwa [← hsplit below hplace.symm]⟩
  · rintro ⟨below, hplace, hform⟩
    exact ⟨⟨below, hplace.symm⟩, by rwa [hsplit below hplace]⟩

/--
**What is watched.**  In a working directory, a path that is a text is watched exactly when
the names of where it leads are those of the root of the sources and after them one of two
forms: `components`, a folder and a file, or `uni_modules`, a module, `components`, a folder
and a file.  The module and the folder may have any names, and so may the file as long as
its name is longer than the ending that it has.  How the path is spelled makes no difference,
nor whether it counts from the sources or from the root.  It is watched exactly, too, when it
leads into the sources and its text, seen from there, is one that the pattern of the component
files matches.
-/
theorem watches_iff (path : String) :
    (p.watches (some w) (.ofText path) = true ↔
      ∃ names : List String, IsComponentWay names ∧
        (Path.resolve (some w) p.layout.inputDir (.ofText path)).route.steps =
          (Path.resolve (some w) .here p.layout.inputDir).route.steps ++
            names.map fun name => .into (Utf8.encode name)) ∧
      ∃ pattern, Pattern.compile filePattern = .ok pattern ∧
        p.watches (some w) (.ofText path) =
          ((Path.resolve (some w) p.layout.inputDir (.ofText path)).isWithin
              (Path.resolve (some w) .here p.layout.inputDir) &&
            pattern.test (Path.relative (some w) (Path.resolve (some w) .here p.layout.inputDir)
              (Path.resolve (some w) p.layout.inputDir (.ofText path))).toList) := by
  refine ⟨?_, p.watches_eq_test (some w) (.ofText path)⟩
  rw [watches_iff_place p hw]
  constructor
  · rintro ⟨below, hplace, hwatched⟩
    obtain ⟨names, rfl⟩ := exists_texts_below hw p.layout.inputDir hplace
    exact ⟨names, (isComponentPlace_below_iff hplace).mp hwatched,
      (Path.steps_eq_append_iff hw _ _ names).mpr hplace⟩
  · rintro ⟨names, hway, hsteps⟩
    have hplace := (Path.steps_eq_append_iff hw _ _ names).mp hsteps
    exact ⟨_, hplace, (isComponentPlace_below_iff hplace).mpr hway⟩

end

/-! ### A line break in a name -/

/-- Sources in the working directory. -/
def besideLibrary : Project := .new ⟨.ofText "app", .ofText "/lib"⟩

/-- Seen from the sources, the module is watched, whatever way is taken to it and although the name
of the file has a line break.  Seen from the root, what only begins like the sources is not. -/
theorem broken_name_watched :
    (Path.ofText "/w").isAbsolute = true ∧
    besideLibrary.watches (some (.ofText "/w"))
      (.ofText "./x/../uni_modules//m/components/Foo/a\nb.vue") = true ∧
    besideLibrary.watches (some (.ofText "/w")) (.ofText "/w/apple/components/Foo/Foo.vue")
      = false := by
  have hw : (Path.ofText "/w").isAbsolute = true := by decide
  have hway : IsComponentWay ["uni_modules", "m", "components", "Foo", "a\nb" ++ ".vue"] :=
    .inModule "m" "Foo" (by decide)
  exact ⟨hw, (watches_iff besideLibrary hw _).1.mpr ⟨_, hway, by decide +kernel⟩, by decide +kernel⟩

end Project
end AppBuild
