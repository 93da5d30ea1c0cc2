/-
The pattern of the component files.

Where a component can be is asked of the names on the way there (`isComponentPlace`).  The
same question can be put as a pattern for the text of the way.  Both accept the texts of two
forms (`IsFileText`), and so they are one question (`test_filePattern`).

That the pattern matches no other text is read off a match, node by node.  That it matches
these is a walk through the forks: the name of a module and that of a folder end at a slash,
where their loops stop.  The loop through the name of the file runs through the ending as well,
to the end of the text, and has to turn back to where the ending starts.
-/
import AppBuild.Proofs.Pattern.Branching
import AppBuild.Proofs.Project.Watching

namespace AppBuild.Project

open Pattern

/-! ### The pattern -/

/-- The pattern for the ways from the sources to the component files. -/
def filePattern : String :=
  "^(?:components|uni_modules/[^/]+/components)/[^/]+/[^/]+\\.vue$"

/-- The characters of names: all but the slash. -/
def nameChars : CharSet := ⟨[0, 0x2F, 0x30, 0xD800, 0xE000, 0x110000]⟩

/-- The way to the components of the project, or to those of a module. -/
def placeNode : Node :=
  .alt 0 (.word "components".toList)
    (.seq (.word "uni_modules/".toList)
      (.seq (.repeat 1 1 none true (.set nameChars)) (.word "/components".toList)))

/-- The way from there into a folder and to a file. -/
def fileNode : Node :=
  .seq (.word ['/'])
    (.seq (.repeat 2 1 none true (.set nameChars))
      (.seq (.word ['/'])
        (.seq (.repeat 3 1 none true (.set nameChars))
          (.seq (.word ['.', 'v', 'u', 'e']) (.look .textEnd)))))

/-- What the pattern is compiled to. -/
def fileMatcher : Pattern :=
  ⟨filePattern, .seq (.look .textStart) (.seq placeNode fileNode)⟩

theorem compile_filePattern : Pattern.compile filePattern = .ok fileMatcher := by
  cbv

theorem contains_nameChars {c : Char} : nameChars.contains c = true ↔ c ≠ '/' := by
  have hvalid : c.toNat < 0xD800 ∨ 0xDFFF < c.toNat ∧ c.toNat < 0x110000 := c.valid
  have hslash : c = '/' ↔ c.toNat = 0x2F :=
    ⟨fun h => h ▸ rfl, fun h => Char.ext (UInt32.toNat_inj.mp h)⟩
  rw [Ne, hslash]
  simp only [CharSet.contains, CharSet.containsCode, CharSet.inside, nameChars]
  split_ifs <;> simp <;> omega

theorem contains_nameChars_iff {name : List Char} :
    (∀ c ∈ name, nameChars.contains c = true) ↔ '/' ∉ name := by
  simp only [contains_nameChars]
  exact ⟨fun h hmem => h '/' hmem rfl, fun h c hc hslash => h (hslash ▸ hc)⟩

/-! ### The texts it is for -/

/-- Something that can be a name on the way. -/
def IsNameText (name : List Char) : Prop := name ≠ [] ∧ '/' ∉ name

/-- The text leads into a folder and to a component file. -/
inductive IsFileEnd : List Char → Prop
  | mk {folder stem : List Char} (hfolder : IsNameText folder) (hstem : IsNameText stem) :
      IsFileEnd ('/' :: (folder ++ '/' :: (stem ++ ['.', 'v', 'u', 'e'])))

/-- The text leads from the sources to where a component file can be. -/
inductive IsFileText : List Char → Prop
  | own {rest : List Char} (h : IsFileEnd rest) : IsFileText ("components".toList ++ rest)
  | inModule {module_ rest : List Char} (hmodule : IsNameText module_) (h : IsFileEnd rest) :
      IsFileText ("uni_modules/".toList ++ (module_ ++ ("/components".toList ++ rest)))

theorem isFileEnd_iff {rest : List Char} :
    IsFileEnd rest ↔ ∃ folder file, IsNameText folder ∧ '/' ∉ file ∧
      isComponentFile file = true ∧ rest = '/' :: (folder ++ '/' :: file) := by
  constructor
  · rintro ⟨hfolder, hstem⟩
    exact ⟨_, _, hfolder, by simp [hstem.2], isComponentFile_append hstem.1, rfl⟩
  · rintro ⟨folder, file, hfolder, hslash, hfile, rfl⟩
    obtain ⟨stem, hstem, rfl⟩ := isComponentFile_iff.mp hfile
    exact .mk hfolder ⟨hstem, fun h => hslash (List.mem_append_left _ h)⟩

/-- **The names lead to where a component can be exactly when the text is of one of the forms.** -/
theorem isComponentPlace_splitAll_iff {text : List Char} :
    isComponentPlace (splitAll '/' text) = true ↔ IsFileText text := by
  rw [isComponentPlace_iff]
  constructor
  · intro hforms
    have hslash : ∀ name ∈ splitAll '/' text, '/' ∉ name := fun _ => not_mem_of_mem_splitAll
    rw [← intercalate_splitAll '/' text]
    rcases hforms with ⟨folder, file, hfolder, hfile, hparts⟩ |
        ⟨module_, folder, file, hmodule, hfolder, hfile, hparts⟩
    · rw [hparts] at hslash ⊢
      have hend := isFileEnd_iff.mpr
        ⟨folder, file, ⟨hfolder, hslash _ (by simp)⟩, hslash _ (by simp), hfile, rfl⟩
      simpa [List.intercalate] using IsFileText.own hend
    · rw [hparts] at hslash ⊢
      have hend := isFileEnd_iff.mpr
        ⟨folder, file, ⟨hfolder, hslash _ (by simp)⟩, hslash _ (by simp), hfile, rfl⟩
      simpa [List.intercalate] using IsFileText.inModule ⟨hmodule, hslash _ (by simp)⟩ hend
  · rintro (hend | ⟨hmodule, hend⟩)
    · obtain ⟨folder, file, hfolder, hslash, hfile, rfl⟩ := isFileEnd_iff.mp hend
      refine .inl ⟨folder, file, hfolder.1, hfile, ?_⟩
      rw [splitAll_append (by decide), splitAll_append hfolder.2, splitAll_of_not_mem hslash]
    · next module_ _ =>
      obtain ⟨folder, file, hfolder, hslash, hfile, rfl⟩ := isFileEnd_iff.mp hend
      refine .inr ⟨module_, folder, file, hmodule.1, hfolder.1, hfile, ?_⟩
      show splitAll '/' ("uni_modules".toList ++ '/' :: (module_ ++ '/' ::
        ("components".toList ++ '/' :: (folder ++ '/' :: file)))) = _
      rw [splitAll_append (by decide), splitAll_append hmodule.2, splitAll_append (by decide),
        splitAll_append hfolder.2, splitAll_of_not_mem hslash]

/-! ### What it matches is of the forms -/

theorem isFileEnd_of_canRead {ahead : List Char} (h : CanRead [.run fileNode] ahead) :
    IsFileEnd ahead := by
  obtain ⟨inFolder, rfl, h₁⟩ := h.seq.word
  obtain ⟨folder, afterFolder, rfl, hfolder, hchars, h₂⟩ := h₁.seq.plus
  obtain ⟨inFile, rfl, h₃⟩ := h₂.seq.word
  obtain ⟨stem, ending, rfl, hstem, hchars', h₄⟩ := h₃.seq.plus
  obtain ⟨afterFile, rfl, h₅⟩ := h₄.seq.word
  obtain ⟨rfl, -⟩ := h₅.textEnd
  exact .mk ⟨hfolder, contains_nameChars_iff.mp hchars⟩ ⟨hstem, contains_nameChars_iff.mp hchars'⟩

theorem isFileText_of_canRead {text : List Char}
    (h : CanRead [.run (.seq placeNode fileNode)] text) : IsFileText text := by
  rcases h.seq.alt with hown | hin
  · obtain ⟨rest, rfl, hrest⟩ := hown.word
    exact .own (isFileEnd_of_canRead hrest)
  · obtain ⟨inModule, rfl, h₁⟩ := hin.seq.word
    obtain ⟨module_, afterModule, rfl, hmodule, hchars, h₂⟩ := h₁.seq.plus
    obtain ⟨rest, rfl, hrest⟩ := h₂.word
    exact .inModule ⟨hmodule, contains_nameChars_iff.mp hchars⟩ (isFileEnd_of_canRead hrest)

/-! ### What is of the forms it matches -/

/-- The ending does not start within itself. -/
theorem fails_ending {ahead : List Char} (h : ahead <:+ ['v', 'u', 'e']) :
    Fails [.run (.seq (.word ['.', 'v', 'u', 'e']) (.look .textEnd))] ahead 2 := by
  refine (Fails.word (fun hprefix => ?_) _).seq
  have hlength := hprefix.length_le.trans h.length_le
  exact absurd hlength (by decide)

/-- The loop through a name stops at a slash. -/
theorem stops_at_slash {ahead : List Char} (h : ahead.head? = some '/') (c : Char)
    (hc : ahead.head? = some c) : nameChars.contains c = false := by
  rw [← Option.some.inj (h.symm.trans hc)]
  decide

/-- The way into a folder and to a file is found. -/
theorem succeeds_fileNode {rest : List Char} (h : IsFileEnd rest) :
    Succeeds 2 [.run fileNode] rest (20 + 2 * rest.length) := by
  obtain ⟨hfolder, hstem⟩ := h
  have hending : Succeeds 4 [.run (.seq (.word ['.', 'v', 'u', 'e']) (.look .textEnd))]
      ['.', 'v', 'u', 'e'] 4 :=
    (((Succeeds.nil 4 []).textEnd).word ['.', 'v', 'u', 'e']).seq
  have hfile := Succeeds.plusBack hstem.1
    (contains_nameChars_iff.mpr (by simp [hstem.2])) (fun ahead => fails_ending) hending
  have hbelow := Succeeds.plusStop hfolder.1 (contains_nameChars_iff.mpr hfolder.2)
    (stops_at_slash rfl) (hfile.seq.word ['/']).seq
  refine (hbelow.seq.word ['/']).seq.weaken (Nat.le_refl 2) ?_
  simp only [List.length_cons, List.length_append, List.length_nil]
  omega

/-- The whole way is found. -/
theorem succeeds_place {text : List Char} (h : IsFileText text) :
    Succeeds 0 [.run (.seq placeNode fileNode)] text (40 + 2 * text.length) := by
  cases h with
  | own hend =>
      have hrest := (succeeds_fileNode hend).weaken (by omega : 1 ≤ 2) (Nat.le_refl _)
      refine ((hrest.word "components".toList).altFirst _).seq.weaken (Nat.le_refl 0) ?_
      rw [List.length_append]
      omega
  | inModule hmodule hend =>
      have hmodule' := Succeeds.plusStop hmodule.1 (contains_nameChars_iff.mpr hmodule.2)
        (stops_at_slash rfl) ((succeeds_fileNode hend).word "/components".toList)
      have hother : ∀ rest, Fails [.run (.word "components".toList), .run fileNode]
          ("uni_modules/".toList ++ rest) 1 := fun _ => Fails.word (by simp) _
      refine ((hmodule'.seq.word "uni_modules/".toList).seq.altSecond (hother _)).seq.weaken
        (Nat.le_refl 0) ?_
      simp only [List.length_append]
      omega

/-! ### One question -/

/-- **Asking the names where a component can be is asking the pattern of the text.** -/
theorem test_filePattern (text : List Char) :
    fileMatcher.test text = isComponentPlace (splitAll '/' text) := by
  rw [Bool.eq_iff_iff, isComponentPlace_splitAll_iff]
  constructor
  · intro htest
    obtain ⟨m, hm⟩ := Option.isSome_iff_exists.mp htest
    exact isFileText_of_canRead (canRead_of_find? hm)
  · intro h
    refine isSome_find? (succeeds_place h) ?_
    have hbudget : ∀ length, (Node.seq (.look .textStart) (.seq placeNode fileNode)).budget length
        = 36864 * (length + 2) := fun _ => rfl
    rw [hbudget]
    omega

/-- **What is watched is what the pattern matches, of what is below the sources.** -/
theorem watches_eq_test (p : Project) (cwd : Option Path) (path : Path) :
    ∃ pattern, Pattern.compile filePattern = .ok pattern ∧
      p.watches cwd path =
        ((Path.resolve cwd p.layout.inputDir path).isWithin
            (Path.resolve cwd .here p.layout.inputDir) &&
          pattern.test (Path.relative cwd (Path.resolve cwd .here p.layout.inputDir)
            (Path.resolve cwd p.layout.inputDir path)).toList) := by
  refine ⟨fileMatcher, compile_filePattern, ?_⟩
  rw [test_filePattern]
  rfl

end AppBuild.Project
