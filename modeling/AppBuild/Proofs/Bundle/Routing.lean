/-
Which modules go into the shared chunk.

A module is looked up in the list of resources by the path that its file is shown as from
the root of the sources.  That path is the shortest way there, and there is only one, so
all that counts is which file it is: neither how the root is spelled nor how the module
is asked for (`chunkFor?_eq_some_iff`).

The other side of this is that only a resource that is spelled as the shortest way is ever
found (`chunkFor?_file_iff`).  One with a mark for the directory at hand before it makes the
list count as one of scripts, but its file stays where it is.
-/
import AppBuild.Bundle.Obfuscator
import AppBuild.Proofs.Path.Way
import Mathlib.Data.List.TakeWhile

namespace AppBuild.Obfuscator

open AppBuild.Path

/-! ### What is listed -/

/-- The name of the file of a module: what comes after a question mark is no part of it. -/
def filename (id : String) : String := String.ofList (cutAt '?' id.toList).1

theorem trimHere_eq_self {cs : List Char} (h : ∀ rest, cs ≠ '.' :: '/' :: rest) :
    trimHere cs = cs := by
  unfold trimHere
  split
  · next rest => exact absurd rfl (h rest)
  · rfl

/-- A shortest way has no mark for the directory at hand before it. -/
theorem trimHere_of_isShortestWay {source target : Location} {key : String}
    (h : IsShortestWay source target (ofText key)) : trimHere key.toList = key.toList := by
  refine trimHere_eq_self ?_
  intro rest hkey
  refine h.bytes_ne (rest.flatMap String.utf8EncodeChar) ?_
  show Utf8.encode key = _
  unfold Utf8.encode
  rw [hkey]
  rfl

variable {o : Obfuscator}

theorem isListed_iff {path : String} : o.isListed path = true ↔
    isScript (String.ofList (trimHere path.toList)) = true ∧
      String.ofList (trimHere path.toList) ∈ o.resources := by
  unfold isListed
  simp

theorem isListed_of_isShortestWay {source target : Location} {key : String}
    (h : IsShortestWay source target (ofText key)) :
    o.isListed key = true ↔ isScript key = true ∧ key ∈ o.resources := by
  rw [isListed_iff, trimHere_of_isShortestWay h, String.ofList_toList]

/-- The name of the shared chunk. -/
theorem removeExtension_sharedKey : removeExtension none Chunk.sharedKey = "app-confusion" := by
  decide

/-! ### What is looked up -/

theorem chunkFor?_eq (cwd : Option Path) (inputDir : Path) (id : String) :
    o.chunkFor? cwd inputDir id =
      if o.enabled = true ∧
          o.isListed (relative cwd inputDir (resolve cwd inputDir (ofText (filename id)))) = true
        then some "app-confusion" else none := by
  unfold chunkFor?
  rw [removeExtension_sharedKey]
  cases o.enabled with
  | false => simp
  | true =>
      simp only [Bool.not_true, Bool.false_eq_true, if_false, true_and]
      rfl

/-- A file is listed: the shortest way to it from the root of the sources is a resource, and that
of a script. -/
def Lists (o : Obfuscator) (root file : Location) : Prop :=
  ∃ key ∈ o.resources, isScript key = true ∧ IsShortestWay root file (ofText key)

section

variable {w : Path} (hw : w.isAbsolute = true) (inputDir : Path) (id : String)

include hw

/-- What a module is looked up by is listed if its file is. -/
theorem isListed_relative_iff :
    o.isListed
        (relative (some w) inputDir (resolve (some w) inputDir (ofText (filename id)))) = true ↔
      o.Lists (resolve (some w) here inputDir).place
        (resolve (some w) inputDir (ofText (filename id))).place := by
  have hway := isShortestWay_relative hw inputDir (filename id)
  have hnames : ∀ name ∈ (resolve (some w) inputDir (ofText (filename id))).place, IsName name :=
    fun name hname => isName_of_mem_place hname
  rw [isListed_of_isShortestWay hway]
  constructor
  · rintro ⟨hscript, hmem⟩
    exact ⟨_, hmem, hscript, hway⟩
  · rintro ⟨key, hmem, hscript, hkey⟩
    have hsame := (existsUnique_shortestWay hnames).unique hkey hway
    rw [← ofText_injective hsame]
    exact ⟨hscript, hmem⟩

theorem chunkFor?_eq_some_iff {chunk : String} :
    o.chunkFor? (some w) inputDir id = some chunk ↔
      chunk = "app-confusion" ∧ o.enabled = true ∧
        o.Lists (resolve (some w) here inputDir).place
          (resolve (some w) inputDir (ofText (filename id))).place := by
  rw [chunkFor?_eq, ← isListed_relative_iff hw inputDir id]
  split
  · next h => simp [h, eq_comm]
  · next h => simp [h]

/--
**Which chunk a module goes to is decided by its file.**  Roots that lead to one directory
and ids whose files are one have one answer.  There is one exactly if the obfuscator is
enabled and the only shortest way from the root to the file is a resource, letter by letter,
and that of a script.
-/
theorem chunkFor?_by_file (o : Obfuscator) {inputDir inputDir' : Path} {id id' : String}
    (hroot : resolve (some w) here inputDir = resolve (some w) here inputDir')
    (hfile : resolve (some w) inputDir (ofText (filename id)) =
      resolve (some w) inputDir' (ofText (filename id'))) :
    o.chunkFor? (some w) inputDir id = o.chunkFor? (some w) inputDir' id' ∧
    ((o.chunkFor? (some w) inputDir id).isSome = true ↔
      o.enabled = true ∧ o.Lists (resolve (some w) here inputDir).place
        (resolve (some w) inputDir (ofText (filename id))).place) ∧
    ∃! p, IsShortestWay (resolve (some w) here inputDir).place
      (resolve (some w) inputDir (ofText (filename id))).place p := by
  refine ⟨?_, ?_, existsUnique_shortestWay fun name hname => isName_of_mem_place hname⟩
  · refine Option.ext ?_
    intro chunk
    rw [chunkFor?_eq_some_iff hw, chunkFor?_eq_some_iff hw, hroot, hfile]
  · rw [Option.isSome_iff_exists]
    constructor
    · rintro ⟨chunk, hchunk⟩
      exact ((chunkFor?_eq_some_iff hw inputDir id).mp hchunk).2
    · intro h
      exact ⟨_, (chunkFor?_eq_some_iff hw inputDir id).mpr ⟨rfl, h⟩⟩

end

/-- One script is isolated. -/
def secretOnly : Obfuscator := ⟨true, ["common/secret.js"]⟩

/-- Asked for from the root with a query, and by its name over a detour, it is one file. -/
theorem secret_asked_for_twice :
    (ofText "/work").isAbsolute = true ∧
    resolve (some (ofText "/work")) here (ofText "/project") =
      resolve (some (ofText "/work")) here (ofText "../project/sub/..") ∧
    secretOnly.chunkFor? (some (ofText "/work")) (ofText "/project")
        "/project/common/./secret.js?vue" =
      secretOnly.chunkFor? (some (ofText "/work")) (ofText "../project/sub/..")
        "common/x/../secret.js" := by
  have hw : (ofText "/work").isAbsolute = true := by decide
  have hroot : resolve (some (ofText "/work")) here (ofText "/project") =
      resolve (some (ofText "/work")) here (ofText "../project/sub/..") := by decide +kernel
  have hfile : resolve (some (ofText "/work")) (ofText "/project")
        (ofText (filename "/project/common/./secret.js?vue")) =
      resolve (some (ofText "/work")) (ofText "../project/sub/..")
        (ofText (filename "common/x/../secret.js")) := by decide +kernel
  exact ⟨hw, hroot, (chunkFor?_by_file hw secretOnly hroot hfile).1⟩

/-! ### Resources as they are spelled -/

/-- The byte of a question mark. -/
def question : UInt8 := 63

theorem isMark_question : Utf8.IsMark question := by decide

theorem filename_eq_self {id : String} (h : '?' ∉ id.toList) : filename id = id := by
  unfold filename
  rw [cutAt_of_not_mem h, String.ofList_toList]

theorem suffix_trimHere_iff {ending : List Char} (hslash : '/' ∉ ending) (cs : List Char) :
    ending <:+ trimHere cs ↔ ending <:+ cs := by
  induction cs using trimHere.induct with
  | case1 rest ih =>
      rw [trimHere, ih]
      constructor
      · intro h
        exact (h.trans (List.suffix_cons _ _)).trans (List.suffix_cons _ _)
      · intro h
        -- An ending that reached into the mark would have its slash.
        rcases List.suffix_cons_iff.mp h with rfl | h
        · exact absurd (by simp) hslash
        rcases List.suffix_cons_iff.mp h with rfl | h
        · exact absurd (by simp) hslash
        · exact h
  | case2 cs hcs => rw [trimHere_eq_self hcs]

/-- A mark for the directory at hand does not make a script or unmake one. -/
theorem isScript_trimHere (name : String) :
    isScript (String.ofList (trimHere name.toList)) = isScript name := by
  have hslash : ∀ ext ∈ scriptExtensions, '/' ∉ ext.toList := by decide
  unfold isScript
  rw [Bool.eq_iff_iff, List.any_eq_true, List.any_eq_true]
  refine exists_congr fun ext => and_congr_right fun hext => ?_
  rw [List.isSuffixOf_iff_suffix, List.isSuffixOf_iff_suffix, String.toList_ofList,
    suffix_trimHere_iff (hslash ext hext)]

/-- From an absolute root the working directory plays no part. -/
theorem chunkFor?_of_absolute {inputDir : Path} (h : inputDir.isAbsolute = true)
    (cwd : Option Path) (id : String) :
    o.chunkFor? cwd inputDir id = o.chunkFor? (some inputDir) inputDir id := by
  have hjoin := isAbsolute_join_left h (ofText (filename id))
  have hfile := isAbsolute_resolve_of_absolute (some inputDir) hjoin
  rw [chunkFor?_eq, chunkFor?_eq]
  unfold relative
  rw [resolve_cwd cwd (some inputDir) hjoin,
    resolve_cwd cwd (some inputDir) (isAbsolute_join_right here h),
    resolve_cwd cwd (some inputDir) (isAbsolute_join_right here hfile)]

theorem chunkFor?_file_iff {inputDir : Path} (hinput : inputDir.isAbsolute = true)
    (cwd : Option Path) {id : String} (hid : (ofText id).isAbsolute = true)
    (hmark : '?' ∉ id.toList) :
    o.chunkFor? cwd inputDir id = some "app-confusion" ↔
      o.enabled = true ∧ o.Lists inputDir.place (ofText id).place := by
  have hroot := isAbsolute_join_right here hinput
  have hfile := isAbsolute_join_right inputDir hid
  rw [chunkFor?_of_absolute hinput, chunkFor?_eq_some_iff hinput, filename_eq_self hmark,
    place_resolve (some inputDir) hroot, place_resolve (some inputDir) hfile,
    join_of_absolute here hinput, join_of_absolute inputDir hid]
  simp only [true_and]

section

variable {m : Manifest} {resources : OrderedMap String Json.Value}
  (hm : m.resources? = some resources)

include hm

theorem resources_ofManifest (mode : BuildMode) : (ofManifest mode m).resources = resources.keys := by
  unfold ofManifest
  rw [hm]
  rfl

theorem enabled_ofManifest {key : String} (hkey : key ∈ resources.keys)
    (hscript : isScript key = true) : (ofManifest .production m).enabled = true := by
  unfold ofManifest Manifest.listsScript
  rw [hm]
  simp only [decide_true, Bool.true_and, List.any_eq_true]
  exact ⟨key, hkey, hscript⟩

/--
**What becomes of a resource.**  For one of scripts the obfuscator is enabled in production.
It is listed if it is a resource without marks for the directory at hand before it, too.  Its
file is put into the shared chunk if the shortest way there is a resource, however the one
at hand is spelled.  So where the resource is the shortest way itself, all is as it should be.
-/
theorem chunkFor?_of_resource (cwd : Option Path) {inputDir : Path}
    (hinput : inputDir.isAbsolute = true) (hdir : question ∉ inputDir.bytes) {key : String}
    (hkey : key ∈ resources.keys) (hmark : '?' ∉ key.toList) (hscript : isScript key = true) :
    (ofManifest .production m).enabled = true ∧
    ((ofManifest .production m).isListed key = true ↔
      String.ofList (trimHere key.toList) ∈ resources.keys) ∧
    ((ofManifest .production m).chunkFor? cwd inputDir
        (resolve cwd inputDir (ofText key)).toText = some "app-confusion" ↔
      (ofManifest .production m).Lists inputDir.place
        (ofText (resolve cwd inputDir (ofText key)).toText).place) ∧
    (Utf8.IsText inputDir.bytes →
      IsShortestWay inputDir.place (inputDir.join (ofText key)).place (ofText key) →
      (ofManifest .production m).isListed key = true ∧
      (ofManifest .production m).chunkFor? cwd inputDir
        (resolve cwd inputDir (ofText key)).toText = some "app-confusion") := by
  have habs := isAbsolute_join_left hinput (ofText key)
  have hid := isAbsolute_ofText_toText (isAbsolute_resolve_of_absolute cwd habs)
  have hkeyMark : question ∉ (ofText key).bytes := by
    refine mt (Utf8.mem_decodeLossy_iff isMark_question).mpr ?_
    show '?' ∉ (Utf8.decodeLossy (Utf8.encode key)).toList
    rwa [Utf8.decodeLossy_encode]
  have hidMark : '?' ∉ (resolve cwd inputDir (ofText key)).toText.toList :=
    not_mem_toText_resolve cwd hinput isMark_question (by decide) hdir hkeyMark
  have henabled := enabled_ofManifest hm hkey hscript
  have hresources := resources_ofManifest hm .production
  have hchunk := chunkFor?_file_iff (o := ofManifest .production m) hinput cwd hid hidMark
  refine ⟨henabled, ?_, ?_, ?_⟩
  · rw [isListed_iff, isScript_trimHere, hresources]
    simp only [hscript, true_and]
  · rw [hchunk]
    simp only [henabled, true_and]
  · intro htext hway
    have hsame : ofText (resolve cwd inputDir (ofText key)).toText
        = resolve cwd inputDir (ofText key) :=
      ofText_toText (isText_resolve cwd habs htext (Utf8.isText_encode key))
    have hmem : key ∈ (ofManifest .production m).resources := by rwa [hresources]
    refine ⟨(isListed_of_isShortestWay hway).mpr ⟨hscript, hmem⟩, hchunk.mpr ⟨henabled, ?_⟩⟩
    rw [hsame, place_resolve cwd habs]
    exact ⟨key, hmem, hscript, hway⟩

end

/-- The manifest that lists one resource. -/
def manifestOf (key : String) : Manifest := ⟨some ⟨some ⟨⟨[(key, .object [])], by simp⟩⟩⟩⟩

theorem resources?_manifestOf (key : String) :
    (manifestOf key).resources? = some ⟨[(key, .object [])], by simp⟩ := rfl

/-- A resource that is spelled by its names goes into the shared chunk. -/
theorem plain_resource_isolated :
    (ofManifest .production (manifestOf "common/secret.js")).enabled = true ∧
    (ofManifest .production (manifestOf "common/secret.js")).isListed "common/secret.js" = true ∧
    (ofManifest .production (manifestOf "common/secret.js")).chunkFor? none (ofText "/project")
      (resolve none (ofText "/project") (ofText "common/secret.js")).toText
        = some "app-confusion" := by
  have hinput : (ofText "/project").isAbsolute = true := by decide
  have hdir : question ∉ (ofText "/project").bytes := by decide
  have hscript : isScript "common/secret.js" = true := by decide
  have hnames : ∀ name ∈ [Utf8.encode "common", Utf8.encode "secret.js"], IsName name := by decide
  have hway : IsShortestWay (ofText "/project").place
      ((ofText "/project").join (ofText "common/secret.js")).place
      (ofText "common/secret.js") :=
    isShortestWay_join_names (ofText "/project") hnames
  obtain ⟨henabled, -, -, hall⟩ := chunkFor?_of_resource (resources?_manifestOf "common/secret.js")
    none hinput hdir (by simp [OrderedMap.keys]) (by decide) hscript
  obtain ⟨hlisted, hchunk⟩ := hall (Utf8.isText_encode "/project") hway
  exact ⟨henabled, hlisted, hchunk⟩

/-- One with a mark for the directory at hand before it makes the obfuscator be enabled, but it is
not listed, and its file is left to the bundler. -/
theorem marked_resource_left :
    (ofText "/project").isAbsolute = true ∧ question ∉ (ofText "/project").bytes ∧
    (manifestOf "./common/secret.js").resources?.map (·.keys) = some ["./common/secret.js"] ∧
    (ofText "./common/secret.js").isAbsolute = false ∧ '?' ∉ "./common/secret.js".toList ∧
    isScript "./common/secret.js" = true ∧
    (ofManifest .production (manifestOf "./common/secret.js")).enabled = true ∧
    (ofManifest .production (manifestOf "./common/secret.js")).isListed "./common/secret.js"
      = false ∧
    (ofManifest .production (manifestOf "./common/secret.js")).chunkFor? none (ofText "/project")
      (resolve none (ofText "/project") (ofText "./common/secret.js")).toText = none := by
  decide +kernel

end AppBuild.Obfuscator
