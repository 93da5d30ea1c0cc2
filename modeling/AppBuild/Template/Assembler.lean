/-
Assembling templates.

The templates of a build are registered by filename, and with each the filters that
must come before its code.  Filenames and filters keep the order in which they first
came; a filter that comes again takes the place it had.
-/
import AppBuild.Template.Filter

namespace AppBuild

/-- The templates of a build with their filters. -/
structure Assembler where
  files : OrderedMap String String
  filters : OrderedMap String (OrderedMap String Filter)

/-- What renders filters: it has a state, and may leave a filter out. -/
abbrev Renderer (σ : Type) := σ → Filter → Option String × σ

namespace Assembler

/-- No templates. -/
def empty : Assembler := ⟨.empty, .empty⟩

/-- Registers the code of a file in place of what was registered for it before. -/
def registerFile (a : Assembler) (filename code : String) : Assembler :=
  { a with files := a.files.insert filename code }

/-- Registers a filter of a file in place of the one with its id. -/
def registerFilter (a : Assembler) (filename : String) (f : Filter) : Assembler :=
  let old := (a.filters.get? filename).getD .empty
  { a with filters := a.filters.insert filename (old.insert f.id f) }

/-- Takes away all filters of a file. -/
def removeFilters (a : Assembler) (filename : String) : Assembler :=
  { a with filters := a.filters.erase filename }

/-- Takes away all files and filters. -/
def clear (_ : Assembler) : Assembler := empty

/-- The filters of a file in order. -/
def filtersOf (a : Assembler) (filename : String) : List Filter :=
  ((a.filters.get? filename).map (·.values)).getD []

/-- The code of a file. -/
def code? (a : Assembler) (filename : String) : Option String := a.files.get? filename

/-- The number of files. -/
def size (a : Assembler) : Nat := a.files.size

/-- Renders filters one after the other; those left out give nothing. -/
def renderAll {σ : Type} (render : Renderer σ) : List Filter → σ → List String × σ
  | [], s => ([], s)
  | f :: fs, s =>
    let (block, s) := render s f
    let (blocks, s) := renderAll render fs s
    (block.toList ++ blocks, s)

/-- The text of a file: the blocks that are not empty, one on a line, before its code. -/
def assemble (blocks : List String) (code : String) : String :=
  "\n".intercalate (blocks.filter (!·.isEmpty)) ++ "\n" ++ code

/-- The texts of files in order.  A file without filters is its code. -/
def emitAll {σ : Type} (a : Assembler) (render : Renderer σ) :
    List (String × String) → σ → List (String × String) × σ
  | [], s => ([], s)
  | (filename, code) :: files, s =>
    match a.filtersOf filename with
    | [] =>
      let (texts, s) := emitAll a render files s
      ((filename, code) :: texts, s)
    | fs =>
      let (blocks, s) := renderAll render fs s
      let (texts, s) := emitAll a render files s
      ((filename, assemble blocks code) :: texts, s)

/-- The text of every file, in the order of registration, and the state that the renderer is left
in.  Without a renderer every file is its code. -/
def materialize {σ : Type} (a : Assembler) (render : Option (Renderer σ)) (s : σ) :
    List (String × String) × σ :=
  match render with
  | none => (a.files.entries, s)
  | some render => a.emitAll render a.files.entries s

end Assembler
end AppBuild
