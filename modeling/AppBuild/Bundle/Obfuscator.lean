/-
Isolating chosen sources in a chunk of their own.

In production the sources that the manifest lists go into the shared chunk; all other
modules are left to the bundler.  After bundling the shared chunk is wrapped, and the
service chunk is sent to it; the service chunk is never changed without the shared one.
-/
import AppBuild.Bundle.Chunk
import AppBuild.Path.Extension
import AppBuild.Path.Resolve
import AppBuild.Project.Load
import AppBuild.Text.Search

namespace AppBuild

/-- What a build is for. -/
inductive BuildMode where
  | development
  | production
  deriving DecidableEq, Repr

/-- The format of the output: modules that load each other need one that can wait. -/
def outputFormat (codeSplitting : Bool) : String := if codeSplitting then "amd" else "cjs"

/-- The extensions of scripts. -/
def scriptExtensions : List String := [".js", ".jsx", ".ts", ".tsx", ".mjs"]

/-- Is it the name of a script? -/
def isScript (name : String) : Bool :=
  scriptExtensions.any fun ext => ext.toList.isSuffixOf name.toList

/-- Does a manifest list a script to be isolated? -/
def Manifest.listsScript (m : Manifest) : Bool :=
  match m.resources? with
  | some resources => resources.keys.any isScript
  | none => false

/-- Which chunks were changed. -/
structure Obfuscation where
  shared : Bool
  service : Bool
  deriving DecidableEq, Repr

/-- What is to be isolated, if anything is. -/
structure Obfuscator where
  enabled : Bool
  resources : List String
  deriving DecidableEq, Repr

namespace Obfuscator

/-- The obfuscator that isolates nothing. -/
def disabled : Obfuscator := ⟨false, []⟩

/-- The obfuscator for a manifest. -/
def ofManifest (mode : BuildMode) (m : Manifest) : Obfuscator :=
  ⟨mode = .production && m.listsScript, (m.resources?.map (·.keys)).getD []⟩

/-- The obfuscator for the manifest of the project with the given root. -/
def ofProject (d : Disk) (inputDir : Path) (mode : BuildMode) : Except BuildError Obfuscator := do
  .ok (ofManifest mode (← Manifest.load d inputDir))

/-- A path without the marks for the directory at hand before it. -/
def trimHere : List Char → List Char
  | '.' :: '/' :: rest => trimHere rest
  | cs => cs

/-- Is the path, seen from the root of the sources, listed as one to be isolated? -/
def isListed (o : Obfuscator) (path : String) : Bool :=
  let path := String.ofList (trimHere path.toList)
  isScript path && o.resources.contains path

/-- The chunk that a module is assigned to, if it is not left to the bundler. -/
def chunkFor? (o : Obfuscator) (cwd : Option Path) (inputDir : Path) (id : String) :
    Option String :=
  if !o.enabled then none
  else
    let filename := String.ofList (cutAt '?' id.toList).1
    let absolute := Path.resolve cwd inputDir (.ofText filename)
    if o.isListed (Path.relative cwd inputDir absolute) then
      some (removeExtension none Chunk.sharedKey)
    else none

/-- Changes the shared chunk and then the service chunk of a bundle. -/
def apply {β : Type} [Bundle β] (o : Obfuscator) (bundle : β) : Obfuscation × β :=
  if !o.enabled then (⟨false, false⟩, bundle)
  else match Bundle.find? bundle Chunk.sharedKey with
    | none => (⟨false, false⟩, bundle)
    | some _ =>
      let bundle := Bundle.modify bundle Chunk.sharedKey fun c =>
        { c with code := Chunk.wrapShared c.code }
      match Bundle.find? bundle Chunk.serviceKey with
      | none => (⟨true, false⟩, bundle)
      | some _ =>
        (⟨true, true⟩, Bundle.modify bundle Chunk.serviceKey fun c =>
          { c with code := Chunk.routeService c.code })

end Obfuscator
end AppBuild
