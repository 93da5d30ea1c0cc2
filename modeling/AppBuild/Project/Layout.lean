/-
Where the parts of a project are.
-/
import AppBuild.Json.Record
import AppBuild.Path.Basic

namespace AppBuild

/-- The directories of a project. -/
structure Layout where
  /-- The root of the sources. -/
  inputDir : Path
  /-- The components that come with the tools. -/
  builtinDir : Path
  deriving DecidableEq, Repr

namespace Layout

/-- The components of the project itself. -/
def componentsDir (l : Layout) : Path := l.inputDir.child "components"

/-- The modules that the project takes from others. -/
def modulesDir (l : Layout) : Path := l.inputDir.child "uni_modules"

/-- A layout being read. -/
structure Draft where
  inputDir : Option String := none
  builtinDir : Option String := none

/-- A layout as JSON. -/
def record : Json.Record Draft Layout where
  name := "ProjectLayout"
  fields :=
    [.kept "inputDir" true (·.inputDir) (fun s d => { d with inputDir := some s })
      (.text "path string"),
     .kept "builtinComponentsDir" true (·.builtinDir) (fun s d => { d with builtinDir := some s })
      (.text "path string")]
  start := {}
  build d := do return ⟨.ofText (← d.inputDir), .ofText (← d.builtinDir)⟩

end Layout
end AppBuild
