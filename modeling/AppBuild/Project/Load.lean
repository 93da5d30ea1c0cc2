/-
Reading the settings of a project from its files.  A file that is not there stands for
the default.
-/
import AppBuild.Error
import AppBuild.Project.Manifest
import AppBuild.Project.Options

namespace AppBuild

/-- Reads a JSON file as a record. -/
def Json.Record.load {δ α : Type} (r : Json.Record δ α) (default : α) (d : Disk) (p : Path) :
    Except BuildError α :=
  match d.read p with
  | .error fault => .error (.io p fault)
  | .ok none => .ok default
  | .ok (some text) =>
    match r.parse text with
    | .ok a => .ok a
    | .error cause => .error (.json p cause)

/-- The page settings of the project with the given root. -/
def Pages.load (d : Disk) (inputDir : Path) : Except BuildError Pages :=
  Pages.record.load .default d (inputDir.child "pages.json")

/-- The manifest of the project with the given root. -/
def Manifest.load (d : Disk) (inputDir : Path) : Except BuildError Manifest :=
  Manifest.record.load .default d (inputDir.child "manifest.json")

end AppBuild
