/-
What makes a build fail.

Missing directories and files, conflicts between components and absent chunks are no
failures; these here are.
-/
import AppBuild.Json.Basic
import AppBuild.Pattern.Error
import AppBuild.Tree.Walk

namespace AppBuild

/-- What makes a build fail. -/
inductive BuildError where
  /-- The file system could not answer for a path. -/
  | io (path : Path) (fault : Fault)
  /-- A file does not hold the JSON it should. -/
  | json (path : Path) (cause : Json.Error)
  /-- A custom entry has no valid pattern. -/
  | invalidPattern (pattern : String) (cause : Pattern.Error)

/-- The wording of a failure. -/
def BuildError.message : BuildError → String
  | .io path fault => "IO error at " ++ path.toText ++ ": " ++ fault.message
  | .json path cause => "Invalid JSON in " ++ path.toText ++ ": " ++ cause.message
  | .invalidPattern pattern cause =>
    "Invalid easycom pattern `" ++ pattern ++ "`: " ++ cause.message

end AppBuild
