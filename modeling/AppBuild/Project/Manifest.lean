/-
What the manifest of a project says about the sources to be isolated.
-/
import AppBuild.Json.Record

namespace AppBuild

/-- The sources to be isolated, by their path from the root of the sources; what is said about each
is not looked at. -/
structure ConfusionOptions where
  resources : OrderedMap String Json.Value

/-- The options for apps. -/
structure AppOptions where
  confusion : Option ConfusionOptions

/-- The manifest, as far as it is read. -/
structure Manifest where
  app : Option AppOptions

namespace ConfusionOptions

/-- Options being read. -/
structure Draft where
  resources : Option (OrderedMap String Json.Value) := none

/-- The options as JSON. -/
def record : Json.Record Draft ConfusionOptions where
  name := "ConfusionOptions"
  fields :=
    [.kept "resources" false (·.resources) (fun m d => { d with resources := some m })
      (.map .any)]
  start := {}
  build d := some ⟨d.resources.getD .empty⟩

end ConfusionOptions

namespace AppOptions

/-- Options being read. -/
structure Draft where
  confusion : Option (Option ConfusionOptions) := none

/-- The options as JSON. -/
def record : Json.Record Draft AppOptions where
  name := "AppPlusOptions"
  fields :=
    [.kept "confusion" false (·.confusion) (fun o d => { d with confusion := some o })
      (.option ConfusionOptions.record.kind)]
  start := {}
  build d := some ⟨d.confusion.getD none⟩

end AppOptions

namespace Manifest

/-- The manifest of a project that has none. -/
def default : Manifest := ⟨none⟩

/-- A manifest being read. -/
structure Draft where
  app : Option (Option AppOptions) := none

/-- A manifest as JSON. -/
def record : Json.Record Draft Manifest where
  name := "ManifestJson"
  fields :=
    [.kept "app-plus" false (·.app) (fun o d => { d with app := some o })
      (.option AppOptions.record.kind)]
  start := {}
  build d := some ⟨d.app.getD none⟩

/-- The sources to be isolated, if the manifest speaks of any. -/
def resources? (m : Manifest) : Option (OrderedMap String Json.Value) := do
  let app ← m.app
  let confusion ← app.confusion
  return confusion.resources

end Manifest
end AppBuild
