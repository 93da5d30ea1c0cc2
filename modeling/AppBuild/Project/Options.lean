/-
What the page settings of a project say about components.
-/
import AppBuild.Json.Record

namespace AppBuild

/-- How components are found. -/
structure ComponentOptions where
  /-- Are the directories of the project scanned?  Only an explicit no counts. -/
  autoscan : Option Bool
  /-- The entries by pattern, each with its path. -/
  custom : OrderedMap String String

instance : Inhabited ComponentOptions := ⟨⟨none, .empty⟩⟩

namespace ComponentOptions

/-- Are the directories of the project scanned? -/
def scans (o : ComponentOptions) : Bool := o.autoscan != some false

/-- Options being read. -/
structure Draft where
  autoscan : Option (Option Bool) := none
  custom : Option (OrderedMap String String) := none

/-- Options as JSON. -/
def record : Json.Record Draft ComponentOptions where
  name := "EasycomOptions"
  fields :=
    [.kept "autoscan" false (·.autoscan) (fun b d => { d with autoscan := some b })
      (.option .bool),
     .kept "custom" false (·.custom) (fun m d => { d with custom := some m })
      (.map (.text "a string"))]
  start := {}
  build d := some ⟨d.autoscan.getD none, d.custom.getD .empty⟩

end ComponentOptions

/-- The page settings, as far as they are read. -/
structure Pages where
  components : Option ComponentOptions

namespace Pages

/-- The settings of a project that has none. -/
def default : Pages := ⟨none⟩

/-- Settings being read. -/
structure Draft where
  components : Option (Option ComponentOptions) := none

/-- Page settings as JSON. -/
def record : Json.Record Draft Pages where
  name := "PagesJson"
  fields :=
    [.kept "easycom" false (·.components) (fun o d => { d with components := some o })
      (.option ComponentOptions.record.kind)]
  start := {}
  build d := some ⟨d.components.getD none⟩

end Pages
end AppBuild
