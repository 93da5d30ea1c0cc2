/-
Filters: the sandboxed script modules that a template declares.
-/
import AppBuild.Json.Record

namespace AppBuild

/-- The kinds of sandboxed modules. -/
inductive FilterKind where
  /-- A module for data, which the view layer evaluates. -/
  | wxs
  /-- A module for rendering. -/
  | renderjs
  deriving DecidableEq, Repr

namespace FilterKind

/-- The name of a kind. -/
def name : FilterKind → String
  | .wxs => "wxs"
  | .renderjs => "renderjs"

/-- The kinds by their names. -/
def named : List (String × FilterKind) := [("wxs", .wxs), ("renderjs", .renderjs)]

/-- A kind as JSON. -/
def kind : Json.Kind FilterKind := .variant named

end FilterKind

/-- A filter. -/
structure Filter where
  id : String
  kind : FilterKind
  name : String
  src : Option String
  code : String
  deriving DecidableEq, Repr

namespace Filter

/-- A filter being read. -/
structure Draft where
  id : Option String := none
  kind : Option FilterKind := none
  name : Option String := none
  src : Option (Option String) := none
  code : Option String := none

/-- A filter as JSON. -/
def record : Json.Record Draft Filter where
  name := "TemplateFilter"
  fields :=
    [.kept "id" true (·.id) (fun s d => { d with id := some s }) (.text "a string"),
     .kept "type" true (·.kind) (fun k d => { d with kind := some k }) FilterKind.kind,
     .kept "name" true (·.name) (fun s d => { d with name := some s }) (.text "a string"),
     .kept "src" false (·.src) (fun s d => { d with src := some s }) (.option (.text "a string")),
     .kept "code" true (·.code) (fun s d => { d with code := some s }) (.text "a string")]
  start := {}
  build d := do return ⟨← d.id, ← d.kind, ← d.name, d.src.getD none, ← d.code⟩

/-- The tag that declares a filter: it names the source, or holds the code. -/
def render (tag : String) (f : Filter) : String :=
  match f.src with
  | some src => "<" ++ tag ++ " src=\"" ++ src ++ "\" module=\"" ++ f.name ++ "\"/>"
  | none =>
    "<" ++ tag ++ " module=\"" ++ f.name ++ "\">\n" ++ f.code ++ "\n</" ++ tag ++ ">"

end Filter
end AppBuild
