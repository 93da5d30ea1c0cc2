/-
Requests for modules.

A module is asked for by an id: a filename, and after the first question mark a query.
Script blocks of a component are asked for in this way by the filename of the component
and a query that says what block is meant.
-/
import AppBuild.OrderedMap
import AppBuild.Request.Form
import AppBuild.Template.Filter

namespace AppBuild

/-- A module id taken apart. -/
structure Request where
  filename : String
  query : OrderedMap String String

namespace Request

/-- The parameters of a list of pairs: of a repeated name the first value counts. -/
def firstValues (pairs : List (String × String)) : OrderedMap String String :=
  pairs.foldl (fun m p => if m.contains p.1 then m else m.insert p.1 p.2) .empty

/-- Takes a module id apart. -/
def parse (id : String) : Request :=
  let (filename, query) := cutAt '?' id.toList
  ⟨String.ofList filename,
    firstValues (Form.parse (Utf8.encode (String.ofList (query.getD []))))⟩

/-- Is there a parameter with a name?  It may have no value. -/
def has (r : Request) (name : String) : Bool := r.query.contains name

/-- The value of a parameter. -/
def get? (r : Request) (name : String) : Option String := r.query.get? name

end Request

/-- The text by which the id of a sandboxed module is recognized. -/
def FilterKind.marker (k : FilterKind) : String := "vue&type=" ++ k.name

/-- Does an id ask for a sandboxed module of a kind? -/
def FilterKind.isAskedBy (k : FilterKind) (id : String) : Bool :=
  occursIn k.marker.toList id.toList

/-- A request for a sandboxed module. -/
structure SandboxedModule where
  kind : FilterKind
  name : String
  filename : String
  deriving DecidableEq, Repr

namespace SandboxedModule

/-- The sandboxed module that an id asks for, if it asks for one. -/
def ofId? (id : String) : Option SandboxedModule :=
  let ask (kind : FilterKind) : SandboxedModule :=
    let r := Request.parse id
    ⟨kind, (r.get? "name").getD "", r.filename⟩
  if FilterKind.wxs.isAskedBy id then some (ask .wxs)
  else if FilterKind.renderjs.isAskedBy id then some (ask .renderjs)
  else none

/-- The block that stands for a sandboxed module without a name. -/
def missingName (kind : FilterKind) (code : String) : String :=
  "<script module=\"missing module name\" lang=\"" ++ kind.name ++ "\">\n" ++ code ++ "\n</script>"

end SandboxedModule
end AppBuild
