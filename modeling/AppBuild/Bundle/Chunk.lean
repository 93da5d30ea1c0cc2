/-
The chunks of a bundle, and how the two that belong together are changed.

The shared chunk is wrapped so that it runs against an exports object of its own, and
installs a resolver by which it and the service chunk reach each other and the user
interface library.
-/
import AppBuild.Bundle.Redirect
import AppBuild.Json.Record
import Std.Data.HashMap

namespace AppBuild

/-- A chunk of a bundle. -/
structure Chunk where
  name : String
  code : String
  deriving DecidableEq, Repr

namespace Chunk

/-- A chunk being read. -/
structure Draft where
  name : Option String := none
  code : Option String := none

/-- A chunk as JSON. -/
def record : Json.Record Draft Chunk where
  name := "BundleChunk"
  fields :=
    [.kept "name" true (·.name) (fun s d => { d with name := some s }) (.text "a string"),
     .kept "code" true (·.code) (fun s d => { d with code := some s }) (.text "a string")]
  start := {}
  build d := do return ⟨← d.name, ← d.code⟩

/-- The key of the shared chunk. -/
def sharedKey : String := "app-confusion.js"

/-- The key of the service chunk. -/
def serviceKey : String := "app-service.js"

/-- The specifier of the user interface library. -/
def librarySpecifier : String := "vue"

/-- The specifier of the shared chunk. -/
def sharedSpecifier : String := "./" ++ sharedKey

/-- The name of the exports object of the shared chunk. -/
def sharedExports : String := "$appConfusion$"

/-- The specifiers that are sent elsewhere in the shared chunk. -/
def sharedSpecifiers : List String := [librarySpecifier]

/-- The specifiers that are sent elsewhere in the service chunk. -/
def serviceSpecifiers : List String := [librarySpecifier, sharedSpecifier]

/-- The redirects of fixed specifiers.  The calls of those here are valid patterns, so there is one
for each. -/
def redirectsFor (specifiers : List String) : List Redirect :=
  specifiers.filterMap fun s => (Redirect.ofSpecifier s).toOption

/-- The redirects in the shared chunk. -/
def sharedRedirects : List Redirect := redirectsFor sharedSpecifiers

/-- The redirects in the service chunk. -/
def serviceRedirects : List Redirect := redirectsFor serviceSpecifiers

/-- What comes before the code of the shared chunk: the resolver and the exports object. -/
def sharedHeader : String :=
  "function " ++ Redirect.resolver ++ "(name)\x7bif(name==='" ++ librarySpecifier ++
  "')\x7breturn Vue;\x7dif(name==='" ++ sharedSpecifier ++ "')\x7breturn " ++ sharedExports ++
  ";\x7d\x7d;const " ++ sharedExports ++ " = \x7b\x7d;(function(exports)\x7b"

/-- What comes after the code of the shared chunk. -/
def sharedFooter : String := "\x7d)(" ++ sharedExports ++ ");\n"

/-- The code of the shared chunk, with its loads sent to the resolver that it installs. -/
def wrapShared (code : String) : String :=
  sharedHeader ++ Redirect.applyAll sharedRedirects code ++ sharedFooter

/-- The code of the service chunk, with its loads sent to the resolver of the shared chunk. -/
def routeService (code : String) : String := Redirect.applyAll serviceRedirects code

end Chunk

/-- A bundle, as far as chunks are found in it and changed. -/
class Bundle (β : Type) where
  find? : β → String → Option Chunk
  modify : β → String → (Chunk → Chunk) → β

instance : Bundle (OrderedMap String Chunk) where
  find? := OrderedMap.get?
  modify := OrderedMap.modify

instance : Bundle (Std.HashMap String Chunk) where
  find? m key := m.get? key
  modify m key f := Std.HashMap.modify m key f

end AppBuild
