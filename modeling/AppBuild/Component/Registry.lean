/-
The registry of components.

A registry answers which path a tag stands for.  Configuring it scans directories and
lays out the matchers in a fixed order: those of scanned components in the order of the
scan, then those of custom entries; a custom entry that names a scanned component takes
its place.  The first matcher that matches a tag answers for it.

Answers are remembered, both paths and misses, until the registry is configured again
or invalidated.  A registry that fails to be configured is left empty.
-/
import AppBuild.Component.Matcher
import AppBuild.Component.Scan

namespace AppBuild

/-- What takes the place of a match: a path as it is, or a template. -/
inductive SlotPath where
  | verbatim (path : String)
  | template (text : String)
  deriving DecidableEq, Repr

/-- What takes the place of a match of a pattern with so many groups. -/
def SlotPath.replacement (groups : Nat) : SlotPath → Replacement
  | .verbatim path => .literal path
  | .template text => .parse text groups

/-- A matcher to be, with its pattern not yet read. -/
structure Slot where
  /-- The name of the scanned component that the slot is for, unless a custom entry took it. -/
  scanned : Option String
  pattern : String
  path : SlotPath
  deriving DecidableEq, Repr

namespace Slot

/-- The slot of a scanned component.  Its pattern matches the name alone. -/
def ofComponent (c : Component) : Slot :=
  ⟨some c.1, "^" ++ Pattern.escape c.1 ++ "$", .verbatim c.2⟩

/-- The path of a custom entry: one that starts with the root alias counts from the root. -/
def customPath (cwd : Option Path) (rootDir : Path) (value : String) : String :=
  match value.toList with
  | '@' :: '/' :: rest => (Path.resolve cwd rootDir (.ofText (String.ofList rest))).toText
  | _ => value

/-- The slot of a custom entry. -/
def ofCustom (cwd : Option Path) (rootDir : Path) (entry : String × String) : Slot :=
  ⟨none, entry.1, .template (customPath cwd rootDir entry.2)⟩

/-- The name that a custom pattern is for: the pattern without anchors on both sides. -/
def nameOf (pattern : String) : String :=
  match pattern.toList with
  | '^' :: rest =>
    match rest.reverse with
    | '$' :: inside => String.ofList inside.reverse
    | _ => pattern
  | _ => pattern

/-- Puts a custom slot in the place of the scanned component that it names, or else at the end. -/
def place (name : String) (slot : Slot) : List Slot → List Slot
  | [] => [slot]
  | s :: slots => if s.scanned = some name then slot :: slots else s :: place name slot slots

/-- The matcher of a slot. -/
def compile (s : Slot) : Except BuildError Matcher :=
  match Pattern.compile s.pattern with
  | .error cause => .error (.invalidPattern s.pattern cause)
  | .ok pattern => .ok ⟨pattern, s.path.replacement pattern.groups⟩

end Slot

/-- The slots of scanned components and custom entries. -/
def layOut (cwd : Option Path) (rootDir : Path) (kept custom : List (String × String)) :
    List Slot :=
  custom.foldl
    (fun slots entry => Slot.place (Slot.nameOf entry.1) (.ofCustom cwd rootDir entry) slots)
    (kept.map Slot.ofComponent)

/-- What the warnings of a registry are logged under. -/
def logTarget : String := "uni::easycom"

/-- What a configuration comes to. -/
structure Report where
  matchers : Nat
  conflicts : Conflicts

/-- The matchers at hand and the answers remembered. -/
structure Registry where
  matchers : List Matcher
  resolved : OrderedMap String String
  unresolved : List String
  hasAny : Bool
  /-- How often the matchers were gone through. -/
  lookups : Nat

/-- What configuring a registry leads to. -/
structure Configured where
  registry : Registry
  outcome : Except BuildError Report
  /-- The warnings that were given, which may be so although it failed in the end. -/
  warnings : List String

namespace Registry

/-- A registry that was never configured. -/
def new : Registry := ⟨[], .empty, [], false, 0⟩

/-- Drops the matchers and the remembered answers. -/
def invalidate (r : Registry) : Registry :=
  { r with matchers := [], resolved := .empty, unresolved := [], hasAny := false }

/-- The matchers of a configuration, what it comes to, and the warnings given on the way. -/
def plan (d : Disk) (c : ScanConfig) :
    Except BuildError (List Matcher × Conflicts) × List String :=
  match scanDirs d c.rootDir c.extensions c.scanned with
  | .error e => (.error e, [])
  | .ok components =>
    let scan := Scan.ofComponents d.cwd c.rootDir components
    let warnings := (conflictWarning? d.cwd c.rootDir scan.conflicts).toList
    let slots := layOut d.cwd c.rootDir scan.kept.entries c.custom.entries
    match slots.mapM Slot.compile with
    | .error e => (.error e, warnings)
    | .ok matchers => (.ok (matchers, scan.conflicts), warnings)

/-- Configures a registry anew. -/
def configure (r : Registry) (d : Disk) (c : ScanConfig) : Configured :=
  let r := r.invalidate
  match plan d c with
  | (.error e, warnings) => ⟨r, .error e, warnings⟩
  | (.ok (matchers, conflicts), warnings) =>
    ⟨{ r with matchers, hasAny := !matchers.isEmpty }, .ok ⟨matchers.length, conflicts⟩, warnings⟩

/-- The path that a tag stands for, if it is a component. -/
def resolve (r : Registry) (tag : String) : Option String × Registry :=
  if !r.hasAny then (none, r)
  else match r.resolved.get? tag with
    | some path => (some path, r)
    | none =>
      if r.unresolved.contains tag then (none, r)
      else
        let r := { r with lookups := r.lookups + 1 }
        match r.matchers.find? (·.test tag) with
        | none => (none, { r with unresolved := tag :: r.unresolved })
        | some m =>
          let path := m.apply tag
          (some path, { r with resolved := r.resolved.insert tag path })

/-- The patterns of the matchers in order. -/
def patterns (r : Registry) : List String := r.matchers.map (·.pattern.source)

end Registry
end AppBuild
