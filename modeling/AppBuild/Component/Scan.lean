/-
Finding components in directories.

A directory provides a component for each of its folders that holds an entry with the
name of the folder and one of the extensions.  The first component of a name is kept;
those that come later lose to it, and what lost to what is the conflict record.
-/
import AppBuild.Error
import AppBuild.OrderedMap
import AppBuild.Path.Resolve
import AppBuild.Project.Layout
import AppBuild.Project.Options

namespace AppBuild

/-- What is scanned for components, and the entries besides. -/
structure ScanConfig where
  /-- The directories in order, of which relative ones count from the root. -/
  dirs : List Path
  rootDir : Path
  /-- The extensions, those to be preferred first. -/
  extensions : List String
  /-- If not set, only the first directory is scanned. -/
  autoscan : Bool
  /-- The entries by pattern, each with its path. -/
  custom : OrderedMap String String

/-- A component found in a directory: its name and its path. -/
abbrev Component := String × String

/-- The kept paths, each with the paths, seen from the root, that lost to it. -/
abbrev Conflicts := OrderedMap String (List String)

/-- Does the path lead to something?  A missing entry is no failure, any fault is one. -/
def Disk.check (d : Disk) (p : Path) : Except BuildError Bool :=
  match d.present p with
  | .ok b => .ok b
  | .error fault => .error (.io p fault)

/-- The names in a directory with what is there. -/
def Disk.entries (d : Disk) (p : Path) : Except BuildError (List (FileName × Entry)) :=
  match d.list p with
  | .ok entries => .ok entries
  | .error fault => .error (.io p fault)

namespace ScanConfig

/-- The extensions of components. -/
def defaultExtensions : List String := [".vue"]

/-- The component directories among entries of the modules directory.  Each entry must be one in
which to look, or a link that leads nowhere. -/
def moduleDirs (d : Disk) (modules : Path) :
    List (FileName × Entry) → Except BuildError (List Path)
  | [] => .ok []
  | (name, _) :: rest => do
    let dir := (modules.join ⟨name⟩).child "components"
    let there ← d.check dir
    let dirs ← moduleDirs d modules rest
    .ok (if there then dir :: dirs else dirs)

/-- The component directories of all modules that a project takes from others. -/
def allModuleDirs (d : Disk) (modules : Path) : Except BuildError (List Path) := do
  if ← d.check modules then moduleDirs d modules (← d.entries modules) else .ok []

/-- What is scanned for a project: the built-in components, and unless the options say no the
components of the project and of its modules. -/
def forProject (d : Disk) (layout : Layout) (options : ComponentOptions) :
    Except BuildError ScanConfig := do
  let own ←
    if options.scans then
      .ok (layout.componentsDir :: (← allModuleDirs d layout.modulesDir))
    else .ok []
  .ok {
    dirs := layout.builtinDir :: own
    rootDir := layout.inputDir
    extensions := defaultExtensions
    autoscan := options.scans
    custom := options.custom }

/-- The directories that are scanned. -/
def scanned (c : ScanConfig) : List Path := if c.autoscan then c.dirs else c.dirs.take 1

end ScanConfig

/-! ### One directory -/

/-- The component of a folder, if it is one. -/
def folderComponent? (d : Disk) (dir : Path) (extensions : List String) (name : FileName) :
    Entry → Except BuildError (Option Component)
  | .directory =>
    match Utf8.decode? name with
    | none => .ok none
    | some text => do
      let folder := dir.join ⟨name⟩
      let files := (← d.entries folder).map fun e => Utf8.decodeLossy e.1
      .ok ((extensions.find? fun ext => files.contains (text ++ ext)).map fun ext =>
        (text, folder.toText ++ "/" ++ text ++ ext))
  | _ => .ok none

/-- The components among the entries of a directory. -/
def componentsAmong (d : Disk) (dir : Path) (extensions : List String) :
    List (FileName × Entry) → Except BuildError (List Component)
  | [] => .ok []
  | (name, entry) :: rest => do
    let here ← folderComponent? d dir extensions name entry
    let later ← componentsAmong d dir extensions rest
    .ok (here.toList ++ later)

/-- The components that a directory provides; a missing one provides none. -/
def scanDir (d : Disk) (rootDir : Path) (extensions : List String) (dir : Path) :
    Except BuildError (List Component) := do
  let dir := Path.resolve d.cwd rootDir dir
  if ← d.check dir then componentsAmong d dir extensions (← d.entries dir) else .ok []

/-- The components that directories provide, in order. -/
def scanDirs (d : Disk) (rootDir : Path) (extensions : List String) :
    List Path → Except BuildError (List Component)
  | [] => .ok []
  | dir :: dirs => do
    let here ← scanDir d rootDir extensions dir
    let later ← scanDirs d rootDir extensions dirs
    .ok (here ++ later)

/-! ### All of them together -/

/-- What a scan comes to: the path kept for each name, and the conflicts. -/
structure Scan where
  kept : OrderedMap String String
  conflicts : Conflicts

namespace Scan

/-- Nothing found. -/
def empty : Scan := ⟨.empty, .empty⟩

/-- Takes a component in.  A name that is there keeps its path, and the new path is noted to have
lost to it. -/
def add (cwd : Option Path) (rootDir : Path) (s : Scan) (c : Component) : Scan :=
  match s.kept.get? c.1 with
  | none => { s with kept := s.kept.insert c.1 c.2 }
  | some path =>
    let losers := (s.conflicts.get? path).getD []
    let loser := Path.relative cwd rootDir (.ofText c.2)
    { s with conflicts := s.conflicts.insert path (losers ++ [loser]) }

/-- Takes components in, in order. -/
def ofComponents (cwd : Option Path) (rootDir : Path) (cs : List Component) : Scan :=
  cs.foldl (add cwd rootDir) empty

end Scan

/-- The warning about conflicts: for each a line with the kept path, from the root, and all paths
that lost to it. -/
def conflictWarning? (cwd : Option Path) (rootDir : Path) (conflicts : Conflicts) :
    Option String :=
  if conflicts.entries.isEmpty then none
  else
    let line (e : String × List String) : String :=
      ",".intercalate (Path.relative cwd rootDir (.ofText e.1) :: e.2)
    some ("easycom component conflict:" ++
      String.join (conflicts.entries.map fun e => "\n" ++ line e))

end AppBuild
