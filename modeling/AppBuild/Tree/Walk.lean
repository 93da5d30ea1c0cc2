/-
Following a path in a file tree.

The walk goes from directory to directory and follows links as it meets them, up to a
limit.  `Disk` is a tree together with the working directory, from which relative paths
start.  A missing entry is not a fault: it is answered by none.

The faults are those of the form of a tree.  Two that a system knows besides are left out.
There are no permissions, so nothing is refused for want of one; and a path with a NUL byte
in it is looked for like any other, so where no name has one it is missing, not refused.
-/
import AppBuild.Tree.Basic

namespace AppBuild

/-- Why the tree cannot answer. -/
inductive Fault where
  | notADirectory
  | isADirectory
  | linkLoop
  | nameTooLong
  | invalidText
  deriving DecidableEq, Repr

/-- The wording of a fault. -/
def Fault.message : Fault → String
  | .notADirectory => "Not a directory (os error 20)"
  | .isADirectory => "Is a directory (os error 21)"
  | .linkLoop => "Too many levels of symbolic links (os error 40)"
  | .nameTooLong => "File name too long (os error 36)"
  | .invalidText => "stream did not contain valid UTF-8"

/-- How many links one walk may follow. -/
def linkLimit : Nat := 40

/-- The length of the longest name. -/
def nameLimit : Nat := 255

/-- The length of the longest path. -/
def pathLimit : Nat := 4095

namespace Path

/-- The parts of a path with something in them. -/
def parts (p : Path) : List FileName := (splitSlash p.bytes).filter (!·.isEmpty)

/-- The parts of a path that a walk goes through.  A slash at the end asks for a directory, as a dot
there does. -/
def segments (p : Path) : List FileName :=
  if p.bytes.getLast? = some slash then p.parts ++ [[dot]] else p.parts

end Path

namespace Tree

/-- Follows the parts of a path from a place on.  A link in the last part is followed only where
`follow` says so. -/
def walk (t : Tree) (follow : Bool) (links : Nat) (at_ : Location) :
    List FileName → Except Fault (Option (Location × Entry))
  | [] => .ok ((t.get? at_).map (at_, ·))
  | part :: rest =>
    match t.get? at_ with
    | none => .ok none
    | some (.file _) => .error .notADirectory
    | some (.link _) => .error .notADirectory
    | some .directory =>
      if part = [Path.dot] then walk t follow links at_ rest
      else if part = [Path.dot, Path.dot] then walk t follow links at_.dropLast rest
      else if nameLimit < part.length then .error .nameTooLong
      else
        match t.get? (at_ ++ [part]) with
        | none => .ok none
        | some (.link target) =>
          if rest.isEmpty && !follow then .ok (some (at_ ++ [part], .link target))
          else match links with
            | 0 => .error .linkLoop
            | links + 1 =>
              walk t follow links (if target.isAbsolute then [] else at_) (target.segments ++ rest)
        | some _ => walk t follow links (at_ ++ [part]) rest
  termination_by parts => (links, parts.length)

end Tree

/-- A file tree and the working directory of who looks at it. -/
structure Disk where
  tree : Tree
  cwd : Option Path

namespace Disk

/-- The place where a path starts. -/
def origin? (d : Disk) (p : Path) : Option Location :=
  if p.isAbsolute then some []
  else d.cwd.map (·.parts)

/-- What a path leads to. -/
def locate (d : Disk) (p : Path) : Except Fault (Option (Location × Entry)) :=
  if pathLimit < p.bytes.length then .error .nameTooLong
  else if p.bytes.isEmpty then .ok none
  else match d.origin? p with
    | none => .ok none
    | some start => d.tree.walk true linkLimit start p.segments

/-- Does a path lead to something? -/
def present (d : Disk) (p : Path) : Except Fault Bool := do
  .ok (← d.locate p).isSome

/-- The content of a file. -/
def read (d : Disk) (p : Path) : Except Fault (Option String) := do
  match ← d.locate p with
  | none => .ok none
  | some (_, .file content) =>
    match Utf8.decode? content with
    | some text => .ok (some text)
    | none => .error .invalidText
  | some _ => .error .isADirectory

/-- The names in a directory with what is there, in the order of the bytes of the names; what is no
directory has none. -/
def list (d : Disk) (p : Path) : Except Fault (List (FileName × Entry)) := do
  match ← d.locate p with
  | some (at_, .directory) =>
    .ok ((d.tree.names at_).filterMap fun name =>
      (d.tree.get? (at_ ++ [name])).map (name, ·))
  | _ => .ok []

end Disk
end AppBuild
