/-
Changing a file tree by paths.
-/
import AppBuild.Tree.Walk

namespace AppBuild.Tree

/-- Makes the directories on the way along the parts of a path, following links, and tells where the
way ends; none where something else is in the way. -/
def makeWay (t : Tree) (at_ : Location) : List FileName → Tree × Option Location
  | [] => (t, some at_)
  | part :: rest =>
    match t.walk true linkLimit at_ [part] with
    | .ok (some (at_, .directory)) => makeWay t at_ rest
    | .ok none => makeWay (t.insert (at_ ++ [part]) .directory) (at_ ++ [part]) rest
    | _ => (t, none)

/-- Puts an entry at a path that starts at a place.  Directories that lack on the way are made.  A
directory that is there already stays, and a file is written where a link there leads to. -/
def create (t : Tree) (start : Location) (p : Path) (e : Entry) : Tree :=
  match p.segments.reverse with
  | [] => t
  | name :: above =>
    match t.makeWay start above.reverse with
    | (t, none) => t
    | (t, some at_) =>
      match e, t.walk true linkLimit at_ [name] with
      | .directory, .ok (some (_, .directory)) => t
      | .file content, .ok (some (at_, .file _)) => t.insert at_ (.file content)
      | e, _ => t.insert (at_ ++ [name]) e

/-- Takes away what a path that starts at a place leads to, and all below it. -/
def delete (t : Tree) (start : Location) (p : Path) : Tree :=
  match t.walk false linkLimit start p.segments with
  | .ok (some (at_, _)) => t.remove at_
  | _ => t

end AppBuild.Tree
