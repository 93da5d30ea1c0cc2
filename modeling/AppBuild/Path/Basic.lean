/-
Paths.

A path is a sequence of bytes, which need not be text.  What it says is its `Route`:
whether it starts at the root, and its steps, each up or into a name.  Doubled and
trailing slashes and single dots say nothing and are not in the route.
-/
import AppBuild.Text.Utf8

namespace AppBuild

/-- A name in a directory: any bytes but a slash. -/
abbrev FileName := List UInt8

/-- The bytes of a path as written. -/
structure Path where
  bytes : List UInt8
  deriving DecidableEq, Repr, Inhabited

namespace Path

/-- The byte of a slash. -/
def slash : UInt8 := 47

/-- The byte of a dot. -/
def dot : UInt8 := 46

/-- The path that a text writes. -/
def ofText (s : String) : Path := ⟨Utf8.encode s⟩

/-- The path as text; bytes that are no text are replaced. -/
def toText (p : Path) : String := Utf8.decodeLossy p.bytes

/-- Does the path start at the root? -/
def isAbsolute (p : Path) : Bool := p.bytes.head? == some slash

/-- The path `q` from `p` on.  An absolute `q` stands for itself. -/
def join (p q : Path) : Path :=
  if q.isAbsolute then q
  else if p.bytes.isEmpty || p.bytes.getLast? == some slash then ⟨p.bytes ++ q.bytes⟩
  else ⟨p.bytes ++ slash :: q.bytes⟩

/-- The path of a name in a directory. -/
def child (p : Path) (name : String) : Path := p.join (ofText name)

/-- The parts of a sequence of bytes between slashes; there is always at least one. -/
def splitSlash : List UInt8 → List FileName
  | [] => [[]]
  | b :: bs =>
    if b = slash then [] :: splitSlash bs
    else match splitSlash bs with
      | [] => [[b]]
      | part :: parts => (b :: part) :: parts

end Path

/-- One step of a route. -/
inductive Step where
  | up
  | into (name : FileName)
  deriving DecidableEq, Repr

/-- The step of a part of a path, unless it says nothing. -/
def Step.ofPart? (part : FileName) : Option Step :=
  if part.isEmpty || part = [Path.dot] then none
  else if part = [Path.dot, Path.dot] then some .up
  else some (.into part)

/-- The bytes of a step. -/
def Step.bytes : Step → List UInt8
  | .up => [Path.dot, Path.dot]
  | .into name => name

/-- What a path says. -/
structure Route where
  rooted : Bool
  steps : List Step
  deriving DecidableEq, Repr

/-- What a path says. -/
def Path.route (p : Path) : Route :=
  ⟨p.isAbsolute, (Path.splitSlash p.bytes).filterMap Step.ofPart?⟩

namespace Route

/-- The parts of a path with slashes between them. -/
def joinSlash : List (List UInt8) → List UInt8
  | [] => []
  | [part] => part
  | part :: parts => part ++ Path.slash :: joinSlash parts

/-- The path that says no more than a route. -/
def toPath (r : Route) : Path :=
  let inside := joinSlash (r.steps.map Step.bytes)
  if r.rooted then ⟨Path.slash :: inside⟩ else ⟨inside⟩

/-- Takes one step from where the steps so far have led; these come last first.  A step up takes
back the last step, whatever it is.  There is no way up from the root. -/
def advance (rooted : Bool) (done : List Step) : Step → List Step
  | .into name => .into name :: done
  | .up =>
    match done with
    | _ :: done => done
    | [] => if rooted then [] else [.up]

/-- The route without steps that are taken back. -/
def clean (r : Route) : Route :=
  ⟨r.rooted, (r.steps.foldl (advance r.rooted) []).reverse⟩

end Route
end AppBuild
