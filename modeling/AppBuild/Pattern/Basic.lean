/-
Patterns: compiling a written one, and the written form of a plain text.

A pattern is refused when it is too large.  How large it is depends on the program that it
would be compiled to, which is not built here, so `Node.bytes` is an estimate: each
character of a word counts as one state of such a program, each set as the states that
its ranges ask for.  It is close for words and for sets of ASCII, and rough for others.
-/
import AppBuild.Pattern.Expr.Read
import AppBuild.Pattern.Machine
import AppBuild.Pattern.Node.OfExpr

namespace AppBuild

/-- A pattern that was read. -/
structure Pattern where
  source : String
  node : Pattern.Node
  deriving Repr

namespace Pattern

/-- About the bytes that a set of characters takes as a part of a pattern: little for ASCII, and for
more what its ranges ask for. -/
def setBytes (s : CharSet) : Nat :=
  let ranges := s.bounds.length / 2
  if (s.diff asciiSet).isEmpty then 64 + 8 * ranges else 320 + 32 * ranges

/-- About the bytes that a node takes, each repetition written out. -/
def Node.bytes : Node → Nat
  | .empty => 32
  | .word cs => 32 * (String.ofList cs).utf8ByteSize
  | .set s => setBytes s
  | .caseless _ => 96
  | .look _ => 32
  | .seq a b => a.bytes + b.bytes
  | .alt _ a b => a.bytes + b.bytes + 4
  | .repeat _ min none _ body => (max min 1) * body.bytes + 40
  | .repeat _ min (some m) _ body => min * body.bytes + (m - min) * (body.bytes + 40) + 32
  | .capture _ body => body.bytes + 64

/-- Reads a pattern, whatever its size. -/
def parse (source : String) : Except Error Pattern := do
  let e ← Expr.read source
  let (node, _) ← Node.ofExpr {} e
  .ok ⟨source, (node.number 0).1⟩

/-- Reads a pattern, and refuses it if it is too large. -/
def compile (source : String) : Except Error Pattern := do
  let p ← parse source
  if p.node.bytes ≤ sizeLimit then .ok p else .error .tooLarge

/-- The number of remembered groups. -/
def groups (p : Pattern) : Nat := p.node.groups

/-- The first match in a text. -/
def find? (p : Pattern) (text : List Char) : Option Match := p.node.find? text

/-- Does the pattern match somewhere in a text? -/
def test (p : Pattern) (text : List Char) : Bool := (p.find? text).isSome

/-- The pattern text that stands for a plain text: characters with a meaning are escaped. -/
def escape (text : String) : String :=
  String.ofList (text.toList.flatMap fun c => if isMeta c then ['\\', c] else [c])

end Pattern
end AppBuild
