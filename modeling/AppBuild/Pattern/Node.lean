/-
What a pattern means.

A `Node` is a pattern with its flags applied and its classes turned into sets.  Nodes
are kept in one form, because which loop a match takes can hang on it: sequences and
choices are flat and lean to the right, neighbouring characters make one word, a
choice of single characters is a set, and what all branches of a choice start with is
taken out of it.  `Node.ofParts`, `Node.ofBranches` and `Node.ofRepeat` build that form.

Choices and repetitions carry a number that tells them apart, given by
`Node.number` once the whole pattern is built.
-/
import AppBuild.Text.CharSet

namespace AppBuild.Pattern

/-- A condition on the place between two characters. -/
inductive Look where
  | textStart
  | textEnd
  /-- The start of a line, which ends at a line feed, or also at a carriage return. -/
  | lineStart (crlf : Bool)
  | lineEnd (crlf : Bool)
  /-- A place between a character in words and one that is not, or not such a place. -/
  | boundary (unicode : Bool)
  | notBoundary (unicode : Bool)
  | wordStart (unicode : Bool)
  | wordEnd (unicode : Bool)
  | wordStartHalf (unicode : Bool)
  | wordEndHalf (unicode : Bool)
  deriving DecidableEq, Repr

/-- The meaning of a pattern. -/
inductive Node where
  /-- The empty text. -/
  | empty
  /-- These characters, of which there is at least one. -/
  | word (cs : List Char)
  /-- One character of a set. -/
  | set (s : CharSet)
  /-- One character that differs from the given one at most in case. -/
  | caseless (c : Char)
  | look (l : Look)
  /-- The first node, then the second. -/
  | seq (first second : Node)
  /-- The first node or else the second. -/
  | alt (id : Nat) (first second : Node)
  /-- The body, so often; as often as possible where `greedy`, or else as seldom. -/
  | repeat (id : Nat) (min : Nat) (max : Option Nat) (greedy : Bool) (body : Node)
  /-- The body, remembered under a number. -/
  | capture (index : Nat) (body : Node)
  deriving DecidableEq, Repr, Inhabited

namespace Node

/-! ### Measures -/

/-- Can the node match the empty text? -/
def nullable : Node → Bool
  | .empty => true
  | .word cs => cs.isEmpty
  | .set _ => false
  | .caseless _ => false
  | .look _ => true
  | .seq a b => a.nullable && b.nullable
  | .alt _ a b => a.nullable || b.nullable
  | .repeat _ min _ _ body => min == 0 || body.nullable
  | .capture _ body => body.nullable

/-- Is the node such that it can match no text but the empty one? -/
def onlyEmpty : Node → Bool
  | .empty => true
  | .word cs => cs.isEmpty
  | .set _ => false
  | .caseless _ => false
  | .look _ => true
  | .seq a b => a.onlyEmpty && b.onlyEmpty
  | .alt _ a b => a.onlyEmpty && b.onlyEmpty
  | .repeat _ _ max _ body => max.isSome && body.onlyEmpty
  | .capture _ body => body.onlyEmpty

/-- How many groups are remembered.  A group that is repeated no times at all is gone from the node
and does not count, though those after it keep their numbers. -/
def groups : Node → Nat
  | .seq a b => a.groups + b.groups
  | .alt _ a b => a.groups + b.groups
  | .repeat _ _ _ _ body => body.groups
  | .capture _ body => body.groups + 1
  | _ => 0

/-- The number of steps a walk through the node takes at most, each repetition written out. -/
def weight : Node → Nat
  | .word cs => cs.length + 1
  | .seq a b => a.weight + b.weight + 1
  | .alt _ a b => a.weight + b.weight + 2
  | .repeat _ min max _ body => (max.getD (min + 1) + 1) * (body.weight + 3)
  | .capture _ body => body.weight + 3
  | _ => 1

/-! ### The form in which nodes are kept -/

/-- The nodes that a sequence is made of. -/
def parts : Node → List Node
  | .empty => []
  | .seq a b => a.parts ++ b.parts
  | n => [n]

/-- The branches that a choice is made of. -/
def branches : Node → List Node
  | .alt _ a b => a.branches ++ b.branches
  | n => [n]

/-- Puts a node before a sequence; two words make one. -/
def prepend : Node → List Node → List Node
  | .word cs, .word ds :: ns => .word (cs ++ ds) :: ns
  | n, ns => n :: ns

/-- The sequence of a list of nodes that are none themselves. -/
def sequence : List Node → Node
  | [] => .empty
  | [n] => n
  | n :: ns => .seq n (sequence ns)

/-- The sequence of any list of nodes. -/
def ofParts (ns : List Node) : Node :=
  sequence ((ns.flatMap parts).foldr prepend [])

/-- The choice between a list of nodes that are none themselves; without a branch nothing
matches. -/
def choice : List Node → Node
  | [] => .set .empty
  | [n] => n
  | n :: ns => .alt 0 n (choice ns)

/-- A set as a node: a set of one character is a word. -/
def ofSet (s : CharSet) : Node :=
  match s.single? with
  | some c => .word [c]
  | none => .set s

/-- The set of a node that stands for one character of a set. -/
def toSet? : Node → Option CharSet
  | .word [c] => some (.singleton c)
  | .set s => some s
  | _ => none

/-- The nodes that two sequences start with alike. -/
def commonStart : List Node → List Node → List Node
  | a :: as, b :: bs => if a = b then a :: commonStart as bs else []
  | _, _ => []

/-- The nodes that all of the given sequences start with; none if one of them is a single node. -/
def sharedStart : List (List Node) → List Node
  | [] => []
  | ns :: rest =>
    if (ns :: rest).all (2 ≤ ·.length) then rest.foldl commonStart ns else []

/-- The choice between any list of nodes.  The fuel bounds how often a common start is taken out. -/
def ofBranchesUpTo : Nat → List Node → Node
  | 0, ns => choice ns
  | fuel + 1, ns =>
    let ns := ns.flatMap branches
    if ns.length ≤ 1 then choice ns
    else match ns.mapM toSet? with
      | some sets => ofSet (.unions sets)
      | none =>
        let start := sharedStart (ns.map parts)
        if start.isEmpty then choice ns
        else
          let rest := ns.map fun n => ofParts (n.parts.drop start.length)
          ofParts (start ++ [ofBranchesUpTo fuel rest])

/-- The choice between any list of nodes. -/
def ofBranches (ns : List Node) : Node :=
  ofBranchesUpTo (ns.foldl (fun n branch => n + branch.weight) 0) ns

/-- A repetition.  What matches only the empty text is repeated once at most; no repetition at all
is empty, and exactly one is the body. -/
def ofRepeat (min : Nat) (max : Option Nat) (greedy : Bool) (body : Node) : Node :=
  let once := body.onlyEmpty
  let min := if once then Nat.min min 1 else min
  let max := if once then some (Nat.min (max.getD 1) 1) else max
  if min == 0 && max == some 0 then .empty
  else if min == 1 && max == some 1 then body
  else .repeat 0 min max greedy body

/-- Gives each choice and repetition a number of its own, from the given one on. -/
def number : Node → Nat → Node × Nat
  | .seq a b, n =>
    let (a, n) := a.number n
    let (b, n) := b.number n
    (.seq a b, n)
  | .alt _ a b, n =>
    let (a, m) := a.number (n + 1)
    let (b, m) := b.number m
    (.alt n a b, m)
  | .repeat _ min max greedy body, n =>
    let (body, m) := body.number (n + 1)
    (.repeat n min max greedy body, m)
  | .capture index body, n =>
    let (body, n) := body.number n
    (.capture index body, n)
  | node, n => (node, n)

end Node
end AppBuild.Pattern
