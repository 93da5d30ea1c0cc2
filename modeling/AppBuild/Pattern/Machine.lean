/-
Matching.

A thread is a place in the text together with what is still to be matched there.  A
step of a thread ends it, moves it, or forks it into two, of which the first is
preferred.  `run` follows the preferred thread until it fails and then the next one,
so the match it finds is the one that the order of branches asks for.

No fork is entered twice at one place of the text: what was tried there before has
failed or is being tried.  This is what ends a loop whose body matched the empty
text, and it bounds the run, so the fuel given by `budget` never runs out.  A fork is
told from others by its number and by the counts of the repetitions around it.
-/
import AppBuild.Pattern.Node
import AppBuild.Unicode.Folding
import AppBuild.Unicode.Property
import Std.Data.HashSet

namespace AppBuild.Pattern

/-- Is the character one that words are made of? -/
def isWordChar (unicode : Bool) (c : Char) : Bool :=
  if c.toNat < 128 then c.isAlphanum || c == '_'
  else unicode && Unicode.Property.word.contains c

/-- Does the condition hold between the given characters?  There is none at the ends of the text. -/
def Look.holds (l : Look) (before after : Option Char) : Bool :=
  let word (unicode : Bool) (c : Option Char) : Bool := (c.map (isWordChar unicode)).getD false
  match l with
  | .textStart => before.isNone
  | .textEnd => after.isNone
  | .lineStart false => before.isNone || before == some '\n'
  | .lineStart true =>
    before.isNone || before == some '\n' || (before == some '\r' && after != some '\n')
  | .lineEnd false => after.isNone || after == some '\n'
  | .lineEnd true =>
    after.isNone || after == some '\r' || (after == some '\n' && before != some '\r')
  | .boundary u => word u before != word u after
  | .notBoundary u => word u before == word u after
  | .wordStart u => !word u before && word u after
  | .wordEnd u => word u before && !word u after
  | .wordStartHalf u => !word u before
  | .wordEndHalf u => !word u after

/-- Something still to be matched. -/
inductive Todo where
  | run (n : Node)
  /-- More rounds of a repetition whose body has just been matched. -/
  | again (id : Nat) (greedy : Bool) (body : Node)
  /-- Remembering the place under a number. -/
  | mark (slot : Nat)

/-- The number and the counts that tell a repetition at hand from others. -/
def Todo.stamp : Todo → List Nat
  | .run (.repeat id min max _ _) => [id, min + 1, max.getD 0 + 1]
  | .again id _ _ => [id, 0, 0]
  | _ => []

/-- A place in the text and what is still to be matched there. -/
structure Thread where
  todo : List Todo
  before : Option Char
  rest : List Char
  pos : Nat
  /-- The remembered places by number, the newest first. -/
  slots : List (Nat × Nat)

/-- What a step of a thread comes to. -/
inductive Outcome where
  | matched
  | failed
  | next (t : Thread)
  /-- A fork with what it is told by, and its two threads, the preferred one first. -/
  | fork (key : List Nat) (first second : Thread)

namespace Thread

/-- Passes one character that satisfies a test. -/
def eatIf (t : Thread) (p : Char → Bool) : Option Thread :=
  match t.rest with
  | [] => none
  | c :: rest => if p c then some { t with before := some c, rest, pos := t.pos + 1 } else none

/-- Passes the given characters. -/
def eat (t : Thread) : List Char → Option Thread
  | [] => some t
  | c :: cs => (t.eatIf (· == c)).bind (·.eat cs)

/-- The step that a thread makes if it could pass characters. -/
def goOn : Option Thread → Outcome
  | some t => .next t
  | none => .failed

/-- A fork between going into a body and going on after it. -/
def fork (t : Thread) (key : List Nat) (greedy : Bool) (inside after : List Todo) : Outcome :=
  let key := key ++ after.flatMap Todo.stamp
  if greedy then .fork key { t with todo := inside } { t with todo := after }
  else .fork key { t with todo := after } { t with todo := inside }

/-- One step of a thread. -/
def step (t : Thread) : Outcome :=
  match t.todo with
  | [] => .matched
  | .mark slot :: k => .next { t with todo := k, slots := (slot, t.pos) :: t.slots }
  | .again id greedy body :: k =>
    t.fork [id, 0, 0] greedy (.run body :: .again id greedy body :: k) k
  | .run n :: k =>
    match n with
    | .empty => .next { t with todo := k }
    | .word cs => goOn ({ t with todo := k }.eat cs)
    | .set s => goOn ({ t with todo := k }.eatIf s.contains)
    | .caseless c =>
      goOn ({ t with todo := k }.eatIf fun d => Unicode.Folding.fold d == Unicode.Folding.fold c)
    | .look l => if l.holds t.before t.rest.head? then .next { t with todo := k } else .failed
    | .seq a b => .next { t with todo := .run a :: .run b :: k }
    | .alt id a b =>
      let key := [id, 0, 0] ++ k.flatMap Todo.stamp
      .fork key { t with todo := .run a :: k } { t with todo := .run b :: k }
    | .capture index body =>
      .next { t with todo := .mark (2 * index) :: .run body :: .mark (2 * index + 1) :: k }
    | .repeat id 0 none greedy body =>
      if body.nullable then
        t.fork [id, 1, 1] greedy (.run body :: .again id greedy body :: k) k
      else .next { t with todo := .again id greedy body :: k }
    | .repeat id 1 none greedy body =>
      .next { t with todo := .run body :: .again id greedy body :: k }
    | .repeat id (min + 2) none greedy body =>
      .next { t with todo := .run body :: .run (.repeat id (min + 1) none greedy body) :: k }
    | .repeat _ 0 (some 0) _ _ => .next { t with todo := k }
    | .repeat id 0 (some (max + 1)) greedy body =>
      let after := Todo.run (.repeat id 0 (some max) greedy body)
      t.fork [id, 1, max + 2] greedy (.run body :: after :: k) k
    | .repeat id (min + 1) (some max) greedy body =>
      let after := Todo.run (.repeat id min (some (max - 1)) greedy body)
      .next { t with todo := .run body :: after :: k }

end Thread

/-- The forks that were entered, each with its place in the text. -/
abbrev Seen := Std.HashSet (List Nat × Nat)

/-- Follows threads in order of preference to the first that matches.  Where none does, all that was
seen has failed. -/
def run : Nat → Seen → List Thread → Option Thread × Seen
  | 0, seen, _ => (none, seen)
  | _ + 1, seen, [] => (none, seen)
  | fuel + 1, seen, t :: ts =>
    match t.step with
    | .matched => (some t, seen)
    | .failed => run fuel seen ts
    | .next t => run fuel seen (t :: ts)
    | .fork key first second =>
      if seen.contains (key, t.pos) then run fuel seen ts
      else run fuel (seen.insert (key, t.pos)) (first :: second :: ts)

/-- More steps than any run of a node takes over a text of the given length: each fork is entered
once at each place, and between forks a thread goes through the node at most once. -/
def Node.budget (n : Node) (length : Nat) : Nat :=
  4 * (n.weight + 2) * (n.weight + 2) * (length + 2)

/-- The preferred match that starts at the given place, when the forks seen have failed. -/
def Node.matchAt (n : Node) (budget : Nat) (seen : Seen) (before : Option Char) (rest : List Char)
    (pos : Nat) : Option Thread × Seen :=
  run budget seen [⟨[.run n], before, rest, pos, []⟩]

/-- A match: where it starts and ends, and the places remembered on the way. -/
structure Match where
  start : Nat
  stop : Nat
  slots : List (Nat × Nat)
  deriving DecidableEq, Repr

/-- The place of a remembered group, if it took part in the match; group zero is the match. -/
def Match.group? (m : Match) (index : Nat) : Option (Nat × Nat) :=
  if index = 0 then some (m.start, m.stop)
  else do
    let start ← m.slots.lookup (2 * index)
    let stop ← m.slots.lookup (2 * index + 1)
    return (start, stop)

/-- The match that starts first at or after the given place.  What failed from one start on is not
tried again from the next: it fails there too, as no outcome depends on where the match started. -/
def Node.findFrom (n : Node) (budget : Nat) (seen : Seen) :
    Option Char → List Char → Nat → Option Match
  | before, [], pos => (n.matchAt budget seen before [] pos).1.map fun t => ⟨pos, t.pos, t.slots⟩
  | before, c :: rest, pos =>
    match n.matchAt budget seen before (c :: rest) pos with
    | (some t, _) => some ⟨pos, t.pos, t.slots⟩
    | (none, seen) => n.findFrom budget seen (some c) rest (pos + 1)

/-- The first match in a text. -/
def Node.find? (n : Node) (text : List Char) : Option Match :=
  n.findFrom (n.budget text.length) ∅ none text 0

end AppBuild.Pattern
