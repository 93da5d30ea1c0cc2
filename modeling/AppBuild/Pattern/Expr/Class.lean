/-
Reading what stands between the brackets of a class.

Classes nest and have operators, so the reader keeps a stack: an opened class with
what was read before it, or an operator with its left side.  All operators bind
alike, to the left.
-/
import AppBuild.Pattern.Expr.Atom

namespace AppBuild.Pattern

/-- The name of an ASCII class. -/
def AsciiClass.ofName? : String → Option AsciiClass
  | "alnum" => some .alnum
  | "alpha" => some .alpha
  | "ascii" => some .ascii
  | "blank" => some .blank
  | "cntrl" => some .cntrl
  | "digit" => some .digit
  | "graph" => some .graph
  | "lower" => some .lower
  | "print" => some .print
  | "punct" => some .punct
  | "space" => some .space
  | "upper" => some .upper
  | "word" => some .word
  | "xdigit" => some .xdigit
  | _ => none

/-- The item of a class that an atom denotes, if it may stand in one. -/
def Atom.toClassItem : Atom → Except Error ClassSet
  | .lit l => .ok (.lit l)
  | .named c => .ok (.named c)
  | _ => .error .classEscapeInvalid

/-- The end of a range that an atom denotes. -/
def Atom.toBoundary : Atom → Except Error Lit
  | .lit l => .ok l
  | _ => .error .classRangeBoundary

/-- Reads one end of a range, or a single item. -/
def readClassAtom (verbose : Bool) : List Char → Except Error (Atom × List Char)
  | [] => .error .classUnclosed
  | c :: cs => if c == '\\' then readEscape verbose cs else .ok (.lit ⟨c, false⟩, cs)

/-- The character that comes next, past blanks and the mark of a comment. -/
def peekPastBlank (comment : Bool) : List Char → Option Char
  | [] => none
  | c :: cs =>
    if isBlank c then peekPastBlank comment cs
    else if !comment && c == '#' then peekPastBlank true cs
    else some c

/-- The character after the one at hand.  Where only blanks follow it is the first of those. -/
def peekNext (verbose : Bool) (cs : List Char) : Option Char :=
  if verbose then (peekPastBlank false cs).or cs.head? else cs.head?

/-- Reads an item of a class or a range between two. -/
def readClassRange (verbose : Bool) (cs : List Char) : Except Error (ClassSet × List Char) := do
  let (first, rest) ← readClassAtom verbose cs
  match skipBlank verbose rest with
  | [] => .error .classUnclosed
  | c :: rest =>
    let next := peekNext verbose rest
    if c != '-' || next == some ']' || next == some '-' then
      .ok (← first.toClassItem, c :: rest)
    else
      match skipBlank verbose rest with
      | [] => .error .classUnclosed
      | d :: rest =>
        let (second, rest) ← readClassAtom verbose (d :: rest)
        let lo ← first.toBoundary
        let hi ← second.toBoundary
        if lo.char ≤ hi.char then .ok (.range lo hi, rest) else .error .classRangeInvalid

/-- An ASCII class by name, after its opening bracket; all else is left to be read as a class. -/
def readAsciiClass? : List Char → Option (ClassSet × List Char)
  | ':' :: cs =>
    let (negated, cs) := match cs with
      | '^' :: rest => (true, rest)
      | rest => (false, rest)
    let name := cs.takeWhile (· != ':')
    match cs.drop name.length with
    | ':' :: ']' :: rest =>
      (AsciiClass.ofName? (String.ofList name)).map fun kind => (.named (.ascii kind negated), rest)
    | _ => none
  | _ => none

/-- Reads the opening of a class after its bracket: whether it is negated, and the characters that
are literal only here, which are dashes and a closing bracket.  The items come last first. -/
def readClassOpen (verbose : Bool) (cs : List Char) :
    Except Error (Bool × List ClassSet × List Char) := do
  let (negated, cs) := match skipBlank verbose cs with
    | '^' :: rest => (true, skipBlank verbose rest)
    | rest => (false, rest)
  let (dashes, cs) := span verbose (· == '-') cs
  let items := dashes.map fun c => ClassSet.lit ⟨c, false⟩
  let (items, cs) := match items, cs with
    | [], ']' :: rest => ([ClassSet.lit ⟨']', false⟩], skipBlank verbose rest)
    | items, rest => (items, rest)
  if cs.isEmpty then .error .classUnclosed else .ok (negated, items, cs)

/-- What is open while a class is read. -/
inductive ClassFrame where
  /-- A class, with the items before it, last first. -/
  | opened (outer : List ClassSet) (negated : Bool)
  /-- An operator with its left side. -/
  | op (kind : ClassOp) (left : ClassSet)

/-- Closes the operator that waits for its right side, if one does. -/
def closeOp (right : ClassSet) : List ClassFrame → ClassSet × List ClassFrame
  | .op kind left :: stack => (.op kind left right, stack)
  | stack => (right, stack)

/-- The operator at the head of the characters. -/
def classOp? : List Char → Option (ClassOp × List Char)
  | '&' :: '&' :: rest => some (.inter, rest)
  | '-' :: '-' :: rest => some (.diff, rest)
  | '~' :: '~' :: rest => some (.symmDiff, rest)
  | _ => none

/-- Reads the inside of a class up to the bracket that closes the outermost one.  The items read so
far come last first. -/
def readClassItems (verbose : Bool) :
    Nat → List ClassFrame → List ClassSet → List Char → Except Error (Expr × List Char)
  | 0, _, _, _ => .error .classUnclosed
  | fuel + 1, stack, items, cs =>
    match skipBlank verbose cs with
    | [] => .error .classUnclosed
    | '[' :: rest =>
      match readAsciiClass? rest with
      | some (item, rest) => readClassItems verbose fuel stack (item :: items) rest
      | none => do
        let (negated, inner, rest) ← readClassOpen verbose rest
        readClassItems verbose fuel (.opened items negated :: stack) inner.reverse rest
    | ']' :: rest =>
      match closeOp (.ofItems items.reverse) stack with
      | (set, [.opened _ negated]) => .ok (.bracket negated set, rest)
      | (set, .opened outer negated :: stack) =>
        readClassItems verbose fuel stack (.bracket negated set :: outer) rest
      | _ => .error .classUnclosed
    | c :: rest =>
      match classOp? (c :: rest) with
      | some (kind, rest) =>
        let (left, stack) := closeOp (.ofItems items.reverse) stack
        readClassItems verbose fuel (.op kind left :: stack) [] rest
      | none => do
        let (item, rest) ← readClassRange verbose (c :: rest)
        readClassItems verbose fuel stack (item :: items) rest

/-- Reads a class after its opening bracket. -/
def readClass (verbose : Bool) (cs : List Char) : Except Error (Expr × List Char) := do
  let (negated, items, rest) ← readClassOpen verbose cs
  readClassItems verbose (rest.length + 1) [.opened [] negated] items.reverse rest

end AppBuild.Pattern
