/-
The written form of a pattern.

`Expr` keeps what the reader of a pattern needs to know and no more: flags stand
where they were written, classes are not yet sets, and repetitions keep their
bounds.  `Expr.depth` is the nesting that the limit is about: a group, a repetition,
a class and every sequence or choice of two or more parts add one level.
-/
namespace AppBuild.Pattern

/-- The flags that a pattern can switch. -/
inductive Flag where
  /-- Letters match without regard to case. -/
  | caseless
  /-- `^` and `$` also match at line ends. -/
  | multiLine
  /-- The dot also matches line ends. -/
  | dotAll
  /-- Greedy repetitions are lazy, and the other way round. -/
  | swapGreed
  /-- Classes hold all of Unicode, not ASCII alone. -/
  | unicode
  /-- A line ends at a carriage return too. -/
  | crlf
  /-- Blanks in the pattern are skipped, and `#` starts a comment. -/
  | verbose
  deriving DecidableEq, Repr

/-- Flags as written, each with whether it is switched on. -/
abbrev FlagList := List (Flag × Bool)

/-- A written character.  `byte` tells that it was written by two hexadecimal digits, which
without the Unicode flag denote a byte. -/
structure Lit where
  char : Char
  byte : Bool
  deriving DecidableEq, Repr

/-- The classes of one letter. -/
inductive LetterClass where
  | digit
  | space
  | word
  deriving DecidableEq, Repr

/-- The bracketed names of ASCII classes. -/
inductive AsciiClass where
  | alnum | alpha | ascii | blank | cntrl | digit | graph | lower | print | punct | space | upper
  | word | xdigit
  deriving DecidableEq, Repr

/-- The name of a property of characters, as written. -/
inductive PropertyQuery where
  | letter (c : Char)
  | name (name : String)
  | value (name value : String)
  deriving DecidableEq, Repr

/-- A class with a name. -/
inductive NamedClass where
  | letter (kind : LetterClass) (negated : Bool)
  | ascii (kind : AsciiClass) (negated : Bool)
  | property (query : PropertyQuery) (negated : Bool)
  deriving DecidableEq, Repr

/-- The places that a pattern can ask for. -/
inductive Place where
  | lineStart | lineEnd | textStart | textEnd
  | wordBoundary | notWordBoundary | wordStart | wordEnd | wordStartHalf | wordEndHalf
  deriving DecidableEq, Repr

/-- The operations between classes. -/
inductive ClassOp where
  | inter | diff | symmDiff
  deriving DecidableEq, Repr

/-- What stands between the brackets of a class. -/
inductive ClassSet where
  | empty
  | lit (l : Lit)
  | range (lo hi : Lit)
  | named (c : NamedClass)
  | bracket (negated : Bool) (set : ClassSet)
  | union (items : List ClassSet)
  | op (kind : ClassOp) (left right : ClassSet)

/-- What a group is for. -/
inductive GroupKind where
  /-- The group with this number is remembered. -/
  | capture (index : Nat)
  /-- The group holds its parts together, under these flags. -/
  | plain (flags : FlagList)

/-- The written form of a pattern. -/
inductive Expr where
  | empty
  | flags (flags : FlagList)
  | lit (l : Lit)
  | dot
  | place (p : Place)
  | named (c : NamedClass)
  | bracket (negated : Bool) (set : ClassSet)
  | repeat (min : Nat) (max : Option Nat) (greedy : Bool) (body : Expr)
  | group (kind : GroupKind) (body : Expr)
  | alt (branches : List Expr)
  | concat (parts : List Expr)

mutual

/-- How deep a class nests. -/
def ClassSet.depth : ClassSet → Nat
  | .bracket _ set => set.depth + 1
  | .union items => ClassSet.depths items + 1
  | .op _ left right => max left.depth right.depth + 1
  | _ => 0

/-- The greatest nesting among classes. -/
def ClassSet.depths : List ClassSet → Nat
  | [] => 0
  | item :: items => max item.depth (ClassSet.depths items)

end

mutual

/-- How deep a pattern nests. -/
def Expr.depth : Expr → Nat
  | .bracket _ set => set.depth + 1
  | .repeat _ _ _ body => body.depth + 1
  | .group _ body => body.depth + 1
  | .alt branches => Expr.depths branches + 1
  | .concat parts => Expr.depths parts + 1
  | _ => 0

/-- The greatest nesting among patterns. -/
def Expr.depths : List Expr → Nat
  | [] => 0
  | e :: es => max e.depth (Expr.depths es)

end

/-- A sequence of parts: a sequence of one part is that part. -/
def Expr.ofParts : List Expr → Expr
  | [] => .empty
  | [e] => e
  | es => .concat es

/-- A choice between branches: a choice of one branch is that branch. -/
def Expr.ofBranches : List Expr → Expr
  | [e] => e
  | es => .alt es

/-- A union of class items: a union of one item is that item. -/
def ClassSet.ofItems : List ClassSet → ClassSet
  | [] => .empty
  | [item] => item
  | items => .union items

end AppBuild.Pattern
