/-
Reading a pattern.

The reader goes over the pattern once, from left to right.  What is open stands on
a stack: a group with the sequence before it, or a choice with its branches so far.
`readStep` takes one part, `Reading.finish` closes what the end of the pattern closes.
-/
import AppBuild.Pattern.Expr.Class

namespace AppBuild.Pattern

/-- What is open while a pattern is read. -/
inductive Frame where
  /-- A group, with the sequence before it, last first, and the verbose flag outside. -/
  | group (outer : List Expr) (kind : GroupKind) (verbose : Bool)
  /-- A choice, with its branches so far, last first. -/
  | alt (branches : List Expr)

/-- The state of a reading. -/
structure Reading where
  /-- Is the verbose flag on? -/
  verbose : Bool := false
  /-- The number of remembered groups so far. -/
  groups : Nat := 0
  /-- The names of groups so far. -/
  names : List (List Char) := []
  /-- The sequence at hand, last part first. -/
  parts : List Expr := []
  stack : List Frame := []

namespace Reading

/-- The sequence at hand. -/
def sequence (r : Reading) : Expr := .ofParts r.parts.reverse

/-- Adds a part to the sequence at hand. -/
def push (r : Reading) (e : Expr) : Reading := { r with parts := e :: r.parts }

/-- Opens a group. -/
def openGroup (r : Reading) (kind : GroupKind) (verbose : Bool) : Reading :=
  { r with stack := .group r.parts kind r.verbose :: r.stack, parts := [], verbose }

/-- Opens a remembered group. -/
def openCapture (r : Reading) : Reading :=
  { r with groups := r.groups + 1 }.openGroup (.capture (r.groups + 1)) r.verbose

/-- Ends the branch at hand and starts the next. -/
def branch (r : Reading) : Reading :=
  match r.stack with
  | .alt branches :: stack =>
    { r with stack := .alt (r.sequence :: branches) :: stack, parts := [] }
  | stack => { r with stack := .alt [r.sequence] :: stack, parts := [] }

/-- The choice or sequence at hand, and the stack below it. -/
def body (r : Reading) : Expr × List Frame :=
  match r.stack with
  | .alt branches :: stack => (.ofBranches (r.sequence :: branches).reverse, stack)
  | stack => (r.sequence, stack)

/-- Closes the innermost group. -/
def closeGroup (r : Reading) : Except Error Reading :=
  match r.body with
  | (e, .group outer kind verbose :: stack) =>
    .ok { r with parts := .group kind e :: outer, stack, verbose }
  | _ => .error .groupUnopened

/-- The expression of a pattern that ends here. -/
def finish (r : Reading) : Except Error Expr :=
  match r.body with
  | (e, []) => .ok e
  | _ => .error .groupUnclosed

/-- Takes the last part away, to repeat it. -/
def pop (r : Reading) : Except Error (Expr × Reading) :=
  match r.parts with
  | [] => .error .repetitionMissing
  | .empty :: _ => .error .repetitionMissing
  | .flags _ :: _ => .error .repetitionMissing
  | e :: parts => .ok (e, { r with parts })

end Reading

/-- Does a group open a look-around, which no pattern may have? -/
def isLookAround (cs : List Char) : Bool :=
  [['?', '='], ['?', '!'], ['?', '<', '='], ['?', '<', '!']].any (·.isPrefixOf cs)

/-- Reads the opening of a named group after its `<`. -/
def readNamedGroup (r : Reading) (cs : List Char) : Except Error (Reading × List Char) := do
  let (name, rest) ← readGroupName [] cs
  if r.names.contains name then .error .groupNameDuplicate
  else .ok ({ r with names := name :: r.names }.openCapture, rest)

/-- Reads the opening of a group with flags, or a change of flags, after its question mark. -/
def readFlagGroup (r : Reading) (cs : List Char) : Except Error (Reading × List Char) := do
  if cs.isEmpty then .error .groupUnclosed
  else
    let (flags, rest) ← readFlags [] false false cs
    let verbose := (FlagList.verbose? flags).getD r.verbose
    match rest with
    | ')' :: rest =>
      -- An empty change of flags reads as a repetition of nothing.
      if flags.isEmpty then .error .repetitionMissing
      else .ok ({ r with verbose }.push (.flags flags), rest)
    | _ => .ok (r.openGroup (.plain flags) verbose, rest.drop 1)

/-- Reads the opening of a group after its bracket. -/
def readGroup (r : Reading) (cs : List Char) : Except Error (Reading × List Char) :=
  let cs := skipBlank r.verbose cs
  if isLookAround cs then .error .lookAround
  else match cs with
    | '?' :: 'P' :: '<' :: rest => readNamedGroup r rest
    | '?' :: '<' :: rest => readNamedGroup r rest
    | '?' :: rest => readFlagGroup r rest
    | rest => .ok (r.openCapture, rest)

/-- Repeats the last part.  A question mark right after the operator makes it lazy. -/
def readRepeat (r : Reading) (min : Nat) (max : Option Nat) (cs : List Char) :
    Except Error (Reading × List Char) := do
  let (e, r) ← r.pop
  match cs with
  | '?' :: rest => .ok (r.push (.repeat min max false e), rest)
  | rest => .ok (r.push (.repeat min max true e), rest)

/-- The bounds of a counted repetition, after its opening brace, up to the closing one. -/
def readBounds (verbose : Bool) (cs : List Char) :
    Except Error ((Nat × Option Nat) × List Char) :=
  match skipBlank verbose cs with
  | [] => .error .repetitionUnclosed
  | c :: cs =>
    match readDecimal verbose (c :: cs) with
    | (_, []) => .error .repetitionUnclosed
    | (least, ',' :: rest) =>
      match skipBlank verbose rest with
      | [] => .error .repetitionUnclosed
      | '\x7d' :: rest => do
        let least ← least
        .ok ((least, none), '\x7d' :: rest)
      | d :: rest => do
        let least ← least
        let (most, rest) := readDecimal verbose (d :: rest)
        let most ← most
        .ok ((least, some most), rest)
    | (least, d :: rest) => do
      let least ← least
      .ok ((least, some least), d :: rest)

/-- Reads a counted repetition after its opening brace. -/
def readCounted (r : Reading) (cs : List Char) : Except Error (Reading × List Char) := do
  let (e, r) ← r.pop
  let ((min, max), rest) ← readBounds r.verbose cs
  match rest with
  | '\x7d' :: rest =>
    let (greedy, rest) := match skipBlank r.verbose rest with
      | '?' :: rest => (false, rest)
      | rest => (true, rest)
    if max.all (min ≤ ·) then .ok (r.push (.repeat min max greedy e), rest)
    else .error .repetitionRangeInvalid
  | _ => .error .repetitionUnclosed

/-- Reads one part of a pattern, of which the first character is at hand. -/
def readStep (r : Reading) (c : Char) (rest : List Char) : Except Error (Reading × List Char) :=
  match c with
  | '(' => readGroup r rest
  | ')' => do .ok (← r.closeGroup, rest)
  | '|' => .ok (r.branch, rest)
  | '[' => do
    let (e, rest) ← readClass r.verbose rest
    .ok (r.push e, rest)
  | '?' => readRepeat r 0 (some 1) rest
  | '*' => readRepeat r 0 none rest
  | '+' => readRepeat r 1 none rest
  | '\x7b' => readCounted r rest
  | '\\' => do
    let (atom, rest) ← readEscape r.verbose rest
    .ok (r.push atom.toExpr, rest)
  | '.' => .ok (r.push .dot, rest)
  | '^' => .ok (r.push (.place .lineStart), rest)
  | '$' => .ok (r.push (.place .lineEnd), rest)
  | c => .ok (r.push (.lit ⟨c, false⟩), rest)

/-- Reads the parts of a pattern to its end.  Each step uses a character, so the length bounds the
steps. -/
def readParts : Nat → Reading → List Char → Except Error Expr
  | 0, r, _ => r.finish
  | fuel + 1, r, cs =>
    match skipBlank r.verbose cs with
    | [] => r.finish
    | c :: rest => do
      let (r, rest) ← readStep r c rest
      readParts fuel r rest

/-- Reads a pattern. -/
def Expr.read (text : String) : Except Error Expr := do
  let cs := text.toList
  let e ← readParts (cs.length + 1) {} cs
  if e.depth ≤ nestLimit then .ok e else .error .nestLimitExceeded

end AppBuild.Pattern
