/-
Reading the single parts of a pattern: escapes, numbers, and the names of flags
and groups.

Every reader takes the characters that are left and returns those it has not used.
Where the verbose flag is on, blanks and comments may stand between any two
characters of the pattern: `skipBlank` passes over them, and `advance` is used for
each step that allows them.
-/
import AppBuild.Pattern.Error
import AppBuild.Pattern.Expr
import AppBuild.Unicode.Property

namespace AppBuild.Pattern

/-- Is the character white space? -/
def isBlank (c : Char) : Bool :=
  if c.toNat < 128 then c == ' ' || (9 ≤ c.toNat && c.toNat ≤ 13)
  else Unicode.Property.whiteSpace.contains c

/-- The rest of a pattern after blanks, or inside a comment after the end of its line and blanks. -/
def dropBlank (comment : Bool) : List Char → List Char
  | [] => []
  | c :: cs =>
    if comment then dropBlank (c != '\n') cs
    else if isBlank c then dropBlank false cs
    else if c == '#' then dropBlank true cs
    else c :: cs

/-- Passes over blanks and comments where they have no meaning. -/
def skipBlank (verbose : Bool) (cs : List Char) : List Char :=
  if verbose then dropBlank false cs else cs

/-- The longest run of characters that satisfy a test, and what follows it; blanks between them are
passed over.  The number bounds the length of the run. -/
def spanUpTo (verbose : Bool) (p : Char → Bool) : Nat → List Char → List Char × List Char
  | 0, cs => ([], cs)
  | _ + 1, [] => ([], [])
  | n + 1, c :: cs =>
    if p c then
      let (run, rest) := spanUpTo verbose p n (skipBlank verbose cs)
      (c :: run, rest)
    else ([], c :: cs)

/-- The longest run of characters that satisfy a test, and what follows it. -/
def span (verbose : Bool) (p : Char → Bool) (cs : List Char) : List Char × List Char :=
  spanUpTo verbose p cs.length cs

/-- The value of a hexadecimal digit. -/
def hexDigit? (c : Char) : Option Nat :=
  if '0' ≤ c && c ≤ '9' then some (c.toNat - 48)
  else if 'a' ≤ c && c ≤ 'f' then some (c.toNat - 87)
  else if 'A' ≤ c && c ≤ 'F' then some (c.toNat - 55)
  else none

/-- The number that hexadecimal digits write. -/
def hexValue (cs : List Char) : Nat :=
  cs.foldl (fun n c => n * 16 + (hexDigit? c).getD 0) 0

/-- The number that decimal digits write. -/
def decimalValue (cs : List Char) : Nat :=
  cs.foldl (fun n c => n * 10 + (c.toNat - 48)) 0

/-- The character with a code point. -/
def charOfCode (n : Nat) : Except Error Char :=
  if h : n.isValidChar then .ok (Char.ofNatAux n h) else .error .escapeHexInvalid

/-- What one escape, or one character outside the syntax, denotes. -/
inductive Atom where
  | lit (l : Lit)
  | dot
  | place (p : Place)
  | named (c : NamedClass)

/-- The expression of an atom. -/
def Atom.toExpr : Atom → Expr
  | .lit l => .lit l
  | .dot => .dot
  | .place p => .place p
  | .named c => .named c

/-- The characters that have a meaning of their own in some place of a pattern. -/
def isMeta (c : Char) : Bool :=
  "\\.+*?()|[]\x7b\x7d^$#&-~".toList.contains c

/-- May the character be escaped although it needs no escape?  Letters and digits are kept for
escapes with a meaning. -/
def isEscapable (c : Char) : Bool :=
  c.toNat < 128 && !c.isAlphanum && c != '<' && c != '>'

/-! ### Numbers -/

/-- Reads a fixed number of hexadecimal digits, of which the first is at the head. -/
def readHexDigits (verbose : Bool) : Nat → List Char → Except Error (List Char × List Char)
  | 0, cs => .ok ([], cs)
  | _ + 1, [] => .error .escapeUnexpectedEnd
  | n + 1, c :: cs =>
    if (hexDigit? c).isNone then .error .escapeHexDigit
    else do
      let (digits, rest) ← readHexDigits verbose n (skipBlank verbose cs)
      .ok (c :: digits, rest)

/-- Reads a character written by its code point, after the letter that says how: `x`, `u` and `U`
take two, four and eight digits, or any number of them in braces. -/
def readHex (verbose : Bool) (kind : Char) (cs : List Char) : Except Error (Atom × List Char) :=
  match skipBlank verbose cs with
  | [] => .error .escapeUnexpectedEnd
  | c :: rest =>
    if c == '\x7b' then
      match span verbose (fun c => (hexDigit? c).isSome) (skipBlank verbose rest) with
      | (_, []) => .error .escapeUnexpectedEnd
      | (digits, d :: rest) =>
        if d != '\x7d' then .error .escapeHexDigit
        else if digits.isEmpty then .error .escapeHexEmpty
        else do
          let char ← charOfCode (hexValue digits)
          .ok (.lit ⟨char, false⟩, skipBlank verbose rest)
    else do
      let count := if kind == 'x' then 2 else if kind == 'u' then 4 else 8
      let (digits, rest) ← readHexDigits verbose count (c :: rest)
      let char ← charOfCode (hexValue digits)
      .ok (.lit ⟨char, kind == 'x'⟩, rest)

/-- Reads a decimal number with blanks around it.  What is left does not depend on whether the
number is good, so that a caller can look further before it complains. -/
def readDecimal (verbose : Bool) (cs : List Char) : Except Error Nat × List Char :=
  let (digits, rest) := span verbose Char.isDigit (cs.dropWhile isBlank)
  let rest := if (rest.head?.map isBlank).getD false then
      skipBlank verbose (rest.dropWhile isBlank) else rest
  if digits.isEmpty then (.error .repetitionDecimalEmpty, rest)
  else if decimalValue digits < Nat.pow 2 32 then (.ok (decimalValue digits), rest)
  else (.error .decimalInvalid, rest)

/-! ### Names -/

/-- The two parts of a text around the first place where a mark stands. -/
def splitAtMark (mark : List Char) : List Char → Option (List Char × List Char)
  | [] => none
  | c :: cs =>
    if mark.isPrefixOf (c :: cs) then some ([], (c :: cs).drop mark.length)
    else (splitAtMark mark cs).map fun (a, b) => (c :: a, b)

/-- The property that a written name asks for, and whether its complement is meant. -/
def PropertyQuery.ofName (name : List Char) : PropertyQuery × Bool :=
  let value (parts : List Char × List Char) : PropertyQuery :=
    .value (String.ofList parts.1) (String.ofList parts.2)
  match splitAtMark ['!', '='] name with
  | some parts => (value parts, true)
  | none =>
    match splitAtMark [':'] name with
    | some parts => (value parts, false)
    | none =>
      match splitAtMark ['='] name with
      | some parts => (value parts, false)
      | none => (.name (String.ofList name), false)

/-- Reads the name of a property: one letter, or any name in braces. -/
def readProperty (verbose negated : Bool) (cs : List Char) : Except Error (Atom × List Char) :=
  match skipBlank verbose cs with
  | [] => .error .escapeUnexpectedEnd
  | c :: rest =>
    if c == '\x7b' then
      match span verbose (· != '\x7d') (skipBlank verbose rest) with
      | (_, []) => .error .escapeUnexpectedEnd
      | (name, _ :: rest) =>
        let (query, flipped) := PropertyQuery.ofName name
        .ok (.named (.property query (negated != flipped)), rest)
    else if c == '\\' then .error .propertyInvalid
    else .ok (.named (.property (.letter c) negated), skipBlank verbose rest)

/-- The words that may stand in braces after a word boundary. -/
def Place.ofWord? : String → Option Place
  | "start" => some .wordStart
  | "end" => some .wordEnd
  | "start-half" => some .wordStartHalf
  | "end-half" => some .wordEndHalf
  | _ => none

/-- Reads what follows the escape for a word boundary.  Braces that do not start with a letter or a
dash are left: they are a counted repetition. -/
def readWordBoundary (verbose : Bool) (cs : List Char) : Except Error (Atom × List Char) :=
  let nameChar (c : Char) : Bool := c.isAlpha || c == '-'
  match cs with
  | c :: rest =>
    if c != '\x7b' then .ok (.place .wordBoundary, cs)
    else
      match skipBlank verbose rest with
      | [] => .error .wordBoundaryUnexpectedEnd
      | d :: rest =>
        if !nameChar d then .ok (.place .wordBoundary, cs)
        else
          match span verbose nameChar (d :: rest) with
          | (_, []) => .error .wordBoundaryUnclosed
          | (word, e :: rest) =>
            if e != '\x7d' then .error .wordBoundaryUnclosed
            else match Place.ofWord? (String.ofList word) with
              | some place => .ok (.place place, rest)
              | none => .error .wordBoundaryUnrecognized
  | [] => .ok (.place .wordBoundary, [])

/-- What an escaped letter denotes, if it is one of those that need nothing more. -/
def letterEscape? : Char → Option Atom
  | 'd' => some (.named (.letter .digit false))
  | 'D' => some (.named (.letter .digit true))
  | 's' => some (.named (.letter .space false))
  | 'S' => some (.named (.letter .space true))
  | 'w' => some (.named (.letter .word false))
  | 'W' => some (.named (.letter .word true))
  | 'a' => some (.lit ⟨'\x07', false⟩)
  | 'f' => some (.lit ⟨'\x0c', false⟩)
  | 't' => some (.lit ⟨'\t', false⟩)
  | 'n' => some (.lit ⟨'\n', false⟩)
  | 'r' => some (.lit ⟨'\r', false⟩)
  | 'v' => some (.lit ⟨'\x0b', false⟩)
  | 'A' => some (.place .textStart)
  | 'z' => some (.place .textEnd)
  | 'B' => some (.place .notWordBoundary)
  | '<' => some (.place .wordStart)
  | '>' => some (.place .wordEnd)
  | _ => none

/-- Reads an escape, after its backslash. -/
def readEscape (verbose : Bool) : List Char → Except Error (Atom × List Char)
  | [] => .error .escapeUnexpectedEnd
  | c :: cs =>
    if isMeta c || isEscapable c then .ok (.lit ⟨c, false⟩, cs)
    else if c.isDigit then .error .backreference
    else if c == 'x' || c == 'u' || c == 'U' then readHex verbose c cs
    else if c == 'p' || c == 'P' then readProperty verbose (c == 'P') cs
    else if c == 'b' then readWordBoundary verbose cs
    else match letterEscape? c with
      | some atom => .ok (atom, cs)
      | none => .error .escapeUnrecognized

/-! ### Flags and group names -/

/-- The flag with a letter. -/
def Flag.ofLetter? : Char → Option Flag
  | 'i' => some .caseless
  | 'm' => some .multiLine
  | 's' => some .dotAll
  | 'U' => some .swapGreed
  | 'u' => some .unicode
  | 'R' => some .crlf
  | 'x' => some .verbose
  | _ => none

/-- Reads flags up to the colon or bracket that ends them, which is left.  `done` holds the flags
read so far, `off` tells whether a minus sign came before, and `dangling` whether it came last. -/
def readFlags (done : FlagList) (off dangling : Bool) :
    List Char → Except Error (FlagList × List Char)
  | [] => .error .flagUnexpectedEnd
  | c :: cs =>
    if c == ':' || c == ')' then
      if dangling then .error .flagDanglingNegation else .ok (done, c :: cs)
    else if c == '-' then
      if off then .error .flagRepeatedNegation else readFlags done true true cs
    else
      match Flag.ofLetter? c with
      | none => .error .flagUnrecognized
      | some flag =>
        if done.any (·.1 == flag) then .error .flagDuplicate
        else readFlags (done ++ [(flag, !off)]) off false cs

/-- Whether flags switch the verbose flag, and to what. -/
def FlagList.verbose? (flags : FlagList) : Option Bool :=
  (flags.find? (·.1 == .verbose)).map (·.2)

/-- May the character stand in the name of a group? -/
def isNameChar (first : Bool) (c : Char) : Bool :=
  if first then c == '_' || Unicode.Property.alphabetic.contains c
  else c == '_' || c == '.' || c == '[' || c == ']' || Unicode.Property.alphanumeric.contains c

/-- Reads the name of a group up to its closing bracket, which is passed over. -/
def readGroupName (done : List Char) : List Char → Except Error (List Char × List Char)
  | [] => .error .groupNameUnexpectedEnd
  | c :: cs =>
    if c == '>' then
      if done.isEmpty then .error .groupNameEmpty else .ok (done.reverse, cs)
    else if isNameChar done.isEmpty c then readGroupName (c :: done) cs
    else .error .groupNameInvalid

end AppBuild.Pattern
