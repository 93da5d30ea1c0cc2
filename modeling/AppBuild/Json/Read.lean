/-
Reading JSON values.

Lists and objects may nest up to a limit, and the readers of what nests take the depth
that is left.  The steps from item to item (`nextItem`, `nextKey`) and the ends of
lists and objects are shared by the readers of any value and of particular ones.
-/
import AppBuild.Json.Skip

namespace AppBuild.Json

/-- One more than the number of lists and objects that may stand in each other. -/
def depthLimit : Nat := 128

/-- Goes to the next item of a list: none at its closing bracket, which is left. -/
def nextItem (first : Bool) (cs : List Char) : Except Error (Option (List Char)) :=
  match skipBlank cs with
  | [] => ended .list
  | ']' :: _ => .ok none
  | ',' :: rest =>
    if first then .ok (some (',' :: rest))
    else match skipBlank rest with
      | [] => ended .value
      | ']' :: _ => refuse .trailingComma
      | rest => .ok (some rest)
  | rest => if first then .ok (some rest) else refuse .expectedListCommaOrEnd

/-- Reads the end of a list. -/
def endList (cs : List Char) : Except Error (List Char) :=
  match skipBlank cs with
  | [] => ended .list
  | ']' :: rest => .ok rest
  | ',' :: rest =>
    match skipBlank rest with
    | ']' :: _ => refuse .trailingComma
    | _ => refuse .trailingCharacters
  | _ => refuse .trailingCharacters

/-- Reads the key of the next field of an object: none at its closing brace, which is left. -/
def nextKey (first : Bool) (cs : List Char) : Except Error (Option (String × List Char)) :=
  let key (cs : List Char) : Except Error (Option (String × List Char)) := do
    .ok (some (← readString cs))
  match skipBlank cs with
  | [] => ended .object
  | '}' :: _ => .ok none
  | ',' :: rest =>
    if first then refuse .keyMustBeString
    else match skipBlank rest with
      | [] => ended .value
      | '"' :: rest => key rest
      | '}' :: _ => refuse .trailingComma
      | _ => refuse .keyMustBeString
  | '"' :: rest => if first then key rest else refuse .expectedObjectCommaOrEnd
  | _ => if first then refuse .keyMustBeString else refuse .expectedObjectCommaOrEnd

/-- Reads the colon after a key. -/
def readColon (cs : List Char) : Except Error (List Char) :=
  match skipBlank cs with
  | [] => ended .object
  | ':' :: rest => .ok rest
  | _ => refuse .expectedColon

/-- Reads the end of an object. -/
def endObject (cs : List Char) : Except Error (List Char) :=
  match skipBlank cs with
  | [] => ended .object
  | '}' :: rest => .ok rest
  | ',' :: _ => refuse .trailingComma
  | _ => refuse .trailingCharacters

/-- Goes one level deeper. -/
def deeper {α : Type} (depth : Nat) (inside : Nat → Except Error α) : Except Error α :=
  if depth ≤ 1 then refuse .recursionLimit else inside (depth - 1)

/-- Reads a value that holds no others, after its first character; none if it is not one. -/
def readScalar? (c : Char) (rest : List Char) : Option (Except Error (Value × List Char)) :=
  let word (w : List Char) (v : Value) : Except Error (Value × List Char) := do
    .ok (v, ← readWord w rest)
  let number (negative : Bool) (cs : List Char) : Except Error (Value × List Char) := do
    let (n, rest) ← readNumber negative cs
    .ok (.number n, rest)
  match c with
  | 'n' => some (word ['u', 'l', 'l'] .null)
  | 't' => some (word ['r', 'u', 'e'] (.bool true))
  | 'f' => some (word ['a', 'l', 's', 'e'] (.bool false))
  | '"' => some do
    let (s, rest) ← readString rest
    .ok (.text s, rest)
  | '-' => some (number true rest)
  | c => if c.isDigit then some (number false (c :: rest)) else none

mutual

/-- Reads any value.  The fuel bounds the steps, the depth the nesting. -/
def readValue : Nat → Nat → List Char → Except Error (Value × List Char)
  | 0, _, _ => ended .value
  | fuel + 1, depth, cs =>
    match skipBlank cs with
    | [] => ended .value
    | '[' :: rest =>
      deeper depth fun depth => do
        let (items, rest) ← readItems fuel depth true [] rest
        .ok (.list items, ← endList rest)
    | '{' :: rest =>
      deeper depth fun depth => do
        let (fields, rest) ← readFields fuel depth true [] rest
        .ok (.object fields, ← endObject rest)
    | c :: rest => (readScalar? c rest).getD (refuse .expectedValue)

/-- Reads the items of a list up to its closing bracket.  `done` holds them, last first. -/
def readItems :
    Nat → Nat → Bool → List Value → List Char → Except Error (List Value × List Char)
  | 0, _, _, _, _ => ended .list
  | fuel + 1, depth, first, done, cs => do
    match ← nextItem first cs with
    | none => .ok (done.reverse, cs)
    | some cs =>
      let (v, rest) ← readValue fuel depth cs
      readItems fuel depth false (v :: done) rest

/-- Reads the fields of an object up to its closing brace. -/
def readFields :
    Nat → Nat → Bool → List (String × Value) → List Char →
      Except Error (List (String × Value) × List Char)
  | 0, _, _, _, _ => ended .object
  | fuel + 1, depth, first, done, cs => do
    match ← nextKey first cs with
    | none => .ok (done, cs)
    | some (key, rest) =>
      let (v, rest) ← readValue fuel depth (← readColon rest)
      readFields fuel depth false (insertField key v done) rest

end

/-- Reads any value at a depth. -/
def readAny (depth : Nat) (cs : List Char) : Except Error (Value × List Char) :=
  readValue (2 * cs.length + 2) depth cs

/-- The refusal of a value where another is expected.  A list or an object is refused as soon as it
starts, any other value once it is read. -/
def refuseKind {α : Type} (expected : String) (cs : List Char) : Except Error α :=
  match skipBlank cs with
  | [] => ended .value
  | '[' :: _ => mismatch (.kind .list expected)
  | '{' :: _ => mismatch (.kind .object expected)
  | c :: rest =>
    match readScalar? c rest with
    | none => refuse .expectedValue
    | some (.error e) => .error e
    | some (.ok (v, _)) => mismatch (.kind v.found expected)

/-- Reads a whole text with a reader that takes a depth. -/
def readAll {α : Type} (read : Nat → List Char → Except Error (α × List Char)) (text : String) :
    Except Error α := do
  let (a, rest) ← read depthLimit text.toList
  if (skipBlank rest).isEmpty then .ok a else refuse .trailingCharacters

/-- Reads a whole text as any value. -/
def Value.parse (text : String) : Except Error Value := readAll readAny text

end AppBuild.Json
