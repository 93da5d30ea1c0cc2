/-
Passing over a JSON value that nobody asked for.

The value may nest to any depth.  What is open stands on a stack; the reader either
looks for a value (`skipValue`) or stands after one (`skipAfter`), and each step uses a
character, so the length of the text bounds the steps.
-/
import AppBuild.Json.Token

namespace AppBuild.Json

/-- What is open while values are passed over. -/
inductive Open where
  | list
  | object
  deriving DecidableEq

/-- The part that a text lacks if it ends while this is open. -/
def Open.part : Open → Part
  | .list => .list
  | .object => .object

/-- Passes over the key of a field and the colon after it. -/
def skipKey (cs : List Char) : Except Error (List Char) := do
  match skipBlank cs with
  | '"' :: rest =>
    match skipBlank (← skipString rest) with
    | ':' :: rest => .ok rest
    | [] => ended .object
    | _ => refuse .expectedColon
  | [] => ended .object
  | _ => refuse .keyMustBeString

/-- Passes over a value that holds no others, after its first character; none if it is not one. -/
def skipScalar (c : Char) (rest : List Char) : Option (Except Error (List Char)) :=
  match c with
  | 'n' => some (readWord ['u', 'l', 'l'] rest)
  | 't' => some (readWord ['r', 'u', 'e'] rest)
  | 'f' => some (readWord ['a', 'l', 's', 'e'] rest)
  | '"' => some (skipString rest)
  | '-' => some (skipNumber rest)
  | c => if c.isDigit then some (skipNumber (c :: rest)) else none

mutual

/-- Passes over a value, and what is open around it. -/
def skipValue : Nat → List Open → List Char → Except Error (List Char)
  | 0, _, _ => ended .value
  | fuel + 1, stack, cs =>
    match skipBlank cs with
    | [] => ended .value
    | '[' :: rest => skipInside fuel .list stack rest
    | '{' :: rest => skipInside fuel .object stack rest
    | c :: rest =>
      match skipScalar c rest with
      | some skipped => do skipAfter fuel stack (← skipped)
      | none => refuse .expectedValue

/-- Goes on at the start of a list or an object. -/
def skipInside : Nat → Open → List Open → List Char → Except Error (List Char)
  | 0, o, _, _ => ended o.part
  | fuel + 1, o, stack, cs =>
    match o, skipBlank cs with
    | _, [] => ended o.part
    | .list, ']' :: rest => skipAfter fuel stack rest
    | .object, '}' :: rest => skipAfter fuel stack rest
    | .list, rest => skipValue fuel (.list :: stack) rest
    | .object, rest => do skipValue fuel (.object :: stack) (← skipKey rest)

/-- Goes on after a value. -/
def skipAfter : Nat → List Open → List Char → Except Error (List Char)
  | _, [], cs => .ok cs
  | 0, o :: _, _ => ended o.part
  | fuel + 1, o :: stack, cs =>
    match o, skipBlank cs with
    | _, [] => ended o.part
    | .list, ',' :: rest => skipValue fuel (.list :: stack) rest
    | .list, ']' :: rest => skipAfter fuel stack rest
    | .list, _ => refuse .expectedListCommaOrEnd
    | .object, ',' :: rest => do skipValue fuel (.object :: stack) (← skipKey rest)
    | .object, '}' :: rest => skipAfter fuel stack rest
    | .object, _ => refuse .expectedObjectCommaOrEnd

end

/-- Passes over one value. -/
def skipAny (cs : List Char) : Except Error (List Char) := skipValue (2 * cs.length + 2) [] cs

end AppBuild.Json
