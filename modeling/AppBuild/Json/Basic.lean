/-
JSON values, and why a JSON text is refused.

A refusal is a cause: the text is no JSON (`Syntax`), it ends too early (`Part` says in
what), or it is JSON but not what is asked for (`Mismatch`).  `Error.message` has the
wording.
-/
import AppBuild.Decimal.Shortest
import AppBuild.Text.Quoted

namespace AppBuild.Json

/-- A number: whole within 64 bits, or a double. -/
inductive Num where
  | whole (n : Int)
  | real (x : Float)

/-- A JSON value.  The keys of an object are distinct and in order. -/
inductive Value where
  | null
  | bool (b : Bool)
  | number (n : Num)
  | text (s : String)
  | list (items : List Value)
  | object (fields : List (String × Value))

/-- A kind of value as it is found where another is expected. -/
inductive Found where
  | null
  | bool (b : Bool)
  | number (n : Num)
  | text (s : String)
  | list
  | object

/-- The kind of a value. -/
def Value.found : Value → Found
  | .null => .null
  | .bool b => .bool b
  | .number n => .number n
  | .text s => .text s
  | .list _ => .list
  | .object _ => .object

/-- What a text can end in too early. -/
inductive Part where
  | list
  | object
  | string
  | value
  deriving DecidableEq, Repr

/-- How a text can fail to be JSON. -/
inductive Syntax where
  | expectedColon
  | expectedListCommaOrEnd
  | expectedObjectCommaOrEnd
  | expectedIdent
  | expectedValue
  | invalidEscape
  | invalidNumber
  | numberOutOfRange
  | controlCharacter
  | keyMustBeString
  | loneSurrogate
  | trailingComma
  | trailingCharacters
  | unexpectedEndOfHexEscape
  | recursionLimit
  deriving DecidableEq, Repr

/-- How a value can fail to be what is asked for. -/
inductive Mismatch where
  | kind (found : Found) (expected : String)
  | shape (found : Found) (expected : String)
  | length (found : Nat) (expected : String)
  | missingField (name : String)
  | duplicateField (name : String)
  | unknownVariant (name : String) (known : List String)

/-- Why a JSON text is refused. -/
inductive Error where
  | syntax_ (cause : Syntax)
  | ended (part : Part)
  | data (cause : Mismatch)

/-- The kinds of refusal. -/
inductive Category where
  | wellFormedness
  | end_
  | data
  deriving DecidableEq, Repr

/-- The kind of a refusal. -/
def Error.category : Error → Category
  | .syntax_ _ => .wellFormedness
  | .ended _ => .end_
  | .data _ => .data

/-- How a found value is described. -/
def Found.describe : Found → String
  | .null => "null"
  | .bool b => "boolean `" ++ (if b then "true" else "false") ++ "`"
  | .number (.whole n) => "integer `" ++ toString n ++ "`"
  | .number (.real x) => "floating point `" ++ Decimal.ofFloat x ++ "`"
  | .text s => "string " ++ Quoted.encode s
  | .list => "sequence"
  | .object => "map"

/-- The wording of an early end. -/
def Part.message : Part → String
  | .list => "EOF while parsing a list"
  | .object => "EOF while parsing an object"
  | .string => "EOF while parsing a string"
  | .value => "EOF while parsing a value"

/-- The wording of a failure to be JSON. -/
def Syntax.message : Syntax → String
  | .expectedColon => "expected `:`"
  | .expectedListCommaOrEnd => "expected `,` or `]`"
  | .expectedObjectCommaOrEnd => "expected `,` or `\x7d`"
  | .expectedIdent => "expected ident"
  | .expectedValue => "expected value"
  | .invalidEscape => "invalid escape"
  | .invalidNumber => "invalid number"
  | .numberOutOfRange => "number out of range"
  | .controlCharacter =>
    "control character (\\u0000-\\u001F) found while parsing a string"
  | .keyMustBeString => "key must be a string"
  | .loneSurrogate => "lone leading surrogate in hex escape"
  | .trailingComma => "trailing comma"
  | .trailingCharacters => "trailing characters"
  | .unexpectedEndOfHexEscape => "unexpected end of hex escape"
  | .recursionLimit => "recursion limit exceeded"

/-- A choice of names in quotes: the last one follows an "or". -/
def oneOf : List String → String
  | [] => "there are no variants"
  | [a] => "`" ++ a ++ "`"
  | [a, b] => "`" ++ a ++ "` or `" ++ b ++ "`"
  | names => "one of " ++ ", ".intercalate (names.map fun n => "`" ++ n ++ "`")

/-- The wording of a mismatch. -/
def Mismatch.message : Mismatch → String
  | .kind found expected => "invalid type: " ++ found.describe ++ ", expected " ++ expected
  | .shape found expected => "invalid value: " ++ found.describe ++ ", expected " ++ expected
  | .length found expected => "invalid length " ++ toString found ++ ", expected " ++ expected
  | .missingField name => "missing field `" ++ name ++ "`"
  | .duplicateField name => "duplicate field `" ++ name ++ "`"
  | .unknownVariant name known => "unknown variant `" ++ name ++ "`, expected " ++ oneOf known

/-- The wording of a refusal. -/
def Error.message : Error → String
  | .syntax_ cause => cause.message
  | .ended part => part.message
  | .data cause => cause.message

/-- Puts a field into an object, in the place of its key; a field with the same key is replaced. -/
def insertField (key : String) (value : Value) : List (String × Value) → List (String × Value)
  | [] => [(key, value)]
  | (k, v) :: fields =>
    if key < k then (key, value) :: (k, v) :: fields
    else if key = k then (key, value) :: fields
    else (k, v) :: insertField key value fields

/-- The value of a field. -/
def Value.field? (v : Value) (key : String) : Option Value :=
  match v with
  | .object fields => fields.lookup key
  | _ => none

end AppBuild.Json
