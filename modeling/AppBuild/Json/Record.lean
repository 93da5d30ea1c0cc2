/-
Reading JSON values of an expected kind.

A `Kind` knows how to read its values from a text and how to take them from a value
that was read before; the two refuse alike but for a few words.  A record may be
written as an object, whose fields stand in any order and among fields that nobody
asked for, or as a list of its fields in their order, which may end early where the
fields left have a default.  What has been read of a record is a draft, which
`Record.finish` turns into the record.
-/
import AppBuild.Json.Read
import AppBuild.OrderedMap

namespace AppBuild.Json

/-- A reader of values of one kind, at a depth. -/
abbrev Reader (α : Type) := Nat → List Char → Except Error (α × List Char)

/-! ### Single values -/

/-- Reads a truth value. -/
def readBool : Reader Bool := fun _ cs =>
  match skipBlank cs with
  | [] => ended .value
  | 't' :: rest => do .ok (true, ← readWord ['r', 'u', 'e'] rest)
  | 'f' :: rest => do .ok (false, ← readWord ['a', 'l', 's', 'e'] rest)
  | cs => refuseKind "a boolean" cs

/-- Reads a string; `expected` says what for. -/
def readText (expected : String) : Reader String := fun _ cs =>
  match skipBlank cs with
  | [] => ended .value
  | '"' :: rest => readString rest
  | cs => refuseKind expected cs

/-- Reads null as nothing. -/
def readOption {α : Type} (read : Reader α) : Reader (Option α) := fun depth cs =>
  match skipBlank cs with
  | 'n' :: rest => do .ok (none, ← readWord ['u', 'l', 'l'] rest)
  | cs => do
    let (a, rest) ← read depth cs
    .ok (some a, rest)

/-- Reads the entries of an object up to its closing brace. -/
def readEntries {α : Type} (read : Reader α) (depth : Nat) :
    Nat → Bool → OrderedMap String α → List Char → Except Error (OrderedMap String α × List Char)
  | 0, _, _, _ => ended .object
  | fuel + 1, first, done, cs => do
    match ← nextKey first cs with
    | none => .ok (done, cs)
    | some (key, rest) =>
      let (a, rest) ← read depth (← readColon rest)
      readEntries read depth fuel false (done.insert key a) rest

/-- Reads an object as a map.  A repeated key keeps its first place and has its last value. -/
def readMap {α : Type} (read : Reader α) : Reader (OrderedMap String α) := fun depth cs =>
  match skipBlank cs with
  | [] => ended .value
  | '{' :: rest =>
    deeper depth fun depth => do
      let (m, rest) ← readEntries read depth (rest.length + 1) true .empty rest
      .ok (m, ← endObject rest)
  | cs => refuseKind "a map" cs

/-- The value with a name. -/
def findVariant {α : Type} (variants : List (String × α)) (name : String) : Except Error α :=
  match variants.lookup name with
  | some a => .ok a
  | none => mismatch (.unknownVariant name (variants.map (·.1)))

/-- Reads one of several named values: its name, or an object with null under its name. -/
def readVariant {α : Type} (variants : List (String × α)) : Reader α := fun depth cs =>
  match skipBlank cs with
  | [] => ended .value
  | '"' :: rest => do
    let (name, rest) ← readString rest
    .ok (← findVariant variants name, rest)
  | '{' :: rest =>
    deeper depth fun _ => do
      match ← nextKey true rest with
      | none => refuse .expectedValue
      | some (name, rest) =>
        let a ← findVariant variants name
        let rest ← match skipBlank (← readColon rest) with
          | [] => ended .value
          | 'n' :: rest => readWord ['u', 'l', 'l'] rest
          | cs => refuseKind "unit" cs
        match skipBlank rest with
        | [] => ended .object
        | '}' :: rest => .ok (a, rest)
        | _ => refuse .expectedValue
  | _ => refuse .expectedValue

/-! ### Values already read -/

/-- The string that a value is. -/
def textOfValue (expected : String) : Value → Except Error String
  | .text s => .ok s
  | v => mismatch (.kind v.found expected)

/-- Null as nothing, and else what the value is. -/
def optionOfValue {α : Type} (f : Value → Except Error α) : Value → Except Error (Option α)
  | .null => .ok none
  | v => do .ok (some (← f v))

/-- The named value that a value denotes. -/
def variantOfValue {α : Type} (variants : List (String × α)) : Value → Except Error α
  | .text name => findVariant variants name
  | .object [(name, content)] => do
    let a ← findVariant variants name
    match content with
    | .null => .ok a
    | v => mismatch (.kind v.found "unit")
  | .object _ => mismatch (.shape .object "map with a single key")
  | v => mismatch (.kind v.found "string or map")

/-- The map that a value is. -/
def mapOfValue {α : Type} (f : Value → Except Error α) :
    Value → Except Error (OrderedMap String α)
  | .object fields => do
    .ok (.ofList (← fields.mapM fun (key, v) => do .ok (key, ← f v)))
  | v => mismatch (.kind v.found "a map")

/-! ### Kinds -/

/-- A kind of values. -/
structure Kind (α : Type) where
  read : Reader α
  ofValue : Value → Except Error α

namespace Kind

/-- A truth value. -/
def bool : Kind Bool where
  read := readBool
  ofValue
    | .bool b => .ok b
    | v => mismatch (.kind v.found "a boolean")

/-- A string, expected as what the text says. -/
def text (expected : String) : Kind String := ⟨readText expected, textOfValue expected⟩

/-- Any value. -/
def any : Kind Value := ⟨readAny, .ok⟩

/-- A value or null. -/
def option {α : Type} (k : Kind α) : Kind (Option α) :=
  ⟨readOption k.read, optionOfValue k.ofValue⟩

/-- An object with values of one kind. -/
def map {α : Type} (k : Kind α) : Kind (OrderedMap String α) :=
  ⟨readMap k.read, mapOfValue k.ofValue⟩

/-- One of several named values. -/
def variant {α : Type} (variants : List (String × α)) : Kind α :=
  ⟨readVariant variants, variantOfValue variants⟩

end Kind

/-! ### Records -/

/-- A field of a record with drafts of type `δ`. -/
structure Field (δ : Type) where
  name : String
  required : Bool
  /-- Has the field been read? -/
  isSet : δ → Bool
  /-- The kind of the field; its values are put into a draft. -/
  kind : Kind (δ → δ)

/-- A field from how it is kept in a draft, and its kind. -/
def Field.kept {δ β : Type} (name : String) (required : Bool) (get : δ → Option β)
    (put : β → δ → δ) (kind : Kind β) : Field δ where
  name
  required
  isSet d := (get d).isSome
  kind := {
    read := fun depth cs => do
      let (b, rest) ← kind.read depth cs
      .ok (put b, rest)
    ofValue := fun v => do .ok (put (← kind.ofValue v)) }

/-- A kind of record: its name and fields, the empty draft, and the record of a full draft. -/
structure Record (δ α : Type) where
  name : String
  fields : List (Field δ)
  start : δ
  build : δ → Option α

namespace Record

variable {δ α : Type}

/-- What a value that is no record was expected to be. -/
def expected (r : Record δ α) : String := "struct " ++ r.name

/-- What a list that is too short was expected to be. -/
def expectedLength (r : Record δ α) : String :=
  let n := r.fields.length
  r.expected ++ " with " ++ toString n ++ (if n = 1 then " element" else " elements")

/-- The record of a draft; the first missing field is complained about. -/
def finish (r : Record δ α) (d : δ) : Except Error α :=
  match r.fields.find? fun f => f.required && !f.isSet d with
  | some f => mismatch (.missingField f.name)
  | none =>
    match r.build d with
    | some a => .ok a
    | none => mismatch (.missingField "")

/-- Reads the fields of a record written as an object, up to its closing brace. -/
def readNamed (r : Record δ α) (depth : Nat) :
    Nat → Bool → δ → List Char → Except Error (δ × List Char)
  | 0, _, _, _ => ended .object
  | fuel + 1, first, d, cs => do
    match ← nextKey first cs with
    | none => .ok (d, cs)
    | some (key, rest) =>
      match r.fields.find? (·.name == key) with
      | none =>
        let rest ← skipAny (← readColon rest)
        readNamed r depth fuel false d rest
      | some f =>
        if f.isSet d then mismatch (.duplicateField key)
        else
          let (put, rest) ← f.kind.read depth (← readColon rest)
          readNamed r depth fuel false (put d) rest

/-- Reads the fields of a record written as a list.  `index` counts those before. -/
def readListed (r : Record δ α) (depth : Nat) :
    Nat → List (Field δ) → δ → List Char → Except Error (δ × List Char)
  | _, [], d, cs => .ok (d, cs)
  | index, f :: fields, d, cs => do
    match ← nextItem (index == 0) cs with
    | none =>
      if f.required then mismatch (.length index r.expectedLength)
      else readListed r depth (index + 1) fields d cs
    | some cs =>
      let (put, rest) ← f.kind.read depth cs
      readListed r depth (index + 1) fields (put d) rest

/-- Reads a record. -/
def read (r : Record δ α) : Reader α := fun depth cs =>
  match skipBlank cs with
  | [] => ended .value
  | '[' :: rest =>
    deeper depth fun depth => do
      let (d, rest) ← r.readListed depth 0 r.fields r.start rest
      let a ← r.finish d
      .ok (a, ← endList rest)
  | '{' :: rest =>
    deeper depth fun depth => do
      let (d, rest) ← r.readNamed depth (rest.length + 1) true r.start rest
      let a ← r.finish d
      .ok (a, ← endObject rest)
  | cs => refuseKind r.expected cs

/-- Reads a whole text as a record. -/
def parse (r : Record δ α) (text : String) : Except Error α := readAll r.read text

/-- The draft of named values. -/
def draftOfFields (r : Record δ α) : List (String × Value) → δ → Except Error δ
  | [], d => .ok d
  | (key, v) :: rest, d => do
    match r.fields.find? (·.name == key) with
    | none => r.draftOfFields rest d
    | some f =>
      let put ← f.kind.ofValue v
      r.draftOfFields rest (put d)

/-- The draft of listed values. -/
def draftOfItems (r : Record δ α) : Nat → List (Field δ) → List Value → δ → Except Error δ
  | _, [], _, d => .ok d
  | index, f :: fields, [], d =>
    if f.required then mismatch (.length index r.expectedLength)
    else r.draftOfItems (index + 1) fields [] d
  | index, f :: fields, v :: vs, d => do
    let put ← f.kind.ofValue v
    r.draftOfItems (index + 1) fields vs (put d)

/-- The record that a value already read denotes. -/
def ofValue (r : Record δ α) (v : Value) : Except Error α := do
  match v with
  | .object fields => r.finish (← r.draftOfFields fields r.start)
  | .list items =>
    let a ← r.finish (← r.draftOfItems 0 r.fields items r.start)
    if r.fields.length < items.length then
      mismatch (.length items.length "fewer elements in array")
    else .ok a
  | v => mismatch (.kind v.found r.expected)

/-- The kind of a record. -/
def kind (r : Record δ α) : Kind α := ⟨r.read, r.ofValue⟩

end Record

end AppBuild.Json
