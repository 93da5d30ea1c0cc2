/-
Reading the parts of a JSON text that hold no other value: blanks, words, strings and
numbers.

A reader takes the characters that are left and returns those it has not used.
Digits that do not fit into 64 bits make a number a double; its value is then the
digits that fit, times a power of ten.
-/
import AppBuild.Json.Basic

namespace AppBuild.Json

/-- Refuses a text that is not JSON. -/
def refuse {α : Type} (cause : Syntax) : Except Error α := .error (.syntax_ cause)

/-- Refuses a text that ends in a part. -/
def ended {α : Type} (part : Part) : Except Error α := .error (.ended part)

/-- Refuses a value that is not what is asked for. -/
def mismatch {α : Type} (cause : Mismatch) : Except Error α := .error (.data cause)

/-- May the character stand between values? -/
def isBlank (c : Char) : Bool := c == ' ' || c == '\n' || c == '\t' || c == '\r'

/-- Passes over blanks. -/
def skipBlank (cs : List Char) : List Char := cs.dropWhile isBlank

/-- Reads the given letters, the rest of a word. -/
def readWord : List Char → List Char → Except Error (List Char)
  | [], cs => .ok cs
  | _ :: _, [] => ended .value
  | w :: ws, c :: cs => if w = c then readWord ws cs else refuse .expectedIdent

/-! ### Strings -/

/-- The value of a hexadecimal digit. -/
def hexDigit? (c : Char) : Option Nat :=
  if '0' ≤ c && c ≤ '9' then some (c.toNat - 48)
  else if 'a' ≤ c && c ≤ 'f' then some (c.toNat - 87)
  else if 'A' ≤ c && c ≤ 'F' then some (c.toNat - 55)
  else none

/-- Reads four hexadecimal digits.  A text with fewer than four bytes left has ended. -/
def readHex4 (cs : List Char) : Except Error (Nat × List Char) :=
  if (cs.take 4).foldl (fun n c => n + c.utf8Size) 0 < 4 then ended .string
  else match cs with
    | a :: b :: c :: d :: rest =>
      match [a, b, c, d].mapM hexDigit? with
      | some digits => .ok (digits.foldl (fun n d => n * 16 + d) 0, rest)
      | none => refuse .invalidEscape
    | _ => refuse .invalidEscape

/-- Reads what follows `\u`.  A leading surrogate needs a trailing one in a second escape. -/
def readUnicode (cs : List Char) : Except Error (Char × List Char) := do
  let (n, rest) ← readHex4 cs
  if 0xDC00 ≤ n ∧ n ≤ 0xDFFF then refuse .loneSurrogate
  else if n < 0xD800 ∨ 0xDBFF < n then .ok (Char.ofNat n, rest)
  else match rest with
    | [] => ended .string
    | '\\' :: [] => ended .string
    | '\\' :: 'u' :: rest => do
      let (m, rest) ← readHex4 rest
      if m < 0xDC00 ∨ 0xDFFF < m then refuse .loneSurrogate
      else .ok (Char.ofNat (0x10000 + (n - 0xD800) * 1024 + (m - 0xDC00)), rest)
    | _ => refuse .unexpectedEndOfHexEscape

/-- The character of an escape by one letter. -/
def letterEscape? : Char → Option Char
  | '"' => some '"'
  | '\\' => some '\\'
  | '/' => some '/'
  | 'b' => some '\x08'
  | 'f' => some '\x0c'
  | 'n' => some '\n'
  | 'r' => some '\r'
  | 't' => some '\t'
  | _ => none

/-- Reads an escape after its backslash. -/
def readEscape : List Char → Except Error (Char × List Char)
  | [] => ended .string
  | 'u' :: rest => readUnicode rest
  | c :: rest =>
    match letterEscape? c with
    | some c => .ok (c, rest)
    | none => refuse .invalidEscape

/-- Reads the characters of a string up to its closing quote.  `done` holds them, last first. -/
def readChars : Nat → List Char → List Char → Except Error (String × List Char)
  | 0, _, _ => ended .string
  | _ + 1, _, [] => ended .string
  | fuel + 1, done, c :: cs =>
    if c = '"' then .ok (String.ofList done.reverse, cs)
    else if c = '\\' then do
      let (e, rest) ← readEscape cs
      readChars fuel (e :: done) rest
    else if c.toNat < 32 then refuse .controlCharacter
    else readChars fuel (c :: done) cs

/-- Reads a string after its opening quote. -/
def readString (cs : List Char) : Except Error (String × List Char) :=
  readChars (cs.length + 1) [] cs

/-- Passes over a string after its opening quote; surrogates are not looked at. -/
def skipChars : Nat → List Char → Except Error (List Char)
  | 0, _ => ended .string
  | _ + 1, [] => ended .string
  | fuel + 1, c :: cs =>
    if c = '"' then .ok cs
    else if c = '\\' then
      match cs with
      | [] => ended .string
      | 'u' :: rest => do
        let (_, rest) ← readHex4 rest
        skipChars fuel rest
      | e :: rest =>
        if (letterEscape? e).isSome then skipChars fuel rest else refuse .invalidEscape
    else if c.toNat < 32 then refuse .controlCharacter
    else skipChars fuel cs

/-- Passes over a string after its opening quote. -/
def skipString (cs : List Char) : Except Error (List Char) := skipChars (cs.length + 1) cs

/-! ### Numbers -/

/-- The digits of a number so far: those that fit into 64 bits, and how often the point has to move
to the right. -/
structure Digits where
  significand : Nat
  exponent : Int

/-- Does one more digit fit into 64 bits? -/
def Digits.fits (d : Digits) (digit : Nat) : Bool := d.significand * 10 + digit < Nat.pow 2 64

/-- The value of a decimal digit. -/
def digitValue (c : Char) : Nat := c.toNat - 48

/-- Adds the digits before the point.  After the first that does not fit they only move the
point. -/
def addWhole (d : Digits) (full : Bool) : List Char → Digits × Bool
  | [] => (d, full)
  | c :: cs =>
    if full || !d.fits (digitValue c) then
      addWhole { d with exponent := d.exponent + 1 } true cs
    else addWhole { d with significand := d.significand * 10 + digitValue c } false cs

/-- Adds the digits after the point, up to the first that does not fit. -/
def addFraction (d : Digits) : List Char → Digits
  | [] => d
  | c :: cs =>
    if d.fits (digitValue c) then
      addFraction ⟨d.significand * 10 + digitValue c, d.exponent - 1⟩ cs
    else d

/-- The double that is a significand times a power of ten, in steps of at most `10 ^ 308`. -/
def scale : Nat → Float → Int → Except Error Float
  | 0, x, _ => .ok x
  | fuel + 1, x, e =>
    if e.natAbs ≤ 308 then
      let power := Float.ofScientific 1 false e.natAbs
      if 0 ≤ e then
        let y := x * power
        if y.isInf then refuse .numberOutOfRange else .ok y
      else .ok (x / power)
    else if x == 0 then .ok x
    else if 0 ≤ e then refuse .numberOutOfRange
    else scale fuel (x / Float.ofScientific 1 false 308) (e + 308)

/-- The double of digits with a sign. -/
def Digits.toFloat (d : Digits) (negative : Bool) : Except Error Float := do
  -- After three steps any significand of 64 bits is zero.
  let x ← scale 4 (Float.ofNat d.significand) d.exponent
  .ok (if negative then -x else x)

/-- Reads an exponent after its letter, and the double that it ends. -/
def readExponent (d : Digits) (negative : Bool) (cs : List Char) :
    Except Error (Num × List Char) := do
  let (down, cs) := match cs with
    | '+' :: rest => (false, rest)
    | '-' :: rest => (true, rest)
    | rest => (false, rest)
  match cs with
  | [] => ended .value
  | c :: _ =>
    if !c.isDigit then refuse .invalidNumber
    else
      let digits := cs.takeWhile Char.isDigit
      let rest := cs.dropWhile Char.isDigit
      let e := digits.foldl (fun n c => n * 10 + digitValue c) 0
      if Nat.pow 2 31 ≤ e then
        -- An exponent of more than 31 bits decides alone.
        if d.significand ≠ 0 && !down then refuse .numberOutOfRange
        else .ok (.real (if negative then -0.0 else 0.0), rest)
      else do
        let e : Int := if down then d.exponent - e else d.exponent + e
        .ok (.real (← { d with exponent := e }.toFloat negative), rest)

/-- Reads what follows the point of a number. -/
def readFraction (d : Digits) (negative : Bool) (cs : List Char) :
    Except Error (Num × List Char) := do
  let digits := cs.takeWhile Char.isDigit
  let rest := cs.dropWhile Char.isDigit
  if digits.isEmpty then
    if rest.isEmpty then ended .value else refuse .invalidNumber
  else
    let d := addFraction d digits
    match rest with
    | c :: after =>
      if c == 'e' || c == 'E' then readExponent d negative after
      else .ok (.real (← d.toFloat negative), rest)
    | [] => .ok (.real (← d.toFloat negative), [])

/-- The number of digits without a point and an exponent. -/
def wholeNumber (d : Digits) (full negative : Bool) : Except Error Num := do
  if full then .ok (.real (← d.toFloat negative))
  else if !negative then .ok (.whole d.significand)
  else if d.significand = 0 || Nat.pow 2 63 < d.significand then
    .ok (.real (-(Float.ofNat d.significand)))
  else .ok (.whole (-(d.significand : Int)))

/-- Reads a number after its sign. -/
def readNumber (negative : Bool) (cs : List Char) : Except Error (Num × List Char) := do
  match cs with
  | [] => ended .value
  | c :: after =>
    if !c.isDigit then refuse .invalidNumber
    else
      let digits := if c == '0' then ['0'] else cs.takeWhile Char.isDigit
      let rest := if c == '0' then after else cs.dropWhile Char.isDigit
      if c == '0' && (rest.head?.map Char.isDigit).getD false then refuse .invalidNumber
      else
        let (d, full) := addWhole ⟨0, 0⟩ false digits
        match rest with
        | p :: after =>
          if p == '.' then readFraction d negative after
          else if p == 'e' || p == 'E' then readExponent d negative after
          else .ok (← wholeNumber d full negative, rest)
        | [] => .ok (← wholeNumber d full negative, [])

/-- Passes over an exponent after its letter. -/
def skipExponent (cs : List Char) : Except Error (List Char) :=
  let cs := match cs with
    | '+' :: rest => rest
    | '-' :: rest => rest
    | rest => rest
  if (cs.head?.map Char.isDigit).getD false then .ok (cs.dropWhile Char.isDigit)
  else refuse .invalidNumber

/-- Passes over a number after its sign. -/
def skipNumber (cs : List Char) : Except Error (List Char) :=
  match cs with
  | [] => refuse .invalidNumber
  | c :: after =>
    if !c.isDigit then refuse .invalidNumber
    else
      let rest := if c == '0' then after else cs.dropWhile Char.isDigit
      if c == '0' && (rest.head?.map Char.isDigit).getD false then refuse .invalidNumber
      else match rest with
        | '.' :: after =>
          let rest := after.dropWhile Char.isDigit
          if (after.head?.map Char.isDigit).getD false then
            match rest with
            | 'e' :: rest => skipExponent rest
            | 'E' :: rest => skipExponent rest
            | rest => .ok rest
          else refuse .invalidNumber
        | 'e' :: rest => skipExponent rest
        | 'E' :: rest => skipExponent rest
        | rest => .ok rest

end AppBuild.Json
