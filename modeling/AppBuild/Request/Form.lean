/-
Form encoding: names and values as the query of an address carries them.

Pairs stand between ampersands, a name before the first equals sign of its pair.  A
plus sign is a blank, and a percent sign with two hexadecimal digits is a byte.
-/
import AppBuild.Text.Search
import AppBuild.Text.Utf8

namespace AppBuild.Form

/-- The value of a hexadecimal digit. -/
def hexDigit? (b : UInt8) : Option UInt8 :=
  if 48 ≤ b && b ≤ 57 then some (b - 48)
  else if 97 ≤ b && b ≤ 102 then some (b - 87)
  else if 65 ≤ b && b ≤ 70 then some (b - 55)
  else none

/-- The byte that two digits after a percent sign write. -/
def escaped? (b c : UInt8) : Option UInt8 := do
  return (← hexDigit? b) * 16 + (← hexDigit? c)

/-- The bytes that a name or value stands for.  A percent sign without two digits stands for
itself. -/
def decodeBytes : List UInt8 → List UInt8
  | 37 :: b :: c :: rest =>
    match escaped? b c with
    | some byte => byte :: decodeBytes rest
    | none => 37 :: decodeBytes (b :: c :: rest)
  | 43 :: rest => 32 :: decodeBytes rest
  | b :: rest => b :: decodeBytes rest
  | [] => []

/-- The text that a name or value stands for. -/
def decode (bs : List UInt8) : String := Utf8.decodeLossy (decodeBytes bs)

/-- The pairs of a query in order. -/
def parse (query : List UInt8) : List (String × String) :=
  ((splitAll 38 query).filter (!·.isEmpty)).map fun pair =>
    let (name, value) := cutAt 61 pair
    (decode name, decode (value.getD []))

end AppBuild.Form
