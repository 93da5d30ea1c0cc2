/-
Quoted text, as messages show it.

Quotes, backslashes and the usual control characters are escaped by a letter; what has
no picture of its own, or joins the character before it, is written by its code point.
-/
import AppBuild.Unicode.Property

namespace AppBuild.Quoted

/-- The lower case hexadecimal digits of a number. -/
def hexDigits (n : Nat) : List Char := Nat.toDigits 16 n

/-- One character of a quoted text. -/
def encodeChar (c : Char) : List Char :=
  match c with
  | '\x00' => ['\\', '0']
  | '\t' => ['\\', 't']
  | '\r' => ['\\', 'r']
  | '\n' => ['\\', 'n']
  | '\\' => ['\\', '\\']
  | '"' => ['\\', '"']
  | c =>
    if 32 ≤ c.toNat && c.toNat < 127 then [c]
    else if Unicode.Property.graphemeExtend.contains c ||
        !Unicode.Property.printable.contains c then
      ['\\', 'u', '{'] ++ hexDigits c.toNat ++ ['}']
    else [c]

/-- A text in quotes. -/
def encode (s : String) : String :=
  String.ofList (['"'] ++ s.toList.flatMap encodeChar ++ ['"'])

end AppBuild.Quoted
