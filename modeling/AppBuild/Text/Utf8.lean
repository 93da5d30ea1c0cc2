/-
UTF-8.

The decoder goes over the bytes once.  Between bytes it either stands at the start
of a character or waits for more bytes of one; a byte that cannot continue the
character ends it as ill formed and starts the next.  So each longest run of bytes
that starts a character but does not finish it counts as one ill-formed character.
-/
namespace AppBuild.Utf8

/-- The bytes of a text. -/
def encode (s : String) : List UInt8 := s.toList.flatMap String.utf8EncodeChar

/-- Where the decoder stands between bytes. -/
inductive State where
  | start
  /-- In a character: the bits so far, the number of bytes to come after the next one, and the least
  and greatest value of the next. -/
  | within (bits more least most : Nat)
  deriving DecidableEq, Repr

/-- What the first byte of a character leads to: characters, with none for an ill-formed one, and a
state. -/
def first (b : Nat) : List (Option Char) × State :=
  if b < 0x80 then ([some (Char.ofNat b)], .start)
  else if b < 0xC2 then ([none], .start)
  else if b < 0xE0 then ([], .within (b - 0xC0) 0 0x80 0xBF)
  else if b = 0xE0 then ([], .within 0 1 0xA0 0xBF)
  else if b = 0xED then ([], .within 0xD 1 0x80 0x9F)
  else if b < 0xF0 then ([], .within (b - 0xE0) 1 0x80 0xBF)
  else if b = 0xF0 then ([], .within 0 2 0x90 0xBF)
  else if b < 0xF4 then ([], .within (b - 0xF0) 2 0x80 0xBF)
  else if b = 0xF4 then ([], .within 4 2 0x80 0x8F)
  else ([none], .start)

/-- What a byte leads to in a state. -/
def step : State → Nat → List (Option Char) × State
  | .start, b => first b
  | .within bits more least most, b =>
    if least ≤ b ∧ b ≤ most then
      let bits := bits * 64 + (b - 0x80)
      match more with
      | 0 => ([some (Char.ofNat bits)], .start)
      | more + 1 => ([], .within bits more 0x80 0xBF)
    else
      let (chars, state) := first b
      (none :: chars, state)

/-- The characters of bytes from a state on; an ill-formed one is none. -/
def scan : State → List UInt8 → List (Option Char)
  | .start, [] => []
  | .within .., [] => [none]
  | state, b :: bs =>
    let (chars, state) := step state b.toNat
    chars ++ scan state bs

/-- The text of bytes, with a replacement character for each ill-formed one. -/
def decodeLossy (bs : List UInt8) : String :=
  String.ofList ((scan .start bs).map (·.getD '\uFFFD'))

/-- The text of bytes that are well formed. -/
def decode? (bs : List UInt8) : Option String :=
  ((scan .start bs).mapM id).map String.ofList

end AppBuild.Utf8
