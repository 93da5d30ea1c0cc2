/-
The shortest decimal digits of a binary number.

A positive double is `m * 2 ^ q`; the numbers that round to it form an interval
around it.  Among the decimal numbers in that interval the shortest has the fewest
digits and, of those, is the nearest to the double.  The search tries one digit, two
digits and so on, on the grid of numbers with so many digits, in exact arithmetic.
-/
namespace AppBuild.Decimal

/-- Decimal digits, the first not zero, and the place of the point: `digits` is read as
`0.d₁d₂… * 10 ^ point`. -/
structure Digits where
  digits : List Char
  point : Int
  deriving DecidableEq, Repr

/-- A positive double taken apart: `m * 2 ^ q`, and whether the double below it is only half as far
as the one above. -/
structure Binary where
  m : Nat
  q : Int
  narrow : Bool

/-- The parts of the double with given bits, sign apart. -/
def Binary.ofBits (bits : UInt64) : Binary :=
  let fraction : Nat := bits.toNat % Nat.pow 2 52
  let exponent : Nat := bits.toNat / Nat.pow 2 52 % Nat.pow 2 11
  if exponent = 0 then ⟨fraction, -1074, false⟩
  else ⟨fraction + Nat.pow 2 52, Int.ofNat exponent - 1075, fraction == 0 && decide (1 < exponent)⟩

/-- The power of a number by an integer, as a fraction. -/
def powFraction (base : Nat) (e : Int) : Nat × Nat :=
  if 0 ≤ e then (base.pow e.toNat, 1) else (1, base.pow (-e).toNat)

/-- The least `k` from the given one on with `num / den < 10 ^ k`. -/
def pointFrom (num den : Nat) : Nat → Int → Int
  | 0, k => k
  | fuel + 1, k =>
    let (up, down) := powFraction 10 k
    if num * down < den * up then k else pointFrom num den fuel (k + 1)

/-- The digit text in the interval on the grid of `n` digits, if there is one. -/
def onGrid (b : Binary) (point : Int) (n : Nat) : Option Nat :=
  let (up, down) := powFraction 2 b.q
  let (gridUp, gridDown) := powFraction 10 (point - n)
  -- The double, the ends of its interval and a grid step, in quarters of `2 ^ q` and on one
  -- denominator.
  let value := 4 * b.m * up * gridDown
  let low := (4 * b.m - (if b.narrow then 1 else 2)) * up * gridDown
  let high := (4 * b.m + 2) * up * gridDown
  let grid := 4 * down * gridUp
  let below := value / grid
  let inside (d : Nat) : Bool :=
    if b.m % 2 = 0 then low ≤ d * grid && d * grid ≤ high else low < d * grid && d * grid < high
  let distance (d : Nat) : Nat := if value ≤ d * grid then d * grid - value else value - d * grid
  match inside below, inside (below + 1) with
  | false, false => none
  | true, false => some below
  | false, true => some (below + 1)
  | true, true =>
    if distance below < distance (below + 1) then some below
    else if distance (below + 1) < distance below then some (below + 1)
    else some (if below % 2 = 0 then below else below + 1)

/-- The digits of a number without the zeros at its end. -/
def trimmed (n : Nat) : List Char :=
  ((Nat.toDigits 10 n).reverse.dropWhile (· == '0')).reverse

/-- The shortest digits, tried from `n` on. -/
def shortestFrom (b : Binary) (point : Int) : Nat → Nat → Digits
  | 0, _ => ⟨['0'], point⟩
  | fuel + 1, n =>
    match onGrid b point n with
    | some d => ⟨trimmed d, point + (Nat.toDigits 10 d).length - n⟩
    | none => shortestFrom b point fuel (n + 1)

/-- The shortest digits of the positive double with given bits. -/
def shortest (bits : UInt64) : Digits :=
  let b := Binary.ofBits bits
  let (up, down) := powFraction 2 b.q
  shortestFrom b (pointFrom (b.m * up) down 700 (-330)) 17 1

/-- Digits as a number with a point: numbers that are not too long or small are written out, the
others with an exponent. -/
def Digits.render (d : Digits) : String :=
  let n := d.digits.length
  let zeros (k : Nat) : List Char := List.replicate k '0'
  let text : List Char :=
    if (n : Int) ≤ d.point ∧ d.point ≤ 16 then d.digits ++ zeros (d.point.toNat - n) ++ ['.', '0']
    else if 0 < d.point ∧ d.point ≤ 16 then
      d.digits.take d.point.toNat ++ ['.'] ++ d.digits.drop d.point.toNat
    else if -5 < d.point ∧ d.point ≤ 0 then ['0', '.'] ++ zeros (-d.point).toNat ++ d.digits
    else
      let fraction := match d.digits.drop 1 with
        | [] => []
        | rest => '.' :: rest
      let sign := if 1 ≤ d.point then '+' else '-'
      d.digits.take 1 ++ fraction ++ ['e', sign] ++ Nat.toDigits 10 (d.point - 1).natAbs
  String.ofList text

/-- A finite double as text. -/
def ofFloat (x : Float) : String :=
  let bits := x.toBits
  let text := if bits.toNat % Nat.pow 2 63 = 0 then "0.0" else (shortest bits).render
  if bits.toNat / Nat.pow 2 63 = 1 then "-" ++ text else text

end AppBuild.Decimal
