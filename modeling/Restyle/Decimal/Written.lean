import Restyle.Decimal.Shortest

/-! # Written numbers
The text of a floating-point number: its shortest decimal, with a point and at least one digit on
either side of it. Numbers that are very large or very small get an exponent instead. -/

namespace Restyle.Decimal

/-- How floating-point numbers are written. -/
structure Style where
  /-- The least number of digits of an exponent. -/
  exponentWidth : Nat := 2
  /-- Leading digits that count less than this power of ten are written with an exponent. -/
  leastPower : Int := -4
  /-- Leading digits that count this power of ten or more are written with an exponent. -/
  powerLimit : Int := 16

namespace Style

/-- An exponent, with its sign. -/
def exponentText (s : Style) (e : Int) : List Char :=
  let ds := Nat.toDigits 10 e.natAbs
  'e' :: (if e < 0 then '-' else '+') :: List.replicate (s.exponentWidth - ds.length) '0' ++ ds

/-- The number with the given digits before an exponent. -/
def withExponent (s : Style) (digits : List Char) (power : Int) : List Char :=
  match digits with
  | [] => []
  | [d] => d :: s.exponentText power
  | d :: ds => d :: '.' :: ds ++ s.exponentText power

/-- The number with the given digits, the first of which counts `10 ^ power`, without an
exponent. -/
def withPoint (digits : List Char) (power : Int) : List Char :=
  if power < 0 then '0' :: '.' :: List.replicate (-power - 1).toNat '0' ++ digits
  else
    let whole := power.toNat + 1
    if digits.length ≤ whole then
      digits ++ List.replicate (whole - digits.length) '0' ++ ['.', '0']
    else digits.take whole ++ '.' :: digits.drop whole

/-- The text of the number that is `digits * 10 ^ exponent`. -/
def decimal (s : Style) (digits : List Char) (exponent : Int) : List Char :=
  let power := exponent + digits.length - 1
  if s.leastPower ≤ power ∧ power < s.powerLimit then withPoint digits power
  else s.withExponent digits power

/-- The text of a floating-point number. -/
def text (s : Style) (x : Float) : String :=
  let bits := x.toBits
  let magnitude := bits &&& 0x7fffffffffffffff
  if magnitude > 0x7ff0000000000000 then "nan"
  else
    let number :=
      if magnitude = 0x7ff0000000000000 then "inf".toList
      else if magnitude = 0 then "0.0".toList
      else
        let (digits, exponent) := (Exact.ofBits magnitude).shortest.significant
        s.decimal digits exponent
    String.ofList (if bits = magnitude then number else '-' :: number)

end Style

/-- The plain style: exponents have at least two digits. -/
def plainStyle : Style := {}

end Restyle.Decimal
