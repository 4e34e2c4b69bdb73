/-! # Shortest decimals
The shortest decimal number that identifies a floating-point number. Every finite floating-point
number has an exact decimal expansion, whose last digits are more than is needed to tell the number
from its neighbours. `Exact.shortest` cuts off as many of them as it can, in exact arithmetic. -/

namespace Restyle.Decimal

/-- The decimal number `digits * 10 ^ exponent`. -/
structure Scientific where
  /-- The digits, as one number. -/
  digits : Nat
  /-- The power of ten that the last digit counts. -/
  exponent : Int
  deriving DecidableEq, Repr

/-- A finite floating-point number without its sign, and how far it is from its neighbours. All
lengths are counted in units of `10 ^ exponent`. -/
structure Exact where
  /-- The number. -/
  digits : Nat
  /-- The power of ten that is the unit. -/
  exponent : Int
  /-- The distance to the next greater number. -/
  gap : Nat
  /-- Whether the next smaller number is only half as far away: the number is a power of two. -/
  isNarrow : Bool
  /-- Whether a decimal halfway to a neighbour still reads as this number. -/
  ownsMiddle : Bool
  deriving DecidableEq, Repr

namespace Exact

/-- The number with the given binary representation: a fraction of 52 bits, and above it an exponent
of 11 bits, which is zero for the numbers without a leading one. -/
def ofBits (bits : UInt64) : Exact :=
  let power := ((bits >>> 52) &&& 0x7ff).toNat
  let fraction := (bits &&& 0xfffffffffffff).toNat
  let mantissa := if power = 0 then fraction else Nat.pow 2 52 + fraction
  let scale := max power 1
  let gap := if 1075 ≤ scale then Nat.pow 2 (scale - 1075) else Nat.pow 5 (1075 - scale)
  { digits := mantissa * gap
    exponent := if 1075 ≤ scale then 0 else (scale : Int) - 1075
    gap
    isNarrow := fraction = 0 && power > 1
    ownsMiddle := mantissa % 2 = 0 }

/-- Whether a decimal reads as the number, where `distance` is its distance from the number as a
part of the gap, whose middle is at `gap`. -/
def reaches (x : Exact) (distance : Nat) : Bool :=
  distance < x.gap || (distance = x.gap && x.ownsMiddle)

/-- The number without its last `n` digits, rounded to the nearest decimal that reads as the number,
and halfway between two to the even one. There may be none. -/
def cut (x : Exact) (n : Nat) : Option Nat :=
  let unit := Nat.pow 10 n
  let kept := x.digits / unit
  let rest := x.digits % unit
  let down := x.reaches ((if x.isNarrow then 4 else 2) * rest)
  let up := x.reaches (2 * (unit - rest))
  if down && (!up || 2 * rest < unit || (2 * rest = unit && kept % 2 = 0)) then some kept
  else if up then some (kept + 1)
  else none

/-- The number of digits of the expansion. -/
def length (x : Exact) : Nat := (Nat.toDigits 10 x.digits).length

/-- The decimal with the fewest digits that reads as the number. It may end in zeros. -/
def shortest (x : Exact) : Scientific :=
  ((List.range x.length).reverse.findSome? fun n =>
    (x.cut n).map fun digits => ⟨digits, x.exponent + n⟩).getD ⟨x.digits, x.exponent⟩

end Exact

/-- Drop the zeros at the end of a number, least digit first, and count them into the exponent. -/
def Scientific.dropZeros : List Char → Int → List Char × Int
  | '0' :: ds, e => dropZeros ds (e + 1)
  | ds, e => (ds, e)

/-- The digits of a decimal, without zeros at the end, and the power of ten that the last one
counts. -/
def Scientific.significant (d : Scientific) : List Char × Int :=
  let (ds, e) := dropZeros (Nat.toDigits 10 d.digits).reverse d.exponent
  (ds.reverse, e)

end Restyle.Decimal
