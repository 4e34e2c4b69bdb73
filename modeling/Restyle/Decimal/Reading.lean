import Restyle.Text.Blank
import Restyle.Text.Digit

/-! # Reading numbers
Numbers in texts: integers in base ten, integers with a base prefix, and floating-point numbers.
Digits of all scripts count, blanks around a number do not, and single underscores may separate
digits. -/

namespace Restyle.Decimal

open Text

/-- A character as numbers see it: digits and blanks of all scripts have a plain form, and whatever
else is not plain becomes a character that no number holds. -/
def plainChar (c : Char) : Char :=
  if c.toNat < 127 then c
  else if isBlank c then ' '
  else match digitValue? c with
    | some d => Char.ofNat (48 + d)
    | none => '?'

/-- The plain blanks. -/
def isPlainBlank (c : Char) : Bool := c == ' ' || (9 ≤ c.toNat && c.toNat ≤ 13)

/-- A number in plain characters and without the blanks around it. -/
def plainNumber (cs : List Char) : List Char :=
  let cs := (cs.map plainChar).dropWhile isPlainBlank
  (cs.reverse.dropWhile isPlainBlank).reverse

/-- Split a sign off: whether it is a minus sign, and the rest. -/
def splitSign : List Char → Bool × List Char
  | '+' :: cs => (false, cs)
  | '-' :: cs => (true, cs)
  | cs => (false, cs)

/-- Whether a text starts with a digit. -/
def startsWithDigit (cs : List Char) : Bool := cs.head?.any isPlainDigit

/-- Remove the underscores, each of which has to stand between two digits. -/
def joinDigits (afterDigit : Bool) : List Char → Option (List Char)
  | [] => some []
  | '_' :: cs => if afterDigit && startsWithDigit cs then joinDigits false cs else none
  | c :: cs => (joinDigits (isPlainDigit c) cs).map (c :: ·)

/-! ## Integers -/

/-- The digits of a numeral in the given base, of which there is at least one; single underscores
may stand between two of them. -/
def numeralDigits? (base : Nat) : List Char → Option (List Nat)
  | [] => none
  | c :: cs => do
    let d ← (hexValue? c).filter (· < base)
    match cs with
    | [] => some [d]
    | '_' :: cs => (numeralDigits? base cs).map (d :: ·)
    | cs => (numeralDigits? base cs).map (d :: ·)

/-- The greatest number of digits of a numeral in base ten. Longer ones are not converted. -/
def digitLimit : Nat := 4300

/-- The value of a numeral in the given base. -/
def numeral? (base : Nat) (cs : List Char) : Option Nat :=
  ((numeralDigits? base cs).filter fun ds => base ≠ 10 || ds.length ≤ digitLimit).map
    (digitsToNat base)

/-- The value of a signed text, of whose rest `value?` is the value. -/
def signed? (value? : List Char → Option Nat) (cs : List Char) : Option Int :=
  let (negative, cs) := splitSign cs
  (value? cs).map fun n => if negative then -(n : Int) else n

/-- An integer in base ten. -/
def decimalInteger? (cs : List Char) : Option Int := signed? (numeral? 10) (plainNumber cs)

/-- Drop one underscore. -/
def dropUnderscore : List Char → List Char
  | '_' :: cs => cs
  | cs => cs

/-- The value of a numeral whose base is given by a prefix, with or without an underscore after it.
Without a prefix the base is ten, and only zero may start with a zero. -/
def prefixedNumeral? : List Char → Option Nat
  | '0' :: 'x' :: cs | '0' :: 'X' :: cs => numeral? 16 (dropUnderscore cs)
  | '0' :: 'o' :: cs | '0' :: 'O' :: cs => numeral? 8 (dropUnderscore cs)
  | '0' :: 'b' :: cs | '0' :: 'B' :: cs => numeral? 2 (dropUnderscore cs)
  | '0' :: cs => (numeral? 10 ('0' :: cs)).filter (· = 0)
  | cs => numeral? 10 cs

/-- An integer, in the base that its prefix gives. -/
def prefixedInteger? (cs : List Char) : Option Int := signed? prefixedNumeral? (plainNumber cs)

/-! ## Floating-point numbers -/

/-- The infinite number. -/
def infinite : Float := Float.ofBits 0x7ff0000000000000

/-- The number that is not a number. -/
def notANumber : Float := Float.ofBits 0x7ff8000000000000

/-- The floating-point number nearest to `digits * 10 ^ exponent`. What lies far outside the range
of floating-point numbers is settled by the number of digits alone. -/
def nearestFloat (digits : Nat) (exponent : Int) : Float :=
  let power := exponent + (Nat.toDigits 10 digits).length
  if digits = 0 ∨ power < -400 then 0.0
  else if 400 < power then infinite
  else Float.ofScientific digits (exponent < 0) exponent.natAbs

/-- The exponent at the end of a number, zero when there is none. -/
def exponent? : List Char → Option Int
  | [] => some 0
  | c :: cs =>
    if c = 'e' ∨ c = 'E' then
      let (negative, ds) := splitSign cs
      if ds ≠ [] ∧ ds.all isPlainDigit then
        let n := digitsToNat 10 (ds.map fun d => d.toNat - 48)
        some (if negative then -(n : Int) else n)
      else none
    else none

/-- The value of a number without a sign: digits with at most one point among or around them, and an
exponent. -/
def unsignedFloat? (cs : List Char) : Option Float := do
  let whole := cs.takeWhile isPlainDigit
  let rest := cs.dropWhile isPlainDigit
  let (places, rest) := match rest with
    | '.' :: rest => (rest.takeWhile isPlainDigit, rest.dropWhile isPlainDigit)
    | rest => ([], rest)
  let digits := whole ++ places
  if digits = [] then none
  else
    let e ← exponent? rest
    some (nearestFloat (digitsToNat 10 (digits.map fun d => d.toNat - 48)) (e - places.length))

/-- The value of the names of the infinite number and of what is not a number, in either case. -/
def namedFloat? (cs : List Char) : Option Float :=
  let name := String.ofList (cs.map Char.toLower)
  if name = "inf" ∨ name = "infinity" then some infinite
  else if name = "nan" then some notANumber
  else none

/-- A floating-point number in plain characters, without blanks around it and underscores in it. -/
def plainFloat? (cs : List Char) : Option Float := do
  let (negative, cs) := splitSign cs
  let x ← namedFloat? cs <|> unsignedFloat? cs
  some (if negative then -x else x)

/-- A floating-point number. -/
def float? (cs : List Char) : Option Float := joinDigits false (plainNumber cs) >>= plainFloat?

/-- Whether an integer rounds to a finite floating-point number. -/
def isFloatSized (n : Int) : Bool := n.natAbs < Nat.pow 2 1024 - Nat.pow 2 970

end Restyle.Decimal
