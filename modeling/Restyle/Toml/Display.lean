import Restyle.Decimal.Written
import Restyle.Text.Quoted
import Restyle.Toml.Writer

/-! # Showing values
The text of a value for the user: a text as it is, and inside of arrays and tables between quotes;
arrays in brackets, tables in braces, truth values as `True` and `False`. A moment is shown the way
it is written, and inside of arrays and tables as the numbers that it is built from. -/

namespace Restyle.Toml

/-- Numbers in base ten, with commas between them. -/
def commaSeparated (ns : List Nat) : List Char :=
  List.intercalate [',', ' '] (ns.map (Nat.toDigits 10))

/-- The numbers of a date. -/
def Date.numbers (d : Date) : List Nat := [d.year, d.month, d.day]

/-- The numbers of a time of day, without zeros for the seconds and their fraction at the end. -/
def TimeOfDay.numbers (t : TimeOfDay) : List Nat :=
  [t.hour, t.minute] ++
    if t.micros ≠ 0 then [t.second, t.micros] else if t.second ≠ 0 then [t.second] else []

/-- The text of a moment inside of another value. Its offset is not shown. -/
def Moment.nestedText : Moment → List Char
  | .date d => "datetime.date(".toList ++ commaSeparated d.numbers ++ [')']
  | .time t => "datetime.time(".toList ++ commaSeparated t.numbers ++ [')']
  | .both d t _ => "datetime.datetime(".toList ++ commaSeparated (d.numbers ++ t.numbers) ++ [')']

namespace Value

mutual

/-- The text of a value inside of another one. -/
def nestedDisplay : Value → List Char
  | .text s => Text.quoted s.toList
  | .integer n => integerText n
  | .float x => (Decimal.plainStyle.text x).toList
  | .boolean b => (if b then "True" else "False").toList
  | .moment m => m.nestedText
  | .array vs => '[' :: displayElements vs ++ [']']
  | .table es => '\x7b' :: displayEntries es ++ ['\x7d']

/-- The texts of some elements, with commas between them. -/
def displayElements : List Value → List Char
  | [] => []
  | [v] => nestedDisplay v
  | v :: vs => nestedDisplay v ++ ',' :: ' ' :: displayElements vs

/-- The texts of some entries, with commas between them. -/
def displayEntries : List (String × Value) → List Char
  | [] => []
  | [e] => Text.quoted e.1.toList ++ ':' :: ' ' :: nestedDisplay e.2
  | e :: es => Text.quoted e.1.toList ++ ':' :: ' ' :: nestedDisplay e.2 ++ ',' :: ' ' ::
    displayEntries es

end

mutual

/-- Whether every integer in a value has few enough digits. -/
def hasWritableIntegers : Value → Bool
  | .integer n => isWritableInteger n
  | .array vs => elementsHaveWritableIntegers vs
  | .table es => entriesHaveWritableIntegers es
  | _ => true

/-- Whether every integer in some elements has few enough digits. -/
def elementsHaveWritableIntegers : List Value → Bool
  | [] => true
  | v :: vs => hasWritableIntegers v && elementsHaveWritableIntegers vs

/-- Whether every integer in some entries has few enough digits. -/
def entriesHaveWritableIntegers : List (String × Value) → Bool
  | [] => true
  | e :: es => hasWritableIntegers e.2 && entriesHaveWritableIntegers es

end

/-- Whether a value has a text: integers can have too many digits, and the offset of a moment that
is shown by itself can be too large. -/
def isShowable : Value → Bool
  | .moment m => m.isWritable
  | v => v.hasWritableIntegers

/-- The text of a value that has one. -/
def display : Value → String
  | .text s => s
  | .moment m => String.ofList (m.text ' ')
  | v => String.ofList (nestedDisplay v)

end Value

end Restyle.Toml
