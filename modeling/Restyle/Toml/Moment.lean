import Restyle.Decimal.Reading
import Restyle.Toml.ReadError

/-! # Moments
Dates, times of day, and dates with a time of day and the time zone it is meant in. They are read
from fixed columns of a text: `2024-03-05`, `07:30:00`, `2024-03-05T07:30:00.250+01:00`. -/

namespace Restyle.Toml

/-- A date of the calendar. -/
structure Date where
  /-- The year, from 1 to 9999. -/
  year : Nat
  /-- The month, from 1 to 12. -/
  month : Nat
  /-- The day of the month. -/
  day : Nat
  deriving DecidableEq, Repr

/-- A time of day. -/
structure TimeOfDay where
  /-- The hour. -/
  hour : Nat
  /-- The minute. -/
  minute : Nat
  /-- The second. -/
  second : Nat
  /-- The millionths of a second. -/
  micros : Nat := 0
  deriving DecidableEq, Repr

/-- A date, a time of day, or both, with the minutes by which local time is ahead if they are
known. -/
inductive Moment where
  /-- A date. -/
  | date (d : Date)
  /-- A time of day. -/
  | time (t : TimeOfDay)
  /-- A date and a time of day. -/
  | both (d : Date) (t : TimeOfDay) (offset : Option Int)
  deriving DecidableEq, Repr

/-! ## Writing -/

/-- A number in base ten, padded with zeros to `width`. -/
def padded (width n : Nat) : List Char :=
  let ds := Nat.toDigits 10 n
  List.replicate (width - ds.length) '0' ++ ds

/-- The text of a date. -/
def Date.text (d : Date) : List Char :=
  padded 4 d.year ++ '-' :: padded 2 d.month ++ '-' :: padded 2 d.day

/-- The text of a time of day, with the fraction of a second only where there is one. -/
def TimeOfDay.text (t : TimeOfDay) : List Char :=
  padded 2 t.hour ++ ':' :: padded 2 t.minute ++ ':' :: padded 2 t.second ++
    if t.micros = 0 then [] else '.' :: padded 6 t.micros

/-- The text of an offset from universal time. -/
def offsetText (minutes : Int) : List Char :=
  (if minutes < 0 then '-' else '+') :: padded 2 (minutes.natAbs / 60) ++
    ':' :: padded 2 (minutes.natAbs % 60)

/-- The text of a moment, with `separator` between the date and the time. -/
def Moment.text (separator : Char) : Moment → List Char
  | .date d => d.text
  | .time t => t.text
  | .both d t offset => d.text ++ separator :: t.text ++ (offset.map offsetText).getD []

/-- Whether the offset of a moment is less than a day. Others can be read, but not be written. -/
def Moment.isWritable : Moment → Bool
  | .both _ _ (some offset) => offset.natAbs < 1440
  | _ => true

/-- The text of a moment in a document, where universal time is `Z`. -/
def Moment.written : Moment → List Char
  | .both d t (some 0) => d.text ++ 'T' :: t.text ++ ['Z']
  | m => m.text 'T'

/-! ## Reading -/

/-- The characters in the columns from `start` up to, but not including, `stop`. -/
def columns (start stop : Nat) (cs : List Char) : List Char := (cs.take stop).drop start

/-- The integer in some columns, if it lies between two bounds. -/
def field? (start stop : Nat) (least greatest : Int) (cs : List Char) : Option Nat :=
  ((Decimal.decimalInteger? (columns start stop cs)).filter
    fun n => least ≤ n ∧ n ≤ greatest).map Int.toNat

/-- Whether a year has a 29th of February. -/
def isLeapYear (year : Nat) : Bool := (year % 4 = 0 && year % 100 ≠ 0) || year % 400 = 0

/-- The number of days of a month. -/
def daysInMonth (year month : Nat) : Nat :=
  if month = 2 then (if isLeapYear year then 29 else 28)
  else if month = 4 ∨ month = 6 ∨ month = 9 ∨ month = 11 then 30
  else 31

/-- The date in the first ten columns. -/
def date? (cs : List Char) : Option Date := do
  let year ← field? 0 4 1 9999 cs
  let month ← field? 5 7 1 12 cs
  let day ← field? 8 10 1 (daysInMonth year month) cs
  some ⟨year, month, day⟩

/-- The offset that a text such as `Z` or `+01:00` names. -/
def offset? (cs : List Char) : Option Int := do
  if cs = ['Z'] then return 0
  let hours ← Decimal.decimalInteger? (columns 1 3 cs)
  let minutes ← Decimal.decimalInteger? (columns 4 6 cs)
  return (if cs.head? = some '-' then -1 else 1) * (hours * 60 + minutes)

/-- A number without what stands behind its point. -/
def wholePart (x : Float) : Int :=
  let n := x.abs.toUInt64.toNat
  if x < 0.0 then -(n : Int) else n

/-- The millionths of a second that the digits of a fraction stand for. More than six digits are
scaled in floating point, which the number has to fit into. -/
def fraction? (ds : List Char) : Except ReadError (Option Int) :=
  match Decimal.decimalInteger? ds with
  | none => .ok none
  | some n =>
    if ds.length ≤ 6 then .ok (some (n * Nat.pow 10 (6 - ds.length)))
    else if Decimal.isFloatSized n then
      .ok (some (wholePart (Float.ofInt n * Decimal.nearestFloat 1 (6 - ds.length))))
    else .error .fractionTooLong

/-- The fraction of a second and the offset behind the seconds of a time. What cannot be read there
is left out. -/
def tail? (cs : List Char) : Except ReadError (Option (Int × Option Int)) := do
  match cs with
  | [] => return some (0, none)
  | '.' :: rest =>
    if (rest.getLast?.map Char.toUpper) = some 'Z' then
      return (← fraction? rest.dropLast).map (·, some 0)
    let sign := if rest.contains '+' then '+' else '-'
    let (digits, zone) := rest.span (· ≠ sign)
    if zone = [] then return (← fraction? digits).map (·, none)
    match offset? zone with
    | none => return none
    | some offset => return (← fraction? digits).map (·, some offset)
  | zone => return (offset? zone).map fun offset => (0, some offset)

/-- The date and time in the columns of a text, with a fraction of a second and an offset. -/
def dateAndTime? (cs : List Char) (micros : Int) (offset : Option Int) : Option Moment := do
  let d ← date? cs
  let hour ← field? 11 13 0 23 cs
  let minute ← field? 14 16 0 59 cs
  let second ← field? 17 19 0 59 cs
  if micros < 0 ∨ 999999 < micros then none
  else some (.both d ⟨hour, minute, second, micros.toNat⟩ offset)

/-- The date, or the date and time, that a text consists of. -/
def dated? (cs : List Char) : Except ReadError (Option Moment) := do
  let (micros, offset) := (← tail? (cs.drop 19)).getD (0, none)
  if '-' ∉ cs.tail then return none
  if cs.length = 10 then return (date? cs).map .date
  return dateAndTime? cs micros offset

/-- Whether the columns of a text hold digits and colons the way a time of day does. -/
def startsWithTime (cs : List Char) : Bool :=
  8 ≤ cs.length && ((cs.take 8).zip [true, true, false, true, true, false, true, true]).all
    fun (c, isDigit) => if isDigit then Text.isPlainDigit c else c == ':'

/-- The time of day that a text starts with. A fraction has three to six digits and counts
millionths of a second. -/
def timeOfDay? (cs : List Char) : Option TimeOfDay := do
  let hour ← field? 0 2 0 23 cs
  let minute ← field? 3 5 0 59 cs
  let second ← field? 6 8 0 59 cs
  let digits := match cs.drop 8 with
    | '.' :: rest => (rest.takeWhile Text.isPlainDigit).take 6
    | _ => []
  let micros := if digits.length < 3 then 0
    else Text.digitsToNat 10 (digits.map fun d => d.toNat - 48)
  some ⟨hour, minute, second, micros⟩

end Restyle.Toml
