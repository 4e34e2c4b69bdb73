import Restyle.Toml.Moment

/-! # Values of a settings document
A document is a table, whose entries keep the order in which they came. `Place`s lead to the values
inside a value: by the key of an entry, or to the last element of an array. -/

namespace Restyle.Toml

/-- A value. -/
inductive Value where
  /-- A text. -/
  | text (s : String)
  /-- An integer of any size. -/
  | integer (n : Int)
  /-- A floating-point number. -/
  | float (x : Float)
  /-- A truth value. -/
  | boolean (b : Bool)
  /-- A date, a time or both. -/
  | moment (m : Moment)
  /-- An array. -/
  | array (elements : List Value)
  /-- A table, with its entries in order. -/
  | table (entries : List (String × Value))
  deriving Inhabited

/-- The entries of a table, in order. -/
abbrev Table := List (String × Value)

namespace Table

/-- The value of an entry. -/
def get? (t : Table) (key : String) : Option Value := t.lookup key

/-- Set an entry. An entry that exists keeps its place, a new one comes last. -/
def put (t : Table) (key : String) (v : Value) : Table :=
  if (t.get? key).isSome then t.map fun e => if e.1 = key then (key, v) else e
  else t ++ [(key, v)]

/-- Set all entries of another table, in their order. -/
def putAll (t u : Table) : Table := u.foldl (fun t e => t.put e.1 e.2) t

/-- `get? [] key = none`. -/
@[simp] theorem get?_nil (key : String) : get? [] key = none := rfl

/-- `get? ((k, v) :: t) key` is `v` for `k`, and `get? t key` otherwise. -/
theorem get?_cons (k : String) (v : Value) (t : Table) (key : String) :
    get? ((k, v) :: t) key = if key = k then some v else get? t key := by
  rw [get?, List.lookup_cons]
  by_cases h : key = k
  · simp [h]
  · simp [h, get?, beq_false_of_ne h]

end Table

/-- The kinds of values that one array can hold. -/
inductive Kind where
  /-- Texts. -/
  | text
  /-- Integers. -/
  | integer
  /-- Floating-point numbers. -/
  | float
  /-- Truth values. -/
  | boolean
  /-- Times of day. -/
  | time
  /-- Dates, with or without a time of day. -/
  | date
  /-- Arrays. -/
  | array
  /-- Tables. -/
  | table
  deriving DecidableEq, Repr

namespace Value

/-- The kind of a value. -/
def kind : Value → Kind
  | .text _ => .text
  | .integer _ => .integer
  | .float _ => .float
  | .boolean _ => .boolean
  | .moment (.time _) => .time
  | .moment _ => .date
  | .array _ => .array
  | .table _ => .table

/-- Whether a value is a table. -/
def isTable : Value → Bool
  | .table _ => true
  | _ => false

/-! ## Places -/

/-- A step from a value into it. -/
inductive Step where
  /-- To the value of an entry. -/
  | entry (key : String)
  /-- To the last element. -/
  | last
  deriving DecidableEq, Repr

/-- The steps that lead to a place, outermost first. -/
abbrev Place := List Step

/-- The value that one step leads to. -/
def step? : Step → Value → Option Value
  | .entry key, .table entries => Table.get? entries key
  | .last, .array elements => elements.getLast?
  | _, _ => none

/-- The value at a place. -/
def at? (v : Value) (place : Place) : Option Value := place.foldlM (fun v s => v.step? s) v

/-- Change the value at a place; where the place leads nowhere, nothing changes. -/
def modify (f : Value → Value) : Place → Value → Value
  | [], v => f v
  | .entry key :: place, .table entries =>
    .table (entries.map fun e => if e.1 = key then (e.1, modify f place e.2) else e)
  | .last :: place, .array elements =>
    match elements.getLast? with
    | some v => .array (elements.dropLast ++ [modify f place v])
    | none => .array elements
  | _, v => v

/-- Set an entry of the table at a place. -/
def putAt (v : Value) (place : Place) (key : String) (entry : Value) : Value :=
  v.modify (fun
    | .table entries => .table (Table.put entries key entry)
    | v => v) place

end Value

end Restyle.Toml
