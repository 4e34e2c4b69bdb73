/-! # Arguments
Command line arguments are options and operands. An option starts with a dash: two dashes and a
word, with a value perhaps behind a sign of equality or in the next argument, or one dash and
letters, each of them an option, the last of which may have its value behind it. Everything else is
an operand, and so is everything behind a lone double dash. -/

namespace Restyle.CommandLine

/-- What an option does to the options `σ` of a command. -/
inductive Effect (σ : Type) where
  /-- It stands alone. -/
  | flag (set : σ → σ)
  /-- It has a value. -/
  | value (set : String → σ → σ)

/-- The options of a command, each with its effect, by their names with the dashes. -/
abbrev OptionTable (σ : Type) := List (String × Effect σ)

/-- Why a command line is refused. -/
inductive UsageError where
  /-- There is no such option. -/
  | unknownOption (name : String)
  /-- An option lacks its value. -/
  | missingValue
  /-- An option that stands alone has a value. -/
  | unexpectedValue (name : String)
  /-- There is no such command. -/
  | unknownCommand (name : String)
  /-- A command is missing. -/
  | missingCommand
  /-- An operand is missing. -/
  | missingOperand
  /-- There are too many operands. -/
  | extraOperands
  /-- A path does not lead to what is wanted. -/
  | badPath (path : String)
  /-- A number cannot be read or is too small. -/
  | badNumber (text : String)
  deriving DecidableEq, Repr

/-- The wording of a refusal. -/
def UsageError.message : UsageError → String
  | .unknownOption name => "No such option: " ++ name
  | .missingValue => "An option requires an argument."
  | .unexpectedValue name => "Option '" ++ name ++ "' does not take a value."
  | .unknownCommand name => "No such command '" ++ name ++ "'."
  | .missingCommand => "Missing command."
  | .missingOperand => "Missing argument."
  | .extraOperands => "Got unexpected extra arguments."
  | .badPath path => "Path '" ++ path ++ "' cannot be used."
  | .badNumber text => "'" ++ text ++ "' is not a valid number."

/-- The state of reading arguments. -/
structure Progress (σ : Type) where
  /-- The options so far. -/
  options : σ
  /-- The option whose value comes next. -/
  awaiting : Option (String → σ → σ) := none
  /-- The operands so far. -/
  operands : List String := []
  /-- Whether only operands come. -/
  onlyOperands : Bool := false

namespace Progress

variable {σ : Type}

/-- Take an option of two dashes and a word. -/
def takeLong (table : OptionTable σ) (p : Progress σ) (cs : List Char) :
    Except UsageError (Progress σ) :=
  let name := String.ofList (cs.takeWhile (· ≠ '='))
  match table.lookup name, cs.dropWhile (· ≠ '=') with
  | none, _ => .error (.unknownOption name)
  | some (.flag set), [] => .ok { p with options := set p.options }
  | some (.flag _), _ => .error (.unexpectedValue name)
  | some (.value set), [] => .ok { p with awaiting := some set }
  | some (.value set), _ :: value => .ok { p with options := set (String.ofList value) p.options }

/-- Take options of one letter, which follow one dash. -/
def takeShort (table : OptionTable σ) (p : Progress σ) : List Char → Except UsageError (Progress σ)
  | [] => .ok p
  | c :: cs =>
    let name := String.ofList ['-', c]
    match table.lookup name with
    | none => .error (.unknownOption name)
    | some (.flag set) => takeShort table { p with options := set p.options } cs
    | some (.value set) =>
      if cs = [] then .ok { p with awaiting := some set }
      else .ok { p with options := set (String.ofList cs) p.options }

/-- Take an argument. Where the options end with the first operand, `stops` holds. -/
def take (table : OptionTable σ) (stops : Bool) (p : Progress σ) (arg : String) :
    Except UsageError (Progress σ) :=
  match p.awaiting with
  | some set => .ok { p with options := set arg p.options, awaiting := none }
  | none =>
    let operand : Progress σ :=
      { p with operands := p.operands ++ [arg], onlyOperands := p.onlyOperands || stops }
    if p.onlyOperands then .ok operand
    else
      match arg.toList with
      | ['-', '-'] => .ok { p with onlyOperands := true }
      | '-' :: '-' :: cs => p.takeLong table ('-' :: '-' :: cs)
      | '-' :: c :: cs => p.takeShort table (c :: cs)
      | _ => .ok operand

end Progress

/-- The options and the operands in some arguments. -/
def readArguments {σ : Type} (table : OptionTable σ) (stops : Bool) (options : σ)
    (args : List String) : Except UsageError (σ × List String) := do
  let p ← args.foldlM (Progress.take table stops) { options }
  if p.awaiting.isSome then throw .missingValue
  return (p.options, p.operands)

end Restyle.CommandLine
