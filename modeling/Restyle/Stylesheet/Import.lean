import Restyle.Stylesheet.Directive
import Restyle.Stylesheet.Literal

/-! # Import targets
The targets that a stylesheet imports, as they are written. Directives inside string literals do not
count; targets that the compiler leaves to the browser, and its built-in modules, are left out. -/

namespace Restyle.Stylesheet

/-- The state of splitting an argument list: how many parentheses are open, and the quote of the
literal that is open. -/
structure Nesting where
  /-- The number of open parentheses. -/
  depth : Nat := 0
  /-- The quote that closes the open literal. -/
  quote : Option Char := none

/-- The nesting after one more character. -/
def Nesting.next (n : Nesting) (c : Char) : Nesting :=
  match n.quote with
  | some q => if c = q then { n with quote := none } else n
  | none =>
    if Text.isQuote c then { n with quote := some c }
    else if c = '(' then { n with depth := n.depth + 1 }
    else if c = ')' then { n with depth := n.depth - 1 }
    else n

/-- Whether a comma here parts two arguments. -/
def Nesting.isTop (n : Nesting) : Bool := n.depth == 0 && n.quote.isNone

/-- Split at the commas outside literals and parentheses; `current` is the argument under way,
latest character first. -/
def splitArgumentsFrom (n : Nesting) (current : List Char) : List Char → List (List Char)
  | [] => [Text.trim current.reverse]
  | c :: cs =>
    if c = ',' ∧ n.isTop then Text.trim current.reverse :: splitArgumentsFrom n [] cs
    else splitArgumentsFrom (n.next c) (c :: current) cs

/-- The trimmed arguments of an argument list. -/
def splitArguments (arguments : List Char) : List (List Char) := splitArgumentsFrom {} [] arguments

/-- The literal that a text starts with, on one line and without its quotes, and the text after
it. -/
def leadingLiteral? : List Char → Option (List Char × List Char)
  | [] => none
  | q :: cs =>
    if Text.isQuote q then
      match cs.dropWhile fun c => c ≠ q ∧ c ≠ '\n' with
      | c :: rest =>
        if c = q then some (cs.takeWhile (fun c => c ≠ q ∧ c ≠ '\n'), rest) else none
      | [] => none
    else none

/-- Whether an argument is a bare address, `url(…)` in any case. -/
def isAddress (argument : List Char) : Bool :=
  "url(".toList.isPrefixOf (argument.map Char.toLower)

/-- The target that one argument names: a leading literal, or else its first word. Where `alone` is
set, anything after the target makes it a plain import, which names none. -/
def targetOf? (alone : Bool) (argument : List Char) : Option (List Char) :=
  if argument = [] ∨ isAddress argument then none
  else
    match leadingLiteral? argument with
    | some (target, rest) => if alone ∧ Text.trim rest ≠ [] then none else some target
    | none =>
      match Text.words argument with
      | [] => none
      | [word] => some word
      | word :: _ => if alone then none else some word

/-- The characters that the name of an address scheme can hold after its first letter. -/
def inScheme (c : Char) : Bool := c.isAlphanum || c == '+' || c == '.' || c == '-'

/-- Whether a target is an address: `//`, after the name of a scheme and a colon or without them. -/
def hasScheme (target : List Char) : Bool :=
  "//".toList.isPrefixOf target ||
    match target with
    | c :: cs => c.isAlpha && "://".toList.isPrefixOf (cs.dropWhile inScheme)
    | [] => false

/-- Whether the compiler passes an import of this target through, or answers it itself: an empty
target, a built-in module, a `.css` file or an address. -/
def isPlainImport (target : List Char) : Bool :=
  target.isEmpty || "sass:".toList.isPrefixOf target || ".css".toList.isSuffixOf target ||
    hasScheme target

/-- The targets of one directive. Only `@import` takes several arguments, and only there anything
after a target makes it a plain import. -/
def Directive.targets (d : Directive) : List (List Char) :=
  match d.kind with
  | .imports => (splitArguments d.arguments).filterMap (targetOf? true)
  | _ => (targetOf? false d.arguments).toList

/-- The directives of a comment-free text that do not lie inside string literals. -/
def liveDirectives (dialect : Dialect) (text : List Char) : List Directive :=
  let spans := (literalSpans text).toArray
  (directives dialect text).filter fun d => !insideLiteral spans d.position

/-- The targets that a stylesheet imports, in the order in which they are first named and each of
them once. -/
def importTargets (dialect : Dialect) (source : List Char) : List (List Char) :=
  (((liveDirectives dialect (stripComments source)).flatMap Directive.targets).filter
    fun target => !isPlainImport target).eraseDups

/-- The imports of a stylesheet, as strings. -/
def imports (dialect : Dialect) (source : List Char) : List String :=
  (importTargets dialect source).map String.ofList

end Restyle.Stylesheet
