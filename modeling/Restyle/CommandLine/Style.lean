import Restyle.Decimal.Reading
import Restyle.Text.LowerCase

/-! # Names of styles
A style is named by words: attributes such as `bold`, which `not` takes away, a color, a color
behind `on` for the background, and an address behind `link`. Names of one style have one normal
form. A name that means no style is its own normal form, but for its case. -/

namespace Restyle.CommandLine

/-- Why markup cannot be shown. -/
inductive MarkupError where
  /-- A tag ends a style that has not begun. -/
  | unbalanced
  /-- A part of a color is no number. -/
  | badColor
  /-- The arguments of an action cannot be read. -/
  | badAction
  deriving DecidableEq, Repr

/-- What a name says about a style. -/
structure Style where
  /-- The attributes that are given and taken away, by their full names; the latest word comes
  first. -/
  attributes : List (String × Bool) := []
  /-- The color. -/
  color : Option (List Char) := none
  /-- The color of the background. -/
  background : Option (List Char) := none
  /-- The address that the text leads to. -/
  link : Option (List Char) := none

namespace Style

/-! ## Attributes and colors -/

/-- The attributes, in the order of normal forms. -/
def attributeNames : List String :=
  ["bold", "dim", "italic", "underline", "blink", "blink2", "reverse", "conceal",
   "strike", "underline2", "frame", "encircle", "overline"]

/-- The short names of attributes. -/
def shortNames : List (String × String) :=
  [("b", "bold"), ("d", "dim"), ("i", "italic"), ("u", "underline"), ("r", "reverse"),
   ("c", "conceal"), ("s", "strike"), ("uu", "underline2"), ("o", "overline")]

/-- The full name of the attribute that a word names. -/
def attribute? (word : List Char) : Option String :=
  let word := String.ofList word
  if word ∈ attributeNames then some word else shortNames.lookup word

set_option maxRecDepth 4000 in
/-- The colors with names. -/
def colorNames : List String :=
  ["black", "red", "green", "yellow", "blue", "magenta", "cyan", "white", "bright_black",
   "bright_red", "bright_green", "bright_yellow", "bright_blue", "bright_magenta", "bright_cyan",
   "bright_white", "grey0", "gray0", "navy_blue", "dark_blue", "blue3", "blue1", "dark_green",
   "deep_sky_blue4", "dodger_blue3", "dodger_blue2", "green4", "spring_green4", "turquoise4",
   "deep_sky_blue3", "dodger_blue1", "green3", "spring_green3", "dark_cyan", "light_sea_green",
   "deep_sky_blue2", "deep_sky_blue1", "spring_green2", "cyan3", "dark_turquoise", "turquoise2",
   "green1", "spring_green1", "medium_spring_green", "cyan2", "cyan1", "dark_red", "deep_pink4",
   "purple4", "purple3", "blue_violet", "orange4", "grey37", "gray37", "medium_purple4",
   "slate_blue3", "royal_blue1", "chartreuse4", "dark_sea_green4", "pale_turquoise4", "steel_blue",
   "steel_blue3", "cornflower_blue", "chartreuse3", "cadet_blue", "sky_blue3", "steel_blue1",
   "pale_green3", "sea_green3", "aquamarine3", "medium_turquoise", "chartreuse2", "sea_green2",
   "sea_green1", "aquamarine1", "dark_slate_gray2", "dark_magenta", "dark_violet", "purple",
   "light_pink4", "plum4", "medium_purple3", "slate_blue1", "yellow4", "wheat4", "grey53", "gray53",
   "light_slate_grey", "light_slate_gray", "medium_purple", "light_slate_blue", "dark_olive_green3",
   "dark_sea_green", "light_sky_blue3", "sky_blue2", "dark_sea_green3", "dark_slate_gray3",
   "sky_blue1", "chartreuse1", "light_green", "pale_green1", "dark_slate_gray1", "red3",
   "medium_violet_red", "magenta3", "dark_orange3", "indian_red", "hot_pink3", "medium_orchid3",
   "medium_orchid", "medium_purple2", "dark_goldenrod", "light_salmon3", "rosy_brown", "grey63",
   "gray63", "medium_purple1", "gold3", "dark_khaki", "navajo_white3", "grey69", "gray69",
   "light_steel_blue3", "light_steel_blue", "yellow3", "dark_sea_green2", "light_cyan3",
   "light_sky_blue1", "green_yellow", "dark_olive_green2", "dark_sea_green1", "pale_turquoise1",
   "deep_pink3", "magenta2", "hot_pink2", "orchid", "medium_orchid1", "orange3", "light_pink3",
   "pink3", "plum3", "violet", "light_goldenrod3", "tan", "misty_rose3", "thistle3", "plum2",
   "khaki3", "light_goldenrod2", "light_yellow3", "grey84", "gray84", "light_steel_blue1",
   "yellow2", "dark_olive_green1", "honeydew2", "light_cyan1", "red1", "deep_pink2", "deep_pink1",
   "magenta1", "orange_red1", "indian_red1", "hot_pink", "dark_orange", "salmon1", "light_coral",
   "pale_violet_red1", "orchid2", "orchid1", "orange1", "sandy_brown", "light_salmon1",
   "light_pink1", "pink1", "plum1", "gold1", "navajo_white1", "misty_rose1", "thistle1", "yellow1",
   "light_goldenrod1", "khaki1", "wheat1", "cornsilk1", "grey100", "gray100", "grey3", "gray3",
   "grey7", "gray7", "grey11", "gray11", "grey15", "gray15", "grey19", "gray19", "grey23", "gray23",
   "grey27", "gray27", "grey30", "gray30", "grey35", "gray35", "grey39", "gray39", "grey42",
   "gray42", "grey46", "gray46", "grey50", "gray50", "grey54", "gray54", "grey58", "gray58",
   "grey62", "gray62", "grey66", "gray66", "grey70", "gray70", "grey74", "gray74", "grey78",
   "gray78", "grey82", "gray82", "grey85", "gray85", "grey89", "gray89", "grey93", "gray93"]

/-- The text between the end of `start` and a closing bracket at the end. -/
def between? (start : String) (cs : List Char) : Option (List Char) :=
  if start.toList.isPrefixOf cs && cs.getLast? = some ')' then
    some ((cs.drop start.length).dropLast)
  else none

/-- Whether three parts, between commas, are numbers up to 255. Parts in other numbers make no
color. -/
def isTriple (cs : List Char) : Except MarkupError Bool :=
  if cs = [] ∨ cs.any (fun c => c ≠ ',' && (Text.digitValue? c).isNone) then .ok false
  else
    match cs.splitOn ',' with
    | [r, g, b] =>
      match Decimal.decimalInteger? r, Decimal.decimalInteger? g, Decimal.decimalInteger? b with
      | some r, some g, some b => .ok (r ≤ 255 && g ≤ 255 && b ≤ 255)
      | _, _, _ => .error .badColor
    | _ => .ok false

/-- Whether a word in lower case is a color: a name, six digits in base sixteen behind `#`, a number
up to 255, or three of them. -/
def isColor (word : List Char) : Except MarkupError Bool :=
  if word = "default".toList ∨ String.ofList word ∈ colorNames then .ok true
  else
    match word, between? "color(" word, between? "rgb(" word with
    | '#' :: ds, _, _ => .ok (ds.length = 6 && ds.all fun d => (Text.hexValue? d).isSome)
    | _, some ds, _ =>
      .ok (ds ≠ [] && ds.length ≤ 3 && ds.all Text.isPlainDigit &&
        Text.digitsToNat 10 (ds.map fun d => d.toNat - 48) ≤ 255)
    | _, _, some parts => isTriple parts
    | _, _, _ => .ok false

/-! ## Normal forms -/

/-- Read the words of a name, if they name a style. -/
def readWords (s : Style) : List (List Char) → Except MarkupError (Option Style)
  | [] => .ok (some s)
  | w :: ws => do
    let word := Text.lowered w
    if word = ['o', 'n'] then
      match ws with
      | [] => return none
      | c :: ws =>
        let c := Text.lowered c
        if ← isColor c then readWords { s with background := some c } ws else return none
    else if word = ['n', 'o', 't'] then
      match ws with
      | [] => return none
      | a :: ws =>
        match attribute? a with
        | some a => readWords { s with attributes := (a, false) :: s.attributes } ws
        | none => return none
    else if word = ['l', 'i', 'n', 'k'] then
      match ws with
      | [] => return none
      | address :: ws => readWords { s with link := some address } ws
    else
      match attribute? word with
      | some a => readWords { s with attributes := (a, true) :: s.attributes } ws
      | none => if ← isColor word then readWords { s with color := some word } ws else return none

/-- The words of the normal form of a style. -/
def words (s : Style) : List (List Char) :=
  (attributeNames.flatMap fun a =>
    match s.attributes.lookup a with
    | some true => [a.toList]
    | some false => [['n', 'o', 't'], a.toList]
    | none => []) ++
    s.color.toList ++
    (s.background.toList.flatMap fun c => [['o', 'n'], c]) ++
    s.link.toList.flatMap fun address => [['l', 'i', 'n', 'k'], address]

/-- The normal form of a style. -/
def text (s : Style) : List Char :=
  if s.words = [] then "none".toList else List.intercalate [' '] s.words

/-- The normal form of a name. -/
def normalForm (name : List Char) : Except MarkupError (List Char) := do
  if Text.trim name = "none".toList then return "none".toList
  match ← readWords {} (Text.words name) with
  | some s => return s.text
  | none => return Text.lowered (Text.trim name)

end Style

end Restyle.CommandLine
