import RateGuard.Foundation.DecimalText
import RateGuard.Ipir.Value

/-!
# Cells of a workbook

Values of worksheet cells and the lenient readers of the mapping: a cell is read as trimmed text,
as a flag with a default and as a decimal, where a text that is no number reads like a blank cell.
What the interpreter knows of letters outside ASCII is a parameter.
-/

open DecimalFloat

namespace RateGuard

/-- Value of a cell. -/
inductive Cell where
  | blank
  | str (text : String)
  | int (value : Int)
  | bool (value : Bool)
  /-- A fractional number, a date or another object, as it is printed. -/
  | printed (text : String)
  deriving DecidableEq

/-- Row of a worksheet: its cells by column name. -/
abbrev Row := String → Cell

/-- Letter tables of the interpreter. -/
structure Letters where
  /-- `str.lower`. -/
  lower : String → String
  /-- `str.upper` of a character. -/
  upperChar : Char → List Char
  /-- `str.isupper`. -/
  isUpper : String → Bool
  /-- Whether a character is part of a word. -/
  isWord : Char → Bool
  /-- ASCII characters have one uppercase character. -/
  upper_ascii : ∀ character : Char, character.toNat < 128 →
    upperChar character = [character.toUpper]
  /-- ASCII words have letters, digits and underscores. -/
  word_ascii : ∀ character : Char, character.toNat < 128 →
    isWord character = (character.isAlphanum || character == '_')

/-- `str.upper`. -/
def Letters.upper (letters : Letters) (text : String) : String :=
  String.ofList (text.toList.flatMap letters.upperChar)

/-- `str` of a value that is not blank. -/
def Cell.print : Cell → Option (List Char)
  | .blank => none
  | .str text => some text.toList
  | .int value => some (intText value)
  | .bool value => some (Value.text (.bool value))
  | .printed text => some text.toList

/-- `_s`: trimmed text, if there is any. -/
def Cell.text (cell : Cell) : Option String :=
  (cell.print.map Text.strip).bind fun trimmed =>
    if trimmed = [] then none else some (String.ofList trimmed)

/-- Texts read as true. -/
def trueStrings : List String := ["true", "1", "yes", "y"]

/-- Texts read as false. -/
def falseStrings : List String := ["false", "0", "no", "n", ""]

/-- Flag that a text spells. -/
def Letters.flag? (letters : Letters) (text : String) : Option Bool :=
  if letters.lower text ∈ trueStrings then some true
  else if letters.lower text ∈ falseStrings then some false
  else none

/-- `_bool`: a text that spells no flag has the default. -/
def Cell.toBool (letters : Letters) (cell : Cell) (default : Bool) : Bool :=
  match cell.text with
  | some text => (letters.flag? text).getD default
  | none => default

/-- `_decimal`: a text that is no number has no value. -/
def Cell.toDecimal (cell : Cell) : Option Decimal :=
  cell.text.bind fun text => Decimal.parse text.toList

/-- Trimmed parts of a text between commas that are not empty. -/
def commaParts (text : String) : List String :=
  ((text.toList.splitOn ',').map Text.strip).filterMap fun part =>
    if part = [] then none else some (String.ofList part)

/-- Parts of a text between whitespace. -/
def words (text : List Char) : List (List Char) := (text.splitOnP Text.isSpace).filter (· ≠ [])

end RateGuard
