import RateGuard.Foundation.CalendarDate
import RateGuard.Foundation.DecimalText
import RateGuard.Foundation.DecimalValue

/-!
# Runtime values

The dynamic values a rating context holds, their text and their conversions.
Conversions that can raise return the raised error; arithmetic runs in the
interpreter's default decimal context.
-/

open DecimalFloat CalendarDate

namespace RateGuard

/-- Default decimal context: 28 digits, half-even, exponents up to 999999. -/
def decimalContext : Context where
  precision := 28
  emax := 999999
  emin := -999999
  rounding := .halfEven
  positive := by decide
  centered := by decide

/-- Dynamic values of a rating context. -/
inductive Value where
  | int (value : Int)
  | decimal (value : Decimal)
  | str (value : String)
  | bool (value : Bool)
  | date (value : Date)
  deriving DecidableEq

/-- Typed literal admitted by the package schema; its decimals are finite. -/
inductive Literal where
  | int (value : Int)
  | decimal (value : FiniteDecimal)
  | str (value : String)
  | bool (value : Bool)
  deriving DecidableEq

/-- Runtime value of a literal. -/
def Literal.toValue : Literal → Value
  | int value => .int value
  | decimal value => .decimal value.toDecimal
  | str value => .str value
  | bool value => .bool value

/-- Risk input admitted by the request schema: a literal or a date. -/
inductive RiskValue where
  | literal (value : Literal)
  | date (value : Date)
  deriving DecidableEq

/-- Runtime value of a risk input. -/
def RiskValue.toValue : RiskValue → Value
  | literal value => value.toValue
  | date value => .date value

/-- Text of an integer. -/
def intText (value : Int) : List Char :=
  if value < 0 then '-' :: Text.digitsOf value.natAbs else Text.digitsOf value.natAbs

/-- Text of a value, as `str` prints it. -/
def Value.text : Value → List Char
  | int value => intText value
  | decimal value => value.text
  | str value => value.toList
  | bool value => if value then "True".toList else "False".toList
  | date value => value.isoformat

/-- `str(value)`. -/
def Value.toString (value : Value) : String := String.ofList value.text

/-- `Decimal(str(value))`: the text of a number reads back exactly, other text is parsed. -/
def Value.toDecimal : Value → Except Signal Decimal
  | int value => .ok (.ofInt value)
  | decimal value => .ok value
  | str value =>
    match Decimal.parse value.toList with
    | some parsed => .ok parsed
    | none => .error .invalidOperation
  | bool _ | date _ => .error .invalidOperation

/-- Whether a value is a number and no boolean. -/
def Value.isNumber : Value → Bool
  | int _ | decimal _ => true
  | str _ | bool _ | date _ => false

/-- Whether the interpreter counts a value as `int`, `float` or `Decimal`; booleans are
integers there. -/
def Value.isNumeric : Value → Bool
  | int _ | decimal _ | bool _ => true
  | str _ | date _ => false

/-- Failures of the integer conversion. -/
inductive IntFault where
  | value | type | overflow
  deriving DecidableEq

/-- `int(value)`. -/
def Value.toInt : Value → Except IntFault Int
  | int value => .ok value
  | decimal value =>
    match value with
    | .nan _ => .error .value
    | .infinity _ => .error .overflow
    | finite => .ok (finite.truncate.getD 0)
  | str value =>
    match Text.parseInt value.toList with
    | some parsed => .ok parsed
    | none => .error .value
  | bool value => .ok (if value then 1 else 0)
  | date _ => .error .type

/-- Whether the trace and the result schema accept a value: every type but dates, and no
decimal that is infinite or undefined. -/
def Value.recordable : Value → Bool
  | int _ | str _ | bool _ => true
  | decimal value =>
    match value with
    | .finite _ _ _ => true
    | .infinity _ | .nan _ => false
  | date _ => false

/-- Text of a nonnegative integer is numeric text at exponent zero. -/
theorem digitsOf_magnitudeText (magnitude : Nat) :
    Text.digitsOf magnitude = Decimal.magnitudeText magnitude 0 := by
  have length_pos : 0 < (Text.digitsOf magnitude).length := Nat.length_toDigits_pos
  have places : Decimal.pointPlaces (Text.digitsOf magnitude).length 0 =
      (Text.digitsOf magnitude).length := by
    unfold Decimal.pointPlaces
    rw [if_pos (by omega), zero_add]
  unfold Decimal.magnitudeText Decimal.pointed
  rw [places, if_neg (by omega), if_pos le_rfl, zero_add, sub_self]
  simp [Decimal.exponentText]

/-- The text of an integer is the text of the same exact decimal. -/
theorem intText_eq (value : Int) : intText value = (Decimal.ofInt value).text := by
  unfold intText Decimal.ofInt Decimal.text
  rw [digitsOf_magnitudeText]
  by_cases negative : value < 0 <;> simp [negative]

/-- Reading the printed text is the conversion of every number and every string. -/
theorem toDecimal_eq_parse (value : Value) (textual : value.isNumber ∨ ∃ s, value = .str s) :
    value.toDecimal =
      match Decimal.parse value.text with
      | some parsed => .ok parsed
      | none => .error .invalidOperation := by
  cases value with
  | int value => rw [Value.text, intText_eq, Decimal.parse_text, Value.toDecimal]
  | decimal value => rw [Value.text, Decimal.parse_text, Value.toDecimal]
  | str value => rfl
  | bool value => simp [Value.isNumber] at textual
  | date value => simp [Value.isNumber] at textual

end RateGuard
