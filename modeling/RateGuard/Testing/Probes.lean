import Mathlib.Data.List.Sort
import RateGuard.Foundation.DecimalNormal
import RateGuard.Oracle.Inputs

/-!
# Probe values

Raw values become typed probe values and are checked against the declared domain before any
evaluation. A probe is identified by its values in a normal form, its date and its transaction.
-/

open DecimalFloat CalendarDate

namespace RateGuard

/-- Raw value a probe is built from: nothing, a typed value, or what the interpreter prints of a
fraction or a structured value. -/
inductive RawValue where
  | null
  | value (value : Value)
  | printed (text : String)
  deriving DecidableEq

/-- `_to_decimal`: the number a raw value reads as. -/
def RawValue.number : RawValue → Option Decimal
  | null => none
  | value raw => raw.toDecimal.toOption
  | printed text => Decimal.parse text.toList

/-- Text a raw value is kept as; nothing and booleans have none. -/
def RawValue.kept : RawValue → Option String
  | null => none
  | value (.bool _) => none
  | value raw => some raw.toString
  | printed text => some text

/-- `int(d)` where `d` equals its integral value; an infinity is integral and has no integer. -/
def coerceInteger (number : Decimal) : Except Failure (Option Value) :=
  match number with
  | .nan true => .error (.decimal .invalidOperation)
  | .nan false => .ok none
  | .infinity _ => .error .overflowError
  | finite =>
    let whole := finite.truncate.getD 0
    .ok (if finite.eq (.ofInt whole) = .ok true then some (.int whole) else none)

/-- `_coerce`: the typed value of a raw value, or none when it has no faithful one. -/
def coerceRaw (input : PricingInput) (raw : RawValue) : Except Failure (Option Value) :=
  match input.dataType with
  | .boolean =>
    match raw with
    | .value (.bool value) => .ok (some (.bool value))
    | _ => .ok none
  | .integer =>
    match raw.number with
    | some number => coerceInteger number
    | none => .ok none
  | .decimal | .money => .ok (raw.number.map .decimal)
  | .string | .category | .date => .ok (raw.kept.map .str)

/-- Text of the normal form of a number. -/
def normalText (number : Decimal) : Except Failure (List Char) := do
  return (← raising (number.normalize decimalContext)).text

/-- Normal forms of the accepted texts that are numbers. -/
def normalTexts (allowed : List String) : Except Failure (List (List Char)) :=
  (allowed.filterMap fun text => Decimal.parse text.toList).mapM normalText

/-- Whether a number is within the declared bounds, the smallest checked first. -/
def withinBounds (input : PricingInput) (number : Decimal) : Except Failure Bool := do
  let below ← match input.minimum with
    | some minimum => raising (number.lt minimum.toDecimal)
    | none => .ok false
  if below then return false
  else
    let above ← match input.maximum with
      | some maximum => raising (maximum.toDecimal.lt number)
      | none => .ok false
    return !above

/-- `_in_domain`: accepted texts replace the bounds, and a number in the normal form of an
accepted text is accepted. -/
def inDomain (input : PricingInput) (value : Value) : Except Failure Bool :=
  match input.allowedValues with
  | some allowed => do
    let normal ← normalTexts allowed
    if allowed.contains value.toString then return true
    else
      match value.toDecimal.toOption with
      | none => return false
      | some number => return normal.contains (← normalText number)
  | none =>
    match value.toDecimal.toOption with
    | none => .ok !input.dataType.isNumeric
    | some number => withinBounds input number

/-- Typed probe values by input identifier, as a dictionary holds them. -/
structure ProbeValues where
  /-- Entries in insertion order. -/
  entries : List (String × Value)
  /-- Identifiers are keys. -/
  distinct : (entries.map Prod.fst).Nodup

/-- Text of a probe value in its key: the normal form of a number, else the text. -/
def keyText (value : Value) : Except Failure (List Char) :=
  match value with
  | .int number => normalText (.ofInt number)
  | .decimal number => normalText number
  | other => .ok other.text

/-- Identity of a probe. -/
structure ProbeKey where
  /-- Texts of the values, by identifier in order. -/
  items : List (String × List Char)
  /-- Calculation date. -/
  effectiveDate : Date
  /-- Transaction. -/
  transactionType : TransactionType
  deriving DecidableEq

/-- Item of a key. -/
def keyItem (entry : String × Value) : Except Failure (String × List Char) := do
  return (entry.1, ← keyText entry.2)

/-- Entries in the order of their identifiers. -/
def ProbeValues.sorted (values : ProbeValues) : List (String × Value) :=
  values.entries.insertionSort fun one two => one.1 ≤ two.1

/-- `canonical_probe_key`. -/
def canonicalProbeKey (values : ProbeValues) (date : Date) (transaction : TransactionType) :
    Except Failure ProbeKey := do
  return ⟨← values.sorted.mapM keyItem, date, transaction⟩

end RateGuard
