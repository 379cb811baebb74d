import RateGuard.Oracle.Expression

/-!
# Risk input validation

Each declared input is looked up, derived from its claims-free counterpart when
absent, converted to its declared type and checked against its accepted texts
and bounds. Only some conversion faults become input errors.
-/

open DecimalFloat CalendarDate

namespace RateGuard

/-- Supplied risk values by input identifier. -/
structure RiskInput where
  /-- Entries in supplied order. -/
  values : List (String × RiskValue)
  /-- Identifiers are keys. -/
  distinct : (values.map Prod.fst).Nodup

/-- Supplied value of an input. -/
def RiskInput.get (risk : RiskInput) (id : String) : Option Value :=
  (risk.values.lookup id).map RiskValue.toValue

/-- Basic letters of a text in lower case. -/
def lowerText (text : List Char) : List Char := text.map Char.toLower

/-- Whether text reads as true. -/
def readsTrue (text : List Char) : Bool :=
  lowerText text == "true".toList || lowerText text == "1".toList

/-- Whether text reads as false. -/
def readsFalse (text : List Char) : Bool :=
  lowerText text == "false".toList || lowerText text == "0".toList

/-- Value of an input: supplied, or derived from the claims-free counterpart, or absent
when optional. -/
def suppliedValue (input : PricingInput) (risk : RiskInput) : Except Failure (Option Value) :=
  match risk.get input.id with
  | some value => .ok (some value)
  | none =>
    match input.id == "claims_free", risk.get "claims_free_years",
        input.id == "claims_free_years", risk.get "claims_free" with
    | true, some years, _, _ => do return some (.bool (3 ≤ (← raisingInt years.toInt)))
    | _, _, true, some free => .ok (some (.int (if readsTrue free.text then 3 else 0)))
    | _, _, _, _ =>
      if input.required then .error (.oracle (.missingInput input.id)) else .ok none

/-- Reports a conversion fault as invalid input. -/
def invalidInput {α : Type} (input : PricingInput) (value : Value) (cause : ConversionFault) :
    Except Failure α :=
  .error (.oracle (.invalidInput input.id value input.dataType cause))

/-- Converts a supplied value to the declared type. -/
def convertInput (input : PricingInput) (value : Value) : Except Failure Value :=
  match input.dataType with
  | .integer =>
    match value.toInt with
    | .ok converted => .ok (.int converted)
    | .error .value => invalidInput input value .value
    | .error .type => invalidInput input value .type
    | .error .overflow => .error .overflowError
  | .decimal | .money =>
    match value.toDecimal with
    | .ok converted => .ok (.decimal converted)
    | .error _ => invalidInput input value .invalidOperation
  | .string | .category => .ok (.str value.toString)
  | .boolean =>
    match value with
    | .bool value => .ok (.bool value)
    | value =>
      if readsTrue value.text then .ok (.bool true)
      else if readsFalse value.text then .ok (.bool false)
      else .error (.oracle (.unparsableBoolean input.id value))
  | .date =>
    match value with
    | .date value => .ok (.date value)
    | value =>
      match fromIsoformat value.text with
      | some converted => .ok (.date converted)
      | none => invalidInput input value .value

/-- Whether the declared type has numeric bounds. -/
def InputDataType.isNumeric : InputDataType → Bool
  | integer | decimal | money => true
  | string | boolean | category | date => false

/-- Checks the accepted texts of a converted value. -/
def checkAllowed (input : PricingInput) (value : Value) : Except Failure Unit :=
  match input.allowedValues with
  | some allowed =>
    if allowed.contains value.toString then .ok ()
    else .error (.oracle (.disallowedValue input.id value allowed))
  | none => .ok ()

/-- Checks the bounds of a converted number. -/
def checkBounds (input : PricingInput) (value : Value) : Except Failure Unit :=
  if input.dataType.isNumeric then do
    let number ← raising value.toDecimal
    match input.minimum with
    | some minimum =>
      if ← raising (number.lt minimum.toDecimal) then
        .error (.oracle (.belowMinimum input.id value minimum))
    | none => pure ()
    match input.maximum with
    | some maximum =>
      if ← raising (maximum.toDecimal.lt number) then
        .error (.oracle (.aboveMaximum input.id value maximum))
    | none => pure ()
  else .ok ()

/-- Validated value of one input, absent for an optional input not supplied. -/
def validateInput (risk : RiskInput) (input : PricingInput) : Except Failure (Option Value) := do
  match ← suppliedValue input risk with
  | none => return none
  | some value =>
    let converted ← convertInput input value
    checkAllowed input converted
    checkBounds input converted
    return some converted

/-- Validated entry of one input. -/
def validateEntry (risk : RiskInput) (input : PricingInput) :
    Except Failure (Option (String × Value)) := do
  return (← validateInput risk input).map fun value => (input.id, value)

/-- Supplied identifiers the package does not declare. -/
def extraKeys (inputs : List PricingInput) (risk : RiskInput) : List String :=
  (risk.values.map Prod.fst).filter fun id => !(inputs.map (·.id)).contains id

/-- `validate_risk_inputs`: validated entries in declaration order. -/
def validateRiskInputs (inputs : List PricingInput) (risk : RiskInput) (strict : Bool) :
    Except Failure (List (String × Value)) := do
  let validated ← inputs.mapM (validateEntry risk)
  if strict && !(extraKeys inputs risk).isEmpty then
    .error (.oracle (.extraInputs (extraKeys inputs risk)))
  else return validated.filterMap id

end RateGuard
