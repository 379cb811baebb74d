import RateGuard.Ipir.Package

/-!
# Oracle failures

Every way an evaluation can end without a result. The oracle's own errors carry
what their messages interpolate and know the subclass they are raised as; the
other failures are interpreter exceptions that no handler turned into one.
-/

open DecimalFloat CalendarDate

namespace RateGuard

/-- Subclasses of the oracle's error type. -/
inductive OracleErrorKind where
  | oracle | inputValidation | tableLookup | expressionEvaluation | conditionEvaluation
  | referenceResolution | effectiveDate
  deriving DecidableEq, Repr

/-- Causes of a failed input conversion that are reported as invalid input. -/
inductive ConversionFault where
  | value | type | invalidOperation
  deriving DecidableEq

/-- Errors the oracle raises itself, with their reported data. -/
inductive OracleError where
  | packageInactive (packageId : String) (calculationDate start : Date) (endDate : Option Date)
  | unsupportedTransaction (transaction : TransactionType) (packageId : String)
    (supported : List TransactionType)
  | missingInput (inputId : String)
  | unparsableBoolean (inputId : String) (value : Value)
  | invalidInput (inputId : String) (value : Value) (dataType : InputDataType)
    (cause : ConversionFault)
  | disallowedValue (inputId : String) (value : Value) (allowed : List String)
  | belowMinimum (inputId : String) (value : Value) (minimum : Bound)
  | aboveMaximum (inputId : String) (value : Value) (maximum : Bound)
  | extraInputs (extra : List String)
  | noMatchingRow (tableId : String) (dimensions : List (String × Option Value))
  | ambiguousRows (tableId : String) (matching : Nat)
    (dimensions : List (String × Option Value))
  | unconvertibleOperand (value : Value)
  | divisionByZero
  | dependencyCycle
  | incomparable (left right : Value) (operator : ComparisonOperator)
  | unresolvedReference (ref : String)
  | noOutputs (packageId : String)

/-- Subclass an oracle error is raised as. -/
def OracleError.kind : OracleError → OracleErrorKind
  | packageInactive .. => .effectiveDate
  | unsupportedTransaction .. | noOutputs .. => .oracle
  | missingInput .. | unparsableBoolean .. | invalidInput .. | disallowedValue ..
  | belowMinimum .. | aboveMaximum .. | extraInputs .. => .inputValidation
  | noMatchingRow .. | ambiguousRows .. => .tableLookup
  | unconvertibleOperand .. | divisionByZero | dependencyCycle => .expressionEvaluation
  | incomparable .. => .conditionEvaluation
  | unresolvedReference .. => .referenceResolution

/-- Failure of an evaluation or an analysis: an oracle error, an exception of the interpreter or
of the result schema, a cyclic dependency graph, or a calculation date out of period. -/
inductive Failure where
  | oracle (error : OracleError)
  | decimal (signal : Signal)
  | valueError
  | typeError
  | overflowError
  | indexError
  | keyError (key : String)
  | schema (nodeId : String)
  | cyclicDependencies
  | calculationDate (date : Date) (packageId : String)

/-- Whether a failure is of the oracle's own error type. -/
def Failure.isOracle : Failure → Bool
  | oracle _ => true
  | decimal _ | valueError | typeError | overflowError | indexError | keyError _ | schema _
  | cyclicDependencies | calculationDate .. => false

/-- An arithmetic result whose signal escapes as an exception. -/
def raising {α : Type} (result : Except Signal α) : Except Failure α :=
  match result with
  | .ok value => .ok value
  | .error signal => .error (.decimal signal)

/-- An integer conversion whose fault escapes as an exception. -/
def raisingInt (result : Except IntFault Int) : Except Failure Int :=
  match result with
  | .ok value => .ok value
  | .error .value => .error .valueError
  | .error .type => .error .typeError
  | .error .overflow => .error .overflowError

end RateGuard
