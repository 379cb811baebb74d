import RateGuard.Oracle.Errors

/-!
# Expression and condition evaluation

Operands evaluate all their children before the operator is applied; conditions
stop at the first deciding child. Numbers compare as decimals, booleans compare
as integers, and other types only with their own.
-/

open DecimalFloat

namespace RateGuard

/-- Values resolved so far, by node identifier. -/
abbrev Context := String → Option Value

/-- Context with one entry assigned. -/
def Context.set (context : Context) (id : String) (value : Value) : Context :=
  fun other => if other = id then some value else context other

/-- Assigned entry of a context. -/
@[simp] theorem Context.set_same (context : Context) (id : String) (value : Value) :
    context.set id value id = some value := if_pos rfl

/-- Other entries keep their value. -/
theorem Context.set_other (context : Context) {id other : String} (value : Value)
    (different : other ≠ id) : context.set id value other = context other := if_neg different

/-- Value of a referenced node. -/
def resolveReference (context : Context) (ref : String) : Except Failure Value :=
  match context ref with
  | some value => .ok value
  | none => .error (.oracle (.unresolvedReference ref))

/-- Quantum exponent of a rounding precision. -/
def roundingExponent (precision : Int) : Int :=
  if 0 < precision then max (-precision) decimalContext.etiny else 0

/-- `round_decimal`: quantizes to a number of decimal places. -/
def roundDecimal (value : Decimal) (precision : Int) (mode : Rounding) :
    Except Signal Decimal :=
  value.quantize decimalContext (roundingExponent precision) mode

/-- `_to_decimal`: operands that are no number become expression errors. -/
def operandDecimal (value : Value) : Except Failure Decimal :=
  match value.toDecimal with
  | .ok converted => .ok converted
  | .error _ => .error (.oracle (.unconvertibleOperand value))

/-- References and literals that are integers or booleans become decimals. -/
def numericResult (value : Value) : Except Failure Value :=
  match value with
  | .int _ | .bool _ => do return .decimal (← raising value.toDecimal)
  | other => .ok other

/-- First of the smallest values, as `min` scans them. -/
def minDecimal (first : Decimal) (rest : List Decimal) : Except Signal Decimal :=
  rest.foldlM (fun least value => do return if ← value.lt least then value else least) first

/-- First of the largest values, as `max` scans them. -/
def maxDecimal (first : Decimal) (rest : List Decimal) : Except Signal Decimal :=
  rest.foldlM (fun most value => do return if ← most.lt value then value else most) first

/-- Applies an arithmetic operator to converted operands. -/
def applyArithmetic (operator : ExpressionOperator) (operands : List Decimal) :
    Except Failure Decimal :=
  match operator, operands with
  | .add, first :: rest => raising (rest.foldlM (Decimal.add decimalContext) first)
  | .subtract, first :: rest => raising (rest.foldlM (Decimal.sub decimalContext) first)
  | .multiply, operands =>
    raising (operands.foldlM (Decimal.mul decimalContext) (Decimal.ofInt 1))
  | .divide, dividend :: divisor :: _ => do
    if ← raising (divisor.eq (Decimal.ofInt 0)) then .error (.oracle .divisionByZero)
    else
      match Decimal.div decimalContext dividend divisor with
      | .ok quotient => .ok quotient
      | .error .divisionByZero => .error (.oracle .divisionByZero)
      | .error signal => .error (.decimal signal)
  | .min, first :: rest => raising (minDecimal first rest)
  | .max, first :: rest => raising (maxDecimal first rest)
  | .min, [] | .max, [] => .error .valueError
  | _, _ => .error .indexError

/-- Applies an operator to evaluated operands. Rounding converts only its value and reads
its precision as an integer. -/
def applyOperator (operator : ExpressionOperator) (values : List Value) :
    Except Failure Decimal :=
  match operator, values with
  | .round, value :: precision => do
    let converted ← operandDecimal value
    let places ← match precision with
      | places :: _ => raisingInt places.toInt
      | [] => .ok 2
    raising (roundDecimal converted places .halfUp)
  | .round, [] => .error .indexError
  | operator, values => do applyArithmetic operator (← values.mapM operandDecimal)

mutual

/-- `evaluate_expression` over an operand. -/
def evaluateExpression (context : Context) : Operand → Except Failure Value
  | .reference ref => do numericResult (← resolveReference context ref)
  | .literal value => numericResult value.toValue
  | .expression operator operands => do
    return .decimal (← applyOperator operator (← evaluateOperands context operands))

/-- Evaluates operands from left to right. -/
def evaluateOperands (context : Context) : List Operand → Except Failure (List Value)
  | [] => .ok []
  | operand :: rest => do
    let value ← evaluateExpression context operand
    return value :: (← evaluateOperands context rest)

end

/-- `resolve_value`: references and literals keep their type. -/
def resolveValue (context : Context) (operand : Operand) : Except Failure Value :=
  match operand with
  | .reference ref => resolveReference context ref
  | .literal value => .ok value.toValue
  | expression => evaluateExpression context expression

/-- Number a value compares as; booleans compare as integers. -/
def comparisonNumber : Value → Option Decimal
  | .int value => some (.ofInt value)
  | .decimal value => some value
  | .bool value => some (.ofInt (if value then 1 else 0))
  | .str _ | .date _ => none

/-- Compares two decimals. -/
def compareDecimals (operator : ComparisonOperator) (left right : Decimal) :
    Except Signal Bool :=
  match operator with
  | .eq => left.eq right
  | .ne => do return !(← left.eq right)
  | .gt => right.lt left
  | .gte => right.le left
  | .lt => left.lt right
  | .lte => left.le right

/-- Compares two values of one totally ordered type. -/
def compareOrdered {α : Type} [LT α] [DecidableEq α] [DecidableLT α]
    (operator : ComparisonOperator) (left right : α) : Bool :=
  match operator with
  | .eq => left = right
  | .ne => left ≠ right
  | .gt => right < left
  | .gte => ¬left < right
  | .lt => left < right
  | .lte => ¬right < left

/-- Compares values of unrelated types: unequal, and without an order. -/
def compareUnrelated (operator : ComparisonOperator) (left right : Value) :
    Except Failure Bool :=
  match operator with
  | .eq => .ok false
  | .ne => .ok true
  | .gt | .gte | .lt | .lte => .error (.oracle (.incomparable left right operator))

/-- Compares values of which at least one is no number. -/
def compareTyped (operator : ComparisonOperator) (left right : Value) : Except Failure Bool :=
  match left, right with
  | .str first, .str second => .ok (compareOrdered operator first second)
  | .date first, .date second => .ok (compareOrdered operator first second)
  | left, right => compareUnrelated operator left right

/-- `evaluate_comparison` on resolved values. -/
def compareValues (operator : ComparisonOperator) (left right : Value) :
    Except Failure Bool :=
  match comparisonNumber left, comparisonNumber right with
  | some first, some second => raising (compareDecimals operator first second)
  | _, _ => compareTyped operator left right

mutual

/-- `evaluate_condition`: conjunctions and disjunctions stop at the first deciding child. -/
def evaluateCondition (context : Context) : Condition → Except Failure Bool
  | .comparison left operator right => do
    let leftValue ← resolveValue context left
    let rightValue ← resolveValue context right
    compareValues operator leftValue rightValue
  | .logical .and conditions => evaluateAll context conditions
  | .logical .or conditions => evaluateAny context conditions

/-- `all` over conditions. -/
def evaluateAll (context : Context) : List Condition → Except Failure Bool
  | [] => .ok true
  | condition :: rest => do
    if ← evaluateCondition context condition then evaluateAll context rest else return false

/-- `any` over conditions. -/
def evaluateAny (context : Context) : List Condition → Except Failure Bool
  | [] => .ok false
  | condition :: rest => do
    if ← evaluateCondition context condition then return true else evaluateAny context rest

end

end RateGuard
