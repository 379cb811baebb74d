import RateGuard.Diff.Comparator

/-!
# Risk predicates of differences

Which policies a difference concerns: a window of dates, the keys of a table
row, or the eligibility of a modifier. Differences without risk conditions of
their own get a predicate that every policy satisfies.
-/

open DecimalFloat CalendarDate

namespace RateGuard

/-- Relation of one policy field to a value. -/
structure PredicateClause where
  /-- Policy field. -/
  field : String
  /-- Comparison. -/
  operator : ComparisonOperator
  /-- Compared value. -/
  value : RiskValue
  deriving DecidableEq

/-- Conditions of the policies a difference concerns. -/
structure ImpactPredicate where
  /-- Identifier of the predicate. -/
  id : String
  /-- Clauses that all hold. -/
  clauses : List PredicateClause
  /-- First date of the window. -/
  temporalStart : Option Date
  /-- Date after the window. -/
  temporalEnd : Option Date
  deriving DecidableEq

/-- Predicate that every policy satisfies. -/
def globalPredicate (difference : SemanticDifference) : ImpactPredicate where
  id := "pred_" ++ difference.id
  clauses := []
  temporalStart := none
  temporalEnd := none

/-- Clause of a comparison between a reference and a literal. The operator is kept when the
literal stands on the left. -/
def eligibilityClause (condition : Condition) : Option PredicateClause :=
  match condition with
  | .comparison (.reference field) operator (.literal value)
  | .comparison (.literal value) operator (.reference field) =>
    some ⟨field, operator, .literal value⟩
  | _ => none

/-- Whether a value counts as present. -/
def Value.truthy : Value → Bool
  | int value => value ≠ 0
  | decimal value => value.eq (.ofInt 0) != .ok true
  | str value => value ≠ ""
  | bool value => value
  | date _ => true

/-- Date written in a side of a difference. -/
def differenceDate (value : Option Value) : Except Failure (Option Date) :=
  match value.filter Value.truthy with
  | none => .ok none
  | some value =>
    match fromIsoformat value.text with
    | some date => .ok (some date)
    | none => .error .valueError

/-- Earlier and later of the given dates. -/
def dateWindow (left right : Option Date) : Option Date × Option Date :=
  match left, right with
  | some left, some right => (some (min left right), some (max left right))
  | some date, none | none, some date => (some date, some date)
  | none, none => (none, none)

/-- Clause of one written bound; the text of no bound gives none. -/
def boundClause (unbounded : List Char) (field : String) (operator : ComparisonOperator)
    (text : List Char) : Except Failure (List PredicateClause) :=
  if text = unbounded then .ok []
  else
    match Decimal.parse text with
    | some (.finite negative coefficient exponent) =>
      .ok [⟨field, operator, .literal (.decimal ⟨negative, coefficient, exponent⟩)⟩]
    | some (.infinity _) | some (.nan _) => .error .valueError
    | none => .error (.decimal .invalidOperation)

/-- Clauses of the key text of one dimension. -/
def partClauses (dimension : TableDimension) (part : List Char) :
    Except Failure (List PredicateClause) :=
  match dimension.lookupType with
  | .exact => .ok [⟨dimension.inputRef, .eq, .literal (.str (String.ofList part))⟩]
  | .range =>
    match Text.splitOnDouble '.' part with
    | [] | [_] => .ok []
    | [low, high] => do
      return (← boundClause "-inf".toList dimension.inputRef .gte low) ++
        (← boundClause "+inf".toList dimension.inputRef .lte high)
    | _ => .error .valueError

/-- Clauses of a row's key text, dimension by dimension. -/
def rowClauses (dimensions : List TableDimension) (key : String) :
    Except Failure (List PredicateClause) := do
  let parts ← (dimensions.zip (key.toList.splitOn '|')).mapM fun pair =>
    partClauses pair.1 pair.2
  return parts.flatten

/-- `derive_predicate_from_difference`. -/
def derivePredicate (difference : SemanticDifference) (package : PackageContent) :
    Except Failure ImpactPredicate :=
  match difference.differenceType with
  | .effectiveDateChange => do
    let left ← differenceDate difference.leftValue
    let right ← differenceDate difference.rightValue
    let window := dateWindow left right
    return { globalPredicate difference with
      temporalStart := window.1
      temporalEnd := window.2 }
  | .tableRowChange | .tableRowMissing | .tableRowExtra =>
    match package.tables.find? (·.id == difference.nodeId) with
    | none => .ok (globalPredicate difference)
    | some table => do
      let clauses ← rowClauses table.dimensions (difference.dimensionKey.getD "")
      return { globalPredicate difference with clauses := clauses }
  | .modifierChange =>
    match (package.modifiers.find? (·.id == difference.nodeId)).bind
        fun modifier => modifier.eligibility.bind eligibilityClause with
    | some clause => .ok { globalPredicate difference with clauses := [clause] }
    | none => .ok (globalPredicate difference)
  | _ => .ok (globalPredicate difference)

end RateGuard
