import RateGuard.Impact.Predicates
import RateGuard.Testing.PackageProbes

/-!
# Candidate scenarios

Scenarios aimed at the differences of two packages: the bounds of every range predicate, every
predicate of equalities alone and all of them together, the dates around a changed start, and the
order of charges. Each varies a base policy. The description of a difference is a parameter.
-/

open DecimalFloat CalendarDate TopologicalSort Outcome

namespace RateGuard

/-- The day after a date; the last day of the calendar has none. -/
def nextDay (date : Date) : Option Date :=
  if date.day < daysInMonth date.year date.month then
    Date.ofNumbers date.year date.month (date.day + 1)
  else if date.month < 12 then Date.ofNumbers date.year (date.month + 1) 1
  else Date.ofNumbers (date.year + 1) 1 1

/-- `date + timedelta(days)`. -/
def daysAfter (date : Date) : Nat → Except Failure Date
  | 0 => .ok date
  | days + 1 => do
    match nextDay (← daysAfter date days) with
    | some next => return next
    | none => .error .overflowError

/-- Neutral value of an input: its first accepted text, false, the middle of its bounds, its only
bound or zero, or a placeholder; a date has none. -/
def neutralValue (input : PricingInput) : Except Failure (Option Value) :=
  match input.allowedValues with
  | some (text :: _) =>
    match input.dataType with
    | .integer => do return some (.int (← raisingInt (Value.str text).toInt))
    | .decimal | .money => do return some (.decimal (← raising (Value.str text).toDecimal))
    | .string | .boolean | .category | .date => return some (.str text)
  | some [] | none =>
    match input.dataType with
    | .boolean => return some (.bool false)
    | .integer | .decimal | .money =>
      match input.minimum, input.maximum with
      | some minimum, some maximum => do
        let middle ← midpoint minimum maximum
        if input.dataType = .integer then
          return some (.int (← raisingInt (Value.decimal middle).toInt))
        else return some (.decimal middle)
      | some bound, none | none, some bound => return some bound.toValue
      | none, none => return some (.int 0)
    | .string | .category => return some (.str "DEFAULT")
    | .date => return none

/-- `_derive_base_risk`. -/
def deriveBaseRisk (package : PackageContent) : Except Failure ProbeValues :=
  package.inputs.foldlM (fun values input => do
    match ← neutralValue input with
    | some value => return values.set input.id value
    | none => return values) .empty

/-- `_default_probe_date`: twenty days after the start, at most the end of the period. -/
def defaultProbeDate (package : PackageContent) : Except Failure Date := do
  let date ← daysAfter package.effectivePeriod.start 20
  match package.effectivePeriod.endDate with
  | some last => return if last < date then last else date
  | none => return date

/-- Values around a range. -/
inductive BoundaryLabel where
  | justBelow | lowerBound | interior | upperBound | justAbove
  deriving DecidableEq, Repr

/-- Text of a label. -/
def BoundaryLabel.text : BoundaryLabel → String
  | justBelow => "just_below"
  | lowerBound => "lower_bound"
  | interior => "interior"
  | upperBound => "upper_bound"
  | justAbove => "just_above"

/-- Whether a label is of a value meant to lie outside of the range. -/
def BoundaryLabel.isControl : BoundaryLabel → Bool
  | justBelow | justAbove => true
  | lowerBound | interior | upperBound => false

/-- `int(str(value))`. -/
def textInteger (value : Value) : Except Failure Int :=
  match Text.parseInt value.text with
  | some number => .ok number
  | none => .error .valueError

/-- Integer of an optional bound. -/
def boundInteger : Option RiskValue → Except Failure (Option Int)
  | some bound => (textInteger bound.toValue).map some
  | none => .ok none

/-- `generate_range_boundary_values`. -/
def generateRangeBoundaryValues (minimum maximum : Option RiskValue) :
    Except Failure (List (BoundaryLabel × Int)) := do
  let low ← boundInteger minimum
  let high ← boundInteger maximum
  let below := (low.map fun low => [(BoundaryLabel.justBelow, low - 1),
    (BoundaryLabel.lowerBound, low)]).getD []
  let inside := match low, high with
    | some low, some high => [(BoundaryLabel.interior, (low + high) / 2)]
    | _, _ => []
  let above := (high.map fun high => [(BoundaryLabel.upperBound, high),
    (BoundaryLabel.justAbove, high + 1)]).getD []
  return below ++ inside ++ above

/-- Smallest and largest compared values of a predicate and the field of its last clause. -/
structure PredicateRange where
  /-- Value of the last lower bound. -/
  minimum : Option RiskValue
  /-- Value of the last upper bound. -/
  maximum : Option RiskValue
  /-- Field of the last clause. -/
  field : Option String

/-- Reads a clause into the range. -/
def PredicateRange.read (range : PredicateRange) (clause : PredicateClause) : PredicateRange :=
  match clause.operator with
  | .gte | .gt => { range with minimum := some clause.value, field := some clause.field }
  | .lte | .lt => { range with maximum := some clause.value, field := some clause.field }
  | .eq | .ne => { range with field := some clause.field }

/-- Range of a predicate. -/
def predicateRange (predicate : ImpactPredicate) : PredicateRange :=
  predicate.clauses.foldl PredicateRange.read ⟨none, none, none⟩

/-- Raises an integer to a declared minimum. -/
def clampBelow (input : PricingInput) (value : Int) : Except Failure Int :=
  match input.minimum with
  | some bound => do return max (← textInteger bound.toValue) value
  | none => .ok value

/-- Lowers an integer to a declared maximum. -/
def clampAbove (input : PricingInput) (value : Int) : Except Failure Int :=
  match input.maximum with
  | some bound => do return min (← textInteger bound.toValue) value
  | none => .ok value

/-- An integer moved into the declared domain of an input, if the package has the input. -/
def clampToDomain (package : PackageContent) (field : String) (value : Int) :
    Except Failure Int :=
  match package.inputs.find? (·.id == field) with
  | some input => do clampAbove input (← clampBelow input value)
  | none => .ok value

section Candidates

variable (description : SemanticDifference → String) (diffResult : SemanticDiffResult)

/-- Whether a difference mentions a field in its path, its node or its description. -/
def mentionsField (field : String) (difference : SemanticDifference) : Bool :=
  decide (field.toList <:+: difference.semanticPath.toList) ||
    decide (field.toList <:+: difference.nodeId.toList) ||
    decide (field.toList <:+: (description difference).toList)

/-- Candidate without an identifier. -/
def draftCandidate (name : String) (values : ProbeValues) (date : Date)
    (classification : ScenarioClassification) (targets : List SemanticDifference)
    (tags : List String) : Except Failure TestScenario := do
  let risk ← values.risk
  return {
    id := ""
    riskValues := risk
    effectiveDate := date
    transactionType := .newBusiness
    name := name
    classification := classification
    targetDifferenceIds := targets.map (·.id)
    targetIssueGroupIds := []
    targetNodeIds := targets.map (·.nodeId)
    tags := tags
    score := 0
    origin := .mutation }

/-- Candidate at one value around the range of a field. -/
def rangeCandidate (package : PackageContent) (base : ProbeValues) (date : Date) (field : String)
    (bound : BoundaryLabel × Int) : Except Failure TestScenario := do
  let value ← clampToDomain package field bound.2
  let text := (Value.int value).toString
  draftCandidate ("Predicate Boundary Scenario (" ++ field ++ "=" ++ text ++ " [" ++
      bound.1.text ++ "])")
    (base.set field (.int value)) date (if bound.1.isControl then .control else .boundary)
    (diffResult.differences.filter (mentionsField description field))
    [if bound.1.isControl then "CONTROL" else "BOUNDARY", "VAL_" ++ text]

/-- Candidates around the range of a predicate, if it has one. -/
def rangeCandidates (package : PackageContent) (base : ProbeValues) (date : Date)
    (predicate : ImpactPredicate) : Except Failure (List TestScenario) :=
  let range := predicateRange predicate
  match range.field.filter (· ≠ "") with
  | some field =>
    if range.minimum.isSome || range.maximum.isSome then do
      let bounds ← generateRangeBoundaryValues range.minimum range.maximum
      bounds.mapM (rangeCandidate description diffResult package base date field)
    else return []
  | none => return []

/-- Whether a predicate has clauses and all of them are equalities. -/
def isExactPredicate (predicate : ImpactPredicate) : Bool :=
  predicate.clauses ≠ [] && predicate.clauses.all (·.operator = .eq)

/-- Values with the fields of all clauses set. -/
def satisfyClauses (values : ProbeValues) (clauses : List PredicateClause) : ProbeValues :=
  clauses.foldl (fun values clause => values.set clause.field clause.value.toValue) values

/-- Differences a predicate was derived from. -/
def predicateTargets (predicate : ImpactPredicate) : List SemanticDifference :=
  diffResult.differences.filter fun difference => "pred_" ++ difference.id = predicate.id

/-- Candidate that satisfies one predicate of equalities. -/
def exactCandidate (base : ProbeValues) (date : Date) (predicate : ImpactPredicate) :
    Except Failure TestScenario :=
  draftCandidate ("Isolated Single-Defect Scenario (" ++ ", ".intercalate
      (predicate.clauses.map fun clause => clause.field ++ "=" ++ clause.value.toValue.toString) ++
      ")")
    (satisfyClauses base predicate.clauses) date .singleDefect
    (predicateTargets diffResult predicate) ["SINGLE_DEFECT"]

/-- Candidate that satisfies all predicates of equalities, if there are several. -/
def combinedCandidate (base : ProbeValues) (date : Date) (exact : List ImpactPredicate) :
    Except Failure (List TestScenario) :=
  if 1 < exact.length then do
    let candidate ← draftCandidate "Combined Multi-Defect Scenario"
      (satisfyClauses base (exact.flatMap (·.clauses))) date .multiDefect
      (diffResult.differences.filter fun difference =>
        exact.any fun predicate => "pred_" ++ difference.id = predicate.id) ["MULTI_DEFECT"]
    return [candidate]
  else return []

/-- Date written on the right of a difference, if it is one. -/
def rightDate (difference : SemanticDifference) : Option Date :=
  (difference.rightValue.filter Value.truthy).bind fun value => fromIsoformat value.text

/-- Candidates before and after the later start of a difference. -/
def temporalCandidates (package : PackageContent) (base : ProbeValues)
    (difference : SemanticDifference) : Except Failure (List TestScenario) :=
  match (rightDate difference).filter (package.effectivePeriod.start < ·) with
  | none => return []
  | some start => do
    let before ← daysAfter package.effectivePeriod.start 5
    let after ← daysAfter start 5
    let early ← draftCandidate ("Temporal Effective Date Drift Pre-Window (" ++
      difference.nodeId ++ ")") base before .temporal [difference] ["TEMPORAL", "PRE_WINDOW"]
    let late ← draftCandidate ("Temporal Effective Date Drift Post-Window (" ++
      difference.nodeId ++ ")") base after .temporal [difference] ["TEMPORAL", "POST_WINDOW"]
    return [early, late]

/-- Overrides that push a policy past its minimum premium. -/
def sequenceOverrides : List (String × Value) :=
  [("dwelling_limit", .int 700000), ("multi_policy", .bool false), ("claims_free", .bool false)]

/-- Values with the overrides of the fields they have. -/
def overrideKnown (values : ProbeValues) : ProbeValues :=
  sequenceOverrides.foldl (fun values override =>
    if (values.entries.map Prod.fst).contains override.1 then values.set override.1 override.2
    else values) values

/-- Candidate for changed sequences, if there are any. -/
def orderCandidates (base : ProbeValues) (date : Date) : Except Failure (List TestScenario) :=
  let changes := diffResult.differences.filter (·.differenceType = .orderChange)
  if changes = [] then return []
  else do
    let candidate ← draftCandidate "Sequence Order Pre-Minimum Floor Scenario"
      (overrideKnown base) date .constraintOrder changes ["SEQUENCE", "ORDER_MISMATCH"]
    return [candidate]

/-- Differences whose predicate every policy satisfies on every date, in order of their texts and
each once. -/
def globalTargets (predicates : List ImpactPredicate) : List String :=
  ((diffResult.differences.flatMap fun difference =>
    (predicates.filter fun predicate => predicate.id = "pred_" ++ difference.id &&
      predicate.clauses = [] && predicate.temporalStart = none).map fun _ => difference.id).dedup
  ).insertionSort (· ≤ ·)

/-- Candidates numbered from one. -/
def numberCandidates (prefixText : String) (candidates : List TestScenario) : List TestScenario :=
  (candidates.zipIdx 1).map fun candidate =>
    { candidate.1 with id := prefixText ++ String.ofList (padded 3 candidate.2) }

/-- Values that candidates vary: those of a base risk, if it has any, or derived ones. -/
def candidateBase (package : PackageContent) (baseRisk : Option RiskInput) :
    Except Failure ProbeValues :=
  match baseRisk.filter (·.values ≠ []) with
  | some risk => .ok risk.probeValues
  | none => deriveBaseRisk package

/-- Date of candidates: the given one, or the default. -/
def candidateDate (package : PackageContent) : Option Date → Except Failure Date
  | some date => .ok date
  | none => defaultProbeDate package

/-- `generate_candidate_scenarios`. -/
def generateCandidateScenarios (predicates : List ImpactPredicate) (package : PackageContent)
    (baseRisk : Option RiskInput) (baseDate : Option Date) : Except Failure (List TestScenario) := do
  let base ← candidateBase package baseRisk
  let date ← candidateDate package baseDate
  let baseline ← draftCandidate "Baseline Control Scenario" base date .control [] ["CONTROL"]
  let ranges ← predicates.mapM (rangeCandidates description diffResult package base date)
  let exact := predicates.filter isExactPredicate
  let isolated ← exact.mapM (exactCandidate diffResult base date)
  let combined ← combinedCandidate diffResult base date exact
  let temporal ← (diffResult.differences.filter (·.differenceType = .effectiveDateChange)).mapM
    (temporalCandidates package base)
  let order ← orderCandidates diffResult base date
  let first := { baseline with
    targetDifferenceIds := globalTargets diffResult predicates, origin := .baseline }
  return numberCandidates "RG_CAND_"
    (first :: ranges.flatten ++ isolated ++ combined ++ temporal.flatten ++ order)

end Candidates

end RateGuard
