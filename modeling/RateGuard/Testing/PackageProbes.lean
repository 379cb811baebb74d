import RateGuard.Testing.Scenarios

/-!
# Package probes

Probes derived from a package itself: its control cases, a baseline of declared defaults when
there is none, and the boundaries of its tables and rules around a base policy. Everything is
tried on the oracle before it becomes a probe. What the interpreter prints of a fraction or a
structured value of a case is a parameter.
-/

open DecimalFloat CalendarDate TopologicalSort Outcome

namespace RateGuard

/-- Why a probe was skipped. -/
inductive SkipReason where
  | calculationDate
  | transactionType
  | input (id : String)
  | missingInputs (ids : List String)
  | noDeclaredDefaults
  | execution (failure : Failure)

/-- Record of a skipped probe. -/
structure SkippedProbe where
  /-- Where the probe comes from. -/
  origin : ProbeOrigin
  /-- What was skipped. -/
  ref : String
  /-- Why. -/
  reason : SkipReason

/-- Policy that probes vary. -/
structure BasePolicy where
  /-- Risk values. -/
  risk : RiskInput
  /-- Calculation date. -/
  date : Date

/-- Result of the probe generation. -/
structure PackageProbeResult where
  /-- Probes in order. -/
  scenarios : List TestScenario
  /-- Skipped probes. -/
  skipped : List SkippedProbe
  /-- Base policy, if any. -/
  base : Option BasePolicy

/-- Probes collected so far. -/
structure ProbeState where
  /-- Keys of the probes. -/
  seen : List ProbeKey
  /-- Probes in order. -/
  ordered : List TestScenario
  /-- Skipped probes. -/
  skipped : List SkippedProbe

/-- Records a skipped probe. -/
def ProbeState.skip (state : ProbeState) (origin : ProbeOrigin) (ref : String)
    (reason : SkipReason) : ProbeState :=
  { state with skipped := state.skipped ++ [⟨origin, ref, reason⟩] }

/-- Takes a probe under its key. -/
def ProbeState.take (state : ProbeState) (key : ProbeKey) (scenario : TestScenario) :
    ProbeState :=
  { state with seen := key :: state.seen, ordered := state.ordered ++ [scenario] }

/-- Raw value of a decoded value; what is printed of a fraction or a structured value is given. -/
def JsonValue.raw (printed : String) : JsonValue → RawValue
  | .null => .null
  | .bool value => .value (.bool value)
  | .int value => .value (.int value)
  | .str value => .value (.str value)
  | .float _ | .list | .object => .printed printed

/-- Whether a decoded value counts as present; empty structures do not. -/
def JsonValue.truthy (printed : String) : JsonValue → Bool
  | .null => false
  | .bool value => value
  | .int value => value ≠ 0
  | .str value => value ≠ ""
  | .float value => value.eq (.ofInt 0) != .ok true
  | .list => printed ≠ "[]"
  | .object => printed ≠ "{}"

/-- Date of a supplied value: the start of the package without one, or the date its text, without
outer whitespace, names. -/
def suppliedDate (package : PackageContent) : Option JsonValue → Option Date
  | none | some .null => some package.effectivePeriod.start
  | some (.str text) => fromIsoformat (Text.strip text.toList)
  | some _ => none

/-- `resolve_calculation_date`: the supplied date, if the package is active on it. -/
def resolveCalculationDate (package : PackageContent) (supplied : Option JsonValue) :
    Option Date :=
  (suppliedDate package supplied).filter fun date => isActive (some package.effectivePeriod) date

/-- Transaction of a case: the first supported one unless the case supplies a value, else the one
its text names. -/
def caseTransaction (package : PackageContent) (printed : String) (supplied : Option JsonValue) :
    Except Failure (Option TransactionType) :=
  match supplied.filter (·.truthy printed) with
  | none => (firstTransaction package).map some
  | some (.str text) => .ok (TransactionType.parse text)
  | some _ => .ok none

/-- Types the inputs of a case one after the other, up to the first that the package does not
declare or accept. -/
def typeInputs (package : PackageContent) :
    List (String × RawValue) → ProbeValues → Except Failure (Except SkipReason ProbeValues)
  | [], typed => .ok (.ok typed)
  | (key, raw) :: rest, typed =>
    match KeyedList.lastWith (·.id) package.inputs key with
    | none => .ok (.error (.input key))
    | some input => do
      match ← coerceRaw input raw with
      | none => return .error (.input key)
      | some value =>
        if ← inDomain input value then typeInputs package rest (typed.set key value)
        else return .error (.input key)

/-- Identifiers of the inputs a probe must supply. -/
def requiredInputs (package : PackageContent) : List String :=
  (package.inputs.filter fun input => input.required && input.dataType ≠ .date).map (·.id)

/-- Values, date and transaction of a probe. -/
structure Probe where
  /-- Typed values. -/
  values : ProbeValues
  /-- Calculation date. -/
  date : Date
  /-- Transaction. -/
  transaction : TransactionType

/-- Key of a probe. -/
def Probe.key (probe : Probe) : Except Failure ProbeKey :=
  canonicalProbeKey probe.values probe.date probe.transaction

/-- Tries a probe on the oracle. -/
def Probe.problem (sorter : Sorter String) (package : PackageContent) (probe : Probe) :
    Except Failure (Option Failure) :=
  executable sorter package probe.values probe.date probe.transaction

/-- Scenario of a probe, under a provisional identifier. -/
def Probe.scenario (probe : Probe) (name : String) (classification : ScenarioClassification)
    (tags : List String) (origin : ProbeOrigin) : Except Failure TestScenario := do
  let risk ← probe.values.risk
  return {
    id := "RG_PKG_TMP"
    riskValues := risk
    effectiveDate := probe.date
    transactionType := probe.transaction
    name := name
    classification := classification
    targetDifferenceIds := []
    targetIssueGroupIds := []
    targetNodeIds := []
    tags := tags
    score := 0
    origin := origin }

section Cases

variable (printed : ControlCase → String → String) (sorter : Sorter String)
  (package : PackageContent)

/-- Rating inputs of a case. -/
def ControlCase.rawInputs (case : ControlCase) : List (String × RawValue) :=
  (case.inputs.filter fun entry => !contextKeys.contains entry.1).map fun entry =>
    (entry.1, entry.2.raw (printed case entry.1))

/-- Probe of a control case, or why it is skipped. -/
def caseProbe (case : ControlCase) : Except Failure (Except SkipReason Probe) := do
  match resolveCalculationDate package (case.input "effective_date") with
  | none => return .error .calculationDate
  | some date =>
    match ← caseTransaction package (printed case "transaction_type")
        (case.input "transaction_type") with
    | none => return .error .transactionType
    | some transaction =>
      match ← typeInputs package (case.rawInputs printed) .empty with
      | .error reason => return .error reason
      | .ok typed =>
        let missing := (requiredInputs package).filter fun id =>
          !(typed.entries.map Prod.fst).contains id
        if missing ≠ [] then return .error (.missingInputs missing)
        else
          match ← executable sorter package typed date transaction with
          | some failure => return .error (.execution failure)
          | none => return .ok ⟨typed, date, transaction⟩

/-- Adds the probe of a control case, unless an equal one is there. -/
def addCase (state : ProbeState) (case : ControlCase) : Except Failure ProbeState := do
  match ← caseProbe printed sorter package case with
  | .error reason => return state.skip .controlCase case.caseId reason
  | .ok probe =>
    let key ← probe.key
    if state.seen.contains key then return state
    else
      let scenario ← probe.scenario ("Workbook Control Case (" ++ case.caseId ++ ")") .control
        ["CONTROL", "CONTROL_CASE"] .controlCase
      return state.take key scenario

/-- Probes of the control cases. -/
def controlProbes (cases : List ControlCase) : Except Failure ProbeState :=
  cases.foldlM (addCase printed sorter package) ⟨[], [], []⟩

end Cases

/-- Middle of two bounds. -/
def midpoint (minimum maximum : Bound) : Except Failure Decimal := do
  let sum ← raising (Decimal.add decimalContext minimum.toDecimal maximum.toDecimal)
  raising (Decimal.div decimalContext sum (.ofInt 2))

/-- Declared default of an input that is no date: its first accepted text, false, the middle of
its bounds or its only bound; none without a declared basis. -/
def declaredDefault (input : PricingInput) : Except Failure (Option Value) :=
  match input.allowedValues with
  | some (text :: _) => coerceRaw input (.value (.str text))
  | some [] | none =>
    match input.dataType with
    | .boolean => .ok (some (.bool false))
    | .integer | .decimal | .money =>
      match input.minimum, input.maximum with
      | some minimum, some maximum => do
        let middle ← midpoint minimum maximum
        if input.dataType = .integer then
          coerceRaw input (.value (.int (← raisingInt (Value.decimal middle).toInt)))
        else coerceRaw input (.value (.decimal middle))
      | some bound, none | none, some bound => coerceRaw input (.value bound.toValue)
      | none, none => .ok none
    | .string | .category | .date => .ok none

/-- `_declared_default_risk`: the defaults of all inputs but dates, or none when one has none. -/
def declaredDefaultRisk : List PricingInput → ProbeValues → Except Failure (Option ProbeValues)
  | [], values => .ok (some values)
  | input :: rest, values =>
    if input.dataType = .date then declaredDefaultRisk rest values
    else do
      match ← declaredDefault input with
      | none => return none
      | some value => declaredDefaultRisk rest (values.set input.id value)

/-- Adds a baseline of declared defaults when no control case became a probe. -/
def addBaseline (sorter : Sorter String) (package : PackageContent) (state : ProbeState) :
    Except Failure ProbeState := do
  match ← declaredDefaultRisk package.inputs .empty with
  | none => return state.skip .baseline "declared_defaults" .noDeclaredDefaults
  | some values =>
    match resolveCalculationDate package none with
    | none => return state.skip .baseline "declared_defaults" .calculationDate
    | some date =>
      let probe : Probe := ⟨values, date, ← firstTransaction package⟩
      match ← probe.problem sorter package with
      | some failure => return state.skip .baseline "declared_defaults" (.execution failure)
      | none =>
        let key ← probe.key
        let scenario ← probe.scenario "Baseline Control Scenario (declared defaults)" .control
          ["CONTROL", "BASELINE"] .baseline
        return state.take key scenario

/-- Where a boundary value comes from. -/
inductive BoundarySource where
  | range (table : String) (row : Nat) (upper : Bool)
  | exact (table : String) (row : Nat)
  | rule (rule : String) (operator : ComparisonOperator)
  deriving DecidableEq

/-- Whether a boundary value is an exact key. -/
def BoundarySource.isExact : BoundarySource → Bool
  | exact _ _ => true
  | range _ _ _ | rule _ _ => false

/-- Boundary value of an input. -/
structure BoundaryPoint where
  /-- Input. -/
  inputId : String
  /-- Value as the package has it. -/
  raw : Literal
  /-- Where it comes from. -/
  source : BoundarySource
  deriving DecidableEq

/-- A bound as a literal. -/
def Bound.literal : Bound → Literal
  | int value => .int value
  | decimal value => .decimal value

/-- Boundary values of one key of a row. -/
def matchPoints (inputId table : String) (row : Nat) : RowMatch → List BoundaryPoint
  | .range bracket =>
    (bracket.minimum.toList.map fun bound =>
      ⟨inputId, bound.literal, .range table row false⟩) ++
    bracket.maximum.toList.map fun bound => ⟨inputId, bound.literal, .range table row true⟩
  | .exact value => [⟨inputId, value, .exact table row⟩]

/-- Boundary values of a table, dimension by dimension; those on no input are left out. -/
def tablePoints (inputIds : List String) (table : RateTable) : List BoundaryPoint :=
  table.dimensions.zipIdx.flatMap fun dimension =>
    if inputIds.contains dimension.1.inputRef then
      table.rows.zipIdx.flatMap fun row =>
        ((row.1.rowMatches[dimension.2]?).map
          (matchPoints dimension.1.inputRef table.id (row.2 + 1))).getD []
    else []

mutual

/-- Comparisons of a condition. -/
def Condition.comparisons : Condition → List (Operand × ComparisonOperator × Operand)
  | .comparison left operator right => [(left, operator, right)]
  | .logical _ conditions => conditionsComparisons conditions

/-- Comparisons of a list of conditions. -/
def conditionsComparisons : List Condition → List (Operand × ComparisonOperator × Operand)
  | [] => []
  | condition :: rest => condition.comparisons ++ conditionsComparisons rest

end

/-- `_literal_and_ref`: input and literal of a comparison between the two. -/
def literalAndRef (inputIds : List String) (left right : Operand) : Option (String × Literal) :=
  match left, right with
  | .reference ref, .literal value | .literal value, .reference ref =>
    if inputIds.contains ref then some (ref, value) else none
  | _, _ => none

/-- Boundary values of a rule. -/
def rulePoints (inputIds : List String) (rule : PricingRule) : List BoundaryPoint :=
  rule.condition.comparisons.filterMap fun comparison =>
    (literalAndRef inputIds comparison.1 comparison.2.2).map fun hit =>
      ⟨hit.1, hit.2, .rule rule.id comparison.2.1⟩

/-- Number a literal is as a dictionary key; booleans are numbers there. -/
def Literal.keyNumber : Literal → Option Decimal
  | int value => some (.ofInt value)
  | decimal value => some value.toDecimal
  | bool value => some (.ofInt (if value then 1 else 0))
  | str _ => none

/-- Whether two literals are one dictionary key. -/
def Literal.sameKey (one other : Literal) : Bool :=
  match one.keyNumber, other.keyNumber with
  | some left, some right => left.eq right = .ok true
  | none, none => one = other
  | _, _ => false

/-- Adds a boundary value unless its input has one of the same key. -/
def addPoint (found : List BoundaryPoint) (point : BoundaryPoint) : List BoundaryPoint :=
  if found.any fun other => other.inputId = point.inputId && other.raw.sameKey point.raw then found
  else found ++ [point]

/-- All boundary values of the tables and rules of a package. -/
def boundaryPoints (package : PackageContent) : List BoundaryPoint :=
  let inputIds := package.inputs.map (·.id)
  package.tables.flatMap (tablePoints inputIds) ++ package.rules.flatMap (rulePoints inputIds)

/-- `collect_boundaries`: one boundary value for a key of an input, the first. -/
def collectBoundaries (package : PackageContent) : List BoundaryPoint :=
  (boundaryPoints package).foldl addPoint []

/-- Integer below or above a number, by rounding mode; an infinity and an undefined number have
none. -/
def roundedInteger (mode : Rounding) : Decimal → Except Failure Int
  | .finite negative coefficient exponent =>
    .ok (signed negative (rescale mode negative coefficient exponent 0))
  | .infinity _ => .error .overflowError
  | .nan _ => .error .valueError

/-- Distance of the neighbours of a decimal boundary. -/
def neighbourStep : Decimal := .finite false 1 (-2)

/-- Values at and next to a boundary number with their tier: one at the boundary, two next to
it. -/
def neighbourPoints (input : PricingInput) (number : Decimal) :
    Except Failure (List (Value × Nat)) :=
  if input.dataType = .integer then do
    let low ← roundedInteger .floor number
    let high ← roundedInteger .ceiling number
    if low = high then return [(.int low, 1), (.int (low - 1), 2), (.int (low + 1), 2)]
    else return [(.int low, 1), (.int high, 1), (.int (low - 1), 2), (.int (high + 1), 2)]
  else do
    let below ← raising (Decimal.sub decimalContext number neighbourStep)
    let above ← raising (Decimal.add decimalContext number neighbourStep)
    return [(.decimal number, 1), (.decimal below, 2), (.decimal above, 2)]

/-- Typed value of a raw value, if it is in the domain. -/
def typedInDomain (input : PricingInput) (raw : RawValue) : Except Failure (Option Value) := do
  match ← coerceRaw input raw with
  | none => return none
  | some value => return if ← inDomain input value then some value else none

/-- `_neighbours`: typed values in the domain at and next to a boundary value. -/
def neighbours (input : PricingInput) (raw : Literal) : Except Failure (List (Value × Nat)) :=
  match (RawValue.value raw.toValue).number, input.dataType.isNumeric with
  | some number, true => do
    let points ← neighbourPoints input number
    let typed ← points.mapM fun point => do
      return (← typedInDomain input (.value point.1)).map fun value => (value, point.2)
    return typed.filterMap id
  | _, _ => do
    return (← typedInDomain input (.value raw.toValue)).toList.map fun value => (value, 1)

/-- Candidate of a boundary probe. -/
structure BoundaryCandidate where
  /-- Zero for a number that is no exact key, else one. -/
  kind : Nat
  /-- One at the boundary, two next to it. -/
  tier : Nat
  /-- Input that is varied. -/
  inputId : String
  /-- Number of the value, zero without one. -/
  number : Decimal
  /-- Value of the input. -/
  value : Value
  /-- Boundary value it is at or next to. -/
  point : BoundaryPoint

/-- Candidate of a value at or next to a boundary. -/
def boundaryCandidate (point : BoundaryPoint) (value : Value × Nat) : BoundaryCandidate where
  kind := if value.1.toDecimal.toOption.isSome && !point.source.isExact then 0 else 1
  tier := value.2
  inputId := point.inputId
  number := value.1.toDecimal.toOption.getD (.ofInt 0)
  value := value.1
  point := point

/-- Candidates of a boundary value. -/
def pointCandidates (package : PackageContent) (point : BoundaryPoint) :
    Except Failure (List BoundaryCandidate) :=
  match KeyedList.lastWith (·.id) package.inputs point.inputId with
  | none => .error (.keyError point.inputId)
  | some input => do return (← neighbours input point.raw).map (boundaryCandidate point)

/-- Boundary values in the order of their inputs. -/
def pointsByInput (package : PackageContent) : List BoundaryPoint :=
  (collectBoundaries package).insertionSort fun one other => one.inputId ≤ other.inputId

/-- All candidates of boundary probes. -/
def boundaryCandidates (package : PackageContent) : Except Failure (List BoundaryCandidate) := do
  return (← (pointsByInput package).mapM (pointCandidates package)).flatten

/-- Whether two candidates are told apart before their numbers are compared. -/
def BoundaryCandidate.apart (one other : BoundaryCandidate) : Bool :=
  one.inputId ≠ other.inputId || one.kind ≠ other.kind || one.tier ≠ other.tier

/-- Whether comparing two candidates signals: an undefined number has no order. -/
def BoundaryCandidate.comparable (one other : BoundaryCandidate) : Bool :=
  one.apart other || ((one.number.lt other.number).isOk && (other.number.lt one.number).isOk)

/-- Order of two candidates: by input, kind, tier, number and text. -/
def BoundaryCandidate.precedes (one other : BoundaryCandidate) : Bool :=
  one.inputId < other.inputId || one.inputId = other.inputId &&
    (one.kind < other.kind || one.kind = other.kind &&
      (one.tier < other.tier || one.tier = other.tier &&
        (one.number.lt other.number = .ok true || other.number.lt one.number ≠ .ok true &&
          one.value.toString ≤ other.value.toString)))

/-- Candidates in order; sorting compares all that the earlier parts of the order leave together,
so an undefined number among them signals. -/
def sortCandidates (candidates : List BoundaryCandidate) :
    Except Failure (List BoundaryCandidate) :=
  if candidates.Pairwise fun one other => one.comparable other then
    .ok (candidates.insertionSort fun one other => one.precedes other)
  else .error (.decimal .invalidOperation)

/-- Candidates of one input. -/
def ofInput (candidates : List BoundaryCandidate) (inputId : String) : List BoundaryCandidate :=
  candidates.filter (·.inputId = inputId)

/-- Sorted candidates dealt round by round, one of each input in turn. -/
def interleave (candidates : List BoundaryCandidate) : List BoundaryCandidate :=
  let inputIds := (candidates.map (·.inputId)).dedup
  (List.range candidates.length).flatMap fun rank =>
    inputIds.filterMap fun inputId => (ofInput candidates inputId)[rank]?

/-- Probe of a candidate: the base policy with one value replaced. -/
def candidateProbe (base : BasePolicy) (transaction : TransactionType)
    (candidate : BoundaryCandidate) : Probe where
  values := base.risk.probeValues.set candidate.inputId candidate.value
  date := base.date
  transaction := transaction

/-- What a skip record names of a candidate. -/
def BoundaryCandidate.ref (candidate : BoundaryCandidate) : String :=
  candidate.inputId ++ "=" ++ candidate.value.toString

/-- Adds the probe of a candidate while there is room, unless an equal one is there. -/
def addBoundary (sorter : Sorter String) (package : PackageContent) (limit : Int)
    (base : BasePolicy) (transaction : TransactionType) (state : ProbeState)
    (candidate : BoundaryCandidate) : Except Failure ProbeState :=
  if limit ≤ state.ordered.length then .ok state
  else do
    let probe := candidateProbe base transaction candidate
    let key ← probe.key
    if state.seen.contains key then return state
    else
      match ← probe.problem sorter package with
      | some failure => return state.skip .boundary candidate.ref (.execution failure)
      | none =>
        let scenario ← probe.scenario ("Boundary Probe (" ++ candidate.ref ++ ")") .boundary
          ["BOUNDARY", "VAL_" ++ candidate.value.toString, "INPUT_" ++ candidate.inputId] .boundary
        return state.take key scenario

/-- Adds the boundary probes around a base policy. -/
def addBoundaries (sorter : Sorter String) (package : PackageContent) (limit : Int)
    (base : BasePolicy) (state : ProbeState) : Except Failure ProbeState := do
  let transaction ← firstTransaction package
  let candidates ← sortCandidates (← boundaryCandidates package)
  (interleave candidates).foldlM (addBoundary sorter package limit base transaction) state

/-- `list[:limit]`: a negative limit counts from the end. -/
def upTo {α : Type} (limit : Int) (values : List α) : List α :=
  if 0 ≤ limit then values.take limit.toNat else values.take (values.length - (-limit).toNat)

/-- Policy of a scenario as a base. -/
def TestScenario.base (scenario : TestScenario) : BasePolicy :=
  ⟨scenario.riskValues, scenario.effectiveDate⟩

/-- Probes before the boundaries: control cases, else a baseline. -/
def coreProbes (printed : ControlCase → String → String) (sorter : Sorter String)
    (package : PackageContent) (cases : List ControlCase) : Except Failure ProbeState := do
  let state ← controlProbes printed sorter package cases
  if state.ordered.isEmpty then addBaseline sorter package state else return state

/-- `generate_package_probes`. The base policy is the first probe of a control case, or the
baseline. -/
def generatePackageProbes (printed : ControlCase → String → String) (sorter : Sorter String)
    (package : PackageContent) (cases : List ControlCase) (limit : Int) :
    Except Failure PackageProbeResult := do
  let core ← coreProbes printed sorter package cases
  let base := core.ordered.head?.map TestScenario.base
  let state ← match base with
    | none => .ok core
    | some base => addBoundaries sorter package limit base core
  return ⟨upTo limit state.ordered, state.skipped, base⟩

end RateGuard
