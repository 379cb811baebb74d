import RateGuard.Diff.TableDiff

/-!
# Package comparison

The semantic comparison of two packages, node kind by node kind. Inputs are
compared by presence; constants, tables, modifiers, constraints and fees only
where both packages have them; of effective periods only the start of the
package's and of the modifiers'.
-/

open DecimalFloat CalendarDate KeyedList

namespace RateGuard

/-- Difference of two start dates. -/
def periodDifference (path nodeId : String) (nodeType : DifferenceNode)
    (left right : Option Date) : SemanticDifference where
  id := "diff_" ++ nodeId ++ "_effective_start"
  differenceType := .effectiveDateChange
  semanticPath := path ++ ".effective_period.start"
  nodeId := nodeId
  nodeType := nodeType
  leftValue := left.map fun date => .str (Value.date date).toString
  rightValue := right.map fun date => .str (Value.date date).toString
  severity := .high
  dimensionKey := none

/-- `compare_effective_periods`: start dates that differ. -/
def compareEffectivePeriods (path nodeId : String) (nodeType : DifferenceNode)
    (left right : Option EffectivePeriod) : List SemanticDifference :=
  let leftStart := left.map (·.start)
  let rightStart := right.map (·.start)
  if leftStart = rightStart then []
  else [periodDifference path nodeId nodeType leftStart rightStart]

/-- Compares two keyed lists of nodes, identifiers in order. -/
def compareById {α : Type} (id : α → String)
    (compare : String → Option α → Option α → Except Failure (List SemanticDifference))
    (left right : List α) : Except Failure (List SemanticDifference) := do
  let keys := sortedUnion (left.map id) (right.map id)
  let differences ← keys.mapM fun key =>
    compare key (lastWith id left key) (lastWith id right key)
  return differences.flatten

/-- Difference of a value or an order of a node. -/
def fieldDifference (idKind kind key field : String) (type : DifferenceType)
    (nodeType : DifferenceNode) (severity : DifferenceSeverity) (left right : Option Value) :
    SemanticDifference where
  id := "diff_" ++ idKind ++ "_" ++ key ++ "_" ++ field
  differenceType := type
  semanticPath := kind ++ "." ++ key ++ "." ++ field
  nodeId := key
  nodeType := nodeType
  leftValue := left
  rightValue := right
  severity := severity
  dimensionKey := none

/-- Presence of an input on one side only. -/
def compareInput (key : String) (left right : Option PricingInput) : List SemanticDifference :=
  match left, right with
  | some input, none =>
    [{ id := "diff_input_" ++ key ++ "_missing"
       differenceType := .missingNode
       semanticPath := "inputs." ++ key
       nodeId := key
       nodeType := .input
       leftValue := some (.str input.id)
       rightValue := none
       severity := .critical
       dimensionKey := none }]
  | none, some input =>
    [{ id := "diff_input_" ++ key ++ "_extra"
       differenceType := .extraNode
       semanticPath := "inputs." ++ key
       nodeId := key
       nodeType := .input
       leftValue := none
       rightValue := some (.str input.id)
       severity := .critical
       dimensionKey := none }]
  | some _, some _ | none, none => []

/-- Differing numbers of one node on both sides. -/
def compareNumbers (idKind kind key field : String) (type : DifferenceType)
    (nodeType : DifferenceNode) (severity : DifferenceSeverity) (left right : FiniteDecimal) :
    List SemanticDifference :=
  if numbersDiffer left right then
    [fieldDifference idKind kind key field type nodeType severity
      (some (.decimal left.toDecimal)) (some (.decimal right.toDecimal))]
  else []

/-- Differing sequences of one node on both sides; an absent sequence differs from zero. -/
def compareSequences (idKind kind key : String) (nodeType : DifferenceNode)
    (left right : Option Int) : List SemanticDifference :=
  if left = right then []
  else [fieldDifference idKind kind key "sequence" .orderChange nodeType .critical
    (left.map .int) (right.map .int)]

/-- Compares a constant both packages have. -/
def compareConstant (key : String) (left right : Option PricingConstant) :
    List SemanticDifference :=
  match left, right with
  | some constant, some other =>
    compareNumbers "constant" "constants" key "value" .valueChange .constant .critical
      constant.value other.value
  | _, _ => []

/-- Compares a table both packages have. -/
def compareTable (left right : Option RateTable) : List SemanticDifference :=
  match left, right with
  | some table, some other => compareRateTables table other
  | _, _ => []

/-- Number of a modifier; the text of a reference is no number. -/
def modifierNumber (modifier : PricingModifier) : Except Failure FiniteDecimal :=
  match modifier.value with
  | .amount value => .ok value
  | .reference _ => .error (.decimal .invalidOperation)

/-- Compares a modifier both packages have: start, value and order. -/
def compareModifier (key : String) (left right : Option PricingModifier) :
    Except Failure (List SemanticDifference) :=
  match left, right with
  | some modifier, some other => do
    let value ← modifierNumber modifier
    let otherValue ← modifierNumber other
    return compareEffectivePeriods ("modifiers." ++ key) key .modifier
        modifier.effectivePeriod other.effectivePeriod ++
      compareNumbers "modifier" "modifiers" key "value" .modifierChange .modifier .high
        value otherValue ++
      compareSequences "modifier" "modifiers" key .modifier modifier.sequence other.sequence
  | _, _ => return []

/-- Compares a constraint both packages have: amount and order. -/
def compareConstraint (key : String) (left right : Option PremiumConstraint) :
    List SemanticDifference :=
  match left, right with
  | some constraint, some other =>
    compareNumbers "constraint" "constraints" key "amount" .constraintChange .constraint .critical
        constraint.amount other.amount ++
      compareSequences "constraint" "constraints" key .constraint
        constraint.sequence other.sequence
  | _, _ => []

/-- Compares a fee both packages have: amount and order. -/
def compareFee (key : String) (left right : Option PricingFee) : List SemanticDifference :=
  match left, right with
  | some fee, some other =>
    compareNumbers "fee" "fees" key "amount" .feeChange .fee .critical fee.amount other.amount ++
      compareSequences "fee" "fees" key .fee fee.sequence other.sequence
  | _, _ => []

/-- Result of a comparison. -/
structure SemanticDiffResult where
  /-- Left package. -/
  leftPackageId : String
  /-- Right package. -/
  rightPackageId : String
  /-- Version of the left package. -/
  leftVersion : String
  /-- Version of the right package. -/
  rightVersion : String
  /-- Differences in discovery order. -/
  differences : List SemanticDifference

/-- Number of differences. -/
def SemanticDiffResult.differenceCount (result : SemanticDiffResult) : Nat :=
  result.differences.length

/-- Number of differences of one severity. -/
def SemanticDiffResult.severityCount (result : SemanticDiffResult)
    (severity : DifferenceSeverity) : Nat :=
  result.differences.countP (·.severity = severity)

/-- Whether nothing differs. -/
def SemanticDiffResult.semanticallyEqual (result : SemanticDiffResult) : Bool :=
  result.differenceCount = 0

/-- `compare_packages`. -/
def comparePackages (left right : PackageContent) : Except Failure SemanticDiffResult := do
  let period := compareEffectivePeriods "package" left.id .package
    (some left.effectivePeriod) (some right.effectivePeriod)
  let inputs ← compareById (·.id) (fun key x y => .ok (compareInput key x y))
    left.inputs right.inputs
  let constants ← compareById (·.id) (fun key x y => .ok (compareConstant key x y))
    left.constants right.constants
  let tables ← compareById (·.id) (fun _ x y => .ok (compareTable x y)) left.tables right.tables
  let modifiers ← compareById (·.id) compareModifier left.modifiers right.modifiers
  let constraints ← compareById (·.id) (fun key x y => .ok (compareConstraint key x y))
    left.constraints right.constraints
  let fees ← compareById (·.id) (fun key x y => .ok (compareFee key x y)) left.fees right.fees
  return {
    leftPackageId := left.id
    rightPackageId := right.id
    leftVersion := left.version
    rightVersion := right.version
    differences := period ++ inputs ++ constants ++ tables ++ modifiers ++ constraints ++ fees }

/-- Every key of either list is compared, and its differences are reported. -/
theorem compareById_part {α : Type} {id : α → String}
    {compare : String → Option α → Option α → Except Failure (List SemanticDifference)}
    {left right : List α} {differences : List SemanticDifference}
    (compared : compareById id compare left right = .ok differences) {key : String}
    (keyed : key ∈ left.map id ∨ key ∈ right.map id) :
    ∃ part, compare key (lastWith id left key) (lastWith id right key) = .ok part ∧
      ∀ difference ∈ part, difference ∈ differences := by
  obtain ⟨parts, traversed, flat⟩ := Outcome.bind_eq_ok compared
  cases flat
  obtain ⟨part, inside, found⟩ := Outcome.mapM_step traversed (mem_sortedUnion.mpr keyed)
  exact ⟨part, found, fun difference member => List.mem_flatten.mpr ⟨part, inside, member⟩⟩

/-- Nodes of one identifier are compared with each other. -/
theorem compareById_pair {α : Type} {id : α → String}
    {compare : String → Option α → Option α → Except Failure (List SemanticDifference)}
    {left right : List α} {differences : List SemanticDifference}
    (compared : compareById id compare left right = .ok differences)
    (distinct : (left.map id).Nodup) (distinctRight : (right.map id).Nodup) {node other : α}
    (member : node ∈ left) (otherMember : other ∈ right) (same : id node = id other) :
    ∃ part, compare (id node) (some node) (some other) = .ok part ∧
      ∀ difference ∈ part, difference ∈ differences := by
  have part := compareById_part compared (.inl (List.mem_map_of_mem (f := id) member))
  rwa [lastWith_of_mem distinct member, same, lastWith_of_mem distinctRight otherMember,
    ← same] at part

/-- Differences of the parts of a comparison. -/
structure ComparedParts (left right : PackageContent) (differences : List SemanticDifference) :
    Prop where
  /-- Start dates of the packages. -/
  period : ∀ difference ∈ compareEffectivePeriods "package" left.id .package
    (some left.effectivePeriod) (some right.effectivePeriod), difference ∈ differences
  /-- Presence of inputs. -/
  inputs : ∃ part, compareById (·.id) (fun key x y => .ok (compareInput key x y))
    left.inputs right.inputs = .ok part ∧ ∀ difference ∈ part, difference ∈ differences
  /-- Constants. -/
  constants : ∃ part, compareById (·.id) (fun key x y => .ok (compareConstant key x y))
    left.constants right.constants = .ok part ∧ ∀ difference ∈ part, difference ∈ differences
  /-- Tables. -/
  tables : ∃ part, compareById (·.id) (fun _ x y => .ok (compareTable x y))
    left.tables right.tables = .ok part ∧ ∀ difference ∈ part, difference ∈ differences
  /-- Modifiers. -/
  modifiers : ∃ part, compareById (·.id) compareModifier left.modifiers right.modifiers =
    .ok part ∧ ∀ difference ∈ part, difference ∈ differences
  /-- Constraints. -/
  constraints : ∃ part, compareById (·.id) (fun key x y => .ok (compareConstraint key x y))
    left.constraints right.constraints = .ok part ∧ ∀ difference ∈ part, difference ∈ differences
  /-- Fees. -/
  fees : ∃ part, compareById (·.id) (fun key x y => .ok (compareFee key x y))
    left.fees right.fees = .ok part ∧ ∀ difference ∈ part, difference ∈ differences

/-- A comparison reports the differences of every part. -/
theorem comparePackages_parts {left right : PackageContent} {result : SemanticDiffResult}
    (compared : comparePackages left right = .ok result) :
    ComparedParts left right result.differences := by
  obtain ⟨inputs, inputsCompared, compared⟩ := Outcome.bind_eq_ok compared
  obtain ⟨constants, constantsCompared, compared⟩ := Outcome.bind_eq_ok compared
  obtain ⟨tables, tablesCompared, compared⟩ := Outcome.bind_eq_ok compared
  obtain ⟨modifiers, modifiersCompared, compared⟩ := Outcome.bind_eq_ok compared
  obtain ⟨constraints, constraintsCompared, compared⟩ := Outcome.bind_eq_ok compared
  obtain ⟨fees, feesCompared, compared⟩ := Outcome.bind_eq_ok compared
  cases compared
  exact {
    period := fun difference member => by simp [member]
    inputs := ⟨inputs, inputsCompared, fun difference member => by simp [member]⟩
    constants := ⟨constants, constantsCompared, fun difference member => by simp [member]⟩
    tables := ⟨tables, tablesCompared, fun difference member => by simp [member]⟩
    modifiers := ⟨modifiers, modifiersCompared, fun difference member => by simp [member]⟩
    constraints := ⟨constraints, constraintsCompared, fun difference member => by simp [member]⟩
    fees := ⟨fees, feesCompared, fun difference member => by simp [member]⟩ }

end RateGuard
