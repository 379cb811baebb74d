import Mathlib.Data.List.Sort
import RateGuard.Foundation.TopologicalSort
import RateGuard.Oracle.Inputs
import RateGuard.Oracle.TableLookup

/-!
# Package evaluation

The deterministic evaluation of a rating package in its phases: inputs,
constants, preset fees, constraints and modifiers, tables, rules, and the
calculation nodes in dependency order. Every phase extends one context and one
trace; a trace step refuses values outside the result schema.
-/

open DecimalFloat CalendarDate TopologicalSort

namespace RateGuard

/-- Kinds of traced nodes. -/
inductive TraceNodeType where
  | input | constant | table | rule | modifier | constraint | fee | calculation | output
  deriving DecidableEq, Repr

/-- Operations of trace steps. -/
inductive TraceOperation where
  | setInput | setConstant | lookupTable | evaluateRule | skippedIneligible
  | applyModifier (kind : ModifierType) | enforceConstraint (kind : ConstraintType)
  | addFee | evaluateCalculation | finalOutput
  deriving DecidableEq, Repr

/-- One recorded step of an evaluation. -/
structure TraceStep where
  /-- Traced node. -/
  nodeId : String
  /-- Kind of the node. -/
  nodeType : TraceNodeType
  /-- Operation performed. -/
  operation : TraceOperation
  /-- Recorded result. -/
  result : Value
  deriving DecidableEq

/-- Context and trace of an evaluation in progress. -/
structure Evaluation where
  /-- Values resolved so far. -/
  context : Context
  /-- Steps recorded so far, oldest first. -/
  trace : List TraceStep

/-- Evaluation with nothing resolved. -/
def Evaluation.start : Evaluation := ⟨fun _ => none, []⟩

/-- Assigns a context entry. -/
def Evaluation.set (state : Evaluation) (id : String) (value : Value) : Evaluation :=
  { state with context := state.context.set id value }

/-- Records a step, refusing results outside the trace schema. -/
def Evaluation.addStep (state : Evaluation) (step : TraceStep) : Except Failure Evaluation :=
  if step.result.recordable then .ok { state with trace := state.trace ++ [step] }
  else .error (.schema step.nodeId)

/-- A recorded step keeps the context and has a recordable result. -/
theorem addStep_eq_ok {state after : Evaluation} {step : TraceStep}
    (recorded : state.addStep step = .ok after) :
    after.context = state.context ∧ step.result.recordable = true := by
  unfold Evaluation.addStep at recorded
  by_cases recordable : step.result.recordable = true
  · rw [if_pos recordable] at recorded
    rw [← Except.ok.inj recorded]
    exact ⟨rfl, recordable⟩
  · rw [if_neg recordable] at recorded
    cases recorded

/-- A step with a recordable result is recorded. -/
theorem addStep_recordable (state : Evaluation) (step : TraceStep)
    (recordable : step.result.recordable = true) :
    state.addStep step = .ok { state with trace := state.trace ++ [step] } := if_pos recordable

/-- A recorded step is the last of the trace. -/
theorem addStep_after {state after : Evaluation} {step : TraceStep}
    (recorded : state.addStep step = .ok after) :
    after = { state with trace := state.trace ++ [step] } := by
  unfold Evaluation.addStep at recorded
  by_cases recordable : step.result.recordable = true
  · rw [if_pos recordable] at recorded
    exact (Except.ok.inj recorded).symm
  · rw [if_neg recordable] at recorded
    cases recorded

/-- `is_active`: inclusive on both dates; no period is always active. -/
def isActive (period : Option EffectivePeriod) (date : Date) : Bool :=
  match period with
  | none => true
  | some period => period.start ≤ date && period.endDate.all (date ≤ ·)

/-- Assigns validated inputs. -/
def setInputs (state : Evaluation) (inputs : List (String × Value)) :
    Except Failure Evaluation :=
  inputs.foldlM (fun state input =>
    (state.set input.1 input.2).addStep ⟨input.1, .input, .setInput, input.2⟩) state

/-- Assigns an active constant. -/
def setConstant (date : Date) (state : Evaluation) (constant : PricingConstant) :
    Except Failure Evaluation :=
  if isActive constant.effectivePeriod date then
    let value := Value.decimal constant.value.toDecimal
    (state.set constant.id value).addStep ⟨constant.id, .constant, .setConstant, value⟩
  else .ok state

/-- Amount of a node that is active, else zero cents. -/
def presetAmount (period : Option EffectivePeriod) (amount : FiniteDecimal) (date : Date) :
    Decimal :=
  if isActive period date then amount.toDecimal else .finite false 0 (-2)

/-- Presets a fee in the context. -/
def presetFee (date : Date) (state : Evaluation) (fee : PricingFee) : Evaluation :=
  state.set fee.id (.decimal (presetAmount fee.effectivePeriod fee.amount date))

/-- Presets a constraint in the context. -/
def presetConstraint (date : Date) (state : Evaluation) (constraint : PremiumConstraint) :
    Evaluation :=
  state.set constraint.id
    (.decimal (presetAmount constraint.effectivePeriod constraint.amount date))

/-- The factor one in cents. -/
def oneFactor : Decimal := .finite false 100 (-2)

/-- Value of a modifier: its amount, or the referenced context entry. -/
def resolveModifierValue (context : Context) (value : ModifierValue) : Except Failure Value :=
  match value with
  | .amount amount => .ok (.decimal amount.toDecimal)
  | .reference ref => resolveReference context ref

/-- Whether a modifier's eligibility holds; no eligibility always does. -/
def isEligible (context : Context) (modifier : PricingModifier) : Except Failure Bool :=
  match modifier.eligibility with
  | some condition => evaluateCondition context condition
  | none => .ok true

/-- Factor of an eligible modifier before it is applied. -/
def presetFactor (context : Context) (modifier : PricingModifier) : Except Failure Decimal := do
  let value ← resolveModifierValue context modifier.value
  let rate ← raising value.toDecimal
  match modifier.modifierType with
  | .percentageDiscount => raising (Decimal.sub decimalContext oneFactor rate)
  | .percentageSurcharge => raising (Decimal.add decimalContext oneFactor rate)
  | .flatDiscount | .flatSurcharge => return rate

/-- Presets a modifier in the context: its factor, or one when inactive or ineligible. -/
def presetModifier (date : Date) (state : Evaluation) (modifier : PricingModifier) :
    Except Failure Evaluation := do
  if isActive modifier.effectivePeriod date then
    if ← isEligible state.context modifier then
      return state.set modifier.id (.decimal (← presetFactor state.context modifier))
    else return state.set modifier.id (.decimal oneFactor)
  else return state.set modifier.id (.decimal oneFactor)

/-- Looks up an active table. -/
def resolveTable (date : Date) (state : Evaluation) (table : RateTable) :
    Except Failure Evaluation := do
  if isActive table.effectivePeriod date then
    let factor ← lookupTable table state.context
    (state.set table.id (.decimal factor.1)).addStep
      ⟨table.id, .table, .lookupTable, .decimal factor.1⟩
  else return state

/-- Evaluates an active rule. -/
def resolveRule (date : Date) (state : Evaluation) (rule : PricingRule) :
    Except Failure Evaluation := do
  if isActive rule.effectivePeriod date then
    let holds ← evaluateCondition state.context rule.condition
    let value ← evaluateExpression state.context (if holds then rule.whenTrue else rule.whenFalse)
    (state.set rule.id value).addStep ⟨rule.id, .rule, .evaluateRule, value⟩
  else return state

/-- Active nodes stably ordered by sequence; an absent sequence counts as zero. -/
def activeInSequence {α : Type} (period : α → Option EffectivePeriod)
    (sequence : α → Option Int) (date : Date) (nodes : List α) : List α :=
  (nodes.filter fun node => isActive (period node) date).insertionSort fun left right =>
    (sequence left).getD 0 ≤ (sequence right).getD 0

/-- `topological_sort_calculations`: nodes ordered along declared dependencies. -/
def topologicalSortCalculations (sorter : Sorter String) (nodes : List CalculationNode) :
    Except Failure (List CalculationNode) :=
  let ids := nodes.map (·.id)
  let edges := nodes.flatMap fun node =>
    (node.dependsOn.filter ids.contains).map fun dependency => (dependency, node.id)
  match sorter.sort ids edges with
  | some order => .ok (order.filterMap fun id => nodes.find? (·.id == id))
  | none => .error (.oracle .dependencyCycle)

/-- Context, trace and nodes already applied while calculations run. -/
structure Running where
  /-- Context and trace. -/
  state : Evaluation
  /-- Modifiers applied so far. -/
  modifiers : List String
  /-- Constraints applied so far. -/
  constraints : List String
  /-- Fees applied so far. -/
  fees : List String

/-- Rounding rule of a node: its own, or the referenced one. -/
def roundingRuleOf (rules : List RoundingRule) (node : CalculationNode) : Option RoundingRule :=
  match node.roundingRule with
  | some rule => some rule
  | none => node.roundingRuleRef.bind fun ref => rules.find? (·.id == ref)

/-- Base value of a node: its expression as a decimal, rounded by its rule. -/
def baseValue (rules : List RoundingRule) (context : Context) (node : CalculationNode) :
    Except Failure Decimal := do
  let base ← evaluateExpression context node.expression
  let value ← raising base.toDecimal
  match roundingRuleOf rules node with
  | some rule => raising (roundDecimal value rule.precision rule.mode)
  | none => return value

/-- Adjustment of a modifier and the value after it. Percentages are rounded to cents. -/
def adjust (kind : ModifierType) (current rate : Decimal) : Except Signal (Decimal × Decimal) :=
  match kind with
  | .percentageDiscount => do
    let amount ← roundDecimal (← Decimal.mul decimalContext current rate) 2 .halfUp
    return (amount, ← Decimal.sub decimalContext current amount)
  | .percentageSurcharge => do
    let amount ← roundDecimal (← Decimal.mul decimalContext current rate) 2 .halfUp
    return (amount, ← Decimal.add decimalContext current amount)
  | .flatDiscount => do return (rate, ← Decimal.sub decimalContext current rate)
  | .flatSurcharge => do return (rate, ← Decimal.add decimalContext current rate)

/-- Applies a modifier to the current value of a node. -/
def applyModifier (progress : Evaluation × Decimal) (modifier : PricingModifier) :
    Except Failure (Evaluation × Decimal) := do
  let (state, current) := progress
  if ← isEligible state.context modifier then
    let value ← resolveModifierValue state.context modifier.value
    let rate ← raising value.toDecimal
    let (amount, next) ← raising (adjust modifier.modifierType current rate)
    let recorded ← (state.set modifier.id (.decimal amount)).addStep
      ⟨modifier.id, .modifier, .applyModifier modifier.modifierType, .decimal amount⟩
    return (recorded, next)
  else
    let recorded ← state.addStep
      ⟨modifier.id, .modifier, .skippedIneligible, .decimal (.finite false 0 (-2))⟩
    return (recorded, current)

/-- Value after a constraint: the first of the larger or the smaller ones. -/
def constrain (kind : ConstraintType) (current amount : Decimal) : Except Signal Decimal :=
  match kind with
  | .minimum => maxDecimal current [amount]
  | .maximum => minDecimal current [amount]

/-- Enforces a constraint on the current value of a node. -/
def applyConstraint (progress : Evaluation × Decimal) (constraint : PremiumConstraint) :
    Except Failure (Evaluation × Decimal) := do
  let (state, current) := progress
  let next ← raising (constrain constraint.constraintType current constraint.amount.toDecimal)
  let recorded ← state.addStep ⟨constraint.id, .constraint,
    .enforceConstraint constraint.constraintType, .decimal next⟩
  return (recorded, next)

/-- Identifiers an expression's own operands refer to. -/
def operandRefs : Operand → List String
  | .expression _ operands => operands.filterMap fun
    | .reference ref => some ref
    | .literal _ | .expression _ _ => none
  | .reference _ | .literal _ => []

/-- Adds a fee to the current value of a node, unless its expression refers to the fee. -/
def applyFee (expression : Operand) (progress : Evaluation × Decimal) (fee : PricingFee) :
    Except Failure (Evaluation × Decimal) := do
  let (state, current) := progress
  if (operandRefs expression).contains fee.id then return progress
  else
    let next ← raising (Decimal.add decimalContext current fee.amount.toDecimal)
    let recorded ← state.addStep ⟨fee.id, .fee, .addFee, .decimal next⟩
    return (recorded, next)

/-- Active nodes a calculation declares and none applied before. -/
def declared {α : Type} (id : α → String) (node : CalculationNode) (applied : List String)
    (active : List α) : List α :=
  active.filter fun candidate =>
    node.dependsOn.contains (id candidate) && !applied.contains (id candidate)

/-- Active modifiers, constraints and fees in application order. -/
structure ActiveNodes where
  /-- Modifiers by sequence. -/
  modifiers : List PricingModifier
  /-- Constraints by sequence. -/
  constraints : List PremiumConstraint
  /-- Fees by sequence. -/
  fees : List PricingFee

/-- Active nodes of a package on a date. -/
def activeNodes (package : PackageContent) (date : Date) : ActiveNodes where
  modifiers := activeInSequence (·.effectivePeriod) (·.sequence) date package.modifiers
  constraints := activeInSequence (·.effectivePeriod) (·.sequence) date package.constraints
  fees := activeInSequence (·.effectivePeriod) (·.sequence) date package.fees

/-- Runs one calculation node: base value, modifiers, constraints, fees. -/
def runCalculation (rules : List RoundingRule) (active : ActiveNodes) (date : Date)
    (running : Running) (node : CalculationNode) : Except Failure Running := do
  if isActive node.effectivePeriod date then
    let base ← baseValue rules running.state.context node
    let modifiers := declared (·.id) node running.modifiers active.modifiers
    let modified ← modifiers.foldlM applyModifier (running.state, base)
    let constraints := declared (·.id) node running.constraints active.constraints
    let constrained ← constraints.foldlM applyConstraint modified
    let fees := declared (·.id) node running.fees active.fees
    let (state, value) ← fees.foldlM (applyFee node.expression) constrained
    let recorded ← (state.set node.id (.decimal value)).addStep
      ⟨node.id, .calculation, .evaluateCalculation, .decimal value⟩
    return ⟨recorded, running.modifiers ++ modifiers.map (·.id),
      running.constraints ++ constraints.map (·.id), running.fees ++ fees.map (·.id)⟩
  else return running

/-- Result of an evaluation. -/
structure OracleResult where
  /-- Evaluated package. -/
  packageId : String
  /-- Its version. -/
  packageVersion : String
  /-- Calculation date. -/
  effectiveDate : Date
  /-- Transaction. -/
  transactionType : TransactionType
  /-- First declared output. -/
  finalOutputId : String
  /-- Value of that output. -/
  finalPremium : Decimal
  /-- Its currency. -/
  currency : String
  /-- Every resolved value. -/
  resolvedValues : Context
  /-- Recorded steps. -/
  trace : List TraceStep

/-- Checks that the package prices the date and the transaction. -/
def checkApplicable (package : PackageContent) (date : Date) (transaction : TransactionType) :
    Except Failure Unit :=
  if !isActive (some package.effectivePeriod) date then
    .error (.oracle (.packageInactive package.id date package.effectivePeriod.start
      package.effectivePeriod.endDate))
  else if !package.transactionTypes.contains transaction then
    .error (.oracle (.unsupportedTransaction transaction package.id package.transactionTypes))
  else .ok ()

/-- Phases before the calculations: inputs, constants, presets, tables and rules. -/
def prepare (package : PackageContent) (risk : RiskInput) (date : Date) (strict : Bool) :
    Except Failure Evaluation := do
  let inputs ← validateRiskInputs package.inputs risk strict
  let state ← setInputs Evaluation.start inputs
  let state ← package.constants.foldlM (setConstant date) state
  let state := package.fees.foldl (presetFee date) state
  let state := package.constraints.foldl (presetConstraint date) state
  let state ← package.modifiers.foldlM (presetModifier date) state
  let state ← package.tables.foldlM (resolveTable date) state
  package.rules.foldlM (resolveRule date) state

/-- Runs the calculation nodes in dependency order. -/
def calculate (sorter : Sorter String) (package : PackageContent) (date : Date)
    (state : Evaluation) : Except Failure Evaluation := do
  let nodes ← topologicalSortCalculations sorter package.calculations
  let running ← nodes.foldlM
    (runCalculation package.roundingRules (activeNodes package date) date) ⟨state, [], [], []⟩
  return running.state

/-- Identifiers whose context entries the result schema checks. -/
def PackageContent.resolvedIds (package : PackageContent) : List String :=
  package.inputs.map (·.id) ++ package.constants.map (·.id) ++ package.fees.map (·.id) ++
    package.constraints.map (·.id) ++ package.modifiers.map (·.id) ++
    package.tables.map (·.id) ++ package.rules.map (·.id) ++ package.calculations.map (·.id)

/-- First resolved entry outside the result schema. -/
def unrecordable (package : PackageContent) (context : Context) : Option String :=
  package.resolvedIds.find? fun id => (context id).any fun value => !value.recordable

/-- Reads the first output and builds the result. -/
def finish (package : PackageContent) (date : Date) (transaction : TransactionType)
    (state : Evaluation) : Except Failure OracleResult := do
  match package.outputs with
  | [] => .error (.oracle (.noOutputs package.id))
  | output :: _ =>
    match state.context output.sourceRef with
    | none => .error (.keyError output.sourceRef)
    | some value =>
      let premium ← raising value.toDecimal
      let final ← state.addStep ⟨output.id, .output, .finalOutput, .decimal premium⟩
      match unrecordable package final.context with
      | some id => .error (.schema id)
      | none => return {
          packageId := package.id
          packageVersion := package.version
          effectiveDate := date
          transactionType := transaction
          finalOutputId := output.id
          finalPremium := premium
          currency := (output.currency.filter (· ≠ "")).getD "USD"
          resolvedValues := final.context
          trace := final.trace }

/-- `evaluate_package`. -/
def evaluatePackage (sorter : Sorter String) (package : PackageContent) (risk : RiskInput)
    (date : Date) (transaction : TransactionType) (strict : Bool) :
    Except Failure OracleResult := do
  checkApplicable package date transaction
  let prepared ← prepare package risk date strict
  let calculated ← calculate sorter package date prepared
  finish package date transaction calculated

/-- Premium of a run, if it succeeded. -/
def premium (run : Except Failure OracleResult) : Option Decimal :=
  match run with
  | .ok result => some result.finalPremium
  | .error _ => none

end RateGuard
