import RateGuard.IpirV2.Package
import RateGuard.Oracle.Evaluator

/-!
# Direct evaluation of IPIR 0.2

What a 0.2 package means, stated on its own expressions: calculations run after those
they refer to, a table counts only where it is looked up, and of a conditional only the
chosen branch is evaluated. An expression evaluates alike wherever its references do, and
keeps its value when more becomes known.
-/

open DecimalFloat CalendarDate TopologicalSort

namespace RateGuard

/-- Value of a comparison's operand: references and literals keep their type. -/
def operandValue (context : Context) (expression : ExpressionV2)
    (evaluated : Except Failure Value) : Except Failure Value :=
  match expression with
  | .literal value => .ok value.toValue
  | .reference ref | .tableLookup ref => resolveReference context ref
  | .negate _ | .binary .. | .nary .. | .conditional .. | .round .. => evaluated

/-- Value rounded to a number of places. -/
def roundValue (value : Value) (scale : Fin 11) (mode : Rounding) : Except Failure Value := do
  let number ← raising value.toDecimal
  return .decimal (← raising (roundDecimal number scale.val mode))

mutual

/-- Value of an expression from what is known. -/
def evaluateDirect (context : Context) : ExpressionV2 → Except Failure Value
  | .literal value => numericResult value.toValue
  | .reference ref => do numericResult (← resolveReference context ref)
  | .tableLookup tableId => do numericResult (← resolveReference context tableId)
  | .negate operand => do
    let value ← evaluateDirect context operand
    return .decimal (← applyOperator .subtract [.decimal (.finite false 0 0), value])
  | .binary operator left right => do
    let first ← evaluateDirect context left
    let second ← evaluateDirect context right
    return .decimal (← applyOperator operator.lowered [first, second])
  | .nary operator operands => do
    return .decimal (← applyOperator operator.lowered (← evaluateAllDirect context operands))
  | .conditional condition whenTrue whenFalse => do
    if ← conditionDirect context condition then evaluateDirect context whenTrue
    else evaluateDirect context whenFalse
  | .round operand scale mode => do
    roundValue (← evaluateDirect context operand) scale mode

/-- Values of several expressions. -/
def evaluateAllDirect (context : Context) : List ExpressionV2 → Except Failure (List Value)
  | [] => .ok []
  | expression :: rest => do
    let value ← evaluateDirect context expression
    return value :: (← evaluateAllDirect context rest)

/-- Whether a condition holds. -/
def conditionDirect (context : Context) : ConditionV2 → Except Failure Bool
  | .comparison left operator right => do
    let first ← operandValue context left (evaluateDirect context left)
    let second ← operandValue context right (evaluateDirect context right)
    compareValues operator first second
  | .logical .and conditions => allDirect context conditions
  | .logical .or conditions => anyDirect context conditions

/-- Whether all conditions hold, up to the first that does not. -/
def allDirect (context : Context) : List ConditionV2 → Except Failure Bool
  | [] => .ok true
  | condition :: rest => do
    if ← conditionDirect context condition then allDirect context rest else return false

/-- Whether some condition holds, up to the first that does. -/
def anyDirect (context : Context) : List ConditionV2 → Except Failure Bool
  | [] => .ok false
  | condition :: rest => do
    if ← conditionDirect context condition then return true else anyDirect context rest

end

/-- What is known before the calculations, and the tables whose lookup fails. -/
structure Known where
  /-- Inputs, constants and factors of tables. -/
  context : Context
  /-- Tables without a factor. -/
  failed : List String

/-- Adds an active table; a table that looks up one without a factor has none. -/
def addTable (date : Date) (known : Known) (table : RateTable) : Known :=
  if isActive table.effectivePeriod date then
    if table.dimensions.any fun dimension => known.failed.contains dimension.inputRef then
      { known with failed := table.id :: known.failed }
    else
      match lookupTable table known.context with
      | .ok factor => { known with context := known.context.set table.id (.decimal factor.1) }
      | .error _ => { known with failed := table.id :: known.failed }
  else known

/-- Inputs and constants of a risk. -/
def opened (inputs : List PricingInput) (constants : List PricingConstant) (risk : RiskInput)
    (date : Date) (strict : Bool) : Except Failure Evaluation := do
  let validated ← validateRiskInputs inputs risk strict
  let state ← setInputs Evaluation.start validated
  constants.foldlM (setConstant date) state

/-- What is known of a risk before the calculations. -/
def known (package : PackageV2) (risk : RiskInput) (date : Date) (strict : Bool) :
    Except Failure Known := do
  let state ← opened package.inputs package.constants risk date strict
  return package.tables.foldl (addTable date) ⟨state.context, []⟩

/-- Value of a calculation as a decimal. -/
def calculationValue (context : Context) (node : CalculationNodeV2) : Except Failure Decimal := do
  raising (← evaluateDirect context node.expression).toDecimal

/-- Adds an active calculation, which has to be a finite number. -/
def addCalculation (date : Date) (context : Context) (node : CalculationNodeV2) :
    Except Failure Context := do
  if isActive node.effectivePeriod date then
    let value ← calculationValue context node
    if (Value.decimal value).recordable then return context.set node.id (.decimal value)
    else .error (.schema node.id)
  else return context

/-- Calculations in the order of their identifiers. -/
def inOrder (nodes : List CalculationNodeV2) (order : List String) : List CalculationNodeV2 :=
  order.filterMap fun id => nodes.find? (·.id == id)

/-- Edges between calculations from the references of their expressions. -/
def PackageV2.expressionEdges (package : PackageV2) : List (String × String) :=
  package.calculations.flatMap fun node =>
    (node.expression.nodeRefs.filter (package.calculations.map (·.id)).contains).map
      fun dependency => (dependency, node.id)

/-- Runs the calculations, each after those its expression refers to. -/
def calculateDirect (sorter : Sorter String) (package : PackageV2) (date : Date)
    (context : Context) : Except Failure Context :=
  match sorter.sort (package.calculations.map (·.id)) package.expressionEdges with
  | some order => (inOrder package.calculations order).foldlM (addCalculation date) context
  | none => .error (.oracle .dependencyCycle)

/-- Reads the first output, which has to be a finite number. -/
def directOutput (package : PackageV2) (context : Context) : Except Failure Decimal :=
  match package.outputs with
  | [] => .error (.oracle (.noOutputs package.packageId))
  | output :: _ =>
    match context output.sourceRef with
    | none => .error (.keyError output.sourceRef)
    | some value => do
      let premium ← raising value.toDecimal
      if (Value.decimal premium).recordable then return premium
      else .error (.schema output.id)

/-- Whether a package prices a date and a transaction. -/
def PackageV2.applies (package : PackageV2) (date : Date) (transaction : TransactionType) : Bool :=
  isActive (some package.effectivePeriod) date && package.transactionTypes.contains transaction

/-- Premium of a package by its own meaning. -/
def evaluateDirectly (sorter : Sorter String) (package : PackageV2) (risk : RiskInput)
    (date : Date) (transaction : TransactionType) (strict : Bool) : Except Failure Decimal := do
  if package.applies date transaction then
    let known ← known package risk date strict
    let context ← calculateDirect sorter package date known.context
    directOutput package context
  else .error (.oracle (.unsupportedTransaction transaction package.packageId
    package.transactionTypes))

/-- Whether every known one of some references is known alike in another context. -/
def Carries (context other : Context) (refs : List ExpressionRef) : Prop :=
  ∀ ref ∈ refs, ∀ value, context ref.id = some value → other ref.id = some value

/-- References of a part are carried with those of the whole. -/
theorem Carries.part {context other : Context} {refs part : List ExpressionRef}
    (carries : Carries context other refs) (inside : ∀ ref ∈ part, ref ∈ refs) :
    Carries context other part :=
  fun ref member => carries ref (inside ref member)

/-- A resolved reference resolves where it is carried. -/
theorem resolveReference_carried {context other : Context} (ref : String) {value : Value}
    (carried : ∀ value, context ref = some value → other ref = some value)
    (resolved : resolveReference context ref = .ok value) :
    resolveReference other ref = .ok value := by
  unfold resolveReference at resolved ⊢
  cases entry : context ref with
  | none =>
    rw [entry] at resolved
    cases resolved
  | some found =>
    rw [entry] at resolved
    rw [carried found entry]
    exact resolved

/-- An operand of a comparison keeps its value where its references are carried. -/
theorem operandValue_carried {context other : Context} (expression : ExpressionV2) {value : Value}
    (carries : Carries context other expression.refs)
    (evaluates : ∀ found, evaluateDirect context expression = .ok found →
      evaluateDirect other expression = .ok found)
    (resolved : operandValue context expression (evaluateDirect context expression) = .ok value) :
    operandValue other expression (evaluateDirect other expression) = .ok value := by
  cases expression with
  | literal literal => exact resolved
  | reference ref =>
    exact resolveReference_carried ref (carries (.node ref) (by simp [ExpressionV2.refs])) resolved
  | tableLookup tableId =>
    exact resolveReference_carried tableId
      (carries (.table tableId) (by simp [ExpressionV2.refs])) resolved
  | negate operand => exact evaluates value resolved
  | binary operator left right => exact evaluates value resolved
  | nary operator operands => exact evaluates value resolved
  | conditional condition whenTrue whenFalse => exact evaluates value resolved
  | round operand scale mode => exact evaluates value resolved

mutual

/-- An expression keeps its value where its references are carried. -/
theorem evaluateDirect_carried {context other : Context} :
    ∀ (expression : ExpressionV2) {value : Value}, Carries context other expression.refs →
      evaluateDirect context expression = .ok value → evaluateDirect other expression = .ok value
  | .literal literal, value, _, evaluated => by
    rw [evaluateDirect] at evaluated ⊢
    exact evaluated
  | .reference ref, value, carries, evaluated => by
    rw [evaluateDirect] at evaluated ⊢
    obtain ⟨found, resolved, numeric⟩ := Outcome.bind_eq_ok evaluated
    rw [resolveReference_carried ref (carries (.node ref) (by simp [ExpressionV2.refs])) resolved]
    exact numeric
  | .tableLookup tableId, value, carries, evaluated => by
    rw [evaluateDirect] at evaluated ⊢
    obtain ⟨found, resolved, numeric⟩ := Outcome.bind_eq_ok evaluated
    rw [resolveReference_carried tableId
      (carries (.table tableId) (by simp [ExpressionV2.refs])) resolved]
    exact numeric
  | .negate operand, value, carries, evaluated => by
    rw [evaluateDirect] at evaluated ⊢
    obtain ⟨found, inner, applied⟩ := Outcome.bind_eq_ok evaluated
    rw [evaluateDirect_carried operand carries inner]
    exact applied
  | .binary operator left right, value, carries, evaluated => by
    rw [evaluateDirect] at evaluated ⊢
    obtain ⟨first, leftValue, evaluated⟩ := Outcome.bind_eq_ok evaluated
    obtain ⟨second, rightValue, applied⟩ := Outcome.bind_eq_ok evaluated
    rw [evaluateDirect_carried left (carries.part (by simp +contextual [ExpressionV2.refs]))
        leftValue,
      evaluateDirect_carried right (carries.part (by simp +contextual [ExpressionV2.refs]))
        rightValue]
    exact applied
  | .nary operator operands, value, carries, evaluated => by
    rw [evaluateDirect] at evaluated ⊢
    obtain ⟨values, inner, applied⟩ := Outcome.bind_eq_ok evaluated
    rw [evaluateAllDirect_carried operands carries inner]
    exact applied
  | .conditional condition whenTrue whenFalse, value, carries, evaluated => by
    rw [evaluateDirect] at evaluated ⊢
    obtain ⟨holds, decided, chosen⟩ := Outcome.bind_eq_ok evaluated
    rw [conditionDirect_carried condition
      (carries.part (by simp +contextual [ExpressionV2.refs])) decided]
    cases holds with
    | true =>
      exact evaluateDirect_carried whenTrue
        (carries.part (by simp +contextual [ExpressionV2.refs])) chosen
    | false =>
      exact evaluateDirect_carried whenFalse
        (carries.part (by simp +contextual [ExpressionV2.refs])) chosen
  | .round operand scale mode, value, carries, evaluated => by
    rw [evaluateDirect] at evaluated ⊢
    obtain ⟨found, inner, rounded⟩ := Outcome.bind_eq_ok evaluated
    rw [evaluateDirect_carried operand carries inner]
    exact rounded

/-- Several expressions keep their values where their references are carried. -/
theorem evaluateAllDirect_carried {context other : Context} :
    ∀ (expressions : List ExpressionV2) {values : List Value},
      Carries context other (expressionsRefs expressions) →
      evaluateAllDirect context expressions = .ok values →
      evaluateAllDirect other expressions = .ok values
  | [], _, _, evaluated => by
    rw [evaluateAllDirect] at evaluated ⊢
    exact evaluated
  | expression :: rest, _, carries, evaluated => by
    rw [evaluateAllDirect] at evaluated ⊢
    obtain ⟨value, first, evaluated⟩ := Outcome.bind_eq_ok evaluated
    obtain ⟨values, others, evaluated⟩ := Outcome.bind_eq_ok evaluated
    rw [evaluateDirect_carried expression
        (carries.part (by simp +contextual [expressionsRefs])) first,
      evaluateAllDirect_carried rest (carries.part (by simp +contextual [expressionsRefs])) others]
    exact evaluated

/-- A condition keeps its outcome where its references are carried. -/
theorem conditionDirect_carried {context other : Context} :
    ∀ (condition : ConditionV2) {holds : Bool}, Carries context other condition.refs →
      conditionDirect context condition = .ok holds →
      conditionDirect other condition = .ok holds
  | .comparison left operator right, _, carries, evaluated => by
    rw [conditionDirect] at evaluated ⊢
    obtain ⟨first, leftValue, evaluated⟩ := Outcome.bind_eq_ok evaluated
    obtain ⟨second, rightValue, compared⟩ := Outcome.bind_eq_ok evaluated
    have leftCarries : Carries context other left.refs :=
      carries.part (by simp +contextual [ConditionV2.refs])
    have rightCarries : Carries context other right.refs :=
      carries.part (by simp +contextual [ConditionV2.refs])
    rw [operandValue_carried left leftCarries
        (fun _ => evaluateDirect_carried left leftCarries) leftValue,
      operandValue_carried right rightCarries
        (fun _ => evaluateDirect_carried right rightCarries) rightValue]
    exact compared
  | .logical .and conditions, _, carries, evaluated => by
    rw [conditionDirect] at evaluated ⊢
    exact allDirect_carried conditions carries evaluated
  | .logical .or conditions, _, carries, evaluated => by
    rw [conditionDirect] at evaluated ⊢
    exact anyDirect_carried conditions carries evaluated

/-- A conjunction keeps its outcome where its references are carried. -/
theorem allDirect_carried {context other : Context} :
    ∀ (conditions : List ConditionV2) {holds : Bool},
      Carries context other (conditionsRefs conditions) →
      allDirect context conditions = .ok holds → allDirect other conditions = .ok holds
  | [], _, _, evaluated => by
    rw [allDirect] at evaluated ⊢
    exact evaluated
  | condition :: rest, _, carries, evaluated => by
    rw [allDirect] at evaluated ⊢
    obtain ⟨first, decided, evaluated⟩ := Outcome.bind_eq_ok evaluated
    rw [conditionDirect_carried condition
      (carries.part (by simp +contextual [conditionsRefs])) decided]
    cases first with
    | true =>
      exact allDirect_carried rest (carries.part (by simp +contextual [conditionsRefs])) evaluated
    | false => exact evaluated

/-- A disjunction keeps its outcome where its references are carried. -/
theorem anyDirect_carried {context other : Context} :
    ∀ (conditions : List ConditionV2) {holds : Bool},
      Carries context other (conditionsRefs conditions) →
      anyDirect context conditions = .ok holds → anyDirect other conditions = .ok holds
  | [], _, _, evaluated => by
    rw [anyDirect] at evaluated ⊢
    exact evaluated
  | condition :: rest, _, carries, evaluated => by
    rw [anyDirect] at evaluated ⊢
    obtain ⟨first, decided, evaluated⟩ := Outcome.bind_eq_ok evaluated
    rw [conditionDirect_carried condition
      (carries.part (by simp +contextual [conditionsRefs])) decided]
    cases first with
    | true => exact evaluated
    | false =>
      exact anyDirect_carried rest (carries.part (by simp +contextual [conditionsRefs])) evaluated

end

end RateGuard
