import RateGuard.IpirV2.Strictness

/-!
# Lowering to IPIR 0.1

The compatibility boundary that turns a 0.2 package into a 0.1 package for the existing
evaluator. A conditional becomes a synthesized rule and a reference to it; a rounding at
the top of a calculation becomes its rounding rule, and a rounding anywhere else is
refused. Each synthesized rule evaluates as its conditional does, provided the rules
before it hold the values of theirs.
-/

open DecimalFloat CalendarDate TopologicalSort

namespace RateGuard

/-- Reasons a package is not lowered. -/
inductive LoweringError where
  /-- A rounding inside another expression. -/
  | nestedRound
  /-- The 0.1 validator refuses the lowered package. -/
  | invalidPackage

/-- `_LoweringContext`: side effects of lowering a package. -/
structure LoweringContext where
  /-- Rules synthesized so far. -/
  synthesizedRules : List PricingRule
  /-- Rule identifiers handed out so far. -/
  ruleCounter : Nat

/-- `next_rule_id`: identifier of the rule with a number. -/
def loweredRuleId (calcId : String) (number : Nat) : String :=
  String.ofList ("_lowered_rule_".toList ++ calcId.toList ++ '_' :: Text.digitsOf number)

mutual

/-- `_lower_expression`: the operand of an expression. Only the top of a calculation passes its
identifier on to a rule. -/
def lowerExpression (calcId : String) : ExpressionV2 → LoweringContext →
    Except LoweringError (Operand × LoweringContext)
  | .literal value, context => .ok (.literal value, context)
  | .reference ref, context => .ok (.reference ref, context)
  | .tableLookup tableId, context => .ok (.reference tableId, context)
  | .negate operand, context => do
    let (lowered, context) ← lowerExpression "expr" operand context
    return (.expression .subtract [.literal (.decimal ⟨false, 0, 0⟩), lowered], context)
  | .binary operator left right, context => do
    let (first, context) ← lowerExpression "expr" left context
    let (second, context) ← lowerExpression "expr" right context
    return (.expression operator.lowered [first, second], context)
  | .nary operator operands, context => do
    let (lowered, context) ← lowerExpressions operands context
    return (.expression operator.lowered lowered, context)
  | .round _ _ _, _ => .error .nestedRound
  | .conditional condition whenTrue whenFalse, context => do
    let number := context.ruleCounter + 1
    let (condition, context) ← lowerCondition condition ⟨context.synthesizedRules, number⟩
    let (whenTrue, context) ← lowerExpression "expr" whenTrue context
    let (whenFalse, context) ← lowerExpression "expr" whenFalse context
    let rule := ⟨loweredRuleId calcId number, condition, whenTrue, whenFalse, none⟩
    return (.reference rule.id, ⟨context.synthesizedRules ++ [rule], context.ruleCounter⟩)

/-- Operands of several expressions. -/
def lowerExpressions : List ExpressionV2 → LoweringContext →
    Except LoweringError (List Operand × LoweringContext)
  | [], context => .ok ([], context)
  | expression :: rest, context => do
    let (lowered, context) ← lowerExpression "expr" expression context
    let (others, context) ← lowerExpressions rest context
    return (lowered :: others, context)

/-- `_lower_condition`: the condition over lowered operands. -/
def lowerCondition : ConditionV2 → LoweringContext →
    Except LoweringError (Condition × LoweringContext)
  | .comparison left operator right, context => do
    let (first, context) ← lowerExpression "expr" left context
    let (second, context) ← lowerExpression "expr" right context
    return (.comparison first operator second, context)
  | .logical operator conditions, context => do
    let (lowered, context) ← lowerConditions conditions context
    return (.logical operator lowered, context)

/-- Several conditions over lowered operands. -/
def lowerConditions : List ConditionV2 → LoweringContext →
    Except LoweringError (List Condition × LoweringContext)
  | [], context => .ok ([], context)
  | condition :: rest, context => do
    let (lowered, context) ← lowerCondition condition context
    let (others, context) ← lowerConditions rest context
    return (lowered :: others, context)

end

/-- Rounding rule of the rounding at the top of a calculation. -/
def CalculationNodeV2.loweredRounding (node : CalculationNodeV2) : Option RoundingRule :=
  match node.expression with
  | .round _ scale mode =>
    some ⟨"_lowered_rounding_" ++ node.id, scale.val, mode, Nat.le_of_lt_succ scale.isLt⟩
  | _ => none

/-- Expression of a calculation below the rounding at its top. -/
def CalculationNodeV2.unroundedExpression (node : CalculationNodeV2) : ExpressionV2 :=
  match node.expression with
  | .round operand _ _ => operand
  | expression => expression

/-- `_lower_calculation_node`. -/
def lowerCalculationNode (node : CalculationNodeV2) (context : LoweringContext) :
    Except LoweringError (CalculationNode × LoweringContext) := do
  let (lowered, context) ← lowerExpression node.id node.unroundedExpression context
  return (⟨node.id, lowered, node.dependsOn, none, node.loweredRounding, node.effectivePeriod⟩,
    context)

/-- Lowers calculations from first to last. -/
def lowerCalculations : List CalculationNodeV2 → LoweringContext →
    Except LoweringError (List CalculationNode × LoweringContext)
  | [], context => .ok ([], context)
  | node :: rest, context => do
    let (lowered, context) ← lowerCalculationNode node context
    let (others, context) ← lowerCalculations rest context
    return (lowered :: others, context)

/-- 0.1 content of a package with lowered calculations and synthesized rules. -/
def loweredContent (package : PackageV2) (calculations : List CalculationNode)
    (rules : List PricingRule) : PackageContent where
  id := package.packageId
  version := package.packageVersion
  effectivePeriod := package.effectivePeriod
  transactionTypes := package.transactionTypes
  inputs := package.inputs
  constants := package.constants
  tables := package.tables
  rules := rules
  calculations := calculations
  roundingRules := []
  modifiers := []
  constraints := []
  fees := []
  coverages := []
  outputs := package.outputs.map fun output => ⟨output.id, output.sourceRef, some output.currency⟩

/-- `lower_to_v0_1`: the validated 0.1 package. -/
def lowerToV01 (package : PackageV2) : Except LoweringError IPIRPackage := do
  let (calculations, context) ← lowerCalculations package.calculations ⟨[], 0⟩
  if valid : (loweredContent package calculations context.synthesizedRules).Valid then
    return ⟨loweredContent package calculations context.synthesizedRules, valid⟩
  else .error .invalidPackage

/-- A synthesized rule, the conditional it stands for and its number. -/
structure Synthesis where
  /-- Synthesized rule. -/
  rule : PricingRule
  /-- Conditional replaced by a reference to the rule. -/
  conditional : ExpressionV2
  /-- Calculation named by the rule. -/
  calcId : String
  /-- Number of the rule. -/
  number : Nat
  /-- The rule has the identifier of its number. -/
  named : rule.id = loweredRuleId calcId number
  /-- The rule is active on every date. -/
  permanent : rule.effectivePeriod = none

/-- Whether the entry of a rule holds the value of its conditional. -/
def Synthesis.Reflected (synthesis : Synthesis) (context : Context) : Prop :=
  ∃ value, context synthesis.rule.id = some value ∧
    evaluateDirect context synthesis.conditional = .ok value

/-- Whether all entries of rules hold the values of their conditionals. -/
def AllReflected (syntheses : List Synthesis) (context : Context) : Prop :=
  ∀ synthesis ∈ syntheses, synthesis.Reflected context

/-- Value of a rule: its chosen branch. -/
def ruleValue (context : Context) (rule : PricingRule) : Except Failure Value := do
  let holds ← evaluateCondition context rule.condition
  evaluateExpression context (if holds then rule.whenTrue else rule.whenFalse)

/-- Rules that evaluate as their conditionals once those before them are reflected. -/
inductive Chain : List Synthesis → Prop
  | nil : Chain []
  | snoc {earlier : List Synthesis} {synthesis : Synthesis} (chain : Chain earlier)
    (evaluates : ∀ context, AllReflected earlier context →
      ruleValue context synthesis.rule = evaluateDirect context synthesis.conditional) :
    Chain (earlier ++ [synthesis])

/-- Reflection of two lists of rules. -/
theorem allReflected_append {first second : List Synthesis} {context : Context} :
    AllReflected (first ++ second) context ↔
      AllReflected first context ∧ AllReflected second context :=
  List.forall_mem_append

/-- Chains follow each other. -/
theorem Chain.append {first second : List Synthesis} (before : Chain first)
    (after : Chain second) : Chain (first ++ second) := by
  induction after with
  | nil =>
    rw [List.append_nil]
    exact before
  | snoc _ evaluates ih =>
    rw [← List.append_assoc]
    exact ih.snoc fun context reflected =>
      evaluates context (allReflected_append.mp reflected).2

/-- Effect of a lowering: the rules it adds and the numbers it hands out. -/
structure Lowers (before after : LoweringContext) (syntheses : List Synthesis) : Prop where
  /-- The rules are appended. -/
  rules : after.synthesizedRules = before.synthesizedRules ++ syntheses.map (·.rule)
  /-- They evaluate as their conditionals. -/
  chain : Chain syntheses
  /-- The counter never falls. -/
  counted : before.ruleCounter ≤ after.ruleCounter
  /-- Their numbers are new. -/
  numbered : ∀ synthesis ∈ syntheses,
    before.ruleCounter < synthesis.number ∧ synthesis.number ≤ after.ruleCounter
  /-- No number is used twice. -/
  distinct : (syntheses.map (·.number)).Nodup

/-- Nothing is added. -/
theorem Lowers.refl (context : LoweringContext) : Lowers context context [] where
  rules := (List.append_nil _).symm
  chain := .nil
  counted := le_rfl
  numbered := fun _ member => absurd member List.not_mem_nil
  distinct := List.nodup_nil

/-- One lowering after another. -/
theorem Lowers.trans {before between after : LoweringContext} {first second : List Synthesis}
    (one : Lowers before between first) (two : Lowers between after second) :
    Lowers before after (first ++ second) where
  rules := by rw [two.rules, one.rules, List.map_append, List.append_assoc]
  chain := one.chain.append two.chain
  counted := one.counted.trans two.counted
  numbered := by
    intro synthesis member
    rcases List.mem_append.mp member with early | late
    · have bounds := one.numbered synthesis early
      exact ⟨bounds.1, bounds.2.trans two.counted⟩
    · have bounds := two.numbered synthesis late
      exact ⟨one.counted.trans_lt bounds.1, bounds.2⟩
  distinct := by
    rw [List.map_append]
    refine List.nodup_append.mpr ⟨one.distinct, two.distinct, ?_⟩
    intro number early other late same
    obtain ⟨synthesis, member, rfl⟩ := List.mem_map.mp early
    obtain ⟨later, belongs, rfl⟩ := List.mem_map.mp late
    have below := (one.numbered synthesis member).2
    have above := (two.numbered later belongs).1
    omega

/-- The rule of a conditional after the rules inside it. -/
theorem Lowers.rule {before after : LoweringContext} {inner : List Synthesis}
    (lowers : Lowers ⟨before.synthesizedRules, before.ruleCounter + 1⟩ after inner)
    (synthesis : Synthesis) (number : synthesis.number = before.ruleCounter + 1)
    (evaluates : ∀ context, AllReflected inner context →
      ruleValue context synthesis.rule = evaluateDirect context synthesis.conditional) :
    Lowers before ⟨after.synthesizedRules ++ [synthesis.rule], after.ruleCounter⟩
      (inner ++ [synthesis]) where
  rules := by
    have inside := lowers.rules
    rw [List.map_append, ← List.append_assoc, List.map_singleton]
    exact congrArg (· ++ [synthesis.rule]) inside
  chain := lowers.chain.snoc evaluates
  counted := (Nat.le_succ _).trans lowers.counted
  numbered := by
    intro other member
    rcases List.mem_append.mp member with inside | itself
    · have bounds := lowers.numbered other inside
      exact ⟨(Nat.lt_succ_self _).trans bounds.1, bounds.2⟩
    · obtain rfl := List.mem_singleton.mp itself
      rw [number]
      exact ⟨Nat.lt_succ_self _, lowers.counted⟩
  distinct := by
    rw [List.map_append, List.map_singleton, number]
    refine List.nodup_append.mpr ⟨lowers.distinct, List.nodup_singleton _, ?_⟩
    intro first inside last itself same
    obtain ⟨other, member, rfl⟩ := List.mem_map.mp inside
    have above := (lowers.numbered other member).1
    rw [List.mem_singleton.mp itself] at same
    exact absurd same above.ne'

/-- What a reference or a literal yields is converted already. -/
theorem numericResult_idempotent {value converted : Value}
    (numeric : numericResult value = .ok converted) : numericResult converted = .ok converted := by
  cases value with
  | int value =>
    obtain ⟨number, _, returned⟩ := Outcome.bind_eq_ok numeric
    cases returned
    rfl
  | bool value =>
    obtain ⟨number, _, returned⟩ := Outcome.bind_eq_ok numeric
    cases returned
    rfl
  | decimal value =>
    cases numeric
    rfl
  | str value =>
    cases numeric
    rfl
  | date value =>
    cases numeric
    rfl

/-- What an expression yields is converted already. -/
theorem evaluateDirect_numeric {context : Context} :
    ∀ (expression : ExpressionV2) {value : Value},
      evaluateDirect context expression = .ok value → numericResult value = .ok value
  | .literal literal, _, evaluated => by
    rw [evaluateDirect] at evaluated
    exact numericResult_idempotent evaluated
  | .reference ref, _, evaluated => by
    rw [evaluateDirect] at evaluated
    obtain ⟨found, _, numeric⟩ := Outcome.bind_eq_ok evaluated
    exact numericResult_idempotent numeric
  | .tableLookup tableId, _, evaluated => by
    rw [evaluateDirect] at evaluated
    obtain ⟨found, _, numeric⟩ := Outcome.bind_eq_ok evaluated
    exact numericResult_idempotent numeric
  | .negate operand, _, evaluated => by
    rw [evaluateDirect] at evaluated
    obtain ⟨found, _, applied⟩ := Outcome.bind_eq_ok evaluated
    obtain ⟨number, _, returned⟩ := Outcome.bind_eq_ok applied
    cases returned
    rfl
  | .binary operator left right, _, evaluated => by
    rw [evaluateDirect] at evaluated
    obtain ⟨first, _, evaluated⟩ := Outcome.bind_eq_ok evaluated
    obtain ⟨second, _, applied⟩ := Outcome.bind_eq_ok evaluated
    obtain ⟨number, _, returned⟩ := Outcome.bind_eq_ok applied
    cases returned
    rfl
  | .nary operator operands, _, evaluated => by
    rw [evaluateDirect] at evaluated
    obtain ⟨values, _, applied⟩ := Outcome.bind_eq_ok evaluated
    obtain ⟨number, _, returned⟩ := Outcome.bind_eq_ok applied
    cases returned
    rfl
  | .conditional condition whenTrue whenFalse, _, evaluated => by
    rw [evaluateDirect] at evaluated
    obtain ⟨holds, _, chosen⟩ := Outcome.bind_eq_ok evaluated
    cases holds with
    | true => exact evaluateDirect_numeric whenTrue chosen
    | false => exact evaluateDirect_numeric whenFalse chosen
  | .round operand scale mode, _, evaluated => by
    rw [evaluateDirect] at evaluated
    obtain ⟨found, _, rounded⟩ := Outcome.bind_eq_ok evaluated
    obtain ⟨number, _, rounded⟩ := Outcome.bind_eq_ok rounded
    obtain ⟨result, _, returned⟩ := Outcome.bind_eq_ok rounded
    cases returned
    rfl

/-- Whether an operand means an expression: as a value and as the operand of a comparison. -/
structure Means (context : Context) (operand : Operand) (expression : ExpressionV2) : Prop where
  /-- They have the same value. -/
  value : evaluateExpression context operand = evaluateDirect context expression
  /-- They compare alike. -/
  compared : resolveValue context operand =
    operandValue context expression (evaluateDirect context expression)

/-- A reference to a reflected rule means its conditional. -/
theorem Synthesis.Reflected.means {synthesis : Synthesis} {context : Context}
    (reflected : synthesis.Reflected context) {condition : ConditionV2}
    {whenTrue whenFalse : ExpressionV2}
    (replaced : synthesis.conditional = .conditional condition whenTrue whenFalse) :
    Means context (.reference synthesis.rule.id) (.conditional condition whenTrue whenFalse) := by
  obtain ⟨value, entry, evaluated⟩ := reflected
  rw [replaced] at evaluated
  have resolved : resolveReference context synthesis.rule.id = .ok value := by
    rw [resolveReference, entry]
  constructor
  · rw [evaluateExpression, resolved, evaluated]
    exact evaluateDirect_numeric _ evaluated
  · rw [resolveValue, resolved, operandValue, evaluated]

mutual

/-- A lowered operand means its expression where the synthesized rules are reflected. -/
theorem lowerExpression_means : ∀ (expression : ExpressionV2) {calcId : String}
    {before after : LoweringContext} {operand : Operand},
    lowerExpression calcId expression before = .ok (operand, after) →
    ∃ syntheses, Lowers before after syntheses ∧
      syntheses.map (·.conditional) = expression.conditionals ∧
      ∀ context, AllReflected syntheses context → Means context operand expression
  | .literal literal, _, before, _, _, lowered => by
    rw [lowerExpression] at lowered
    cases lowered
    refine ⟨[], .refl _, rfl, fun context _ => ⟨?_, ?_⟩⟩
    · rw [evaluateExpression, evaluateDirect]
    · rw [resolveValue, operandValue]
  | .reference ref, _, before, _, _, lowered => by
    rw [lowerExpression] at lowered
    cases lowered
    refine ⟨[], .refl _, rfl, fun context _ => ⟨?_, ?_⟩⟩
    · rw [evaluateExpression, evaluateDirect]
    · rw [resolveValue, operandValue]
  | .tableLookup tableId, _, before, _, _, lowered => by
    rw [lowerExpression] at lowered
    cases lowered
    refine ⟨[], .refl _, rfl, fun context _ => ⟨?_, ?_⟩⟩
    · rw [evaluateExpression, evaluateDirect]
    · rw [resolveValue, operandValue]
  | .negate operand, _, before, _, _, lowered => by
    rw [lowerExpression] at lowered
    obtain ⟨⟨inner, after⟩, one, lowered⟩ := Outcome.bind_eq_ok lowered
    cases lowered
    obtain ⟨syntheses, lowers, conditionals, means⟩ := lowerExpression_means operand one
    refine ⟨syntheses, lowers, conditionals, fun context reflected => ?_⟩
    have same := (means context reflected).value
    have value : evaluateExpression context
        (.expression .subtract [.literal (.decimal ⟨false, 0, 0⟩), inner]) =
          evaluateDirect context (.negate operand) := by
      rw [evaluateExpression, evaluateDirect, evaluateOperands, evaluateOperands, evaluateOperands,
        evaluateExpression, same]
      cases evaluateDirect context operand with
      | error failed => rfl
      | ok found => rfl
    exact ⟨value, value⟩
  | .binary operator left right, _, before, _, _, lowered => by
    rw [lowerExpression] at lowered
    obtain ⟨⟨first, between⟩, one, lowered⟩ := Outcome.bind_eq_ok lowered
    obtain ⟨⟨second, after⟩, two, lowered⟩ := Outcome.bind_eq_ok lowered
    cases lowered
    obtain ⟨early, lowersLeft, conditionalsLeft, meansLeft⟩ := lowerExpression_means left one
    obtain ⟨late, lowersRight, conditionalsRight, meansRight⟩ := lowerExpression_means right two
    refine ⟨early ++ late, lowersLeft.trans lowersRight, ?_, fun context reflected => ?_⟩
    · rw [List.map_append, conditionalsLeft, conditionalsRight, ExpressionV2.conditionals]
    · obtain ⟨reflectedLeft, reflectedRight⟩ := allReflected_append.mp reflected
      have value : evaluateExpression context (.expression operator.lowered [first, second]) =
          evaluateDirect context (.binary operator left right) := by
        rw [evaluateExpression, evaluateDirect, evaluateOperands, evaluateOperands,
          evaluateOperands, (meansLeft context reflectedLeft).value,
          (meansRight context reflectedRight).value]
        cases evaluateDirect context left with
        | error failed => rfl
        | ok found =>
          cases evaluateDirect context right with
          | error failed => rfl
          | ok other => rfl
      exact ⟨value, value⟩
  | .nary operator operands, _, before, _, _, lowered => by
    rw [lowerExpression] at lowered
    obtain ⟨⟨inner, after⟩, one, lowered⟩ := Outcome.bind_eq_ok lowered
    cases lowered
    obtain ⟨syntheses, lowers, conditionals, means⟩ := lowerExpressions_means operands one
    refine ⟨syntheses, lowers, conditionals, fun context reflected => ?_⟩
    have value : evaluateExpression context (.expression operator.lowered inner) =
        evaluateDirect context (.nary operator operands) := by
      rw [evaluateExpression, evaluateDirect, means context reflected]
    exact ⟨value, value⟩
  | .round operand scale mode, _, before, _, _, lowered => by
    rw [lowerExpression] at lowered
    cases lowered
  | .conditional condition whenTrue whenFalse, calcId, before, _, _, lowered => by
    rw [lowerExpression] at lowered
    obtain ⟨⟨decided, first⟩, one, lowered⟩ := Outcome.bind_eq_ok lowered
    obtain ⟨⟨onTrue, second⟩, two, lowered⟩ := Outcome.bind_eq_ok lowered
    obtain ⟨⟨onFalse, third⟩, three, lowered⟩ := Outcome.bind_eq_ok lowered
    cases lowered
    obtain ⟨inCondition, lowersCondition, conditionalsCondition, meansCondition⟩ :=
      lowerCondition_means condition one
    obtain ⟨inTrue, lowersTrue, conditionalsTrue, meansTrue⟩ := lowerExpression_means whenTrue two
    obtain ⟨inFalse, lowersFalse, conditionalsFalse, meansFalse⟩ :=
      lowerExpression_means whenFalse three
    let synthesis : Synthesis :=
      { rule := ⟨loweredRuleId calcId (before.ruleCounter + 1), decided, onTrue, onFalse, none⟩
        conditional := .conditional condition whenTrue whenFalse
        calcId := calcId
        number := before.ruleCounter + 1
        named := rfl
        permanent := rfl }
    refine ⟨inCondition ++ inTrue ++ inFalse ++ [synthesis],
      ((lowersCondition.trans lowersTrue).trans lowersFalse).rule synthesis rfl ?_, ?_, ?_⟩
    · intro context reflected
      obtain ⟨before, reflectedFalse⟩ := allReflected_append.mp reflected
      obtain ⟨reflectedCondition, reflectedTrue⟩ := allReflected_append.mp before
      change (do
        let holds ← evaluateCondition context decided
        evaluateExpression context (if holds then onTrue else onFalse)) = _
      rw [meansCondition context reflectedCondition, evaluateDirect]
      cases conditionDirect context condition with
      | error failed => rfl
      | ok holds =>
        cases holds with
        | true => exact (meansTrue context reflectedTrue).value
        | false => exact (meansFalse context reflectedFalse).value
    · rw [List.map_append, List.map_append, List.map_append, conditionalsCondition,
        conditionalsTrue, conditionalsFalse, ExpressionV2.conditionals, List.map_singleton]
    · intro context reflected
      exact (reflected synthesis (by simp)).means rfl

/-- Lowered operands mean their expressions where the synthesized rules are reflected. -/
theorem lowerExpressions_means : ∀ (expressions : List ExpressionV2)
    {before after : LoweringContext} {operands : List Operand},
    lowerExpressions expressions before = .ok (operands, after) →
    ∃ syntheses, Lowers before after syntheses ∧
      syntheses.map (·.conditional) = expressionsConditionals expressions ∧
      ∀ context, AllReflected syntheses context →
        evaluateOperands context operands = evaluateAllDirect context expressions
  | [], before, _, _, lowered => by
    rw [lowerExpressions] at lowered
    cases lowered
    refine ⟨[], .refl _, rfl, fun context _ => ?_⟩
    rw [evaluateOperands, evaluateAllDirect]
  | expression :: rest, before, _, _, lowered => by
    rw [lowerExpressions] at lowered
    obtain ⟨⟨first, between⟩, one, lowered⟩ := Outcome.bind_eq_ok lowered
    obtain ⟨⟨others, after⟩, two, lowered⟩ := Outcome.bind_eq_ok lowered
    cases lowered
    obtain ⟨early, lowersFirst, conditionalsFirst, meansFirst⟩ :=
      lowerExpression_means expression one
    obtain ⟨late, lowersRest, conditionalsRest, meansRest⟩ := lowerExpressions_means rest two
    refine ⟨early ++ late, lowersFirst.trans lowersRest, ?_, fun context reflected => ?_⟩
    · rw [List.map_append, conditionalsFirst, conditionalsRest, expressionsConditionals]
    · obtain ⟨reflectedFirst, reflectedRest⟩ := allReflected_append.mp reflected
      rw [evaluateOperands, evaluateAllDirect, (meansFirst context reflectedFirst).value,
        meansRest context reflectedRest]

/-- A lowered condition decides as its condition where the synthesized rules are reflected. -/
theorem lowerCondition_means : ∀ (condition : ConditionV2)
    {before after : LoweringContext} {lowered : Condition},
    lowerCondition condition before = .ok (lowered, after) →
    ∃ syntheses, Lowers before after syntheses ∧
      syntheses.map (·.conditional) = condition.conditionals ∧
      ∀ context, AllReflected syntheses context →
        evaluateCondition context lowered = conditionDirect context condition
  | .comparison left operator right, before, _, _, lowered => by
    rw [lowerCondition] at lowered
    obtain ⟨⟨first, between⟩, one, lowered⟩ := Outcome.bind_eq_ok lowered
    obtain ⟨⟨second, after⟩, two, lowered⟩ := Outcome.bind_eq_ok lowered
    cases lowered
    obtain ⟨early, lowersLeft, conditionalsLeft, meansLeft⟩ := lowerExpression_means left one
    obtain ⟨late, lowersRight, conditionalsRight, meansRight⟩ := lowerExpression_means right two
    refine ⟨early ++ late, lowersLeft.trans lowersRight, ?_, fun context reflected => ?_⟩
    · rw [List.map_append, conditionalsLeft, conditionalsRight, ConditionV2.conditionals]
    · obtain ⟨reflectedLeft, reflectedRight⟩ := allReflected_append.mp reflected
      rw [evaluateCondition, conditionDirect, (meansLeft context reflectedLeft).compared,
        (meansRight context reflectedRight).compared]
  | .logical operator conditions, before, _, _, lowered => by
    rw [lowerCondition] at lowered
    obtain ⟨⟨inner, after⟩, one, lowered⟩ := Outcome.bind_eq_ok lowered
    cases lowered
    obtain ⟨syntheses, lowers, conditionals, means⟩ := lowerConditions_means conditions one
    refine ⟨syntheses, lowers, conditionals, fun context reflected => ?_⟩
    obtain ⟨allMeans, anyMeans⟩ := means context reflected
    cases operator with
    | and => rw [evaluateCondition, conditionDirect, allMeans]
    | or => rw [evaluateCondition, conditionDirect, anyMeans]

/-- Lowered conditions decide as their conditions where the synthesized rules are reflected. -/
theorem lowerConditions_means : ∀ (conditions : List ConditionV2)
    {before after : LoweringContext} {lowered : List Condition},
    lowerConditions conditions before = .ok (lowered, after) →
    ∃ syntheses, Lowers before after syntheses ∧
      syntheses.map (·.conditional) = conditionsConditionals conditions ∧
      ∀ context, AllReflected syntheses context →
        evaluateAll context lowered = allDirect context conditions ∧
        evaluateAny context lowered = anyDirect context conditions
  | [], before, _, _, lowered => by
    rw [lowerConditions] at lowered
    cases lowered
    refine ⟨[], .refl _, rfl, fun context _ => ⟨?_, ?_⟩⟩
    · rw [evaluateAll, allDirect]
    · rw [evaluateAny, anyDirect]
  | condition :: rest, before, _, _, lowered => by
    rw [lowerConditions] at lowered
    obtain ⟨⟨first, between⟩, one, lowered⟩ := Outcome.bind_eq_ok lowered
    obtain ⟨⟨others, after⟩, two, lowered⟩ := Outcome.bind_eq_ok lowered
    cases lowered
    obtain ⟨early, lowersFirst, conditionalsFirst, meansFirst⟩ :=
      lowerCondition_means condition one
    obtain ⟨late, lowersRest, conditionalsRest, meansRest⟩ := lowerConditions_means rest two
    refine ⟨early ++ late, lowersFirst.trans lowersRest, ?_, fun context reflected => ?_⟩
    · rw [List.map_append, conditionalsFirst, conditionalsRest, conditionsConditionals]
    · obtain ⟨reflectedFirst, reflectedRest⟩ := allReflected_append.mp reflected
      obtain ⟨allMeans, anyMeans⟩ := meansRest context reflectedRest
      rw [evaluateAll, allDirect, evaluateAny, anyDirect, meansFirst context reflectedFirst,
        allMeans, anyMeans]
      exact ⟨rfl, rfl⟩

end

/-- Rounding at the top of a calculation has no conditional of its own. -/
theorem CalculationNodeV2.unrounded_conditionals (node : CalculationNodeV2) :
    node.unroundedExpression.conditionals = node.expression.conditionals := by
  unfold CalculationNodeV2.unroundedExpression
  split
  · next rounded => rw [rounded, ExpressionV2.conditionals]
  · rfl

/-- A lowered calculation and the one it comes from, under the synthesized rules. -/
structure LoweredNode (syntheses : List Synthesis) (lowered : CalculationNode)
    (node : CalculationNodeV2) : Prop where
  /-- They are one node. -/
  id : lowered.id = node.id
  /-- Declared dependencies are kept. -/
  dependsOn : lowered.dependsOn = node.dependsOn
  /-- The period is kept. -/
  effectivePeriod : lowered.effectivePeriod = node.effectivePeriod
  /-- They have the same value where the rules are reflected. -/
  value : ∀ context, AllReflected syntheses context →
    baseValue [] context lowered = calculationValue context node

/-- A lowered calculation under more rules. -/
theorem LoweredNode.more {fewer more : List Synthesis} {lowered : CalculationNode}
    {node : CalculationNodeV2} (related : LoweredNode fewer lowered node)
    (inside : ∀ synthesis ∈ fewer, synthesis ∈ more) : LoweredNode more lowered node where
  id := related.id
  dependsOn := related.dependsOn
  effectivePeriod := related.effectivePeriod
  value := fun context reflected =>
    related.value context fun synthesis member => reflected synthesis (inside synthesis member)

/-- Without a rounding rule a calculation has the value of its operand. -/
theorem baseValue_unrounded (context : Context) (node : CalculationNode)
    (own : node.roundingRule = none) (shared : node.roundingRuleRef = none) :
    baseValue [] context node = (do
      let value ← evaluateExpression context node.expression
      raising value.toDecimal) := by
  unfold baseValue roundingRuleOf
  rw [own, shared]
  cases evaluateExpression context node.expression with
  | error failed => rfl
  | ok value => exact bind_pure (raising value.toDecimal)

/-- A rounded value is the decimal rounded by a rule. -/
theorem roundValue_toDecimal (value : Value) (scale : Fin 11) (mode : Rounding) :
    (do raising (← roundValue value scale mode).toDecimal) = (do
      let number ← raising value.toDecimal
      raising (roundDecimal number scale.val mode)) := by
  unfold roundValue
  cases raising value.toDecimal with
  | error failed => rfl
  | ok number =>
    change (do
      let rounded ← (do return Value.decimal (← raising (roundDecimal number scale.val mode)))
      raising rounded.toDecimal) = raising (roundDecimal number scale.val mode)
    cases raising (roundDecimal number scale.val mode) with
    | error failed => rfl
    | ok rounded => rfl

/-- The rounding rule of a calculation rounds as the top of its expression. -/
theorem baseValue_lowered {context : Context} {node : CalculationNodeV2} {operand : Operand}
    (same : evaluateExpression context operand =
      evaluateDirect context node.unroundedExpression) :
    baseValue [] context ⟨node.id, operand, node.dependsOn, none, node.loweredRounding,
      node.effectivePeriod⟩ = calculationValue context node := by
  obtain ⟨id, expression, dependsOn, effectivePeriod⟩ := node
  unfold calculationValue
  cases expression with
  | round inner scale mode =>
    unfold baseValue
    rw [same, evaluateDirect]
    change _ = (do raising (← (do
      roundValue (← evaluateDirect context inner) scale mode)).toDecimal)
    rw [bind_assoc]
    exact congrArg (evaluateDirect context inner >>= ·)
      (funext fun value => (roundValue_toDecimal value scale mode).symm)
  | literal value => rw [baseValue_unrounded _ _ rfl rfl, same]; rfl
  | reference ref => rw [baseValue_unrounded _ _ rfl rfl, same]; rfl
  | negate inner => rw [baseValue_unrounded _ _ rfl rfl, same]; rfl
  | binary operator left right => rw [baseValue_unrounded _ _ rfl rfl, same]; rfl
  | nary operator operands => rw [baseValue_unrounded _ _ rfl rfl, same]; rfl
  | conditional condition whenTrue whenFalse =>
    rw [baseValue_unrounded _ _ rfl rfl, same]; rfl
  | tableLookup tableId => rw [baseValue_unrounded _ _ rfl rfl, same]; rfl

/-- A lowered calculation has the value of its calculation. -/
theorem lowerCalculationNode_means {node : CalculationNodeV2} {before after : LoweringContext}
    {lowered : CalculationNode}
    (lowers : lowerCalculationNode node before = .ok (lowered, after)) :
    ∃ syntheses, Lowers before after syntheses ∧
      syntheses.map (·.conditional) = node.expression.conditionals ∧
      LoweredNode syntheses lowered node := by
  obtain ⟨⟨operand, context⟩, one, returned⟩ := Outcome.bind_eq_ok lowers
  cases returned
  obtain ⟨syntheses, effect, conditionals, means⟩ :=
    lowerExpression_means node.unroundedExpression one
  refine ⟨syntheses, effect, conditionals.trans node.unrounded_conditionals, rfl, rfl, rfl, ?_⟩
  exact fun context reflected => baseValue_lowered (means context reflected).value

/-- Lowered calculations have the values of their calculations. -/
theorem lowerCalculations_means {nodes : List CalculationNodeV2} {before after : LoweringContext}
    {lowered : List CalculationNode}
    (lowers : lowerCalculations nodes before = .ok (lowered, after)) :
    ∃ syntheses, Lowers before after syntheses ∧
      syntheses.map (·.conditional) = nodes.flatMap (·.expression.conditionals) ∧
      List.Forall₂ (LoweredNode syntheses) lowered nodes := by
  induction nodes generalizing before lowered with
  | nil =>
    cases lowers
    exact ⟨[], .refl _, rfl, .nil⟩
  | cons node rest ih =>
    obtain ⟨⟨first, between⟩, one, lowers⟩ := Outcome.bind_eq_ok lowers
    obtain ⟨⟨others, last⟩, two, returned⟩ := Outcome.bind_eq_ok lowers
    cases returned
    obtain ⟨early, lowersFirst, conditionalsFirst, nodeFirst⟩ := lowerCalculationNode_means one
    obtain ⟨late, lowersRest, conditionalsRest, nodesRest⟩ := ih two
    refine ⟨early ++ late, lowersFirst.trans lowersRest, ?_, .cons ?_ ?_⟩
    · rw [List.map_append, conditionalsFirst, conditionalsRest, List.flatMap_cons]
    · exact nodeFirst.more fun _ => List.mem_append_left _
    · exact nodesRest.imp fun _ _ related => related.more fun _ => List.mem_append_right _

end RateGuard
