import RateGuard.IpirV2.Simulation

/-!
# Packages that are lowered

A valid package is lowered exactly when every rounding stands at the top of its
calculation: synthesized identifiers are well formed, distinct by their numbers, and
different from those of all nodes by their first character, so the 0.1 validator accepts
what the lowering builds.
-/

open DecimalFloat CalendarDate TopologicalSort

namespace RateGuard

mutual

/-- Whether no rounding occurs in an expression. -/
def ExpressionV2.unrounded : ExpressionV2 → Bool
  | .literal _ | .reference _ | .tableLookup _ => true
  | .negate operand => operand.unrounded
  | .binary _ left right => left.unrounded && right.unrounded
  | .nary _ operands => expressionsUnrounded operands
  | .round _ _ _ => false
  | .conditional condition whenTrue whenFalse =>
    condition.unrounded && (whenTrue.unrounded && whenFalse.unrounded)

/-- Whether no rounding occurs in several expressions. -/
def expressionsUnrounded : List ExpressionV2 → Bool
  | [] => true
  | expression :: rest => expression.unrounded && expressionsUnrounded rest

/-- Whether no rounding occurs in a condition. -/
def ConditionV2.unrounded : ConditionV2 → Bool
  | .comparison left _ right => left.unrounded && right.unrounded
  | .logical _ conditions => conditionsUnrounded conditions

/-- Whether no rounding occurs in several conditions. -/
def conditionsUnrounded : List ConditionV2 → Bool
  | [] => true
  | condition :: rest => condition.unrounded && conditionsUnrounded rest

end

/-- A sequence succeeds if its first step does and its continuation, which does not depend on
the result. -/
theorem isOk_bind {ε α β : Type} {first : Except ε α} {after : α → Except ε β} {one other : Bool}
    (begins : first.isOk = one) (continues : ∀ middle, (after middle).isOk = other) :
    (first >>= after).isOk = (one && other) := by
  cases first with
  | error failed =>
    rw [← begins]
    rfl
  | ok middle =>
    rw [← begins]
    exact continues middle

/-- A sequence that ends with a result succeeds if its first step does. -/
theorem isOk_bind_ok {ε α β : Type} {first : Except ε α} {after : α → β} {one : Bool}
    (begins : first.isOk = one) :
    (first >>= fun middle => (.ok (after middle) : Except ε β)).isOk = one := by
  cases first with
  | error failed => exact begins
  | ok middle => exact begins

mutual

/-- An expression is lowered if no rounding occurs in it. -/
theorem lowerExpression_isOk : ∀ (expression : ExpressionV2) (calcId : String)
    (context : LoweringContext),
    (lowerExpression calcId expression context).isOk = expression.unrounded
  | .literal _, _, _ => by
    rw [lowerExpression, ExpressionV2.unrounded]
    rfl
  | .reference _, _, _ => by
    rw [lowerExpression, ExpressionV2.unrounded]
    rfl
  | .tableLookup _, _, _ => by
    rw [lowerExpression, ExpressionV2.unrounded]
    rfl
  | .negate operand, _, context => by
    rw [lowerExpression, ExpressionV2.unrounded]
    exact isOk_bind_ok (lowerExpression_isOk operand _ context)
  | .binary _ left right, _, context => by
    rw [lowerExpression, ExpressionV2.unrounded]
    refine isOk_bind (lowerExpression_isOk left _ context) fun first => ?_
    exact isOk_bind_ok (lowerExpression_isOk right _ first.2)
  | .nary _ operands, _, context => by
    rw [lowerExpression, ExpressionV2.unrounded]
    exact isOk_bind_ok (lowerExpressions_isOk operands context)
  | .round _ _ _, _, _ => by
    rw [lowerExpression, ExpressionV2.unrounded]
    rfl
  | .conditional condition whenTrue whenFalse, _, context => by
    rw [lowerExpression, ExpressionV2.unrounded]
    refine isOk_bind (lowerCondition_isOk condition _) fun first => ?_
    refine isOk_bind (lowerExpression_isOk whenTrue _ first.2) fun second => ?_
    exact isOk_bind_ok (lowerExpression_isOk whenFalse _ second.2)

/-- Several expressions are lowered if no rounding occurs in them. -/
theorem lowerExpressions_isOk : ∀ (expressions : List ExpressionV2) (context : LoweringContext),
    (lowerExpressions expressions context).isOk = expressionsUnrounded expressions
  | [], _ => by
    rw [lowerExpressions, expressionsUnrounded]
    rfl
  | expression :: rest, context => by
    rw [lowerExpressions, expressionsUnrounded]
    refine isOk_bind (lowerExpression_isOk expression _ context) fun first => ?_
    exact isOk_bind_ok (lowerExpressions_isOk rest first.2)

/-- A condition is lowered if no rounding occurs in it. -/
theorem lowerCondition_isOk : ∀ (condition : ConditionV2) (context : LoweringContext),
    (lowerCondition condition context).isOk = condition.unrounded
  | .comparison left _ right, context => by
    rw [lowerCondition, ConditionV2.unrounded]
    refine isOk_bind (lowerExpression_isOk left _ context) fun first => ?_
    exact isOk_bind_ok (lowerExpression_isOk right _ first.2)
  | .logical _ conditions, context => by
    rw [lowerCondition, ConditionV2.unrounded]
    exact isOk_bind_ok (lowerConditions_isOk conditions context)

/-- Several conditions are lowered if no rounding occurs in them. -/
theorem lowerConditions_isOk : ∀ (conditions : List ConditionV2) (context : LoweringContext),
    (lowerConditions conditions context).isOk = conditionsUnrounded conditions
  | [], _ => by
    rw [lowerConditions, conditionsUnrounded]
    rfl
  | condition :: rest, context => by
    rw [lowerConditions, conditionsUnrounded]
    refine isOk_bind (lowerCondition_isOk condition context) fun first => ?_
    exact isOk_bind_ok (lowerConditions_isOk rest first.2)

end

/-- Whether every rounding stands at the top of its calculation. -/
def PackageV2.roundsAtTop (package : PackageV2) : Bool :=
  package.calculations.all fun node => node.unroundedExpression.unrounded

/-- Calculations are lowered if every rounding stands at the top. -/
theorem lowerCalculations_isOk (nodes : List CalculationNodeV2) (context : LoweringContext) :
    (lowerCalculations nodes context).isOk =
      nodes.all fun node => node.unroundedExpression.unrounded := by
  induction nodes generalizing context with
  | nil => rfl
  | cons node rest ih =>
    rw [List.all_cons, lowerCalculations]
    refine isOk_bind ?_ fun first => isOk_bind_ok (ih first.2)
    exact isOk_bind_ok (lowerExpression_isOk node.unroundedExpression _ context)

/-- Rules with well-formed identifiers and operands. -/
def RuleFormed (rule : PricingRule) : Prop :=
  isIdentifier rule.id = true ∧ rule.condition.wellFormed = true ∧
    rule.whenTrue.wellFormed = true ∧ rule.whenFalse.wellFormed = true

/-- Characters of a 0.2 identifier are those of an identifier. -/
theorem isIdentifierV2Char_basic {character : Char} (basic : isIdentifierV2Char character = true) :
    isIdentifierChar character = true := by
  unfold isIdentifierV2Char at basic
  unfold isIdentifierChar Char.isAlphanum Char.isAlpha
  simp only [Bool.or_eq_true] at basic ⊢
  tauto

/-- A 0.2 identifier starts with a lowercase letter. -/
theorem isIdentifierV2_first {id : String} (valid : isIdentifierV2 id = true) :
    ∃ first rest, id.toList = first :: rest ∧ first.isLower = true ∧
      ∀ character ∈ rest, isIdentifierV2Char character = true := by
  unfold isIdentifierV2 at valid
  split at valid
  · next first rest text =>
    simp only [Bool.and_eq_true, List.all_eq_true] at valid
    exact ⟨first, rest, text, valid.1.1.1, valid.2⟩
  · cases valid

/-- A 0.2 identifier is an identifier. -/
theorem isIdentifier_of_v2 {id : String} (valid : isIdentifierV2 id = true) :
    isIdentifier id = true := by
  obtain ⟨first, rest, text, lower, others⟩ := isIdentifierV2_first valid
  unfold isIdentifier
  rw [Bool.and_eq_true, text]
  constructor
  · refine decide_eq_true fun empty => ?_
    rw [empty] at text
    cases text
  · rw [List.all_cons, Bool.and_eq_true, List.all_eq_true]
    refine ⟨isIdentifierV2Char_basic ?_, fun character member =>
      isIdentifierV2Char_basic (others character member)⟩
    unfold isIdentifierV2Char
    rw [lower]
    rfl

/-- Synthesized identifiers are identifiers. -/
theorem loweredRuleId_identifier {calcId : String} (number : Nat)
    (valid : isIdentifier calcId = true) : isIdentifier (loweredRuleId calcId number) = true := by
  unfold isIdentifier at valid ⊢
  rw [Bool.and_eq_true] at valid ⊢
  unfold loweredRuleId
  constructor
  · refine decide_eq_true fun empty => ?_
    have letters := congrArg String.toList empty
    rw [String.toList_ofList] at letters
    cases letters
  · have digits : (Text.digitsOf number).all isIdentifierChar = true := by
      refine List.all_eq_true.mpr fun character member => ?_
      unfold isIdentifierChar Char.isAlphanum
      rw [Text.digitsOf_basic member]
      simp
    have start : "_lowered_rule_".toList.all isIdentifierChar = true := by decide +kernel
    rw [String.toList_ofList, List.all_append, List.all_append, List.all_cons, valid.2, digits,
      start]
    decide

/-- Rules synthesized so far are well formed. -/
def LoweringContext.Formed (context : LoweringContext) : Prop :=
  ∀ rule ∈ context.synthesizedRules, RuleFormed rule

/-- Default identifier of nested expressions. -/
theorem expr_identifier : isIdentifier "expr" = true := by decide +kernel

mutual

/-- A well-formed expression is lowered to a well-formed operand and well-formed rules. -/
theorem lowerExpression_formed : ∀ (expression : ExpressionV2) {calcId : String}
    {before after : LoweringContext} {operand : Operand},
    lowerExpression calcId expression before = .ok (operand, after) →
    expression.wellFormed = true → isIdentifier calcId = true → before.Formed →
    operand.wellFormed = true ∧ after.Formed
  | .literal _, _, _, _, _, lowered, _, _, formed => by
    rw [lowerExpression] at lowered
    cases lowered
    exact ⟨by rw [Operand.wellFormed], formed⟩
  | .reference ref, _, _, _, _, lowered, well, _, formed => by
    rw [lowerExpression] at lowered
    cases lowered
    rw [ExpressionV2.wellFormed] at well
    exact ⟨by rw [Operand.wellFormed, isIdentifier_of_v2 well], formed⟩
  | .tableLookup tableId, _, _, _, _, lowered, well, _, formed => by
    rw [lowerExpression] at lowered
    cases lowered
    rw [ExpressionV2.wellFormed] at well
    exact ⟨by rw [Operand.wellFormed, isIdentifier_of_v2 well], formed⟩
  | .negate operand, _, _, _, _, lowered, well, _, formed => by
    rw [lowerExpression] at lowered
    obtain ⟨⟨inner, after⟩, one, lowered⟩ := Outcome.bind_eq_ok lowered
    cases lowered
    rw [ExpressionV2.wellFormed] at well
    obtain ⟨shape, rules⟩ := lowerExpression_formed operand one well expr_identifier formed
    refine ⟨?_, rules⟩
    rw [Operand.wellFormed, operandsWellFormed, operandsWellFormed, operandsWellFormed,
      Operand.wellFormed, shape]
    rfl
  | .binary operator left right, _, _, _, _, lowered, well, _, formed => by
    rw [lowerExpression] at lowered
    obtain ⟨⟨first, between⟩, one, lowered⟩ := Outcome.bind_eq_ok lowered
    obtain ⟨⟨second, after⟩, two, lowered⟩ := Outcome.bind_eq_ok lowered
    cases lowered
    rw [ExpressionV2.wellFormed, Bool.and_eq_true] at well
    obtain ⟨shapeLeft, rulesLeft⟩ := lowerExpression_formed left one well.1 expr_identifier formed
    obtain ⟨shapeRight, rules⟩ :=
      lowerExpression_formed right two well.2 expr_identifier rulesLeft
    refine ⟨?_, rules⟩
    rw [Operand.wellFormed, operandsWellFormed, operandsWellFormed, operandsWellFormed, shapeLeft,
      shapeRight]
    cases operator <;> rfl
  | .nary operator operands, _, _, _, _, lowered, well, _, formed => by
    rw [lowerExpression] at lowered
    obtain ⟨⟨inner, after⟩, one, lowered⟩ := Outcome.bind_eq_ok lowered
    cases lowered
    rw [ExpressionV2.wellFormed, Bool.and_eq_true] at well
    obtain ⟨shapes, count, rules⟩ := lowerExpressions_formed operands one well.2 formed
    refine ⟨?_, rules⟩
    rw [Operand.wellFormed, shapes, count, Bool.and_true]
    cases operator <;> exact well.1
  | .round _ _ _, _, _, _, _, lowered, _, _, _ => by
    rw [lowerExpression] at lowered
    cases lowered
  | .conditional condition whenTrue whenFalse, calcId, before, _, _, lowered, well, named,
      formed => by
    rw [lowerExpression] at lowered
    obtain ⟨⟨decided, first⟩, one, lowered⟩ := Outcome.bind_eq_ok lowered
    obtain ⟨⟨onTrue, second⟩, two, lowered⟩ := Outcome.bind_eq_ok lowered
    obtain ⟨⟨onFalse, third⟩, three, lowered⟩ := Outcome.bind_eq_ok lowered
    cases lowered
    rw [ExpressionV2.wellFormed, Bool.and_eq_true, Bool.and_eq_true] at well
    obtain ⟨shapeCondition, rulesFirst⟩ := lowerCondition_formed condition one well.1.1 formed
    obtain ⟨shapeTrue, rulesSecond⟩ :=
      lowerExpression_formed whenTrue two well.1.2 expr_identifier rulesFirst
    obtain ⟨shapeFalse, rulesThird⟩ :=
      lowerExpression_formed whenFalse three well.2 expr_identifier rulesSecond
    have identifier := loweredRuleId_identifier (before.ruleCounter + 1) named
    refine ⟨by rw [Operand.wellFormed, identifier], ?_⟩
    intro rule member
    rcases List.mem_append.mp member with inside | itself
    · exact rulesThird rule inside
    · obtain rfl := List.mem_singleton.mp itself
      exact ⟨identifier, shapeCondition, shapeTrue, shapeFalse⟩

/-- Well-formed expressions are lowered to as many well-formed operands. -/
theorem lowerExpressions_formed : ∀ (expressions : List ExpressionV2)
    {before after : LoweringContext} {operands : List Operand},
    lowerExpressions expressions before = .ok (operands, after) →
    expressionsWellFormed expressions = true → before.Formed →
    operandsWellFormed operands = true ∧ operands.length = expressions.length ∧ after.Formed
  | [], _, _, _, lowered, _, formed => by
    rw [lowerExpressions] at lowered
    cases lowered
    exact ⟨by rw [operandsWellFormed], rfl, formed⟩
  | expression :: rest, _, _, _, lowered, well, formed => by
    rw [lowerExpressions] at lowered
    obtain ⟨⟨first, between⟩, one, lowered⟩ := Outcome.bind_eq_ok lowered
    obtain ⟨⟨others, after⟩, two, lowered⟩ := Outcome.bind_eq_ok lowered
    cases lowered
    rw [expressionsWellFormed, Bool.and_eq_true] at well
    obtain ⟨shape, rulesFirst⟩ :=
      lowerExpression_formed expression one well.1 expr_identifier formed
    obtain ⟨shapes, count, rules⟩ := lowerExpressions_formed rest two well.2 rulesFirst
    refine ⟨by rw [operandsWellFormed, shape, shapes, Bool.and_self], ?_, rules⟩
    rw [List.length_cons, List.length_cons, count]

/-- A well-formed condition is lowered to a well-formed condition. -/
theorem lowerCondition_formed : ∀ (condition : ConditionV2)
    {before after : LoweringContext} {lowered : Condition},
    lowerCondition condition before = .ok (lowered, after) → condition.wellFormed = true →
    before.Formed → lowered.wellFormed = true ∧ after.Formed
  | .comparison left operator right, _, _, _, lowered, well, formed => by
    rw [lowerCondition] at lowered
    obtain ⟨⟨first, between⟩, one, lowered⟩ := Outcome.bind_eq_ok lowered
    obtain ⟨⟨second, after⟩, two, lowered⟩ := Outcome.bind_eq_ok lowered
    cases lowered
    rw [ConditionV2.wellFormed, Bool.and_eq_true] at well
    obtain ⟨shapeLeft, rulesLeft⟩ := lowerExpression_formed left one well.1 expr_identifier formed
    obtain ⟨shapeRight, rules⟩ :=
      lowerExpression_formed right two well.2 expr_identifier rulesLeft
    exact ⟨by rw [Condition.wellFormed, shapeLeft, shapeRight, Bool.and_self], rules⟩
  | .logical operator conditions, _, _, _, lowered, well, formed => by
    rw [lowerCondition] at lowered
    obtain ⟨⟨inner, after⟩, one, lowered⟩ := Outcome.bind_eq_ok lowered
    cases lowered
    rw [ConditionV2.wellFormed, Bool.and_eq_true] at well
    obtain ⟨shapes, count, rules⟩ := lowerConditions_formed conditions one well.2 formed
    refine ⟨?_, rules⟩
    rw [Condition.wellFormed, shapes, Bool.and_true]
    refine decide_eq_true fun empty => ?_
    rw [empty, List.length_nil] at count
    rw [← count] at well
    cases well.1

/-- Well-formed conditions are lowered to as many well-formed conditions. -/
theorem lowerConditions_formed : ∀ (conditions : List ConditionV2)
    {before after : LoweringContext} {lowered : List Condition},
    lowerConditions conditions before = .ok (lowered, after) →
    conditionsV2WellFormed conditions = true → before.Formed →
    conditionsWellFormed lowered = true ∧ lowered.length = conditions.length ∧ after.Formed
  | [], _, _, _, lowered, _, formed => by
    rw [lowerConditions] at lowered
    cases lowered
    exact ⟨by rw [conditionsWellFormed], rfl, formed⟩
  | condition :: rest, _, _, _, lowered, well, formed => by
    rw [lowerConditions] at lowered
    obtain ⟨⟨first, between⟩, one, lowered⟩ := Outcome.bind_eq_ok lowered
    obtain ⟨⟨others, after⟩, two, lowered⟩ := Outcome.bind_eq_ok lowered
    cases lowered
    rw [conditionsV2WellFormed, Bool.and_eq_true] at well
    obtain ⟨shape, rulesFirst⟩ := lowerCondition_formed condition one well.1 formed
    obtain ⟨shapes, count, rules⟩ := lowerConditions_formed rest two well.2 rulesFirst
    refine ⟨by rw [conditionsWellFormed, shape, shapes, Bool.and_self], ?_, rules⟩
    rw [List.length_cons, List.length_cons, count]

end

/-- An expression below a top rounding is well formed. -/
theorem CalculationNodeV2.unrounded_wellFormed {node : CalculationNodeV2}
    (well : node.expression.wellFormed = true) : node.unroundedExpression.wellFormed = true := by
  unfold CalculationNodeV2.unroundedExpression
  split
  · next rounded =>
    rw [rounded, ExpressionV2.wellFormed] at well
    exact well
  · exact well

/-- Nodes whose identifier, expression and dependencies are well formed. -/
def NodeFormed (node : CalculationNode) : Prop :=
  (node.expression.wellFormed && node.dependsOn.all isIdentifier &&
    node.roundingRuleRef.all isIdentifier && node.roundingRule.all (isIdentifier ·.id)) = true

/-- A rounding rule of a lowered calculation is well formed. -/
theorem loweredRounding_formed {node : CalculationNodeV2} (named : isIdentifier node.id = true) :
    node.loweredRounding.all (isIdentifier ·.id) = true := by
  unfold CalculationNodeV2.loweredRounding
  split
  · rw [Option.all_some]
    unfold isIdentifier at named ⊢
    rw [Bool.and_eq_true] at named ⊢
    rw [String.toList_append, List.all_append, named.2]
    refine ⟨decide_eq_true fun empty => ?_, by decide +kernel⟩
    have letters := congrArg String.toList empty
    rw [String.toList_append] at letters
    exact absurd (List.append_eq_nil_iff.mp letters).1 (by decide +kernel)
  · rfl

/-- Well-formed calculations are lowered to well-formed calculations and rules. -/
theorem lowerCalculations_formed {nodes : List CalculationNodeV2} {before after : LoweringContext}
    {lowered : List CalculationNode}
    (lowers : lowerCalculations nodes before = .ok (lowered, after))
    (named : ∀ node ∈ nodes, isIdentifier node.id = true)
    (well : ∀ node ∈ nodes, (node.expression.wellFormed &&
      node.dependsOn.all isIdentifierV2) = true) (formed : before.Formed) :
    (∀ node ∈ lowered, NodeFormed node) ∧ after.Formed := by
  induction nodes generalizing before lowered with
  | nil =>
    cases lowers
    exact ⟨fun _ member => absurd member List.not_mem_nil, formed⟩
  | cons node rest ih =>
    obtain ⟨⟨first, between⟩, one, lowers⟩ := Outcome.bind_eq_ok lowers
    obtain ⟨⟨others, last⟩, two, returned⟩ := Outcome.bind_eq_ok lowers
    cases returned
    obtain ⟨⟨operand, context⟩, inner, returned⟩ := Outcome.bind_eq_ok one
    cases returned
    have here := well node List.mem_cons_self
    have identifier := named node List.mem_cons_self
    rw [Bool.and_eq_true] at here
    obtain ⟨shape, rulesFirst⟩ := lowerExpression_formed node.unroundedExpression inner
      (CalculationNodeV2.unrounded_wellFormed here.1) identifier formed
    obtain ⟨shapes, rules⟩ := ih two (fun later member => named later (List.mem_cons_of_mem _ member))
      (fun later member => well later (List.mem_cons_of_mem _ member)) rulesFirst
    refine ⟨fun other member => ?_, rules⟩
    rcases List.mem_cons.mp member with rfl | later
    · have dependencies : node.dependsOn.all isIdentifier = true :=
        List.all_eq_true.mpr fun id inside =>
          isIdentifier_of_v2 (List.all_eq_true.mp here.2 id inside)
      unfold NodeFormed
      rw [shape, dependencies, loweredRounding_formed identifier]
      rfl
    · exact shapes other later

/-- Digits at the end of a synthesized identifier. -/
theorem loweredRuleId_digits (calcId : String) (number : Nat) :
    (loweredRuleId calcId number).toList.reverse.takeWhile Char.isDigit =
      (Text.digitsOf number).reverse := by
  unfold loweredRuleId
  rw [String.toList_ofList, List.reverse_append, List.reverse_cons, List.append_assoc]
  rw [List.takeWhile_append_of_pos fun character member =>
    Text.digitsOf_basic (List.mem_reverse.mp member)]
  rw [List.singleton_append, List.takeWhile_cons_of_neg (by decide), List.append_nil]

/-- Synthesized identifiers of different numbers differ. -/
theorem loweredRuleId_injective {first second : String} {one two : Nat}
    (same : loweredRuleId first one = loweredRuleId second two) : one = two := by
  have digits := loweredRuleId_digits first one
  rw [same, loweredRuleId_digits] at digits
  have texts := List.reverse_injective digits
  rw [← Text.numeral_digitsOf one, ← texts, Text.numeral_digitsOf]

/-- A synthesized identifier is no 0.2 identifier. -/
theorem loweredRuleId_strict (calcId : String) (number : Nat) :
    isIdentifierV2 (loweredRuleId calcId number) = false := by
  cases valid : isIdentifierV2 (loweredRuleId calcId number) with
  | false => rfl
  | true =>
    obtain ⟨first, rest, text, lower, _⟩ := isIdentifierV2_first valid
    unfold loweredRuleId at text
    rw [String.toList_ofList] at text
    rw [← (List.cons.inj text).1] at lower
    cases lower

/-- Identifiers of the synthesized rules are distinct. -/
theorem Lowers.ids_distinct {before after : LoweringContext} {syntheses : List Synthesis}
    (lowers : Lowers before after syntheses) : (syntheses.map (·.rule.id)).Nodup := by
  have numbers := lowers.distinct
  rw [List.nodup_map_iff_inj_on numbers.of_map] at numbers
  refine List.Nodup.map_on ?_ lowers.distinct.of_map
  intro first member second belongs same
  rw [first.named, second.named] at same
  exact numbers first member second belongs (loweredRuleId_injective same)

/-- The identifiers of all nodes are 0.2 identifiers. -/
theorem PackageV2.Valid.ids_strict {package : PackageV2} (valid : package.Valid) :
    ∀ id ∈ package.nodeIds, isIdentifierV2 id = true := by
  have formed := valid.wellFormed
  unfold PackageV2.nodesWellFormed at formed
  simp only [Bool.and_eq_true] at formed
  exact fun id member => List.all_eq_true.mp formed.1.1.1.2 id member

/-- The 0.1 validator accepts the lowered content of a valid package. -/
theorem loweredContent_valid {package : PackageV2} (valid : package.Valid)
    {calculations : List CalculationNode} {context : LoweringContext}
    (lowers : lowerCalculations package.calculations ⟨[], 0⟩ = .ok (calculations, context)) :
    (loweredContent package calculations context.synthesizedRules).Valid := by
  obtain ⟨syntheses, effect, _, nodes⟩ := lowerCalculations_means lowers
  have rules : context.synthesizedRules = syntheses.map (·.rule) := effect.rules
  have ids := (lowered_graph nodes []).1
  have strict := valid.ids_strict
  have formed := valid.wellFormed
  unfold PackageV2.nodesWellFormed at formed
  simp only [Bool.and_eq_true] at formed
  obtain ⟨⟨⟨⟨⟨_, packageId⟩, _⟩, tables⟩, expressions⟩, outputs⟩ := formed
  have named : ∀ node ∈ package.calculations, node.id ∈ package.nodeIds := by
    intro node member
    unfold PackageV2.nodeIds
    exact List.mem_append_left _ (List.mem_append_right _ (List.mem_map_of_mem member))
  obtain ⟨nodesFormed, rulesFormed⟩ := lowerCalculations_formed lowers
    (fun node member => isIdentifier_of_v2 (strict _ (named node member)))
    (fun node member => List.all_eq_true.mp expressions node member)
    (fun _ member => absurd member List.not_mem_nil)
  have perm := loweredContent_nodeIds context.synthesizedRules ids
  constructor
  · unfold PackageContent.nodesWellFormed
    simp only [Bool.and_eq_true]
    refine ⟨⟨⟨⟨⟨⟨⟨⟨⟨⟨isIdentifier_of_v2 packageId, ?_⟩, rfl⟩, tables⟩, ?_⟩, ?_⟩, rfl⟩, rfl⟩, rfl⟩,
      rfl⟩, ?_⟩
    · refine List.all_eq_true.mpr fun id member => ?_
      rcases List.mem_append.mp (perm.mem_iff.mp member) with ruled | node
      · obtain ⟨rule, inside, rfl⟩ := List.mem_map.mp ruled
        exact (rulesFormed rule inside).1
      · exact isIdentifier_of_v2 (strict id node)
    · refine List.all_eq_true.mpr fun rule member => ?_
      obtain ⟨_, shapeCondition, shapeTrue, shapeFalse⟩ := rulesFormed rule member
      rw [shapeCondition, shapeTrue, shapeFalse]
      rfl
    · exact List.all_eq_true.mpr nodesFormed
    · refine List.all_eq_true.mpr fun output member => ?_
      obtain ⟨source, inside, rfl⟩ := List.mem_map.mp member
      have checked := List.all_eq_true.mp outputs source inside
      rw [Bool.and_eq_true] at checked
      exact isIdentifier_of_v2 checked.1
  · intro empty
    have none_left : calculations = [] := empty
    rw [none_left] at ids
    exact valid.calculations_nonempty (List.map_eq_nil_iff.mp ids.symm)
  · exact fun empty => valid.outputs_nonempty (List.map_eq_nil_iff.mp empty)
  · rw [perm.nodup_iff, rules, List.map_map]
    refine List.nodup_append.mpr ⟨effect.ids_distinct, valid.ids_distinct, ?_⟩
    intro id rule other node same
    obtain ⟨synthesis, _, rfl⟩ := List.mem_map.mp rule
    have checked := strict other node
    rw [← same, Function.comp_apply, synthesis.named, loweredRuleId_strict] at checked
    cases checked
  · exact List.nodup_nil
  · intro output member
    obtain ⟨source, inside, rfl⟩ := List.mem_map.mp member
    exact perm.mem_iff.mpr (List.mem_append_right _ (valid.outputs_resolve source inside))

/-- A valid package is lowered exactly when every rounding stands at the top of its calculation. -/
theorem lowerToV01_isOk {package : PackageV2} (valid : package.Valid) :
    (lowerToV01 package).isOk = package.roundsAtTop := by
  have calculations := lowerCalculations_isOk package.calculations ⟨[], 0⟩
  unfold PackageV2.roundsAtTop
  rw [← calculations]
  unfold lowerToV01
  cases lowered : lowerCalculations package.calculations ⟨[], 0⟩ with
  | error failed => rfl
  | ok result =>
    change (if valid : (loweredContent package result.1 result.2.synthesizedRules).Valid then _
      else _ : Except LoweringError IPIRPackage).isOk = true
    rw [dif_pos (loweredContent_valid valid lowered)]
    rfl

end RateGuard
