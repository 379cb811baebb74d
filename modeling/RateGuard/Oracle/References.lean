import RateGuard.Ipir.References
import RateGuard.Oracle.Expression

/-!
# Evaluation reads its references

Expressions and conditions evaluate alike in contexts that agree on what they refer to.
-/

namespace RateGuard

/-- Contexts that agree on some identifiers. -/
def AgreeOn (ids : List String) (first second : Context) : Prop :=
  ∀ id ∈ ids, first id = second id

/-- Agreement on fewer identifiers. -/
theorem AgreeOn.mono {fewer more : List String} {first second : Context}
    (agree : AgreeOn more first second) (inside : fewer ⊆ more) : AgreeOn fewer first second :=
  fun id mem => agree id (inside mem)

/-- Agreement read from the other side. -/
theorem AgreeOn.symm {ids : List String} {first second : Context}
    (agree : AgreeOn ids first second) : AgreeOn ids second first :=
  fun id mem => (agree id mem).symm

/-- An entry outside the identifiers does not matter. -/
theorem agreeOn_set {ids : List String} {id : String} (unread : id ∉ ids) (context : Context)
    (value : Value) : AgreeOn ids (context.set id value) context := by
  intro other mem
  refine context.set_other value ?_
  rintro rfl
  exact unread mem

mutual

/-- An expression reads only its references. -/
theorem evaluateExpression_agree {first second : Context} :
    ∀ operand : Operand, AgreeOn operand.refs first second →
      evaluateExpression first operand = evaluateExpression second operand
  | .reference ref, agree => by
    have same := agree ref (List.mem_singleton_self ref)
    simp only [evaluateExpression, resolveReference, same]
  | .literal _, _ => by simp only [evaluateExpression]
  | .expression operator operands, agree => by
    have same := evaluateOperands_agree operands agree
    simp only [evaluateExpression, same]

/-- Operands read only their references. -/
theorem evaluateOperands_agree {first second : Context} :
    ∀ operands : List Operand, AgreeOn (operandListRefs operands) first second →
      evaluateOperands first operands = evaluateOperands second operands
  | [], _ => by simp only [evaluateOperands]
  | operand :: rest, agree => by
    have head := evaluateExpression_agree operand
      (agree.mono (List.subset_append_left operand.refs _))
    have tail := evaluateOperands_agree rest (agree.mono (List.subset_append_right operand.refs _))
    simp only [evaluateOperands, head, tail]

end

/-- A compared operand reads only its references. -/
theorem resolveValue_agree {first second : Context} {operand : Operand}
    (agree : AgreeOn operand.refs first second) :
    resolveValue first operand = resolveValue second operand := by
  cases operand with
  | reference ref =>
    have same := agree ref (List.mem_singleton_self ref)
    simp only [resolveValue, resolveReference, same]
  | literal value => rfl
  | expression operator operands => exact evaluateExpression_agree _ agree

mutual

/-- A condition reads only its references. -/
theorem evaluateCondition_agree {first second : Context} :
    ∀ condition : Condition, AgreeOn condition.refs first second →
      evaluateCondition first condition = evaluateCondition second condition
  | .comparison left operator right, agree => by
    have onLeft := resolveValue_agree (agree.mono (List.subset_append_left left.refs right.refs))
    have onRight :=
      resolveValue_agree (agree.mono (List.subset_append_right left.refs right.refs))
    simp only [evaluateCondition, onLeft, onRight]
  | .logical .and conditions, agree => by
    have same := (evaluateConditions_agree conditions agree).1
    simp only [evaluateCondition, same]
  | .logical .or conditions, agree => by
    have same := (evaluateConditions_agree conditions agree).2
    simp only [evaluateCondition, same]

/-- Conjunctions and disjunctions read only their references. -/
theorem evaluateConditions_agree {first second : Context} :
    ∀ conditions : List Condition, AgreeOn (conditionListRefs conditions) first second →
      evaluateAll first conditions = evaluateAll second conditions ∧
      evaluateAny first conditions = evaluateAny second conditions
  | [], _ => ⟨by simp only [evaluateAll], by simp only [evaluateAny]⟩
  | condition :: rest, agree => by
    have head := evaluateCondition_agree condition
      (agree.mono (List.subset_append_left condition.refs _))
    have tail := evaluateConditions_agree rest
      (agree.mono (List.subset_append_right condition.refs _))
    constructor
    · simp only [evaluateAll, head, tail.1]
    · simp only [evaluateAny, head, tail.2]

end

end RateGuard
