import RateGuard.IpirV2.Direct

/-!
# Strict and conditional parts of an expression

Outside conditionals every reference is needed, so an expression with a value has them
all resolved. What its conditionals refer to counts only by their values: where these
and the strict references are kept, the value of the expression is.
-/

open DecimalFloat CalendarDate TopologicalSort

namespace RateGuard

mutual

/-- References outside conditionals. -/
def ExpressionV2.strictRefs : ExpressionV2 → List ExpressionRef
  | .literal _ => []
  | .reference ref => [.node ref]
  | .tableLookup tableId => [.table tableId]
  | .negate operand => operand.strictRefs
  | .binary _ left right => left.strictRefs ++ right.strictRefs
  | .nary _ operands => expressionsStrictRefs operands
  | .round operand _ _ => operand.strictRefs
  | .conditional _ _ _ => []

/-- References of several expressions outside conditionals. -/
def expressionsStrictRefs : List ExpressionV2 → List ExpressionRef
  | [] => []
  | expression :: rest => expression.strictRefs ++ expressionsStrictRefs rest

end

mutual

/-- Conditionals anywhere in an expression, those inside another one before it. -/
def ExpressionV2.conditionals : ExpressionV2 → List ExpressionV2
  | .literal _ | .reference _ | .tableLookup _ => []
  | .negate operand => operand.conditionals
  | .binary _ left right => left.conditionals ++ right.conditionals
  | .nary _ operands => expressionsConditionals operands
  | .round operand _ _ => operand.conditionals
  | .conditional condition whenTrue whenFalse =>
    condition.conditionals ++ whenTrue.conditionals ++ whenFalse.conditionals ++
      [.conditional condition whenTrue whenFalse]

/-- Conditionals anywhere in several expressions. -/
def expressionsConditionals : List ExpressionV2 → List ExpressionV2
  | [] => []
  | expression :: rest => expression.conditionals ++ expressionsConditionals rest

/-- Conditionals anywhere in a condition. -/
def ConditionV2.conditionals : ConditionV2 → List ExpressionV2
  | .comparison left _ right => left.conditionals ++ right.conditionals
  | .logical _ conditions => conditionsConditionals conditions

/-- Conditionals anywhere in several conditions. -/
def conditionsConditionals : List ConditionV2 → List ExpressionV2
  | [] => []
  | condition :: rest => condition.conditionals ++ conditionsConditionals rest

end

mutual

/-- A conditional refers to what its expression refers to. -/
theorem ExpressionV2.conditional_refs : ∀ (expression : ExpressionV2),
    ∀ conditional ∈ expression.conditionals, ∀ ref ∈ conditional.refs, ref ∈ expression.refs
  | .literal _, _, member, _, _ => by simp [ExpressionV2.conditionals] at member
  | .reference _, _, member, _, _ => by simp [ExpressionV2.conditionals] at member
  | .tableLookup _, _, member, _, _ => by simp [ExpressionV2.conditionals] at member
  | .negate operand, conditional, member, ref, referred => by
    rw [ExpressionV2.conditionals] at member
    rw [ExpressionV2.refs]
    exact operand.conditional_refs conditional member ref referred
  | .binary operator left right, conditional, member, ref, referred => by
    rw [ExpressionV2.conditionals] at member
    rw [ExpressionV2.refs]
    rcases List.mem_append.mp member with inLeft | inRight
    · exact List.mem_append_left _ (left.conditional_refs conditional inLeft ref referred)
    · exact List.mem_append_right _ (right.conditional_refs conditional inRight ref referred)
  | .nary operator operands, conditional, member, ref, referred => by
    rw [ExpressionV2.conditionals] at member
    rw [ExpressionV2.refs]
    exact expressions_conditional_refs operands conditional member ref referred
  | .round operand scale mode, conditional, member, ref, referred => by
    rw [ExpressionV2.conditionals] at member
    rw [ExpressionV2.refs]
    exact operand.conditional_refs conditional member ref referred
  | .conditional condition whenTrue whenFalse, conditional, member, ref, referred => by
    rw [ExpressionV2.conditionals] at member
    rcases List.mem_append.mp member with inner | itself
    · rw [ExpressionV2.refs]
      rcases List.mem_append.mp inner with before | inFalse
      · rcases List.mem_append.mp before with inCondition | inTrue
        · have found := condition.conditional_refs conditional inCondition ref referred
          exact List.mem_append_left _ (List.mem_append_left _ found)
        · have found := whenTrue.conditional_refs conditional inTrue ref referred
          exact List.mem_append_left _ (List.mem_append_right _ found)
      · have found := whenFalse.conditional_refs conditional inFalse ref referred
        exact List.mem_append_right _ found
    · obtain rfl := List.mem_singleton.mp itself
      exact referred

/-- A conditional refers to what its expressions refer to. -/
theorem expressions_conditional_refs : ∀ (expressions : List ExpressionV2),
    ∀ conditional ∈ expressionsConditionals expressions, ∀ ref ∈ conditional.refs,
      ref ∈ expressionsRefs expressions
  | [], _, member, _, _ => by simp [expressionsConditionals] at member
  | expression :: rest, conditional, member, ref, referred => by
    rw [expressionsConditionals] at member
    rw [expressionsRefs]
    rcases List.mem_append.mp member with here | later
    · exact List.mem_append_left _ (expression.conditional_refs conditional here ref referred)
    · have found := expressions_conditional_refs rest conditional later ref referred
      exact List.mem_append_right _ found

/-- A conditional refers to what its condition refers to. -/
theorem ConditionV2.conditional_refs : ∀ (condition : ConditionV2),
    ∀ conditional ∈ condition.conditionals, ∀ ref ∈ conditional.refs, ref ∈ condition.refs
  | .comparison left operator right, conditional, member, ref, referred => by
    rw [ConditionV2.conditionals] at member
    rw [ConditionV2.refs]
    rcases List.mem_append.mp member with inLeft | inRight
    · exact List.mem_append_left _ (left.conditional_refs conditional inLeft ref referred)
    · exact List.mem_append_right _ (right.conditional_refs conditional inRight ref referred)
  | .logical operator conditions, conditional, member, ref, referred => by
    rw [ConditionV2.conditionals] at member
    rw [ConditionV2.refs]
    exact conditions_conditional_refs conditions conditional member ref referred

/-- A conditional refers to what its conditions refer to. -/
theorem conditions_conditional_refs : ∀ (conditions : List ConditionV2),
    ∀ conditional ∈ conditionsConditionals conditions, ∀ ref ∈ conditional.refs,
      ref ∈ conditionsRefs conditions
  | [], _, member, _, _ => by simp [conditionsConditionals] at member
  | condition :: rest, conditional, member, ref, referred => by
    rw [conditionsConditionals] at member
    rw [conditionsRefs]
    rcases List.mem_append.mp member with here | later
    · exact List.mem_append_left _ (condition.conditional_refs conditional here ref referred)
    · have found := conditions_conditional_refs rest conditional later ref referred
      exact List.mem_append_right _ found

end

mutual

/-- Strict references are references. -/
theorem ExpressionV2.strictRefs_subset : ∀ (expression : ExpressionV2),
    expression.strictRefs ⊆ expression.refs
  | .literal _ => by simp [ExpressionV2.strictRefs]
  | .reference _ => by simp [ExpressionV2.strictRefs, ExpressionV2.refs]
  | .tableLookup _ => by simp [ExpressionV2.strictRefs, ExpressionV2.refs]
  | .negate operand => by
    rw [ExpressionV2.strictRefs, ExpressionV2.refs]
    exact operand.strictRefs_subset
  | .binary operator left right => by
    rw [ExpressionV2.strictRefs, ExpressionV2.refs]
    exact List.append_subset.mpr
      ⟨fun _ member => List.mem_append_left _ (left.strictRefs_subset member),
        fun _ member => List.mem_append_right _ (right.strictRefs_subset member)⟩
  | .nary operator operands => by
    rw [ExpressionV2.strictRefs, ExpressionV2.refs]
    exact expressions_strictRefs_subset operands
  | .round operand scale mode => by
    rw [ExpressionV2.strictRefs, ExpressionV2.refs]
    exact operand.strictRefs_subset
  | .conditional condition whenTrue whenFalse => by simp [ExpressionV2.strictRefs]

/-- Strict references of several expressions are references of them. -/
theorem expressions_strictRefs_subset : ∀ (expressions : List ExpressionV2),
    expressionsStrictRefs expressions ⊆ expressionsRefs expressions
  | [] => by simp [expressionsStrictRefs]
  | expression :: rest => by
    rw [expressionsStrictRefs, expressionsRefs]
    exact List.append_subset.mpr
      ⟨fun _ member => List.mem_append_left _ (expression.strictRefs_subset member),
        fun _ member => List.mem_append_right _ (expressions_strictRefs_subset rest member)⟩

end

/-- A resolved reference is known. -/
theorem known_of_resolved {context : Context} {ref : String} {value : Value}
    (resolved : resolveReference context ref = .ok value) : context ref = some value := by
  unfold resolveReference at resolved
  cases entry : context ref with
  | none =>
    rw [entry] at resolved
    cases resolved
  | some found =>
    rw [entry] at resolved
    rw [Except.ok.inj resolved]

mutual

/-- An expression with a value has its strict references resolved. -/
theorem strict_resolved {context : Context} :
    ∀ (expression : ExpressionV2) {value : Value}, evaluateDirect context expression = .ok value →
      ∀ ref ∈ expression.strictRefs, ∃ found, context ref.id = some found
  | .literal _, _, _, ref, member => by simp [ExpressionV2.strictRefs] at member
  | .reference name, _, evaluated, ref, member => by
    rw [evaluateDirect] at evaluated
    rw [ExpressionV2.strictRefs] at member
    obtain rfl := List.mem_singleton.mp member
    obtain ⟨found, resolved, _⟩ := Outcome.bind_eq_ok evaluated
    exact ⟨found, known_of_resolved resolved⟩
  | .tableLookup tableId, _, evaluated, ref, member => by
    rw [evaluateDirect] at evaluated
    rw [ExpressionV2.strictRefs] at member
    obtain rfl := List.mem_singleton.mp member
    obtain ⟨found, resolved, _⟩ := Outcome.bind_eq_ok evaluated
    exact ⟨found, known_of_resolved resolved⟩
  | .negate operand, _, evaluated, ref, member => by
    rw [evaluateDirect] at evaluated
    rw [ExpressionV2.strictRefs] at member
    obtain ⟨found, inner, _⟩ := Outcome.bind_eq_ok evaluated
    exact strict_resolved operand inner ref member
  | .binary operator left right, _, evaluated, ref, member => by
    rw [evaluateDirect] at evaluated
    rw [ExpressionV2.strictRefs] at member
    obtain ⟨first, leftValue, evaluated⟩ := Outcome.bind_eq_ok evaluated
    obtain ⟨second, rightValue, _⟩ := Outcome.bind_eq_ok evaluated
    rcases List.mem_append.mp member with inLeft | inRight
    · exact strict_resolved left leftValue ref inLeft
    · exact strict_resolved right rightValue ref inRight
  | .nary operator operands, _, evaluated, ref, member => by
    rw [evaluateDirect] at evaluated
    rw [ExpressionV2.strictRefs] at member
    obtain ⟨values, inner, _⟩ := Outcome.bind_eq_ok evaluated
    exact all_strict_resolved operands inner ref member
  | .round operand scale mode, _, evaluated, ref, member => by
    rw [evaluateDirect] at evaluated
    rw [ExpressionV2.strictRefs] at member
    obtain ⟨found, inner, _⟩ := Outcome.bind_eq_ok evaluated
    exact strict_resolved operand inner ref member
  | .conditional _ _ _, _, _, ref, member => by simp [ExpressionV2.strictRefs] at member

/-- Expressions with values have their strict references resolved. -/
theorem all_strict_resolved {context : Context} :
    ∀ (expressions : List ExpressionV2) {values : List Value},
      evaluateAllDirect context expressions = .ok values →
      ∀ ref ∈ expressionsStrictRefs expressions, ∃ found, context ref.id = some found
  | [], _, _, ref, member => by simp [expressionsStrictRefs] at member
  | expression :: rest, _, evaluated, ref, member => by
    rw [evaluateAllDirect] at evaluated
    rw [expressionsStrictRefs] at member
    obtain ⟨value, first, evaluated⟩ := Outcome.bind_eq_ok evaluated
    obtain ⟨values, others, _⟩ := Outcome.bind_eq_ok evaluated
    rcases List.mem_append.mp member with here | later
    · exact strict_resolved expression first ref here
    · exact all_strict_resolved rest others ref later

end

/-- Whether given conditionals keep their values in another context. -/
def Keeps (context other : Context) (conditionals : List ExpressionV2) : Prop :=
  ∀ conditional ∈ conditionals, ∀ value, evaluateDirect context conditional = .ok value →
    evaluateDirect other conditional = .ok value

mutual

/-- An expression keeps its value where its strict references are carried and its conditionals
keep theirs. -/
theorem evaluateDirect_kept {context other : Context} :
    ∀ (expression : ExpressionV2) {value : Value}, Carries context other expression.strictRefs →
      Keeps context other expression.conditionals →
      evaluateDirect context expression = .ok value → evaluateDirect other expression = .ok value
  | .literal literal, _, _, _, evaluated => by
    rw [evaluateDirect] at evaluated ⊢
    exact evaluated
  | .reference ref, value, carries, _, evaluated =>
    evaluateDirect_carried (.reference ref) carries evaluated
  | .tableLookup tableId, value, carries, _, evaluated =>
    evaluateDirect_carried (.tableLookup tableId) carries evaluated
  | .negate operand, value, carries, keeps, evaluated => by
    rw [evaluateDirect] at evaluated ⊢
    obtain ⟨found, inner, applied⟩ := Outcome.bind_eq_ok evaluated
    rw [evaluateDirect_kept operand carries keeps inner]
    exact applied
  | .binary operator left right, value, carries, keeps, evaluated => by
    rw [evaluateDirect] at evaluated ⊢
    rw [ExpressionV2.strictRefs] at carries
    rw [ExpressionV2.conditionals] at keeps
    obtain ⟨first, leftValue, evaluated⟩ := Outcome.bind_eq_ok evaluated
    obtain ⟨second, rightValue, applied⟩ := Outcome.bind_eq_ok evaluated
    rw [evaluateDirect_kept left (carries.part fun _ => List.mem_append_left _)
        (fun q member => keeps q (List.mem_append_left _ member)) leftValue,
      evaluateDirect_kept right (carries.part fun _ => List.mem_append_right _)
        (fun q member => keeps q (List.mem_append_right _ member)) rightValue]
    exact applied
  | .nary operator operands, value, carries, keeps, evaluated => by
    rw [evaluateDirect] at evaluated ⊢
    obtain ⟨values, inner, applied⟩ := Outcome.bind_eq_ok evaluated
    rw [evaluateAllDirect_kept operands carries keeps inner]
    exact applied
  | .round operand scale mode, value, carries, keeps, evaluated => by
    rw [evaluateDirect] at evaluated ⊢
    obtain ⟨found, inner, rounded⟩ := Outcome.bind_eq_ok evaluated
    rw [evaluateDirect_kept operand carries keeps inner]
    exact rounded
  | .conditional condition whenTrue whenFalse, value, _, keeps, evaluated =>
    keeps _ (by simp [ExpressionV2.conditionals]) value evaluated

/-- Several expressions keep their values where their strict references are carried and their
conditionals keep theirs. -/
theorem evaluateAllDirect_kept {context other : Context} :
    ∀ (expressions : List ExpressionV2) {values : List Value},
      Carries context other (expressionsStrictRefs expressions) →
      Keeps context other (expressionsConditionals expressions) →
      evaluateAllDirect context expressions = .ok values →
      evaluateAllDirect other expressions = .ok values
  | [], _, _, _, evaluated => by
    rw [evaluateAllDirect] at evaluated ⊢
    exact evaluated
  | expression :: rest, _, carries, keeps, evaluated => by
    rw [evaluateAllDirect] at evaluated ⊢
    rw [expressionsStrictRefs] at carries
    rw [expressionsConditionals] at keeps
    obtain ⟨value, first, evaluated⟩ := Outcome.bind_eq_ok evaluated
    obtain ⟨values, others, evaluated⟩ := Outcome.bind_eq_ok evaluated
    rw [evaluateDirect_kept expression (carries.part fun _ => List.mem_append_left _)
        (fun q member => keeps q (List.mem_append_left _ member)) first,
      evaluateAllDirect_kept rest (carries.part fun _ => List.mem_append_right _)
        (fun q member => keeps q (List.mem_append_right _ member)) others]
    exact evaluated

end

end RateGuard
