import RateGuard.Foundation.Commutation
import RateGuard.Oracle.Evaluator
import RateGuard.Oracle.References
import RateGuard.Oracle.Scheduling

/-!
# Footprints of evaluation steps

What tables, rules and calculations read from the context and what they write to it. Steps whose
footprints are disjoint commute.
-/

open DecimalFloat CalendarDate TopologicalSort Outcome

namespace RateGuard

/-- Entries agreeing before agree after. -/
def Carried (state other after next : Evaluation) : Prop :=
  ∀ id, state.context id = other.context id → after.context id = next.context id

/-- States of one context carry everything. -/
theorem Carried.refl (state other : Evaluation) : Carried state other state other :=
  fun _ same => same

/-- Assigning one value on both sides carries entries. -/
theorem Carried.set {state other after next : Evaluation} (carried : Carried state other after next)
    (id : String) (value : Value) :
    Carried state other (after.set id value) (next.set id value) := by
  intro entry same
  change (after.context.set id value) entry = (next.context.set id value) entry
  unfold Context.set
  by_cases assigned : entry = id
  · rw [if_pos assigned, if_pos assigned]
  · rw [if_neg assigned, if_neg assigned]
    exact carried entry same

/-- Recording one result on both sides carries entries. -/
theorem Carried.addStep {state other after next : Evaluation}
    (carried : Carried state other after next) (step : TraceStep) :
    Agree (Carried state other) (after.addStep step) (next.addStep step) := by
  unfold Evaluation.addStep
  exact Agree.ite Iff.rfl (.success carried) (.failure _ _)

/-- What agrees on entries before agrees on them after. -/
theorem Carried.agreeOn {state other after next : Evaluation} {ids : List String}
    (carried : Carried state other after next)
    (agree : AgreeOn ids state.context other.context) : AgreeOn ids after.context next.context :=
  fun id member => carried id (agree id member)

/-- Assigning one entry keeps the others. -/
theorem set_frame (state : Evaluation) {id entry : String} (value : Value) (other : entry ≠ id) :
    (state.set id value).context entry = state.context entry :=
  state.context.set_other value other

/-- Rows match alike where the lookups agree on the dimensions. -/
theorem rowMatches_agree {first second : Context} {dimensions : List TableDimension}
    (agree : AgreeOn (dimensions.map (·.inputRef)) first second) (keys : List RowMatch) :
    rowMatches first dimensions keys = rowMatches second dimensions keys := by
  induction dimensions generalizing keys with
  | nil => rfl
  | cons dimension rest ih =>
    cases keys with
    | nil => rfl
    | cons key keys =>
      have head := agree dimension.inputRef List.mem_cons_self
      have tail := ih (agree.mono (List.subset_cons_self _ _)) keys
      simp only [rowMatches, head, tail]

/-- A table reads only the entries of its dimensions. -/
theorem lookupTable_agree {table : RateTable} {first second : Context}
    (agree : AgreeOn (table.dimensions.map (·.inputRef)) first second) :
    lookupTable table first = lookupTable table second := by
  have rows : ∀ rows : List TableRow, matchingRows first table.dimensions rows =
      matchingRows second table.dimensions rows := by
    intro rows
    induction rows with
    | nil => rfl
    | cons row rest ih => simp only [matchingRows, rowMatches_agree agree, ih]
  have values : dimensionValues table first = dimensionValues table second := by
    unfold dimensionValues
    refine List.map_congr_left fun dimension member => ?_
    rw [agree dimension.inputRef (List.mem_map_of_mem member)]
  simp only [lookupTable, rows, values]

/-- A table reads its dimensions and writes its own entry. -/
theorem resolveTable_footprint (date : Date) (table : RateTable) :
    Footprint Evaluation.context (table.dimensions.map (·.inputRef)) [table.id]
      (fun state => resolveTable date state table) where
  frame := by
    intro state after resolved entry unwritten
    unfold resolveTable at resolved
    by_cases active : isActive table.effectivePeriod date = true
    · rw [if_pos active] at resolved
      obtain ⟨factor, _, recorded⟩ := bind_eq_ok resolved
      rw [(addStep_eq_ok recorded).1]
      exact set_frame state _ (List.ne_of_not_mem_cons unwritten)
    · rw [if_neg active] at resolved
      exact congrFun (congrArg Evaluation.context (Except.ok.inj resolved).symm) entry
  reading := by
    intro state other agree
    have looked : lookupTable table state.context = lookupTable table other.context :=
      lookupTable_agree agree
    unfold resolveTable
    refine Agree.ite Iff.rfl ?_ (.success (Carried.refl state other))
    rw [looked]
    exact Agree.bind_same _ fun factor => ((Carried.refl state other).set _ _).addStep _

/-- References of a rule. -/
def PricingRule.refs (rule : PricingRule) : List String :=
  rule.condition.refs ++ (rule.whenTrue.refs ++ rule.whenFalse.refs)

/-- A rule reads its references and writes its own entry. -/
theorem resolveRule_footprint (date : Date) (rule : PricingRule) :
    Footprint Evaluation.context rule.refs [rule.id]
      (fun state => resolveRule date state rule) where
  frame := by
    intro state after resolved entry unwritten
    unfold resolveRule at resolved
    by_cases active : isActive rule.effectivePeriod date = true
    · rw [if_pos active] at resolved
      obtain ⟨holds, _, resolved⟩ := bind_eq_ok resolved
      obtain ⟨value, _, recorded⟩ := bind_eq_ok resolved
      rw [(addStep_eq_ok recorded).1]
      exact set_frame state _ (List.ne_of_not_mem_cons unwritten)
    · rw [if_neg active] at resolved
      exact congrFun (congrArg Evaluation.context (Except.ok.inj resolved).symm) entry
  reading := by
    intro state other agree
    have agree : AgreeOn rule.refs state.context other.context := agree
    have condition := evaluateCondition_agree rule.condition
      (agree.mono (List.subset_append_left _ _))
    have branches : ∀ holds : Bool,
        evaluateExpression state.context (if holds then rule.whenTrue else rule.whenFalse) =
          evaluateExpression other.context (if holds then rule.whenTrue else rule.whenFalse) := by
      intro holds
      have inside := agree.mono (List.subset_append_right rule.condition.refs _)
      cases holds with
      | true => exact evaluateExpression_agree _ (inside.mono (List.subset_append_left _ _))
      | false => exact evaluateExpression_agree _ (inside.mono (List.subset_append_right _ _))
    unfold resolveRule
    refine Agree.ite Iff.rfl ?_ (.success (Carried.refl state other))
    rw [condition]
    refine Agree.bind_same _ fun holds => ?_
    rw [branches holds]
    exact Agree.bind_same _ fun value => ((Carried.refl state other).set _ _).addStep _

/-- References of a modifier: of its value and of its eligibility. -/
def PricingModifier.refs (modifier : PricingModifier) : List String :=
  (match modifier.value with
  | .amount _ => []
  | .reference ref => [ref]) ++ modifier.eligibility.elim [] Condition.refs

/-- A modifier's value and eligibility read its references. -/
theorem modifier_agree {modifier : PricingModifier} {first second : Context}
    (agree : AgreeOn modifier.refs first second) :
    resolveModifierValue first modifier.value = resolveModifierValue second modifier.value ∧
      isEligible first modifier = isEligible second modifier := by
  unfold PricingModifier.refs at agree
  constructor
  · cases source : modifier.value with
    | amount value => rfl
    | reference ref =>
      rw [source] at agree
      have same := agree ref List.mem_cons_self
      simp only [resolveModifierValue, resolveReference, same]
  · unfold isEligible
    cases eligibility : modifier.eligibility with
    | none => rfl
    | some condition =>
      rw [eligibility] at agree
      exact evaluateCondition_agree condition (agree.mono (List.subset_append_right _ _))

/-- Runs one calculation with nothing applied before it. -/
def runAlone (rules : List RoundingRule) (active : ActiveNodes) (date : Date) (state : Evaluation)
    (node : CalculationNode) : Except Failure Evaluation :=
  (fun running => running.state) <$> runCalculation rules active date ⟨state, [], [], []⟩ node

/-- Entries a calculation writes: its own and those of the modifiers it declares. -/
def calculationWrites (active : ActiveNodes) (node : CalculationNode) : List String :=
  node.id :: (declared (·.id) node [] active.modifiers).map (·.id)

/-- A modifier writes no entry but its own. -/
theorem applyModifier_frame {progress after : Evaluation × Decimal} {modifier : PricingModifier}
    (applied : applyModifier progress modifier = .ok after) {entry : String}
    (other : entry ≠ modifier.id) : after.1.context entry = progress.1.context entry := by
  obtain ⟨eligible, _, rest⟩ := bind_eq_ok applied
  cases eligible with
  | true =>
    rw [if_pos rfl] at rest
    obtain ⟨value, _, rest⟩ := bind_eq_ok rest
    obtain ⟨rate, _, rest⟩ := bind_eq_ok rest
    obtain ⟨adjusted, _, rest⟩ := bind_eq_ok rest
    obtain ⟨recorded, records, rest⟩ := bind_eq_ok rest
    cases rest
    rw [(addStep_eq_ok records).1]
    exact set_frame progress.1 _ other
  | false =>
    rw [if_neg Bool.false_ne_true] at rest
    obtain ⟨recorded, records, rest⟩ := bind_eq_ok rest
    cases rest
    rw [(addStep_eq_ok records).1]

/-- A constraint writes no entry. -/
theorem applyConstraint_frame {progress after : Evaluation × Decimal}
    {constraint : PremiumConstraint} (applied : applyConstraint progress constraint = .ok after) :
    after.1.context = progress.1.context := by
  obtain ⟨next, _, rest⟩ := bind_eq_ok applied
  obtain ⟨recorded, records, rest⟩ := bind_eq_ok rest
  cases rest
  rw [(addStep_eq_ok records).1]

/-- A fee writes no entry. -/
theorem applyFee_frame {expression : Operand} {progress after : Evaluation × Decimal}
    {fee : PricingFee} (applied : applyFee expression progress fee = .ok after) :
    after.1.context = progress.1.context := by
  obtain ⟨state, current⟩ := progress
  dsimp only [applyFee] at applied
  by_cases referred : (operandRefs expression).contains fee.id = true
  · rw [if_pos referred] at applied
    cases applied
    rfl
  · rw [if_neg referred] at applied
    obtain ⟨next, _, rest⟩ := bind_eq_ok applied
    obtain ⟨recorded, records, rest⟩ := bind_eq_ok rest
    cases rest
    rw [(addStep_eq_ok records).1]

/-- Progress of two runs of a calculation from two states: one value, and entries carried. -/
def Alike (state other : Evaluation) (left right : Evaluation × Decimal) : Prop :=
  left.2 = right.2 ∧ Carried state other left.1 right.1

/-- Modifiers whose references agree keep two runs alike. -/
theorem applyModifier_alike {state other : Evaluation} {left right : Evaluation × Decimal}
    {modifier : PricingModifier} (agree : AgreeOn modifier.refs state.context other.context)
    (alike : Alike state other left right) :
    Agree (Alike state other) (applyModifier left modifier) (applyModifier right modifier) := by
  obtain ⟨first, current⟩ := left
  obtain ⟨second, current'⟩ := right
  obtain ⟨same, carried⟩ := alike
  have same : current = current' := same
  subst same
  obtain ⟨value, eligible⟩ := modifier_agree (carried.agreeOn agree)
  unfold applyModifier
  dsimp only
  rw [eligible, value]
  refine Agree.bind_same _ fun decided => ?_
  cases decided with
  | true =>
    simp only [if_true]
    refine Agree.bind_same _ fun found => Agree.bind_same _ fun rate =>
      Agree.bind_same _ fun adjusted => ?_
    exact ((carried.set _ _).addStep _).bind fun _ _ kept => .success ⟨rfl, kept⟩
  | false =>
    simp only [Bool.false_eq_true, if_false]
    exact (carried.addStep _).bind fun _ _ kept => .success ⟨rfl, kept⟩

/-- Constraints keep two runs alike. -/
theorem applyConstraint_alike {state other : Evaluation} {left right : Evaluation × Decimal}
    (constraint : PremiumConstraint) (alike : Alike state other left right) :
    Agree (Alike state other) (applyConstraint left constraint)
      (applyConstraint right constraint) := by
  obtain ⟨first, current⟩ := left
  obtain ⟨second, current'⟩ := right
  obtain ⟨same, carried⟩ := alike
  have same : current = current' := same
  subst same
  unfold applyConstraint
  exact Agree.bind_same _ fun next =>
    (carried.addStep _).bind fun _ _ kept => .success ⟨rfl, kept⟩

/-- Fees keep two runs alike. -/
theorem applyFee_alike {state other : Evaluation} {left right : Evaluation × Decimal}
    (expression : Operand) (fee : PricingFee) (alike : Alike state other left right) :
    Agree (Alike state other) (applyFee expression left fee)
      (applyFee expression right fee) := by
  obtain ⟨first, current⟩ := left
  obtain ⟨second, current'⟩ := right
  obtain ⟨same, carried⟩ := alike
  have same : current = current' := same
  subst same
  unfold applyFee
  refine Agree.ite Iff.rfl (.success ⟨rfl, carried⟩) (Agree.bind_same _ fun next => ?_)
  exact (carried.addStep _).bind fun _ _ kept => .success ⟨rfl, kept⟩

/-- A calculation writes its own entry and those of the modifiers it declares. -/
theorem runCalculation_frame {rules : List RoundingRule} {active : ActiveNodes} {date : Date}
    {running after : Running} {node : CalculationNode}
    (ran : runCalculation rules active date running node = .ok after) {entry : String}
    (own : entry ≠ node.id)
    (others : entry ∉ (declared (·.id) node running.modifiers active.modifiers).map (·.id)) :
    after.state.context entry = running.state.context entry := by
  cases applies : isActive node.effectivePeriod date with
  | false =>
    rw [runCalculation_inactive applies] at ran
    cases ran
    rfl
  | true =>
    obtain ⟨phases⟩ := runCalculation_active applies ran
    have modified : phases.modified.1.context entry = running.state.context entry := by
      refine foldlM_keeps
        (fun progress => progress.1.context entry = running.state.context entry)
        (fun progress modifier after member kept applied => ?_) rfl phases.modifies
      rw [← kept]
      refine applyModifier_frame applied fun same => others ?_
      exact List.mem_map.mpr ⟨modifier, member, same.symm⟩
    have constrained : phases.constrained.1.context = phases.modified.1.context :=
      foldlM_keeps (fun progress => progress.1.context = phases.modified.1.context)
        (fun progress constraint after _ kept applied =>
          (applyConstraint_frame applied).trans kept) rfl phases.constrains
    have charged : phases.charged.1.context = phases.constrained.1.context :=
      foldlM_keeps (fun progress => progress.1.context = phases.constrained.1.context)
        (fun progress fee after _ kept applied => (applyFee_frame applied).trans kept) rfl
        phases.charges
    rw [phases.applied, (addStep_eq_ok phases.records).1]
    refine (set_frame phases.charged.1 _ own).trans ?_
    rw [charged, constrained, modified]

/-- A calculation reads the references of its expression and of its modifiers, and writes its
own entry and those of its modifiers. -/
theorem runAlone_footprint (rules : List RoundingRule) (active : ActiveNodes) (date : Date)
    (node : CalculationNode) {reads : List String} (expression : node.expression.refs ⊆ reads)
    (modifiers : ∀ modifier ∈ active.modifiers, modifier.refs ⊆ reads) :
    Footprint Evaluation.context reads (calculationWrites active node)
      (fun state => runAlone rules active date state node) where
  frame := by
    intro state after ran entry unwritten
    obtain ⟨running, runs, rfl⟩ := map_eq_ok ran
    exact runCalculation_frame runs (List.ne_of_not_mem_cons unwritten)
      (List.not_mem_of_not_mem_cons unwritten)
  reading := by
    intro state other agree
    have agree : AgreeOn reads state.context other.context := agree
    have base : baseValue rules state.context node = baseValue rules other.context node := by
      unfold baseValue
      rw [evaluateExpression_agree _ (agree.mono expression)]
    unfold runAlone runCalculation
    refine Agree.map
      (show Agree (fun after next => Carried state other after.state next.state) _ _ from
        Agree.ite Iff.rfl ?_ (.success (Carried.refl state other))) fun _ _ carried => carried
    dsimp only
    rw [base]
    refine Agree.bind_same _ fun value => ?_
    have start : Alike state other (state, value) (other, value) :=
      ⟨rfl, Carried.refl state other⟩
    refine (Agree.foldlM_same (fun left right modifier member alike => ?_) start).bind
      fun modified modified' alike => ?_
    · have inside := List.mem_of_mem_filter member
      exact applyModifier_alike (agree.mono (modifiers modifier inside)) alike
    refine (Agree.foldlM_same (fun left right constraint _ alike =>
      applyConstraint_alike constraint alike) alike).bind fun constrained constrained' alike => ?_
    refine (Agree.foldlM_same (fun left right fee _ alike => applyFee_alike node.expression fee alike) alike).bind
      fun charged charged' alike => ?_
    obtain ⟨final, result⟩ := charged
    obtain ⟨final', result'⟩ := charged'
    obtain ⟨same, carried⟩ := alike
    have same : result = result' := same
    subst same
    exact ((carried.set _ _).addStep _).bind fun _ _ kept => .success kept

end RateGuard
