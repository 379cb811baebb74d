import RateGuard.Ipir.References
import RateGuard.Foundation.Outcome
import RateGuard.Oracle.Scheduling

/-!
# Charges of a calculation

A fee or a modifier reaches the value of a calculation through a reference of its expression,
which reads the amount or factor preset in the context, and through the phase after it. Counting
the recorded steps of a run shows when a charge is counted once.
-/

open DecimalFloat CalendarDate TopologicalSort Outcome

namespace RateGuard

/-- Whether a step adds a fee. -/
def addsFee (id : String) (step : TraceStep) : Bool :=
  step.nodeId == id && step.operation == .addFee

/-- Whether an operation applies a modifier. -/
def TraceOperation.applies : TraceOperation → Bool
  | .applyModifier _ => true
  | _ => false

/-- Whether a step applies a modifier. -/
def appliesModifier (id : String) (step : TraceStep) : Bool :=
  step.nodeId == id && step.operation.applies

/-- Whether a step skips an ineligible modifier. -/
def skipsModifier (id : String) (step : TraceStep) : Bool :=
  step.nodeId == id && step.operation == .skippedIneligible

/-- Whether a step applies or skips a modifier. -/
def reachesModifier (id : String) (step : TraceStep) : Bool :=
  appliesModifier id step || skipsModifier id step

/-- How often a charge counts in a calculation: once if the expression mentions it at any depth,
and once for each step of the phase that charges it. -/
def contributions (node : CalculationNode) (id : String) (charges : TraceStep → Bool)
    (trace : List TraceStep) : Nat :=
  (if id ∈ node.expression.refs then 1 else 0) + trace.countP charges

/-- What an expression's own operands refer to it mentions. -/
theorem operandRefs_refs (expression : Operand) : operandRefs expression ⊆ expression.refs := by
  cases expression with
  | reference ref => exact List.nil_subset _
  | literal value => exact List.nil_subset _
  | expression operator operands =>
    intro ref found
    obtain ⟨operand, member, referred⟩ := List.mem_filterMap.mp found
    cases operand with
    | reference other =>
      cases referred
      exact operandListRefs_mem member (List.mem_singleton_self ref)
    | literal value => cases referred
    | expression inner parts => cases referred

/-- Whether an active calculation is the only active one to list a charge. -/
structure ListedOnce (package : PackageContent) (date : Date) (id : String)
    (node : CalculationNode) : Prop where
  /-- The calculation is one of the package. -/
  member : node ∈ package.calculations
  /-- It is active. -/
  active : isActive node.effectivePeriod date = true
  /-- It lists the charge. -/
  lists : id ∈ node.dependsOn
  /-- No other active calculation does. -/
  only : ∀ other ∈ package.calculations, isActive other.effectivePeriod date = true →
    id ∈ other.dependsOn → other = node

/-- A modifier that is reached appends one step of its own. -/
theorem applyModifier_appends {progress after : Evaluation × Decimal} {modifier : PricingModifier}
    (applied : applyModifier progress modifier = .ok after) :
    ∃ step : TraceStep, after.1.trace = progress.1.trace ++ [step] ∧
      step.nodeId = modifier.id ∧
      (step.operation = .applyModifier modifier.modifierType ∨
        step.operation = .skippedIneligible) := by
  obtain ⟨eligible, _, rest⟩ := bind_eq_ok applied
  cases eligible with
  | true =>
    rw [if_pos rfl] at rest
    obtain ⟨value, _, rest⟩ := bind_eq_ok rest
    obtain ⟨rate, _, rest⟩ := bind_eq_ok rest
    obtain ⟨adjusted, _, rest⟩ := bind_eq_ok rest
    obtain ⟨recorded, records, rest⟩ := bind_eq_ok rest
    cases rest
    rw [addStep_after records]
    exact ⟨_, rfl, rfl, .inl rfl⟩
  | false =>
    rw [if_neg Bool.false_ne_true] at rest
    obtain ⟨recorded, records, rest⟩ := bind_eq_ok rest
    cases rest
    rw [addStep_after records]
    exact ⟨_, rfl, rfl, .inr rfl⟩

/-- An enforced constraint appends one step of its own. -/
theorem applyConstraint_appends {progress after : Evaluation × Decimal}
    {constraint : PremiumConstraint} (applied : applyConstraint progress constraint = .ok after) :
    ∃ step : TraceStep, after.1.trace = progress.1.trace ++ [step] ∧
      step.operation = .enforceConstraint constraint.constraintType := by
  obtain ⟨next, _, rest⟩ := bind_eq_ok applied
  obtain ⟨recorded, records, rest⟩ := bind_eq_ok rest
  cases rest
  rw [addStep_after records]
  exact ⟨_, rfl, rfl⟩

/-- A fee that the expression's own operands refer to appends nothing. -/
theorem applyFee_referred {expression : Operand} {progress after : Evaluation × Decimal}
    {fee : PricingFee} (referred : fee.id ∈ operandRefs expression)
    (applied : applyFee expression progress fee = .ok after) : after = progress := by
  obtain ⟨state, current⟩ := progress
  dsimp only [applyFee] at applied
  rw [if_pos (List.contains_iff_mem.mpr referred)] at applied
  exact (Except.ok.inj applied).symm

/-- A fee that they do not refer to appends one step of its own. -/
theorem applyFee_appends {expression : Operand} {progress after : Evaluation × Decimal}
    {fee : PricingFee} (unreferred : fee.id ∉ operandRefs expression)
    (applied : applyFee expression progress fee = .ok after) :
    ∃ step : TraceStep, after.1.trace = progress.1.trace ++ [step] ∧ step.nodeId = fee.id ∧
      step.operation = .addFee := by
  obtain ⟨state, current⟩ := progress
  dsimp only [applyFee] at applied
  rw [if_neg fun listed => unreferred (List.contains_iff_mem.mp listed)] at applied
  obtain ⟨next, _, rest⟩ := bind_eq_ok applied
  obtain ⟨recorded, records, rest⟩ := bind_eq_ok rest
  cases rest
  rw [addStep_after records]
  exact ⟨_, rfl, rfl, rfl⟩

/-- Appending a step counts it. -/
theorem countP_snoc (charges : TraceStep → Bool) (trace : List TraceStep) (step : TraceStep) :
    (trace ++ [step]).countP charges = trace.countP charges + if charges step then 1 else 0 := by
  rw [List.countP_append, List.countP_singleton]

/-- Fees added in a phase: those with the identifier that the operands do not refer to. -/
theorem fees_counted (id : String) {expression : Operand} {fees : List PricingFee}
    {progress after : Evaluation × Decimal}
    (charged : fees.foldlM (applyFee expression) progress = .ok after) :
    after.1.trace.countP (addsFee id) = progress.1.trace.countP (addsFee id) +
      fees.countP fun fee => fee.id == id && !(operandRefs expression).contains fee.id := by
  refine foldlM_measure (fun progress => progress.1.trace.countP (addsFee id)) _ ?_ charged
  intro progress fee after _ applied
  by_cases referred : fee.id ∈ operandRefs expression
  · have contains : (operandRefs expression).contains fee.id = true :=
      List.contains_iff_mem.mpr referred
    rw [applyFee_referred referred applied, contains, Bool.not_true, Bool.and_false]
    rfl
  · have contains : (operandRefs expression).contains fee.id = false :=
      Bool.eq_false_iff.mpr fun listed => referred (List.contains_iff_mem.mp listed)
    obtain ⟨step, trace, node, operation⟩ := applyFee_appends referred applied
    rw [trace, countP_snoc, addsFee, node, operation, contains]
    rfl

/-- Modifiers reached in a phase: those with the identifier. -/
theorem modifiers_counted (id : String) {modifiers : List PricingModifier}
    {progress after : Evaluation × Decimal}
    (modified : modifiers.foldlM applyModifier progress = .ok after) :
    after.1.trace.countP (reachesModifier id) = progress.1.trace.countP (reachesModifier id) +
      modifiers.countP fun modifier => modifier.id == id := by
  refine foldlM_measure (fun progress => progress.1.trace.countP (reachesModifier id)) _ ?_ modified
  intro progress modifier after _ applied
  obtain ⟨step, trace, node, operation⟩ := applyModifier_appends applied
  rw [trace, countP_snoc, reachesModifier, appliesModifier, skipsModifier, node]
  cases operation with
  | inl applies => simp [applies, TraceOperation.applies]
  | inr skips => simp [skips, TraceOperation.applies]

/-- Modifiers add no fees. -/
theorem modifiers_uncharged (id : String) {modifiers : List PricingModifier}
    {progress after : Evaluation × Decimal}
    (modified : modifiers.foldlM applyModifier progress = .ok after) :
    after.1.trace.countP (addsFee id) = progress.1.trace.countP (addsFee id) := by
  refine foldlM_keeps (fun reached => reached.1.trace.countP (addsFee id) =
    progress.1.trace.countP (addsFee id)) ?_ rfl modified
  intro reached modifier after _ kept applied
  obtain ⟨step, trace, node, operation⟩ := applyModifier_appends applied
  rw [trace, countP_snoc, kept, addsFee]
  cases operation with
  | inl applies => simp [applies]
  | inr skips => simp [skips]

/-- Constraints neither add fees nor reach modifiers. -/
theorem constraints_uncharged (id : String) {constraints : List PremiumConstraint}
    {progress after : Evaluation × Decimal}
    (constrained : constraints.foldlM applyConstraint progress = .ok after) :
    after.1.trace.countP (addsFee id) = progress.1.trace.countP (addsFee id) ∧
    after.1.trace.countP (reachesModifier id) =
      progress.1.trace.countP (reachesModifier id) := by
  refine foldlM_keeps (fun reached =>
    reached.1.trace.countP (addsFee id) = progress.1.trace.countP (addsFee id) ∧
    reached.1.trace.countP (reachesModifier id) = progress.1.trace.countP (reachesModifier id))
    ?_ ⟨rfl, rfl⟩ constrained
  intro reached constraint after _ kept applied
  obtain ⟨step, trace, operation⟩ := applyConstraint_appends applied
  rw [trace, countP_snoc, countP_snoc, kept.1, kept.2]
  simp [addsFee, reachesModifier, appliesModifier, skipsModifier, operation,
    TraceOperation.applies]

/-- Fees reach no modifiers. -/
theorem fees_unmodified (id : String) {expression : Operand} {fees : List PricingFee}
    {progress after : Evaluation × Decimal}
    (charged : fees.foldlM (applyFee expression) progress = .ok after) :
    after.1.trace.countP (reachesModifier id) =
      progress.1.trace.countP (reachesModifier id) := by
  refine foldlM_keeps (fun reached => reached.1.trace.countP (reachesModifier id) =
    progress.1.trace.countP (reachesModifier id)) ?_ rfl charged
  intro reached fee after _ kept applied
  by_cases referred : fee.id ∈ operandRefs expression
  · rw [applyFee_referred referred applied, kept]
  · obtain ⟨step, trace, node, operation⟩ := applyFee_appends referred applied
    rw [trace, countP_snoc, kept]
    simp [reachesModifier, appliesModifier, skipsModifier, operation, TraceOperation.applies]

/-- Recording the value of a calculation charges nothing. -/
theorem recorded_uncharged (id : String) {state recorded : Evaluation} {node : String}
    {value : Decimal}
    (records : (state.set node (.decimal value)).addStep
      ⟨node, .calculation, .evaluateCalculation, .decimal value⟩ = .ok recorded) :
    recorded.trace.countP (addsFee id) = state.trace.countP (addsFee id) ∧
    recorded.trace.countP (reachesModifier id) = state.trace.countP (reachesModifier id) := by
  rw [addStep_after records]
  refine ⟨(countP_snoc _ _ _).trans ?_, (countP_snoc _ _ _).trans ?_⟩
  · simp [addsFee, Evaluation.set]
  · simp [reachesModifier, appliesModifier, skipsModifier, TraceOperation.applies, Evaluation.set]

/-- A calculation adds the fees it declares and its operands do not refer to. -/
theorem ran_fees (id : String) {rules : List RoundingRule} {active : ActiveNodes}
    {running after : Running} {node : CalculationNode} (ran : Ran rules active running after node) :
    after.state.trace.countP (addsFee id) = running.state.trace.countP (addsFee id) +
      (declared (·.id) node running.fees active.fees).countP fun fee =>
        fee.id == id && !(operandRefs node.expression).contains fee.id := by
  rw [ran.applied, (recorded_uncharged id ran.records).1, fees_counted id ran.charges,
    (constraints_uncharged id ran.constrains).1, modifiers_uncharged id ran.modifies]

/-- A calculation reaches the modifiers it declares. -/
theorem ran_modifiers (id : String) {rules : List RoundingRule} {active : ActiveNodes}
    {running after : Running} {node : CalculationNode} (ran : Ran rules active running after node) :
    after.state.trace.countP (reachesModifier id) =
      running.state.trace.countP (reachesModifier id) +
      (declared (·.id) node running.modifiers active.modifiers).countP fun modifier =>
        modifier.id == id := by
  rw [ran.applied, (recorded_uncharged id ran.records).2, fees_unmodified id ran.charges,
    (constraints_uncharged id ran.constrains).2, modifiers_counted id ran.modifies]

/-- A charge that is declared for the first time is declared once. -/
theorem declared_once {α : Type} {id : α → String} {node : CalculationNode}
    {applied : List String} {active : List α} (distinct : (active.map id).Nodup) {charge : α}
    (listed : charge ∈ active) (lists : id charge ∈ node.dependsOn) (fresh : id charge ∉ applied) :
    (declared id node applied active).countP (fun other => id other == id charge) = 1 := by
  unfold declared
  rw [List.countP_filter]
  have same : active.countP (fun other => (id other == id charge) &&
      (node.dependsOn.contains (id other) && !applied.contains (id other))) =
      active.countP (fun other => id other == id charge) := by
    refine List.countP_congr fun other _ => ?_
    by_cases equal : id other = id charge
    · simp [equal, lists, fresh]
    · simp [equal]
  rw [same]
  have counted := List.count_eq_one_of_mem distinct (List.mem_map_of_mem listed)
  rw [List.count, List.countP_map] at counted
  exact counted

/-- A charge that is not listed is not declared. -/
theorem declared_unlisted {α : Type} {id : α → String} {node : CalculationNode}
    {applied : List String} {active : List α} {charge : String}
    (unlisted : charge ∉ node.dependsOn) :
    charge ∉ (declared id node applied active).map id := by
  intro found
  obtain ⟨other, member, rfl⟩ := List.mem_map.mp found
  have lists := (List.mem_filter.mp member).2
  rw [Bool.and_eq_true, List.contains_iff_mem] at lists
  exact unlisted lists.1

/-- No count finds an identifier that is not among the declared ones. -/
theorem declared_unlisted_count {α : Type} (id : α → String) {node : CalculationNode}
    {charge : String} (unlisted : charge ∉ node.dependsOn) (applied : List String)
    (active : List α) (counts : α → Bool) (keyed : ∀ other, counts other = true → id other = charge) :
    (declared id node applied active).countP counts = 0 := by
  refine List.countP_eq_zero.mpr fun other member counted => ?_
  exact declared_unlisted unlisted (List.mem_map.mpr ⟨other, member, keyed other counted⟩)

/-- Active nodes in sequence have distinct identifiers. -/
theorem activeInSequence_distinct {α : Type} {id : α → String}
    (period : α → Option EffectivePeriod) (sequence : α → Option Int) (date : Date)
    {nodes : List α} (distinct : (nodes.map id).Nodup) :
    ((activeInSequence period sequence date nodes).map id).Nodup := by
  have same : (activeInSequence period sequence date nodes).Perm
      (nodes.filter fun node => isActive (period node) date) := List.perm_insertionSort _ _
  refine ((same.map id).nodup_iff).mpr ?_
  exact (List.filter_sublist.map id).nodup distinct

/-- An active node is among the active nodes in sequence. -/
theorem mem_activeInSequence {α : Type} {period : α → Option EffectivePeriod}
    {sequence : α → Option Int} {date : Date} {nodes : List α} {node : α} (member : node ∈ nodes)
    (active : isActive (period node) date = true) :
    node ∈ activeInSequence period sequence date nodes := by
  unfold activeInSequence
  rw [List.mem_insertionSort]
  exact List.mem_filter.mpr ⟨member, active⟩

/-- Operations of the phases before the calculations. -/
def TraceOperation.prepares : TraceOperation → Bool
  | .setInput | .setConstant | .lookupTable | .evaluateRule => true
  | _ => false

/-- Whether only the phases before the calculations have recorded steps. -/
def Uncharged (state : Evaluation) : Prop := ∀ step ∈ state.trace, step.operation.prepares = true

/-- Recording such a step keeps a state uncharged. -/
theorem Uncharged.addStep {state after : Evaluation} {step : TraceStep} (uncharged : Uncharged state)
    (prepares : step.operation.prepares = true) (recorded : state.addStep step = .ok after) :
    Uncharged after := by
  rw [addStep_after recorded]
  intro other member
  cases List.mem_append.mp member with
  | inl earlier => exact uncharged other earlier
  | inr last => exact List.mem_singleton.mp last ▸ prepares

/-- Assigning an entry keeps a state uncharged. -/
theorem Uncharged.set {state : Evaluation} (uncharged : Uncharged state) (id : String)
    (value : Value) : Uncharged (state.set id value) := uncharged

/-- The phases before the calculations leave an uncharged state. -/
theorem prepare_uncharged {package : PackageContent} {risk : RiskInput} {date : Date}
    {strict : Bool} {state : Evaluation} (prepares : prepare package risk date strict = .ok state) :
    Uncharged state := by
  obtain ⟨inputs, _, prepares⟩ := bind_eq_ok prepares
  obtain ⟨opened, inputsSet, prepares⟩ := bind_eq_ok prepares
  obtain ⟨constant, constantsSet, prepares⟩ := bind_eq_ok prepares
  obtain ⟨modified, modifiersSet, prepares⟩ := bind_eq_ok prepares
  obtain ⟨tabled, tablesRead, rulesRead⟩ := bind_eq_ok prepares
  have afterInputs : Uncharged opened := by
    refine foldlM_keeps Uncharged (fun held input after _ kept recorded => ?_)
      (fun _ member => absurd member List.not_mem_nil) inputsSet
    exact (kept.set _ _).addStep rfl recorded
  have afterConstants : Uncharged constant := by
    refine foldlM_keeps Uncharged (fun held node after _ kept recorded => ?_) afterInputs constantsSet
    unfold setConstant at recorded
    split at recorded
    · exact (kept.set _ _).addStep rfl recorded
    · exact Except.ok.inj recorded ▸ kept
  have presets : Uncharged (package.constraints.foldl (presetConstraint date)
      (package.fees.foldl (presetFee date) constant)) := by
    have fees : ∀ (nodes : List PricingFee) (held : Evaluation), Uncharged held →
        Uncharged (nodes.foldl (presetFee date) held) := fun nodes held kept =>
      List.foldlRecOn nodes _ kept fun _ earlier _ _ => earlier
    exact List.foldlRecOn _ _ (fees _ _ afterConstants) fun _ earlier _ _ => earlier
  have afterModifiers : Uncharged modified := by
    refine foldlM_keeps Uncharged (fun held node after _ kept recorded => ?_) presets modifiersSet
    unfold presetModifier at recorded
    split at recorded
    · obtain ⟨eligible, _, recorded⟩ := bind_eq_ok recorded
      split at recorded
      · obtain ⟨factor, _, recorded⟩ := bind_eq_ok recorded
        exact Except.ok.inj recorded ▸ kept
      · exact Except.ok.inj recorded ▸ kept
    · exact Except.ok.inj recorded ▸ kept
  have afterTables : Uncharged tabled := by
    refine foldlM_keeps Uncharged (fun held table after _ kept recorded => ?_) afterModifiers
      tablesRead
    unfold resolveTable at recorded
    split at recorded
    · obtain ⟨factor, _, recorded⟩ := bind_eq_ok recorded
      exact (kept.set _ _).addStep rfl recorded
    · exact Except.ok.inj recorded ▸ kept
  refine foldlM_keeps Uncharged (fun held rule after _ kept recorded => ?_) afterTables rulesRead
  unfold resolveRule at recorded
  split at recorded
  · obtain ⟨holds, _, recorded⟩ := bind_eq_ok recorded
    obtain ⟨value, _, recorded⟩ := bind_eq_ok recorded
    exact (kept.set _ _).addStep rfl recorded
  · exact Except.ok.inj recorded ▸ kept

section Listed

variable {sorter : Sorter String} {package : PackageContent} {date : Date}

/-- A charge that one active calculation lists is measured by that calculation alone. -/
theorem calculate_once (distinct : (package.calculations.map (·.id)).Nodup) {id : String}
    {node : CalculationNode} (listed : ListedOnce package date id node)
    (measure : Evaluation → Nat) (applied : Running → List String) {weight : Nat}
    (others : ∀ running after other, id ∉ other.dependsOn →
      Ran package.roundingRules (activeNodes package date) running after other →
      measure after.state = measure running.state ∧ (id ∉ applied running → id ∉ applied after))
    (once : ∀ running after, id ∉ applied running →
      Ran package.roundingRules (activeNodes package date) running after node →
      measure after.state = measure running.state + weight)
    {state result : Evaluation} (starts : id ∉ applied ⟨state, [], [], []⟩)
    (calculated : calculate sorter package date state = .ok result) :
    measure result = measure state + weight := by
  obtain ⟨nodes, sorted, calculated⟩ := bind_eq_ok calculated
  obtain ⟨running, ran, calculated⟩ := bind_eq_ok calculated
  cases calculated
  have same := sorted_perm distinct sorted
  have chosen : node ∈ nodes := same.mem_iff.mpr listed.member
  refine foldlM_once (fun running => measure running.state) (fun running => id ∉ applied running)
    (same.nodup_iff.mpr distinct.of_map) chosen ?_ ?_ starts ran
  · intro running other after member different runs
    cases active : isActive other.effectivePeriod date with
    | false =>
      rw [runCalculation_inactive active] at runs
      cases runs
      exact ⟨rfl, fun fresh => fresh⟩
    | true =>
      obtain ⟨phases⟩ := runCalculation_active active runs
      refine others running after other (fun lists => different ?_) phases
      exact listed.only other (same.mem_iff.mp member) active lists
  · intro running after fresh runs
    obtain ⟨phases⟩ := runCalculation_active listed.active runs
    exact once running after fresh phases

/-- A listed active fee is added once, unless the operands of the expression refer to it. -/
theorem calculate_fee (distinct : (package.calculations.map (·.id)).Nodup)
    (feesDistinct : (package.fees.map (·.id)).Nodup) {fee : PricingFee}
    (member : fee ∈ package.fees) (active : isActive fee.effectivePeriod date = true)
    {node : CalculationNode} (listed : ListedOnce package date fee.id node)
    {state result : Evaluation} (calculated : calculate sorter package date state = .ok result) :
    result.trace.countP (addsFee fee.id) = state.trace.countP (addsFee fee.id) +
      if fee.id ∈ operandRefs node.expression then 0 else 1 := by
  refine calculate_once distinct listed (fun state => state.trace.countP (addsFee fee.id))
    (·.fees) ?_ ?_ List.not_mem_nil calculated
  · intro running after other unlisted ran
    have none := declared_unlisted_count PricingFee.id unlisted running.fees
      (activeNodes package date).fees
      (fun candidate => candidate.id == fee.id &&
        !(operandRefs other.expression).contains candidate.id)
      (fun candidate counted => beq_iff_eq.mp (Bool.and_eq_true_iff.mp counted).1)
    refine ⟨(ran_fees fee.id ran).trans (congrArg (_ + ·) none), fun fresh found => ?_⟩
    rw [ran.applied] at found
    cases List.mem_append.mp found with
    | inl earlier => exact fresh earlier
    | inr now => exact declared_unlisted unlisted now
  · intro running after fresh ran
    have once := declared_once
      (activeInSequence_distinct (·.effectivePeriod) (·.sequence) date feesDistinct)
      (mem_activeInSequence member active) listed.lists fresh
    refine (ran_fees fee.id ran).trans
      (congrArg (running.state.trace.countP (addsFee fee.id) + ·) ?_)
    by_cases referred : fee.id ∈ operandRefs node.expression
    · rw [if_pos referred]
      refine List.countP_eq_zero.mpr fun other _ counted => ?_
      obtain ⟨same, unreferred⟩ := Bool.and_eq_true_iff.mp counted
      rw [beq_iff_eq.mp same, List.contains_iff_mem.mpr referred] at unreferred
      cases unreferred
    · rw [if_neg referred, ← once]
      refine List.countP_congr fun other _ => ?_
      by_cases same : other.id = fee.id
      · simp [same, referred]
      · simp [same]

/-- A listed active modifier is reached once. -/
theorem calculate_modifier (distinct : (package.calculations.map (·.id)).Nodup)
    (modifiersDistinct : (package.modifiers.map (·.id)).Nodup) {modifier : PricingModifier}
    (member : modifier ∈ package.modifiers)
    (active : isActive modifier.effectivePeriod date = true) {node : CalculationNode}
    (listed : ListedOnce package date modifier.id node) {state result : Evaluation}
    (calculated : calculate sorter package date state = .ok result) :
    result.trace.countP (reachesModifier modifier.id) =
      state.trace.countP (reachesModifier modifier.id) + 1 := by
  refine calculate_once distinct listed
    (fun state => state.trace.countP (reachesModifier modifier.id)) (·.modifiers) ?_ ?_
    List.not_mem_nil calculated
  · intro running after other unlisted ran
    have none := declared_unlisted_count PricingModifier.id unlisted running.modifiers
      (activeNodes package date).modifiers (fun candidate => candidate.id == modifier.id)
      (fun candidate counted => beq_iff_eq.mp counted)
    refine ⟨(ran_modifiers modifier.id ran).trans (congrArg (_ + ·) none), fun fresh found => ?_⟩
    rw [ran.applied] at found
    cases List.mem_append.mp found with
    | inl earlier => exact fresh earlier
    | inr now => exact declared_unlisted unlisted now
  · intro running after fresh ran
    have once := declared_once
      (activeInSequence_distinct (·.effectivePeriod) (·.sequence) date modifiersDistinct)
      (mem_activeInSequence member active) listed.lists fresh
    exact (ran_modifiers modifier.id ran).trans (congrArg (_ + ·) once)

end Listed

/-- Reading the output charges nothing. -/
theorem finish_trace {package : PackageContent} {date : Date} {transaction : TransactionType}
    {state : Evaluation} {result : OracleResult}
    (finished : finish package date transaction state = .ok result) :
    ∃ step : TraceStep, result.trace = state.trace ++ [step] ∧ step.operation = .finalOutput := by
  unfold finish at finished
  split at finished
  · cases finished
  · split at finished
    · cases finished
    · obtain ⟨premium, _, finished⟩ := bind_eq_ok finished
      obtain ⟨final, recorded, finished⟩ := bind_eq_ok finished
      split at finished
      · cases finished
      · cases finished
        rw [addStep_after recorded]
        exact ⟨_, rfl, rfl⟩

/-- Before the calculations nothing is charged. -/
theorem Uncharged.counts {state : Evaluation} (uncharged : Uncharged state) (id : String) :
    state.trace.countP (addsFee id) = 0 ∧ state.trace.countP (reachesModifier id) = 0 := by
  constructor
  · refine List.countP_eq_zero.mpr fun step member charged => ?_
    have prepares := uncharged step member
    have operation := beq_iff_eq.mp (Bool.and_eq_true_iff.mp charged).2
    rw [operation] at prepares
    cases prepares
  · refine List.countP_eq_zero.mpr fun step member reached => ?_
    have prepares := uncharged step member
    unfold reachesModifier appliesModifier skipsModifier at reached
    cases operation : step.operation <;> simp_all [TraceOperation.prepares, TraceOperation.applies]

/-- Steps that reach a modifier apply or skip it. -/
theorem countP_reaches (id : String) (trace : List TraceStep) :
    trace.countP (reachesModifier id) =
      trace.countP (appliesModifier id) + trace.countP (skipsModifier id) := by
  induction trace with
  | nil => rfl
  | cons step rest ih =>
    rw [List.countP_cons, List.countP_cons, List.countP_cons, ih]
    unfold reachesModifier appliesModifier skipsModifier
    cases step.nodeId == id with
    | false => simp
    | true =>
      cases step.operation <;> simp [TraceOperation.applies] <;> omega

/-- A charge that one active calculation lists counts once in it when, for a fee, the operands of
the expression refer to it if the expression mentions it at all, and when, for a modifier found
eligible, the expression does not mention it. -/
theorem charges_once_iff (sorter : Sorter String) (package : IPIRPackage) (risk : RiskInput)
    (date : Date) (transaction : TransactionType) (strict : Bool) (result : OracleResult)
    (priced : evaluatePackage sorter package.toPackageContent risk date transaction strict =
      .ok result) (node : CalculationNode) :
    (∀ fee ∈ package.fees, isActive fee.effectivePeriod date = true →
      ListedOnce package.toPackageContent date fee.id node →
      (contributions node fee.id (addsFee fee.id) result.trace = 1 ↔
        (fee.id ∈ node.expression.refs → fee.id ∈ operandRefs node.expression))) ∧
    (∀ modifier ∈ package.modifiers, isActive modifier.effectivePeriod date = true →
      ListedOnce package.toPackageContent date modifier.id node →
      result.trace.countP (skipsModifier modifier.id) = 0 →
      (contributions node modifier.id (appliesModifier modifier.id) result.trace = 1 ↔
        modifier.id ∉ node.expression.refs)) := by
  obtain ⟨_, _, priced⟩ := bind_eq_ok priced
  obtain ⟨prepared, prepares, priced⟩ := bind_eq_ok priced
  obtain ⟨calculated, calculates, finished⟩ := bind_eq_ok priced
  have quiet := (prepare_uncharged prepares).counts
  obtain ⟨last, trace, final⟩ := finish_trace finished
  have distinct := package.valid.sections_distinct
  constructor
  · intro fee member active listed
    have added := calculate_fee distinct.calculations distinct.fees member active listed calculates
    have total : result.trace.countP (addsFee fee.id) =
        if fee.id ∈ operandRefs node.expression then 0 else 1 := by
      rw [trace, countP_snoc, added, (quiet fee.id).1, addsFee, final]
      simp
    unfold contributions
    rw [total]
    by_cases mentioned : fee.id ∈ node.expression.refs
    · by_cases referred : fee.id ∈ operandRefs node.expression <;> simp [mentioned, referred]
    · have unreferred : fee.id ∉ operandRefs node.expression := fun referred =>
        mentioned (operandRefs_refs node.expression referred)
      simp [mentioned, unreferred]
  · intro modifier member active listed eligible
    have reached := calculate_modifier distinct.calculations distinct.modifiers member active
      listed calculates
    have total : result.trace.countP (appliesModifier modifier.id) = 1 := by
      have all : result.trace.countP (reachesModifier modifier.id) = 1 := by
        rw [trace, countP_snoc, reached, (quiet modifier.id).2, reachesModifier, appliesModifier,
          skipsModifier, final]
        simp [TraceOperation.applies]
      rw [countP_reaches, eligible] at all
      exact all
    unfold contributions
    rw [total]
    by_cases mentioned : modifier.id ∈ node.expression.refs <;> simp [mentioned]

/-- First day of the charged sample packages. -/
def chargedDay : Date where
  year := 2030
  month := 3
  day := 1
  yearValid := by decide
  dayValid := by decide

/-- Sample fee of twenty-five. -/
def policyFee : PricingFee := ⟨"policy_fee", ⟨false, 25, 0⟩, "total", none, none⟩

/-- Sample calculation that lists the fee. -/
def chargedNode (expression : Operand) : CalculationNode :=
  ⟨"total", expression, ["policy_fee"], none, none, none⟩

/-- Content of a sample package with a base rate of one hundred and the fee. -/
def chargedContent (expression : Operand) : PackageContent where
  id := "charged_rate"
  version := "1.0.0"
  effectivePeriod := ⟨chargedDay, none, fun _ absent => absurd absent (Option.not_mem_none _)⟩
  transactionTypes := [.newBusiness]
  inputs := []
  constants := [⟨"base_rate", ⟨false, 100, 0⟩, none⟩]
  tables := []
  rules := []
  calculations := [chargedNode expression]
  roundingRules := []
  modifiers := []
  constraints := []
  fees := [policyFee]
  coverages := []
  outputs := [⟨"premium", "total", none⟩]

/-- The base rate plus the fee. -/
def operandFee : Operand := .expression .add [.reference "base_rate", .reference "policy_fee"]

/-- The base rate plus the fee times one. -/
def nestedFee : Operand := .expression .add [.reference "base_rate",
  .expression .multiply [.reference "policy_fee", .literal (.int 1)]]

/-- Sample package whose expression has the fee as an operand. -/
def operandFeePackage : IPIRPackage where
  toPackageContent := chargedContent operandFee
  valid := by decide

/-- Sample package whose expression has the fee within an operand. -/
def nestedFeePackage : IPIRPackage where
  toPackageContent := chargedContent nestedFee
  valid := by decide

/-- The sample calculation is the only one to list the fee. -/
theorem policyFee_listed (expression : Operand) :
    ListedOnce (chargedContent expression) chargedDay policyFee.id (chargedNode expression) where
  member := List.mem_singleton_self _
  active := rfl
  lists := List.mem_singleton_self _
  only _ member _ _ := List.mem_singleton.mp member

/-- A fee among the operands counts once. -/
theorem charges_once_iff_operand :
    ∃ result, evaluatePackage (byGenerations String) operandFeePackage.toPackageContent
        ⟨[], List.nodup_nil⟩ chargedDay .newBusiness false = .ok result ∧
      (contributions (chargedNode operandFee) "policy_fee" (addsFee "policy_fee") result.trace = 1 ↔
        ("policy_fee" ∈ operandFee.refs → "policy_fee" ∈ operandRefs operandFee)) := by
  have prices : (evaluatePackage (byGenerations String) operandFeePackage.toPackageContent
      ⟨[], List.nodup_nil⟩ chargedDay .newBusiness false).isOk = true := by decide +kernel
  obtain ⟨result, priced⟩ := exists_of_isOk prices
  exact ⟨result, priced, (charges_once_iff (byGenerations String) operandFeePackage
    ⟨[], List.nodup_nil⟩ chargedDay .newBusiness false result priced (chargedNode operandFee)).1
    policyFee (List.mem_singleton_self _) rfl (policyFee_listed operandFee)⟩

/-- Not every listed charge counts once: a fee mentioned within an operand is added again. -/
theorem charges_not_once :
    ¬∀ (sorter : Sorter String) (package : IPIRPackage) (risk : RiskInput) (date : Date)
      (transaction : TransactionType) (strict : Bool) (result : OracleResult),
      evaluatePackage sorter package.toPackageContent risk date transaction strict = .ok result →
      ∀ node : CalculationNode,
      (∀ fee ∈ package.fees, isActive fee.effectivePeriod date = true →
        ListedOnce package.toPackageContent date fee.id node →
        contributions node fee.id (addsFee fee.id) result.trace = 1) ∧
      (∀ modifier ∈ package.modifiers, isActive modifier.effectivePeriod date = true →
        ListedOnce package.toPackageContent date modifier.id node →
        result.trace.countP (skipsModifier modifier.id) = 0 →
        contributions node modifier.id (appliesModifier modifier.id) result.trace = 1) := by
  intro always
  have counted : (evaluatePackage (byGenerations String) nestedFeePackage.toPackageContent
      ⟨[], List.nodup_nil⟩ chargedDay .newBusiness false).toOption.map (fun result =>
        contributions (chargedNode nestedFee) "policy_fee" (addsFee "policy_fee") result.trace) =
      some 2 := by decide +kernel
  have prices : (evaluatePackage (byGenerations String) nestedFeePackage.toPackageContent
      ⟨[], List.nodup_nil⟩ chargedDay .newBusiness false).isOk = true := by decide +kernel
  obtain ⟨result, priced⟩ := exists_of_isOk prices
  rw [priced] at counted
  have twice : contributions (chargedNode nestedFee) "policy_fee" (addsFee "policy_fee")
    result.trace = 2 := Option.some.inj counted
  have once := (always (byGenerations String) nestedFeePackage ⟨[], List.nodup_nil⟩ chargedDay
    .newBusiness false result priced (chargedNode nestedFee)).1 policyFee
    (List.mem_singleton_self _) rfl (policyFee_listed nestedFee)
  have both : (1 : Nat) = 2 := once.symm.trans twice
  omega

end RateGuard
