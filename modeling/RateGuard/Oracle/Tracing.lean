import Mathlib.Data.List.Perm.Subperm
import RateGuard.Oracle.Charges

/-!
# Traces of a run

Every phase of an evaluation appends steps of its own nodes, in their order and at most one step
for a node. A modifier, a constraint or a fee is applied by one calculation only, so the trace of
a valid package names every node at most once. It ends with the premium.
-/

open DecimalFloat CalendarDate TopologicalSort Outcome

namespace RateGuard

/-- A trace that goes on with recordable steps of some nodes, in their order. -/
def Traced (before after : List TraceStep) (ids : List String) : Prop :=
  ∃ steps : List TraceStep, after = before ++ steps ∧ (steps.map (·.nodeId)).Sublist ids ∧
    ∀ step ∈ steps, step.result.recordable = true

/-- A trace that stays the same. -/
theorem Traced.refl (trace : List TraceStep) (ids : List String) : Traced trace trace ids :=
  ⟨[], (List.append_nil trace).symm, List.nil_sublist ids, fun _ member => by cases member⟩

/-- Traces go on one after the other. -/
theorem Traced.trans {first second third : List TraceStep} {ids others : List String}
    (before : Traced first second ids) (after : Traced second third others) :
    Traced first third (ids ++ others) := by
  obtain ⟨steps, rfl, listed, recordable⟩ := before
  obtain ⟨later, rfl, laterListed, laterRecordable⟩ := after
  refine ⟨steps ++ later, List.append_assoc _ _ _, ?_, fun step member => ?_⟩
  · rw [List.map_append]
    exact listed.append laterListed
  · cases List.mem_append.mp member with
    | inl early => exact recordable step early
    | inr late => exact laterRecordable step late

/-- More nodes may be named. -/
theorem Traced.mono {before after : List TraceStep} {ids others : List String}
    (traced : Traced before after ids) (sublist : ids.Sublist others) :
    Traced before after others := by
  obtain ⟨steps, appended, listed, recordable⟩ := traced
  exact ⟨steps, appended, listed.trans sublist, recordable⟩

/-- A recorded step goes on with its node. -/
theorem addStep_traced {state after : Evaluation} {step : TraceStep}
    (recorded : state.addStep step = .ok after) : Traced state.trace after.trace [step.nodeId] := by
  have recordable := (addStep_eq_ok recorded).2
  rw [addStep_after recorded]
  refine ⟨[step], rfl, List.Sublist.refl _, fun other member => ?_⟩
  rw [List.mem_singleton.mp member]
  exact recordable

/-- A phase whose steps go on with their own nodes goes on with the nodes of all. -/
theorem foldlM_traced {α β : Type} (trace : β → List TraceStep) (id : α → String)
    {step : β → α → Except Failure β} {values : List α}
    (traces : ∀ state value after, value ∈ values → step state value = .ok after →
      Traced (trace state) (trace after) [id value])
    {start result : β} (succeeds : values.foldlM step start = .ok result) :
    Traced (trace start) (trace result) (values.map id) := by
  induction values generalizing start with
  | nil =>
    cases succeeds
    exact .refl _ _
  | cons value rest ih =>
    rw [List.foldlM_cons] at succeeds
    obtain ⟨middle, first, later⟩ := bind_eq_ok succeeds
    have one := traces start value middle List.mem_cons_self first
    exact one.trans (ih (fun state other after member =>
      traces state other after (List.mem_cons_of_mem value member)) later)

/-- Entries that validate are named after their inputs. -/
theorem validateEntry_ids {risk : RiskInput} {inputs : List PricingInput}
    {entries : List (Option (String × Value))}
    (validated : List.Forall₂ (fun input entry => validateEntry risk input = .ok entry)
      inputs entries) :
    ((entries.filterMap id).map Prod.fst).Sublist (inputs.map (·.id)) := by
  induction validated with
  | nil => exact List.Sublist.refl _
  | @cons input entry inputs entries one _ ih =>
    obtain ⟨value, _, named⟩ := bind_eq_ok one
    rw [← Except.ok.inj named]
    cases value with
    | none => exact ih.cons _
    | some value => exact ih.cons_cons _

/-- Validated inputs are declared inputs, in their order. -/
theorem validateRiskInputs_ids {inputs : List PricingInput} {risk : RiskInput} {strict : Bool}
    {entries : List (String × Value)}
    (validated : validateRiskInputs inputs risk strict = .ok entries) :
    (entries.map Prod.fst).Sublist (inputs.map (·.id)) := by
  obtain ⟨found, mapped, rest⟩ := bind_eq_ok validated
  by_cases extra : (strict && !(extraKeys inputs risk).isEmpty) = true
  · rw [if_pos extra] at rest
    cases rest
  · rw [if_neg extra] at rest
    rw [← Except.ok.inj rest]
    exact validateEntry_ids (mapM_eq_ok mapped)

/-- The phases before the calculations go on with inputs, constants, tables and rules. -/
theorem prepare_traced {package : PackageContent} {risk : RiskInput} {date : Date}
    {strict : Bool} {state : Evaluation} (prepares : prepare package risk date strict = .ok state) :
    Traced [] state.trace (package.inputs.map (·.id) ++ package.constants.map (·.id) ++
      package.tables.map (·.id) ++ package.rules.map (·.id)) := by
  obtain ⟨inputs, validated, prepares⟩ := bind_eq_ok prepares
  obtain ⟨opened, inputsSet, prepares⟩ := bind_eq_ok prepares
  obtain ⟨constant, constantsSet, prepares⟩ := bind_eq_ok prepares
  obtain ⟨modified, modifiersSet, prepares⟩ := bind_eq_ok prepares
  obtain ⟨tabled, tablesRead, rulesRead⟩ := bind_eq_ok prepares
  have afterInputs : Traced [] opened.trace (inputs.map Prod.fst) := by
    refine foldlM_traced (·.trace) Prod.fst (fun held input after _ recorded => ?_) inputsSet
    exact addStep_traced recorded
  have afterConstants : Traced opened.trace constant.trace (package.constants.map (·.id)) := by
    refine foldlM_traced (·.trace) (·.id) (fun held node after _ recorded => ?_) constantsSet
    unfold setConstant at recorded
    split at recorded
    · exact addStep_traced recorded
    · exact Except.ok.inj recorded ▸ .refl _ _
  have afterPresets : (package.constraints.foldl (presetConstraint date)
      (package.fees.foldl (presetFee date) constant)).trace = constant.trace := by
    have fees : (package.fees.foldl (presetFee date) constant).trace = constant.trace :=
      List.foldlRecOn (motive := fun held : Evaluation => held.trace = constant.trace) _ _ rfl
        fun _ kept _ _ => kept
    exact List.foldlRecOn (motive := fun held : Evaluation => held.trace = constant.trace) _ _ fees
      fun _ kept _ _ => kept
  have afterModifiers : modified.trace = constant.trace := by
    refine foldlM_keeps (fun held => held.trace = constant.trace)
      (fun held node after _ kept recorded => ?_) afterPresets modifiersSet
    unfold presetModifier at recorded
    split at recorded
    · obtain ⟨eligible, _, recorded⟩ := bind_eq_ok recorded
      split at recorded
      · obtain ⟨factor, _, recorded⟩ := bind_eq_ok recorded
        exact Except.ok.inj recorded ▸ kept
      · exact Except.ok.inj recorded ▸ kept
    · exact Except.ok.inj recorded ▸ kept
  have afterTables : Traced modified.trace tabled.trace (package.tables.map (·.id)) := by
    refine foldlM_traced (·.trace) (·.id) (fun held table after _ recorded => ?_) tablesRead
    unfold resolveTable at recorded
    split at recorded
    · obtain ⟨factor, _, recorded⟩ := bind_eq_ok recorded
      exact addStep_traced recorded
    · exact Except.ok.inj recorded ▸ .refl _ _
  have afterRules : Traced tabled.trace state.trace (package.rules.map (·.id)) := by
    refine foldlM_traced (·.trace) (·.id) (fun held rule after _ recorded => ?_) rulesRead
    unfold resolveRule at recorded
    split at recorded
    · obtain ⟨holds, _, recorded⟩ := bind_eq_ok recorded
      obtain ⟨value, _, recorded⟩ := bind_eq_ok recorded
      exact addStep_traced recorded
    · exact Except.ok.inj recorded ▸ .refl _ _
  rw [afterModifiers] at afterTables
  exact (((afterInputs.mono (validateRiskInputs_ids validated)).trans afterConstants).trans
    afterTables).trans afterRules

/-- An active calculation goes on with the nodes it declares and itself. -/
theorem ran_traced {rules : List RoundingRule} {active : ActiveNodes} {running after : Running}
    {node : CalculationNode} (ran : Ran rules active running after node) :
    Traced running.state.trace after.state.trace
      ((declared (·.id) node running.modifiers active.modifiers).map (·.id) ++
        (declared (·.id) node running.constraints active.constraints).map (·.id) ++
        (declared (·.id) node running.fees active.fees).map (·.id) ++ [node.id]) := by
  have modifies := foldlM_traced (fun progress : Evaluation × Decimal => progress.1.trace)
    (fun modifier : PricingModifier => modifier.id) (fun progress modifier next _ applied => by
      obtain ⟨eligible, _, rest⟩ := bind_eq_ok applied
      split at rest
      · obtain ⟨value, _, rest⟩ := bind_eq_ok rest
        obtain ⟨rate, _, rest⟩ := bind_eq_ok rest
        obtain ⟨adjusted, _, rest⟩ := bind_eq_ok rest
        obtain ⟨recorded, records, rest⟩ := bind_eq_ok rest
        exact Except.ok.inj rest ▸ addStep_traced records
      · obtain ⟨recorded, records, rest⟩ := bind_eq_ok rest
        exact Except.ok.inj rest ▸ addStep_traced records) ran.modifies
  have constrains := foldlM_traced (fun progress : Evaluation × Decimal => progress.1.trace)
    (fun constraint : PremiumConstraint => constraint.id)
    (fun progress constraint next _ applied => by
      obtain ⟨value, _, rest⟩ := bind_eq_ok applied
      obtain ⟨recorded, records, rest⟩ := bind_eq_ok rest
      exact Except.ok.inj rest ▸ addStep_traced records) ran.constrains
  have charges := foldlM_traced (fun progress : Evaluation × Decimal => progress.1.trace)
    (fun fee : PricingFee => fee.id) (fun progress fee next _ applied => by
      by_cases referred : fee.id ∈ operandRefs node.expression
      · rw [applyFee_referred referred applied]
        exact .refl _ _
      · obtain ⟨state, current⟩ := progress
        dsimp only [applyFee] at applied
        rw [if_neg fun listed => referred (List.contains_iff_mem.mp listed)] at applied
        obtain ⟨value, _, rest⟩ := bind_eq_ok applied
        obtain ⟨recorded, records, rest⟩ := bind_eq_ok rest
        exact Except.ok.inj rest ▸ addStep_traced records) ran.charges
  have records := addStep_traced ran.records
  rw [ran.applied]
  exact ((modifies.trans constrains).trans charges).trans records

/-- Active nodes are among the nodes. -/
theorem activeInSequence_subperm {α : Type} (id : α → String)
    (period : α → Option EffectivePeriod) (sequence : α → Option Int) (date : Date)
    (nodes : List α) :
    ((activeInSequence period sequence date nodes).map id).Subperm (nodes.map id) := by
  have same : (activeInSequence period sequence date nodes).Perm
      (nodes.filter fun node => isActive (period node) date) := List.perm_insertionSort _ _
  exact (same.map id).subperm.trans (List.filter_sublist.map id).subperm

/-- Nodes that count as applied are active ones, each once. -/
structure AppliedOnce (active : ActiveNodes) (running : Running) : Prop where
  /-- Modifiers. -/
  modifiers : running.modifiers.Subperm (active.modifiers.map (·.id))
  /-- Constraints. -/
  constraints : running.constraints.Subperm (active.constraints.map (·.id))
  /-- Fees. -/
  fees : running.fees.Subperm (active.fees.map (·.id))

/-- Applying the nodes that are declared and not applied before keeps each applied once. -/
theorem applied_subperm {α : Type} {id : α → String} {node : CalculationNode}
    {applied : List String} {active : List α} (distinct : (active.map id).Nodup)
    (once : applied.Subperm (active.map id)) :
    (applied ++ (declared id node applied active).map id).Subperm (active.map id) := by
  have listed : ((declared id node applied active).map id).Sublist (active.map id) :=
    List.filter_sublist.map id
  have fresh : ∀ charge ∈ (declared id node applied active).map id, charge ∉ applied := by
    intro charge found
    obtain ⟨other, member, rfl⟩ := List.mem_map.mp found
    have unapplied := (Bool.and_eq_true_iff.mp (List.mem_filter.mp member).2).2
    simpa using unapplied
  have appliedDistinct : applied.Nodup := by
    obtain ⟨same, perm, sublist⟩ := once
    exact perm.nodup_iff.mp (sublist.nodup distinct)
  refine List.Nodup.subperm ?_ fun charge found => ?_
  · refine List.nodup_append.mpr ⟨appliedDistinct, listed.nodup distinct, ?_⟩
    rintro charge early other late rfl
    exact fresh charge late early
  · cases List.mem_append.mp found with
    | inl early => exact once.subset early
    | inr late => exact listed.subset late

/-- Calculations keep what they apply applied once. -/
theorem appliedOnce_runs {rules : List RoundingRule} {active : ActiveNodes} {date : Date}
    (modifiers : (active.modifiers.map (·.id)).Nodup)
    (constraints : (active.constraints.map (·.id)).Nodup) (fees : (active.fees.map (·.id)).Nodup)
    {nodes : List CalculationNode} {running after : Running} (once : AppliedOnce active running)
    (ran : nodes.foldlM (runCalculation rules active date) running = .ok after) :
    AppliedOnce active after := by
  refine foldlM_keeps (AppliedOnce active) (fun held node next _ kept runs => ?_) once ran
  cases applies : isActive node.effectivePeriod date with
  | false =>
    rw [runCalculation_inactive applies] at runs
    exact Except.ok.inj runs ▸ kept
  | true =>
    obtain ⟨phases⟩ := runCalculation_active applies runs
    rw [phases.applied]
    exact ⟨applied_subperm modifiers kept.modifiers,
      applied_subperm constraints kept.constraints, applied_subperm fees kept.fees⟩

/-- Calculations go on with steps that name each calculation and each node that becomes applied
at most once. -/
theorem runCalculations_traced {rules : List RoundingRule} {active : ActiveNodes} {date : Date}
    {nodes : List CalculationNode} {running after : Running}
    (ran : nodes.foldlM (runCalculation rules active date) running = .ok after) :
    ∃ ids : List String, Traced running.state.trace after.state.trace ids ∧
      ∀ id : String, ids.count id + (running.modifiers.count id +
        running.constraints.count id + running.fees.count id) ≤
        after.modifiers.count id + after.constraints.count id + after.fees.count id +
          (nodes.map (·.id)).count id := by
  induction nodes generalizing running with
  | nil =>
    cases ran
    exact ⟨[], .refl _ _, fun id => by simp⟩
  | cons node rest ih =>
    rw [List.foldlM_cons] at ran
    obtain ⟨middle, runs, later⟩ := bind_eq_ok ran
    obtain ⟨ids, traced, bound⟩ := ih later
    cases applies : isActive node.effectivePeriod date with
    | false =>
      rw [runCalculation_inactive applies] at runs
      rw [← Except.ok.inj runs] at traced bound
      refine ⟨ids, traced, fun id => ?_⟩
      have counted := bound id
      rw [List.map_cons, List.count_cons]
      omega
    | true =>
      obtain ⟨phases⟩ := runCalculation_active applies runs
      refine ⟨_, (ran_traced phases).trans traced, fun id => ?_⟩
      have counted := bound id
      rw [phases.applied] at counted
      simp only [List.count_append, List.count_cons, List.count_nil, List.map_cons] at counted ⊢
      omega

/-- Reading the output ends the trace with the premium. -/
theorem finish_last {package : PackageContent} {date : Date} {transaction : TransactionType}
    {state : Evaluation} {result : OracleResult}
    (finished : finish package date transaction state = .ok result) :
    ∃ output rest, package.outputs = output :: rest ∧ result.finalOutputId = output.id ∧
      result.trace = state.trace ++
        [⟨output.id, .output, .finalOutput, .decimal result.finalPremium⟩] ∧
      Traced state.trace result.trace [output.id] := by
  unfold finish at finished
  split at finished
  · cases finished
  · next output rest listed =>
    split at finished
    · cases finished
    · obtain ⟨premium, _, finished⟩ := bind_eq_ok finished
      obtain ⟨final, recorded, finished⟩ := bind_eq_ok finished
      have traced := addStep_traced recorded
      split at finished
      · cases finished
      · cases finished
        refine ⟨output, rest, listed, rfl, ?_, traced⟩
        rw [addStep_after recorded]

/-- What the trace of a priced run looks like. -/
structure RunTrace (package : PackageContent) (result : OracleResult) : Prop where
  /-- Every node is named at most once. -/
  distinct : (result.trace.map (·.nodeId)).Nodup
  /-- Every result is inside the trace schema. -/
  recordable : ∀ step ∈ result.trace, step.result.recordable = true
  /-- The premium comes last. -/
  last : ∃ before, result.trace = before ++
    [⟨result.finalOutputId, .output, .finalOutput, .decimal result.finalPremium⟩]

/-- The trace of a valid package. -/
theorem evaluatePackage_runTrace {sorter : Sorter String} {package : IPIRPackage}
    {risk : RiskInput} {date : Date} {transaction : TransactionType} {strict : Bool}
    {result : OracleResult}
    (priced : evaluatePackage sorter package.toPackageContent risk date transaction strict =
      .ok result) : RunTrace package.toPackageContent result := by
  obtain ⟨_, _, priced⟩ := bind_eq_ok priced
  obtain ⟨prepared, prepares, priced⟩ := bind_eq_ok priced
  obtain ⟨calculated, calculates, finished⟩ := bind_eq_ok priced
  obtain ⟨output, rest, outputs, named, ends, final⟩ := finish_last finished
  obtain ⟨nodes, sorted, calculates⟩ := bind_eq_ok calculates
  obtain ⟨running, ran, calculates⟩ := bind_eq_ok calculates
  rw [← Except.ok.inj calculates] at final ends
  have sections := package.valid.sections_distinct
  have order := sorted_perm sections.calculations sorted
  obtain ⟨ids, traced, bound⟩ := runCalculations_traced ran
  have once : AppliedOnce (activeNodes package.toPackageContent date) running :=
    appliedOnce_runs (activeInSequence_distinct _ _ date sections.modifiers)
      (activeInSequence_distinct _ _ date sections.constraints)
      (activeInSequence_distinct _ _ date sections.fees)
      ⟨List.nil_subperm, List.nil_subperm, List.nil_subperm⟩ ran
  obtain ⟨steps, whole, listed, recordable⟩ := ((prepare_traced prepares).trans traced).trans final
  rw [List.nil_append] at whole
  refine ⟨?_, whole ▸ recordable, ⟨_, named ▸ ends⟩⟩
  rw [whole]
  refine List.nodup_iff_count_le_one.mpr fun id => ?_
  have modifiers := (once.modifiers.trans (activeInSequence_subperm _ _ _ date _)).count_le id
  have constraints := (once.constraints.trans (activeInSequence_subperm _ _ _ date _)).count_le id
  have fees := (once.fees.trans (activeInSequence_subperm _ _ _ date _)).count_le id
  have calculations := (order.map (·.id)).count_eq id
  have ran_count := bound id
  have steps_count := listed.count_le id
  have once_each := List.nodup_iff_count_le_one.mp package.valid.ids_distinct id
  simp only [PackageContent.nodeIds, List.count_append, outputs, List.map_cons,
    List.count_cons, List.count_nil] at steps_count once_each ran_count
  omega

end RateGuard
