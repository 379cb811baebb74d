import RateGuard.Oracle.Evaluator

/-!
# Order of inputs and constants

Inputs and constants with distinct identifiers are assigned to distinct context
entries, so their declaration order does not decide what an evaluation resolves.
-/

open DecimalFloat CalendarDate TopologicalSort Outcome

namespace RateGuard

/-- Evaluations that resolved the same values. -/
def SameContext (left right : Evaluation) : Prop := left.context = right.context

/-- Recording one result keeps contexts the same. -/
theorem addStep_same {left right : Evaluation} (same : SameContext left right)
    (first second : TraceStep) (results : first.result = second.result) :
    Agree SameContext (left.addStep first) (right.addStep second) := by
  unfold Evaluation.addStep
  rw [results]
  exact Agree.ite Iff.rfl (.success same) (.failure _ _)

/-- Assigning one value keeps contexts the same. -/
theorem SameContext.set {left right : Evaluation} (same : SameContext left right) (id : String)
    (value : Value) : SameContext (left.set id value) (right.set id value) :=
  congrArg (fun context => Context.set context id value) same

/-- Assignments to different entries commute. -/
theorem Context.set_comm (context : Context) {first second : String} (different : first ≠ second)
    (one two : Value) :
    (context.set first one).set second two = (context.set second two).set first one := by
  funext id
  unfold Context.set
  by_cases isFirst : id = first
  · subst isFirst
    rw [if_neg different, if_pos rfl, if_pos rfl]
  · simp only [if_neg isFirst]

/-- Recorded assignments to different entries commute. -/
theorem recorded_swap (state : Evaluation) (first second : TraceStep)
    (different : first.nodeId ≠ second.nodeId) :
    Agree SameContext
      ((state.set first.nodeId first.result).addStep first >>= fun next =>
        (next.set second.nodeId second.result).addStep second)
      ((state.set second.nodeId second.result).addStep second >>= fun next =>
        (next.set first.nodeId first.result).addStep first) := by
  have commuted := state.context.set_comm different first.result second.result
  unfold Evaluation.addStep
  by_cases one : first.result.recordable
  · by_cases two : second.result.recordable
    · simp only [one, two, if_true]
      exact .success commuted
    · simp only [one, two, if_true, Bool.false_eq_true, if_false]
      exact .failure _ _
  · by_cases two : second.result.recordable
    · simp only [one, two, if_true, Bool.false_eq_true, if_false]
      exact .failure _ _
    · simp only [one, two, Bool.false_eq_true, if_false]
      exact .failure _ _

/-- Setting permuted inputs with distinct identifiers resolves the same values. -/
theorem setInputs_perm {lefts rights : List (String × Value)} (perm : lefts.Perm rights)
    (distinct : (lefts.map Prod.fst).Nodup) :
    Agree SameContext (setInputs Evaluation.start lefts) (setInputs Evaluation.start rights) := by
  refine Agree.foldlM_perm SameContext (fun x y => x.1 ≠ y.1) (fun _ => rfl)
    (fun _ _ _ first second => first.trans second) ?respects (fun _ _ different => different.symm)
    ?swaps perm (List.pairwise_map.mp distinct) (rfl : SameContext Evaluation.start Evaluation.start)
  case respects =>
    intro left right input same
    exact addStep_same (same.set input.1 input.2) _ _ rfl
  case swaps =>
    intro state first second different
    exact recorded_swap state ⟨first.1, .input, .setInput, first.2⟩
      ⟨second.1, .input, .setInput, second.2⟩ different

/-- Validated entries carry the identifiers of their inputs in order. -/
theorem validated_sublist (risk : RiskInput) (inputs : List PricingInput)
    {entries : List (Option (String × Value))}
    (validated : inputs.mapM (validateEntry risk) = .ok entries) :
    ((entries.filterMap id).map Prod.fst).Sublist (inputs.map (·.id)) := by
  induction inputs generalizing entries with
  | nil =>
    cases validated
    exact List.Sublist.slnil
  | cons input rest ih =>
    rw [List.mapM_cons] at validated
    obtain ⟨entry, one, validated⟩ := bind_eq_ok validated
    obtain ⟨tail, others, validated⟩ := bind_eq_ok validated
    obtain ⟨value, -, found⟩ := bind_eq_ok one
    cases validated
    cases found
    cases value with
    | none => exact (ih others).cons _
    | some value => exact (ih others).cons_cons _

/-- Validated entries have distinct identifiers. -/
theorem validated_distinct {inputs : List PricingInput} (distinct : (inputs.map (·.id)).Nodup)
    {risk : RiskInput} {strict : Bool} {entries : List (String × Value)}
    (validated : validateRiskInputs inputs risk strict = .ok entries) :
    (entries.map Prod.fst).Nodup := by
  obtain ⟨optional, found, validated⟩ := bind_eq_ok validated
  split at validated
  · cases validated
  · cases validated
    exact (validated_sublist risk inputs found).nodup distinct

/-- Validation of permuted inputs gives permuted entries. -/
theorem validateRiskInputs_perm {lefts rights : List PricingInput} (perm : lefts.Perm rights)
    (risk : RiskInput) (strict : Bool) :
    Agree List.Perm (validateRiskInputs lefts risk strict)
      (validateRiskInputs rights risk strict) := by
  have extra : extraKeys lefts risk = extraKeys rights risk := by
    unfold extraKeys
    congr 1
    funext id
    rw [Bool.eq_iff_iff]
    simp only [Bool.not_eq_true', List.contains_eq_mem, decide_eq_false_iff_not,
      (perm.map (·.id)).mem_iff]
  unfold validateRiskInputs
  refine (Agree.mapM_perm perm).bind fun _ _ entries => ?_
  rw [extra]
  exact Agree.ite Iff.rfl (.failure _ _) (.success (entries.filterMap id))

/-- Setting permuted constants with distinct identifiers resolves the same values. -/
theorem setConstants_perm (date : Date) {lefts rights : List PricingConstant}
    (perm : lefts.Perm rights) (distinct : (lefts.map (·.id)).Nodup) {left right : Evaluation}
    (same : SameContext left right) :
    Agree SameContext (lefts.foldlM (setConstant date) left)
      (rights.foldlM (setConstant date) right) := by
  refine Agree.foldlM_perm SameContext (fun x y => x.id ≠ y.id) (fun _ => rfl)
    (fun _ _ _ first second => first.trans second) ?respects (fun _ _ different => different.symm)
    ?swaps perm (List.pairwise_map.mp distinct) same
  case respects =>
    intro left right constant same
    unfold setConstant
    exact Agree.ite Iff.rfl (addStep_same (same.set _ _) _ _ rfl) (.success same)
  case swaps =>
    intro state first second different
    unfold setConstant
    by_cases one : isActive first.effectivePeriod date
    · by_cases two : isActive second.effectivePeriod date
      · simp only [one, two, if_true]
        exact recorded_swap state
          ⟨first.id, .constant, .setConstant, .decimal first.value.toDecimal⟩
          ⟨second.id, .constant, .setConstant, .decimal second.value.toDecimal⟩
          different
      · simp only [one, two, if_true, Bool.false_eq_true, if_false]
        change Agree SameContext (_ >>= pure) _
        rw [bind_pure]
        exact Agree.refl (fun _ => (rfl : SameContext _ _)) _
    · simp only [one, Bool.false_eq_true, if_false]
      change Agree SameContext _ (_ >>= pure)
      rw [bind_pure]
      exact Agree.refl (fun _ => (rfl : SameContext _ _)) _

end RateGuard
