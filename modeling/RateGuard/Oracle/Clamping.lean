import RateGuard.Foundation.Clamp
import RateGuard.Foundation.DecimalLine
import RateGuard.Foundation.Outcome
import RateGuard.Oracle.Evaluator

/-!
# Premium constraints clamp

The constraint loop of a calculation read on the decimal line: every constraint is a one-sided
bound at the place of its amount, and the loop enforces the bounds one after another.
-/

open DecimalFloat Clamp

namespace RateGuard

/-- Limit of a constraint on the decimal line. -/
def PremiumConstraint.bound (constraint : PremiumConstraint) : Limit Line :=
  match constraint.constraintType with
  | .minimum => .low constraint.amount.toDecimal.place
  | .maximum => .high constraint.amount.toDecimal.place

/-- Bounds of some constraints. -/
def constraintBounds (constraints : List PremiumConstraint) : List (Limit Line) :=
  constraints.map PremiumConstraint.bound

/-- Largest of the minimum amounts; the start of the line when there are none. -/
def largestMinimum (constraints : List PremiumConstraint) : Line :=
  largest (lows (constraintBounds constraints))

/-- Smallest of the maximum amounts; the end of the line when there are none. -/
def smallestMaximum (constraints : List PremiumConstraint) : Line :=
  smallest (highs (constraintBounds constraints))

/-- Whether a value satisfies a constraint. -/
def PremiumConstraint.Satisfied (constraint : PremiumConstraint) (value : Decimal) : Prop :=
  constraint.bound.Holds value.place

/-- Constraining a defined value enforces the bound on its place. -/
theorem constrain_place {value : Decimal} (defined : value.Defined)
    (constraint : PremiumConstraint) :
    ∃ next, constrain constraint.constraintType value constraint.amount.toDecimal = .ok next ∧
      next.Defined ∧ next.place = constraint.bound.enforce value.place ∧
      (next = value ∨ next = constraint.amount.toDecimal) := by
  have amountDefined := constraint.amount.defined
  unfold PremiumConstraint.bound
  cases constraint.constraintType with
  | minimum =>
    have compared := lt_eq_place defined amountDefined
    by_cases above : value.place < constraint.amount.toDecimal.place
    · refine ⟨constraint.amount.toDecimal, ?_, amountDefined, ?_, .inr rfl⟩
      · simp [constrain, maxDecimal, compared, above, pure, Except.pure, bind, Except.bind]
      · exact (max_eq_right above.le).symm
    · refine ⟨value, ?_, defined, ?_, .inl rfl⟩
      · simp [constrain, maxDecimal, compared, above, pure, Except.pure, bind, Except.bind]
      · exact (max_eq_left (not_lt.mp above)).symm
  | maximum =>
    have compared := lt_eq_place amountDefined defined
    by_cases below : constraint.amount.toDecimal.place < value.place
    · refine ⟨constraint.amount.toDecimal, ?_, amountDefined, ?_, .inr rfl⟩
      · simp [constrain, minDecimal, compared, below, pure, Except.pure, bind, Except.bind]
      · exact (min_eq_right below.le).symm
    · refine ⟨value, ?_, defined, ?_, .inl rfl⟩
      · simp [constrain, minDecimal, compared, below, pure, Except.pure, bind, Except.bind]
      · exact (min_eq_left (not_lt.mp below)).symm

/-- An enforced constraint leaves the bounded value, recorded as a number. -/
theorem applyConstraint_place {state : Evaluation} {value : Decimal}
    {constraint : PremiumConstraint} {settled : Evaluation × Decimal} (defined : value.Defined)
    (applied : applyConstraint (state, value) constraint = .ok settled) :
    settled.2.Defined ∧ settled.2.place = constraint.bound.enforce value.place := by
  obtain ⟨next, constrained, nextDefined, place, _⟩ := constrain_place defined constraint
  obtain ⟨found, same, rest⟩ := Outcome.bind_eq_ok applied
  rw [constrained] at same
  cases same
  obtain ⟨recorded, _, returned⟩ := Outcome.bind_eq_ok rest
  cases returned
  exact ⟨nextDefined, place⟩

/-- A finite value is constrained to a finite one. -/
theorem applyConstraint_isOk (state : Evaluation) {value : Decimal}
    (finite : (Value.decimal value).recordable = true) (constraint : PremiumConstraint) :
    ∃ settled, applyConstraint (state, value) constraint = .ok settled ∧
      (Value.decimal settled.2).recordable = true := by
  have defined : value.Defined := by
    intro signaling undefined
    rw [undefined] at finite
    cases finite
  obtain ⟨next, constrained, _, _, origin⟩ := constrain_place defined constraint
  have nextFinite : (Value.decimal next).recordable = true := by
    cases origin with
    | inl kept => rw [kept]; exact finite
    | inr bound => rw [bound]; rfl
  let step : TraceStep := ⟨constraint.id, .constraint,
    .enforceConstraint constraint.constraintType, .decimal next⟩
  have recorded : state.addStep step = .ok { state with trace := state.trace ++ [step] } :=
    addStep_recordable state step nextFinite
  refine ⟨({ state with trace := state.trace ++ [step] }, next), ?_, nextFinite⟩
  simp only [applyConstraint, constrained, raising, bind, Except.bind]
  rw [recorded]
  rfl

/-- The constraint loop of a defined value enforces its bounds in order. -/
theorem foldlM_applyConstraint {constraints : List PremiumConstraint} {state : Evaluation}
    {value : Decimal} {settled : Evaluation × Decimal} (defined : value.Defined)
    (applied : constraints.foldlM applyConstraint (state, value) = .ok settled) :
    settled.2.Defined ∧
      settled.2.place = (constraintBounds constraints).foldl Limit.enforce value.place := by
  induction constraints generalizing state value with
  | nil =>
    cases applied
    exact ⟨defined, rfl⟩
  | cons constraint rest ih =>
    rw [List.foldlM_cons] at applied
    obtain ⟨⟨next, after⟩, first, later⟩ := Outcome.bind_eq_ok applied
    obtain ⟨nextDefined, place⟩ := applyConstraint_place defined first
    obtain ⟨settledDefined, settledPlace⟩ := ih nextDefined later
    refine ⟨settledDefined, ?_⟩
    rw [settledPlace, place]
    rfl

/-- The constraint loop of a finite value ends. -/
theorem foldlM_applyConstraint_isOk (constraints : List PremiumConstraint) (state : Evaluation)
    {value : Decimal} (finite : (Value.decimal value).recordable = true) :
    ∃ settled, constraints.foldlM applyConstraint (state, value) = .ok settled ∧
      (Value.decimal settled.2).recordable = true := by
  induction constraints generalizing state value with
  | nil => exact ⟨(state, value), rfl, finite⟩
  | cons constraint rest ih =>
    obtain ⟨⟨next, after⟩, first, nextFinite⟩ := applyConstraint_isOk state finite constraint
    obtain ⟨settled, later, settledFinite⟩ := ih next nextFinite
    refine ⟨settled, ?_, settledFinite⟩
    rw [List.foldlM_cons, first]
    exact later

/-- An undefined value fails at its first constraint. -/
theorem applyConstraint_nan (state : Evaluation) (signaling : Bool)
    (constraint : PremiumConstraint) :
    (applyConstraint (state, .nan signaling) constraint).isOk = false := by
  obtain ⟨id, kind, amount, target, sequence, period⟩ := constraint
  cases kind <;> cases signaling <;> rfl

/-- Reordered constraints have reordered bounds. -/
theorem constraintBounds_perm {left right : List PremiumConstraint} (same : left.Perm right) :
    (constraintBounds left).Perm (constraintBounds right) := same.map _

/-- Constraints whose largest minimum is at most the smallest maximum clamp every value,
whatever their sequence: the loop leaves the value between the two and within every
constraint, and a finite value never fails. -/
theorem constraints_clamp (constraints order : List PremiumConstraint)
    (ordered : largestMinimum constraints ≤ smallestMaximum constraints)
    (sequence : order.Perm constraints) (state : Evaluation) (value : Decimal) :
    (∀ settled, order.foldlM applyConstraint (state, value) = .ok settled →
      (settled.2.Defined ↔ value.Defined) ∧
      settled.2.place = max (largestMinimum constraints)
        (min value.place (smallestMaximum constraints)) ∧
      ∀ constraint ∈ constraints, constraint.Satisfied settled.2) ∧
    ((Value.decimal value).recordable = true →
      (order.foldlM applyConstraint (state, value)).isOk = true) := by
  have compatible : Compatible (constraintBounds constraints) := compatible_of_largest_le ordered
  have bounds := constraintBounds_perm sequence
  constructor
  · intro settled applied
    by_cases defined : value.Defined
    · obtain ⟨settledDefined, enforced⟩ := foldlM_applyConstraint defined applied
      have clamped : settled.2.place = clamp (constraintBounds constraints) value.place := by
        rw [enforced, foldl_enforce _ (compatible.perm bounds.symm), clamp_perm bounds]
      refine ⟨iff_of_true settledDefined defined, clamped, ?_⟩
      intro constraint mem
      unfold PremiumConstraint.Satisfied
      rw [clamped]
      exact clamp_holds compatible value.place _ (List.mem_map_of_mem mem)
    · -- An undefined value only passes an empty loop.
      cases value with
      | finite negative coefficient exponent =>
        exact absurd (fun _ same => Decimal.noConfusion same) defined
      | infinity negative => exact absurd (fun _ same => Decimal.noConfusion same) defined
      | nan signaling =>
        cases order with
        | nil =>
          have none : constraints = [] := sequence.nil_eq.symm
          subst none
          cases applied
          refine ⟨Iff.rfl, ?_, ?_⟩
          · exact (max_eq_right bot_le).symm.trans (congrArg _ (min_eq_left le_top).symm)
          · intro constraint mem
            exact absurd mem List.not_mem_nil
        | cons constraint rest =>
          rw [List.foldlM_cons] at applied
          obtain ⟨next, first, _⟩ := Outcome.bind_eq_ok applied
          have fails := applyConstraint_nan state signaling constraint
          rw [first] at fails
          cases fails
  · intro finite
    obtain ⟨settled, applied, _⟩ := foldlM_applyConstraint_isOk order state finite
    rw [applied]
    rfl

/-- Sample minimum of 250 applied second. -/
def sampleFloor : PremiumConstraint where
  id := "floor"
  constraintType := .minimum
  amount := ⟨false, 250, 0⟩
  appliesTo := "total"
  sequence := some 2
  effectivePeriod := none

/-- Sample maximum of 900 applied first. -/
def sampleCeiling : PremiumConstraint where
  id := "ceiling"
  constraintType := .maximum
  amount := ⟨false, 900, 0⟩
  appliesTo := "total"
  sequence := some 1
  effectivePeriod := none

/-- A value above both sample constraints passes the loop in sequence order. -/
theorem constraints_clamp_sample :
    ([sampleCeiling, sampleFloor].foldlM applyConstraint
      (Evaluation.start, .finite false 1200 0)).isOk = true := by
  have ordered : largestMinimum [sampleFloor, sampleCeiling] ≤
      smallestMaximum [sampleFloor, sampleCeiling] := by
    change max (Decimal.place (.finite false 250 0)) ⊥ ≤
      min (Decimal.place (.finite false 900 0)) ⊤
    rw [max_eq_left bot_le, min_eq_left le_top]
    simp only [Decimal.place, WithBot.coe_le_coe, WithTop.coe_le_coe, rational, signed]
    norm_num
  exact (constraints_clamp [sampleFloor, sampleCeiling] [sampleCeiling, sampleFloor] ordered
    (List.Perm.swap _ _ _) Evaluation.start (.finite false 1200 0)).2 rfl

end RateGuard
