import RateGuard.Foundation.KeyedList
import RateGuard.Foundation.DecimalOrder
import RateGuard.Foundation.Outcome
import RateGuard.Portfolio.Analyzer

/-!
# Trace alignment

The comparison of two recorded traces, node by node. It walks over the expected steps only: a
step without a counterpart is passed over, and a step of the actual trace alone is never seen.
Numbers are compared in value; anything else by its text.
-/

open DecimalFloat Outcome

namespace RateGuard

/-- Text of a kind of traced node. -/
def TraceNodeType.text : TraceNodeType → String
  | input => "INPUT"
  | constant => "CONSTANT"
  | table => "TABLE"
  | rule => "RULE"
  | modifier => "MODIFIER"
  | constraint => "CONSTRAINT"
  | fee => "FEE"
  | calculation => "CALCULATION"
  | output => "OUTPUT"

/-- A divergence between an expected and an actual step. -/
structure TraceDifference where
  /-- Node that diverges. -/
  nodeId : String
  /-- Kind of the node. -/
  nodeType : String
  /-- Expected result. -/
  expectedValue : Value
  /-- Actual result. -/
  actualValue : Value
  /-- Magnitude of the difference of two numbers. -/
  absoluteDifference : Option Decimal
  /-- That magnitude in percent of an expected number other than zero. -/
  percentageDifference : Option Decimal
  /-- Position of the expected step, counted from one. -/
  sequencePosition : Nat
  deriving DecidableEq

/-- `_to_decimal_safe`: the decimal of a number; booleans are none. -/
def toDecimalSafe : Value → Option Decimal
  | .int value => some (.ofInt value)
  | .decimal value => some value
  | .str _ | .bool _ | .date _ => none

/-- Percentage of a difference, rounded to four places; there is none of zero. -/
def percentageDifference (expected magnitude : Decimal) : Except Signal (Option Decimal) := do
  if ← expected.eq (.ofInt 0) then return none
  else
    let ratio ← Decimal.div decimalContext magnitude expected
    let percentage ← Decimal.mul decimalContext ratio (.ofInt 100)
    return some (← percentage.quantize decimalContext (-4) .halfEven)

/-- Magnitude and percentage of the difference of two numbers. -/
def measureDifference (expected actual : Decimal) :
    Except Signal (Option Decimal × Option Decimal) := do
  let magnitude ← absolute (← Decimal.sub decimalContext expected actual)
  return (some magnitude, ← percentageDifference expected magnitude)

/-- Compares two results; different numbers are measured. -/
def compareResults (expected actual : Value) :
    Except Signal (Option (Option Decimal × Option Decimal)) :=
  match toDecimalSafe expected, toDecimalSafe actual with
  | some left, some right => do
    if ← left.eq right then return none
    else return some (← measureDifference left right)
  | _, _ => return if expected.toString = actual.toString then none else some (none, none)

/-- Compares an expected step with the last actual step of its node, if there is one. -/
def alignStep (actual : List TraceStep) (position : TraceStep × Nat) :
    Except Signal (Option TraceDifference) :=
  match KeyedList.lastWith (·.nodeId) actual position.1.nodeId with
  | none => return none
  | some step => do
    let compared ← compareResults position.1.result step.result
    return compared.map fun measured =>
      { nodeId := position.1.nodeId
        nodeType := position.1.nodeType.text
        expectedValue := position.1.result
        actualValue := step.result
        absoluteDifference := measured.1
        percentageDifference := measured.2
        sequencePosition := position.2 }

/-- `align_and_compare_traces`. -/
def alignAndCompareTraces (expected actual : List TraceStep) :
    Except Signal (List TraceDifference) := do
  let aligned ← (expected.zipIdx 1).mapM (alignStep actual)
  return aligned.filterMap id

/-- Equal results: one number, or one value that is no number. -/
def EqualResults (expected actual : Value) : Prop :=
  match toDecimalSafe expected, toDecimalSafe actual with
  | some left, some right => Decimal.Same left right
  | none, none => expected = actual
  | _, _ => False

/-- Results the comparison tells apart: different numbers, or else different texts. -/
def VisiblyDiffer (expected actual : Value) : Prop :=
  match toDecimalSafe expected, toDecimalSafe actual with
  | some left, some right => ¬Decimal.Same left right
  | _, _ => expected.toString ≠ actual.toString

/-- Different values with one text, not both numbers. -/
def ShareText (expected actual : Value) : Prop :=
  (toDecimalSafe expected = none ∨ toDecimalSafe actual = none) ∧
    expected.toString = actual.toString ∧ expected ≠ actual

/-- Whether the difference of two numbers, if they are numbers, can be measured without a signal
of the decimal arithmetic. -/
def Quantifiable (expected actual : Value) : Prop :=
  ∀ left right, toDecimalSafe expected = some left → toDecimalSafe actual = some right →
    (measureDifference left right).isOk = true

/-- Results are equal exactly when the comparison does not tell them apart and they do not share
a text. -/
theorem equalResults_iff (expected actual : Value) :
    EqualResults expected actual ↔
      ¬VisiblyDiffer expected actual ∧ ¬ShareText expected actual := by
  unfold EqualResults VisiblyDiffer ShareText
  cases left : toDecimalSafe expected with
  | none =>
    cases right : toDecimalSafe actual with
    | none =>
      constructor
      · rintro rfl
        exact ⟨fun differ => differ rfl, fun shared => shared.2.2 rfl⟩
      · rintro ⟨sameText, unshared⟩
        by_contra different
        exact unshared ⟨.inl rfl, not_not.mp sameText, different⟩
    | some other =>
      refine ⟨False.elim, fun ⟨sameText, unshared⟩ => unshared ⟨.inl rfl, not_not.mp sameText, ?_⟩⟩
      rintro rfl
      cases left.symm.trans right
  | some number =>
    cases right : toDecimalSafe actual with
    | none =>
      refine ⟨False.elim, fun ⟨sameText, unshared⟩ => unshared ⟨.inr rfl, not_not.mp sameText, ?_⟩⟩
      rintro rfl
      cases left.symm.trans right
    | some other =>
      constructor
      · intro same
        refine ⟨fun differ => differ same, ?_⟩
        rintro ⟨missing | missing, _⟩
        · cases missing
        · cases missing
      · intro held
        exact not_not.mp held.1

/-- A recordable number is finite. -/
theorem toDecimalSafe_finite {value : Value} (recordable : value.recordable = true)
    {number : Decimal} (found : toDecimalSafe value = some number) :
    ∃ finite : FiniteDecimal, finite.toDecimal = number := by
  cases value with
  | int value => exact ⟨⟨decide (value < 0), value.natAbs, 0⟩, Option.some.inj found⟩
  | decimal value =>
    cases value with
    | finite negative coefficient exponent =>
      exact ⟨⟨negative, coefficient, exponent⟩, Option.some.inj found⟩
    | infinity negative => cases recordable
    | nan signaling => cases recordable
  | str value => cases found
  | bool value => cases found
  | date value => cases found

/-- Finite numbers compare without a signal. -/
theorem finite_eq_of_not_same {left right : FiniteDecimal}
    (differ : ¬Decimal.Same left.toDecimal right.toDecimal) :
    left.toDecimal.eq right.toDecimal = .ok false := by
  cases compared : left.toDecimal.eq right.toDecimal with
  | error signal => cases compared
  | ok equal =>
    cases equal with
    | true => exact absurd ((finite_eq_iff left right).mp compared) differ
    | false => rfl

/-- Results the comparison does not tell apart compare as equal. -/
theorem compareResults_equal {expected actual : Value} (left : expected.recordable = true)
    (right : actual.recordable = true) (same : ¬VisiblyDiffer expected actual) :
    compareResults expected actual = .ok none := by
  unfold VisiblyDiffer at same
  unfold compareResults
  cases first : toDecimalSafe expected with
  | none =>
    rw [first] at same
    simp only [not_not] at same
    rw [if_pos same]
    rfl
  | some number =>
    cases second : toDecimalSafe actual with
    | none =>
      rw [first, second] at same
      simp only [not_not] at same
      rw [if_pos same]
      rfl
    | some other =>
      rw [first, second] at same
      simp only [not_not] at same
      obtain ⟨x, rfl⟩ := toDecimalSafe_finite left first
      obtain ⟨y, rfl⟩ := toDecimalSafe_finite right second
      have equal := (finite_eq_iff x y).mpr same
      dsimp only
      rw [equal]
      rfl

/-- Results it tells apart compare as different, if their difference can be measured. -/
theorem compareResults_differ {expected actual : Value} (left : expected.recordable = true)
    (right : actual.recordable = true) (differ : VisiblyDiffer expected actual) :
    (Quantifiable expected actual ∧
      ∃ measured, compareResults expected actual = .ok (some measured)) ∨
    (¬Quantifiable expected actual ∧ ∃ signal, compareResults expected actual = .error signal) := by
  unfold VisiblyDiffer at differ
  unfold compareResults Quantifiable
  cases first : toDecimalSafe expected with
  | none =>
    rw [first] at differ
    exact .inl ⟨fun _ _ missing => (by cases missing), _, congrArg _ (if_neg differ)⟩
  | some number =>
    cases second : toDecimalSafe actual with
    | none =>
      rw [first, second] at differ
      exact .inl ⟨fun _ _ _ missing => (by cases missing), _, congrArg _ (if_neg differ)⟩
    | some other =>
      rw [first, second] at differ
      obtain ⟨x, rfl⟩ := toDecimalSafe_finite left first
      obtain ⟨y, rfl⟩ := toDecimalSafe_finite right second
      have different := finite_eq_of_not_same differ
      dsimp only
      rw [different]
      cases measured : measureDifference x.toDecimal y.toDecimal with
      | ok result =>
        refine .inl ⟨fun one two isOne isTwo => ?_, result, ?_⟩
        · rw [← Option.some.inj isOne, ← Option.some.inj isTwo, measured]
          rfl
        · rfl
      | error signal =>
        refine .inr ⟨fun fits => ?_, signal, rfl⟩
        have fit := fits x.toDecimal y.toDecimal rfl rfl
        rw [measured] at fit
        cases fit

/-- Two traces of results inside the schema, the second naming each node at most once. -/
structure Alignable (expected actual : List TraceStep) : Prop where
  /-- Expected results. -/
  expectedRecordable : ∀ step ∈ expected, step.result.recordable = true
  /-- Actual results. -/
  actualRecordable : ∀ step ∈ actual, step.result.recordable = true
  /-- Actual nodes. -/
  distinct : (actual.map (·.nodeId)).Nodup

/-- A step without a counterpart is passed over. -/
theorem alignStep_alone {actual : List TraceStep} {position : TraceStep × Nat}
    (alone : ∀ step ∈ actual, position.1.nodeId ≠ step.nodeId) :
    alignStep actual position = .ok none := by
  unfold alignStep
  rw [KeyedList.lastWith_eq_none.mpr]
  · rfl
  · intro found
    obtain ⟨step, member, same⟩ := List.mem_map.mp found
    exact alone step member same.symm

/-- A step with a counterpart is aligned as their results compare. -/
theorem alignStep_paired {actual : List TraceStep} (distinct : (actual.map (·.nodeId)).Nodup)
    {position : TraceStep × Nat} {step : TraceStep} (member : step ∈ actual)
    (same : position.1.nodeId = step.nodeId) :
    (compareResults position.1.result step.result = .ok none →
      alignStep actual position = .ok none) ∧
    (∀ measured, compareResults position.1.result step.result = .ok (some measured) →
      ∃ difference, alignStep actual position = .ok (some difference)) ∧
    (∀ signal, compareResults position.1.result step.result = .error signal →
      alignStep actual position = .error signal) := by
  have found := KeyedList.lastWith_of_mem distinct member
  unfold alignStep
  rw [same, found]
  dsimp only
  refine ⟨fun compared => ?_, fun measured compared => ?_, fun signal compared => ?_⟩
  · rw [compared]
    rfl
  · rw [compared]
    exact ⟨_, rfl⟩
  · rw [compared]
    rfl

/-- The one counterpart of a step, if it has any. -/
theorem counterpart_or_alone (actual : List TraceStep) (nodeId : String) :
    (∃ step ∈ actual, nodeId = step.nodeId) ∨ ∀ step ∈ actual, nodeId ≠ step.nodeId := by
  by_cases paired : ∃ step ∈ actual, nodeId = step.nodeId
  · exact .inl paired
  · refine .inr fun step member same => paired ⟨step, member, same⟩

/-- What aligning one step finds. -/
theorem alignStep_iff {expected actual : List TraceStep} (alignable : Alignable expected actual)
    {position : TraceStep × Nat} (listed : position.1 ∈ expected) :
    (alignStep actual position = .ok none ↔ ∀ step ∈ actual, position.1.nodeId = step.nodeId →
      ¬VisiblyDiffer position.1.result step.result) ∧
    ((alignStep actual position).isOk = true ↔ ∀ step ∈ actual,
      position.1.nodeId = step.nodeId → VisiblyDiffer position.1.result step.result →
      Quantifiable position.1.result step.result) := by
  rcases counterpart_or_alone actual position.1.nodeId with ⟨step, member, same⟩ | alone
  · have only : ∀ other ∈ actual, position.1.nodeId = other.nodeId → other = step :=
      fun other inside named => KeyedList.eq_of_key alignable.distinct inside member
        (named.symm.trans same)
    obtain ⟨equal, differs, signals⟩ := alignStep_paired alignable.distinct member same
    have left := alignable.expectedRecordable _ listed
    have right := alignable.actualRecordable _ member
    by_cases visible : VisiblyDiffer position.1.result step.result
    · rcases compareResults_differ left right visible with
        ⟨measurable, measured, compared⟩ | ⟨unmeasurable, signal, compared⟩
      · obtain ⟨difference, aligned⟩ := differs measured compared
        rw [aligned]
        refine ⟨⟨fun none => (by cases none), fun unseen => absurd visible (unseen _ member same)⟩,
          fun _ other inside named _ => ?_, fun _ => rfl⟩
        rw [only other inside named]
        exact measurable
      · rw [signals signal compared]
        refine ⟨⟨fun none => (by cases none), fun unseen => absurd visible (unseen _ member same)⟩,
          fun succeeds => (by cases succeeds), fun measures => ?_⟩
        exact absurd (measures _ member same visible) unmeasurable
    · rw [equal (compareResults_equal left right visible)]
      refine ⟨⟨fun _ other inside named => ?_, fun _ => rfl⟩,
        fun _ other inside named seen => ?_, fun _ => rfl⟩
      · rw [only other inside named]
        exact visible
      · rw [only other inside named] at seen
        exact absurd seen visible
  · rw [alignStep_alone alone]
    exact ⟨⟨fun _ other inside named => absurd named (alone other inside), fun _ => rfl⟩,
      fun _ other inside named => absurd named (alone other inside), fun _ => rfl⟩

/-- Positions of a trace are its steps. -/
theorem zipIdx_steps {expected : List TraceStep} {holds : TraceStep → Prop} :
    (∀ position ∈ expected.zipIdx 1, holds position.1) ↔ ∀ step ∈ expected, holds step := by
  constructor
  · intro positions step member
    rw [← List.zipIdx_map_fst 1 expected] at member
    obtain ⟨position, inside, rfl⟩ := List.mem_map.mp member
    exact positions position inside
  · intro steps position member
    refine steps position.1 ?_
    rw [← List.zipIdx_map_fst 1 expected]
    exact List.mem_map_of_mem member

/-- The alignment finds nothing exactly when no results of one node visibly differ. -/
theorem alignAndCompareTraces_empty_iff {expected actual : List TraceStep}
    (alignable : Alignable expected actual) :
    alignAndCompareTraces expected actual = .ok [] ↔
      ∀ step ∈ expected, ∀ other ∈ actual, step.nodeId = other.nodeId →
        ¬VisiblyDiffer step.result other.result := by
  have listed : ∀ position ∈ expected.zipIdx 1, position.1 ∈ expected :=
    zipIdx_steps.mpr fun _ member => member
  rw [← zipIdx_steps]
  unfold alignAndCompareTraces
  constructor
  · intro empty position member
    obtain ⟨aligned, found, filtered⟩ := bind_eq_ok empty
    have none_left := Except.ok.inj filtered
    obtain ⟨result, inside, one⟩ := mapM_step found member
    refine ((alignStep_iff alignable (listed position member)).1).mp ?_
    rw [one]
    cases result with
    | none => rfl
    | some difference =>
      have kept : difference ∈ aligned.filterMap id :=
        List.mem_filterMap.mpr ⟨some difference, inside, rfl⟩
      rw [none_left] at kept
      cases kept
  · intro unseen
    have nothing : ∀ position ∈ expected.zipIdx 1, alignStep actual position = .ok none :=
      fun position member =>
        ((alignStep_iff alignable (listed position member)).1).mpr (unseen position member)
    have succeeds : ((expected.zipIdx 1).mapM (alignStep actual)).isOk = true :=
      mapM_isOk_iff.mpr fun position member => by rw [nothing position member]; rfl
    obtain ⟨aligned, found⟩ := exists_of_isOk succeeds
    rw [found]
    refine congrArg Except.ok (List.filterMap_eq_nil_iff.mpr fun result inside => ?_)
    obtain ⟨position, member, one⟩ := mapM_source found inside
    rw [nothing position member] at one
    exact (Except.ok.inj one).symm

/-- The alignment returns exactly when the visible differences of one node can be measured. -/
theorem alignAndCompareTraces_isOk_iff {expected actual : List TraceStep}
    (alignable : Alignable expected actual) :
    (alignAndCompareTraces expected actual).isOk = true ↔
      ∀ step ∈ expected, ∀ other ∈ actual, step.nodeId = other.nodeId →
        VisiblyDiffer step.result other.result → Quantifiable step.result other.result := by
  have listed : ∀ position ∈ expected.zipIdx 1, position.1 ∈ expected :=
    zipIdx_steps.mpr fun _ member => member
  have traversed : (alignAndCompareTraces expected actual).isOk =
      ((expected.zipIdx 1).mapM (alignStep actual)).isOk := by
    unfold alignAndCompareTraces
    cases (expected.zipIdx 1).mapM (alignStep actual) with
    | ok aligned => rfl
    | error signal => rfl
  rw [traversed, mapM_isOk_iff, ← zipIdx_steps]
  exact forall₂_congr fun position member => (alignStep_iff alignable (listed position member)).2

end RateGuard
