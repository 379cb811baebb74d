import RateGuard.Foundation.DecimalExact
import RateGuard.Portfolio.Soundness
import RateGuard.Reconciliation.Comparator

/-!
# Totals of a portfolio

The analysis adds up the affected policies in the order in which they are visited. Counts and the
largest variance are those of the list of variances and do not depend on the order. The amounts are
rounded to the context; where the premiums are few enough units of one power of ten nothing is
rounded, and the totals are the sums of integers.
-/

open DecimalFloat TopologicalSort Outcome

namespace RateGuard

section Variances

variable (sorter : Sorter String) (canonical target : PackageContent)

/-- Repriced premiums of a policy that is financially affected. -/
def affectedRepricing (policy : SyntheticPolicy) : Option Repricing :=
  (repricePolicy sorter canonical target policy).toOption.filter fun repriced =>
    !repriced.premiumMatches

/-- Signed variance of a policy that is financially affected, as it is computed. -/
def affectedVariance (policy : SyntheticPolicy) : Option Decimal :=
  (affectedRepricing sorter canonical target policy).bind fun repriced =>
    (Decimal.sub decimalContext repriced.actual repriced.expected).toOption

end Variances

/-- A magnitude of a finite variance has the absolute amount. -/
theorem absolute_amount {left right variance magnitude : Decimal} (leftFinite : left.Finite)
    (rightFinite : right.Finite) (subtracted : Decimal.sub decimalContext left right = .ok variance)
    (taken : absolute variance = .ok magnitude) :
    variance.Finite ∧ magnitude.Finite ∧ magnitude.amount = |variance.amount| := by
  obtain ⟨sign, coefficient, exponent, rfl, fits⟩ := sub_finite leftFinite rightFinite subtracted
  exact ⟨trivial, fit_again fits taken⟩

/-- Comparison of a finite decimal with zero. -/
theorem lt_zero_amount {value : Decimal} (finite : value.Finite) :
    value.lt (.ofInt 0) = .ok (decide (value.amount < 0)) ∧
      Decimal.lt (.ofInt 0) value = .ok (decide (0 < value.amount)) := by
  have zero : (Decimal.ofInt 0).amount = 0 := by
    simp [Decimal.ofInt, Decimal.amount, rational]
  have here : (Decimal.ofInt 0).Finite := trivial
  rw [lt_eq_amount finite here, lt_eq_amount here finite, zero]
  exact ⟨rfl, rfl⟩

/-- What adding an affected policy does to the counts and to the largest variance. -/
structure Added (exposure : Exposure) (policyId : String) (variance : Decimal)
    (next : Exposure) : Prop where
  /-- The policy is listed. -/
  affected : next.affected = exposure.affected ++ [policyId]
  /-- The largest magnitude is kept. -/
  largest : exposure.maxSingle.Finite → next.maxSingle.Finite ∧
    next.maxSingle.amount = max exposure.maxSingle.amount |variance.amount|
  /-- A negative variance is an undercharge. -/
  under : next.underchargedCount =
    exposure.underchargedCount + if variance.amount < 0 then 1 else 0
  /-- A positive variance is an overcharge. -/
  above : next.overchargedCount =
    exposure.overchargedCount + if 0 < variance.amount then 1 else 0

/-- What an addition that succeeds has done. -/
theorem add_eq_ok {exposure next : Exposure} {policyId : String} {repriced : Repricing}
    (expected : repriced.expected.Finite) (actual : repriced.actual.Finite)
    (added : exposure.add policyId repriced = .ok next) :
    ∃ variance, Decimal.sub decimalContext repriced.actual repriced.expected = .ok variance ∧
      variance.Finite ∧ Added exposure policyId variance next := by
  obtain ⟨totalExpected, -, added⟩ := bind_eq_ok added
  obtain ⟨totalTarget, -, added⟩ := bind_eq_ok added
  obtain ⟨variance, subtracted, added⟩ := bind_eq_ok added
  obtain ⟨magnitude, taken, added⟩ := bind_eq_ok added
  obtain ⟨totalSigned, -, added⟩ := bind_eq_ok added
  obtain ⟨totalAbsolute, -, added⟩ := bind_eq_ok added
  obtain ⟨finite, sized, amount⟩ := absolute_amount actual expected subtracted taken
  obtain ⟨below, above⟩ := lt_zero_amount finite
  refine ⟨variance, subtracted, finite, ?_⟩
  obtain ⟨larger, compared, added⟩ := bind_eq_ok added
  -- The larger of two finite magnitudes is kept.
  have kept : exposure.maxSingle.Finite →
      (if larger then magnitude else exposure.maxSingle).Finite ∧
        (if larger then magnitude else exposure.maxSingle).amount =
          max exposure.maxSingle.amount |variance.amount| := by
    intro before
    rw [lt_eq_amount before sized] at compared
    cases compared
    rw [← amount]
    by_cases grows : exposure.maxSingle.amount < magnitude.amount
    · rw [decide_eq_true grows, if_pos rfl]
      exact ⟨sized, (max_eq_right grows.le).symm⟩
    · rw [decide_eq_false grows, if_neg Bool.false_ne_true]
      exact ⟨before, (max_eq_left (not_lt.mp grows)).symm⟩
  obtain ⟨under, decided, added⟩ := bind_eq_ok added
  rw [below] at decided
  cases decided
  by_cases negative : variance.amount < 0
  · rw [decide_eq_true negative, if_pos rfl] at added
    obtain ⟨total, -, added⟩ := bind_eq_ok added
    cases added
    refine ⟨rfl, kept, ?_, ?_⟩
    · rw [if_pos negative]
    · rw [if_neg (not_lt.mpr negative.le)]
      rfl
  · rw [decide_eq_false negative, if_neg Bool.false_ne_true] at added
    obtain ⟨higher, decided, added⟩ := bind_eq_ok added
    rw [above] at decided
    cases decided
    by_cases positive : 0 < variance.amount
    · rw [decide_eq_true positive, if_pos rfl] at added
      obtain ⟨total, -, added⟩ := bind_eq_ok added
      cases added
      refine ⟨rfl, kept, ?_, ?_⟩
      · rw [if_neg negative]
        rfl
      · rw [if_pos positive]
    · rw [decide_eq_false positive, if_neg Bool.false_ne_true] at added
      cases added
      refine ⟨rfl, kept, ?_, ?_⟩
      · rw [if_neg negative]
        rfl
      · rw [if_neg positive]
        rfl

section Counts

variable {sorter : Sorter String} {canonical target : PackageContent}

/-- Repriced premiums are finite, and match where they are equal. -/
theorem repricePolicy_finite {policy : SyntheticPolicy} {repriced : Repricing}
    (priced : repricePolicy sorter canonical target policy = .ok repriced) :
    repriced.expected.Finite ∧ repriced.actual.Finite ∧
      repriced.expected.eq repriced.actual = .ok repriced.premiumMatches := by
  have finite : ∀ {value : Decimal}, (Value.decimal value).recordable = true → value.Finite := by
    intro value recordable
    cases value with
    | finite sign coefficient exponent => trivial
    | infinity sign => cases recordable
    | nan signaling => cases recordable
  obtain ⟨expected, one, priced⟩ := bind_eq_ok priced
  obtain ⟨actual, two, priced⟩ := bind_eq_ok priced
  have matched := reconcile_matches priced
  cases computed : reconcile expected.finalPremium actual.finalPremium with
  | error signal =>
    rw [computed] at priced
    cases priced
  | ok other =>
    rw [computed] at priced
    cases priced
    obtain ⟨_, -, computed⟩ := bind_eq_ok computed
    obtain ⟨_, -, computed⟩ := bind_eq_ok computed
    obtain ⟨_, -, computed⟩ := bind_eq_ok computed
    obtain ⟨_, -, computed⟩ := bind_eq_ok computed
    obtain ⟨_, -, computed⟩ := bind_eq_ok computed
    cases computed
    exact ⟨finite (finalPremium_finite one), finite (finalPremium_finite two), matched⟩

/-- Variances of the affected ones among some policies. -/
def variances (sorter : Sorter String) (canonical target : PackageContent)
    (policies : List SyntheticPolicy) : List Decimal :=
  policies.filterMap (affectedVariance sorter canonical target)

/-- Largest magnitude of some variances. -/
def largestVariance (values : List Decimal) : ℚ := (values.map fun value => |value.amount|).foldl max 0

/-- Whether counts and largest variance are those of some policies. -/
structure Exposure.Reads (sorter : Sorter String) (canonical target : PackageContent)
    (policies : List SyntheticPolicy) (exposure : Exposure) : Prop where
  /-- Affected policies are listed. -/
  affected : exposure.affected = (policies.filter fun policy =>
    (affectedVariance sorter canonical target policy).isSome).map (·.policyId)
  /-- Negative variances are counted. -/
  under : exposure.underchargedCount =
    (variances sorter canonical target policies).countP fun value => value.amount < 0
  /-- Positive variances are counted. -/
  above : exposure.overchargedCount =
    (variances sorter canonical target policies).countP fun value => 0 < value.amount
  /-- The largest variance is finite. -/
  finite : exposure.maxSingle.Finite
  /-- It is the largest one. -/
  largest : exposure.maxSingle.amount =
    largestVariance (variances sorter canonical target policies)

/-- Before the first policy nothing is counted. -/
theorem reads_nil : Exposure.zero.Reads sorter canonical target [] where
  affected := rfl
  under := rfl
  above := rfl
  finite := trivial
  largest := by simp [Exposure.zero, zeroCents, Decimal.amount, rational, largestVariance, variances]

/-- A policy that is exposed is counted by its variance. -/
theorem reads_step {policies : List SyntheticPolicy} {exposure next : Exposure}
    {policy : SyntheticPolicy} (reads : exposure.Reads sorter canonical target policies)
    (exposed : exposePolicy sorter canonical target exposure policy = .ok next) :
    next.Reads sorter canonical target (policies ++ [policy]) := by
  obtain ⟨repriced, priced, exposed⟩ := bind_eq_ok exposed
  obtain ⟨expected, actual, -⟩ := repricePolicy_finite priced
  have own : affectedRepricing sorter canonical target policy =
      (some repriced).filter fun repriced => !repriced.premiumMatches := by
    rw [affectedRepricing, priced]
    rfl
  cases alike : repriced.premiumMatches with
  | true =>
    rw [alike] at exposed
    cases exposed
    have none : affectedVariance sorter canonical target policy = none := by
      rw [affectedVariance, own]
      simp [alike]
    have same : variances sorter canonical target (policies ++ [policy]) =
        variances sorter canonical target policies := by
      simp [variances, none]
    refine ⟨?_, ?_, ?_, reads.finite, ?_⟩
    · rw [reads.affected, List.filter_append]
      simp [none]
    · rw [same, reads.under]
    · rw [same, reads.above]
    · rw [same, reads.largest]
  | false =>
    rw [alike] at exposed
    cases added : exposure.add policy.policyId repriced with
    | error signal =>
      rw [added] at exposed
      cases exposed
    | ok other =>
      rw [added] at exposed
      cases exposed
      obtain ⟨variance, subtracted, finite, added⟩ := add_eq_ok expected actual added
      have differs : affectedRepricing sorter canonical target policy = some repriced := by
        rw [own]
        simp [alike]
      have found : affectedVariance sorter canonical target policy = some variance := by
        rw [affectedVariance, differs]
        show (Decimal.sub decimalContext repriced.actual repriced.expected).toOption = _
        rw [subtracted]
        rfl
      have grown : variances sorter canonical target (policies ++ [policy]) =
          variances sorter canonical target policies ++ [variance] := by
        simp [variances, found]
      obtain ⟨size, largest⟩ := added.largest reads.finite
      refine ⟨?_, ?_, ?_, size, ?_⟩
      · rw [added.affected, reads.affected, List.filter_append]
        simp [found]
      · rw [added.under, grown, List.countP_append, reads.under]
        simp [List.countP_singleton]
      · rw [added.above, grown, List.countP_append, reads.above]
        simp [List.countP_singleton]
      · rw [largest, grown, reads.largest, largestVariance, largestVariance, List.map_append,
          List.foldl_append]
        rfl

/-- The sums over a list of policies read the list. -/
theorem reprice_reads {policies : List SyntheticPolicy} {exposure : Exposure}
    (summed : reprice sorter canonical target policies = .ok exposure) :
    exposure.Reads sorter canonical target policies := by
  induction policies using List.reverseRecOn generalizing exposure with
  | nil =>
    cases summed
    exact reads_nil
  | append_singleton policies policy ih =>
    unfold reprice at summed
    rw [List.foldlM_append] at summed
    obtain ⟨before, earlier, last⟩ := bind_eq_ok summed
    obtain ⟨next, exposed, last⟩ := bind_eq_ok last
    cases last
    exact reads_step (ih earlier) exposed

/-- Policies that are summed up were all repriced. -/
theorem reprice_priced {policies : List SyntheticPolicy} {start exposure : Exposure}
    (summed : policies.foldlM (exposePolicy sorter canonical target) start = .ok exposure) :
    ∀ policy ∈ policies, ∃ repriced,
      repricePolicy sorter canonical target policy = .ok repriced := by
  induction policies generalizing start with
  | nil => exact List.forall_mem_nil _
  | cons policy rest ih =>
    rw [List.foldlM_cons] at summed
    obtain ⟨next, exposed, summed⟩ := bind_eq_ok summed
    obtain ⟨repriced, priced, -⟩ := bind_eq_ok exposed
    exact List.forall_mem_cons.mpr ⟨⟨repriced, priced⟩, ih summed⟩

/-- The affected policies are those with a variance. -/
theorem Exposure.Reads.affected_length {policies : List SyntheticPolicy} {exposure : Exposure}
    (reads : exposure.Reads sorter canonical target policies) :
    exposure.affected.length = (variances sorter canonical target policies).length := by
  rw [reads.affected, List.length_map, variances, List.length_filterMap_eq_countP,
    List.countP_eq_length_filter]

/-- No more policies are over- or undercharged than are affected. -/
theorem Exposure.Reads.counts_le {policies : List SyntheticPolicy} {exposure : Exposure}
    (reads : exposure.Reads sorter canonical target policies) :
    exposure.overchargedCount + exposure.underchargedCount ≤ exposure.affected.length := by
  rw [reads.affected_length, reads.above, reads.under,
    List.length_eq_countP_add_countP fun value : Decimal => decide (value.amount < 0), add_comm]
  refine Nat.add_le_add_left (List.countP_mono_left fun value _ positive => ?_) _
  have above : 0 < value.amount := of_decide_eq_true positive
  simp only [decide_eq_true_eq, not_lt]
  simpa using above.le

/-- Where no variance is zero every affected policy is over- or undercharged. -/
theorem Exposure.Reads.counts_eq {policies : List SyntheticPolicy} {exposure : Exposure}
    (reads : exposure.Reads sorter canonical target policies)
    (nonzero : ∀ value ∈ variances sorter canonical target policies, value.amount ≠ 0) :
    exposure.affected.length = exposure.overchargedCount + exposure.underchargedCount := by
  rw [reads.affected_length, reads.above, reads.under,
    List.length_eq_countP_add_countP fun value : Decimal => decide (value.amount < 0), add_comm]
  refine congrArg (· + _) (List.countP_congr fun value member => ?_)
  have other := nonzero value member
  simp only [decide_eq_true_eq, not_lt]
  constructor
  · intro least
    have reached : 0 ≤ value.amount := by simpa using least
    exact lt_of_le_of_ne reached (Ne.symm other)
  · intro positive
    simpa using positive.le

/-- The largest variance is at least each of them. -/
theorem le_largestVariance {values : List Decimal} {value : Decimal} (member : value ∈ values) :
    |value.amount| ≤ largestVariance values := by
  have grows : ∀ (sizes : List ℚ) (start : ℚ), start ≤ sizes.foldl max start ∧
      ∀ size ∈ sizes, size ≤ sizes.foldl max start := by
    intro sizes
    induction sizes with
    | nil => exact fun start => ⟨le_rfl, List.forall_mem_nil _⟩
    | cons size rest ih =>
      intro start
      obtain ⟨first, others⟩ := ih (max start size)
      exact ⟨(le_max_left _ _).trans first,
        List.forall_mem_cons.mpr ⟨(le_max_right _ _).trans first, others⟩⟩
  exact (grows _ 0).2 _ (List.mem_map_of_mem member)

end Counts

section Amounts

/-- Premiums of an affected policy in units of a power of ten. -/
structure UnitCharge where
  /-- Canonical premium. -/
  expected : Int
  /-- Target premium. -/
  actual : Int

/-- Signed variance in units. -/
def UnitCharge.variance (charge : UnitCharge) : Int := charge.actual - charge.expected

/-- Part of the variance that is undercharged. -/
def UnitCharge.under (charge : UnitCharge) : Int := max 0 (-charge.variance)

/-- Part of the variance that is overcharged. -/
def UnitCharge.above (charge : UnitCharge) : Int := max 0 charge.variance

/-- Units that bound every figure of a charge. -/
def UnitCharge.weight (charge : UnitCharge) : Nat :=
  charge.expected.natAbs + charge.actual.natAbs

/-- Whether the totals are the sums of some charges in units. -/
structure Exposure.Sums (unit : Int) (charges : List UnitCharge) (exposure : Exposure) : Prop where
  /-- Canonical premiums. -/
  expected : exposure.totalExpected.Counts unit (charges.map (·.expected)).sum
  /-- Target premiums. -/
  target : exposure.totalTarget.Counts unit (charges.map (·.actual)).sum
  /-- Signed variances. -/
  signed : exposure.totalSigned.Counts unit (charges.map (·.variance)).sum
  /-- Absolute variances. -/
  magnitude : exposure.totalAbsolute.Counts unit (charges.map fun charge => |charge.variance|).sum
  /-- Largest variance. -/
  largest : exposure.maxSingle.Counts unit
    ((charges.map fun charge => |charge.variance|).foldl max 0)
  /-- Undercharges. -/
  under : exposure.totalUndercharge.Counts unit (charges.map (·.under)).sum
  /-- Overcharges. -/
  above : exposure.totalOvercharge.Counts unit (charges.map (·.above)).sum

/-- A figure that each charge bounds is bounded in sum. -/
theorem natAbs_sum_le {figure : UnitCharge → Int}
    (bounded : ∀ charge, (figure charge).natAbs ≤ charge.weight) (charges : List UnitCharge) :
    (charges.map figure).sum.natAbs ≤ (charges.map (·.weight)).sum := by
  induction charges with
  | nil => exact le_rfl
  | cons charge rest ih =>
    rw [List.map_cons, List.sum_cons, List.map_cons, List.sum_cons]
    exact (Int.natAbs_add_le _ _).trans (Nat.add_le_add (bounded charge) ih)

/-- A total of a figure takes in the next charge. -/
theorem add_figure {unit : Int} {charges : List UnitCharge} {charge : UnitCharge}
    {figure : UnitCharge → Int} {total amount : Decimal}
    (bounded : ∀ charge, (figure charge).natAbs ≤ charge.weight)
    (has : decimalContext.HasUnit unit)
    (room : ((charges ++ [charge]).map (·.weight)).sum < 10 ^ decimalContext.precision)
    (before : total.Counts unit (charges.map figure).sum)
    (own : amount.Counts unit (figure charge)) :
    ∃ next, Decimal.add decimalContext total amount = .ok next ∧
      next.Counts unit ((charges ++ [charge]).map figure).sum := by
  have few := (natAbs_sum_le bounded (charges ++ [charge])).trans_lt room
  rw [List.map_append, List.sum_append] at few ⊢
  rw [List.map_singleton, List.sum_singleton] at few ⊢
  exact add_counts has few before own

/-- A figure that is zero for the next charge keeps its total. -/
theorem keep_figure {unit : Int} {charges : List UnitCharge} {charge : UnitCharge}
    {figure : UnitCharge → Int} {total : Decimal} (none : figure charge = 0)
    (before : total.Counts unit (charges.map figure).sum) :
    total.Counts unit ((charges ++ [charge]).map figure).sum := by
  rw [List.map_append, List.sum_append, List.map_singleton, List.sum_singleton, none, add_zero]
  exact before

/-- The magnitude of a variance in units. -/
theorem absolute_counts {unit count : Int} {value : Decimal}
    (has : decimalContext.HasUnit unit) (few : count.natAbs < 10 ^ decimalContext.precision)
    (counts : value.Counts unit count) :
    ∃ magnitude, absolute value = .ok magnitude ∧ magnitude.Counts unit |count| := by
  obtain ⟨sign, coefficient, exponent, rfl, amount⟩ := counts.parts
  refine fit_counts has (by rwa [Int.natAbs_abs]) ?_
  have power : (0 : ℚ) < 10 ^ unit := by positivity
  have other : (0 : ℚ) < 10 ^ exponent := by positivity
  calc rational false coefficient exponent = |rational sign coefficient exponent| := by
        unfold rational
        rw [abs_mul, abs_of_pos other]
        cases sign <;> simp [DecimalFloat.signed]
    _ = |(count : ℚ) * 10 ^ unit| := by rw [amount]
    _ = ((|count| : Int) : ℚ) * 10 ^ unit := by
        rw [abs_mul, abs_of_pos power, Int.cast_abs]

/-- Before the first charge every total is zero. -/
theorem sums_nil (unit : Int) : Exposure.zero.Sums unit [] :=
  ⟨counts_zero _ _ _, counts_zero _ _ _, counts_zero _ _ _, counts_zero _ _ _, counts_zero _ _ _,
    counts_zero _ _ _, counts_zero _ _ _⟩

/-- A charge within the room of the context is added exactly. -/
theorem add_sums {unit : Int} {charges : List UnitCharge} {charge : UnitCharge}
    {exposure : Exposure} (policyId : String) {repriced : Repricing}
    (has : decimalContext.HasUnit unit) (sums : exposure.Sums unit charges)
    (room : ((charges ++ [charge]).map (·.weight)).sum < 10 ^ decimalContext.precision)
    (one : repriced.expected.Counts unit charge.expected)
    (two : repriced.actual.Counts unit charge.actual) :
    ∃ next, exposure.add policyId repriced = .ok next ∧ next.Sums unit (charges ++ [charge]) := by
  have within : charge.variance.natAbs < 10 ^ decimalContext.precision := by
    have own : charge.weight ≤ ((charges ++ [charge]).map (·.weight)).sum := by
      rw [List.map_append, List.sum_append, List.map_singleton, List.sum_singleton]
      exact Nat.le_add_left _ _
    have bounded : charge.variance.natAbs ≤ charge.weight := by
      unfold UnitCharge.variance UnitCharge.weight
      omega
    exact (bounded.trans own).trans_lt room
  obtain ⟨variance, subtracted, signed⟩ : ∃ variance,
      Decimal.sub decimalContext repriced.actual repriced.expected = .ok variance ∧
        variance.Counts unit charge.variance := sub_counts has within two one
  obtain ⟨magnitude, taken, absolute⟩ := absolute_counts has within signed
  obtain ⟨totalExpected, addExpected, expected⟩ := add_figure
    (fun charge => by unfold UnitCharge.weight; omega) has room sums.expected one
  obtain ⟨totalTarget, addTarget, target⟩ := add_figure
    (fun charge => by unfold UnitCharge.weight; omega) has room sums.target two
  obtain ⟨totalSigned, addSigned, netted⟩ := add_figure
    (fun charge => by unfold UnitCharge.variance UnitCharge.weight; omega) has room sums.signed
    signed
  obtain ⟨totalAbsolute, addAbsolute, gross⟩ := add_figure
    (fun charge => by
      rw [Int.natAbs_abs]
      unfold UnitCharge.variance UnitCharge.weight
      omega) has room sums.magnitude absolute
  have larger := lt_counts sums.largest absolute
  have largest : (if (charges.map fun charge => |charge.variance|).foldl max 0 < |charge.variance|
      then magnitude else exposure.maxSingle).Counts unit
      (((charges ++ [charge]).map fun charge => |charge.variance|).foldl max 0) := by
    rw [List.map_append, List.foldl_append]
    show Decimal.Counts _ unit (max _ |charge.variance|)
    split
    · next grows =>
      rw [max_eq_right grows.le]
      exact absolute
    · next keeps =>
      rw [max_eq_left (not_lt.mp keeps)]
      exact sums.largest
  have zero : (Decimal.ofInt 0).Counts unit 0 := counts_zero _ _ _
  have below := lt_counts signed zero
  have beyond := lt_counts zero signed
  unfold Exposure.add
  simp only [addExpected, addTarget, subtracted, taken, addSigned, addAbsolute, larger, below,
    beyond, bind, Except.bind, pure, Except.pure, decide_eq_true_eq]
  by_cases negative : charge.variance < 0
  · have own : magnitude.Counts unit charge.under := by
      have same : charge.under = |charge.variance| := by
        rw [UnitCharge.under, abs_of_neg negative, max_eq_right]
        exact (Int.neg_pos_of_neg negative).le
      rw [same]
      exact absolute
    obtain ⟨total, added, under⟩ := add_figure
      (fun charge => by
        unfold UnitCharge.under UnitCharge.variance UnitCharge.weight
        omega) has room sums.under own
    have none : charge.above = 0 := max_eq_left negative.le
    rw [if_pos negative, added]
    exact ⟨_, rfl, expected, target, netted, gross, largest, under, keep_figure none sums.above⟩
  · have nothing : charge.under = 0 :=
      max_eq_left (Int.neg_nonpos_of_nonneg (not_lt.mp negative))
    rw [if_neg negative]
    by_cases positive : 0 < charge.variance
    · have own : variance.Counts unit charge.above := by
        have same : charge.above = charge.variance := max_eq_right positive.le
        rw [same]
        exact signed
      obtain ⟨total, added, above⟩ := add_figure
        (fun charge => by
          unfold UnitCharge.above UnitCharge.variance UnitCharge.weight
          omega) has room sums.above own
      rw [if_pos positive, added]
      exact ⟨_, rfl, expected, target, netted, gross, largest, keep_figure nothing sums.under,
        above⟩
    · have none : charge.above = 0 := max_eq_left (not_lt.mp positive)
      rw [if_neg positive]
      exact ⟨_, rfl, expected, target, netted, gross, largest, keep_figure nothing sums.under,
        keep_figure none sums.above⟩

end Amounts

section Runs

variable {sorter : Sorter String} {canonical target : PackageContent}

/-- Whether the premiums of some policies are units of a power of ten, few enough for the
context. -/
structure PremiumsFit (sorter : Sorter String) (canonical target : PackageContent)
    (policies : List SyntheticPolicy) (unit : Int) (count : SyntheticPolicy → UnitCharge) :
    Prop where
  /-- The context has the unit. -/
  has : decimalContext.HasUnit unit
  /-- Premiums are counted. -/
  counted : ∀ policy ∈ policies, ∀ repriced,
    repricePolicy sorter canonical target policy = .ok repriced →
      repriced.expected.Counts unit (count policy).expected ∧
        repriced.actual.Counts unit (count policy).actual
  /-- All of them together have no more digits than the context keeps. -/
  room : (policies.map fun policy => (count policy).weight).sum < 10 ^ decimalContext.precision

/-- Charges of the affected ones among some policies. -/
def charges (sorter : Sorter String) (canonical target : PackageContent)
    (count : SyntheticPolicy → UnitCharge) (policies : List SyntheticPolicy) : List UnitCharge :=
  (policies.filter fun policy => (affectedRepricing sorter canonical target policy).isSome).map
    count

/-- The policies of a part fit where all do. -/
theorem PremiumsFit.part {policies part : List SyntheticPolicy} {unit : Int}
    {count : SyntheticPolicy → UnitCharge}
    (fit : PremiumsFit sorter canonical target policies unit count)
    (inside : part.Sublist policies) : PremiumsFit sorter canonical target part unit count where
  has := fit.has
  counted := fun policy member => fit.counted policy (inside.subset member)
  room := ((inside.map _).sum_le_sum fun _ _ => Nat.zero_le _).trans_lt fit.room

/-- Policies that fit do so in every order. -/
theorem PremiumsFit.perm {policies others : List SyntheticPolicy} {unit : Int}
    {count : SyntheticPolicy → UnitCharge}
    (fit : PremiumsFit sorter canonical target policies unit count)
    (reordered : others.Perm policies) : PremiumsFit sorter canonical target others unit count where
  has := fit.has
  counted := fun policy member => fit.counted policy (reordered.mem_iff.mp member)
  room := by
    rw [(reordered.map _).sum_eq]
    exact fit.room

/-- The charges of policies that fit have the room of the context. -/
theorem PremiumsFit.charges_room {policies : List SyntheticPolicy} {unit : Int}
    {count : SyntheticPolicy → UnitCharge}
    (fit : PremiumsFit sorter canonical target policies unit count) :
    ((charges sorter canonical target count policies).map (·.weight)).sum <
      10 ^ decimalContext.precision := by
  unfold charges
  rw [List.map_map]
  exact ((List.filter_sublist.map _).sum_le_sum fun _ _ => Nat.zero_le _).trans_lt fit.room

/-- Policies that are all repriced and fit are added up exactly. -/
theorem reprice_sums {policies : List SyntheticPolicy} {unit : Int}
    {count : SyntheticPolicy → UnitCharge}
    (fit : PremiumsFit sorter canonical target policies unit count)
    (priced : ∀ policy ∈ policies, ∃ repriced,
      repricePolicy sorter canonical target policy = .ok repriced) :
    ∃ exposure, reprice sorter canonical target policies = .ok exposure ∧
      exposure.Sums unit (charges sorter canonical target count policies) := by
  induction policies using List.reverseRecOn with
  | nil => exact ⟨_, rfl, sums_nil unit⟩
  | append_singleton policies policy ih =>
    obtain ⟨before, earlier, sums⟩ := ih (fit.part (List.sublist_append_left _ _))
      fun other member => priced other (List.mem_append_left _ member)
    have last : policy ∈ policies ++ [policy] := List.mem_append_right _ (List.mem_singleton_self _)
    obtain ⟨repriced, found⟩ := priced policy last
    obtain ⟨one, two⟩ := fit.counted policy last repriced found
    have own : affectedRepricing sorter canonical target policy =
        (some repriced).filter fun repriced => !repriced.premiumMatches := by
      rw [affectedRepricing, found]
      rfl
    have room := fit.charges_room
    suffices step : ∃ next, exposePolicy sorter canonical target before policy = .ok next ∧
        next.Sums unit (charges sorter canonical target count (policies ++ [policy])) by
      obtain ⟨next, exposed, sums⟩ := step
      refine ⟨next, ?_, sums⟩
      unfold reprice at earlier ⊢
      simp only [List.foldlM_append, earlier, List.foldlM_cons, List.foldlM_nil, exposed, bind,
        Except.bind, pure, Except.pure]
    unfold exposePolicy
    rw [found]
    cases alike : repriced.premiumMatches with
    | true =>
      have same : charges sorter canonical target count (policies ++ [policy]) =
          charges sorter canonical target count policies := by
        simp [charges, own, alike]
      rw [same]
      refine ⟨before, ?_, sums⟩
      simp only [bind, Except.bind, pure, Except.pure, alike, if_true]
    | false =>
      have grown : charges sorter canonical target count (policies ++ [policy]) =
          charges sorter canonical target count policies ++ [count policy] := by
        simp [charges, own, alike]
      rw [grown] at room ⊢
      obtain ⟨next, added, sums⟩ := add_sums policy.policyId fit.has sums room one two
      refine ⟨next, ?_, sums⟩
      simp only [bind, Except.bind, pure, Except.pure, alike, added, raising, Bool.false_eq_true,
        if_false]

/-- Totals that belong together, with every affected policy either over- or undercharged. -/
structure Exposure.Consistent (exposure : Exposure) : Prop where
  /-- Signed variances are overcharges less undercharges. -/
  signed : exposure.totalSigned.amount =
    exposure.totalOvercharge.amount - exposure.totalUndercharge.amount
  /-- They are the target premiums less the canonical ones. -/
  net : exposure.totalSigned.amount =
    exposure.totalTarget.amount - exposure.totalExpected.amount
  /-- Absolute variances are overcharges and undercharges together. -/
  magnitude : exposure.totalAbsolute.amount =
    exposure.totalOvercharge.amount + exposure.totalUndercharge.amount
  /-- Affected policies are the over- and the undercharged ones. -/
  affected : exposure.affected.length = exposure.overchargedCount + exposure.underchargedCount

/-- Charges in units add up. -/
theorem charges_sum (charges : List UnitCharge) :
    (charges.map (·.variance)).sum = (charges.map (·.above)).sum - (charges.map (·.under)).sum ∧
      (charges.map (·.variance)).sum =
        (charges.map (·.actual)).sum - (charges.map (·.expected)).sum ∧
      (charges.map fun charge => |charge.variance|).sum =
        (charges.map (·.above)).sum + (charges.map (·.under)).sum := by
  induction charges with
  | nil => exact ⟨rfl, rfl, rfl⟩
  | cons charge rest ih =>
    obtain ⟨signed, net, gross⟩ := ih
    simp only [List.map_cons, List.sum_cons, signed, gross]
    have size : |charge.variance| = charge.above + charge.under := by
      unfold UnitCharge.above UnitCharge.under
      rcases abs_cases charge.variance with ⟨same, sign⟩ | ⟨same, sign⟩ <;> omega
    have sign : charge.variance = charge.above - charge.under := by
      unfold UnitCharge.above UnitCharge.under
      omega
    refine ⟨by omega, ?_, by omega⟩
    rw [← signed, net]
    unfold UnitCharge.variance
    omega

/-- A policy that is affected within the room of the context has a variance other than zero. -/
theorem PremiumsFit.variance_ne_zero {policies : List SyntheticPolicy} {unit : Int}
    {count : SyntheticPolicy → UnitCharge}
    (fit : PremiumsFit sorter canonical target policies unit count) {value : Decimal}
    (member : value ∈ variances sorter canonical target policies) : value.amount ≠ 0 := by
  obtain ⟨policy, inside, found⟩ := List.mem_filterMap.mp member
  obtain ⟨repriced, affected, computed⟩ := Option.bind_eq_some_iff.mp found
  obtain ⟨some, differs⟩ := Option.filter_eq_some_iff.mp affected
  have priced : repricePolicy sorter canonical target policy = .ok repriced := by
    cases run : repricePolicy sorter canonical target policy with
    | error failure =>
      rw [run] at some
      cases some
    | ok other =>
      rw [run] at some
      cases some
      rfl
  have subtracted : Decimal.sub decimalContext repriced.actual repriced.expected = .ok value := by
    cases run : Decimal.sub decimalContext repriced.actual repriced.expected with
    | error signal =>
      rw [run] at computed
      cases computed
    | ok other =>
      rw [run] at computed
      cases computed
      rfl
  obtain ⟨one, two⟩ := fit.counted policy inside repriced priced
  obtain ⟨expected, actual, decided⟩ := repricePolicy_finite priced
  have few : ((count policy).actual - (count policy).expected).natAbs <
      10 ^ decimalContext.precision := by
    have own : (count policy).weight ≤ (policies.map fun policy => (count policy).weight).sum :=
      List.single_le_sum (fun _ _ => Nat.zero_le _) _ (List.mem_map_of_mem inside)
    refine lt_of_le_of_lt ?_ (own.trans_lt fit.room)
    unfold UnitCharge.weight
    omega
  obtain ⟨difference, same, counts⟩ := sub_counts fit.has few two one
  rw [subtracted] at same
  cases same
  rw [eq_eq_amount expected actual] at decided
  have unequal : repriced.expected.amount ≠ repriced.actual.amount := by
    intro equal
    rw [← Except.ok.inj decided, decide_eq_true equal] at differs
    cases differs
  rw [one.amount, two.amount] at unequal
  have power : (10 : ℚ) ^ unit ≠ 0 := by positivity
  rw [counts.amount]
  intro zero
  rcases mul_eq_zero.mp zero with none | none
  · apply unequal
    have equal : (count policy).actual = (count policy).expected :=
      sub_eq_zero.mp (Int.cast_eq_zero.mp none)
    rw [equal]
  · exact power none

/-- Totals that are exact are consistent. -/
theorem PremiumsFit.consistent {policies : List SyntheticPolicy} {unit : Int}
    {count : SyntheticPolicy → UnitCharge}
    (fit : PremiumsFit sorter canonical target policies unit count) {exposure : Exposure}
    (reads : exposure.Reads sorter canonical target policies)
    (sums : exposure.Sums unit (charges sorter canonical target count policies)) :
    exposure.Consistent := by
  obtain ⟨signed, net, gross⟩ := charges_sum (charges sorter canonical target count policies)
  refine ⟨?_, ?_, ?_, reads.counts_eq fun value member => fit.variance_ne_zero member⟩
  · rw [sums.signed.amount, sums.above.amount, sums.under.amount, signed]
    push_cast
    ring
  · rw [sums.signed.amount, sums.target.amount, sums.expected.amount, net]
    push_cast
    ring
  · rw [sums.magnitude.amount, sums.above.amount, sums.under.amount, gross]
    push_cast
    ring

end Runs

section Analysis

variable {sorter : Sorter String} {inherited : InheritedMembers}
  {canonical target : PackageContent}

/-- Policies that the analysis reprices. -/
def exposedPolicies (sorter : Sorter String) (inherited : InheritedMembers)
    (portfolio : Portfolio) (canonical target : PackageContent) :
    Except Failure (List SyntheticPolicy) := do
  let differences ← comparePackages canonical target
  let predicates ← candidatePredicates sorter differences canonical
  return portfolio.policies.filter (isExposed inherited predicates)

/-- Analyses with the same counts and the same largest variance. -/
structure SameCounts (first second : PortfolioExposureResult) : Prop where
  /-- Portfolios of one size. -/
  total : second.totalPolicies = first.totalPolicies
  /-- As many policies are exposed. -/
  exposed : second.exposedPolicyCount = first.exposedPolicyCount
  /-- As many match several predicates. -/
  multiple : second.multiDefectPolicyCount = first.multiDefectPolicyCount
  /-- The same policies are affected. -/
  affected : second.exposure.affected.Perm first.exposure.affected
  /-- As many are undercharged. -/
  under : second.exposure.underchargedCount = first.exposure.underchargedCount
  /-- As many are overcharged. -/
  above : second.exposure.overchargedCount = first.exposure.overchargedCount
  /-- The largest variance is the same number. -/
  largest : Decimal.Same second.exposure.maxSingle first.exposure.maxSingle

/-- Analyses that also have the same totals. -/
structure SameTotals (first second : PortfolioExposureResult) : Prop extends
    SameCounts first second where
  /-- Canonical premiums. -/
  expected : Decimal.Same second.exposure.totalExpected first.exposure.totalExpected
  /-- Target premiums. -/
  target : Decimal.Same second.exposure.totalTarget first.exposure.totalTarget
  /-- Signed variances. -/
  signed : Decimal.Same second.exposure.totalSigned first.exposure.totalSigned
  /-- Absolute variances. -/
  magnitude : Decimal.Same second.exposure.totalAbsolute first.exposure.totalAbsolute
  /-- Undercharges. -/
  undercharge : Decimal.Same second.exposure.totalUndercharge first.exposure.totalUndercharge
  /-- Overcharges. -/
  overcharge : Decimal.Same second.exposure.totalOvercharge first.exposure.totalOvercharge
  /-- Mean variances. -/
  average : Decimal.Same second.averageVariance first.averageVariance

/-- What an analysis that succeeds has done. -/
structure Analyzed (sorter : Sorter String) (inherited : InheritedMembers) (portfolio : Portfolio)
    (canonical target : PackageContent) (predicates : List ImpactPredicate)
    (result : PortfolioExposureResult) : Prop where
  /-- The predicates are derived. -/
  derived : (comparePackages canonical target >>= fun differences =>
    candidatePredicates sorter differences canonical) = .ok predicates
  /-- The exposed policies are summed up. -/
  summed : reprice sorter canonical target
    (portfolio.policies.filter (isExposed inherited predicates)) = .ok result.exposure
  /-- The mean is taken. -/
  average : averageVariance result.exposure = .ok result.averageVariance
  /-- All policies are counted. -/
  total : result.totalPolicies = portfolio.policies.length
  /-- Exposed policies are counted. -/
  exposed : result.exposedPolicyCount =
    (portfolio.policies.filter (isExposed inherited predicates)).length
  /-- Policies that several predicates match are counted. -/
  multiple : result.multiDefectPolicyCount =
    (portfolio.policies.filter (isExposed inherited predicates)).countP fun policy =>
      1 < matchedCount inherited predicates policy

/-- An analysis succeeds by its parts. -/
theorem analyze_eq_ok {portfolio : Portfolio} {result : PortfolioExposureResult} :
    analyze sorter inherited portfolio canonical target = .ok result ↔
      ∃ predicates, Analyzed sorter inherited portfolio canonical target predicates result := by
  constructor
  · intro analyzed
    obtain ⟨differences, compared, analyzed⟩ := bind_eq_ok analyzed
    obtain ⟨predicates, derived, analyzed⟩ := bind_eq_ok analyzed
    obtain ⟨exposure, summed, analyzed⟩ := bind_eq_ok analyzed
    obtain ⟨average, mean, analyzed⟩ := bind_eq_ok analyzed
    cases analyzed
    refine ⟨predicates, ?_, summed, raising_returned mean, rfl, rfl, rfl⟩
    rw [compared]
    exact derived
  · rintro ⟨predicates, derived, summed, average, total, exposed, multiple⟩
    obtain ⟨differences, compared, derived⟩ := bind_eq_ok derived
    unfold analyze
    simp only [compared, derived, summed, average, raising, bind, Except.bind, pure, Except.pure]
    rw [← total, ← exposed, ← multiple]

/-- The predicates of an analysis do not depend on the portfolio. -/
theorem Analyzed.exposedPolicies {portfolio : Portfolio} {predicates : List ImpactPredicate}
    {result : PortfolioExposureResult}
    (analyzed : Analyzed sorter inherited portfolio canonical target predicates result) :
    exposedPolicies sorter inherited portfolio canonical target =
      .ok (portfolio.policies.filter (isExposed inherited predicates)) := by
  obtain ⟨differences, compared, derived⟩ := bind_eq_ok analyzed.derived
  unfold RateGuard.exposedPolicies
  simp only [compared, derived, bind, Except.bind, pure, Except.pure]

/-- Analyses of reordered portfolios have the same counts. -/
theorem Analyzed.sameCounts {portfolio reordered : Portfolio}
    {predicates : List ImpactPredicate} {result other : PortfolioExposureResult}
    (analyzed : Analyzed sorter inherited portfolio canonical target predicates result)
    (again : Analyzed sorter inherited reordered canonical target predicates other)
    (perm : reordered.policies.Perm portfolio.policies) : SameCounts result other := by
  have exposed := perm.filter (isExposed inherited predicates)
  have reads := reprice_reads analyzed.summed
  have rereads := reprice_reads again.summed
  have figures := exposed.filterMap (affectedVariance sorter canonical target)
  refine ⟨?_, ?_, ?_, ?_, ?_, ?_, ?_⟩
  · rw [analyzed.total, again.total, perm.length_eq]
  · rw [analyzed.exposed, again.exposed, exposed.length_eq]
  · rw [analyzed.multiple, again.multiple, exposed.countP_eq]
  · rw [reads.affected, rereads.affected]
    exact (exposed.filter _).map _
  · rw [reads.under, rereads.under]
    exact figures.countP_eq _
  · rw [reads.above, rereads.above]
    exact figures.countP_eq _
  · rw [same_iff_amount rereads.finite reads.finite, reads.largest, rereads.largest]
    exact (figures.map _).foldl_eq 0

/-- Counts of one number of units are the same. -/
theorem counts_same {left right : Decimal} {unit first second : Int}
    (one : left.Counts unit first) (two : right.Counts unit second) (equal : first = second) :
    Decimal.Same left right := by
  rw [equal] at one
  exact Eq.trans one (Eq.symm two)

/-- Equal sums over as many policies have equal means. -/
theorem averageVariance_same {first second : Exposure}
    (same : Decimal.Same second.totalAbsolute first.totalAbsolute)
    (length : second.affected.length = first.affected.length) :
    Agree Decimal.Same (averageVariance second) (averageVariance first) := by
  unfold averageVariance
  rw [length]
  by_cases none : first.affected.length = 0
  · rw [if_pos none, if_pos none]
    exact .success (.refl _)
  · have divisor : (Decimal.ofInt first.affected.length).number ≠ .rational 0 := by
      intro zero
      have amount := Number.rational.inj zero
      rw [signed_natAbs_self, zpow_zero, mul_one] at amount
      exact none (Int.natCast_eq_zero.mp (Int.cast_eq_zero.mp amount))
    rw [if_neg none, if_neg none]
    exact (div_same _ divisor same (.refl _)).bind fun _ _ quotients =>
      quantize_same _ _ _ quotients

/-- An analysis within the room of the context succeeds in every order, with the same totals. -/
theorem Analyzed.sameTotals {portfolio reordered : Portfolio}
    {predicates : List ImpactPredicate} {result : PortfolioExposureResult}
    (analyzed : Analyzed sorter inherited portfolio canonical target predicates result)
    {unit : Int} {count : SyntheticPolicy → UnitCharge}
    (fit : PremiumsFit sorter canonical target
      (portfolio.policies.filter (isExposed inherited predicates)) unit count)
    (perm : reordered.policies.Perm portfolio.policies) :
    ∃ other, Analyzed sorter inherited reordered canonical target predicates other ∧
      SameTotals result other := by
  have exposed := perm.filter (isExposed inherited predicates)
  have priced := reprice_priced analyzed.summed
  obtain ⟨exposure, summed, sums⟩ := reprice_sums fit priced
  rw [analyzed.summed] at summed
  cases summed
  obtain ⟨again, resummed, resums⟩ := reprice_sums (fit.perm exposed)
    fun policy member => priced policy (exposed.mem_iff.mp member)
  have figures : (charges sorter canonical target count
      (reordered.policies.filter (isExposed inherited predicates))).Perm
      (charges sorter canonical target count
        (portfolio.policies.filter (isExposed inherited predicates))) :=
    (exposed.filter _).map _
  have sum : ∀ figure : UnitCharge → Int, _ = _ := fun figure => (figures.map figure).sum_eq
  have magnitude := counts_same resums.magnitude sums.magnitude (sum _)
  have length : again.affected.length = result.exposure.affected.length := by
    rw [(reprice_reads resummed).affected_length, (reprice_reads analyzed.summed).affected_length]
    exact (exposed.filterMap _).length_eq
  have mean := averageVariance_same magnitude length
  rw [analyzed.average] at mean
  generalize run : averageVariance again = computed at mean
  cases mean with
  | success same =>
    next average =>
    let other : PortfolioExposureResult := ⟨reordered.policies.length,
      (reordered.policies.filter (isExposed inherited predicates)).length,
      (reordered.policies.filter (isExposed inherited predicates)).countP fun policy =>
        1 < matchedCount inherited predicates policy, again, average⟩
    have done : Analyzed sorter inherited reordered canonical target predicates other :=
      ⟨analyzed.derived, resummed, run, rfl, rfl, rfl⟩
    exact ⟨other, done, {
      toSameCounts := analyzed.sameCounts done perm
      expected := counts_same resums.expected sums.expected (sum _)
      target := counts_same resums.target sums.target (sum _)
      signed := counts_same resums.signed sums.signed (sum _)
      magnitude := magnitude
      undercharge := counts_same resums.under sums.under (sum _)
      overcharge := counts_same resums.above sums.above (sum _)
      average := same }⟩

/-- Totals of the analysis of a portfolio: no more policies are over- and undercharged than are
affected, and no more affected than exposed; the largest variance bounds each one; another order has
the same counts and the same largest variance. Where the exposed premiums are units of one power of
ten, few enough for the context together, the totals are consistent, and every other order is
analysed as well, with the same totals. -/
theorem analyze_totals (sorter : Sorter String) (inherited : InheritedMembers)
    (portfolio : Portfolio) (canonical target : PackageContent) (result : PortfolioExposureResult)
    (analyzed : analyze sorter inherited portfolio canonical target = .ok result) :
    result.exposure.overchargedCount + result.exposure.underchargedCount ≤
        result.financiallyAffectedCount ∧
      result.financiallyAffectedCount ≤ result.exposedPolicyCount ∧
      (∀ exposed, exposedPolicies sorter inherited portfolio canonical target = .ok exposed →
        ∀ variance ∈ variances sorter canonical target exposed,
          |variance.amount| ≤ result.exposure.maxSingle.amount) ∧
      (∀ reordered other, reordered.policies.Perm portfolio.policies →
        analyze sorter inherited reordered canonical target = .ok other →
          SameCounts result other) ∧
      ∀ exposed unit count,
        exposedPolicies sorter inherited portfolio canonical target = .ok exposed →
        PremiumsFit sorter canonical target exposed unit count →
          result.exposure.Consistent ∧
            ∀ reordered, reordered.policies.Perm portfolio.policies →
              ∃ other, analyze sorter inherited reordered canonical target = .ok other ∧
                SameTotals result other := by
  obtain ⟨predicates, done⟩ := analyze_eq_ok.mp analyzed
  have reads := reprice_reads done.summed
  refine ⟨reads.counts_le, ?affected, ?largest, ?order, ?exact⟩
  case affected =>
    unfold PortfolioExposureResult.financiallyAffectedCount
    rw [reads.affected, done.exposed, List.length_map]
    exact List.length_filter_le _ _
  case largest =>
    intro exposed found variance member
    rw [done.exposedPolicies] at found
    cases found
    rw [reads.largest]
    exact le_largestVariance member
  case order =>
    intro reordered other perm again
    obtain ⟨others, redone⟩ := analyze_eq_ok.mp again
    obtain rfl : predicates = others :=
      Except.ok.inj (done.derived.symm.trans redone.derived)
    exact done.sameCounts redone perm
  case exact =>
    intro exposed unit count found fit
    rw [done.exposedPolicies] at found
    cases found
    obtain ⟨exposure, summed, sums⟩ := reprice_sums fit (reprice_priced done.summed)
    rw [done.summed] at summed
    cases summed
    refine ⟨fit.consistent reads sums, fun reordered perm => ?_⟩
    obtain ⟨other, redone, same⟩ := done.sameTotals fit perm
    exact ⟨other, analyze_eq_ok.mpr ⟨predicates, redone⟩, same⟩

end Analysis

/-- A portfolio of two policies. -/
def pairPortfolio : Portfolio where
  policies := singlePortfolio.policies ++
    singlePortfolio.policies.map fun policy => { policy with policyId := "POL-2" }
  distinct := by decide

/-- The two policies in the other order. -/
def reversedPortfolio : Portfolio where
  policies := pairPortfolio.policies.reverse
  distinct := by decide

/-- Two policies overcharged by twenty. -/
def pairResult : PortfolioExposureResult where
  totalPolicies := 2
  exposedPolicyCount := 2
  multiDefectPolicyCount := 0
  exposure := {
    affected := ["POL-1", "POL-2"]
    totalExpected := .finite false 20000 (-2)
    totalTarget := .finite false 24000 (-2)
    totalSigned := .finite false 4000 (-2)
    totalAbsolute := .finite false 4000 (-2)
    maxSingle := .finite false 2000 (-2)
    underchargedCount := 0
    totalUndercharge := zeroCents
    overchargedCount := 2
    totalOvercharge := .finite false 4000 (-2) }
  averageVariance := .finite false 2000 (-2)

/-- Premiums in cents have consistent totals, in both orders. -/
theorem analyze_totals_pair : pairResult.exposure.Consistent ∧ ∃ other,
    analyze (byGenerations String) (fun _ _ => none) reversedPortfolio
      flatPackage.toPackageContent raisedPackage.toPackageContent = .ok other ∧
      SameTotals pairResult other := by
  have fit : PremiumsFit (byGenerations String) flatPackage.toPackageContent
      raisedPackage.toPackageContent pairPortfolio.policies (-2) fun _ => ⟨10000, 12000⟩ := {
    has := ⟨by decide, by decide⟩
    room := by decide
    counted := by
      intro policy member repriced priced
      have same : repricePolicy (byGenerations String) flatPackage.toPackageContent
          raisedPackage.toPackageContent policy =
          .ok ⟨.finite false 10000 (-2), .finite false 12000 (-2), .finite false 2000 (-2),
            .finite false 200000 (-4), false⟩ := by
        rcases List.mem_cons.mp member with rfl | member
        · rfl
        · cases List.mem_singleton.mp member
          rfl
      rw [same] at priced
      cases priced
      exact ⟨rfl, rfl⟩ }
  have totals := analyze_totals (byGenerations String) (fun _ _ => none) pairPortfolio
    flatPackage.toPackageContent raisedPackage.toPackageContent pairResult rfl
  obtain ⟨consistent, orders⟩ := totals.2.2.2.2 pairPortfolio.policies (-2) _ rfl fit
  exact ⟨consistent, orders reversedPortfolio (List.reverse_perm _)⟩

/-- Package whose premium has twenty-four decimals. -/
def finePackage : IPIRPackage where
  toPackageContent := flatContent ⟨false, 10 ^ 24 + 1, -24⟩ (.reference "base_rate")
  valid := by decide

/-- Package whose premium is one hundred thousand. -/
def largePackage : IPIRPackage where
  toPackageContent := flatContent ⟨false, 100000, 0⟩ (.reference "base_rate")
  valid := by decide

/-- Totals are not consistent in general: a variance of twenty-nine digits is rounded, and the
premiums are not. -/
theorem analyze_totals_rounded :
    ¬∀ (sorter : Sorter String) (inherited : InheritedMembers) (portfolio : Portfolio)
      (canonical target : IPIRPackage) (result : PortfolioExposureResult),
      analyze sorter inherited portfolio canonical.toPackageContent target.toPackageContent =
        .ok result → result.exposure.Consistent := by
  intro consistent
  have net := (consistent (byGenerations String) (fun _ _ => none) singlePortfolio finePackage
    largePackage
    { totalPolicies := 1
      exposedPolicyCount := 1
      multiDefectPolicyCount := 0
      exposure := {
        affected := ["POL-1"]
        totalExpected := .finite false (10 ^ 24 + 1) (-24)
        totalTarget := .finite false 10000000 (-2)
        totalSigned := .finite false 9999900000000000000000000000 (-23)
        totalAbsolute := .finite false 9999900000000000000000000000 (-23)
        maxSingle := .finite false 9999900000000000000000000000 (-23)
        underchargedCount := 0
        totalUndercharge := zeroCents
        overchargedCount := 1
        totalOvercharge := .finite false 9999900000000000000000000000 (-23) }
      averageVariance := .finite false 9999900 (-2) } rfl).net
  have unequal : ((9999900000000000000000000000 : ℚ) * 10 ^ (-23 : Int)) ≠
      10000000 * 10 ^ (-2 : Int) - 1000000000000000000000001 * 10 ^ (-24 : Int) := by
    norm_num
  exact unequal (by simpa [Decimal.amount, rational, DecimalFloat.signed] using net)

end RateGuard
