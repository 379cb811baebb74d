import Mathlib.Data.List.Sort
import Mathlib.Data.Rat.Floor
import RateGuard.Foundation.Dictionary
import RateGuard.Portfolio.Totals

/-!
# Cohorts of a portfolio

Screening of the impact by cohorts: one pass over the policies fills a dictionary for each figure,
and each cohort of a dimension is listed with its size, and with its metrics when it is not too
small. Arithmetic on floating-point numbers is a parameter that keeps the order of rationals.
-/

open DecimalFloat Dictionary Outcome

namespace RateGuard

/-- Outcome of repricing an affected policy. -/
structure PolicyImpactRecord where
  /-- Target premium less canonical premium. -/
  signedVariance : Decimal
  /-- Its magnitude. -/
  absoluteVariance : Decimal

/-- `PolicyImpactRecord.overcharged`. -/
def PolicyImpactRecord.overcharged (impact : PolicyImpactRecord) : Except Failure Bool :=
  raising (Decimal.lt (.ofInt 0) impact.signedVariance)

/-- Floating-point arithmetic, as far as metrics use it. -/
structure FloatArithmetic (F : Type) where
  /-- Number nearest to a rational. -/
  nearest : ℚ → ℚ
  /-- It keeps the order. -/
  mono : Monotone nearest
  /-- Zero is a number. -/
  zero : nearest 0 = 0
  /-- One is a number. -/
  one : nearest 1 = 1
  /-- Number nearest to a decimal. -/
  ofDecimal : Decimal → Except Failure F
  /-- Mean rounded to two places. -/
  mean : List F → F

/-- A rational rounded to some decimal places. -/
def roundPlaces (places : Nat) (value : ℚ) : ℚ :=
  signed (value < 0)
      (Rounding.halfEven.divide (value < 0) (value.num.natAbs * 10 ^ places) value.den) /
    10 ^ places

/-- Share of a total, rounded to four places. -/
def FloatArithmetic.rate {F : Type} (arithmetic : FloatArithmetic F) (part total : Nat) : ℚ :=
  arithmetic.nearest (roundPlaces 4 (arithmetic.nearest (part / total)))

/-- Metrics of a cohort. -/
structure CohortMetrics (F : Type) where
  /-- Dimension. -/
  cohortDimension : String
  /-- Value of the dimension. -/
  cohortValue : String
  /-- Policies of the cohort. -/
  sampleSize : Nat
  /-- Whether the metrics are withheld. -/
  suppressed : Bool
  /-- Share of exposed policies. -/
  selectionRate : Option ℚ
  /-- Share of affected policies. -/
  affectedRate : Option ℚ
  /-- Mean magnitude of the variances, as written. -/
  meanAbsoluteChange : Option String
  /-- Mean magnitude in percent of the canonical premium. -/
  meanPercentageChange : Option F
  /-- Share of overcharged policies among the affected ones. -/
  overchargeRate : Option ℚ

/-- Figures of one dimension by value. -/
structure CohortTallies (F : Type) where
  /-- Policies. -/
  totals : List (String × Nat)
  /-- Exposed policies. -/
  exposed : List (String × Nat)
  /-- Affected policies. -/
  affected : List (String × Nat)
  /-- Sums of the magnitudes. -/
  absChange : List (String × Decimal)
  /-- Magnitudes in percent. -/
  pctChanges : List (String × List F)
  /-- Overcharged policies. -/
  overcharged : List (String × Nat)

/-- Figures before the first policy. -/
def CohortTallies.empty {F : Type} : CohortTallies F := ⟨[], [], [], [], [], []⟩

/-- What the screening works with. -/
structure Screening (F : Type) where
  /-- Floating-point arithmetic. -/
  arithmetic : FloatArithmetic F
  /-- `str(getattr(policy, dimension))`. -/
  attributeText : String → SyntheticPolicy → Except Failure String
  /-- Records of affected policies by identifier. -/
  impactByPolicy : List (String × PolicyImpactRecord)
  /-- Identifiers of exposed policies. -/
  exposedPolicyIds : List String
  /-- Policies that a cohort needs for its metrics. -/
  minimumCohortSize : Int

section Screening

variable {F : Type}

/-- Record of a policy, if it is affected. -/
def Screening.impact? (screening : Screening F) (policy : SyntheticPolicy) :
    Option PolicyImpactRecord := screening.impactByPolicy.lookup policy.policyId

/-- Magnitude of a record in percent of a canonical premium. -/
def Screening.percentage (screening : Screening F) (policy : SyntheticPolicy)
    (impact : PolicyImpactRecord) : Except Failure F := do
  let quotient ← raising
    (Decimal.div decimalContext impact.absoluteVariance policy.canonicalPremium.toDecimal)
  let percent ← raising (Decimal.mul decimalContext quotient (.ofInt 100))
  screening.arithmetic.ofDecimal percent

/-- Lists the percentage of an affected policy with a canonical premium. -/
def Screening.tallyPercentage (screening : Screening F) (tallies : CohortTallies F)
    (value : String) (policy : SyntheticPolicy) (impact : PolicyImpactRecord) :
    Except Failure (CohortTallies F) :=
  if policy.canonicalPremium.coefficient = 0 then .ok tallies
  else do
    let percent ← screening.percentage policy impact
    return { tallies with
      pctChanges := change tallies.pctChanges value fun before => before.getD [] ++ [percent] }

/-- Adds the record of an affected policy to the figures of its value. -/
def Screening.tallyImpact (screening : Screening F) (tallies : CohortTallies F) (value : String)
    (policy : SyntheticPolicy) (impact : PolicyImpactRecord) :
    Except Failure (CohortTallies F) := do
  let sum ← raising (Decimal.add decimalContext
    ((tallies.absChange.lookup value).getD (.ofInt 0)) impact.absoluteVariance)
  let summed := { tallies with
    affected := count tallies.affected value
    absChange := change tallies.absChange value fun _ => sum }
  let priced ← screening.tallyPercentage summed value policy impact
  if ← impact.overcharged then
    return { priced with overcharged := count priced.overcharged value }
  else return priced

/-- Adds a policy to the figures of its value. -/
def Screening.tallyPolicy (screening : Screening F) (dimension : String)
    (tallies : CohortTallies F) (policy : SyntheticPolicy) :
    Except Failure (CohortTallies F) := do
  let value ← screening.attributeText dimension policy
  let counted := { tallies with
    totals := count tallies.totals value
    exposed := if policy.policyId ∈ screening.exposedPolicyIds then count tallies.exposed value
      else tallies.exposed }
  match screening.impact? policy with
  | some impact => screening.tallyImpact counted value policy impact
  | none => return counted

/-- Mean magnitude of some affected policies, as written, if there are any. -/
def meanChange (sum : Decimal) (affected : Nat) : Except Failure (Option String) :=
  if affected = 0 then .ok none
  else do
    let quotient ← raising (Decimal.div decimalContext sum (.ofInt affected))
    let mean ← raising (quotient.quantize decimalContext (-2) .halfEven)
    return some (String.ofList mean.text)

/-- Metrics of one value. -/
def Screening.metrics (screening : Screening F) (dimension : String) (tallies : CohortTallies F)
    (value : String) (total : Nat) : Except Failure (CohortMetrics F) :=
  if (total : Int) < screening.minimumCohortSize then
    .ok ⟨dimension, value, total, true, none, none, none, none, none⟩
  else do
    let affected := (tallies.affected.lookup value).getD 0
    let percents := (tallies.pctChanges.lookup value).getD []
    let mean ← meanChange ((tallies.absChange.lookup value).getD (.ofInt 0)) affected
    return {
      cohortDimension := dimension
      cohortValue := value
      sampleSize := total
      suppressed := false
      selectionRate := some
        (screening.arithmetic.rate ((tallies.exposed.lookup value).getD 0) total)
      affectedRate := some (screening.arithmetic.rate affected total)
      meanAbsoluteChange := mean
      meanPercentageChange :=
        if percents = [] then none else some (screening.arithmetic.mean percents)
      overchargeRate :=
        if affected = 0 then none
        else some
          (screening.arithmetic.rate ((tallies.overcharged.lookup value).getD 0) affected) }

/-- Cohorts of one dimension in the order of their values. -/
def Screening.cohorts (screening : Screening F) (policies : List SyntheticPolicy)
    (dimension : String) : Except Failure (List (CohortMetrics F)) := do
  let tallies ← policies.foldlM (screening.tallyPolicy dimension) .empty
  (tallies.totals.insertionSort fun x y => x.1 ≤ y.1).mapM fun entry =>
    screening.metrics dimension tallies entry.1 entry.2

/-- Disclaimer of a screening. -/
def impactDistributionDisclaimer : String :=
  "This screening identifies uneven outcomes in the supplied test cohorts. " ++
    "It is not a legal finding of unfair discrimination and does not replace " ++
    "actuarial, compliance, or legal review."

/-- Cohorts of all dimensions. -/
structure CohortDistributionResult (F : Type) where
  /-- Policies that a cohort needs for its metrics. -/
  minimumCohortSize : Int
  /-- Disclaimer. -/
  disclaimer : String
  /-- Cohorts, dimension by dimension. -/
  cohorts : List (CohortMetrics F)

/-- `compute_cohort_distribution`. -/
def computeCohortDistribution (screening : Screening F) (policies : List SyntheticPolicy)
    (dimensions : List String) : Except Failure (CohortDistributionResult F) := do
  let groups ← dimensions.mapM (screening.cohorts policies)
  return ⟨screening.minimumCohortSize, impactDistributionDisclaimer, groups.flatten⟩

end Screening

section Rates

/-- A share of a total lies between zero and one. -/
theorem roundPlaces_within {places : Nat} {value : ℚ} (lower : 0 ≤ value) (upper : value ≤ 1) :
    0 ≤ roundPlaces places value ∧ roundPlaces places value ≤ 1 := by
  have power : (0 : ℚ) < 10 ^ places := by positivity
  have sign : decide (value < 0) = false := decide_eq_false (not_lt.mpr lower)
  have part : value.num.natAbs * 10 ^ places ≤ 10 ^ places * value.den := by
    have most : value.num ≤ value.den := Rat.num_le_denom_iff.mpr upper
    have least : 0 ≤ value.num := Rat.num_nonneg.mpr lower
    rw [Nat.mul_comm]
    exact Nat.mul_le_mul_left _ (by omega)
  have bound := divide_mono .halfEven false value.den part
  rw [divide_exact .halfEven false _ _ value.den_pos] at bound
  unfold roundPlaces
  rw [sign]
  constructor
  · exact div_nonneg (by simp [DecimalFloat.signed]) power.le
  · rw [div_le_one power, DecimalFloat.signed, if_neg Bool.false_ne_true]
    exact_mod_cast bound

/-- A rate of a part lies between zero and one. -/
theorem FloatArithmetic.rate_within {F : Type} (arithmetic : FloatArithmetic F) {part total : Nat}
    (within : part ≤ total) : 0 ≤ arithmetic.rate part total ∧ arithmetic.rate part total ≤ 1 := by
  have keeps : ∀ value : ℚ, 0 ≤ value ∧ value ≤ 1 →
      0 ≤ arithmetic.nearest value ∧ arithmetic.nearest value ≤ 1 := by
    rintro value ⟨lower, upper⟩
    have low := arithmetic.mono lower
    have high := arithmetic.mono upper
    rw [arithmetic.zero] at low
    rw [arithmetic.one] at high
    exact ⟨low, high⟩
  have share : 0 ≤ (part : ℚ) / total ∧ (part : ℚ) / total ≤ 1 :=
    ⟨by positivity, div_le_one_of_le₀ (by exact_mod_cast within) (by positivity)⟩
  obtain ⟨lower, upper⟩ := keeps _ share
  exact keeps _ (roundPlaces_within lower upper)

end Rates

section Figures

variable {F : Type} {screening : Screening F} {dimension : String}

/-- Policies of a value. -/
def Screening.members (screening : Screening F) (dimension value : String)
    (policies : List SyntheticPolicy) : List SyntheticPolicy :=
  policies.filter fun policy => (screening.attributeText dimension policy).toOption = some value

/-- Records of the affected ones among some policies. -/
def Screening.records (screening : Screening F) (members : List SyntheticPolicy) :
    List PolicyImpactRecord := members.filterMap screening.impact?

/-- Affected policies with a canonical premium other than zero, with their records. -/
def Screening.priced (screening : Screening F) (members : List SyntheticPolicy) :
    List (SyntheticPolicy × PolicyImpactRecord) :=
  members.filterMap fun policy =>
    if policy.canonicalPremium.coefficient ≠ 0 then
      (screening.impact? policy).map fun impact => (policy, impact)
    else none

/-- Sum of the magnitudes of some records. -/
def changeSum (records : List PolicyImpactRecord) : Except Failure Decimal :=
  records.foldlM (fun sum impact =>
    raising (Decimal.add decimalContext sum impact.absoluteVariance)) (.ofInt 0)

/-- Magnitudes of some affected policies in percent. -/
def Screening.percentages (screening : Screening F)
    (priced : List (SyntheticPolicy × PolicyImpactRecord)) : Except Failure (List F) :=
  priced.mapM fun entry => screening.percentage entry.1 entry.2

/-- Whether figures are those of some policies. -/
structure Screening.Tallied (screening : Screening F) (dimension : String)
    (policies : List SyntheticPolicy) (tallies : CohortTallies F) : Prop where
  /-- The sizes add up to the number of policies. -/
  sum : (tallies.totals.map Prod.snd).sum = policies.length
  /-- Each value is listed once. -/
  distinct : (tallies.totals.map Prod.fst).Nodup
  /-- Values are listed with their policies. -/
  totals : ∀ value number, tallies.totals.lookup value = some number →
    number = (screening.members dimension value policies).length ∧ 0 < number
  /-- Values that are not listed have no policies. -/
  unlisted : ∀ value, tallies.totals.lookup value = none →
    screening.members dimension value policies = []
  /-- Exposed policies are counted. -/
  exposed : ∀ value, (tallies.exposed.lookup value).getD 0 =
    (screening.members dimension value policies).countP fun policy =>
      policy.policyId ∈ screening.exposedPolicyIds
  /-- Affected policies are counted. -/
  affected : ∀ value, (tallies.affected.lookup value).getD 0 =
    (screening.records (screening.members dimension value policies)).length
  /-- Magnitudes are summed up. -/
  absChange : ∀ value, changeSum (screening.records
    (screening.members dimension value policies)) =
      .ok ((tallies.absChange.lookup value).getD (.ofInt 0))
  /-- Percentages are listed. -/
  pctChanges : ∀ value, screening.percentages (screening.priced
    (screening.members dimension value policies)) =
      .ok ((tallies.pctChanges.lookup value).getD [])
  /-- Overcharged policies are counted. -/
  overcharged : ∀ value, (tallies.overcharged.lookup value).getD 0 =
    (screening.records (screening.members dimension value policies)).countP fun impact =>
      impact.overcharged.toOption = some true

/-- Before the first policy there are no figures. -/
theorem tallied_nil : screening.Tallied dimension [] .empty where
  sum := rfl
  distinct := List.nodup_nil
  totals := fun _ _ found => (by cases found)
  unlisted := fun _ _ => rfl
  exposed := fun _ => rfl
  affected := fun _ => rfl
  absChange := fun _ => rfl
  pctChanges := fun _ => rfl
  overcharged := fun _ => rfl

/-- What adding the record of an affected policy does to the figures. -/
structure ImpactTallied (screening : Screening F) (tallies : CohortTallies F) (value : String)
    (policy : SyntheticPolicy) (impact : PolicyImpactRecord) (next : CohortTallies F) :
    Prop where
  /-- Sizes are kept. -/
  totals : next.totals = tallies.totals
  /-- Exposed policies are kept. -/
  exposed : next.exposed = tallies.exposed
  /-- The policy is affected. -/
  affected : next.affected = count tallies.affected value
  /-- Its magnitude is added. -/
  absChange : ∃ sum, raising (Decimal.add decimalContext
      ((tallies.absChange.lookup value).getD (.ofInt 0)) impact.absoluteVariance) = .ok sum ∧
    next.absChange = change tallies.absChange value fun _ => sum
  /-- Its percentage is listed. -/
  priced : policy.canonicalPremium.coefficient ≠ 0 → ∃ percent,
    screening.percentage policy impact = .ok percent ∧ next.pctChanges =
      change tallies.pctChanges value fun before => before.getD [] ++ [percent]
  /-- Without a canonical premium there is none. -/
  unpriced : policy.canonicalPremium.coefficient = 0 → next.pctChanges = tallies.pctChanges
  /-- It is counted when it is overcharged. -/
  overcharged : ∃ above, impact.overcharged = .ok above ∧
    next.overcharged = if above then count tallies.overcharged value else tallies.overcharged

/-- What an addition of a record has done. -/
theorem tallyImpact_eq_ok {tallies next : CohortTallies F} {value : String}
    {policy : SyntheticPolicy} {impact : PolicyImpactRecord}
    (tallied : screening.tallyImpact tallies value policy impact = .ok next) :
    ImpactTallied screening tallies value policy impact next := by
  obtain ⟨sum, added, tallied⟩ := bind_eq_ok tallied
  obtain ⟨priced, listed, tallied⟩ := bind_eq_ok tallied
  obtain ⟨above, decided, tallied⟩ := bind_eq_ok tallied
  by_cases unpriced : policy.canonicalPremium.coefficient = 0
  · rw [Screening.tallyPercentage, if_pos unpriced] at listed
    cases listed
    cases above <;> cases tallied <;>
      exact ⟨rfl, rfl, rfl, ⟨sum, added, rfl⟩, fun nonzero => absurd unpriced nonzero,
        fun _ => rfl, _, decided, rfl⟩
  · rw [Screening.tallyPercentage, if_neg unpriced] at listed
    obtain ⟨percent, computed, listed⟩ := bind_eq_ok listed
    cases listed
    cases above <;> cases tallied <;>
      exact ⟨rfl, rfl, rfl, ⟨sum, added, rfl⟩, fun _ => ⟨percent, computed, rfl⟩,
        fun zero => absurd zero unpriced, _, decided, rfl⟩

/-- A policy joins the policies of its own value. -/
theorem members_own {policies : List SyntheticPolicy} {policy : SyntheticPolicy} {value : String}
    (text : screening.attributeText dimension policy = .ok value) :
    screening.members dimension value (policies ++ [policy]) =
      screening.members dimension value policies ++ [policy] := by
  rw [Screening.members, List.filter_append, List.filter_cons_of_pos (by simp [text, Except.toOption]),
    List.filter_nil]
  rfl

/-- A policy does not join those of other values. -/
theorem members_other {policies : List SyntheticPolicy} {policy : SyntheticPolicy}
    {value other : String} (text : screening.attributeText dimension policy = .ok value)
    (differs : other ≠ value) :
    screening.members dimension other (policies ++ [policy]) =
      screening.members dimension other policies := by
  have away : value ≠ other := Ne.symm differs
  rw [Screening.members, List.filter_append,
    List.filter_cons_of_neg (by simp [text, Except.toOption, away]), List.filter_nil,
    List.append_nil]
  rfl

/-- A count that a policy of a value joins keeps counting. -/
theorem count_tallied {entries : List (String × Nat)} {policies : List SyntheticPolicy}
    {policy : SyntheticPolicy} {value : String} (figure : List SyntheticPolicy → Nat)
    (text : screening.attributeText dimension policy = .ok value)
    (joins : ∀ members, figure (members ++ [policy]) = figure members + 1)
    (before : ∀ other, (entries.lookup other).getD 0 =
      figure (screening.members dimension other policies)) (other : String) :
    ((count entries value).lookup other).getD 0 =
      figure (screening.members dimension other (policies ++ [policy])) := by
  rw [getD_count, before]
  by_cases same : other = value
  · rw [if_pos same, same, members_own text, joins]
  · rw [if_neg same, members_other text same, Nat.add_zero]

/-- A figure that a policy of a value does not change is kept. -/
theorem keep_tallied {α : Type} {policies : List SyntheticPolicy} {policy : SyntheticPolicy}
    {value : String} (figure : List SyntheticPolicy → α)
    (text : screening.attributeText dimension policy = .ok value)
    (stays : ∀ members, figure (members ++ [policy]) = figure members) (other : String) :
    figure (screening.members dimension other (policies ++ [policy])) =
      figure (screening.members dimension other policies) := by
  by_cases same : other = value
  · rw [same, members_own text, stays]
  · rw [members_other text same]

/-- A dictionary that a policy of a value changes holds the changed figure. -/
theorem change_tallied {α β : Type} {entries : List (String × β)} {next : Option β → β}
    {policies : List SyntheticPolicy} {policy : SyntheticPolicy} {value : String}
    (figure : List SyntheticPolicy → α) (reads : Option β → α)
    (text : screening.attributeText dimension policy = .ok value)
    (before : ∀ other, figure (screening.members dimension other policies) =
      reads (entries.lookup other))
    (joins : ∀ members, figure members = reads (entries.lookup value) →
      figure (members ++ [policy]) = reads (some (next (entries.lookup value)))) (other : String) :
    figure (screening.members dimension other (policies ++ [policy])) =
      reads ((change entries value next).lookup other) := by
  rw [lookup_change]
  by_cases same : other = value
  · rw [if_pos same, same, members_own text]
    exact joins _ (before value)
  · rw [if_neg same, members_other text same]
    exact before other

/-- A policy is counted under its value. -/
theorem totals_tallied {policies : List SyntheticPolicy} {tallies : CohortTallies F}
    (tallied : screening.Tallied dimension policies tallies) {policy : SyntheticPolicy}
    {value : String} (text : screening.attributeText dimension policy = .ok value) :
    (((count tallies.totals value).map Prod.snd).sum = (policies ++ [policy]).length ∧
      ((count tallies.totals value).map Prod.fst).Nodup) ∧
    (∀ other number, (count tallies.totals value).lookup other = some number →
      number = (screening.members dimension other (policies ++ [policy])).length ∧ 0 < number) ∧
    ∀ other, (count tallies.totals value).lookup other = none →
      screening.members dimension other (policies ++ [policy]) = [] := by
  refine ⟨⟨?_, distinct_change tallied.distinct⟩, fun other number found => ?_,
    fun other absent => ?_⟩
  · rw [sum_count, tallied.sum, List.length_append, List.length_singleton]
  · unfold count at found
    rw [lookup_change] at found
    by_cases same : other = value
    · rw [if_pos same] at found
      cases found
      rw [same, members_own text, List.length_append, List.length_singleton]
      refine ⟨?_, Nat.succ_pos _⟩
      cases known : tallies.totals.lookup value with
      | none =>
        rw [tallied.unlisted value known]
        rfl
      | some number => rw [← (tallied.totals value number known).1, Option.getD_some]
    · rw [if_neg same] at found
      rw [members_other text same]
      exact tallied.totals other number found
  · unfold count at absent
    rw [lookup_change] at absent
    by_cases same : other = value
    · rw [if_pos same] at absent
      cases absent
    · rw [if_neg same] at absent
      rw [members_other text same]
      exact tallied.unlisted other absent

/-- A policy is counted among the exposed ones of its value. -/
theorem exposed_tallied {policies : List SyntheticPolicy} {tallies : CohortTallies F}
    (tallied : screening.Tallied dimension policies tallies) {policy : SyntheticPolicy}
    {value : String} (text : screening.attributeText dimension policy = .ok value)
    (other : String) :
    ((if policy.policyId ∈ screening.exposedPolicyIds then count tallies.exposed value
        else tallies.exposed).lookup other).getD 0 =
      (screening.members dimension other (policies ++ [policy])).countP fun policy =>
        policy.policyId ∈ screening.exposedPolicyIds := by
  by_cases inside : policy.policyId ∈ screening.exposedPolicyIds
  · rw [if_pos inside]
    refine count_tallied (List.countP fun policy => policy.policyId ∈ screening.exposedPolicyIds)
      text (fun members => ?_) tallied.exposed other
    rw [List.countP_append, List.countP_singleton, if_pos (decide_eq_true inside)]
  · rw [if_neg inside, tallied.exposed]
    refine (keep_tallied
      (List.countP fun policy => policy.policyId ∈ screening.exposedPolicyIds) text
      (fun members => ?_) other).symm
    rw [List.countP_append, List.countP_singleton, decide_eq_false inside]
    rfl

/-- Every policy keeps the figures those of the policies so far. -/
theorem tallied_step {policies : List SyntheticPolicy} {tallies next : CohortTallies F}
    (tallied : screening.Tallied dimension policies tallies) {policy : SyntheticPolicy}
    (stepped : screening.tallyPolicy dimension tallies policy = .ok next) :
    screening.Tallied dimension (policies ++ [policy]) next := by
  obtain ⟨value, text, stepped⟩ := bind_eq_ok stepped
  obtain ⟨⟨sum, distinct⟩, totals, unlisted⟩ := totals_tallied tallied text
  have exposed := exposed_tallied tallied text
  cases found : screening.impact? policy with
  | none =>
    rw [found] at stepped
    cases stepped
    have records : ∀ members, screening.records (members ++ [policy]) =
        screening.records members := fun members => by
      simp [Screening.records, found]
    have priced : ∀ members, screening.priced (members ++ [policy]) =
        screening.priced members := fun members => by
      simp [Screening.priced, found]
    exact {
      sum := sum
      distinct := distinct
      totals := totals
      unlisted := unlisted
      exposed := exposed
      affected := fun other => by
        rw [keep_tallied screening.records text records]
        exact tallied.affected other
      absChange := fun other => by
        rw [keep_tallied screening.records text records]
        exact tallied.absChange other
      pctChanges := fun other => by
        rw [keep_tallied screening.priced text priced]
        exact tallied.pctChanges other
      overcharged := fun other => by
        rw [keep_tallied screening.records text records]
        exact tallied.overcharged other }
  | some impact =>
    rw [found] at stepped
    have added := tallyImpact_eq_ok stepped
    obtain ⟨total, summed, absChange⟩ := added.absChange
    obtain ⟨above, decided, overcharged⟩ := added.overcharged
    have records : ∀ members, screening.records (members ++ [policy]) =
        screening.records members ++ [impact] := fun members => by
      simp [Screening.records, found]
    refine {
      sum := added.totals ▸ sum
      distinct := added.totals ▸ distinct
      totals := added.totals ▸ totals
      unlisted := added.totals ▸ unlisted
      exposed := added.exposed ▸ exposed
      affected := ?affected
      absChange := ?absChange
      pctChanges := ?pctChanges
      overcharged := ?overcharged }
    case affected =>
      rw [added.affected]
      refine count_tallied (fun members => (screening.records members).length) text
        (fun members => ?_) tallied.affected
      rw [records, List.length_append, List.length_singleton]
    case absChange =>
      rw [absChange]
      refine change_tallied (fun members => changeSum (screening.records members))
        (fun entry => .ok (entry.getD (.ofInt 0))) text tallied.absChange fun members before => ?_
      rw [records, changeSum, List.foldlM_append]
      unfold changeSum at before
      rw [before]
      simp only [List.foldlM_cons, List.foldlM_nil, summed, bind, Except.bind, pure, Except.pure,
        Option.getD_some]
    case pctChanges =>
      by_cases unpriced : policy.canonicalPremium.coefficient = 0
      · rw [added.unpriced unpriced]
        intro other
        rw [keep_tallied screening.priced text fun members => by
          simp [Screening.priced, unpriced]]
        exact tallied.pctChanges other
      · obtain ⟨percent, computed, pctChanges⟩ := added.priced unpriced
        rw [pctChanges]
        refine change_tallied
          (fun members => screening.percentages (screening.priced members))
          (fun entry => .ok (entry.getD [])) text tallied.pctChanges fun members before => ?_
        have priced : screening.priced (members ++ [policy]) =
            screening.priced members ++ [(policy, impact)] := by
          simp [Screening.priced, unpriced, found]
        unfold Screening.percentages at before ⊢
        rw [priced, List.mapM_append, before]
        simp only [List.mapM_cons, List.mapM_nil, computed, bind, Except.bind, pure, Except.pure,
          Option.getD_some]
    case overcharged =>
      rw [overcharged]
      cases above with
      | true =>
        refine count_tallied (fun members => (screening.records members).countP fun impact =>
          impact.overcharged.toOption = some true) text (fun members => ?_) tallied.overcharged
        rw [records, List.countP_append, List.countP_singleton, decided]
        rfl
      | false =>
        intro other
        refine (tallied.overcharged other).trans (keep_tallied
          (fun members => (screening.records members).countP fun impact =>
            impact.overcharged.toOption = some true) text (fun members => ?_) other).symm
        rw [records, List.countP_append, List.countP_singleton, decided]
        rfl

/-- A pass over policies holds their figures. -/
theorem tallied_run {policies : List SyntheticPolicy} {tallies : CohortTallies F}
    (run : policies.foldlM (screening.tallyPolicy dimension) .empty = .ok tallies) :
    screening.Tallied dimension policies tallies := by
  induction policies using List.reverseRecOn generalizing tallies with
  | nil =>
    cases run
    exact tallied_nil
  | append_singleton policies policy ih =>
    rw [List.foldlM_append] at run
    obtain ⟨before, earlier, last⟩ := bind_eq_ok run
    obtain ⟨next, stepped, last⟩ := bind_eq_ok last
    cases last
    exact tallied_step (ih earlier) stepped

/-- Whether a cohort has a metric. -/
def CohortMetrics.HasMetric (cohort : CohortMetrics F) : Prop :=
  cohort.selectionRate ≠ none ∨ cohort.affectedRate ≠ none ∨ cohort.meanAbsoluteChange ≠ none ∨
    cohort.meanPercentageChange ≠ none ∨ cohort.overchargeRate ≠ none

/-- Rates of a cohort. -/
def CohortMetrics.rates (cohort : CohortMetrics F) : List ℚ :=
  cohort.selectionRate.toList ++ cohort.affectedRate.toList ++ cohort.overchargeRate.toList

/-- What a screened cohort says about its policies. -/
structure CohortMetrics.Screened (screening : Screening F) (members : List SyntheticPolicy)
    (cohort : CohortMetrics F) : Prop where
  /-- Its size is the number of its policies. -/
  size : cohort.sampleSize = members.length ∧ 0 < cohort.sampleSize
  /-- Only cohorts of the minimum size have metrics. -/
  large : cohort.HasMetric → screening.minimumCohortSize ≤ cohort.sampleSize
  /-- Rates lie between zero and one. -/
  within : ∀ rate ∈ cohort.rates, 0 ≤ rate ∧ rate ≤ 1
  /-- The selection rate is over all policies of the cohort. -/
  selection : ∀ rate, cohort.selectionRate = some rate → rate = screening.arithmetic.rate
    (members.countP fun policy => policy.policyId ∈ screening.exposedPolicyIds) members.length
  /-- So is the affected rate. -/
  affected : ∀ rate, cohort.affectedRate = some rate →
    rate = screening.arithmetic.rate (screening.records members).length members.length
  /-- The mean magnitude is over the affected ones, of which there are some. -/
  magnitude : ∀ mean, cohort.meanAbsoluteChange = some mean →
    screening.records members ≠ [] ∧ ∃ sum, changeSum (screening.records members) = .ok sum ∧
      meanChange sum (screening.records members).length = .ok (some mean)
  /-- The mean percentage is over those with a canonical premium, of which there are some. -/
  percentage : ∀ mean, cohort.meanPercentageChange = some mean →
    ∃ percents, percents ≠ [] ∧ screening.percentages (screening.priced members) = .ok percents ∧
      mean = screening.arithmetic.mean percents
  /-- The overcharge rate is over the affected ones, of which there are some. -/
  overcharge : ∀ rate, cohort.overchargeRate = some rate → screening.records members ≠ [] ∧
    rate = screening.arithmetic.rate
      ((screening.records members).countP fun impact => impact.overcharged.toOption = some true)
      (screening.records members).length

/-- A cohort is of the dimension, value and size it was listed with. -/
theorem metrics_entry {tallies : CohortTallies F} {value : String} {total : Nat}
    {cohort : CohortMetrics F}
    (measured : screening.metrics dimension tallies value total = .ok cohort) :
    cohort.cohortDimension = dimension ∧ cohort.cohortValue = value ∧
      cohort.sampleSize = total := by
  unfold Screening.metrics at measured
  split at measured
  · cases measured
    exact ⟨rfl, rfl, rfl⟩
  · obtain ⟨mean, -, measured⟩ := bind_eq_ok measured
    cases measured
    exact ⟨rfl, rfl, rfl⟩

/-- The metrics of a listed value are those of its policies. -/
theorem metrics_screened {policies : List SyntheticPolicy} {tallies : CohortTallies F}
    (tallied : screening.Tallied dimension policies tallies) {value : String} {total : Nat}
    (listed : tallies.totals.lookup value = some total) {cohort : CohortMetrics F}
    (measured : screening.metrics dimension tallies value total = .ok cohort) :
    cohort.Screened screening (screening.members dimension value policies) := by
  obtain ⟨size, positive⟩ := tallied.totals value total listed
  unfold Screening.metrics at measured
  by_cases small : (total : Int) < screening.minimumCohortSize
  · rw [if_pos small] at measured
    cases measured
    exact ⟨⟨size, positive⟩, by simp [CohortMetrics.HasMetric],
      by simp [CohortMetrics.rates], nofun, nofun, nofun, nofun, nofun⟩
  · rw [if_neg small] at measured
    obtain ⟨mean, averaged, measured⟩ := bind_eq_ok measured
    cases measured
    have exposed := tallied.exposed value
    have affected := tallied.affected value
    have overcharged := tallied.overcharged value
    have fewer : (screening.records (screening.members dimension value policies)).length ≤
        total := by
      rw [size]
      exact List.length_filterMap_le _ _
    rw [affected] at averaged
    refine ⟨⟨size, positive⟩, fun _ => not_lt.mp small, ?within, ?selection, ?affected,
      ?magnitude, ?percentage, ?overcharge⟩
    case within =>
      intro rate member
      rcases List.mem_append.mp member with both | last
      · rcases List.mem_append.mp both with first | second
        · rw [List.mem_singleton.mp first]
          apply screening.arithmetic.rate_within
          rw [exposed, size]
          exact List.countP_le_length
        · rw [List.mem_singleton.mp second]
          apply screening.arithmetic.rate_within
          rw [affected]
          exact fewer
      · dsimp only at last
        split at last
        · cases last
        · rw [List.mem_singleton.mp last]
          apply screening.arithmetic.rate_within
          rw [overcharged, affected]
          exact List.countP_le_length
    case selection =>
      intro rate found
      rw [← Option.some.inj found, exposed, size]
    case affected =>
      intro rate found
      rw [← Option.some.inj found, affected, size]
    case magnitude =>
      intro text found
      have same : mean = some text := found
      rw [same] at averaged
      refine ⟨fun none => ?_, _, tallied.absChange value, averaged⟩
      rw [none] at averaged
      cases averaged
    case percentage =>
      intro mean found
      dsimp only at found
      split at found
      · cases found
      · next nonempty => exact ⟨_, nonempty, tallied.pctChanges value, (Option.some.inj found).symm⟩
    case overcharge =>
      intro rate found
      dsimp only at found
      split at found
      · cases found
      · next nonzero =>
        rw [affected] at nonzero
        refine ⟨fun none => nonzero (congrArg List.length none), ?_⟩
        rw [← Option.some.inj found, overcharged, affected]

/-- Lists that correspond have corresponding figures. -/
theorem map_of_forall₂ {α β γ : Type} {related : α → β → Prop} {lefts : List α} {rights : List β}
    (lists : List.Forall₂ related lefts rights) (left : α → γ) (right : β → γ)
    (kept : ∀ first second, related first second → right second = left first) :
    rights.map right = lefts.map left := by
  induction lists with
  | nil => rfl
  | cons head _ ih => rw [List.map_cons, List.map_cons, kept _ _ head, ih]

/-- Cohort screening is a partition that hides the metrics of small cohorts: the cohorts of each
dimension have distinct values and sizes that add up to the number of policies, every rate lies
between zero and one, and a metric belongs to a cohort of the minimum size, where it is computed
from all policies or from the affected ones. -/
theorem cohorts_partition (screening : Screening F) (policies : List SyntheticPolicy)
    (dimensions : List String) (result : CohortDistributionResult F)
    (computed : computeCohortDistribution screening policies dimensions = .ok result) :
    ∃ groups : List (List (CohortMetrics F)), result.cohorts = groups.flatten ∧
      List.Forall₂ (fun dimension group =>
        (group.map (·.sampleSize)).sum = policies.length ∧
          (group.map (·.cohortValue)).Nodup ∧
          ∀ cohort ∈ group, cohort.cohortDimension = dimension ∧ cohort.Screened screening
            (screening.members dimension cohort.cohortValue policies)) dimensions groups := by
  obtain ⟨groups, screened, computed⟩ := bind_eq_ok computed
  cases computed
  refine ⟨groups, rfl, (mapM_eq_ok screened).imp fun dimension group cohorts => ?_⟩
  obtain ⟨tallies, run, measured⟩ := bind_eq_ok cohorts
  have tallied := tallied_run run
  have perm := List.perm_insertionSort (fun x y : String × Nat => x.1 ≤ y.1) tallies.totals
  have entries := mapM_eq_ok measured
  refine ⟨?_, ?_, fun cohort member => ?_⟩
  · rw [map_of_forall₂ entries Prod.snd (·.sampleSize)
      fun _ _ step => (metrics_entry step).2.2, (perm.map _).sum_eq, tallied.sum]
  · rw [map_of_forall₂ entries Prod.fst (·.cohortValue) fun _ _ step => (metrics_entry step).2.1]
    exact (perm.map _).nodup_iff.mpr tallied.distinct
  · obtain ⟨entry, listed, step⟩ := exists_left entries member
    obtain ⟨named, value, -⟩ := metrics_entry step
    rw [value]
    exact ⟨named, metrics_screened tallied
      (lookup_of_mem tallied.distinct (perm.mem_iff.mp listed)) step⟩

end Figures

/-- Exact arithmetic on rationals. -/
def exactArithmetic : FloatArithmetic ℚ where
  nearest := id
  mono := monotone_id
  zero := rfl
  one := rfl
  ofDecimal := fun value => .ok value.amount
  mean := fun values => roundPlaces 2 (values.sum / values.length)

/-- Screening of two policies by territory, of which one is affected. -/
def pairScreening : Screening ℚ where
  arithmetic := exactArithmetic
  attributeText := fun _ policy => .ok policy.territory
  impactByPolicy := [("POL-1", ⟨.finite false 4500 (-2), .finite false 4500 (-2)⟩)]
  exposedPolicyIds := ["POL-1", "POL-2"]
  minimumCohortSize := 2

/-- The cohort of both policies. -/
def pairCohorts : CohortDistributionResult ℚ where
  minimumCohortSize := 2
  disclaimer := impactDistributionDisclaimer
  cohorts := [{
    cohortDimension := "territory"
    cohortValue := "T1"
    sampleSize := 2
    suppressed := false
    selectionRate := some (pairScreening.arithmetic.rate 2 2)
    affectedRate := some (pairScreening.arithmetic.rate 1 2)
    meanAbsoluteChange := some "45.00"
    meanPercentageChange := some (pairScreening.arithmetic.mean
      [(Decimal.finite false 4500 (-2)).amount])
    overchargeRate := some (pairScreening.arithmetic.rate 1 1) }]

/-- The cohorts of two policies of one territory. -/
theorem cohorts_partition_pair : ∃ groups : List (List (CohortMetrics ℚ)),
    pairCohorts.cohorts = groups.flatten ∧
      List.Forall₂ (fun dimension group =>
        (group.map (·.sampleSize)).sum = pairPortfolio.policies.length ∧
          (group.map (·.cohortValue)).Nodup ∧
          ∀ cohort ∈ group, cohort.cohortDimension = dimension ∧ cohort.Screened pairScreening
            (pairScreening.members dimension cohort.cohortValue pairPortfolio.policies))
        ["territory"] groups :=
  cohorts_partition pairScreening pairPortfolio.policies ["territory"] pairCohorts rfl

/-- A mean magnitude is not always that of the minimum number of records: it may be that of the
only affected policy of two. -/
theorem cohorts_single_record :
    ¬∀ (F : Type) (screening : Screening F) (policies : List SyntheticPolicy)
      (dimensions : List String) (result : CohortDistributionResult F),
      computeCohortDistribution screening policies dimensions = .ok result →
      ∀ cohort ∈ result.cohorts, cohort.meanAbsoluteChange ≠ none →
        screening.minimumCohortSize ≤ (screening.records (screening.members
          cohort.cohortDimension cohort.cohortValue policies)).length := by
  intro enough
  have bound := enough ℚ pairScreening pairPortfolio.policies ["territory"] pairCohorts rfl _
    (List.mem_singleton_self _) (Option.some_ne_none _)
  exact absurd bound (by decide)

end RateGuard
