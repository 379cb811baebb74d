import RateGuard.Foundation.DecimalLine
import RateGuard.Foundation.DecimalOrder

/-!
# Exact sums of decimals

Decimals that count one power of ten are added, subtracted and compared as integers while the
counts have no more digits than the context keeps. Without that, a result is still finite, and its
magnitude is not rounded a second time.
-/

open Outcome

namespace DecimalFloat

/-- Number of a finite decimal; infinities and undefined values have none and count as zero. -/
def Decimal.amount : Decimal → ℚ
  | .finite negative coefficient exponent => rational negative coefficient exponent
  | .infinity _ | .nan _ => 0

/-- Whether a decimal is finite. -/
def Decimal.Finite : Decimal → Prop
  | .finite _ _ _ => True
  | .infinity _ | .nan _ => False

/-- Whether a decimal is a number of units of a power of ten. -/
def Decimal.Counts (value : Decimal) (unit count : Int) : Prop :=
  value.number = .rational (count * 10 ^ unit)

/-- Powers of ten whose counts a context keeps. -/
structure Context.HasUnit (ctx : Context) (unit : Int) : Prop where
  /-- The unit is not too small. -/
  lower : ctx.etiny ≤ unit
  /-- The unit is not too large. -/
  upper : unit ≤ ctx.etop

/-- A finite decimal in its parts. -/
theorem Decimal.Finite.parts {value : Decimal} (finite : value.Finite) :
    ∃ negative coefficient exponent, value = .finite negative coefficient exponent := by
  cases value with
  | finite negative coefficient exponent => exact ⟨negative, coefficient, exponent, rfl⟩
  | infinity negative => exact finite.elim
  | nan signaling => exact finite.elim

/-- A decimal that counts units is finite and has their amount. -/
theorem Decimal.Counts.parts {value : Decimal} {unit count : Int}
    (counts : value.Counts unit count) :
    ∃ negative coefficient exponent, value = .finite negative coefficient exponent ∧
      rational negative coefficient exponent = count * 10 ^ unit := by
  cases value with
  | finite negative coefficient exponent =>
    exact ⟨negative, coefficient, exponent, rfl, Number.rational.inj counts⟩
  | infinity negative => cases counts
  | nan signaling => cases counts

/-- A decimal that counts units has their amount. -/
theorem Decimal.Counts.amount {value : Decimal} {unit count : Int}
    (counts : value.Counts unit count) : value.amount = count * 10 ^ unit := by
  obtain ⟨negative, coefficient, exponent, rfl, value⟩ := counts.parts
  exact value

/-- A decimal that counts units is finite. -/
theorem Decimal.Counts.finite {value : Decimal} {unit count : Int}
    (counts : value.Counts unit count) : value.Finite := by
  obtain ⟨negative, coefficient, exponent, rfl, -⟩ := counts.parts
  trivial

/-- An integer is its sign and magnitude. -/
theorem signed_natAbs_self (value : Int) : signed (decide (value < 0)) value.natAbs = value := by
  by_cases negative : value < 0
  · simp only [signed, negative, decide_true, if_true]
    omega
  · simp only [signed, negative, decide_false, Bool.false_eq_true, if_false]
    omega

/-- A computation that agrees with a result has an equal one. -/
theorem sameResult_ok {run : Except Signal Decimal} {value : Decimal}
    (agree : SameResult run (.ok value)) : ∃ result, run = .ok result ∧ Decimal.Same result value := by
  cases agree with
  | success same => exact ⟨_, rfl, same⟩

/-- A count of few enough digits fits the context at its unit. -/
theorem fit_unit {ctx : Context} {negative : Bool} {count : Nat} {unit : Int}
    (has : ctx.HasUnit unit) (few : count < 10 ^ ctx.precision) (nonzero : count ≠ 0) :
    Decimal.fit ctx negative count unit = .ok (.finite negative count unit) := by
  have digits := digits_le_of_lt ctx.positive few
  have upper := has.upper
  exact Fitted.fit ⟨digits, has.lower, by omega⟩ nonzero

/-- Fitting keeps an amount of few enough units. -/
theorem fit_counts {ctx : Context} {negative : Bool} {coefficient : Nat} {exponent unit : Int}
    {count : Int} (has : ctx.HasUnit unit) (few : count.natAbs < 10 ^ ctx.precision)
    (value : rational negative coefficient exponent = count * 10 ^ unit) :
    ∃ result, Decimal.fit ctx negative coefficient exponent = .ok result ∧
      result.Counts unit count := by
  have same : Decimal.Same (.finite negative coefficient exponent)
      (.finite (decide (count < 0)) count.natAbs unit) := by
    refine congrArg Number.rational ?_
    rw [signed_natAbs_self]
    exact value
  have agree := fit_same ctx same
  by_cases zero : count = 0
  · obtain ⟨result, fitted, counts⟩ : ∃ result,
        Decimal.fit ctx (decide (count < 0)) count.natAbs unit = .ok result ∧
          result.Counts unit count := by
      rw [zero]
      exact ⟨_, rfl, by simp [Decimal.Counts, Decimal.number]⟩
    rw [fitted] at agree
    obtain ⟨other, fit, equal⟩ := sameResult_ok agree
    exact ⟨other, fit, Eq.trans equal counts⟩
  · rw [fit_unit has few (Int.natAbs_ne_zero.mpr zero)] at agree
    obtain ⟨other, fit, equal⟩ := sameResult_ok agree
    refine ⟨other, fit, Eq.trans equal (congrArg Number.rational ?_)⟩
    rw [signed_natAbs_self]

/-- Counts of few enough digits add up. -/
theorem add_counts {ctx : Context} {left right : Decimal} {unit first second : Int}
    (has : ctx.HasUnit unit) (few : (first + second).natAbs < 10 ^ ctx.precision)
    (one : left.Counts unit first) (two : right.Counts unit second) :
    ∃ sum, Decimal.add ctx left right = .ok sum ∧ sum.Counts unit (first + second) := by
  obtain ⟨sign, coefficient, exponent, rfl, value⟩ := one.parts
  obtain ⟨otherSign, otherCoefficient, otherExponent, rfl, otherValue⟩ := two.parts
  let aligned := Decimal.alignedSum sign coefficient exponent otherSign otherCoefficient
    otherExponent
  have total : (aligned : ℚ) * 10 ^ min exponent otherExponent =
      ((first + second : Int) : ℚ) * 10 ^ unit := by
    rw [alignedSum_value, Int.cast_add, add_mul, ← value, ← otherValue]
    rfl
  show ∃ sum, Decimal.fitSigned ctx _ aligned _ = .ok sum ∧ _
  unfold Decimal.fitSigned
  split
  · next zero =>
    refine fit_counts has few ?_
    rw [← total, zero, rational, signed_zero, Int.cast_zero, zero_mul]
  · refine fit_counts has few ?_
    rw [← total, rational, signed_natAbs_self]

/-- A negated count. -/
theorem Decimal.Counts.negate {value : Decimal} {unit count : Int}
    (counts : value.Counts unit count) : value.negate.Counts unit (-count) := by
  obtain ⟨sign, coefficient, exponent, rfl, value⟩ := counts.parts
  refine congrArg Number.rational ?_
  rw [signed_not, Int.cast_neg, Int.cast_neg, neg_mul, neg_mul, ← value]
  rfl

/-- Counts of few enough digits are subtracted. -/
theorem sub_counts {ctx : Context} {left right : Decimal} {unit first second : Int}
    (has : ctx.HasUnit unit) (few : (first - second).natAbs < 10 ^ ctx.precision)
    (one : left.Counts unit first) (two : right.Counts unit second) :
    ∃ difference, Decimal.sub ctx left right = .ok difference ∧
      difference.Counts unit (first - second) := by
  rw [sub_eq_add_neg] at few ⊢
  exact add_counts has few one two.negate

/-- Finite decimals are ordered by their amounts. -/
theorem lt_eq_amount {left right : Decimal} (leftFinite : left.Finite)
    (rightFinite : right.Finite) :
    Decimal.lt left right = .ok (decide (left.amount < right.amount)) := by
  obtain ⟨sign, coefficient, exponent, rfl⟩ := leftFinite.parts
  obtain ⟨otherSign, otherCoefficient, otherExponent, rfl⟩ := rightFinite.parts
  rw [lt_eq_place (fun _ same => by cases same) (fun _ same => by cases same)]
  exact congrArg Except.ok
    (decide_eq_decide.mpr (WithBot.coe_lt_coe.trans WithTop.coe_lt_coe))

/-- Finite decimals are equal where their amounts are. -/
theorem eq_eq_amount {left right : Decimal} (leftFinite : left.Finite)
    (rightFinite : right.Finite) :
    Decimal.eq left right = .ok (decide (left.amount = right.amount)) := by
  obtain ⟨sign, coefficient, exponent, rfl⟩ := leftFinite.parts
  obtain ⟨otherSign, otherCoefficient, otherExponent, rfl⟩ := rightFinite.parts
  rw [eq_eq_place (fun _ same => by cases same) (fun _ same => by cases same)]
  exact congrArg Except.ok (decide_eq_decide.mpr (WithBot.coe_inj.trans WithTop.coe_inj))

/-- Counts of one unit are ordered as integers. -/
theorem lt_counts {left right : Decimal} {unit first second : Int}
    (one : left.Counts unit first) (two : right.Counts unit second) :
    Decimal.lt left right = .ok (decide (first < second)) := by
  have power : (0 : ℚ) < 10 ^ unit := by positivity
  rw [lt_eq_amount one.finite two.finite, one.amount, two.amount]
  refine congrArg Except.ok (decide_eq_decide.mpr ?_)
  rw [mul_lt_mul_iff_left₀ power, Int.cast_lt]

/-- Zero counts no unit. -/
theorem counts_zero (negative : Bool) (exponent unit : Int) :
    (Decimal.finite negative 0 exponent).Counts unit 0 := by
  simp [Decimal.Counts, Decimal.number]

/-- Finite decimals of one amount are the same. -/
theorem same_iff_amount {left right : Decimal} (leftFinite : left.Finite)
    (rightFinite : right.Finite) : Decimal.Same left right ↔ left.amount = right.amount := by
  obtain ⟨sign, coefficient, exponent, rfl⟩ := leftFinite.parts
  obtain ⟨otherSign, otherCoefficient, otherExponent, rfl⟩ := rightFinite.parts
  exact ⟨Number.rational.inj, congrArg Number.rational⟩

/-- The difference of finite decimals is finite. -/
theorem sub_finite {ctx : Context} {left right difference : Decimal} (leftFinite : left.Finite)
    (rightFinite : right.Finite) (subtracted : Decimal.sub ctx left right = .ok difference) :
    ∃ sign coefficient exponent, difference = .finite sign coefficient exponent ∧
      (coefficient = 0 ∨ Fitted ctx coefficient exponent) := by
  obtain ⟨sign, coefficient, exponent, rfl⟩ := leftFinite.parts
  obtain ⟨otherSign, otherCoefficient, otherExponent, rfl⟩ := rightFinite.parts
  change Decimal.fitSigned ctx _ _ _ = .ok difference at subtracted
  unfold Decimal.fitSigned at subtracted
  split at subtracted
  · obtain ⟨rounded, place, rfl, -, -, fits⟩ := fit_value subtracted
    exact ⟨_, rounded, place, rfl, fits⟩
  · obtain ⟨rounded, place, rfl, -, -, fits⟩ := fit_value subtracted
    exact ⟨_, rounded, place, rfl, fits⟩

/-- A magnitude that a context does not round keeps its amount when it is fitted again. -/
theorem fit_again {ctx : Context} {negative : Bool} {coefficient : Nat} {exponent : Int}
    (fits : coefficient = 0 ∨ Fitted ctx coefficient exponent) {result : Decimal}
    (fitted : Decimal.fit ctx false coefficient exponent = .ok result) :
    result.Finite ∧ result.amount = |(Decimal.finite negative coefficient exponent).amount| := by
  have magnitude : |rational negative coefficient exponent| =
      rational false coefficient exponent := by
    have power : (0 : ℚ) < 10 ^ exponent := by positivity
    unfold rational
    rw [abs_mul, abs_of_pos power]
    cases negative <;> simp [signed]
  by_cases zero : coefficient = 0
  · obtain ⟨rounded, place, rfl, none, -, -⟩ := fit_value fitted
    refine ⟨trivial, ?_⟩
    show rational false rounded place = |rational negative coefficient exponent|
    rw [magnitude, none zero, zero]
    simp [rational]
  · rw [(fits.resolve_left zero).fit zero] at fitted
    cases fitted
    exact ⟨trivial, magnitude.symm⟩

/-- A whole number is not changed by truncation. -/
theorem truncate_whole {negative : Bool} {coefficient : Nat} {exponent whole : Int}
    (exact : rational negative coefficient exponent = whole) :
    (Decimal.finite negative coefficient exponent).truncate = some whole := by
  have scaled : signed negative (rescale .floor false coefficient exponent 0) = whole := by
    by_cases small : exponent < 0
    · have power : (0 : ℚ) < 10 ^ (-exponent).toNat := by positivity
      have lifted : (10 : ℚ) ^ exponent = (10 ^ (-exponent).toNat)⁻¹ := by
        rw [← zpow_natCast, Int.toNat_of_nonneg (by omega), zpow_neg, inv_inv]
      have product : signed negative coefficient = whole * 10 ^ (-exponent).toNat := by
        rw [rational, lifted, ← div_eq_mul_inv, div_eq_iff power.ne'] at exact
        exact_mod_cast exact
      have magnitude : coefficient = whole.natAbs * 10 ^ (-exponent).toNat := by
        have sizes := congrArg Int.natAbs product
        rw [Int.natAbs_mul, Int.natAbs_pow] at sizes
        rw [← show (10 : Int).natAbs = 10 from rfl, ← sizes]
        cases negative <;> simp [signed]
      unfold rescale
      rw [if_pos small, zero_sub, magnitude, divide_exact .floor false _ _ (by positivity)]
      rw [magnitude] at product
      have positive : (0 : Int) < 10 ^ (-exponent).toNat := by positivity
      refine Int.eq_of_mul_eq_mul_right positive.ne' (Eq.trans ?_ product)
      cases negative <;> simp [signed]
    · unfold rescale
      rw [if_neg small, sub_zero]
      have lifted : (10 : ℚ) ^ exponent = 10 ^ exponent.toNat := by
        rw [← zpow_natCast, Int.toNat_of_nonneg (by omega)]
      rw [rational, lifted] at exact
      have whole : signed negative coefficient * 10 ^ exponent.toNat = whole := by
        exact_mod_cast exact
      rw [← whole]
      cases negative <;> simp [signed]
  rw [Decimal.truncate, scaled]

end DecimalFloat
