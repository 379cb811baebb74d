import RateGuard.Foundation.DecimalValue

/-!
# Order of rounded sums

Rounding to a context respects the order of nonnegative numbers, and a number that
already fits the context is not changed. Hence sums of nonnegative decimals grow with
their operands and never fall below a fitted operand.
-/

open Outcome

namespace DecimalFloat

/-- Value of a nonnegative finite decimal. -/
def scaled (coefficient : Nat) (exponent : Int) : ℚ := coefficient * 10 ^ exponent

/-- Powers of ten are positive. -/
private theorem power_pos (exponent : Int) : (0 : ℚ) < 10 ^ exponent := by positivity

/-- Exponents of a natural and an integer power add up. -/
private theorem power_add (count : Nat) (exponent : Int) :
    (10 : ℚ) ^ count * 10 ^ exponent = 10 ^ (count + exponent : Int) := by
  rw [zpow_add₀ (by norm_num), zpow_natCast]

/-- Rounded division by one divisor respects the order of magnitudes. -/
theorem divide_mono (mode : Rounding) (negative : Bool) {first second : Nat} (divisor : Nat)
    (ordered : first ≤ second) :
    mode.divide negative first divisor ≤ mode.divide negative second divisor := by
  have quotients := Nat.div_le_div_right (c := divisor) ordered
  have one := Nat.div_add_mod first divisor
  have two := Nat.div_add_mod second divisor
  unfold Rounding.divide
  rcases Nat.lt_or_eq_of_le quotients with below | same
  · split <;> split <;> omega
  · rw [same] at one ⊢
    have remainders : first % divisor ≤ second % divisor := by omega
    have implied : mode.increments negative (second / divisor) (first % divisor) divisor = true →
        mode.increments negative (second / divisor) (second % divisor) divisor = true := by
      cases mode with
      | halfUp =>
        simp only [Rounding.increments, decide_eq_true_eq]
        omega
      | halfEven =>
        simp only [Rounding.increments, Bool.or_eq_true, Bool.and_eq_true, decide_eq_true_eq,
          beq_iff_eq]
        rintro (above | ⟨tie, odd⟩)
        · exact .inl (by omega)
        · rcases Nat.lt_or_eq_of_le remainders with less | equal
          · exact .inl (by omega)
          · exact .inr ⟨by omega, odd⟩
      | floor =>
        simp only [Rounding.increments, Bool.and_eq_true, decide_eq_true_eq]
        exact fun both => ⟨both.1, by omega⟩
      | ceiling =>
        simp only [Rounding.increments, Bool.and_eq_true, decide_eq_true_eq]
        exact fun both => ⟨both.1, by omega⟩
    by_cases up : mode.increments negative (second / divisor) (first % divisor) divisor = true
    · rw [if_pos up, if_pos (implied up)]
    · rw [if_neg up]
      omega

/-- A magnitude has fewer digits than its bounding power of ten. -/
theorem lt_pow_digits (coefficient : Nat) : coefficient < 10 ^ digits coefficient :=
  Nat.lt_pow_succ_log_self (by decide) coefficient

/-- A nonzero magnitude reaches the power of ten of its other digits. -/
theorem pow_digits_le {coefficient : Nat} (nonzero : coefficient ≠ 0) :
    10 ^ (digits coefficient - 1) ≤ coefficient := Nat.pow_log_le_self 10 nonzero

/-- Larger magnitudes have at least as many digits. -/
theorem digits_mono {first second : Nat} (ordered : first ≤ second) :
    digits first ≤ digits second := Nat.succ_le_succ (Nat.log_mono_right ordered)

/-- A magnitude below a power of ten has at most its digits. -/
theorem digits_le_of_lt {coefficient count : Nat} (positive : 0 < count)
    (below : coefficient < 10 ^ count) : digits coefficient ≤ count := by
  unfold digits
  rcases Nat.eq_zero_or_pos coefficient with zero | nonzero
  · rw [zero, Nat.log_zero_right]
    exact positive
  · have log := (Nat.log_lt_iff_lt_pow (by decide) (by omega)).mpr below
    exact log

/-- Smallest exponent at which a magnitude fits a context. -/
def lowestExponent (ctx : Context) (coefficient : Nat) (exponent : Int) : Int :=
  max (digits coefficient + exponent - ctx.precision) ctx.etiny

/-- Value of a magnitude rounded to a context. -/
def roundedValue (ctx : Context) (negative : Bool) (coefficient : Nat) (exponent : Int) : ℚ :=
  if exponent < lowestExponent ctx coefficient exponent then
    scaled (ctx.rounding.divide negative coefficient
      (10 ^ (lowestExponent ctx coefficient exponent - exponent).toNat))
      (lowestExponent ctx coefficient exponent)
  else scaled coefficient exponent

/-- A magnitude rounded at its lowest exponent reaches at most the next power of ten. -/
theorem divide_le_power (ctx : Context) (negative : Bool) {coefficient : Nat} {exponent : Int}
    (coarse : exponent < lowestExponent ctx coefficient exponent) :
    ctx.rounding.divide negative coefficient
      (10 ^ (lowestExponent ctx coefficient exponent - exponent).toNat) ≤ 10 ^ ctx.precision := by
  have count : digits coefficient ≤
      ctx.precision + (lowestExponent ctx coefficient exponent - exponent).toNat := by
    have natural : (digits coefficient : Int) + exponent - ctx.precision ≤
      lowestExponent ctx coefficient exponent := le_max_left _ _
    omega
  have bound : coefficient ≤ 10 ^ ctx.precision *
      10 ^ (lowestExponent ctx coefficient exponent - exponent).toNat := by
    rw [← pow_add]
    exact (lt_pow_digits coefficient).le.trans (Nat.pow_le_pow_right (by decide) count)
  have divided := divide_mono ctx.rounding negative
    (10 ^ (lowestExponent ctx coefficient exponent - exponent).toNat) bound
  rw [divide_exact _ _ _ _ (by positivity)] at divided
  exact divided

/-- A nonnegative finite decimal that a context does not round. -/
structure Fitted (ctx : Context) (coefficient : Nat) (exponent : Int) : Prop where
  /-- The digits fit. -/
  digits : digits coefficient ≤ ctx.precision
  /-- The exponent is not too small. -/
  lower : ctx.etiny ≤ exponent
  /-- The number is not too large. -/
  upper : (DecimalFloat.digits coefficient : Int) + exponent - ctx.precision ≤ ctx.etop

/-- The smallest exponent is below the largest one. -/
theorem Context.etiny_le_etop (ctx : Context) : ctx.etiny ≤ ctx.etop := by
  have centered := ctx.centered
  have positive := ctx.positive
  unfold etiny etop
  omega

/-- Fitting rounds at the lowest exponent and moves a carry up. -/
theorem fitNonzero_eq (ctx : Context) (negative : Bool) (coefficient : Nat) (exponent : Int) :
    Decimal.fitNonzero ctx negative coefficient exponent =
      if ctx.etop < (digits coefficient : Int) + exponent - ctx.precision then .error .overflow
      else if exponent < lowestExponent ctx coefficient exponent then
        if digits (rescale ctx.rounding negative coefficient exponent
            (lowestExponent ctx coefficient exponent)) ≤ ctx.precision then
          .ok (.finite negative (rescale ctx.rounding negative coefficient exponent
            (lowestExponent ctx coefficient exponent)) (lowestExponent ctx coefficient exponent))
        else if ctx.etop < lowestExponent ctx coefficient exponent + 1 then .error .overflow
        else .ok (.finite negative (rescale ctx.rounding negative coefficient exponent
          (lowestExponent ctx coefficient exponent) / 10)
          (lowestExponent ctx coefficient exponent + 1))
      else .ok (.finite negative coefficient exponent) := rfl

/-- A fitted nonzero magnitude has the rounded value and fits. -/
theorem fitNonzero_value {ctx : Context} {negative : Bool} {coefficient : Nat} {exponent : Int}
    {result : Decimal} (fitted : Decimal.fitNonzero ctx negative coefficient exponent = .ok result) :
    ∃ rounded place, result = .finite negative rounded place ∧
      scaled rounded place = roundedValue ctx negative coefficient exponent ∧
      Fitted ctx rounded place := by
  rw [fitNonzero_eq] at fitted
  have limits := ctx.etiny_le_etop
  by_cases large : ctx.etop < (digits coefficient : Int) + exponent - ctx.precision
  · rw [if_pos large] at fitted
    cases fitted
  · rw [if_neg large] at fitted
    have natural : (digits coefficient : Int) + exponent - ctx.precision ≤
      lowestExponent ctx coefficient exponent := le_max_left _ _
    have tiny : ctx.etiny ≤ lowestExponent ctx coefficient exponent := le_max_right _ _
    have lowest : lowestExponent ctx coefficient exponent ≤ ctx.etop :=
      max_le (by omega) limits
    by_cases coarse : exponent < lowestExponent ctx coefficient exponent
    · have bound := divide_le_power ctx negative coarse
      have rescaled : rescale ctx.rounding negative coefficient exponent
          (lowestExponent ctx coefficient exponent) =
          ctx.rounding.divide negative coefficient
            (10 ^ (lowestExponent ctx coefficient exponent - exponent).toNat) := if_pos coarse
      unfold roundedValue
      rw [if_pos coarse, rescaled] at fitted
      rw [if_pos coarse]
      generalize ctx.rounding.divide negative coefficient
        (10 ^ (lowestExponent ctx coefficient exponent - exponent).toNat) = rounded at *
      by_cases within : digits rounded ≤ ctx.precision
      · rw [if_pos within] at fitted
        cases fitted
        exact ⟨_, _, rfl, rfl, within, tiny, by omega⟩
      · rw [if_neg within] at fitted
        have full : rounded = 10 ^ ctx.precision := by
          apply le_antisymm bound
          by_contra below
          exact within (digits_le_of_lt ctx.positive (Nat.lt_of_not_le below))
        by_cases beyond : ctx.etop < lowestExponent ctx coefficient exponent + 1
        · rw [if_pos beyond] at fitted
          cases fitted
        · rw [if_neg beyond] at fitted
          cases fitted
          have tenth : rounded / 10 = 10 ^ (ctx.precision - 1) := by
            have split : ctx.precision = ctx.precision - 1 + 1 := by
              have positive := ctx.positive
              omega
            rw [full]
            conv_lhs => rw [split, pow_succ]
            exact Nat.mul_div_cancel _ (by decide)
          have digitsTenth : digits (rounded / 10) ≤ ctx.precision := by
            rw [tenth]
            apply digits_le_of_lt ctx.positive
            apply Nat.pow_lt_pow_right (by decide)
            have positive := ctx.positive
            omega
          refine ⟨rounded / 10, lowestExponent ctx coefficient exponent + 1, rfl, ?_,
            digitsTenth, ?_, ?_⟩
          · have whole : (rounded / 10 : Nat) * 10 = rounded := by
              rw [tenth, full, ← pow_succ]
              congr 1
              have positive := ctx.positive
              omega
            unfold scaled
            rw [zpow_add₀ (by norm_num), zpow_one, mul_comm ((10 : ℚ) ^ _) 10, ← mul_assoc]
            congr 1
            exact_mod_cast whole
          · exact tiny.trans (by omega)
          · omega
    · rw [if_neg coarse] at fitted
      cases fitted
      unfold roundedValue
      rw [if_neg coarse]
      exact ⟨_, _, rfl, rfl, by omega, by omega, by omega⟩

/-- Rounding at one exponent respects the order of magnitudes. -/
theorem roundedValue_mono (ctx : Context) (negative : Bool) {first second : Nat} (exponent : Int)
    (nonzero : first ≠ 0) (ordered : first ≤ second) :
    roundedValue ctx negative first exponent ≤ roundedValue ctx negative second exponent := by
  have count := digits_mono ordered
  have larger : second ≠ 0 := by omega
  have lowests : lowestExponent ctx first exponent ≤ lowestExponent ctx second exponent :=
    max_le_max (by omega) le_rfl
  unfold roundedValue
  by_cases coarse : exponent < lowestExponent ctx second exponent
  · rw [if_pos coarse]
    rcases lowests.lt_or_eq with below | same
    · -- The larger magnitude has more digits, so a power of ten lies between the two.
      have natural : lowestExponent ctx second exponent =
          (digits second : Int) + exponent - ctx.precision := by
        apply max_eq_left
        have tiny : ctx.etiny ≤ lowestExponent ctx first exponent := le_max_right _ _
        by_contra less
        have other : lowestExponent ctx second exponent = ctx.etiny :=
          max_eq_right (le_of_not_ge less)
        omega
      have shorter : (digits first : Int) + exponent - ctx.precision ≤
        lowestExponent ctx first exponent := le_max_left _ _
      have fewer : digits first ≤ digits second - 1 := by omega
      have positive := ctx.positive
      have middle : (10 : ℚ) ^ (((digits second - 1 : Nat) : Int) + exponent) ≤
          scaled (ctx.rounding.divide negative second
            (10 ^ (lowestExponent ctx second exponent - exponent).toNat))
            (lowestExponent ctx second exponent) := by
        have parts : digits second - 1 = ctx.precision - 1 +
            (lowestExponent ctx second exponent - exponent).toNat := by omega
        have reached : 10 ^ (ctx.precision - 1) * 10 ^ (lowestExponent ctx second exponent -
            exponent).toNat ≤ second := by
          rw [← pow_add, ← parts]
          exact pow_digits_le larger
        have divided := divide_mono ctx.rounding negative
          (10 ^ (lowestExponent ctx second exponent - exponent).toNat) reached
        rw [divide_exact _ _ _ _ (by positivity)] at divided
        have place : ((digits second - 1 : Nat) : Int) + exponent =
            ((ctx.precision - 1 : Nat) : Int) + lowestExponent ctx second exponent := by omega
        rw [place, ← power_add]
        exact mul_le_mul_of_nonneg_right (by exact_mod_cast divided) (power_pos _).le
      refine le_trans ?_ middle
      by_cases fine : exponent < lowestExponent ctx first exponent
      · rw [if_pos fine]
        have parts : digits second - 1 = (digits second - 1 -
            (lowestExponent ctx first exponent - exponent).toNat) +
            (lowestExponent ctx first exponent - exponent).toNat := by omega
        have reached : first ≤ 10 ^ (digits second - 1 -
            (lowestExponent ctx first exponent - exponent).toNat) *
            10 ^ (lowestExponent ctx first exponent - exponent).toNat := by
          rw [← pow_add, ← parts]
          exact (lt_pow_digits first).le.trans (Nat.pow_le_pow_right (by decide) fewer)
        have divided := divide_mono ctx.rounding negative
          (10 ^ (lowestExponent ctx first exponent - exponent).toNat) reached
        rw [divide_exact _ _ _ _ (by positivity)] at divided
        have place : ((digits second - 1 : Nat) : Int) + exponent =
            ((digits second - 1 - (lowestExponent ctx first exponent - exponent).toNat : Nat) :
              Int) + lowestExponent ctx first exponent := by omega
        rw [place, ← power_add]
        exact mul_le_mul_of_nonneg_right (by exact_mod_cast divided) (power_pos _).le
      · rw [if_neg fine, ← power_add]
        have reached : first ≤ 10 ^ (digits second - 1) :=
          (lt_pow_digits first).le.trans (Nat.pow_le_pow_right (by decide) fewer)
        exact mul_le_mul_of_nonneg_right (by exact_mod_cast reached) (power_pos _).le
    · rw [same, if_pos coarse]
      have divided := divide_mono ctx.rounding negative
        (10 ^ (lowestExponent ctx second exponent - exponent).toNat) ordered
      exact mul_le_mul_of_nonneg_right (by exact_mod_cast divided) (power_pos _).le
  · have fine : ¬exponent < lowestExponent ctx first exponent := by omega
    rw [if_neg coarse, if_neg fine]
    exact mul_le_mul_of_nonneg_right (by exact_mod_cast ordered) (power_pos _).le

/-- A zero is zero at every exponent. -/
theorem scaled_zero (exponent : Int) : scaled 0 exponent = 0 := by
  simp [scaled]

/-- Magnitudes at one exponent are ordered as their values. -/
theorem scaled_le_iff {first second : Nat} (exponent : Int) :
    scaled first exponent ≤ scaled second exponent ↔ first ≤ second := by
  unfold scaled
  rw [mul_le_mul_iff_of_pos_right (power_pos exponent)]
  exact Nat.cast_le

/-- Padding to a smaller exponent keeps the value. -/
theorem scaled_lowered (coefficient : Nat) {exponent target : Int} (below : target ≤ exponent) :
    scaled (coefficient * 10 ^ (exponent - target).toNat) target = scaled coefficient exponent := by
  have lowered := lowered_value coefficient exponent target below
  unfold scaled
  exact_mod_cast lowered

/-- Nonnegative decimals of one value are the same. -/
theorem same_of_scaled {first second : Nat} {exponent other : Int}
    (equal : scaled first exponent = scaled second other) :
    Decimal.Same (.finite false first exponent) (.finite false second other) := by
  unfold Decimal.Same Decimal.number signed
  simp only [Bool.false_eq_true, if_false, Int.cast_natCast]
  exact congrArg Number.rational equal

/-- Nonnegative decimals that are the same have one value. -/
theorem scaled_of_same {first second : Nat} {exponent other : Int}
    (same : Decimal.Same (.finite false first exponent) (.finite false second other)) :
    scaled first exponent = scaled second other := by
  have values := finite_same_value same
  simpa [signed, scaled] using values

/-- Two nonnegative finite decimals in order. -/
inductive UpTo : Decimal → Decimal → Prop
  | intro {first second : Nat} {exponent other : Int}
      (ordered : scaled first exponent ≤ scaled second other) :
      UpTo (.finite false first exponent) (.finite false second other)

/-- The order is transitive. -/
theorem UpTo.trans {small middle large : Decimal} (lower : UpTo small middle)
    (upper : UpTo middle large) : UpTo small large := by
  cases lower with
  | intro first =>
    cases upper with
    | intro second => exact .intro (first.trans second)

/-- A nonnegative decimal is not below itself. -/
theorem UpTo.refl (coefficient : Nat) (exponent : Int) :
    UpTo (.finite false coefficient exponent) (.finite false coefficient exponent) := .intro le_rfl

/-- A fitted magnitude keeps its sign, and has the rounded value. -/
theorem fit_value {ctx : Context} {negative : Bool} {coefficient : Nat} {exponent : Int}
    {result : Decimal} (fitted : Decimal.fit ctx negative coefficient exponent = .ok result) :
    ∃ rounded place, result = .finite negative rounded place ∧
      (coefficient = 0 → rounded = 0) ∧
      (coefficient ≠ 0 → scaled rounded place = roundedValue ctx negative coefficient exponent) ∧
      (rounded = 0 ∨ Fitted ctx rounded place) := by
  unfold Decimal.fit at fitted
  by_cases zero : coefficient = 0
  · rw [if_pos zero] at fitted
    cases fitted
    exact ⟨0, _, rfl, fun _ => rfl, fun nonzero => absurd zero nonzero, .inl rfl⟩
  · rw [if_neg zero] at fitted
    obtain ⟨rounded, place, same, value, fits⟩ := fitNonzero_value fitted
    exact ⟨rounded, place, same, fun is => absurd is zero, fun _ => value, .inr fits⟩

/-- Fitting padded magnitudes respects their order. -/
theorem fit_mono {ctx : Context} {first second : Nat} {exponent : Int} {small large : Decimal}
    (ordered : first ≤ second) (one : Decimal.fit ctx false first exponent = .ok small)
    (two : Decimal.fit ctx false second exponent = .ok large) : UpTo small large := by
  obtain ⟨rounded, place, rfl, zero, value, -⟩ := fit_value one
  obtain ⟨other, elsewhere, rfl, -, above, -⟩ := fit_value two
  apply UpTo.intro
  by_cases none : first = 0
  · rw [zero none, scaled_zero]
    unfold scaled
    positivity
  · rw [value none, above (by omega)]
    exact roundedValue_mono ctx false exponent none ordered

/-- Fitting at a smaller exponent gives the same number. -/
theorem fit_lowered {ctx : Context} {coefficient : Nat} {exponent target : Int}
    (below : target ≤ exponent) {result : Decimal}
    (fitted : Decimal.fit ctx false coefficient exponent = .ok result) :
    ∃ other, Decimal.fit ctx false (coefficient * 10 ^ (exponent - target).toNat) target =
      .ok other ∧ Decimal.Same result other := by
  have agree := fit_same ctx (same_of_scaled (scaled_lowered coefficient below)).symm
  rw [fitted] at agree
  generalize Decimal.fit ctx false _ target = lowered at agree
  cases agree with
  | success same => exact ⟨_, rfl, same⟩

/-- Fitting respects the order of values. -/
theorem fit_upTo {ctx : Context} {first second : Nat} {exponent other : Int}
    {small large : Decimal} (ordered : scaled first exponent ≤ scaled second other)
    (one : Decimal.fit ctx false first exponent = .ok small)
    (two : Decimal.fit ctx false second other = .ok large) : UpTo small large := by
  obtain ⟨low, lowFitted, lowSame⟩ := fit_lowered (min_le_left exponent other) one
  obtain ⟨high, highFitted, highSame⟩ := fit_lowered (min_le_right exponent other) two
  have magnitudes : first * 10 ^ (exponent - min exponent other).toNat ≤
      second * 10 ^ (other - min exponent other).toNat := by
    rw [← scaled_le_iff (min exponent other), scaled_lowered _ (min_le_left _ _),
      scaled_lowered _ (min_le_right _ _)]
    exact ordered
  have between := fit_mono magnitudes lowFitted highFitted
  obtain ⟨_, _, rfl, -⟩ := fit_value one
  obtain ⟨_, _, rfl, -⟩ := fit_value two
  cases between with
  | intro between =>
    apply UpTo.intro
    rw [scaled_of_same lowSame, scaled_of_same highSame]
    exact between

/-- A nonnegative decimal that a context does not round. -/
inductive Rounded (ctx : Context) : Decimal → Prop
  | zero (exponent : Int) : Rounded ctx (.finite false 0 exponent)
  | fitted {coefficient : Nat} {exponent : Int} (fits : Fitted ctx coefficient exponent) :
      Rounded ctx (.finite false coefficient exponent)

/-- A fitted nonnegative result is rounded. -/
theorem fit_rounded {ctx : Context} {coefficient : Nat} {exponent : Int} {result : Decimal}
    (fitted : Decimal.fit ctx false coefficient exponent = .ok result) : Rounded ctx result := by
  obtain ⟨rounded, place, rfl, -, -, zero | fits⟩ := fit_value fitted
  · rw [zero]
    exact .zero place
  · exact .fitted fits

/-- Fitting does not change a number that fits. -/
theorem Fitted.fit {ctx : Context} {negative : Bool} {coefficient : Nat} {exponent : Int}
    (fits : Fitted ctx coefficient exponent) (nonzero : coefficient ≠ 0) :
    Decimal.fit ctx negative coefficient exponent = .ok (.finite negative coefficient exponent) := by
  have digits := fits.digits
  have lower := fits.lower
  have upper := fits.upper
  have fine : ¬exponent < lowestExponent ctx coefficient exponent := by
    have lowest : lowestExponent ctx coefficient exponent ≤ exponent := max_le (by omega) lower
    omega
  rw [Decimal.fit, if_neg nonzero, fitNonzero_eq, if_neg (by omega), if_neg fine]

/-- The sum of nonnegative decimals is their padded sum, fitted. -/
theorem add_nonnegative (ctx : Context) (first second : Nat) (exponent other : Int) :
    Decimal.add ctx (.finite false first exponent) (.finite false second other) =
      Decimal.fit ctx false (first * 10 ^ (exponent - min exponent other).toNat +
        second * 10 ^ (other - min exponent other).toNat) (min exponent other) := by
  have sign : Decimal.zeroSumSign ctx false false = false := by
    simp [Decimal.zeroSumSign]
  have sum : Decimal.alignedSum false first exponent false second other =
      ((first * 10 ^ (exponent - min exponent other).toNat +
        second * 10 ^ (other - min exponent other).toNat : Nat) : Int) := by
    simp [Decimal.alignedSum, signed]
  rw [Decimal.add, sign, sum]
  generalize first * 10 ^ _ + second * 10 ^ _ = total
  unfold Decimal.fitSigned
  have sign' : decide ((total : Int) < 0) = false := decide_eq_false (by omega)
  by_cases zero : total = 0
  · rw [zero]
    rfl
  · rw [if_neg (by exact_mod_cast zero), Int.natAbs_natCast, sign']

/-- The value of a padded sum is the sum of the values. -/
theorem scaled_sum (first second : Nat) (exponent other : Int) :
    scaled (first * 10 ^ (exponent - min exponent other).toNat +
      second * 10 ^ (other - min exponent other).toNat) (min exponent other) =
      scaled first exponent + scaled second other := by
  rw [← scaled_lowered first (min_le_left exponent other),
    ← scaled_lowered second (min_le_right exponent other)]
  unfold scaled
  push_cast
  ring

/-- Sums of nonnegative decimals respect the order of the operands. -/
theorem add_upTo {ctx : Context} {left right left' right' small large : Decimal}
    (lefts : UpTo left left') (rights : UpTo right right')
    (one : Decimal.add ctx left right = .ok small)
    (two : Decimal.add ctx left' right' = .ok large) : UpTo small large := by
  cases lefts with
  | intro lefts =>
    cases rights with
    | intro rights =>
      rw [add_nonnegative] at one two
      refine fit_upTo ?_ one two
      rw [scaled_sum, scaled_sum]
      exact add_le_add lefts rights

/-- Sums of nonnegative decimals are rounded. -/
theorem add_rounded {ctx : Context} {first second : Nat} {exponent other : Int}
    {sum : Decimal}
    (added : Decimal.add ctx (.finite false first exponent) (.finite false second other) =
      .ok sum) : Rounded ctx sum := by
  rw [add_nonnegative] at added
  exact fit_rounded added

/-- A sum does not fall below a rounded operand. -/
theorem add_grows {ctx : Context} {left left' sum : Decimal} {coefficient : Nat}
    {exponent : Int} (rounded : Rounded ctx left) (lefts : UpTo left left')
    (added : Decimal.add ctx left' (.finite false coefficient exponent) = .ok sum) :
    UpTo left sum := by
  have positive : UpTo (.finite false 0 exponent) (.finite false coefficient exponent) := by
    apply UpTo.intro
    rw [scaled_zero]
    unfold scaled
    positivity
  have none : ∀ place, ∃ same, Decimal.add ctx (.finite false 0 place) (.finite false 0 exponent) =
      .ok same ∧ UpTo (.finite false 0 place) same := by
    intro place
    rw [add_nonnegative, Nat.zero_mul, Nat.zero_mul]
    refine ⟨_, if_pos rfl, .intro ?_⟩
    rw [scaled_zero, scaled_zero]
  have padded : ∃ same, Decimal.add ctx left (.finite false 0 exponent) = .ok same ∧
      UpTo left same := by
    cases rounded with
    | zero place => exact none place
    | fitted fits =>
      rename_i first place
      by_cases zero : first = 0
      · rw [zero]
        exact none place
      · obtain ⟨other, fitted, same⟩ := fit_lowered (min_le_left place exponent)
          (fits.fit zero)
        rw [add_nonnegative, Nat.zero_mul, Nat.add_zero]
        refine ⟨other, fitted, ?_⟩
        obtain ⟨_, _, rfl, -⟩ := fit_value fitted
        exact .intro (scaled_of_same same).le
  obtain ⟨same, sum', below⟩ := padded
  exact below.trans (add_upTo lefts positive sum' added)

/-- Rescaling keeps zero. -/
theorem rescale_zero (mode : Rounding) (negative : Bool) (exponent target : Int) :
    rescale mode negative 0 exponent target = 0 := by
  unfold rescale
  split
  · have exact := divide_exact mode negative 0 (10 ^ (target - exponent).toNat) (by positivity)
    rwa [Nat.zero_mul] at exact
  · exact Nat.zero_mul _

/-- Rounding to an exponent gives the rescaled magnitude. -/
theorem quantize_value {ctx : Context} {coefficient : Nat} {exponent target : Int}
    {mode : Rounding} {result : Decimal}
    (quantized : Decimal.quantize ctx (.finite false coefficient exponent) target mode =
      .ok result) :
    ∃ rounded place, result = .finite false rounded place ∧
      scaled rounded place = scaled (rescale mode false coefficient exponent target) target := by
  simp only [Decimal.quantize] at quantized
  by_cases limits : target < ctx.etiny ∨ ctx.emax < target
  · rw [if_pos limits] at quantized
    cases quantized
  · rw [if_neg limits] at quantized
    by_cases zero : coefficient = 0
    · rw [if_pos zero] at quantized
      obtain ⟨rounded, place, rfl, none, -⟩ := fit_value quantized
      exact ⟨rounded, place, rfl, by rw [none rfl, zero, rescale_zero, scaled_zero, scaled_zero]⟩
    · rw [if_neg zero] at quantized
      split at quantized
      · cases quantized
      · split at quantized
        · cases quantized
        · split at quantized
          · cases quantized
          · rename_i within
            obtain ⟨rounded, place, rfl, none, value, -⟩ := fit_value quantized
            refine ⟨rounded, place, rfl, ?_⟩
            by_cases empty : rescale mode false coefficient exponent target = 0
            · rw [none empty, empty, scaled_zero, scaled_zero]
            · rw [value empty]
              have lowest : lowestExponent ctx
                  (rescale mode false coefficient exponent target) target ≤ target :=
                max_le (by omega) (by omega)
              exact if_neg (by omega)

/-- Rescaling at one exponent respects the order of magnitudes. -/
theorem rescale_mono (mode : Rounding) {first second : Nat} (exponent target : Int)
    (ordered : first ≤ second) :
    rescale mode false first exponent target ≤ rescale mode false second exponent target := by
  unfold rescale
  split
  · exact divide_mono mode false _ ordered
  · exact Nat.mul_le_mul_right _ ordered

/-- Rounding to an exponent respects the order. -/
theorem quantize_upTo {ctx : Context} {target : Int} {mode : Rounding}
    {left right small large : Decimal} (ordered : UpTo left right)
    (one : left.quantize ctx target mode = .ok small)
    (two : right.quantize ctx target mode = .ok large) : UpTo small large := by
  cases ordered with
  | intro ordered =>
    rename_i first second exponent other
    obtain ⟨_, _, rfl, low⟩ := quantize_value one
    obtain ⟨_, _, rfl, high⟩ := quantize_value two
    apply UpTo.intro
    have lowered : ∀ (coefficient : Nat) (place : Int), min exponent other ≤ place →
        rescale mode false coefficient place target =
          rescale mode false (coefficient * 10 ^ (place - min exponent other).toNat)
            (min exponent other) target := by
      intro coefficient place below
      have padded := rescale_pad mode false coefficient (place - min exponent other).toNat place
        target
      have gap : place - ((place - min exponent other).toNat : Int) = min exponent other := by
        omega
      rw [gap] at padded
      exact padded.symm
    rw [low, high, scaled_le_iff, lowered first exponent (min_le_left _ _),
      lowered second other (min_le_right _ _)]
    apply rescale_mono
    rw [← scaled_le_iff (min exponent other), scaled_lowered _ (min_le_left _ _),
      scaled_lowered _ (min_le_right _ _)]
    exact ordered

/-- Ordered nonnegative decimals compare so. -/
theorem UpTo.le {small large : Decimal} (ordered : UpTo small large) :
    small.le large = .ok true := by
  cases ordered with
  | intro ordered =>
    rename_i first second exponent other
    have magnitudes : first * 10 ^ (exponent - min exponent other).toNat ≤
        second * 10 ^ (other - min exponent other).toNat := by
      rw [← scaled_le_iff (min exponent other), scaled_lowered _ (min_le_left _ _),
        scaled_lowered _ (min_le_right _ _)]
      exact ordered
    apply congrArg Except.ok
    apply decide_eq_true
    simp only [signed, Bool.false_eq_true, if_false]
    exact_mod_cast magnitudes

/-- A nonnegative number or positive infinity. -/
inductive Magnitude : Decimal → Prop
  | finite (coefficient : Nat) (exponent : Int) : Magnitude (.finite false coefficient exponent)
  | infinite : Magnitude (.infinity false)

/-- Nonnegative decimals in order, positive infinity above all. -/
inductive AtMost : Decimal → Decimal → Prop
  | finite {small large : Decimal} (ordered : UpTo small large) : AtMost small large
  | infinite (small : Decimal) : AtMost small (.infinity false)

/-- A decimal that exceeds positive infinity is the only one it does not exceed. -/
theorem AtMost.magnitude {small large : Decimal} (ordered : AtMost small large) :
    Magnitude large := by
  cases ordered with
  | finite ordered =>
    cases ordered
    exact .finite _ _
  | infinite => exact .infinite

/-- A sum with positive infinity is positive infinity. -/
theorem add_infinite {ctx : Context} {left right sum : Decimal} (first : Magnitude left)
    (second : Magnitude right) (infinite : left = .infinity false ∨ right = .infinity false)
    (added : Decimal.add ctx left right = .ok sum) : sum = .infinity false := by
  cases first with
  | finite coefficient exponent =>
    rcases infinite with none | rfl
    · cases none
    · exact (Except.ok.inj added).symm
  | infinite =>
    cases second with
    | finite coefficient exponent => exact (Except.ok.inj added).symm
    | infinite => exact (Except.ok.inj added).symm

/-- Sums respect the order, positive infinity included. -/
theorem add_atMost {ctx : Context} {left right left' right' small large : Decimal}
    (lefts : AtMost left left') (rights : AtMost right right')
    (one : Decimal.add ctx left right = .ok small)
    (two : Decimal.add ctx left' right' = .ok large) : AtMost small large := by
  cases lefts with
  | infinite =>
    rw [add_infinite .infinite rights.magnitude (.inl rfl) two]
    exact .infinite small
  | finite first =>
    cases rights with
    | infinite =>
      rw [add_infinite (AtMost.finite first).magnitude .infinite (.inr rfl) two]
      exact .infinite small
    | finite second => exact .finite (add_upTo first second one two)

/-- A rounded decimal or positive infinity. -/
def Settled (ctx : Context) (value : Decimal) : Prop := Rounded ctx value ∨ value = .infinity false

/-- A sum does not fall below a settled operand. -/
theorem add_above {ctx : Context} {left left' amount sum : Decimal} (settled : Settled ctx left)
    (lefts : AtMost left left') (nonnegative : Magnitude amount)
    (added : Decimal.add ctx left' amount = .ok sum) : AtMost left sum := by
  cases lefts with
  | infinite =>
    rw [add_infinite .infinite nonnegative (.inl rfl) added]
    exact .infinite left
  | finite below =>
    cases nonnegative with
    | infinite =>
      rw [add_infinite (AtMost.finite below).magnitude .infinite (.inr rfl) added]
      exact .infinite left
    | finite coefficient exponent =>
      rcases settled with rounded | infinite
      · exact .finite (add_grows rounded below added)
      · rw [infinite] at below
        cases below

/-- A sum of nonnegative operands is settled. -/
theorem add_settled {ctx : Context} {left right sum : Decimal} (first : Magnitude left)
    (second : Magnitude right) (added : Decimal.add ctx left right = .ok sum) :
    Settled ctx sum := by
  cases first with
  | infinite => exact .inr (add_infinite .infinite second (.inl rfl) added)
  | finite coefficient exponent =>
    cases second with
    | infinite => exact .inr (add_infinite (.finite _ _) .infinite (.inr rfl) added)
    | finite other place => exact .inl (add_rounded added)

/-- A settled decimal is nonnegative. -/
theorem Settled.magnitude {ctx : Context} {value : Decimal} (settled : Settled ctx value) :
    Magnitude value := by
  rcases settled with rounded | rfl
  · cases rounded <;> exact .finite _ _
  · exact .infinite

/-- A positive decimal is a magnitude. -/
theorem magnitude_of_positive {value : Decimal}
    (positive : Decimal.lt (.ofInt 0) value = .ok true) : Magnitude value := by
  cases value with
  | infinity negative =>
    cases negative with
    | false => exact .infinite
    | true => exact absurd (Except.ok.inj positive) (by decide)
  | nan signaling => cases positive
  | finite negative coefficient exponent =>
    cases negative with
    | false => exact .finite _ _
    | true =>
      have ordered := of_decide_eq_true (Except.ok.inj positive)
      simp only [signed, if_true, Int.natAbs_zero, Nat.zero_mul] at ordered
      omega

/-- The opposite of a negative decimal is a magnitude. -/
theorem magnitude_of_negative {value : Decimal}
    (below : Decimal.lt value (.ofInt 0) = .ok true) : Magnitude value.negate := by
  cases value with
  | infinity negative =>
    cases negative with
    | true => exact .infinite
    | false => exact absurd (Except.ok.inj below) (by decide)
  | nan signaling => cases below
  | finite negative coefficient exponent =>
    cases negative with
    | true => exact .finite _ _
    | false =>
      have ordered := of_decide_eq_true (Except.ok.inj below)
      simp only [signed, Bool.false_eq_true, if_false, Int.natAbs_zero, Nat.zero_mul,
        Int.lt_irrefl, decide_false] at ordered
      omega

/-- Rounding to an exponent respects the order; infinity is refused. -/
theorem quantize_atMost {ctx : Context} {target : Int} {mode : Rounding}
    {left right small large : Decimal} (ordered : AtMost left right)
    (one : left.quantize ctx target mode = .ok small)
    (two : right.quantize ctx target mode = .ok large) : UpTo small large := by
  cases ordered with
  | infinite => cases two
  | finite ordered => exact quantize_upTo ordered one two

end DecimalFloat
