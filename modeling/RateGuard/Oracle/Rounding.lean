import RateGuard.Foundation.DecimalGrid
import RateGuard.Oracle.Expression

/-!
# Rounding

Every premium is rounded by the same function. Where the context keeps the result, it is the
rounding to a number of decimal places: rounding it again changes nothing, and a larger value has
no smaller one.
-/

open DecimalFloat

namespace RateGuard

/-- Step between numbers with a number of decimal places. -/
def decimalStep (precision : Nat) : ℚ := 10 ^ (-(precision : Int))

/-- Whether the rounding of a value to a number of decimal places fits the context. -/
def RoundingFits (value : Decimal) (precision : Nat) (mode : Rounding) : Prop :=
  decimalContext.etiny ≤ -(precision : Int) ∧
    ∃ count : ℤ, mode.Rounds (decimalStep precision) value.amount count ∧
      count.natAbs < 10 ^ decimalContext.precision

/-- Steps are positive. -/
theorem decimalStep_pos (precision : Nat) : 0 < decimalStep precision := by
  unfold decimalStep
  positivity

/-- Exponent of a number of decimal places that the context has. -/
theorem roundingExponent_eq {precision : Nat}
    (fits : decimalContext.etiny ≤ -(precision : Int)) :
    roundingExponent precision = -(precision : Int) := by
  unfold roundingExponent
  by_cases places : 0 < (precision : Int)
  · rw [if_pos places, max_eq_left fits]
  · rw [if_neg places]
    omega

/-- The context has the steps of a number of decimal places. -/
theorem decimalContext_hasUnit {precision : Nat}
    (fits : decimalContext.etiny ≤ -(precision : Int)) :
    decimalContext.HasUnit (-(precision : Int)) := by
  have top : decimalContext.etop = 999972 := rfl
  exact ⟨fits, by omega⟩

/-- A sign does not change the size of a magnitude. -/
theorem signed_size (negative : Bool) (magnitude : Nat) :
    (signed negative magnitude).natAbs = magnitude := by
  cases negative <;> simp [signed]

/-- A fitting value is rounded to the decimal of its count of steps. -/
theorem roundDecimal_eq {value : Decimal} (finite : value.Finite) {precision : Nat}
    {mode : Rounding} (fits : RoundingFits value precision mode) :
    ∃ negative coefficient,
      roundDecimal value precision mode =
        .ok (.finite negative coefficient (-(precision : Int))) ∧
      mode.Rounds (decimalStep precision) value.amount (signed negative coefficient) ∧
      coefficient < 10 ^ decimalContext.precision := by
  obtain ⟨places, count, rounds, few⟩ := fits
  obtain ⟨negative, coefficient, exponent, rfl⟩ := finite.parts
  have rescaled := rescale_rounds mode negative coefficient exponent (-(precision : Int))
  rw [rounds.unique (decimalStep_pos precision) rescaled, signed_size] at few
  refine ⟨negative, _, ?_, rescaled, few⟩
  unfold roundDecimal
  rw [roundingExponent_eq places]
  exact quantize_ok mode negative (decimalContext_hasUnit places) few

/-- A rounded decimal is rounded to itself. -/
theorem roundDecimal_rounded {precision : Nat} (mode : Rounding)
    (places : decimalContext.etiny ≤ -(precision : Int)) (negative : Bool) {coefficient : Nat}
    (few : coefficient < 10 ^ decimalContext.precision) :
    roundDecimal (.finite negative coefficient (-(precision : Int))) precision mode =
      .ok (.finite negative coefficient (-(precision : Int))) := by
  have same : rescale mode negative coefficient (-(precision : Int)) (-(precision : Int)) =
      coefficient := by
    unfold rescale
    rw [if_neg (lt_irrefl _), sub_self, Int.toNat_zero, pow_zero, mul_one]
  unfold roundDecimal
  rw [roundingExponent_eq places, quantize_ok mode negative (decimalContext_hasUnit places)
    (by rwa [same]), same]

/-- Rounding finds the multiple of the step for its direction, keeps what it has rounded and
respects the order of values. -/
theorem roundDecimal_rounds (value : Decimal) (finite : value.Finite) (precision : Nat)
    (mode : Rounding) (fits : RoundingFits value precision mode) :
    ∃ result, ∃ count : ℤ, roundDecimal value precision mode = .ok result ∧ result.Finite ∧
      result.amount = count * decimalStep precision ∧
      mode.Rounds (decimalStep precision) value.amount count ∧
      roundDecimal result precision mode = .ok result ∧
      ∀ larger : Decimal, larger.Finite → RoundingFits larger precision mode →
        value.amount ≤ larger.amount →
        ∃ above, roundDecimal larger precision mode = .ok above ∧
          result.amount ≤ above.amount := by
  obtain ⟨negative, coefficient, rounded, rounds, few⟩ := roundDecimal_eq finite fits
  refine ⟨_, signed negative coefficient, rounded, trivial, rfl, rounds,
    roundDecimal_rounded mode fits.1 negative few, ?_⟩
  intro larger largerFinite largerFits ordered
  obtain ⟨sign, above, other, otherRounds, -⟩ := roundDecimal_eq largerFinite largerFits
  refine ⟨_, other, ?_⟩
  have counts := rounds.mono (decimalStep_pos precision) ordered otherRounds
  exact mul_le_mul_of_nonneg_right (Int.cast_le.mpr counts) (decimalStep_pos precision).le

/-- A negative tie is rounded up away from zero. -/
theorem roundDecimal_rounds_tie :
    ∃ result, ∃ count : ℤ,
      roundDecimal (.finite true 25 (-1)) (0 : Nat) .halfUp = .ok result ∧ result.Finite ∧
      result.amount = count * decimalStep 0 ∧
      Rounding.Rounds .halfUp (decimalStep 0) (Decimal.amount (.finite true 25 (-1))) count ∧
      roundDecimal result (0 : Nat) .halfUp = .ok result ∧
      ∀ larger : Decimal, larger.Finite → RoundingFits larger 0 .halfUp →
        Decimal.amount (.finite true 25 (-1)) ≤ larger.amount →
        ∃ above, roundDecimal larger (0 : Nat) .halfUp = .ok above ∧
          result.amount ≤ above.amount :=
  roundDecimal_rounds (.finite true 25 (-1)) trivial 0 .halfUp
    ⟨by decide, -3, rescale_rounds .halfUp true 25 (-1) (-((0 : Nat) : Int)), by decide⟩

end RateGuard
