import Mathlib.Algebra.Order.Field.Rat
import Mathlib.Order.WithBot
import RateGuard.Foundation.DecimalValue

/-!
# Decimals on a line

Defined decimals take their places on the rational line with an infinity at either end.
Comparisons decide by these places, and equal places are equal numbers.
-/

namespace DecimalFloat

/-- The rational line with both infinities. -/
abbrev Line := WithBot (WithTop ℚ)

/-- Whether a decimal is a number or an infinity. -/
def Decimal.Defined (value : Decimal) : Prop := ∀ signaling, value ≠ .nan signaling

/-- Rational number of a finite decimal. -/
def rational (negative : Bool) (coefficient : Nat) (exponent : Int) : ℚ :=
  signed negative coefficient * 10 ^ exponent

/-- Place of a decimal on the line; undefined values have none and are put at its start. -/
def Decimal.place : Decimal → Line
  | .finite negative coefficient exponent =>
    (((rational negative coefficient exponent : ℚ) : WithTop ℚ) : Line)
  | .infinity negative => if negative then ⊥ else ⊤
  | .nan _ => ⊥

/-- Finite decimals are defined. -/
theorem FiniteDecimal.defined (value : FiniteDecimal) : value.toDecimal.Defined :=
  fun _ same => Decimal.noConfusion same

/-- Integers are defined. -/
theorem Decimal.ofInt_defined (value : Int) : (Decimal.ofInt value).Defined :=
  fun _ same => Decimal.noConfusion same

/-- Signed coefficients at a common exponent have the order of their numbers. -/
theorem aligned_lt (left right : Bool) (first second : Nat) (exponent other : Int) :
    signed left (first * 10 ^ (exponent - min exponent other).toNat) <
        signed right (second * 10 ^ (other - min exponent other).toNat) ↔
      rational left first exponent < rational right second other := by
  have scale : (0 : ℚ) < 10 ^ min exponent other := by positivity
  unfold rational
  rw [← lowered_signed left first (min_le_left exponent other),
    ← lowered_signed right second (min_le_right exponent other),
    mul_lt_mul_iff_left₀ scale, Int.cast_lt]

/-- Signed coefficients at a common exponent are equal for equal numbers. -/
theorem aligned_eq (left right : Bool) (first second : Nat) (exponent other : Int) :
    signed left (first * 10 ^ (exponent - min exponent other).toNat) =
        signed right (second * 10 ^ (other - min exponent other).toNat) ↔
      rational left first exponent = rational right second other := by
  have scale : (0 : ℚ) < 10 ^ min exponent other := by positivity
  unfold rational
  rw [← lowered_signed left first (min_le_left exponent other),
    ← lowered_signed right second (min_le_right exponent other),
    mul_left_inj' scale.ne', Int.cast_inj]

/-- A number lies after the start of the line. -/
theorem bot_lt_number (number : ℚ) : (⊥ : Line) < ((number : WithTop ℚ) : Line) :=
  WithBot.bot_lt_coe _

/-- A number lies before the end of the line. -/
theorem number_lt_top (number : ℚ) : ((number : WithTop ℚ) : Line) < ⊤ := by
  rw [← WithBot.coe_top, WithBot.coe_lt_coe]
  exact WithTop.coe_lt_top number

/-- Strict comparison decides by the places. -/
theorem lt_eq_place {left right : Decimal} (leftDefined : left.Defined)
    (rightDefined : right.Defined) :
    Decimal.lt left right = .ok (decide (left.place < right.place)) := by
  cases left with
  | nan signaling => exact absurd rfl (leftDefined signaling)
  | finite negative coefficient exponent =>
    cases right with
    | nan signaling => exact absurd rfl (rightDefined signaling)
    | finite other magnitude power =>
      simp only [Decimal.lt, Decimal.orders, Decimal.place, aligned_lt, WithBot.coe_lt_coe,
        WithTop.coe_lt_coe]
    | infinity other => cases other <;> rfl
  | infinity negative =>
    cases right with
    | nan signaling => exact absurd rfl (rightDefined signaling)
    | finite other magnitude power => cases negative <;> rfl
    | infinity other => cases negative <;> cases other <;> rfl

/-- Non-strict comparison decides by the places. -/
theorem le_eq_place {left right : Decimal} (leftDefined : left.Defined)
    (rightDefined : right.Defined) :
    Decimal.le left right = .ok (decide (left.place ≤ right.place)) := by
  have reversed : ∀ {first second : Decimal}, first.Defined → second.Defined →
      Decimal.le first second = (Decimal.lt second first).map (!·) := by
    intro first second firstDefined secondDefined
    cases first with
    | nan signaling => exact absurd rfl (firstDefined signaling)
    | finite negative coefficient exponent =>
      cases second with
      | nan signaling => exact absurd rfl (secondDefined signaling)
      | finite other magnitude power =>
        simp only [Decimal.le, Decimal.lt, Decimal.orders, Except.map, min_comm power exponent,
          ← decide_not, not_lt]
      | infinity other => cases other <;> rfl
    | infinity negative =>
      cases second with
      | nan signaling => exact absurd rfl (secondDefined signaling)
      | finite other magnitude power => cases negative <;> rfl
      | infinity other => cases negative <;> cases other <;> rfl
  rw [reversed leftDefined rightDefined, lt_eq_place rightDefined leftDefined]
  simp only [Except.map, ← decide_not, not_lt]

/-- Equality decides by the places. -/
theorem eq_eq_place {left right : Decimal} (leftDefined : left.Defined)
    (rightDefined : right.Defined) :
    Decimal.eq left right = .ok (decide (left.place = right.place)) := by
  rw [eq_of_defined leftDefined rightDefined]
  cases left with
  | nan signaling => exact absurd rfl (leftDefined signaling)
  | finite negative coefficient exponent =>
    cases right with
    | nan signaling => exact absurd rfl (rightDefined signaling)
    | finite other magnitude power =>
      refine congrArg Except.ok (Bool.eq_iff_iff.mpr ?_)
      rw [beq_iff_eq, decide_eq_true_iff, aligned_eq]
      exact (WithBot.coe_inj.trans WithTop.coe_inj).symm
    | infinity other => cases other <;> rfl
  | infinity negative =>
    cases right with
    | nan signaling => exact absurd rfl (rightDefined signaling)
    | finite other magnitude power => cases negative <;> rfl
    | infinity other => cases negative <;> cases other <;> rfl

/-- Defined decimals of one place denote the same number. -/
theorem same_iff_place {left right : Decimal} (leftDefined : left.Defined)
    (rightDefined : right.Defined) : Decimal.Same left right ↔ left.place = right.place := by
  constructor
  · intro same
    have decided := eq_same same (Decimal.Same.refl right)
    rw [eq_eq_place leftDefined rightDefined, eq_eq_place rightDefined rightDefined] at decided
    simpa using decided
  · intro place
    cases left with
    | nan signaling => exact absurd rfl (leftDefined signaling)
    | finite negative coefficient exponent =>
      cases right with
      | nan signaling => exact absurd rfl (rightDefined signaling)
      | finite other magnitude power =>
        exact congrArg Number.rational (WithTop.coe_injective (WithBot.coe_injective place))
      | infinity other =>
        cases other with
        | false => exact absurd place (number_lt_top _).ne
        | true => exact absurd place (bot_lt_number _).ne'
    | infinity negative =>
      cases right with
      | nan signaling => exact absurd rfl (rightDefined signaling)
      | finite other magnitude power =>
        cases negative with
        | false => exact absurd place (number_lt_top _).ne'
        | true => exact absurd place (bot_lt_number _).ne
      | infinity other =>
        cases negative <;> cases other
        · rfl
        · exact absurd place (by decide)
        · exact absurd place (by decide)
        · rfl

end DecimalFloat
