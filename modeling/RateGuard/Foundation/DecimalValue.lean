import Mathlib.Algebra.Order.Field.Basic
import Mathlib.Algebra.Order.Field.Power
import Mathlib.Algebra.Order.Field.Rat
import Mathlib.Tactic.Ring
import Mathlib.Tactic.FieldSimp
import Mathlib.Tactic.Positivity
import Mathlib.Tactic.Linarith
import RateGuard.Foundation.Decimal
import RateGuard.Foundation.Outcome

/-!
# Numeric reading of decimals

A decimal denotes a rational, a signed infinity or an undefined value. Every
operation respects that reading: operands with equal numbers give results with
equal numbers or fail together, whatever their exponents and zero signs. The
finite cases rest on invariance under padding a coefficient with zeros.
-/

open Outcome

namespace DecimalFloat

/-- The abstract number a decimal denotes. -/
inductive Number where
  | rational (value : ℚ)
  | infinity (negative : Bool)
  | nan (signaling : Bool)

/-- Numeric reading, forgetting exponent and zero sign. -/
def Decimal.number : Decimal → Number
  | .finite negative coefficient exponent =>
    .rational ((signed negative coefficient : ℚ) * 10 ^ exponent)
  | .infinity negative => .infinity negative
  | .nan signaling => .nan signaling

/-- Two decimals denote the same number. -/
def Decimal.Same (left right : Decimal) : Prop := left.number = right.number

/-- A decimal denotes its own number. -/
theorem Decimal.Same.refl (value : Decimal) : Decimal.Same value value := Eq.refl _

/-- Sameness is symmetric. -/
theorem Decimal.Same.symm {left right : Decimal} (same : Decimal.Same left right) :
    Decimal.Same right left := Eq.symm same

/-- Sameness is transitive. -/
theorem Decimal.Same.trans {left middle right : Decimal} (before : Decimal.Same left middle)
    (after : Decimal.Same middle right) : Decimal.Same left right := Eq.trans before after

/-- Ten is a unit of the rationals. -/
private theorem ten_ne_zero : (10 : ℚ) ≠ 0 := by norm_num

/-- Integer powers of ten are positive. -/
private theorem ten_zpow_pos (exponent : Int) : (0 : ℚ) < 10 ^ exponent := by positivity

/-- A sign distributes over a scaled magnitude. -/
theorem signed_mul (negative : Bool) (magnitude factor : Nat) :
    signed negative (magnitude * factor) = signed negative magnitude * factor := by
  cases negative <;> simp [signed]

/-- A signed magnitude is zero exactly for magnitude zero. -/
theorem signed_eq_zero (negative : Bool) (magnitude : Nat) :
    signed negative magnitude = 0 ↔ magnitude = 0 := by
  cases negative <;> simp [signed]

/-- The zero magnitude has no sign. -/
@[simp] theorem signed_zero (negative : Bool) : signed negative 0 = 0 := by
  cases negative <;> rfl

/-- Exclusive signs multiply. -/
theorem signed_mul_signed (left right : Bool) (first second : Nat) :
    signed left first * signed right second = signed (left != right) (first * second) := by
  cases left <;> cases right <;> simp [signed]

/-- Inverting the sign negates. -/
theorem signed_not (negative : Bool) (magnitude : Nat) :
    signed (!negative) magnitude = -signed negative magnitude := by
  cases negative <;> simp [signed]

/-- Nonzero signed magnitudes determine their sign and size. -/
theorem signed_inj {left right : Bool} {first second : Nat} (nonzero : first ≠ 0)
    (same : signed left first = signed right second) : left = right ∧ first = second := by
  cases left <;> cases right <;> simp only [signed] at same ⊢ <;> simp at same ⊢ <;> omega

/-- Padding a coefficient with zeros lowers the exponent at the same value. -/
theorem padded_value (value : Int) (exponent : Int) (zeros : Nat) :
    ((value * 10 ^ zeros : Int) : ℚ) * 10 ^ (exponent - zeros) = (value : ℚ) * 10 ^ exponent := by
  push_cast
  rw [zpow_sub₀ ten_ne_zero, zpow_natCast]
  field_simp

/-- A coefficient moved down to a smaller exponent keeps its value. -/
theorem lowered_value (value : Int) (exponent target : Int) (below : target ≤ exponent) :
    ((value * 10 ^ (exponent - target).toNat : Int) : ℚ) * 10 ^ target =
      (value : ℚ) * 10 ^ exponent := by
  have padded := padded_value value exponent (exponent - target).toNat
  have gap : exponent - ((exponent - target).toNat : Int) = target := by omega
  rwa [gap] at padded

/-- Padding adds exactly its zeros to the digit count. -/
theorem digits_mul_pow (coefficient zeros : Nat) (nonzero : coefficient ≠ 0) :
    digits (coefficient * 10 ^ zeros) = digits coefficient + zeros := by
  induction zeros with
  | zero => simp
  | succ zeros ih =>
    have positive : coefficient * 10 ^ zeros ≠ 0 := by positivity
    rw [pow_succ, ← Nat.mul_assoc]
    unfold digits at ih ⊢
    rw [Nat.log_mul_base (by decide) positive]
    omega

/-- Rounded division ignores a common factor. -/
theorem divide_scale (mode : Rounding) (negative : Bool) (magnitude divisor factor : Nat)
    (positive : 0 < factor) :
    mode.divide negative (magnitude * factor) (divisor * factor) =
      mode.divide negative magnitude divisor := by
  have remainder : magnitude * factor % (divisor * factor) = magnitude % divisor * factor :=
    Nat.mul_mod_mul_right factor magnitude divisor
  have decision : ∀ quotient remainder,
      mode.increments negative quotient (remainder * factor) (divisor * factor) =
        mode.increments negative quotient remainder divisor := by
    intro quotient remainder
    have doubled : 2 * (remainder * factor) = 2 * remainder * factor := by ring
    cases mode with
    | halfUp =>
      simp only [Rounding.increments, doubled, Nat.mul_le_mul_right_iff positive]
    | halfEven =>
      simp only [Rounding.increments, doubled, Nat.mul_lt_mul_right positive]
      congr 1
      rw [Bool.eq_iff_iff]
      simp only [Bool.and_eq_true, beq_iff_eq]
      rw [Nat.mul_left_inj (by omega)]
    | floor => simp [Rounding.increments, positive]
    | ceiling => simp [Rounding.increments, positive]
  unfold Rounding.divide
  rw [remainder, decision, Nat.mul_div_mul_right _ _ positive]

/-- An exact quotient is not rounded. -/
theorem divide_exact (mode : Rounding) (negative : Bool) (quotient divisor : Nat)
    (positive : 0 < divisor) :
    mode.divide negative (quotient * divisor) divisor = quotient := by
  unfold Rounding.divide
  rw [Nat.mul_div_cancel _ positive, Nat.mul_mod_left]
  cases mode <;> simp [Rounding.increments] <;> omega

/-- Reading at a target exponent ignores padding zeros. -/
theorem rescale_pad (mode : Rounding) (negative : Bool) (coefficient zeros : Nat)
    (exponent target : Int) :
    rescale mode negative (coefficient * 10 ^ zeros) (exponent - zeros) target =
      rescale mode negative coefficient exponent target := by
  unfold rescale
  by_cases coarse : exponent < target
  · have lower : exponent - zeros < target := by omega
    have gap : (target - (exponent - zeros)).toNat = (target - exponent).toNat + zeros := by omega
    rw [if_pos lower, if_pos coarse, gap, pow_add]
    exact divide_scale mode negative coefficient _ _ (by positivity)
  · by_cases lower : exponent - zeros < target
    · have split : zeros = (exponent - target).toNat + (target - (exponent - zeros)).toNat := by
        omega
      rw [if_pos lower, if_neg coarse]
      conv_lhs => rw [split, pow_add, ← Nat.mul_assoc]
      have gap : (target - (exponent - ((exponent - target).toNat +
          (target - (exponent - (zeros : Int))).toNat : Nat))).toNat =
          (target - (exponent - zeros)).toNat := by omega
      rw [gap]
      exact divide_exact mode negative _ _ (by positivity)
    · have gap : (exponent - target).toNat = zeros + (exponent - zeros - target).toNat := by omega
      rw [if_neg lower, if_neg coarse, gap, pow_add, Nat.mul_assoc]

/-- A finite representation padded to another one of the same number. -/
def Padded (first : Nat) (exponent : Int) (second : Nat) (other : Int) : Prop :=
  ∃ zeros : Nat, first = second * 10 ^ zeros ∧ exponent = other - zeros

/-- Equal finite numbers are both zero, or share their sign and differ by padding. -/
theorem finite_same {left right : Bool} {first second : Nat} {exponent other : Int}
    (same : Decimal.Same (.finite left first exponent) (.finite right second other)) :
    (first = 0 ∧ second = 0) ∨
      (first ≠ 0 ∧ second ≠ 0 ∧ left = right ∧
        (Padded first exponent second other ∨ Padded second other first exponent)) := by
  have values : (signed left first : ℚ) * 10 ^ exponent = signed right second * 10 ^ other := by
    simpa only [Decimal.Same, Decimal.number, Number.rational.injEq] using same
  have aligned : ∀ {l r : Bool} {a b : Nat} {x y : Int}, y ≤ x →
      (signed l a : ℚ) * 10 ^ x = signed r b * 10 ^ y →
      signed l (a * 10 ^ (x - y).toNat) = signed r b := by
    intro l r a b x y below equal
    rw [← lowered_value (signed l a) x y below] at equal
    have cancelled := mul_right_cancel₀ (ten_zpow_pos y).ne' equal
    have integers : signed l a * 10 ^ (x - y).toNat = signed r b := by exact_mod_cast cancelled
    rw [signed_mul, ← integers]
    push_cast
    rfl
  rcases le_total other exponent with below | below
  · have magnitudes := aligned below values
    by_cases zero : first = 0
    · subst zero
      rw [Nat.zero_mul, signed_zero] at magnitudes
      exact .inl ⟨rfl, (signed_eq_zero right second).mp magnitudes.symm⟩
    · have nonzero : first * 10 ^ (exponent - other).toNat ≠ 0 := by positivity
      obtain ⟨signs, sizes⟩ := signed_inj nonzero magnitudes
      refine .inr ⟨zero, sizes ▸ nonzero, signs, .inr ⟨(exponent - other).toNat, sizes.symm, ?_⟩⟩
      omega
  · have magnitudes := aligned below values.symm
    by_cases zero : second = 0
    · subst zero
      rw [Nat.zero_mul, signed_zero] at magnitudes
      exact .inl ⟨(signed_eq_zero left first).mp magnitudes.symm, rfl⟩
    · have nonzero : second * 10 ^ (other - exponent).toNat ≠ 0 := by positivity
      obtain ⟨signs, sizes⟩ := signed_inj nonzero magnitudes
      refine .inr ⟨sizes ▸ nonzero, zero, signs.symm, .inl ⟨(other - exponent).toNat, sizes.symm, ?_⟩⟩
      omega

/-- Padding keeps the number. -/
theorem padded_same (negative : Bool) (coefficient zeros : Nat) (exponent : Int) :
    Decimal.Same (.finite negative (coefficient * 10 ^ zeros) (exponent - zeros))
      (.finite negative coefficient exponent) := by
  simp only [Decimal.Same, Decimal.number, Number.rational.injEq]
  rw [signed_mul]
  exact_mod_cast padded_value (signed negative coefficient) exponent zeros

/-- Zeros of any sign and exponent are one number. -/
theorem zero_same (left right : Bool) (exponent other : Int) :
    Decimal.Same (.finite left 0 exponent) (.finite right 0 other) := by
  simp [Decimal.Same, Decimal.number]

/-- A property of two equal finite numbers follows from its zero case and from padding. -/
theorem finite_same_induction {motive : Bool → Nat → Int → Bool → Nat → Int → Prop}
    (zero : ∀ left right exponent other, motive left 0 exponent right 0 other)
    (pad : ∀ negative coefficient zeros exponent, coefficient ≠ 0 →
      motive negative (coefficient * 10 ^ zeros) (exponent - (zeros : Nat))
        negative coefficient exponent)
    (symmetric : ∀ left first exponent right second other,
      motive left first exponent right second other →
        motive right second other left first exponent)
    {left right : Bool} {first second : Nat} {exponent other : Int}
    (same : Decimal.Same (.finite left first exponent) (.finite right second other)) :
    motive left first exponent right second other := by
  rcases finite_same same with ⟨rfl, rfl⟩ | ⟨nonzero, other_nonzero, rfl, padded | padded⟩
  · exact zero _ _ _ _
  · obtain ⟨zeros, rfl, rfl⟩ := padded
    exact pad _ _ _ _ other_nonzero
  · obtain ⟨zeros, rfl, rfl⟩ := padded
    exact symmetric _ _ _ _ _ _ (pad _ _ _ _ nonzero)

/-- Agreement on the number of a decimal result. -/
abbrev SameResult (left right : Except Signal Decimal) : Prop := Agree Decimal.Same left right

/-- Numeric agreement is symmetric. -/
theorem SameResult.symm {left right : Except Signal Decimal} (agree : SameResult left right) :
    SameResult right left :=
  (Agree.symm agree).mono fun _ _ same => same.symm

/-- Numeric agreement is transitive. -/
theorem SameResult.trans {left middle right : Except Signal Decimal}
    (before : SameResult left middle) (after : SameResult middle right) : SameResult left right :=
  (Agree.trans before after).mono fun _ _ through =>
    let ⟨_, first, second⟩ := through
    first.trans second

/-- Fitting a padded coefficient fits the same number. -/
theorem fitNonzero_pad (ctx : Context) (negative : Bool) (coefficient zeros : Nat)
    (exponent : Int) (nonzero : coefficient ≠ 0) :
    SameResult (Decimal.fitNonzero ctx negative (coefficient * 10 ^ zeros) (exponent - zeros))
      (Decimal.fitNonzero ctx negative coefficient exponent) := by
  have count := digits_mul_pow coefficient zeros nonzero
  have natural : (digits (coefficient * 10 ^ zeros) : Int) + (exponent - zeros) =
      digits coefficient + exponent := by omega
  unfold Decimal.fitNonzero
  simp only [natural, rescale_pad]
  generalize lowest_def : max ((digits coefficient : Int) + exponent - ctx.precision) ctx.etiny =
    lowest
  refine Agree.ite Iff.rfl (.failure _ _) ?_
  by_cases coarse : exponent < lowest
  · rw [if_pos (show exponent - (zeros : Int) < lowest by omega), if_pos coarse]
    exact Agree.refl Decimal.Same.refl _
  · rw [if_neg coarse]
    by_cases lower : exponent - (zeros : Int) < lowest
    · have fits : digits (coefficient * 10 ^ (exponent - lowest).toNat) ≤ ctx.precision := by
        have grown := digits_mul_pow coefficient (exponent - lowest).toNat nonzero
        omega
      have gap : ((exponent - lowest).toNat : Int) = exponent - lowest := by omega
      have padded := padded_same negative coefficient (exponent - lowest).toNat exponent
      rw [gap, sub_sub_cancel] at padded
      rw [if_pos lower, rescale, if_neg coarse, if_pos fits]
      exact .success padded
    · rw [if_neg lower]
      exact .success (padded_same negative coefficient zeros exponent)

/-- Fitting depends only on the number of the exact result. -/
theorem fit_same (ctx : Context) {left right : Bool} {first second : Nat} {exponent other : Int}
    (same : Decimal.Same (.finite left first exponent) (.finite right second other)) :
    SameResult (Decimal.fit ctx left first exponent) (Decimal.fit ctx right second other) := by
  refine finite_same_induction
    (motive := fun left first exponent right second other =>
      SameResult (Decimal.fit ctx left first exponent) (Decimal.fit ctx right second other))
    ?zero ?pad ?symmetric same
  case zero =>
    intro left right exponent other
    exact .success (zero_same _ _ _ _)
  case pad =>
    intro negative coefficient zeros exponent nonzero
    have padded : coefficient * 10 ^ zeros ≠ 0 := by positivity
    rw [Decimal.fit, if_neg padded, Decimal.fit, if_neg nonzero]
    exact fitNonzero_pad ctx negative coefficient zeros exponent nonzero
  case symmetric =>
    intro left first exponent right second other agree
    exact agree.symm

/-- Fitting a signed integer depends only on its scaled value. -/
theorem fitSigned_same (ctx : Context) (left right : Bool) {first second exponent other : Int}
    (same : (first : ℚ) * 10 ^ exponent = (second : ℚ) * 10 ^ other) :
    SameResult (Decimal.fitSigned ctx left first exponent)
      (Decimal.fitSigned ctx right second other) := by
  have magnitude : ∀ value : Int, signed (decide (value < 0)) value.natAbs = value := by
    intro value
    by_cases negative : value < 0
    · simp only [signed, negative, decide_true, if_true]
      omega
    · simp only [signed, negative, decide_false, Bool.false_eq_true, if_false]
      omega
  have zeros : first = 0 ↔ second = 0 := by
    constructor
    · intro zero
      rw [zero, Int.cast_zero, zero_mul] at same
      exact_mod_cast (mul_eq_zero.mp same.symm).resolve_right (ten_zpow_pos other).ne'
    · intro zero
      rw [zero, Int.cast_zero, zero_mul] at same
      exact_mod_cast (mul_eq_zero.mp same).resolve_right (ten_zpow_pos exponent).ne'
  refine Agree.ite zeros (fit_same ctx (zero_same _ _ _ _)) (fit_same ctx ?_)
  simp only [Decimal.Same, Decimal.number, Number.rational.injEq, magnitude]
  exact same

/-- A predicate on pairs of equal decimals is decided on specials and on finite pairs. -/
@[elab_as_elim]
theorem same_cases {motive : ∀ left right, Decimal.Same left right → Prop}
    (finite : ∀ left first exponent right second other
      (same : Decimal.Same (.finite left first exponent) (.finite right second other)),
        motive (.finite left first exponent) (.finite right second other) same)
    (infinity : ∀ negative, motive (.infinity negative) (.infinity negative) (.refl _))
    (nan : ∀ signaling, motive (.nan signaling) (.nan signaling) (.refl _))
    {left right : Decimal} (same : Decimal.Same left right) : motive left right same := by
  cases left with
  | finite negative coefficient exponent =>
    cases right with
    | finite other second scale => exact finite _ _ _ _ _ _ same
    | infinity other => cases same
    | nan other => cases same
  | infinity negative =>
    cases right with
    | finite other second scale => cases same
    | infinity other => cases same; exact infinity _
    | nan other => cases same
  | nan signaling =>
    cases right with
    | finite other second scale => cases same
    | infinity other => cases same
    | nan other => cases same; exact nan _

/-- The value of a finite decimal, read off its number. -/
theorem finite_same_value {left right : Bool} {first second : Nat} {exponent other : Int}
    (same : Decimal.Same (.finite left first exponent) (.finite right second other)) :
    (signed left first : ℚ) * 10 ^ exponent = signed right second * 10 ^ other := by
  simpa only [Decimal.Same, Decimal.number, Number.rational.injEq] using same

/-- Equal finite numbers are zero together. -/
theorem finite_same_zero {left right : Bool} {first second : Nat} {exponent other : Int}
    (same : Decimal.Same (.finite left first exponent) (.finite right second other)) :
    first = 0 ↔ second = 0 := by
  rcases finite_same same with ⟨first_zero, second_zero⟩ | ⟨nonzero, other_nonzero, -⟩
  · simp [first_zero, second_zero]
  · simp [nonzero, other_nonzero]

/-- A signed coefficient moved down to a smaller exponent keeps its value. -/
theorem lowered_signed (negative : Bool) (coefficient : Nat) {exponent target : Int}
    (below : target ≤ exponent) :
    (signed negative (coefficient * 10 ^ (exponent - target).toNat) : ℚ) * 10 ^ target =
      signed negative coefficient * 10 ^ exponent := by
  rw [signed_mul]
  exact_mod_cast lowered_value (signed negative coefficient) exponent target below

/-- The aligned sum is the sum of the values. -/
theorem alignedSum_value (left right : Bool) (first second : Nat) (exponent other : Int) :
    (Decimal.alignedSum left first exponent right second other : ℚ) * 10 ^ min exponent other =
      signed left first * 10 ^ exponent + signed right second * 10 ^ other := by
  unfold Decimal.alignedSum
  rw [Int.cast_add, add_mul, lowered_signed left first (min_le_left _ _),
    lowered_signed right second (min_le_right _ _)]

/-- Sums of equal numbers are equal. -/
theorem add_same (ctx : Context) {left left' right right' : Decimal}
    (lefts : Decimal.Same left left') (rights : Decimal.Same right right') :
    SameResult (Decimal.add ctx left right) (Decimal.add ctx left' right') := by
  induction lefts using same_cases with
  | finite left first exponent left' first' exponent' lefts =>
    induction rights using same_cases with
    | finite right second other right' second' other' rights =>
      refine fitSigned_same ctx _ _ ?_
      rw [alignedSum_value, alignedSum_value, finite_same_value lefts, finite_same_value rights]
    | infinity right => exact .success (.refl _)
    | nan right => cases right <;> constructor; exact .refl _
  | infinity left =>
    induction rights using same_cases with
    | finite right second other right' second' other' rights => exact .success (.refl _)
    | infinity right => exact Agree.refl Decimal.Same.refl _
    | nan right => cases right <;> constructor; exact .refl _
  | nan left =>
    cases left with
    | true => cases right <;> cases right' <;> constructor
    | false =>
      induction rights using same_cases with
      | finite right second other right' second' other' rights => exact .success (.refl _)
      | infinity right => exact .success (.refl _)
      | nan right => cases right <;> constructor; exact .refl _

/-- Negation respects numbers. -/
theorem negate_same {left right : Decimal} (same : Decimal.Same left right) :
    Decimal.Same left.negate right.negate := by
  induction same using same_cases with
  | finite left first exponent right second other same =>
    simp only [Decimal.Same, Decimal.negate, Decimal.number, signed_not, Int.cast_neg, neg_mul, finite_same_value same]
  | infinity negative => exact .refl _
  | nan signaling => exact .refl _

/-- Differences of equal numbers are equal. -/
theorem sub_same (ctx : Context) {left left' right right' : Decimal}
    (lefts : Decimal.Same left left') (rights : Decimal.Same right right') :
    SameResult (Decimal.sub ctx left right) (Decimal.sub ctx left' right') :=
  add_same ctx lefts (negate_same rights)

/-- The product of two representations has the product of their values. -/
theorem product_value (left right : Bool) (first second : Nat) (exponent other : Int) :
    (signed (left != right) (first * second) : ℚ) * 10 ^ (exponent + other) =
      (signed left first * 10 ^ exponent) * (signed right second * 10 ^ other) := by
  rw [← signed_mul_signed, zpow_add₀ ten_ne_zero]
  push_cast
  ring

/-- A nonzero infinity product keeps its sign decision across equal numbers. -/
private theorem infinity_product_same (sign : Bool) {left right : Bool} {first second : Nat}
    {exponent other : Int}
    (same : Decimal.Same (.finite left first exponent) (.finite right second other)) :
    SameResult
      (if first = 0 then .error .invalidOperation else .ok (.infinity (sign != left)))
      (if second = 0 then .error .invalidOperation else .ok (.infinity (sign != right))) := by
  rcases finite_same same with ⟨rfl, rfl⟩ | ⟨nonzero, other_nonzero, rfl, -⟩
  · exact .failure _ _
  · rw [if_neg nonzero, if_neg other_nonzero]
    exact .success (.refl _)

/-- Products of equal numbers are equal. -/
theorem mul_same (ctx : Context) {left left' right right' : Decimal}
    (lefts : Decimal.Same left left') (rights : Decimal.Same right right') :
    SameResult (Decimal.mul ctx left right) (Decimal.mul ctx left' right') := by
  induction lefts using same_cases with
  | finite left first exponent left' first' exponent' lefts =>
    induction rights using same_cases with
    | finite right second other right' second' other' rights =>
      refine fit_same ctx ?_
      simp only [Decimal.Same, Decimal.number, product_value,
        finite_same_value lefts, finite_same_value rights]
    | infinity right =>
      have swapped := infinity_product_same right lefts
      simpa only [Decimal.mul, @bne_comm _ _ _ right] using swapped
    | nan right => cases right <;> constructor; exact .refl _
  | infinity left =>
    induction rights using same_cases with
    | finite right second other right' second' other' rights =>
      exact infinity_product_same left rights
    | infinity right => exact .success (.refl _)
    | nan right => cases right <;> constructor; exact .refl _
  | nan left =>
    cases left with
    | true => cases right <;> cases right' <;> constructor
    | false =>
      induction rights using same_cases with
      | finite right second other right' second' other' rights => exact .success (.refl _)
      | infinity right => exact .success (.refl _)
      | nan right => cases right <;> constructor; exact .refl _

/-- Dropped zeros are exactly the room used. -/
theorem reduceTo_spec (coefficient room : Nat) :
    (Decimal.reduceTo coefficient room).2 ≤ room ∧
      coefficient = (Decimal.reduceTo coefficient room).1 *
        10 ^ (room - (Decimal.reduceTo coefficient room).2) := by
  induction room generalizing coefficient with
  | zero => simp [Decimal.reduceTo]
  | succ room ih =>
    unfold Decimal.reduceTo
    by_cases trailing : coefficient % 10 = 0
    · obtain ⟨bound, factored⟩ := ih (coefficient / 10)
      rw [if_pos trailing]
      refine ⟨by omega, ?_⟩
      rw [Nat.succ_sub bound, pow_succ, ← Nat.mul_assoc, ← factored]
      omega
    · rw [if_neg trailing]
      simp

/-- Quotient digits of a scaled division, moved off the tie when inexact. -/
def settled (dividend divisor : Nat) : Nat :=
  if dividend % divisor = 0 then dividend / divisor
  else if dividend / divisor % 5 = 0 then dividend / divisor + 1 else dividend / divisor

/-- Settled digits ignore a common factor. -/
theorem settled_scale (dividend divisor factor : Nat) (positive : 0 < factor) :
    settled (dividend * factor) (divisor * factor) = settled dividend divisor := by
  unfold settled
  rw [Nat.mul_div_mul_right _ _ positive, Nat.mul_mod_mul_right]
  simp only [Nat.mul_eq_zero, Nat.ne_of_gt positive, or_false]

/-- A shifted quotient is its settled digits at the shifted ideal exponent. -/
theorem shiftedQuotient_value (dividend divisor : Nat) (shift ideal : Int) :
    ((Decimal.shiftedQuotient dividend divisor shift ideal).1 : ℚ) *
        10 ^ (Decimal.shiftedQuotient dividend divisor shift ideal).2 =
      (settled dividend divisor : ℚ) * 10 ^ (ideal - shift) := by
  unfold Decimal.shiftedQuotient
  by_cases divides : dividend % divisor = 0
  · obtain ⟨bound, factored⟩ := reduceTo_spec (dividend / divisor) shift.toNat
    have padded := padded_value
      ((Decimal.reduceTo (dividend / divisor) shift.toNat).1 : Int)
      (ideal - shift + (shift.toNat - (Decimal.reduceTo (dividend / divisor) shift.toNat).2 : Nat))
      (shift.toNat - (Decimal.reduceTo (dividend / divisor) shift.toNat).2)
    rw [add_sub_cancel_right] at padded
    rw [if_pos divides, settled, if_pos divides, ← @Int.cast_natCast ℚ, ← padded]
    have cast := congrArg (@Nat.cast ℚ _) factored
    push_cast at cast ⊢
    rw [cast]
  · rw [if_neg divides, settled, if_neg divides]

/-- Padding the dividend does not change the scaled division. -/
theorem settled_pad_left (ctx : Context) (left right zeros : Nat) (nonzero : left ≠ 0) :
    settled (left * 10 ^ zeros * 10 ^ (Decimal.divisionShift ctx (left * 10 ^ zeros) right).toNat)
        (right * 10 ^ (-Decimal.divisionShift ctx (left * 10 ^ zeros) right).toNat) =
      settled (left * 10 ^ (Decimal.divisionShift ctx left right).toNat)
        (right * 10 ^ (-Decimal.divisionShift ctx left right).toNat) := by
  have moved : Decimal.divisionShift ctx (left * 10 ^ zeros) right =
      Decimal.divisionShift ctx left right - zeros := by
    have count := digits_mul_pow left zeros nonzero
    unfold Decimal.divisionShift
    omega
  rw [moved]
  generalize Decimal.divisionShift ctx left right = shift
  obtain ⟨factor, dividend, divisor⟩ : ∃ factor : Nat,
      zeros + (shift - zeros).toNat = shift.toNat + factor ∧
        (-(shift - zeros)).toNat = (-shift).toNat + factor :=
    ⟨zeros + (shift - zeros).toNat - shift.toNat, by omega, by omega⟩
  rw [divisor, Nat.mul_assoc, ← pow_add, dividend, pow_add, pow_add, ← Nat.mul_assoc,
    ← Nat.mul_assoc]
  exact settled_scale _ _ _ (by positivity)

/-- Padding the divisor does not change the scaled division. -/
theorem settled_pad_right (ctx : Context) (left right zeros : Nat) (nonzero : right ≠ 0) :
    settled (left * 10 ^ (Decimal.divisionShift ctx left (right * 10 ^ zeros)).toNat)
        (right * 10 ^ zeros * 10 ^ (-Decimal.divisionShift ctx left (right * 10 ^ zeros)).toNat) =
      settled (left * 10 ^ (Decimal.divisionShift ctx left right).toNat)
        (right * 10 ^ (-Decimal.divisionShift ctx left right).toNat) := by
  have moved : Decimal.divisionShift ctx left (right * 10 ^ zeros) =
      Decimal.divisionShift ctx left right + zeros := by
    have count := digits_mul_pow right zeros nonzero
    unfold Decimal.divisionShift
    omega
  rw [moved]
  generalize Decimal.divisionShift ctx left right = shift
  obtain ⟨factor, dividend, divisor⟩ : ∃ factor : Nat,
      (shift + zeros).toNat = shift.toNat + factor ∧
        zeros + (-(shift + zeros)).toNat = (-shift).toNat + factor :=
    ⟨(shift + zeros).toNat - shift.toNat, by omega, by omega⟩
  rw [dividend, Nat.mul_assoc right, ← pow_add, divisor, pow_add, pow_add, ← Nat.mul_assoc,
    ← Nat.mul_assoc]
  exact settled_scale _ _ _ (by positivity)

/-- A magnitude equality scaled by equal powers is an equality of signed numbers. -/
theorem same_of_magnitude {first second : Nat} {exponent other : Int} (negative : Bool)
    (magnitudes : (first : ℚ) * 10 ^ exponent = (second : ℚ) * 10 ^ other) :
    Decimal.Same (.finite negative first exponent) (.finite negative second other) := by
  cases negative with
  | false => simpa [Decimal.Same, Decimal.number, signed] using magnitudes
  | true => simpa [Decimal.Same, Decimal.number, signed] using magnitudes

/-- Finite division of nonzero magnitudes, before fitting, respects padding of the dividend. -/
theorem quotient_pad_left (ctx : Context) (negative : Bool) (left right zeros : Nat)
    (ideal : Int) (nonzero : left ≠ 0) :
    Decimal.Same
      (.finite negative (Decimal.quotient ctx (left * 10 ^ zeros) right (ideal - zeros)).1
        (Decimal.quotient ctx (left * 10 ^ zeros) right (ideal - zeros)).2)
      (.finite negative (Decimal.quotient ctx left right ideal).1
        (Decimal.quotient ctx left right ideal).2) := by
  apply same_of_magnitude
  have moved : Decimal.divisionShift ctx (left * 10 ^ zeros) right =
      Decimal.divisionShift ctx left right - zeros := by
    have count := digits_mul_pow left zeros nonzero
    unfold Decimal.divisionShift
    omega
  unfold Decimal.quotient
  rw [shiftedQuotient_value, shiftedQuotient_value, settled_pad_left ctx left right zeros nonzero,
    moved, sub_sub_sub_cancel_right]

/-- Finite division of nonzero magnitudes, before fitting, respects padding of the divisor. -/
theorem quotient_pad_right (ctx : Context) (negative : Bool) (left right zeros : Nat)
    (ideal : Int) (nonzero : right ≠ 0) :
    Decimal.Same
      (.finite negative (Decimal.quotient ctx left (right * 10 ^ zeros) (ideal + zeros)).1
        (Decimal.quotient ctx left (right * 10 ^ zeros) (ideal + zeros)).2)
      (.finite negative (Decimal.quotient ctx left right ideal).1
        (Decimal.quotient ctx left right ideal).2) := by
  apply same_of_magnitude
  have moved : Decimal.divisionShift ctx left (right * 10 ^ zeros) =
      Decimal.divisionShift ctx left right + zeros := by
    have count := digits_mul_pow right zeros nonzero
    unfold Decimal.divisionShift
    omega
  unfold Decimal.quotient
  rw [shiftedQuotient_value, shiftedQuotient_value, settled_pad_right ctx left right zeros nonzero,
    moved, add_sub_add_right_eq_sub]

/-- Equal dividends give equal quotients. -/
theorem finiteDiv_left (ctx : Context) {left left' : Bool} {first first' : Nat}
    {exponent exponent' : Int} (right : Bool) (second : Nat) (other : Int)
    (same : Decimal.Same (.finite left first exponent) (.finite left' first' exponent')) :
    SameResult (Decimal.finiteDiv ctx left first exponent right second other)
      (Decimal.finiteDiv ctx left' first' exponent' right second other) := by
  refine finite_same_induction
    (motive := fun left first exponent left' first' exponent' =>
      SameResult (Decimal.finiteDiv ctx left first exponent right second other)
        (Decimal.finiteDiv ctx left' first' exponent' right second other))
    ?zero ?pad ?symmetric same
  case zero =>
    intro left left' exponent exponent'
    unfold Decimal.finiteDiv
    refine Agree.ite Iff.rfl (.failure _ _) ?_
    rw [if_pos rfl, if_pos rfl]
    exact fit_same ctx (zero_same _ _ _ _)
  case pad =>
    intro negative coefficient zeros exponent nonzero
    have padded : coefficient * 10 ^ zeros ≠ 0 := by positivity
    unfold Decimal.finiteDiv
    refine Agree.ite Iff.rfl (.failure _ _) ?_
    rw [if_neg padded, if_neg nonzero, sub_right_comm]
    exact fit_same ctx (quotient_pad_left ctx _ coefficient second zeros _ nonzero)
  case symmetric =>
    intro left first exponent left' first' exponent' agree
    exact agree.symm

/-- Equal divisors give equal quotients. -/
theorem finiteDiv_right (ctx : Context) (left : Bool) (first : Nat) (exponent : Int)
    {right right' : Bool} {second second' : Nat} {other other' : Int}
    (same : Decimal.Same (.finite right second other) (.finite right' second' other')) :
    SameResult (Decimal.finiteDiv ctx left first exponent right second other)
      (Decimal.finiteDiv ctx left first exponent right' second' other') := by
  refine finite_same_induction
    (motive := fun right second other right' second' other' =>
      SameResult (Decimal.finiteDiv ctx left first exponent right second other)
        (Decimal.finiteDiv ctx left first exponent right' second' other'))
    ?zero ?pad ?symmetric same
  case zero =>
    intro right right' other other'
    unfold Decimal.finiteDiv
    rw [if_pos rfl, if_pos rfl]
    exact .failure _ _
  case pad =>
    intro negative coefficient zeros other nonzero
    have padded : coefficient * 10 ^ zeros ≠ 0 := by positivity
    unfold Decimal.finiteDiv
    rw [if_neg padded, if_neg nonzero, sub_sub_eq_add_sub, add_sub_right_comm]
    exact Agree.ite Iff.rfl (fit_same ctx (zero_same _ _ _ _))
      (fit_same ctx (quotient_pad_right ctx _ first coefficient zeros _ nonzero))
  case symmetric =>
    intro right second other right' second' other' agree
    exact agree.symm

/-- Quotients of equal numbers are equal. A zero divisor is excluded because an infinite
quotient takes the sign of its zero. -/
theorem div_same (ctx : Context) {left left' right right' : Decimal}
    (nonzero : right.number ≠ .rational 0) (lefts : Decimal.Same left left') (rights : Decimal.Same right right') :
    SameResult (Decimal.div ctx left right) (Decimal.div ctx left' right') := by
  induction lefts using same_cases with
  | finite left first exponent left' first' exponent' lefts =>
    induction rights using same_cases with
    | finite right second other right' second' other' rights =>
      exact (finiteDiv_left ctx right second other lefts).trans
        (finiteDiv_right ctx left' first' exponent' rights)
    | infinity right => exact .success (zero_same _ _ _ _)
    | nan right => cases right <;> constructor; exact .refl _
  | infinity left =>
    induction rights using same_cases with
    | finite right second other right' second' other' rights =>
      rcases finite_same rights with ⟨rfl, -⟩ | ⟨-, -, rfl, -⟩
      · simp [Decimal.number] at nonzero
      · exact .success (.refl _)
    | infinity right => exact .failure _ _
    | nan right => cases right <;> constructor; exact .refl _
  | nan left =>
    cases left with
    | true => cases right <;> cases right' <;> constructor
    | false =>
      induction rights using same_cases with
      | finite right second other right' second' other' rights => exact .success (.refl _)
      | infinity right => exact .success (.refl _)
      | nan right => cases right <;> constructor; exact .refl _

/-- A relation of integers that ignores a common positive factor. -/
def ScaleFree (relation : Int → Int → Bool) : Prop :=
  ∀ first second factor : Int, 0 < factor →
    relation (first * factor) (second * factor) = relation first second

/-- Strict order ignores a common factor. -/
theorem scaleFree_lt : ScaleFree fun x y => x < y := by
  intro first second factor positive
  simp only [Int.mul_lt_mul_right positive]

/-- Non-strict order ignores a common factor. -/
theorem scaleFree_le : ScaleFree fun x y => x ≤ y := by
  intro first second factor positive
  simp only [Int.mul_le_mul_right positive]

/-- Equality ignores a common factor. -/
theorem scaleFree_beq : ScaleFree fun x y => x == y := by
  intro first second factor positive
  have cancel : first * factor = second * factor ↔ first = second :=
    Int.mul_eq_mul_right_iff positive.ne'
  rw [Bool.eq_iff_iff, beq_iff_eq, beq_iff_eq, cancel]

/-- Equal values at two scales differ by the power between them. -/
theorem scaled_eq {first second exponent other : Int} (below : exponent ≤ other)
    (same : (first : ℚ) * 10 ^ exponent = (second : ℚ) * 10 ^ other) :
    first = second * 10 ^ (other - exponent).toNat := by
  rw [← lowered_value second other exponent below] at same
  exact_mod_cast mul_right_cancel₀ (ten_zpow_pos exponent).ne' same

/-- A scale-free relation of two pairs with equal values is decided alike. -/
theorem scaleFree_same {relation : Int → Int → Bool} (free : ScaleFree relation)
    {first second first' second' : Int} (exponent exponent' : Int)
    (firsts : (first : ℚ) * 10 ^ exponent = (first' : ℚ) * 10 ^ exponent')
    (seconds : (second : ℚ) * 10 ^ exponent = (second' : ℚ) * 10 ^ exponent') :
    relation first second = relation first' second' := by
  rcases le_total exponent exponent' with below | below
  · rw [scaled_eq below firsts, scaled_eq below seconds]
    exact free _ _ _ (by positivity)
  · rw [scaled_eq below firsts.symm, scaled_eq below seconds.symm]
    exact (free _ _ _ (by positivity)).symm

/-- Comparisons of equal numbers decide alike and signal alike. -/
theorem orders_same {relation : Int → Int → Bool} (free : ScaleFree relation)
    {left left' right right' : Decimal} (lefts : Decimal.Same left left')
    (rights : Decimal.Same right right') :
    Decimal.orders relation left right = Decimal.orders relation left' right' := by
  induction lefts using same_cases with
  | finite left first exponent left' first' exponent' lefts =>
    induction rights using same_cases with
    | finite right second other right' second' other' rights =>
      refine congrArg Except.ok (scaleFree_same free (min exponent other)
        (min exponent' other') ?_ ?_)
      · rw [lowered_signed _ _ (min_le_left _ _), lowered_signed _ _ (min_le_left _ _),
          finite_same_value lefts]
      · rw [lowered_signed _ _ (min_le_right _ _), lowered_signed _ _ (min_le_right _ _),
          finite_same_value rights]
    | infinity right => rfl
    | nan right => rfl
  | infinity left =>
    induction rights using same_cases with
    | finite right second other right' second' other' rights => rfl
    | infinity right => rfl
    | nan right => rfl
  | nan left => rfl

/-- Strict comparison respects numbers. -/
theorem lt_same {left left' right right' : Decimal} (lefts : Decimal.Same left left')
    (rights : Decimal.Same right right') : Decimal.lt left right = Decimal.lt left' right' :=
  orders_same scaleFree_lt lefts rights

/-- Non-strict comparison respects numbers. -/
theorem le_same {left left' right right' : Decimal} (lefts : Decimal.Same left left')
    (rights : Decimal.Same right right') : Decimal.le left right = Decimal.le left' right' :=
  orders_same scaleFree_le lefts rights

/-- Equality away from undefined values is the aligned comparison. -/
theorem eq_of_defined {left right : Decimal} (leftDefined : ∀ signaling, left ≠ .nan signaling)
    (rightDefined : ∀ signaling, right ≠ .nan signaling) :
    Decimal.eq left right = Decimal.orders (fun x y => x == y) left right := by
  cases left with
  | nan signaling => exact absurd rfl (leftDefined signaling)
  | finite negative coefficient exponent =>
    cases right with
    | nan signaling => exact absurd rfl (rightDefined signaling)
    | finite _ _ _ => rfl
    | infinity _ => rfl
  | infinity negative =>
    cases right with
    | nan signaling => exact absurd rfl (rightDefined signaling)
    | finite _ _ _ => rfl
    | infinity _ => rfl

/-- Numeric equality respects numbers. -/
theorem eq_same {left left' right right' : Decimal} (lefts : Decimal.Same left left')
    (rights : Decimal.Same right right') : Decimal.eq left right = Decimal.eq left' right' := by
  by_cases leftNan : ∃ signaling, left = .nan signaling
  · obtain ⟨signaling, rfl⟩ := leftNan
    cases left' <;> cases lefts
    cases signaling
    · induction rights using same_cases with
      | finite => rfl
      | infinity => rfl
      | nan => rfl
    · rfl
  · by_cases rightNan : ∃ signaling, right = .nan signaling
    · obtain ⟨signaling, rfl⟩ := rightNan
      cases right' <;> cases rights
      cases signaling
      · induction lefts using same_cases with
        | finite => rfl
        | infinity => rfl
        | nan => rfl
      · induction lefts using same_cases with
        | finite => rfl
        | infinity => rfl
        | nan signaling => cases signaling <;> rfl
    · have defined : ∀ {first second : Decimal}, Decimal.Same first second →
          (¬∃ signaling, first = .nan signaling) → ∀ signaling, second ≠ .nan signaling := by
        intro first second same absent signaling found
        subst found
        cases first <;> cases same
        exact absent ⟨_, rfl⟩
      rw [eq_of_defined (fun s found => leftNan ⟨s, found⟩) (fun s found => rightNan ⟨s, found⟩),
        eq_of_defined (defined lefts leftNan) (defined rights rightNan)]
      exact orders_same scaleFree_beq lefts rights

/-- Finite decimals are equal exactly when they denote one number. -/
theorem finite_eq_iff (left right : FiniteDecimal) :
    left.toDecimal.eq right.toDecimal = .ok true ↔
      Decimal.Same left.toDecimal right.toDecimal := by
  have scale := ten_zpow_pos (min left.exponent right.exponent)
  have aligned : left.toDecimal.eq right.toDecimal = .ok
      (signed left.negative (left.coefficient *
          10 ^ (left.exponent - min left.exponent right.exponent).toNat) ==
        signed right.negative (right.coefficient *
          10 ^ (right.exponent - min left.exponent right.exponent).toNat)) := rfl
  rw [aligned, Except.ok.injEq, beq_iff_eq]
  simp only [FiniteDecimal.toDecimal, Decimal.Same, Decimal.number, Number.rational.injEq]
  rw [← lowered_signed left.negative left.coefficient (min_le_left left.exponent right.exponent),
    ← lowered_signed right.negative right.coefficient (min_le_right left.exponent right.exponent),
    mul_left_inj' scale.ne', Int.cast_inj]

/-- Rounding of equal numbers to one exponent gives equal numbers. -/
theorem quantize_same (ctx : Context) (target : Int) (mode : Rounding) {left right : Decimal}
    (same : Decimal.Same left right) :
    SameResult (Decimal.quantize ctx left target mode)
      (Decimal.quantize ctx right target mode) := by
  induction same using same_cases with
  | finite left first exponent right second other same =>
    refine finite_same_induction
      (motive := fun left first exponent right second other =>
        SameResult (Decimal.quantize ctx (.finite left first exponent) target mode)
          (Decimal.quantize ctx (.finite right second other) target mode))
      ?zero ?pad ?symmetric same
    case zero =>
      intro left right exponent other
      unfold Decimal.quantize
      refine Agree.ite Iff.rfl (.failure _ _) ?_
      rw [if_pos rfl, if_pos rfl]
      exact fit_same ctx (zero_same _ _ _ _)
    case pad =>
      intro negative coefficient zeros exponent nonzero
      have padded : coefficient * 10 ^ zeros ≠ 0 := by positivity
      have natural : (digits (coefficient * 10 ^ zeros) : Int) + (exponent - zeros) =
          digits coefficient + exponent := by
        have count := digits_mul_pow coefficient zeros nonzero
        omega
      simp only [Decimal.quantize, if_neg padded, if_neg nonzero, natural, rescale_pad]
      exact Agree.refl Decimal.Same.refl _
    case symmetric =>
      intro left first exponent right second other agree
      exact agree.symm
  | infinity negative => exact .failure _ _
  | nan signaling => exact Agree.refl Decimal.Same.refl _

/-- Equal numbers have one integer part. -/
theorem truncate_same {left right : Decimal} (same : Decimal.Same left right) :
    left.truncate = right.truncate := by
  induction same using same_cases with
  | finite left first exponent right second other same =>
    refine finite_same_induction
      (motive := fun left first exponent right second other =>
        (Decimal.finite left first exponent).truncate =
          (Decimal.finite right second other).truncate)
      ?zero ?pad ?symmetric same
    case zero =>
      intro left right exponent other
      have empty : ∀ scale : Int, rescale .floor false 0 scale 0 = 0 := by
        intro scale
        simp [rescale, Rounding.divide, Rounding.increments]
      simp only [Decimal.truncate, empty, signed_zero]
    case pad =>
      intro negative coefficient zeros exponent _
      simp only [Decimal.truncate, rescale_pad]
    case symmetric =>
      intro left first exponent right second other equal
      exact equal.symm
  | infinity negative => rfl
  | nan signaling => rfl

end DecimalFloat
