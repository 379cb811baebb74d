import RateGuard.Foundation.DecimalExact

/-!
# Rounding to a grid

What each direction of rounding is for: a multiple of a step close to a number. A number has one
rounding, which respects the order of numbers. Quantization of a decimal finds it, provided that
the context keeps it.
-/

namespace DecimalFloat

/-- Whether a count of steps is the rounding of a number. -/
structure Rounding.Rounds (mode : Rounding) (step value : ℚ) (count : ℤ) : Prop where
  /-- It is less than a step away. -/
  near : |count * step - value| < step
  /-- Halves: it is at most half a step away. -/
  half : mode = .halfUp ∨ mode = .halfEven → |count * step - value| ≤ step / 2
  /-- Halves up: a tie goes away from zero. -/
  away : mode = .halfUp → |count * step - value| = step / 2 → |value| < |count * step|
  /-- Halves to even: a tie goes to the even count. -/
  even : mode = .halfEven → |count * step - value| = step / 2 → Even count
  /-- Floor: it is not above. -/
  below : mode = .floor → count * step ≤ value
  /-- Ceiling: it is not below. -/
  above : mode = .ceiling → value ≤ count * step

/-- Rounding direction for mirrored numbers. -/
def Rounding.mirror : Rounding → Rounding
  | .halfUp => .halfUp
  | .halfEven => .halfEven
  | .floor => .ceiling
  | .ceiling => .floor

namespace Rounding

variable {mode : Rounding} {step value other : ℚ} {count more : ℤ}

/-- A rounding in other units. -/
theorem Rounds.scale (rounds : mode.Rounds 1 value count) (positive : 0 < step) :
    mode.Rounds step (value * step) count := by
  have gap : |count * step - value * step| = |count * 1 - value| * step := by
    rw [mul_one, ← sub_mul, abs_mul, abs_of_pos positive]
  have tie : |count * step - value * step| = step / 2 → |count * 1 - value| = 1 / 2 := by
    intro same
    rw [gap] at same
    have cancelled : |count * 1 - value| * step = 1 / 2 * step := by linarith
    exact mul_right_cancel₀ positive.ne' cancelled
  constructor
  · rw [gap]
    exact mul_lt_of_lt_one_left positive rounds.near
  · intro halves
    rw [gap]
    have close := mul_le_mul_of_nonneg_right (rounds.half halves) positive.le
    linarith
  · intro up same
    have farther := rounds.away up (tie same)
    rw [mul_one] at farther
    rw [abs_mul, abs_mul]
    exact mul_lt_mul_of_pos_right farther (abs_pos.mpr positive.ne')
  · exact fun even same => rounds.even even (tie same)
  · intro floor
    have lower := rounds.below floor
    rw [mul_one] at lower
    exact mul_le_mul_of_nonneg_right lower positive.le
  · intro ceiling
    have upper := rounds.above ceiling
    rw [mul_one] at upper
    exact mul_le_mul_of_nonneg_right upper positive.le

/-- The rounding of a mirrored number. -/
theorem Rounds.mirrored (rounds : mode.mirror.Rounds step value count) :
    mode.Rounds step (-value) (-count) := by
  have gap : |((-count : ℤ) : ℚ) * step - -value| = |count * step - value| := by
    rw [← abs_neg]
    congr 1
    push_cast
    ring
  have size : |((-count : ℤ) : ℚ) * step| = |count * step| := by
    rw [← abs_neg]
    congr 1
    push_cast
    ring
  constructor
  · rw [gap]
    exact rounds.near
  · rintro (rfl | rfl)
    · rw [gap]
      exact rounds.half (.inl rfl)
    · rw [gap]
      exact rounds.half (.inr rfl)
  · rintro rfl same
    rw [gap] at same
    rw [abs_neg, size]
    exact rounds.away rfl same
  · rintro rfl same
    rw [gap] at same
    exact (rounds.even rfl same).neg
  · rintro rfl
    have upper := rounds.above rfl
    push_cast
    linarith
  · rintro rfl
    have lower := rounds.below rfl
    push_cast
    linarith

/-- Of two adjacent counts a number has its rounding at one. -/
theorem Rounds.not_adjacent (positive : 0 < step) (ordered : value ≤ other)
    (low : mode.Rounds step value (count + 1)) (high : mode.Rounds step other count) : False := by
  have lowNear := abs_lt.mp low.near
  have highNear := abs_lt.mp high.near
  have next : ((count + 1 : ℤ) : ℚ) * step = count * step + step := by
    push_cast
    ring
  rw [next] at lowNear
  -- Halves on both sides leave one tie, which both counts would have to win.
  have tie : mode = .halfUp ∨ mode = .halfEven → value = count * step + step / 2 ∧
      |((count + 1 : ℤ) : ℚ) * step - value| = step / 2 ∧
      |(count : ℚ) * step - other| = step / 2 ∧ other = value := by
    intro halves
    have first := abs_le.mp (low.half halves)
    have second := abs_le.mp (high.half halves)
    rw [next] at first ⊢
    have same : other = value := by linarith
    have middle : value = count * step + step / 2 := by linarith
    refine ⟨middle, ?_, ?_, same⟩
    · rw [middle, abs_of_nonneg (by linarith)]
      ring
    · rw [same, middle, abs_of_nonpos (by linarith)]
      ring
  cases mode with
  | floor =>
    have lower := low.below rfl
    rw [next] at lower
    linarith
  | ceiling =>
    have upper := high.above rfl
    linarith
  | halfEven =>
    obtain ⟨-, first, second, -⟩ := tie (.inr rfl)
    have one := low.even rfl first
    have two := high.even rfl second
    exact (Int.even_add_one.mp one) two
  | halfUp =>
    obtain ⟨middle, first, second, same⟩ := tie (.inl rfl)
    have one := low.away rfl first
    have two := high.away rfl second
    rw [same] at two
    rcases le_or_gt 0 count with nonnegative | negative
    · have size : 0 ≤ (count : ℚ) * step :=
        mul_nonneg (Int.cast_nonneg nonnegative) positive.le
      rw [abs_of_nonneg size, middle, abs_of_nonneg (by linarith)] at two
      linarith
    · have size : ((count + 1 : ℤ) : ℚ) * step ≤ 0 :=
        mul_nonpos_of_nonpos_of_nonneg (Int.cast_nonpos.mpr (by omega)) positive.le
      rw [abs_of_nonpos size, next, middle, abs_of_nonpos (by rw [next] at size; linarith)] at one
      linarith

/-- Rounding respects the order of numbers. -/
theorem Rounds.mono (positive : 0 < step) (ordered : value ≤ other)
    (low : mode.Rounds step value count) (high : mode.Rounds step other more) : count ≤ more := by
  by_contra above
  have lowNear := abs_lt.mp low.near
  have highNear := abs_lt.mp high.near
  have close : (count : ℚ) < more + 2 := by
    have wide : (count : ℚ) * step < (more + 2) * step := by linarith
    exact lt_of_mul_lt_mul_right wide positive.le
  have integers : count < more + 2 := by exact_mod_cast close
  have adjacent : count = more + 1 := by omega
  rw [adjacent] at low
  exact low.not_adjacent positive ordered high

/-- A number has one rounding. -/
theorem Rounds.unique (positive : 0 < step) (first : mode.Rounds step value count)
    (second : mode.Rounds step value more) : count = more :=
  le_antisymm (first.mono positive le_rfl second) (second.mono positive le_rfl first)

/-- A multiple of the step is its own rounding. -/
theorem rounds_self (mode : Rounding) (positive : 0 < step) (count : ℤ) :
    mode.Rounds step (count * step) count := by
  have gap : |(count : ℚ) * step - count * step| = 0 := by
    rw [sub_self, abs_zero]
  constructor
  · rw [gap]
    exact positive
  · intro halves
    rw [gap]
    linarith
  · intro up same
    rw [gap] at same
    linarith
  · intro even same
    rw [gap] at same
    linarith
  · exact fun _ => le_rfl
  · exact fun _ => le_rfl

/-- A fraction is dropped. -/
theorem rounds_down {whole : ℕ} {fraction : ℚ} (nonnegative : 0 ≤ fraction) (less : fraction < 1)
    (up : mode = .halfUp → fraction < 1 / 2)
    (even : mode = .halfEven → fraction < 1 / 2 ∨ fraction = 1 / 2 ∧ Even whole)
    (ceiling : mode = .ceiling → fraction = 0) :
    mode.Rounds 1 (whole + fraction) whole := by
  have gap : |((whole : ℤ) : ℚ) * 1 - (whole + fraction)| = fraction := by
    push_cast
    rw [mul_one, sub_add_cancel_left, abs_neg, abs_of_nonneg nonnegative]
  constructor
  · rw [gap]
    exact less
  · rintro (rfl | rfl)
    · rw [gap]
      exact (up rfl).le
    · rw [gap]
      rcases even rfl with below | ⟨tie, -⟩
      · exact below.le
      · exact tie.le
  · intro isUp same
    rw [gap] at same
    exact absurd same (up isUp).ne
  · intro isEven same
    rw [gap] at same
    rcases even isEven with below | ⟨-, whole⟩
    · exact absurd same below.ne
    · exact (Int.even_coe_nat _).mpr whole
  · intro floor
    push_cast
    linarith
  · intro isCeiling
    rw [ceiling isCeiling]
    push_cast
    linarith

/-- A fraction is filled up. -/
theorem rounds_up {whole : ℕ} {fraction : ℚ} (some : 0 < fraction) (less : fraction < 1)
    (up : mode = .halfUp → 1 / 2 ≤ fraction)
    (even : mode = .halfEven → 1 / 2 < fraction ∨ fraction = 1 / 2 ∧ ¬Even whole)
    (floor : mode ≠ .floor) :
    mode.Rounds 1 (whole + fraction) (whole + 1 : ℕ) := by
  have gap : |((whole + 1 : ℕ) : ℚ) * 1 - (whole + fraction)| = 1 - fraction := by
    push_cast
    rw [mul_one, add_sub_add_left_eq_sub, abs_of_pos (by linarith)]
  constructor
  · rw [Int.cast_natCast, gap]
    linarith
  · rintro (rfl | rfl)
    · rw [Int.cast_natCast, gap]
      linarith [up rfl]
    · rw [Int.cast_natCast, gap]
      rcases even rfl with above | ⟨tie, -⟩
      · linarith
      · linarith
  · intro _ _
    have size : (0 : ℚ) ≤ whole := Nat.cast_nonneg _
    push_cast
    rw [abs_of_nonneg (by linarith), abs_of_nonneg (by linarith)]
    linarith
  · intro isEven same
    rw [Int.cast_natCast, gap] at same
    rcases even isEven with above | ⟨-, odd⟩
    · linarith
    · rw [Int.even_coe_nat, Nat.even_add_one]
      exact odd
  · exact fun isFloor => absurd isFloor floor
  · intro _
    push_cast
    linarith

end Rounding

/-- Directions mirror with the sign. -/
theorem divide_mirror (mode : Rounding) (magnitude divisor : Nat) :
    mode.divide true magnitude divisor = mode.mirror.divide false magnitude divisor := by
  cases mode <;> rfl

/-- Division of a magnitude rounds the quotient. -/
theorem divide_rounds_magnitude (mode : Rounding) (magnitude : Nat) {divisor : Nat}
    (positive : 0 < divisor) :
    mode.Rounds 1 ((magnitude : ℚ) / divisor) (mode.divide false magnitude divisor) := by
  have size : (0 : ℚ) < divisor := Nat.cast_pos.mpr positive
  have split : (magnitude : ℚ) / divisor =
      (magnitude / divisor : ℕ) + (magnitude % divisor : ℕ) / (divisor : ℚ) := by
    rw [← mul_div_cancel_left₀ ((magnitude / divisor : ℕ) : ℚ) size.ne', ← add_div]
    congr 1
    exact_mod_cast (Nat.div_add_mod magnitude divisor).symm
  have less : ((magnitude % divisor : ℕ) : ℚ) / divisor < 1 := by
    rw [div_lt_one size]
    exact_mod_cast Nat.mod_lt magnitude positive
  have nonnegative : (0 : ℚ) ≤ (magnitude % divisor : ℕ) / (divisor : ℚ) := by positivity
  have atHalf : ((magnitude % divisor : ℕ) : ℚ) / divisor = 1 / 2 ↔
      2 * (magnitude % divisor) = divisor := by
    rw [div_eq_div_iff size.ne' two_ne_zero, one_mul, mul_comm]
    exact_mod_cast Iff.rfl
  have belowHalf : ((magnitude % divisor : ℕ) : ℚ) / divisor < 1 / 2 ↔
      2 * (magnitude % divisor) < divisor := by
    rw [div_lt_div_iff₀ size two_pos, one_mul, mul_comm]
    exact_mod_cast Iff.rfl
  have none : ((magnitude % divisor : ℕ) : ℚ) / divisor = 0 ↔ magnitude % divisor = 0 := by
    rw [div_eq_zero_iff, or_iff_left size.ne']
    exact Nat.cast_eq_zero
  rw [split]
  unfold Rounding.divide
  generalize magnitude / divisor = whole at *
  generalize magnitude % divisor = remainder at *
  generalize (remainder : ℚ) / divisor = fraction at *
  by_cases more : mode.increments false whole remainder divisor = true
  · rw [if_pos more]
    have some : fraction ≠ 0 := by
      rw [Ne, none]
      rintro rfl
      cases mode <;> simp [Rounding.increments] at more <;> omega
    refine Rounding.rounds_up (lt_of_le_of_ne nonnegative some.symm) less ?_ ?_ ?_
    · rintro rfl
      have reached := of_decide_eq_true more
      exact not_lt.mp (mt belowHalf.mp (by omega))
    · rintro rfl
      rcases (Bool.or_eq_true _ _).mp more with above | tie
      · have beyond := of_decide_eq_true above
        exact .inl (lt_of_le_of_ne (not_lt.mp (mt belowHalf.mp (by omega)))
          fun same => absurd (atHalf.mp same.symm) (by omega))
      · obtain ⟨same, odd⟩ := (Bool.and_eq_true _ _).mp tie
        have whole := beq_iff_eq.mp odd
        exact .inr ⟨atHalf.mpr (beq_iff_eq.mp same).symm, by rw [Nat.even_iff]; omega⟩
    · rintro rfl
      cases more
  · rw [if_neg more, Nat.add_zero]
    refine Rounding.rounds_down nonnegative less ?_ ?_ ?_
    · rintro rfl
      have missed := of_decide_eq_false (Bool.eq_false_of_not_eq_true more)
      exact belowHalf.mpr (by omega)
    · rintro rfl
      have missed := Bool.eq_false_of_not_eq_true more
      obtain ⟨first, second⟩ := (Bool.or_eq_false_iff).mp missed
      have within := of_decide_eq_false first
      by_cases tie : divisor = 2 * remainder
      · refine .inr ⟨atHalf.mpr tie.symm, ?_⟩
        rw [beq_iff_eq.mpr tie, Bool.true_and] at second
        have even := beq_eq_false_iff_ne.mp second
        rw [Nat.even_iff]
        omega
      · exact .inl (belowHalf.mpr (by omega))
    · rintro rfl
      rw [none]
      have missed : (0 < remainder) = false := by
        simpa [Rounding.increments] using more
      simpa using missed

/-- Division of a signed magnitude rounds the quotient. -/
theorem divide_rounds (mode : Rounding) (negative : Bool) (magnitude : Nat) {divisor : Nat}
    (positive : 0 < divisor) :
    mode.Rounds 1 ((signed negative magnitude : ℚ) / divisor)
      (signed negative (mode.divide negative magnitude divisor)) := by
  cases negative with
  | false => exact divide_rounds_magnitude mode magnitude positive
  | true =>
    have mirrored := (divide_rounds_magnitude mode.mirror magnitude positive).mirrored
    rw [← divide_mirror] at mirrored
    have quotient : ((signed true magnitude : ℤ) : ℚ) / divisor = -((magnitude : ℚ) / divisor) := by
      simp only [signed, if_true, Int.cast_neg, Int.cast_natCast, neg_div]
    rw [quotient]
    exact mirrored

/-- Rescaling rounds to the grid of its exponent. -/
theorem rescale_rounds (mode : Rounding) (negative : Bool) (coefficient : Nat)
    (exponent target : Int) :
    mode.Rounds (10 ^ target) (rational negative coefficient exponent)
      (signed negative (rescale mode negative coefficient exponent target)) := by
  have step : (0 : ℚ) < 10 ^ target := by positivity
  unfold rescale rational
  by_cases coarser : exponent < target
  · rw [if_pos coarser]
    have rounds := (divide_rounds mode negative coefficient
      (by positivity : 0 < 10 ^ (target - exponent).toNat)).scale step
    have power : (10 : ℚ) ^ target = 10 ^ exponent * (10 ^ (target - exponent).toNat : ℕ) := by
      push_cast
      rw [← zpow_natCast, ← zpow_add₀ (by norm_num : (10 : ℚ) ≠ 0)]
      congr 1
      omega
    have value : (signed negative coefficient : ℚ) / (10 ^ (target - exponent).toNat : ℕ) *
        10 ^ target = signed negative coefficient * 10 ^ exponent := by
      rw [power]
      field_simp
    rwa [value] at rounds
  · rw [if_neg coarser]
    rw [← lowered_signed negative coefficient (not_lt.mp coarser)]
    exact Rounding.rounds_self mode step _

/-- Rescaling loses no digit in front of its exponent. -/
theorem digits_le_rescale (mode : Rounding) (negative : Bool) {coefficient : Nat}
    (nonzero : coefficient ≠ 0) (exponent target : Int) :
    (digits coefficient : Int) + exponent - target ≤
      digits (rescale mode negative coefficient exponent target) := by
  unfold rescale
  by_cases coarser : exponent < target
  · rw [if_pos coarser]
    generalize gap : (target - exponent).toNat = dropped
    have kept : digits coefficient ≤ digits (coefficient / 10 ^ dropped) + dropped := by
      have below := lt_pow_digits (coefficient / 10 ^ dropped)
      rw [Nat.div_lt_iff_lt_mul (by positivity), ← pow_add] at below
      exact digits_le_of_lt (Nat.add_pos_left (Nat.succ_pos _) _) below
    have up : digits (coefficient / 10 ^ dropped) ≤
        digits (mode.divide negative coefficient (10 ^ dropped)) :=
      digits_mono (Nat.le_add_right _ _)
    omega
  · rw [if_neg coarser, digits_mul_pow _ _ nonzero]
    omega

/-- A zero fits at an exponent within the limits. -/
theorem fit_zero {ctx : Context} (negative : Bool) {target : Int} (lower : ctx.etiny ≤ target)
    (upper : target ≤ ctx.emax) :
    Decimal.fit ctx negative 0 target = .ok (.finite negative 0 target) := by
  unfold Decimal.fit
  rw [if_pos rfl, max_eq_left lower, min_eq_left upper]

/-- Quantization succeeds when the context keeps the rescaled coefficient. -/
theorem quantize_ok {ctx : Context} (mode : Rounding) (negative : Bool) {coefficient : Nat}
    {exponent target : Int} (has : ctx.HasUnit target)
    (few : rescale mode negative coefficient exponent target < 10 ^ ctx.precision) :
    Decimal.quantize ctx (.finite negative coefficient exponent) target mode =
      .ok (.finite negative (rescale mode negative coefficient exponent target) target) := by
  have lower := has.lower
  have upper := has.upper
  have some := ctx.positive
  have top : ctx.etop = ctx.emax - ctx.precision + 1 := rfl
  have zero := fit_zero negative lower (by omega)
  have kept := digits_le_of_lt some few
  unfold Decimal.quantize
  dsimp only
  rw [if_neg (by omega)]
  by_cases none : coefficient = 0
  · subst none
    rw [if_pos rfl, zero, rescale_zero]
  · have digits := digits_le_rescale mode negative none exponent target
    rw [if_neg none, if_neg (by omega), if_neg (by omega), if_neg (by omega)]
    by_cases empty : rescale mode negative coefficient exponent target = 0
    · rw [empty, zero]
    · exact fit_unit has few empty

/-- Quantization gives the target exponent, or keeps an undefined value. -/
theorem quantize_exponent {ctx : Context} {value result : Decimal} {target : Int} {mode : Rounding}
    (quantized : Decimal.quantize ctx value target mode = .ok result) :
    result = .nan false ∨ ∃ negative coefficient, result = .finite negative coefficient target := by
  match value with
  | .nan true => cases quantized
  | .nan false => exact .inl (Except.ok.inj quantized).symm
  | .infinity _ => cases quantized
  | .finite negative coefficient exponent =>
    refine .inr ?_
    simp only [Decimal.quantize] at quantized
    by_cases limits : target < ctx.etiny ∨ ctx.emax < target
    · rw [if_pos limits] at quantized
      cases quantized
    rw [if_neg limits] at quantized
    have lower : ctx.etiny ≤ target := by omega
    have upper : target ≤ ctx.emax := by omega
    have zero := fit_zero negative lower upper
    by_cases none : coefficient = 0
    · rw [if_pos none, zero] at quantized
      exact ⟨negative, 0, (Except.ok.inj quantized).symm⟩
    rw [if_neg none] at quantized
    split at quantized
    · cases quantized
    split at quantized
    · cases quantized
    split at quantized
    · cases quantized
    rename_i within
    by_cases empty : rescale mode negative coefficient exponent target = 0
    · rw [empty, zero] at quantized
      exact ⟨negative, 0, (Except.ok.inj quantized).symm⟩
    · unfold Decimal.fit Decimal.fitNonzero at quantized
      rw [if_neg empty] at quantized
      dsimp only at quantized
      split at quantized
      · cases quantized
      · rw [if_neg (by have few := not_or.mp within; omega)] at quantized
        exact ⟨negative, _, (Except.ok.inj quantized).symm⟩

end DecimalFloat
