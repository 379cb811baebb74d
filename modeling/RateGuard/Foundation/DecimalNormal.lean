import RateGuard.Foundation.DecimalText
import RateGuard.Foundation.DecimalValue

/-!
# Normal form of decimals

A number fitted to the context and without trailing zeros. Equal numbers have one normal form, up
to the sign of zero; a number that fits the context keeps its value there.
-/

namespace DecimalFloat

namespace Decimal

/-- Drops the trailing zeros of a coefficient, as far as the exponents reach; zero has exponent
zero. -/
def reduced (ctx : Context) : Decimal → Decimal
  | finite negative coefficient exponent =>
    if coefficient = 0 then finite negative 0 0
    else
      let room := (ctx.emax - exponent).toNat
      let digits := reduceTo coefficient room
      finite negative digits.1 (exponent + (room - digits.2 : Nat))
  | infinity negative => infinity negative
  | nan signaling => nan signaling

/-- `normalize`: rounds to the context and drops trailing zeros. -/
def normalize (ctx : Context) : Decimal → Except Signal Decimal
  | finite negative coefficient exponent =>
    (fit ctx negative coefficient exponent).map (reduced ctx)
  | infinity negative => .ok (infinity negative)
  | nan true => .error .invalidOperation
  | nan false => .ok (nan false)

end Decimal

/-- Dropping trailing zeros keeps the number. -/
theorem reduced_same (ctx : Context) (value : Decimal) :
    Decimal.Same (Decimal.reduced ctx value) value := by
  cases value with
  | infinity negative => exact .refl _
  | nan signaling => exact .refl _
  | finite negative coefficient exponent =>
    dsimp only [Decimal.reduced]
    by_cases zero : coefficient = 0
    · rw [if_pos zero, zero]
      exact zero_same negative negative 0 exponent
    · rw [if_neg zero]
      obtain ⟨-, factored⟩ := reduceTo_spec coefficient (ctx.emax - exponent).toNat
      generalize Decimal.reduceTo coefficient (ctx.emax - exponent).toNat = digits at factored
      generalize (ctx.emax - exponent).toNat - digits.2 = zeros at factored
      have padded := padded_same negative digits.1 zeros (exponent + zeros)
      rw [add_sub_cancel_right, ← factored] at padded
      exact padded.symm

/-- Whether the normal form of a value denotes the same number. -/
def Unrounded (ctx : Context) (value : Decimal) : Prop :=
  ∃ normal, value.normalize ctx = .ok normal ∧ Decimal.Same normal value

/-- Values of one normal form that keep their number there denote one number. -/
theorem Unrounded.same {ctx : Context} {left right : Decimal} (leftExact : Unrounded ctx left)
    (rightExact : Unrounded ctx right) (one : left.normalize ctx = right.normalize ctx) :
    Decimal.Same left right := by
  obtain ⟨normal, found, same⟩ := leftExact
  obtain ⟨other, otherFound, otherSame⟩ := rightExact
  rw [one, otherFound] at found
  cases found
  exact same.symm.trans otherSame

/-- A decimal and its text determine each other. -/
theorem text_inj {left right : Decimal} (same : left.text = right.text) : left = right := by
  have read := Decimal.parse_text left
  rw [same, Decimal.parse_text] at read
  exact (Option.some.inj read).symm

end DecimalFloat
