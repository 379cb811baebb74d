import Mathlib.Data.Nat.Log
import Mathlib.Data.Int.Log

/-!
# Decimal floating-point arithmetic

Signed coefficients and decimal exponents with the specials, over a context of
precision, exponent limits and rounding. Every operation first forms an exact
result and then fits it to the context, so that a caller meets a trapped signal
instead of a special value. Representations are kept: equal numbers may differ
in exponent and in the sign of zero.
-/

namespace DecimalFloat

/-- Rounding directions for a discarded remainder. -/
inductive Rounding where
  | halfUp | halfEven | floor | ceiling
  deriving DecidableEq, Repr

/-- Precision, exponent limits and rounding of an arithmetic context. -/
structure Context where
  /-- Largest number of coefficient digits. -/
  precision : Nat
  /-- Largest adjusted exponent. -/
  emax : Int
  /-- Smallest adjusted exponent of a normal number. -/
  emin : Int
  /-- Rounding of arithmetic results. -/
  rounding : Rounding
  /-- A result keeps at least one digit. -/
  positive : 0 < precision
  /-- Zero is a normal exponent. -/
  centered : emin ≤ 0 ∧ (precision : Int) - 1 ≤ emax

/-- Smallest exponent of a subnormal number. -/
def Context.etiny (ctx : Context) : Int := ctx.emin - ctx.precision + 1

/-- Largest exponent of a full-precision coefficient. -/
def Context.etop (ctx : Context) : Int := ctx.emax - ctx.precision + 1

/-- Conditions that trap instead of returning a special value. -/
inductive Signal where
  | invalidOperation | divisionByZero | overflow
  deriving DecidableEq, Repr

/-- Finite numbers, signed infinities, and quiet or signaling undefined results. -/
inductive Decimal where
  | finite (negative : Bool) (coefficient : Nat) (exponent : Int)
  | infinity (negative : Bool)
  | nan (signaling : Bool)
  deriving DecidableEq, Repr

/-- Number of decimal digits, counting one for zero. -/
def digits (coefficient : Nat) : Nat := Nat.log 10 coefficient + 1

/-- A magnitude with its sign. -/
def signed (negative : Bool) (magnitude : Nat) : Int :=
  if negative then -(magnitude : Int) else magnitude

/-- Whether a nonnegative quotient moves away from zero for its remainder. -/
def Rounding.increments (mode : Rounding) (negative : Bool)
    (quotient remainder divisor : Nat) : Bool :=
  match mode with
  | .halfUp => divisor ≤ 2 * remainder
  | .halfEven =>
    divisor < 2 * remainder || (divisor == 2 * remainder && quotient % 2 == 1)
  | .floor => negative && 0 < remainder
  | .ceiling => !negative && 0 < remainder

/-- Quotient of a signed magnitude rounded to an integer magnitude. -/
def Rounding.divide (mode : Rounding) (negative : Bool) (magnitude divisor : Nat) : Nat :=
  magnitude / divisor +
    if mode.increments negative (magnitude / divisor) (magnitude % divisor) divisor
    then 1 else 0

/-- Coefficient read at a coarser exponent, or padded to a finer one. -/
def rescale (mode : Rounding) (negative : Bool) (coefficient : Nat)
    (exponent target : Int) : Nat :=
  if exponent < target then
    mode.divide negative coefficient (10 ^ (target - exponent).toNat)
  else coefficient * 10 ^ (exponent - target).toNat

namespace Decimal

/-- Fits an exact nonzero magnitude to the context's precision and exponents. -/
def fitNonzero (ctx : Context) (negative : Bool) (coefficient : Nat) (exponent : Int) :
    Except Signal Decimal :=
  let natural := digits coefficient + exponent - ctx.precision
  let lowest := max natural ctx.etiny
  if ctx.etop < natural then .error .overflow
  else if exponent < lowest then
    let rounded := rescale ctx.rounding negative coefficient exponent lowest
    if digits rounded ≤ ctx.precision then .ok (finite negative rounded lowest)
    else if ctx.etop < lowest + 1 then .error .overflow
    else .ok (finite negative (rounded / 10) (lowest + 1))
  else .ok (finite negative coefficient exponent)

/-- Fits an exact result to the context; a zero only has its exponent clamped. -/
def fit (ctx : Context) (negative : Bool) (coefficient : Nat) (exponent : Int) :
    Except Signal Decimal :=
  if coefficient = 0 then
    .ok (finite negative 0 (min (max exponent ctx.etiny) ctx.emax))
  else fitNonzero ctx negative coefficient exponent

/-- A signed integer at an exponent, with the sign given for a zero. -/
def fitSigned (ctx : Context) (zeroSign : Bool) (coefficient exponent : Int) :
    Except Signal Decimal :=
  if coefficient = 0 then fit ctx zeroSign 0 exponent
  else fit ctx (coefficient < 0) coefficient.natAbs exponent

/-- Sign inversion, keeping an undefined value. -/
def negate : Decimal → Decimal
  | finite negative coefficient exponent => finite (!negative) coefficient exponent
  | infinity negative => infinity (!negative)
  | nan signaling => nan signaling

/-- Exact finite sum at the smaller exponent. -/
def alignedSum (leftNegative : Bool) (leftCoefficient : Nat) (leftExponent : Int)
    (rightNegative : Bool) (rightCoefficient : Nat) (rightExponent : Int) : Int :=
  let target := min leftExponent rightExponent
  signed leftNegative (leftCoefficient * 10 ^ (leftExponent - target).toNat) +
    signed rightNegative (rightCoefficient * 10 ^ (rightExponent - target).toNat)

/-- Sign of a zero sum: negative for two negative operands, or when opposite signs
meet under downward rounding. -/
def zeroSumSign (ctx : Context) (leftNegative rightNegative : Bool) : Bool :=
  (leftNegative && rightNegative) ||
    (ctx.rounding == .floor && leftNegative != rightNegative)

/-- Sum rounded to the context. -/
def add (ctx : Context) : Decimal → Decimal → Except Signal Decimal
  | nan true, _ | _, nan true => .error .invalidOperation
  | nan false, _ | _, nan false => .ok (nan false)
  | infinity left, infinity right =>
    if left = right then .ok (infinity left) else .error .invalidOperation
  | infinity left, finite _ _ _ => .ok (infinity left)
  | finite _ _ _, infinity right => .ok (infinity right)
  | finite leftNegative leftCoefficient leftExponent,
    finite rightNegative rightCoefficient rightExponent =>
    fitSigned ctx (zeroSumSign ctx leftNegative rightNegative)
      (alignedSum leftNegative leftCoefficient leftExponent
        rightNegative rightCoefficient rightExponent)
      (min leftExponent rightExponent)

/-- Difference, as the sum with the negated right operand. -/
def sub (ctx : Context) (left right : Decimal) : Except Signal Decimal :=
  add ctx left right.negate

/-- Product rounded to the context. -/
def mul (ctx : Context) : Decimal → Decimal → Except Signal Decimal
  | nan true, _ | _, nan true => .error .invalidOperation
  | nan false, _ | _, nan false => .ok (nan false)
  | infinity left, infinity right => .ok (infinity (left != right))
  | infinity left, finite right coefficient _ | finite left coefficient _, infinity right =>
    if coefficient = 0 then .error .invalidOperation else .ok (infinity (left != right))
  | finite leftNegative leftCoefficient leftExponent,
    finite rightNegative rightCoefficient rightExponent =>
    fit ctx (leftNegative != rightNegative) (leftCoefficient * rightCoefficient)
      (leftExponent + rightExponent)

/-- Drops trailing zeros while the exponent stays at most the ideal one. -/
def reduceTo : Nat → Nat → Nat × Nat
  | coefficient, 0 => (coefficient, 0)
  | coefficient, room + 1 =>
    if coefficient % 10 = 0 then reduceTo (coefficient / 10) room
    else (coefficient, room + 1)

/-- Power of ten that gives a quotient one digit beyond the precision. -/
def divisionShift (ctx : Context) (left right : Nat) : Int :=
  digits right - digits left + ctx.precision + 1

/-- Digits and exponent of a shifted division. An inexact quotient ending in zero or
five is moved off the tie; an exact one drops zeros down to the ideal exponent. -/
def shiftedQuotient (dividend divisor : Nat) (shift ideal : Int) : Nat × Int :=
  let coefficient := dividend / divisor
  if dividend % divisor = 0 then
    let reduced := reduceTo coefficient shift.toNat
    (reduced.1, ideal - shift + (shift.toNat - reduced.2 : Nat))
  else (if coefficient % 5 = 0 then coefficient + 1 else coefficient, ideal - shift)

/-- Quotient of two nonzero magnitudes before it is fitted. -/
def quotient (ctx : Context) (left right : Nat) (ideal : Int) : Nat × Int :=
  let shift := divisionShift ctx left right
  shiftedQuotient (left * 10 ^ shift.toNat) (right * 10 ^ (-shift).toNat) shift ideal

/-- Quotient of finite operands rounded to the context. -/
def finiteDiv (ctx : Context) (leftNegative : Bool) (leftCoefficient : Nat) (leftExponent : Int)
    (rightNegative : Bool) (rightCoefficient : Nat) (rightExponent : Int) :
    Except Signal Decimal :=
  if rightCoefficient = 0 then
    .error (if leftCoefficient = 0 then .invalidOperation else .divisionByZero)
  else if leftCoefficient = 0 then
    fit ctx (leftNegative != rightNegative) 0 (leftExponent - rightExponent)
  else
    let result := quotient ctx leftCoefficient rightCoefficient (leftExponent - rightExponent)
    fit ctx (leftNegative != rightNegative) result.1 result.2

/-- Quotient rounded to the context. -/
def div (ctx : Context) : Decimal → Decimal → Except Signal Decimal
  | nan true, _ | _, nan true => .error .invalidOperation
  | nan false, _ | _, nan false => .ok (nan false)
  | infinity _, infinity _ => .error .invalidOperation
  | infinity left, finite right _ _ => .ok (infinity (left != right))
  | finite left _ _, infinity right => .ok (finite (left != right) 0 ctx.etiny)
  | finite leftNegative leftCoefficient leftExponent,
    finite rightNegative rightCoefficient rightExponent =>
    finiteDiv ctx leftNegative leftCoefficient leftExponent
      rightNegative rightCoefficient rightExponent

/-- A relation of two values read at their common scale, infinities beyond every number;
an undefined operand signals. -/
def orders (relation : Int → Int → Bool) : Decimal → Decimal → Except Signal Bool
  | nan _, _ | _, nan _ => .error .invalidOperation
  | infinity left, infinity right => .ok (relation (signed left 1) (signed right 1))
  | infinity left, finite _ _ _ => .ok (relation (signed left 1) 0)
  | finite _ _ _, infinity right => .ok (relation 0 (signed right 1))
  | finite leftNegative leftCoefficient leftExponent,
    finite rightNegative rightCoefficient rightExponent =>
    let target := min leftExponent rightExponent
    .ok (relation (signed leftNegative (leftCoefficient * 10 ^ (leftExponent - target).toNat))
      (signed rightNegative (rightCoefficient * 10 ^ (rightExponent - target).toNat)))

/-- Strict order; an undefined operand signals. -/
def lt (left right : Decimal) : Except Signal Bool := orders (fun x y => x < y) left right

/-- Non-strict order; an undefined operand signals. -/
def le (left right : Decimal) : Except Signal Bool := orders (fun x y => x ≤ y) left right

/-- Numeric equality: a quiet undefined value equals nothing, a signaling one signals. -/
def eq (left right : Decimal) : Except Signal Bool :=
  match left, right with
  | nan true, _ | _, nan true => .error .invalidOperation
  | nan false, _ | _, nan false => .ok false
  | left, right => orders (fun x y => x == y) left right

/-- Rounds to a given exponent, refusing results beyond the context. -/
def quantize (ctx : Context) (value : Decimal) (target : Int) (mode : Rounding) :
    Except Signal Decimal :=
  match value with
  | nan true => .error .invalidOperation
  | nan false => .ok (nan false)
  | infinity _ => .error .invalidOperation
  | finite negative coefficient exponent =>
    if target < ctx.etiny ∨ ctx.emax < target then .error .invalidOperation
    else if coefficient = 0 then fit ctx negative 0 target
    else if ctx.emax < digits coefficient + exponent - 1 then .error .invalidOperation
    else if (ctx.precision : Int) < digits coefficient + exponent - target then
      .error .invalidOperation
    else
      let rounded := rescale mode negative coefficient exponent target
      if ctx.emax < digits rounded + target - 1 ∨ ctx.precision < digits rounded then
        .error .invalidOperation
      else fit ctx negative rounded target

/-- Integer part toward zero of a finite value: its magnitude rounded down. -/
def truncate : Decimal → Option Int
  | finite negative coefficient exponent =>
    some (signed negative (rescale .floor false coefficient exponent 0))
  | infinity _ | nan _ => none

/-- An integer as an exact value. -/
def ofInt (value : Int) : Decimal := finite (value < 0) value.natAbs 0

end Decimal

/-- A decimal that is neither infinite nor undefined. -/
structure FiniteDecimal where
  /-- Sign, kept for zero too. -/
  negative : Bool
  /-- Digits as one number. -/
  coefficient : Nat
  /-- Power of ten. -/
  exponent : Int
  deriving DecidableEq, Repr

/-- A finite decimal as a decimal. -/
def FiniteDecimal.toDecimal (value : FiniteDecimal) : Decimal :=
  .finite value.negative value.coefficient value.exponent

end DecimalFloat
