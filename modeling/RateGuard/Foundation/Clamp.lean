import Mathlib.Order.BoundedOrder.Lattice
import Mathlib.Order.Lattice
import Mathlib.Order.MinMax
import Mathlib.Data.List.Perm.Basic

/-!
# Clamping by one-sided bounds

Lower and upper bounds enforced one after another on a value of a bounded linear order. When no
lower bound lies above an upper one, every order of enforcement clamps the value between the
largest lower and the smallest upper bound.
-/

namespace Clamp

variable {α : Type}

/-- A one-sided bound. -/
inductive Limit (α : Type) where
  | low (bound : α)
  | high (bound : α)

/-- Lower bounds of a list. -/
def lows (bounds : List (Limit α)) : List α :=
  bounds.filterMap fun
    | .low bound => some bound
    | .high _ => none

/-- Upper bounds of a list. -/
def highs (bounds : List (Limit α)) : List α :=
  bounds.filterMap fun
    | .high bound => some bound
    | .low _ => none

/-- A lower bound is listed among the lower ones. -/
@[simp] theorem lows_low (bound : α) (rest : List (Limit α)) :
    lows (.low bound :: rest) = bound :: lows rest := rfl

/-- An upper bound is not listed among the lower ones. -/
@[simp] theorem lows_high (bound : α) (rest : List (Limit α)) :
    lows (.high bound :: rest) = lows rest := rfl

/-- A lower bound is not listed among the upper ones. -/
@[simp] theorem highs_low (bound : α) (rest : List (Limit α)) :
    highs (.low bound :: rest) = highs rest := rfl

/-- An upper bound is listed among the upper ones. -/
@[simp] theorem highs_high (bound : α) (rest : List (Limit α)) :
    highs (.high bound :: rest) = bound :: highs rest := rfl

/-- No lower bound lies above an upper one. -/
def Compatible [LE α] (bounds : List (Limit α)) : Prop :=
  ∀ low ∈ lows bounds, ∀ high ∈ highs bounds, low ≤ high

/-- Whether a value satisfies a bound. -/
def Limit.Holds [LE α] (value : α) : Limit α → Prop
  | .low bound => bound ≤ value
  | .high bound => value ≤ bound

/-- Compatibility does not depend on the order of the bounds. -/
theorem Compatible.perm [LE α] {left right : List (Limit α)} (same : left.Perm right)
    (compatible : Compatible left) : Compatible right := by
  intro low lowMem high highMem
  exact compatible low ((same.filterMap _).mem_iff.mpr lowMem) high
    ((same.filterMap _).mem_iff.mpr highMem)

section Order

variable [LinearOrder α] [BoundedOrder α]

/-- Value after enforcing a bound. -/
def Limit.enforce (value : α) : Limit α → α
  | .low bound => max value bound
  | .high bound => min value bound

/-- Largest of some lower bounds. -/
def largest (values : List α) : α := values.foldr max ⊥

/-- Smallest of some upper bounds. -/
def smallest (values : List α) : α := values.foldr min ⊤

/-- A value clamped between its bounds. -/
def clamp (bounds : List (Limit α)) (value : α) : α :=
  max (largest (lows bounds)) (min value (smallest (highs bounds)))

/-- Every lower bound is at most the largest. -/
theorem le_largest {values : List α} {value : α} (mem : value ∈ values) :
    value ≤ largest values := by
  induction values with
  | nil => exact absurd mem List.not_mem_nil
  | cons head tail ih =>
    change value ≤ max head (largest tail)
    cases List.mem_cons.mp mem with
    | inl same => exact same ▸ le_max_left _ _
    | inr later => exact (ih later).trans (le_max_right _ _)

/-- The smallest upper bound is at most every one of them. -/
theorem smallest_le {values : List α} {value : α} (mem : value ∈ values) :
    smallest values ≤ value := by
  induction values with
  | nil => exact absurd mem List.not_mem_nil
  | cons head tail ih =>
    change min head (smallest tail) ≤ value
    cases List.mem_cons.mp mem with
    | inl same => exact same ▸ min_le_left _ _
    | inr later => exact (min_le_right _ _).trans (ih later)

/-- The largest of some values is at most what each of them is at most. -/
theorem largest_le {values : List α} {limit : α} (bounded : ∀ value ∈ values, value ≤ limit) :
    largest values ≤ limit := by
  induction values with
  | nil => exact bot_le
  | cons head tail ih =>
    have rest : largest tail ≤ limit :=
      ih fun value mem => bounded value (List.mem_cons_of_mem head mem)
    exact max_le (bounded head List.mem_cons_self) rest

/-- What is at most each of some values is at most the smallest. -/
theorem le_smallest {values : List α} {limit : α} (bounded : ∀ value ∈ values, limit ≤ value) :
    limit ≤ smallest values := by
  induction values with
  | nil => exact le_top
  | cons head tail ih =>
    have rest : limit ≤ smallest tail :=
      ih fun value mem => bounded value (List.mem_cons_of_mem head mem)
    exact le_min (bounded head List.mem_cons_self) rest

/-- Compatible bounds have their largest lower bound at most their smallest upper one. -/
theorem Compatible.largest_le_smallest {bounds : List (Limit α)}
    (compatible : Compatible bounds) : largest (lows bounds) ≤ smallest (highs bounds) := by
  apply largest_le
  intro low lowMem
  apply le_smallest
  intro high highMem
  exact compatible low lowMem high highMem

/-- Bounds whose largest lower one is at most the smallest upper one are compatible. -/
theorem compatible_of_largest_le {bounds : List (Limit α)}
    (ordered : largest (lows bounds) ≤ smallest (highs bounds)) : Compatible bounds := by
  intro low lowMem high highMem
  calc
    low ≤ largest (lows bounds) := le_largest lowMem
    _ ≤ smallest (highs bounds) := ordered
    _ ≤ high := smallest_le highMem

/-- Enforcing a lower bound first joins it to the later lower bounds. The upper bounds that
follow lie above it and leave it alone. -/
theorem clamp_low {bound value : α} {rest : List (Limit α)}
    (below : bound ≤ smallest (highs rest)) :
    clamp rest (max value bound) = clamp (.low bound :: rest) value := by
  unfold clamp
  rw [lows_low, highs_low, min_max_distrib_right, min_eq_left below]
  change _ = max (max bound (largest (lows rest))) _
  ac_rfl

/-- Enforcing an upper bound first joins it to the later upper bounds. -/
theorem clamp_high (bound value : α) (rest : List (Limit α)) :
    clamp rest (min value bound) = clamp (.high bound :: rest) value := by
  unfold clamp
  rw [lows_high, highs_high, min_assoc]
  rfl

/-- Enforcing compatible bounds one after another clamps the value. -/
theorem foldl_enforce (bounds : List (Limit α)) (compatible : Compatible bounds) (value : α) :
    bounds.foldl Limit.enforce value = clamp bounds value := by
  induction bounds generalizing value with
  | nil =>
    change value = max ⊥ (min value ⊤)
    rw [max_eq_right bot_le, min_eq_left le_top]
  | cons bound rest ih =>
    rw [List.foldl_cons]
    cases bound with
    | low bound =>
      have remaining : Compatible rest := fun low mem high =>
        compatible low (List.mem_cons_of_mem bound mem) high
      have below : bound ≤ smallest (highs rest) :=
        le_smallest fun high mem => compatible bound List.mem_cons_self high mem
      rw [ih remaining]
      exact clamp_low below
    | high bound =>
      have remaining : Compatible rest := fun low mem high highMem =>
        compatible low mem high (List.mem_cons_of_mem bound highMem)
      rw [ih remaining]
      exact clamp_high bound value rest

/-- A clamped value satisfies all of its compatible bounds. -/
theorem clamp_holds {bounds : List (Limit α)} (compatible : Compatible bounds) (value : α) :
    ∀ bound ∈ bounds, bound.Holds (clamp bounds value) := by
  intro bound mem
  cases bound with
  | low bound =>
    have listed : bound ∈ lows bounds := List.mem_filterMap.mpr ⟨.low bound, mem, rfl⟩
    exact (le_largest listed).trans (le_max_left _ _)
  | high bound =>
    have listed : bound ∈ highs bounds := List.mem_filterMap.mpr ⟨.high bound, mem, rfl⟩
    have limit : clamp bounds value ≤ smallest (highs bounds) :=
      max_le compatible.largest_le_smallest (min_le_right _ _)
    exact limit.trans (smallest_le listed)

/-- The largest of some values does not depend on their order. -/
theorem largest_perm {left right : List α} (same : left.Perm right) :
    largest left = largest right :=
  le_antisymm (largest_le fun _ mem => le_largest (same.mem_iff.mp mem))
    (largest_le fun _ mem => le_largest (same.mem_iff.mpr mem))

/-- The smallest of some values does not depend on their order. -/
theorem smallest_perm {left right : List α} (same : left.Perm right) :
    smallest left = smallest right :=
  le_antisymm (le_smallest fun _ mem => smallest_le (same.mem_iff.mpr mem))
    (le_smallest fun _ mem => smallest_le (same.mem_iff.mp mem))

/-- Clamping does not depend on the order of the bounds. -/
theorem clamp_perm {left right : List (Limit α)} (same : left.Perm right) (value : α) :
    clamp left value = clamp right value := by
  have lower : largest (lows left) = largest (lows right) := largest_perm (same.filterMap _)
  have upper : smallest (highs left) = smallest (highs right) :=
    smallest_perm (same.filterMap _)
  unfold clamp
  rw [lower, upper]

end Order

end Clamp
