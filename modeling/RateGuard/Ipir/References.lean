import RateGuard.Ipir.Expression

/-!
# References of expressions and conditions

The identifiers a syntax tree refers to at any depth.
-/

namespace RateGuard

mutual

/-- References of an operand at any depth. -/
def Operand.refs : Operand → List String
  | .reference ref => [ref]
  | .literal _ => []
  | .expression _ operands => operandListRefs operands

/-- References of a list of operands. -/
def operandListRefs : List Operand → List String
  | [] => []
  | operand :: rest => operand.refs ++ operandListRefs rest

end

mutual

/-- References of a condition at any depth. -/
def Condition.refs : Condition → List String
  | .comparison left _ right => left.refs ++ right.refs
  | .logical _ conditions => conditionListRefs conditions

/-- References of a list of conditions. -/
def conditionListRefs : List Condition → List String
  | [] => []
  | condition :: rest => condition.refs ++ conditionListRefs rest

end

/-- The references of a listed operand are references of the list. -/
theorem operandListRefs_mem {operands : List Operand} {operand : Operand}
    (mem : operand ∈ operands) : operand.refs ⊆ operandListRefs operands := by
  induction operands with
  | nil => exact absurd mem List.not_mem_nil
  | cons head rest ih =>
    intro ref found
    rw [operandListRefs, List.mem_append]
    cases List.mem_cons.mp mem with
    | inl same => exact .inl (same ▸ found)
    | inr later => exact .inr (ih later found)

end RateGuard
