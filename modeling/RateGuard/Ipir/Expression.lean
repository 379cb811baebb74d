import RateGuard.Ipir.Value

/-!
# Expressions and conditions

The declarative syntax trees of a rating package. Where the schema accepts an
expression, a reference or a literal, one operand type covers the union. Arity
and identifier rules are separate checks because they range over whole trees.
-/

namespace RateGuard

/-- Supported mathematical calculation operators. -/
inductive ExpressionOperator where
  | add | subtract | multiply | divide | min | max | round
  deriving DecidableEq, Repr

/-- Supported relational comparison operators. -/
inductive ComparisonOperator where
  | eq | ne | gt | gte | lt | lte
  deriving DecidableEq, Repr

/-- Supported boolean logic operators. -/
inductive LogicalOperator where
  | and | or
  deriving DecidableEq, Repr

/-- Characters an identifier may hold. -/
def isIdentifierChar (character : Char) : Bool :=
  character.isAlphanum || character == '_' || character == '.' || character == '-'

/-- Identifiers after validation: nonempty and machine-readable. -/
def isIdentifier (id : String) : Bool := id ≠ "" && id.toList.all isIdentifierChar

/-- Expression, node reference or literal. -/
inductive Operand where
  | reference (ref : String)
  | literal (value : Literal)
  | expression (operator : ExpressionOperator) (operands : List Operand)

/-- Operand counts an operator accepts. -/
def arityValid (operator : ExpressionOperator) (count : Nat) : Bool :=
  match operator with
  | .divide => count == 2
  | .round => count == 1 || count == 2
  | .add | .subtract | .multiply | .min | .max => 2 ≤ count

mutual

/-- Arity and identifier rules throughout an operand. -/
def Operand.wellFormed : Operand → Bool
  | .reference ref => isIdentifier ref
  | .literal _ => true
  | .expression operator operands =>
    arityValid operator operands.length && operandsWellFormed operands

/-- Arity and identifier rules throughout a list of operands. -/
def operandsWellFormed : List Operand → Bool
  | [] => true
  | operand :: rest => operand.wellFormed && operandsWellFormed rest

end

/-- Comparison or logical combination of conditions. -/
inductive Condition where
  | comparison (left : Operand) (operator : ComparisonOperator) (right : Operand)
  | logical (operator : LogicalOperator) (conditions : List Condition)

mutual

/-- Shape rules throughout a condition. -/
def Condition.wellFormed : Condition → Bool
  | .comparison left _ right => left.wellFormed && right.wellFormed
  | .logical _ conditions => conditions ≠ [] && conditionsWellFormed conditions

/-- Shape rules throughout a list of conditions. -/
def conditionsWellFormed : List Condition → Bool
  | [] => true
  | condition :: rest => condition.wellFormed && conditionsWellFormed rest

end

end RateGuard
