import RateGuard.Ipir.Coverage
import RateGuard.Oracle.TableReference

/-!
# Expressions of IPIR 0.2

Every node kind has its own constructor, so a rounding without a scale or a negation
with two operands cannot be built. What an expression refers to is collected from
anywhere in it.
-/

open DecimalFloat

namespace RateGuard

/-- Operators of exactly two operands. -/
inductive BinaryOperator where
  | add | subtract | multiply | divide | min | max
  deriving DecidableEq, Repr

/-- Operators of two or more operands. -/
inductive NaryOperator where
  | add | multiply | min | max
  deriving DecidableEq, Repr

/-- The same operator in IPIR 0.1. -/
def BinaryOperator.lowered : BinaryOperator → ExpressionOperator
  | add => .add
  | subtract => .subtract
  | multiply => .multiply
  | divide => .divide
  | min => .min
  | max => .max

/-- The same operator in IPIR 0.1. -/
def NaryOperator.lowered : NaryOperator → ExpressionOperator
  | add => .add
  | multiply => .multiply
  | min => .min
  | max => .max

mutual

/-- Expression, by its kind. -/
inductive ExpressionV2 where
  /-- A constant value. -/
  | literal (value : Literal)
  /-- The value of another node. -/
  | reference (ref : String)
  /-- The one unary operator. -/
  | negate (operand : ExpressionV2)
  /-- An operator of two operands; division by zero is rejected. -/
  | binary (operator : BinaryOperator) (left right : ExpressionV2)
  /-- An operator of several operands. -/
  | nary (operator : NaryOperator) (operands : List ExpressionV2)
  /-- A choice between two branches. -/
  | conditional (condition : ConditionV2) (whenTrue whenFalse : ExpressionV2)
  /-- The factor of a table. -/
  | tableLookup (tableId : String)
  /-- Explicit rounding to at most ten places. -/
  | round (operand : ExpressionV2) (scale : Fin 11) (mode : Rounding)

/-- Comparison or logical combination inside a conditional. -/
inductive ConditionV2 where
  | comparison (left : ExpressionV2) (operator : ComparisonOperator) (right : ExpressionV2)
  | logical (operator : LogicalOperator) (conditions : List ConditionV2)

end

/-- What an expression refers to: a node or a table. -/
inductive ExpressionRef where
  | node (id : String)
  | table (id : String)
  deriving DecidableEq

/-- Referred identifier. -/
def ExpressionRef.id : ExpressionRef → String
  | node id => id
  | table id => id

mutual

/-- `_iter_expression_refs`: references anywhere in an expression. -/
def ExpressionV2.refs : ExpressionV2 → List ExpressionRef
  | .literal _ => []
  | .reference ref => [.node ref]
  | .tableLookup tableId => [.table tableId]
  | .negate operand => operand.refs
  | .binary _ left right => left.refs ++ right.refs
  | .nary _ operands => expressionsRefs operands
  | .round operand _ _ => operand.refs
  | .conditional condition whenTrue whenFalse =>
    condition.refs ++ whenTrue.refs ++ whenFalse.refs

/-- References anywhere in a list of expressions. -/
def expressionsRefs : List ExpressionV2 → List ExpressionRef
  | [] => []
  | expression :: rest => expression.refs ++ expressionsRefs rest

/-- `_iter_condition_refs`: references anywhere in a condition. -/
def ConditionV2.refs : ConditionV2 → List ExpressionRef
  | .comparison left _ right => left.refs ++ right.refs
  | .logical _ conditions => conditionsRefs conditions

/-- References anywhere in a list of conditions. -/
def conditionsRefs : List ConditionV2 → List ExpressionRef
  | [] => []
  | condition :: rest => condition.refs ++ conditionsRefs rest

end

/-- Characters of a 0.2 identifier after its first. -/
def isIdentifierV2Char (character : Char) : Bool :=
  character.isLower || character.isDigit || character == '_'

/-- Identifiers of IPIR 0.2 after validation: a lowercase letter and one to sixty-three lowercase
letters, digits and underscores. -/
def isIdentifierV2 (id : String) : Bool :=
  match id.toList with
  | first :: rest =>
    first.isLower && 1 ≤ rest.length && rest.length ≤ 63 && rest.all isIdentifierV2Char
  | [] => false

mutual

/-- Operand counts and identifiers throughout an expression. -/
def ExpressionV2.wellFormed : ExpressionV2 → Bool
  | .literal _ => true
  | .reference ref => isIdentifierV2 ref
  | .tableLookup tableId => isIdentifierV2 tableId
  | .negate operand => operand.wellFormed
  | .binary _ left right => left.wellFormed && right.wellFormed
  | .nary _ operands => 2 ≤ operands.length && expressionsWellFormed operands
  | .round operand _ _ => operand.wellFormed
  | .conditional condition whenTrue whenFalse =>
    condition.wellFormed && whenTrue.wellFormed && whenFalse.wellFormed

/-- Operand counts and identifiers throughout a list of expressions. -/
def expressionsWellFormed : List ExpressionV2 → Bool
  | [] => true
  | expression :: rest => expression.wellFormed && expressionsWellFormed rest

/-- Operand counts and identifiers throughout a condition. -/
def ConditionV2.wellFormed : ConditionV2 → Bool
  | .comparison left _ right => left.wellFormed && right.wellFormed
  | .logical _ conditions => 1 ≤ conditions.length && conditionsV2WellFormed conditions

/-- Operand counts and identifiers throughout a list of conditions. -/
def conditionsV2WellFormed : List ConditionV2 → Bool
  | [] => true
  | condition :: rest => condition.wellFormed && conditionsV2WellFormed rest

end

end RateGuard
