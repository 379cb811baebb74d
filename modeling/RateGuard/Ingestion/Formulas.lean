import RateGuard.Ingestion.Mapping

/-!
# Formulas of a workbook

The formula language of the calculation sheet: operands are decimal literals or identifiers,
conditions compare two operands or join two comparisons, and each row has one operator. Which
logical operator is searched first depends on the interpreter and is a parameter.
-/

open DecimalFloat CalendarDate TopologicalSort Outcome

namespace RateGuard

/-- Sheet of the calculations. -/
def calculationSheet : String := "RG_CALCULATIONS"

/-- `parse_operand`: a decimal literal, which may be marked, else an identifier. -/
def parseOperand (token : List Char) (cell : String) : Except MappingFailure ExpressionV2 :=
  let text := Text.strip token
  if text = [] then .error (rejectRow "MALFORMED_CALCULATION_OPERAND" calculationSheet cell)
  else
    match Decimal.parse (if text.head? = some '#' then text.tail else text) with
    | some number => do return .literal (.decimal (← finiteField number))
    | none =>
      if isIdentifierV2 (String.ofList text) then .ok (.reference (String.ofList text))
      else .error (rejectRow "MALFORMED_CALCULATION_OPERAND" calculationSheet cell)

/-- `ComparisonOperator` of its text. -/
def comparisonOperator (text : String) : Option ComparisonOperator :=
  [("EQ", ComparisonOperator.eq), ("NE", .ne), ("GT", .gt), ("GTE", .gte), ("LT", .lt),
    ("LTE", .lte)].lookup text

/-- Operator of two operands, of its text. -/
def binaryOperator (text : String) : Option BinaryOperator :=
  [("ADD", BinaryOperator.add), ("SUBTRACT", .subtract), ("MULTIPLY", .multiply),
    ("DIVIDE", .divide), ("MIN", .min), ("MAX", .max)].lookup text

/-- Text before and after the first occurrence of a whole word. -/
def searchWord (isWord : Char → Bool) (word : List Char) :
    List Char → List Char → Option (List Char × List Char)
  | _, [] => none
  | before, first :: rest =>
    if word.isPrefixOf (first :: rest) && !before.head?.any isWord &&
        !((first :: rest).drop word.length).head?.any isWord then
      some (before.reverse, (first :: rest).drop word.length)
    else searchWord isWord word (first :: before) rest

section Formulas

variable (letters : Letters)

/-- `_parse_comparison`. -/
def parseComparison (text : List Char) (cell : String) : Except MappingFailure ConditionV2 :=
  match words text with
  | [left, operator, right] =>
    match comparisonOperator (letters.upper (String.ofList operator)) with
    | some comparison => do
      let first ← parseOperand left cell
      let second ← parseOperand right cell
      return .comparison first comparison second
    | none => .error (rejectRow "MALFORMED_CONDITION" calculationSheet cell)
  | _ => .error (rejectRow "MALFORMED_CONDITION" calculationSheet cell)

/-- Two comparisons joined by an operator. -/
def parseJoined (operator : LogicalOperator) (parts : List Char × List Char) (cell : String) :
    Except MappingFailure ConditionV2 := do
  let left ← parseComparison letters (Text.strip parts.1) cell
  let right ← parseComparison letters (Text.strip parts.2) cell
  return .logical operator [left, right]

/-- Word of a logical operator. -/
def logicalWord : LogicalOperator → List Char
  | .and => "AND".toList
  | .or => "OR".toList

/-- `parse_condition`: the first operator found joins two comparisons. -/
def parseCondition (order : List LogicalOperator) (token : List Char) (cell : String) :
    Except MappingFailure ConditionV2 :=
  let raw := Text.strip token
  if raw = [] then .error (rejectRow "MALFORMED_CONDITION" calculationSheet cell)
  else
    match order.findSome? fun operator =>
        (searchWord letters.isWord (logicalWord operator) [] raw).map (Prod.mk operator) with
    | some (operator, parts) => parseJoined letters operator parts cell
    | none => parseComparison letters raw cell

/-- `int(Decimal(text))` as a scale of at most ten places. -/
def roundScale (text : String) : Except MappingFailure (Fin 11) :=
  match Decimal.parse text.toList with
  | none => .error (.escaped .invalidOperation)
  | some number =>
    match (Value.decimal number).toInt with
    | .error fault => .error (.escaped (.integer fault))
    | .ok scale =>
      if bounded : scale.toNat < 11 ∧ 0 ≤ scale then .ok ⟨scale.toNat, bounded.1⟩
      else .error (.escaped .validation)

/-- `TABLE_LOOKUP` of a row. -/
def lookupFormula (row : Row) (nodeId : String) : Except MappingFailure ExpressionV2 :=
  match (row "operand_1").text with
  | none => .error (rejectRow "MALFORMED_CALCULATION_OPERAND" calculationSheet nodeId)
  | some tableId => do
    schemaRequires (isIdentifierV2 tableId)
    return .tableLookup tableId

/-- `ROUND` of a row. -/
def roundFormula (row : Row) (nodeId : String) : Except MappingFailure ExpressionV2 :=
  match (row "scale").text, (row "rounding_mode").text with
  | some scaleText, some modeText =>
    match roundingMode (letters.upper modeText) with
    | none => .error (rejectRow "UNSUPPORTED_ROUNDING_MODE" calculationSheet nodeId)
    | some mode => do
      let operand ← parseOperand ((row "operand_1").print.getD []) nodeId
      let scale ← roundScale scaleText
      return .round operand scale mode
  | _, _ => .error (rejectRow "MISSING_ROUNDING" calculationSheet nodeId)

/-- `IF` of a row. -/
def conditionalFormula (order : List LogicalOperator) (row : Row) (nodeId : String) :
    Except MappingFailure ExpressionV2 := do
  let condition ← parseCondition letters order ((row "operand_1").print.getD []) nodeId
  match ((row "operand_2").text.getD "").toList.splitOn '|' with
  | [whenTrue, whenFalse] =>
    let first ← parseOperand whenTrue nodeId
    let second ← parseOperand whenFalse nodeId
    return .conditional condition first second
  | _ => .error (rejectRow "MALFORMED_CONDITION" calculationSheet nodeId)

/-- Whether an expression is a literal of zero. -/
def isZeroLiteral : ExpressionV2 → Bool
  | .literal (.decimal value) => value.coefficient = 0
  | _ => false

/-- Operator of two operands of a row. -/
def binaryFormula (operator : BinaryOperator) (row : Row) (nodeId : String) :
    Except MappingFailure ExpressionV2 := do
  let left ← parseOperand ((row "operand_1").print.getD []) nodeId
  let right ← parseOperand ((row "operand_2").print.getD []) nodeId
  if operator = .divide ∧ isZeroLiteral right = true then
    .error (rejectRow "DIVISION_BY_ZERO_PATH" calculationSheet nodeId)
  else return .binary operator left right

/-- Expression of a row, by its operator. -/
def buildExpression (order : List LogicalOperator) (row : Row) (nodeId : String) :
    Except MappingFailure ExpressionV2 :=
  let operator := letters.upper ((row "operator").text.getD "")
  if operator = "LOOKUP" then lookupFormula row nodeId
  else if operator = "ROUND" then roundFormula letters row nodeId
  else if operator = "IF" then conditionalFormula letters order row nodeId
  else
    match binaryOperator operator with
    | some binary => binaryFormula binary row nodeId
    | none => .error (.rejected ⟨"UNSUPPORTED_WORKBOOK_FUNCTION",
        [⟨some calculationSheet, some nodeId, some operator, none⟩]⟩)

/-- Calculation of a row with an identifier. -/
def buildCalculation (order : List LogicalOperator) (row : Row) (nodeId : String) :
    Except MappingFailure CalculationNodeV2 := do
  let expression ← buildExpression letters order row nodeId
  schemaRequires (isIdentifierV2 nodeId)
  return ⟨nodeId, expression, [], none⟩

/-- `build_calculations`. -/
def buildCalculations (order : List LogicalOperator) (rows : List Row) :
    Except MappingFailure (List CalculationNodeV2) :=
  (identified "node_id" rows).mapM fun entry => buildCalculation letters order entry.2 entry.1

end Formulas

end RateGuard
