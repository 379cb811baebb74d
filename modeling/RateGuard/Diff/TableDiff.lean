import RateGuard.Foundation.KeyedList
import RateGuard.Oracle.TableLookup

/-!
# Rate table differences

Semantic differences of two packages and the comparison of two rate tables. A
row is identified by the text of its keys; of several rows with one text only
the last is compared.
-/

open DecimalFloat CalendarDate

namespace RateGuard

/-- Types of semantic differences. -/
inductive DifferenceType where
  | valueChange | rangeChange | ruleChange | orderChange | effectiveDateChange | roundingChange
  | missingNode | extraNode | tableRowChange | tableRowMissing | tableRowExtra
  | tableCoverageGap | outputChange | modifierChange | constraintChange | feeChange
  deriving DecidableEq, Repr

/-- Severity of a semantic difference. -/
inductive DifferenceSeverity where
  | critical | high | medium | low
  deriving DecidableEq, Repr

/-- Kinds of nodes that differ. -/
inductive DifferenceNode where
  | package | input | constant | tableRow | modifier | constraint | fee
  deriving DecidableEq, Repr

/-- One difference between two packages. -/
structure SemanticDifference where
  /-- Identifier of the difference. -/
  id : String
  /-- Its type. -/
  differenceType : DifferenceType
  /-- Where it is. -/
  semanticPath : String
  /-- Node that differs. -/
  nodeId : String
  /-- Kind of that node. -/
  nodeType : DifferenceNode
  /-- Value on the left side. -/
  leftValue : Option Value
  /-- Value on the right side. -/
  rightValue : Option Value
  /-- Its severity. -/
  severity : DifferenceSeverity
  /-- Key text of the row that differs. -/
  dimensionKey : Option String
  deriving DecidableEq

/-- Runtime value of a bound. -/
def Bound.toValue : Bound → Value
  | int value => .int value
  | decimal value => .decimal value.toDecimal

/-- Text of an optional bound. -/
def boundText (unbounded : String) (bound : Option Bound) : String :=
  (bound.map fun bound => bound.toValue.toString).getD unbounded

/-- Text of one key. -/
def RowMatch.keyPart : RowMatch → String
  | exact value => value.toValue.toString
  | range bracket => boundText "-inf" bracket.minimum ++ ".." ++ boundText "+inf" bracket.maximum

/-- `format_match_key`: the texts of the keys of a row, joined by bars. -/
def formatMatchKey (row : TableRow) : String :=
  "|".intercalate (row.rowMatches.map RowMatch.keyPart)

/-- Whether two numbers differ in value; equal numbers may be written differently. -/
def numbersDiffer (left right : FiniteDecimal) : Bool :=
  left.toDecimal.eq right.toDecimal != .ok true

/-- Difference of one row of a table. -/
def rowDifference (table key suffix : String) (type : DifferenceType)
    (left right : Option TableRow) : SemanticDifference where
  id := "diff_" ++ table ++ "_" ++ key ++ "_" ++ suffix
  differenceType := type
  semanticPath := "tables." ++ table ++ "[" ++ key ++ "]"
  nodeId := table
  nodeType := .tableRow
  leftValue := left.map fun row => .decimal row.value.toDecimal
  rightValue := right.map fun row => .decimal row.value.toDecimal
  severity := .critical
  dimensionKey := some key

/-- Compares the rows of one key. -/
def compareRows (table key : String) (left right : Option TableRow) : List SemanticDifference :=
  match left, right with
  | some row, some other =>
    if numbersDiffer row.value other.value then
      [rowDifference table key "factor" .tableRowChange left right]
    else []
  | some _, none => [rowDifference table key "missing" .tableRowMissing left right]
  | none, some _ => [rowDifference table key "extra" .tableRowExtra left right]
  | none, none => []

/-- `compare_rate_tables`. -/
def compareRateTables (left right : RateTable) : List SemanticDifference :=
  (KeyedList.sortedUnion (left.rows.map formatMatchKey) (right.rows.map formatMatchKey)).flatMap
    fun key => compareRows left.id key (KeyedList.lastWith formatMatchKey left.rows key)
      (KeyedList.lastWith formatMatchKey right.rows key)

/-- Numbers do not differ exactly when they denote one value. -/
theorem numbersDiffer_eq_false {left right : FiniteDecimal} :
    numbersDiffer left right = false ↔ Decimal.Same left.toDecimal right.toDecimal := by
  unfold numbersDiffer
  rw [bne_eq_false_iff_eq]
  exact finite_eq_iff left right

/-- Tables without differences have rows of one value, or no rows, for every key. -/
theorem compareRateTables_eq_nil {left right : RateTable}
    (equal : compareRateTables left right = []) (key : String) :
    Option.Rel (fun row other => Decimal.Same row.value.toDecimal other.value.toDecimal)
      (KeyedList.lastWith formatMatchKey left.rows key)
      (KeyedList.lastWith formatMatchKey right.rows key) := by
  by_cases keyed : key ∈ KeyedList.sortedUnion (left.rows.map formatMatchKey)
      (right.rows.map formatMatchKey)
  · have none := List.flatMap_eq_nil_iff.mp equal key keyed
    generalize KeyedList.lastWith formatMatchKey left.rows key = one at none ⊢
    generalize KeyedList.lastWith formatMatchKey right.rows key = two at none ⊢
    cases one with
    | none =>
      cases two with
      | none => exact .none
      | some other => cases none
    | some row =>
      cases two with
      | none => cases none
      | some other =>
        refine .some (numbersDiffer_eq_false.mp ?_)
        by_contra differ
        rw [Bool.not_eq_false] at differ
        simp [compareRows, differ] at none
  · rw [KeyedList.mem_sortedUnion, not_or] at keyed
    rw [KeyedList.lastWith_eq_none.mpr keyed.1, KeyedList.lastWith_eq_none.mpr keyed.2]
    exact .none

end RateGuard
