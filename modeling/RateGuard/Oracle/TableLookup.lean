import RateGuard.Oracle.Expression

/-!
# Rate table lookup

A row matches when each of its keys matches the looked-up value of its
dimension. Exactly one matching row gives the factor; no row falls back to the
neutral factor for tables of two dimensions only. Declared inclusion flags,
priorities and default values are not consulted.
-/

open DecimalFloat

namespace RateGuard

/-- `_matches_exact`: numbers compare as decimals, other values as trimmed text. A boolean
on both sides is numeric there, and its text is no decimal. -/
def matchesExact (key : Literal) (value : Value) : Except Failure Bool :=
  if value.isNumeric && key.toValue.isNumeric then do
    let left ← raising value.toDecimal
    let right ← raising key.toValue.toDecimal
    raising (left.eq right)
  else .ok (Text.strip value.text == Text.strip key.toValue.text)

/-- `_matches_range`: inclusive on both bounds; text that is no decimal raises. -/
def matchesRange (bracket : RangeMatch) (value : Value) : Except Failure Bool := do
  let number ← raising value.toDecimal
  let below ← match bracket.minimum with
    | some minimum => raising (number.lt minimum.toDecimal)
    | none => .ok false
  if below then return false
  else
    let above ← match bracket.maximum with
      | some maximum => raising (maximum.toDecimal.lt number)
      | none => .ok false
    return !above

/-- Whether one key matches the looked-up value of its dimension. -/
def keyMatches (dimension : TableDimension) (key : RowMatch) (value : Option Value) :
    Except Failure Bool :=
  match value, dimension.lookupType, key with
  | none, _, _ => .ok false
  | some value, .exact, .exact literal => matchesExact literal value
  | some value, .range, .range bracket => matchesRange bracket value
  | some _, .exact, .range _ | some _, .range, .exact _ => .ok false

/-- Whether a row matches, stopping at the first key that does not. -/
def rowMatches (lookup : String → Option Value) : List TableDimension → List RowMatch →
    Except Failure Bool
  | dimension :: dimensions, key :: keys => do
    if ← keyMatches dimension key (lookup dimension.inputRef) then
      rowMatches lookup dimensions keys
    else return false
  | _, _ => .ok true

/-- Rows matching the looked-up values, in declaration order. -/
def matchingRows (lookup : String → Option Value) (dimensions : List TableDimension) :
    List TableRow → Except Failure (List TableRow)
  | [] => .ok []
  | row :: rest => do
    let matched ← rowMatches lookup dimensions row.rowMatches
    let others ← matchingRows lookup dimensions rest
    return if matched then row :: others else others

/-- Neutral factor of an unmatched table of two dimensions. -/
def neutralFactor : FiniteDecimal := ⟨false, 100, -2⟩

/-- Looked-up values of the dimensions, as errors report them. -/
def dimensionValues (table : RateTable) (lookup : String → Option Value) :
    List (String × Option Value) :=
  table.dimensions.map fun dimension => (dimension.inputRef, lookup dimension.inputRef)

/-- `lookup_table`: the factor and row for looked-up dimension values. -/
def lookupTable (table : RateTable) (lookup : String → Option Value) :
    Except Failure (Decimal × TableRow) := do
  match ← matchingRows lookup table.dimensions table.rows with
  | [] =>
    if 1 < table.dimensions.length then
      return (neutralFactor.toDecimal, ⟨[], neutralFactor, none⟩)
    else .error (.oracle (.noMatchingRow table.id (dimensionValues table lookup)))
  | [row] => return (row.value.toDecimal, row)
  | rows => .error (.oracle (.ambiguousRows table.id rows.length (dimensionValues table lookup)))

end RateGuard
