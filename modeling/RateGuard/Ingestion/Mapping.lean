import RateGuard.Foundation.Dictionary
import RateGuard.Ingestion.Cells
import RateGuard.Ingestion.ControlCases

/-!
# Mapping of workbook rows

The builders of the controlled workbook: each sheet is mapped row by row to nodes of an IPIR 0.2
package. A builder rejects what it checks itself; what only the schema of a node refuses escapes as
an exception. Names and the texts of messages are left out; the library's message for an invalid
package, its reading of dates and the decoding of JSON are parameters.
-/

open DecimalFloat CalendarDate TopologicalSort Dictionary Outcome

namespace RateGuard

/-- `WorkbookErrorDetail`. -/
structure WorkbookErrorDetail where
  /-- Sheet. -/
  sheet : Option String
  /-- Cell, or the identifier of its row. -/
  cell : Option String
  /-- Function. -/
  function : Option String
  /-- Note. -/
  note : Option String
  deriving DecidableEq

/-- `WorkbookRejectionError` without its message. -/
structure WorkbookRejection where
  /-- Code. -/
  code : String
  /-- Details. -/
  details : List WorkbookErrorDetail
  deriving DecidableEq

/-- Exceptions that are no rejections. -/
inductive WorkbookException where
  /-- The schema of a node refuses its fields. -/
  | validation
  /-- An integer conversion fails. -/
  | integer (fault : IntFault)
  /-- A text is no decimal. -/
  | invalidOperation
  /-- A decoded value has no entries. -/
  | attribute
  /-- Decoding fails otherwise than by malformed text. -/
  | decoding
  deriving DecidableEq

/-- How a builder fails. -/
inductive MappingFailure where
  | rejected (rejection : WorkbookRejection)
  | escaped (exception : WorkbookException)
  deriving DecidableEq

/-- Rejection of a row. -/
def rejectRow (code sheet cell : String) : MappingFailure :=
  .rejected ⟨code, [⟨some sheet, some cell, none, none⟩]⟩

/-- A condition that the schema of a node requires. -/
def schemaRequires (condition : Bool) : Except MappingFailure Unit :=
  if condition then .ok () else .error (.escaped .validation)

/-- `_sname`: a name has to be given. -/
def requireName (row : Row) (sheet cell : String) : Except MappingFailure Unit :=
  match (row "name").text with
  | some _ => .ok ()
  | none => .error (rejectRow "MISSING_REQUIRED_VALUE" sheet cell)

/-- Decimal of a field; the schema refuses what is not finite. -/
def finiteField : Decimal → Except MappingFailure FiniteDecimal
  | .finite negative coefficient exponent => .ok ⟨negative, coefficient, exponent⟩
  | .infinity _ | .nan _ => .error (.escaped .validation)

/-- Optional bound of a field. -/
def boundField (cell : Cell) : Except MappingFailure (Option Bound) :=
  match cell.toDecimal with
  | some value => do return some (.decimal (← finiteField value))
  | none => .ok none

/-- `InputDataType` of its text. -/
def InputDataType.parse (text : String) : Option InputDataType :=
  [("INTEGER", integer), ("DECIMAL", decimal), ("MONEY", money), ("STRING", string),
    ("BOOLEAN", boolean), ("CATEGORY", category), ("DATE", date)].lookup text

/-- `RoundingMode` of its text. -/
def roundingMode (text : String) : Option Rounding :=
  [("HALF_UP", Rounding.halfUp), ("HALF_EVEN", .halfEven), ("FLOOR", .floor),
    ("CEILING", .ceiling)].lookup text

section Leaves

variable (letters : Letters)

/-- `InputDataType(str(value).strip().upper())`. -/
def inputDataType (cell : Cell) : Option InputDataType :=
  InputDataType.parse (letters.upper (cell.text.getD (if cell = .blank then "None" else "")))

/-- Restricted texts of an input. -/
def allowedValues (row : Row) : Option (List String) := (row "allowed_values").text.map commaParts

/-- `PricingInput`, checked by its schema. -/
def pricingInput (id : String) (dataType : InputDataType) (required : Bool)
    (allowed : Option (List String)) (minimum maximum : Option Bound) :
    Except MappingFailure PricingInput :=
  if valid : boundsOrdered minimum maximum = true ∧ (dataType = .boolean → allowed = none) then
    if isIdentifier id then .ok ⟨id, dataType, required, allowed, minimum, maximum, valid.1, valid.2⟩
    else .error (.escaped .validation)
  else .error (.escaped .validation)

/-- Input of a row with an identifier. -/
def buildInput (row : Row) (rowId : String) : Except MappingFailure PricingInput :=
  match inputDataType letters (row "data_type") with
  | none => .error (rejectRow "UNSUPPORTED_INPUT_DATA_TYPE" "RG_INPUTS" rowId)
  | some dataType => do
    requireName row "RG_INPUTS" rowId
    let minimum ← boundField (row "minimum")
    let maximum ← boundField (row "maximum")
    pricingInput rowId dataType ((row "required").toBool letters true) (allowedValues row) minimum
      maximum

/-- Rows with a value in a column, with that value. -/
def identified (column : String) (rows : List Row) : List (String × Row) :=
  rows.filterMap fun row => (row column).text.map fun id => (id, row)

/-- `build_inputs`. -/
def buildInputs (rows : List Row) : Except MappingFailure (List PricingInput) :=
  (identified "id" rows).mapM fun entry => buildInput letters entry.2 entry.1

/-- Constant of a row with an identifier. -/
def buildConstant (row : Row) (rowId : String) : Except MappingFailure PricingConstant :=
  match (row "value").toDecimal with
  | none => .error (rejectRow "MALFORMED_CONSTANT_VALUE" "RG_CONSTANTS" rowId)
  | some number => do
    requireName row "RG_CONSTANTS" rowId
    let value ← finiteField number
    schemaRequires (isIdentifier rowId)
    return ⟨rowId, value, none⟩

/-- `build_constants`. -/
def buildConstants (rows : List Row) : Except MappingFailure (List PricingConstant) :=
  (identified "id" rows).mapM fun entry => buildConstant entry.2 entry.1

/-- Priority of a row; a text that is no number has none. -/
def rowPriority (row : Row) : Except MappingFailure (Option Int) :=
  match (row "priority").toDecimal with
  | none => .ok none
  | some number =>
    match (Value.decimal number).toInt with
    | .ok priority => .ok (some priority)
    | .error fault => .error (.escaped (.integer fault))

/-- `RangeMatch`, checked by its schema. -/
def rangeMatch (minimum maximum : Option Bound) (includeMinimum includeMaximum : Bool) :
    Except MappingFailure RowMatch :=
  if valid : (minimum.isSome ∨ maximum.isSome) ∧ boundsOrdered minimum maximum = true then
    .ok (.range ⟨minimum, maximum, includeMinimum, includeMaximum, valid.1, valid.2⟩)
  else .error (.escaped .validation)

/-- Whether a row declares a range. -/
def isRangeRow (row : Row) : Bool :=
  (row "min").toDecimal.isSome || (row "max").toDecimal.isSome

/-- Key of a row: a range, else an exact value. -/
def buildMatch (tableId : String) (row : Row) : Except MappingFailure RowMatch :=
  if isRangeRow row then do
    let minimum ← boundField (row "min")
    let maximum ← boundField (row "max")
    rangeMatch minimum maximum ((row "include_min").toBool letters true)
      ((row "include_max").toBool letters true)
  else
    match (row "match_value").text with
    | some value => .ok (.exact (.str value))
    | none => .error (rejectRow "MALFORMED_TABLE_ROW" "RG_TABLES" tableId)

/-- Row of a table. -/
def buildTableRow (tableId : String) (row : Row) : Except MappingFailure TableRow := do
  let priority ← rowPriority row
  match (row "result_value").toDecimal with
  | none => .error (rejectRow "MALFORMED_TABLE_ROW" "RG_TABLES" tableId)
  | some number =>
    let key ← buildMatch letters tableId row
    let value ← finiteField number
    return ⟨[key], value, priority⟩

/-- Tables of one dimension, checked by their schema. -/
def rateTable (id dimension : String) (lookupType : TableLookupType) (rows : List TableRow) :
    Except MappingFailure RateTable :=
  if keyed : ∀ row ∈ rows, row.rowMatches.length = 1 then
    if isIdentifier dimension && isIdentifier id then
      .ok ⟨id, [⟨dimension, lookupType⟩], rows, none, false, none, .inl rfl, keyed⟩
    else .error (.escaped .validation)
  else .error (.escaped .validation)

/-- Table of its rows. -/
def buildTable (tableId : String) (rows : List Row) : Except MappingFailure RateTable :=
  match (rows.filterMap fun row => (row "dimension_id").text).dedup with
  | [dimension] => do
    let tableRows ← rows.mapM (buildTableRow letters tableId)
    rateTable tableId dimension (if rows.any isRangeRow then .range else .exact) tableRows
  | _ => .error (rejectRow "MALFORMED_TABLE_DIMENSION" "RG_TABLES" tableId)

/-- Rows by table, in the order of their first rows. -/
def byTable (rows : List Row) : List (String × List Row) :=
  group (identified "table_id" rows)

/-- `build_tables`. -/
def buildTables (rows : List Row) : Except MappingFailure (List RateTable) :=
  (byTable rows).mapM fun group => buildTable letters group.1 group.2

end Leaves

end RateGuard
