import RateGuard.Ingestion.Formulas

/-!
# Workbook compiler

The remaining builders of the controlled workbook, the package that is put together from all sheets
and the compiler, which turns a rejection into its answer. An exception that is no rejection is not
caught.
-/

open DecimalFloat CalendarDate TopologicalSort Dictionary Outcome

namespace RateGuard

/-- A decoded JSON document. -/
inductive JsonDocument where
  /-- An object, by its entries. -/
  | object (entries : List (String × JsonValue)) (distinct : (entries.map Prod.fst).Nodup)
  /-- Any other document. -/
  | other

/-- How decoding fails. -/
inductive DecodeFailure where
  /-- `JSONDecodeError`. -/
  | malformed
  /-- Any other exception, such as of an integer with too many digits. -/
  | failed
  deriving DecidableEq

/-- Rows of the required sheets. -/
structure Sheets where
  /-- `RG_METADATA`. -/
  metadata : List Row
  /-- `RG_INPUTS`. -/
  inputs : List Row
  /-- `RG_CONSTANTS`. -/
  constants : List Row
  /-- `RG_TABLES`. -/
  tables : List Row
  /-- `RG_CALCULATIONS`. -/
  calculations : List Row
  /-- `RG_OUTPUTS`. -/
  outputs : List Row
  /-- `RG_CONTROL_CASES`. -/
  controlCases : List Row

/-- Arguments of the package. -/
structure PackageDraft where
  /-- Metadata by key. -/
  metadata : List (String × String)
  /-- Supported transactions. -/
  transactionTypes : List TransactionType
  /-- Risk inputs. -/
  inputs : List PricingInput
  /-- Constants. -/
  constants : List PricingConstant
  /-- Rate tables. -/
  tables : List RateTable
  /-- Calculations. -/
  calculations : List CalculationNodeV2
  /-- Outputs. -/
  outputs : List PricingOutputV2
  /-- Control cases. -/
  cases : List ControlCase

/-- What the compiler uses of the interpreter and its libraries. -/
structure Interpreter where
  /-- Letter tables. -/
  letters : Letters
  /-- Order in which logical operators are searched. -/
  logicalOrder : List LogicalOperator
  /-- `json.loads`. -/
  decode : String → Except DecodeFailure JsonDocument
  /-- `str` of a decoded value. -/
  print : JsonValue → String
  /-- Reading of a date field. -/
  readDate : String → Option Date
  /-- Message of the validator for arguments it refuses. -/
  message : PackageDraft → String
  /-- Reading of the inputs of a case by the risk schema. -/
  accepts : JsonValue → Option RiskValue
  /-- Sorting of calculations. -/
  sorter : Sorter String

section Compiler

variable (interpreter : Interpreter)

/-- Keys that the metadata has to hold. -/
def requiredMetadataKeys : List String :=
  ["package_id", "product_id", "line", "country", "currency", "effective_start"]

/-- Metadata by key; a later row of a key replaces an earlier one. -/
def metadataOf (rows : List Row) : List (String × String) :=
  (identified "key" rows).foldl
    (fun entries entry => change entries (interpreter.letters.lower entry.1)
      fun _ => (entry.2 "value").text.getD "") []

/-- Value of a key, empty when it is missing. -/
def valueOf (metadata : List (String × String)) (key : String) : String :=
  (metadata.lookup key).getD ""

/-- Rejection of a metadata value. -/
def rejectMetadata (code note : String) : MappingFailure :=
  .rejected ⟨code, [⟨some "RG_METADATA", none, none, some note⟩]⟩

/-- `_validate_currency_and_jurisdiction`. -/
def validateScope (metadata : List (String × String)) : Except MappingFailure Unit :=
  if valueOf metadata "currency" ≠ "USD" then .error (rejectMetadata "UNSUPPORTED_CURRENCY" "currency")
  else if valueOf metadata "country" ≠ "US" then
    .error (rejectMetadata "UNSUPPORTED_JURISDICTION_COUNTRY" "country")
  else if valueOf metadata "state" ≠ "AZ" then
    .error (rejectMetadata "UNSUPPORTED_JURISDICTION_STATE" "state")
  else .ok ()

/-- `build_metadata`. -/
def buildMetadata (rows : List Row) : Except MappingFailure (List (String × String)) :=
  let metadata := metadataOf interpreter rows
  let missing := requiredMetadataKeys.filter fun key => valueOf metadata key = ""
  if missing = [] then do
    validateScope metadata
    return metadata
  else .error (.rejected ⟨"MISSING_REQUIRED_METADATA_KEY",
    missing.map fun key => ⟨some "RG_METADATA", none, none, some key⟩⟩)

/-- Whether a text is a currency of three uppercase letters. -/
def isUpperCode (letters : Letters) (currency : String) : Bool :=
  currency.toList.length == 3 && letters.isUpper currency

/-- Output of a row with an identifier: its source has to be a calculation that rounds. -/
def buildOutput (calculations : List CalculationNodeV2) (row : Row) (outputId : String) :
    Except MappingFailure PricingOutputV2 :=
  let currency := interpreter.letters.upper ((row "currency").text.getD "")
  match (row "source_ref").text.bind fun ref => calculations.reverse.find? (·.id == ref) with
  | none => .error (rejectRow "UNRESOLVED_REFERENCE" "RG_OUTPUTS" outputId)
  | some node =>
    match node.expression with
    | .round _ scale mode => do
      schemaRequires (isIdentifierV2 outputId && isUpperCode interpreter.letters currency)
      return ⟨outputId, node.id, currency, scale, mode⟩
    | _ => .error (rejectRow "MISSING_ROUNDING" "RG_OUTPUTS" outputId)

/-- `build_outputs`: all outputs have one currency. -/
def buildOutputs (calculations : List CalculationNodeV2) (rows : List Row) :
    Except MappingFailure (List PricingOutputV2) := do
  let outputs ← (identified "output_id" rows).mapM fun entry =>
    buildOutput interpreter calculations entry.2 entry.1
  if (outputs.map (·.currency)).dedup.length ≤ 1 then return outputs
  else .error (.rejected ⟨"CURRENCY_INCONSISTENCY", [⟨some "RG_OUTPUTS", none, none, none⟩]⟩)

/-- `json.loads` of a cell, of an empty object when it is blank. -/
def decodeCell (cell : Cell) (caseId : String) : Except MappingFailure JsonDocument :=
  match interpreter.decode (cell.text.getD "\x7b\x7d") with
  | .ok document => .ok document
  | .error .malformed => .error (rejectRow "MALFORMED_CONTROL_CASE" "RG_CONTROL_CASES" caseId)
  | .error .failed => .error (.escaped .decoding)

/-- `ControlCase`, checked by its schema. -/
def controlCase (caseId : String) (inputs expected : JsonDocument) (tolerance : Decimal) :
    Except MappingFailure ControlCase :=
  match expected with
  | .other => .error (.escaped .attribute)
  | .object outputs distinctOutputs =>
    match inputs with
    | .other => .error (.escaped .validation)
    | .object values distinctValues => do
      let margin ← finiteField tolerance
      if valid : isIdentifierV2 caseId = true ∧ outputs ≠ [] ∧
          Decimal.lt margin.toDecimal (.ofInt 0) = .ok false then
        return {
          caseId := caseId
          inputs := values
          expectedOutputs := outputs.map fun entry => (entry.1, interpreter.print entry.2)
          tolerance := margin
          identified := valid.1
          inputsDistinct := distinctValues
          outputsDistinct := by
            rw [List.map_map]
            exact distinctOutputs
          expects := fun empty => valid.2.1 (List.map_eq_nil_iff.mp empty)
          nonnegative := valid.2.2 }
      else .error (.escaped .validation)

/-- Control case of a row with an identifier. -/
def buildControlCase (row : Row) (caseId : String) : Except MappingFailure ControlCase := do
  let inputs ← decodeCell interpreter (row "input") caseId
  let expected ← decodeCell interpreter (row "expected_output") caseId
  match (row "tolerance").toDecimal with
  | none => .error (rejectRow "MALFORMED_CONTROL_CASE" "RG_CONTROL_CASES" caseId)
  | some tolerance => controlCase interpreter caseId inputs expected tolerance

/-- `build_control_cases`. -/
def buildControlCases (rows : List Row) : Except MappingFailure (List ControlCase) :=
  (identified "case_id" rows).mapM fun entry => buildControlCase interpreter entry.2 entry.1

/-- `classify_ipir_validation_error`: code of the validator's message. -/
def classifyIpirValidationError (message : String) : String :=
  let names (part : String) : Bool := decide (part.toList <:+: message.toList)
  if names "Duplicate node ID" || names "Duplicate ControlCase ID" then "DUPLICATE_ID"
  else if names "dependency cycle" then "CALCULATION_CYCLE"
  else if names "unresolved node" || names "unknown table" || names "nonexistent source node" ||
      names "depends_on unresolved node" then "UNRESOLVED_REFERENCE"
  else if names "ambiguous overlap" then "AMBIGUOUS_RANGE_OVERLAP"
  else if names "requires total coverage but has a gap" then "RANGE_GAP"
  else if names "declares scale=" then "ROUNDING_MISMATCH"
  else "IPIR_VALIDATION_FAILED"

/-- Lines of business. -/
def insuranceLines : List String :=
  ["HOMEOWNERS", "PERSONAL_AUTO", "COMMERCIAL_AUTO", "COMMERCIAL_PROPERTY",
   "WORKERS_COMPENSATION", "OTHER"]

/-- `EffectivePeriod` of the metadata. -/
def metadataPeriod (metadata : List (String × String)) : Option EffectivePeriod := do
  let start ← interpreter.readDate (valueOf metadata "effective_start")
  let last ← if valueOf metadata "effective_end" = "" then some none
    else (interpreter.readDate (valueOf metadata "effective_end")).map some
  if ordered : ∀ date ∈ last, start ≤ date then some ⟨start, last, ordered⟩ else none

/-- `IPIRPackageV2`, if the schema accepts its arguments. -/
def PackageDraft.package? (draft : PackageDraft) : Option CertifiedPackage := do
  let period ← metadataPeriod interpreter draft.metadata
  let package : PackageV2 := {
    schemaVersion := "0.2.0"
    packageId := valueOf draft.metadata "package_id"
    packageVersion := if valueOf draft.metadata "package_version" = "" then "1.0.0"
      else valueOf draft.metadata "package_version"
    effectivePeriod := period
    transactionTypes := draft.transactionTypes
    inputs := draft.inputs
    constants := draft.constants
    tables := draft.tables
    calculations := draft.calculations
    outputs := draft.outputs
    controlCases := draft.cases.map (·.caseId) }
  if isIdentifierV2 (valueOf draft.metadata "product_id") = true ∧
      interpreter.letters.upper (valueOf draft.metadata "line") ∈ insuranceLines ∧
      package.Valid then
    some ⟨package, draft.cases, rfl⟩
  else none

/-- Transactions that the metadata lists. -/
def metadataTransactions (metadata : List (String × String)) : Option (List TransactionType) :=
  (commaParts (if valueOf metadata "transaction_types" = "" then "NEW_BUSINESS,RENEWAL"
    else valueOf metadata "transaction_types")).mapM fun part =>
      TransactionType.parse (interpreter.letters.upper part)

/-- `build_package`: whatever the schema refuses is rejected. -/
def buildPackage (draft : PackageDraft) : Except MappingFailure CertifiedPackage :=
  match metadataTransactions interpreter draft.metadata with
  | none => .error (rejectMetadata "UNSUPPORTED_TRANSACTION_TYPE" "transaction_types")
  | some transactions =>
    let complete := { draft with transactionTypes := transactions }
    match complete.package? interpreter with
    | some package => .ok package
    | none =>
      .error (.rejected ⟨classifyIpirValidationError (interpreter.message complete), []⟩)

/-- Package of the sheets. -/
def mapWorkbook (sheets : Sheets) : Except MappingFailure CertifiedPackage := do
  let metadata ← buildMetadata interpreter sheets.metadata
  let inputs ← buildInputs interpreter.letters sheets.inputs
  let constants ← buildConstants sheets.constants
  let tables ← buildTables interpreter.letters sheets.tables
  let calculations ←
    buildCalculations interpreter.letters interpreter.logicalOrder sheets.calculations
  let outputs ← buildOutputs interpreter calculations sheets.outputs
  let cases ← buildControlCases interpreter sheets.controlCases
  buildPackage interpreter ⟨metadata, [], inputs, constants, tables, calculations, outputs, cases⟩

/-- `CompilationReceipt`, as far as it is decided by the sheets. -/
inductive CompilationReceipt where
  /-- A rejection with its error. -/
  | rejected (error : WorkbookRejection)
  /-- A package with its status. -/
  | compiled (package : CertifiedPackage) (status : CompilationStatus)

/-- `compile_workbook`, from the cells of the required sheets: it catches rejections only. -/
def compileWorkbook (sheets : Sheets) : Except WorkbookException CompilationReceipt :=
  match mapWorkbook interpreter sheets with
  | .ok package =>
    .ok (.compiled package (compilationStatus interpreter.accepts interpreter.sorter package))
  | .error (.rejected error) => .ok (.rejected error)
  | .error (.escaped exception) => .error exception

end Compiler

end RateGuard
