import RateGuard.Ingestion.Representation

/-!
# Loaded workbooks

From the cells of a loaded workbook to the rows of the required sheets: the check of sheets and
columns, the scan for formulas and the extraction of rows. The scan looks for the names of called
functions only, so that a formula is refused for certain exactly when it calls a function outside
the contract.
-/

open DecimalFloat CalendarDate TopologicalSort Dictionary Outcome

namespace RateGuard

/-- Cells of a worksheet by rows, of which the first names the columns. -/
abbrev Grid := List (List Cell)

/-- A loaded workbook: its sheets by name. -/
structure Workbook where
  /-- Sheets. -/
  sheets : List (String × Grid)
  /-- Names are unique. -/
  distinct : (sheets.map Prod.fst).Nodup

/-- Required sheets with their columns. -/
def requiredSheets : List (String × List String) :=
  [("RG_METADATA", ["key", "value"]),
   ("RG_INPUTS", ["id", "name", "data_type", "required", "minimum", "maximum", "allowed_values"]),
   ("RG_CONSTANTS", ["id", "name", "value"]),
   ("RG_TABLES", ["table_id", "dimension_id", "min", "max", "include_min", "include_max",
     "match_value", "result_value", "priority"]),
   ("RG_CALCULATIONS", ["node_id", "operator", "operand_1", "operand_2", "rounding_mode", "scale"]),
   ("RG_OUTPUTS", ["output_id", "source_ref", "currency"]),
   ("RG_CONTROL_CASES", ["case_id", "input", "expected_output", "tolerance"])]

/-- Functions a formula may name. -/
def allowedFormulaFunctions : List String :=
  ["ADD", "SUBTRACT", "MULTIPLY", "DIVIDE", "MIN", "MAX", "ROUND", "LOOKUP", "IF",
   "EQ", "NE", "LT", "LTE", "GT", "GTE", "AND", "OR"]

/-- Letters of a column of a worksheet; the first argument bounds their number. -/
def columnLetters : Nat → Nat → List Char
  | 0, _ | _ + 1, 0 => []
  | bound + 1, column + 1 =>
    columnLetters bound (column / 26) ++ [Char.ofNat (65 + column % 26)]

/-- Coordinate of a cell, counting from zero. -/
def coordinate (row column : Nat) : String :=
  String.ofList (columnLetters (column + 1) (column + 1) ++ Text.digitsOf (row + 1))

/-- Whether a character can stand in the name of a function. -/
def isNameChar (character : Char) : Bool :=
  character.isAlphanum || character == '_' || character == '.'

/-- Name that a run of characters ends with. -/
def runName (run : List Char) : Option (List Char) :=
  let name := run.reverse.dropWhile fun character => !(character.isAlpha || character == '_')
  if name = [] then none else some name

/-- Names before opening parentheses. The run of characters before the rest is kept in reverse, and
whether whitespace follows it. -/
def calledFunctions (run : List Char) (spaced : Bool) : List Char → List (List Char)
  | [] => []
  | first :: rest =>
    if isNameChar first then calledFunctions (if spaced then [first] else first :: run) false rest
    else if first = '(' then (runName run).toList ++ calledFunctions [] false rest
    else if Text.isSpace first then calledFunctions run true rest
    else calledFunctions [] false rest

/-- Whether a text begins with an equals sign. -/
def isFormula (text : String) : Bool := text.toList.head? == some '='

section Loading

variable (letters : Letters)

/-- First function of a formula that is not allowed. -/
def unsupportedFunction (text : String) : Option (List Char) :=
  if isFormula text then
    (calledFunctions [] false text.toList).find? fun name =>
      letters.upper (String.ofList name) ∉ allowedFormulaFunctions
  else none

/-- `scan_cell_for_unsupported_formula`. -/
def scanCell (sheet place : String) : Cell → Option WorkbookRejection
  | .str text => (unsupportedFunction letters text).map fun name =>
    ⟨"UNSUPPORTED_WORKBOOK_FUNCTION",
      [⟨some sheet, some place, some (String.ofList name), none⟩]⟩
  | .blank | .int _ | .bool _ | .printed _ => none

/-- Scan of a sheet, cell by cell. -/
def scanGrid (sheet : String) (grid : Grid) : Option WorkbookRejection :=
  grid.zipIdx.findSome? fun row => row.1.zipIdx.findSome? fun cell =>
    scanCell letters sheet (coordinate row.2 cell.2) cell.1

/-- `_header_index`: columns by trimmed lowercase name; a later column replaces an earlier one. -/
def headerIndex (grid : Grid) : List (String × Nat) :=
  (grid.headD []).zipIdx.foldl (fun headers entry =>
    match entry.1.print with
    | some text =>
      change headers (letters.lower (String.ofList (Text.strip text))) fun _ => entry.2
    | none => headers) []

/-- Check of a required sheet and its columns. -/
def validateSheet (workbook : Workbook) (sheet : String × List String) :
    Option WorkbookRejection :=
  match workbook.sheets.lookup sheet.1 with
  | none => some ⟨"MISSING_REQUIRED_SHEET", [⟨some sheet.1, none, none, none⟩]⟩
  | some grid =>
    (sheet.2.find? fun column => (headerIndex letters grid).lookup column = none).map fun column =>
      ⟨"MISSING_REQUIRED_COLUMN", [⟨some sheet.1, some "row1", none, some column⟩]⟩

/-- `validate_required_sheets_and_columns`. -/
def validateWorkbook (workbook : Workbook) : Option WorkbookRejection :=
  requiredSheets.findSome? (validateSheet letters workbook)

/-- `_scan_all_required_sheets_for_unsupported_formulas`. -/
def scanWorkbook (workbook : Workbook) : Option WorkbookRejection :=
  requiredSheets.findSome? fun sheet =>
    (workbook.sheets.lookup sheet.1).bind (scanGrid letters sheet.1)

/-- Whether a cell has no text, not even trimmed. -/
def Cell.isEmpty : Cell → Bool
  | .blank => true
  | .str text => Text.strip text.toList = []
  | .int _ | .bool _ | .printed _ => false

/-- `extract_rows`. -/
def extractRows (grid : Grid) : List Row :=
  (grid.tail.filter fun values => !values.all Cell.isEmpty).map fun values column =>
    match (headerIndex letters grid).lookup column with
    | some index => values.getD index .blank
    | none => .blank

/-- Rows of a sheet. -/
def Workbook.rows (workbook : Workbook) (sheet : String) : List Row :=
  ((workbook.sheets.lookup sheet).map (extractRows letters)).getD []

/-- Rows of the required sheets. -/
def Workbook.extracted (workbook : Workbook) : Sheets where
  metadata := workbook.rows letters "RG_METADATA"
  inputs := workbook.rows letters "RG_INPUTS"
  constants := workbook.rows letters "RG_CONSTANTS"
  tables := workbook.rows letters "RG_TABLES"
  calculations := workbook.rows letters "RG_CALCULATIONS"
  outputs := workbook.rows letters "RG_OUTPUTS"
  controlCases := workbook.rows letters "RG_CONTROL_CASES"

end Loading

/-- `compile_workbook`, from a loaded workbook. -/
def compileLoaded (interpreter : Interpreter) (workbook : Workbook) :
    Except WorkbookException CompilationReceipt :=
  match (validateWorkbook interpreter.letters workbook).or
      (scanWorkbook interpreter.letters workbook) with
  | some rejection => .ok (.rejected rejection)
  | none => compileWorkbook interpreter (workbook.extracted interpreter.letters)

/-- Whether a cell of a sheet holds a text. -/
def Workbook.Holds (workbook : Workbook) (sheet text : String) : Prop :=
  ∃ grid, workbook.sheets.lookup sheet = some grid ∧ ∃ row ∈ grid, Cell.str text ∈ row

/-- Whether a workbook is rejected. -/
def IsRejected (answer : Except WorkbookException CompilationReceipt) : Prop :=
  ∃ rejection, answer = .ok (.rejected rejection)

section Scanning

variable {letters : Letters}

/-- A scan finds nothing exactly when it finds nothing in any cell. -/
theorem scanGrid_eq_none {sheet : String} {grid : Grid} :
    scanGrid letters sheet grid = none ↔
      ∀ row ∈ grid, ∀ text, Cell.str text ∈ row → unsupportedFunction letters text = none := by
  unfold scanGrid
  rw [List.findSome?_eq_none_iff]
  constructor
  · intro silent row member text inside
    obtain ⟨i, bound, rfl⟩ := List.mem_iff_getElem.mp member
    obtain ⟨j, within, same⟩ := List.mem_iff_getElem.mp inside
    have cells := silent (grid[i], i)
      (List.mem_zipIdx_iff_getElem?.mpr (List.getElem?_eq_getElem bound))
    rw [List.findSome?_eq_none_iff] at cells
    have nothing := cells (.str text, j) (List.mem_zipIdx_iff_getElem?.mpr (by
      rw [List.getElem?_eq_getElem within, same]))
    exact Option.map_eq_none_iff.mp nothing
  · rintro silent ⟨row, i⟩ member
    rw [List.findSome?_eq_none_iff]
    rintro ⟨cell, j⟩ inside
    have listed := List.mem_of_getElem? (List.mem_zipIdx_iff_getElem?.mp member)
    have cells := List.mem_of_getElem? (List.mem_zipIdx_iff_getElem?.mp inside)
    cases cell with
    | str text => exact Option.map_eq_none_iff.mpr (silent row listed text cells)
    | blank => rfl
    | int value => rfl
    | bool value => rfl
    | printed text => rfl

/-- A workbook with a call of an unsupported function is rejected. -/
theorem compileLoaded_rejects (interpreter : Interpreter) {sheet text : String}
    (required : sheet ∈ requiredSheets.map Prod.fst)
    (unsupported : unsupportedFunction interpreter.letters text ≠ none) {workbook : Workbook}
    (holds : workbook.Holds sheet text) : IsRejected (compileLoaded interpreter workbook) := by
  obtain ⟨grid, found, row, listed, inside⟩ := holds
  obtain ⟨entry, member, rfl⟩ := List.mem_map.mp required
  have scanned : scanWorkbook interpreter.letters workbook ≠ none := by
    intro silent
    unfold scanWorkbook at silent
    have nothing := List.findSome?_eq_none_iff.mp silent entry member
    rw [found, Option.bind_some] at nothing
    exact unsupported (scanGrid_eq_none.mp nothing row listed text inside)
  obtain ⟨rejection, some⟩ := Option.ne_none_iff_exists'.mp scanned
  unfold compileLoaded
  cases checked : validateWorkbook interpreter.letters workbook with
  | some other => exact ⟨other, rfl⟩
  | none =>
    rw [some]
    exact ⟨rejection, rfl⟩

end Scanning

section Straying

variable {letters : Letters}

/-- Row that holds a text behind the columns of a sheet, and nothing else. -/
def strayRow (grid : Grid) (text : String) : List Cell :=
  List.replicate (grid.headD []).length .blank ++ [.str text]

/-- A workbook with such a row at the end of a sheet. -/
def Workbook.withStray (workbook : Workbook) (sheet text : String) : Workbook where
  sheets := workbook.sheets.map fun entry =>
    (entry.1, if entry.1 = sheet then entry.2 ++ [strayRow entry.2 text] else entry.2)
  distinct := by
    rw [List.map_map]
    exact workbook.distinct

/-- Only the sheet with the row is changed. -/
theorem lookup_withStray (workbook : Workbook) (sheet text other : String) :
    (workbook.withStray sheet text).sheets.lookup other =
      (workbook.sheets.lookup other).map fun grid =>
        if other = sheet then grid ++ [strayRow grid text] else grid := by
  unfold Workbook.withStray
  dsimp only
  generalize workbook.sheets = sheets
  induction sheets with
  | nil => rfl
  | cons entry rest ih =>
    rw [List.map_cons, List.lookup_cons, List.lookup_cons, ih]
    by_cases same : other = entry.1
    · subst same
      simp
    · simp [beq_false_of_ne same]

/-- The row names no column. -/
theorem headerIndex_stray {grid : Grid} (nonempty : grid ≠ []) (text : String) :
    headerIndex letters (grid ++ [strayRow grid text]) = headerIndex letters grid := by
  obtain ⟨first, rest, rfl⟩ := List.exists_cons_of_ne_nil nonempty
  rfl

/-- Columns are within the first row. -/
theorem headerIndex_lt {grid : Grid} {column : String} {index : Nat}
    (found : (headerIndex letters grid).lookup column = some index) :
    index < (grid.headD []).length := by
  unfold headerIndex at found
  have within : ∀ entry ∈ (grid.headD []).zipIdx, entry.2 < (grid.headD []).length := by
    rintro ⟨cell, i⟩ member
    exact (List.getElem?_eq_some_iff.mp (List.mem_zipIdx_iff_getElem?.mp member)).1
  generalize (grid.headD []).length = bound at within ⊢
  generalize (grid.headD []).zipIdx = entries at found within
  induction entries using List.reverseRecOn generalizing index with
  | nil => cases found
  | append_singleton entries entry ih =>
    rw [List.foldl_append, List.foldl_cons, List.foldl_nil] at found
    have inner : ∀ entry ∈ entries, entry.2 < bound := fun entry member =>
      within entry (List.mem_append_left _ member)
    split at found
    · rw [lookup_change] at found
      split at found
      · rw [← Option.some.inj found]
        exact within entry (by simp)
      · exact ih found inner
    · exact ih found inner

/-- The row is extracted without any value. -/
theorem extractRows_stray {grid : Grid} (nonempty : grid ≠ []) (text : String) :
    extractRows letters (grid ++ [strayRow grid text]) = extractRows letters grid ∨
      extractRows letters (grid ++ [strayRow grid text]) =
        extractRows letters grid ++ [fun _ => .blank] := by
  have blank : (fun column => match (headerIndex letters grid).lookup column with
      | some index => (strayRow grid text).getD index Cell.blank
      | none => .blank) = fun _ => Cell.blank := by
    funext column
    split
    · next index found =>
      have bound := headerIndex_lt found
      unfold strayRow
      rw [List.getD_append _ _ _ _ (by rwa [List.length_replicate]),
        List.getD_eq_getElem?_getD, List.getElem?_replicate, if_pos bound, Option.getD_some]
    · rfl
  have tail : (grid ++ [strayRow grid text]).tail = grid.tail ++ [strayRow grid text] :=
    List.tail_append_of_ne_nil nonempty
  unfold extractRows
  rw [headerIndex_stray nonempty, tail, List.filter_append, List.map_append]
  by_cases kept : (!(strayRow grid text).all Cell.isEmpty) = true
  · rw [List.filter_cons_of_pos (by exact kept), List.filter_nil, List.map_cons, List.map_nil, blank]
    exact .inr rfl
  · rw [List.filter_cons_of_neg (by exact kept), List.filter_nil, List.map_nil, List.append_nil]
    exact .inl rfl

/-- Rows without any value are not read. -/
theorem identified_blank (column : String) (rows : List Row) :
    identified column (rows ++ [fun _ => .blank]) = identified column rows := by
  unfold identified
  rw [List.filterMap_append]
  exact List.append_nil _

/-- A workbook is mapped by its rows with identifiers. -/
theorem mapWorkbook_congr (interpreter : Interpreter) {sheets others : Sheets}
    (metadata : identified "key" others.metadata = identified "key" sheets.metadata)
    (inputs : identified "id" others.inputs = identified "id" sheets.inputs)
    (constants : identified "id" others.constants = identified "id" sheets.constants)
    (tables : identified "table_id" others.tables = identified "table_id" sheets.tables)
    (calculations : identified "node_id" others.calculations =
      identified "node_id" sheets.calculations)
    (outputs : identified "output_id" others.outputs = identified "output_id" sheets.outputs)
    (cases : identified "case_id" others.controlCases = identified "case_id" sheets.controlCases) :
    mapWorkbook interpreter others = mapWorkbook interpreter sheets := by
  unfold mapWorkbook buildMetadata metadataOf buildInputs buildConstants buildTables byTable
    buildCalculations buildOutputs buildControlCases
  rw [metadata, inputs, constants, tables, calculations, outputs, cases]

/-- The rows of another sheet stay, and one with identifiers does not count. -/
theorem identified_stray {workbook : Workbook} {sheet : String} {grid : Grid}
    (found : workbook.sheets.lookup sheet = some grid) (nonempty : grid ≠ [])
    (text other column : String) :
    identified column ((workbook.withStray sheet text).rows letters other) =
      identified column (workbook.rows letters other) := by
  unfold Workbook.rows
  rw [lookup_withStray]
  by_cases same : other = sheet
  · subst same
    rw [found]
    simp only [Option.map_some, Option.getD_some, if_true]
    rcases @extractRows_stray letters grid nonempty text with rows | rows
    · rw [rows]
    · rw [rows, identified_blank]
  · cases workbook.sheets.lookup other with
    | none => rfl
    | some rows => simp only [Option.map_some, if_neg same]

/-- A checked sheet has a first row. -/
theorem validateSheet_nonempty {workbook : Workbook} {entry : String × List String}
    (columns : entry.2 ≠ []) (valid : validateSheet letters workbook entry = none) :
    ∃ grid, workbook.sheets.lookup entry.1 = some grid ∧ grid ≠ [] := by
  unfold validateSheet at valid
  split at valid
  · cases valid
  · next grid found =>
    refine ⟨grid, found, ?_⟩
    rintro rfl
    obtain ⟨column, rest, same⟩ := List.exists_cons_of_ne_nil columns
    rw [same] at valid
    exact absurd valid (by simp [headerIndex])

/-- The row changes no check of a sheet. -/
theorem validateSheet_stray {workbook : Workbook} {sheet : String} {grid : Grid}
    (found : workbook.sheets.lookup sheet = some grid) (nonempty : grid ≠ []) (text : String)
    (entry : String × List String) :
    validateSheet letters (workbook.withStray sheet text) entry =
      validateSheet letters workbook entry := by
  unfold validateSheet
  rw [lookup_withStray]
  by_cases same : entry.1 = sheet
  · rw [same, found]
    simp only [Option.map_some, if_true, headerIndex_stray nonempty]
  · cases workbook.sheets.lookup entry.1 with
    | none => rfl
    | some rows => simp only [Option.map_some, if_neg same]

/-- A scan finds nothing in the row when it finds nothing in its text. -/
theorem scanWorkbook_stray {workbook : Workbook} {sheet text : String}
    (supported : unsupportedFunction letters text = none)
    (silent : scanWorkbook letters workbook = none) :
    scanWorkbook letters (workbook.withStray sheet text) = none := by
  unfold scanWorkbook at silent ⊢
  rw [List.findSome?_eq_none_iff] at silent ⊢
  intro entry member
  have before := silent entry member
  rw [lookup_withStray]
  cases found : workbook.sheets.lookup entry.1 with
  | none => rfl
  | some grid =>
    rw [found, Option.bind_some, scanGrid_eq_none] at before
    rw [Option.map_some, Option.bind_some]
    split
    · rw [scanGrid_eq_none]
      intro row listed other inside
      rcases List.mem_append.mp listed with earlier | last
      · exact before row earlier other inside
      · rw [List.mem_singleton.mp last] at inside
        rcases List.mem_append.mp inside with blank | only
        · cases List.eq_of_mem_replicate blank
        · cases List.mem_singleton.mp only
          exact supported
    · exact scanGrid_eq_none.mpr before

end Straying

/-- Parts of a compilation with a package. -/
theorem compileLoaded_compiled {interpreter : Interpreter} {workbook : Workbook}
    {package : CertifiedPackage} {status : CompilationStatus}
    (compiled : compileLoaded interpreter workbook = .ok (.compiled package status)) :
    validateWorkbook interpreter.letters workbook = none ∧
      scanWorkbook interpreter.letters workbook = none ∧
      compileWorkbook interpreter (workbook.extracted interpreter.letters) =
        .ok (.compiled package status) := by
  unfold compileLoaded at compiled
  split at compiled
  · cases compiled
  · next silent =>
    obtain ⟨valid, scanned⟩ := Option.or_eq_none_iff.mp silent
    exact ⟨valid, scanned, compiled⟩

/-- A workbook that compiles compiles as before with a text behind the columns of a sheet, unless
the text calls an unsupported function. -/
theorem compileLoaded_stray {interpreter : Interpreter} {workbook : Workbook}
    {package : CertifiedPackage} {status : CompilationStatus} {sheet text : String}
    (compiled : compileLoaded interpreter workbook = .ok (.compiled package status))
    (required : sheet ∈ requiredSheets.map Prod.fst)
    (supported : unsupportedFunction interpreter.letters text = none) :
    (workbook.withStray sheet text).Holds sheet text ∧
      compileLoaded interpreter (workbook.withStray sheet text) =
        .ok (.compiled package status) := by
  obtain ⟨valid, silent, mapped⟩ := compileLoaded_compiled compiled
  obtain ⟨entry, member, rfl⟩ := List.mem_map.mp required
  have columns : ∀ entry ∈ requiredSheets, entry.2 ≠ [] := by decide
  obtain ⟨grid, found, nonempty⟩ := validateSheet_nonempty (columns entry member)
    (List.findSome?_eq_none_iff.mp valid entry member)
  constructor
  · refine ⟨grid ++ [strayRow grid text], ?_, strayRow grid text, by simp, by simp [strayRow]⟩
    rw [lookup_withStray, found]
    simp
  · have checked : validateWorkbook interpreter.letters (workbook.withStray entry.1 text) = none := by
      unfold validateWorkbook
      rw [List.findSome?_eq_none_iff]
      intro other listed
      rw [validateSheet_stray found nonempty]
      exact List.findSome?_eq_none_iff.mp valid other listed
    have rows : mapWorkbook interpreter ((workbook.withStray entry.1 text).extracted
        interpreter.letters) = mapWorkbook interpreter (workbook.extracted interpreter.letters) :=
      mapWorkbook_congr interpreter (identified_stray found nonempty text _ _)
        (identified_stray found nonempty text _ _) (identified_stray found nonempty text _ _)
        (identified_stray found nonempty text _ _) (identified_stray found nonempty text _ _)
        (identified_stray found nonempty text _ _) (identified_stray found nonempty text _ _)
    unfold compileLoaded
    rw [checked, scanWorkbook_stray supported silent]
    unfold compileWorkbook at mapped ⊢
    dsimp only [Option.or]
    rw [rows]
    exact mapped

/-- A row of texts, in the order of the columns. -/
def textCells (texts : List String) : List Cell :=
  texts.map fun text => if text = "" then .blank else .str text

/-- Sample workbook with one bracket of a table, whose upper bound is given. -/
def roofGrids (upper : String) : Workbook where
  sheets := [
    ("RG_METADATA", [["key", "value"], ["package_id", "home_rates"], ["product_id", "ho3"],
      ["line", "homeowners"], ["country", "US"], ["state", "AZ"], ["currency", "USD"],
      ["effective_start", "2026-01-01"]].map textCells),
    ("RG_INPUTS", [["id", "name", "data_type", "required", "minimum", "maximum", "allowed_values"],
      ["roof_age", "Roof age", "INTEGER"]].map textCells),
    ("RG_CONSTANTS", [["id", "name", "value"]].map textCells),
    ("RG_TABLES", [["table_id", "dimension_id", "min", "max", "include_min", "include_max",
      "match_value", "result_value", "priority"],
      ["roof_factor", "roof_age", "0", upper, "", "", "", "1.1"]].map textCells),
    ("RG_CALCULATIONS", [["node_id", "operator", "operand_1", "operand_2", "rounding_mode",
      "scale"], ["premium", "ROUND", "#100", "", "HALF_UP", "2"]].map textCells),
    ("RG_OUTPUTS", [["output_id", "source_ref", "currency"],
      ["total", "premium", "USD"]].map textCells),
    ("RG_CONTROL_CASES", [["case_id", "input", "expected_output", "tolerance"]].map textCells)]
  distinct := by
    simp only [List.map_cons, List.map_nil]
    decide

end RateGuard
