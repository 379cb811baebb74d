import RateGuard.Foundation.DecimalExact
import RateGuard.Ingestion.Compiler
import RateGuard.Ingestion.Grammar

/-!
# Representation of cells

Which cells of the input and the table sheet a compiled package represents with their values. The
readers of the mapping take a default where a text spells no value of its column, and a row of a
table keeps either its range or its exact value, so that all cells are represented exactly when
each spells a value and no row mixes both forms.
-/

open DecimalFloat CalendarDate TopologicalSort Dictionary Outcome

namespace RateGuard

/-- Finite decimal that a text spells. -/
def spelledDecimal (text : String) : Option FiniteDecimal :=
  match Decimal.parse text.toList with
  | some (.finite negative coefficient exponent) => some ⟨negative, coefficient, exponent⟩
  | _ => none

/-- Whether the text of a cell, unless it is blank, is as required. -/
def Cell.Holds (cell : Cell) (required : String → Prop) : Prop :=
  ∀ text, cell.text = some text → required text

/-- Whether a text is represented by an optional bound. -/
def BoundRepresents (bound : Option Bound) (text : String) : Prop :=
  ∃ value, spelledDecimal text = some value ∧ bound = some (.decimal value)

/-- Whether an input represents the cells of a row. -/
structure InputRepresented (letters : Letters) (row : Row) (input : PricingInput) : Prop where
  /-- Flag. -/
  required : (row "required").Holds fun text => letters.flag? text = some input.required
  /-- Lower bound. -/
  minimum : (row "minimum").Holds (BoundRepresents input.minimum)
  /-- Upper bound. -/
  maximum : (row "maximum").Holds (BoundRepresents input.maximum)
  /-- Listed values. -/
  allowed : (row "allowed_values").Holds fun text => input.allowedValues = some (commaParts text)

/-- Whether a row of a table represents the cells of a row. -/
structure RowRepresented (letters : Letters) (row : Row) (tableRow : TableRow) : Prop where
  /-- Lower bound. -/
  min : (row "min").Holds fun text => ∃ bracket, tableRow.rowMatches = [.range bracket] ∧
    BoundRepresents bracket.minimum text
  /-- Upper bound. -/
  max : (row "max").Holds fun text => ∃ bracket, tableRow.rowMatches = [.range bracket] ∧
    BoundRepresents bracket.maximum text
  /-- Inclusion of the lower bound. -/
  includeMin : (row "include_min").Holds fun text => ∃ bracket,
    tableRow.rowMatches = [.range bracket] ∧ letters.flag? text = some bracket.includeMinimum
  /-- Inclusion of the upper bound. -/
  includeMax : (row "include_max").Holds fun text => ∃ bracket,
    tableRow.rowMatches = [.range bracket] ∧ letters.flag? text = some bracket.includeMaximum
  /-- Exact value. -/
  matchValue : (row "match_value").Holds fun text => tableRow.rowMatches = [.exact (.str text)]
  /-- Priority. -/
  priority : (row "priority").Holds fun text => ∃ value number, spelledDecimal text = some value ∧
    tableRow.priority = some number ∧ value.toDecimal.amount = (number : ℚ)
  /-- Factor. -/
  result : (row "result_value").Holds fun text => spelledDecimal text = some tableRow.value

/-- Whether a package represents the input and the table sheet, row by row. -/
structure SheetsRepresented (letters : Letters) (sheets : Sheets) (package : PackageV2) : Prop where
  /-- Inputs. -/
  inputs : List.Forall₂ (fun entry input => input.id = entry.1 ∧
    InputRepresented letters entry.2 input) (identified "id" sheets.inputs) package.inputs
  /-- Tables. -/
  tables : ∀ tableId ∈ (identified "table_id" sheets.tables).map Prod.fst,
    ∃ table ∈ package.tables, table.id = tableId ∧ List.Forall₂ (RowRepresented letters)
      (valuesOf (identified "table_id" sheets.tables) tableId) table.rows

/-- Whether the cells of an input row spell values. -/
structure InputSpelled (letters : Letters) (row : Row) : Prop where
  /-- A flag. -/
  required : (row "required").Holds fun text => letters.flag? text ≠ none
  /-- A number. -/
  minimum : (row "minimum").Holds fun text => spelledDecimal text ≠ none
  /-- A number. -/
  maximum : (row "maximum").Holds fun text => spelledDecimal text ≠ none

/-- Whether the cells of a table row spell values of one form. -/
structure RowSpelled (letters : Letters) (row : Row) : Prop where
  /-- The priority is a whole number. -/
  priority : (row "priority").Holds fun text => ∃ value, spelledDecimal text = some value ∧
    ∃ whole : Int, value.toDecimal.amount = whole
  /-- A range has numbers and flags and no exact value. -/
  range : isRangeRow row = true →
    (row "min").Holds (fun text => spelledDecimal text ≠ none) ∧
    (row "max").Holds (fun text => spelledDecimal text ≠ none) ∧
    (row "include_min").Holds (fun text => letters.flag? text ≠ none) ∧
    (row "include_max").Holds (fun text => letters.flag? text ≠ none) ∧
    (row "match_value").text = none
  /-- An exact value comes without bounds and flags. -/
  exact : isRangeRow row = false → (row "min").text = none ∧ (row "max").text = none ∧
    (row "include_min").text = none ∧ (row "include_max").text = none

/-- Whether all rows with an identifier spell their values. -/
structure SheetsSpelled (letters : Letters) (sheets : Sheets) : Prop where
  /-- Input rows. -/
  inputs : ∀ entry ∈ identified "id" sheets.inputs, InputSpelled letters entry.2
  /-- Table rows. -/
  tables : ∀ entry ∈ identified "table_id" sheets.tables, RowSpelled letters entry.2

section Cells

variable {letters : Letters}

/-- A blank cell is as required. -/
theorem holds_of_blank {cell : Cell} {required : String → Prop} (blank : cell.text = none) :
    cell.Holds required := by
  intro text found
  rw [blank] at found
  cases found

/-- Nothing can be required of a text only if the cell is blank. -/
theorem blank_of_holds {cell : Cell} (holds : cell.Holds fun _ => False) : cell.text = none := by
  cases found : cell.text with
  | none => rfl
  | some text => exact (holds text found).elim

/-- A requirement may be replaced by one that says the same of the text of the cell. -/
theorem holds_congr {cell : Cell} {first second : String → Prop}
    (same : ∀ text, cell.text = some text → (first text ↔ second text)) :
    cell.Holds first ↔ cell.Holds second :=
  forall_congr' fun text => forall_congr' fun found => same text found

/-- A flag is read as what its text spells. -/
theorem toBool_represents (letters : Letters) (cell : Cell) (default : Bool) :
    (cell.Holds fun text => letters.flag? text = some (cell.toBool letters default)) ↔
      cell.Holds fun text => letters.flag? text ≠ none := by
  refine holds_congr fun text found => ?_
  unfold Cell.toBool
  rw [found]
  dsimp only
  cases letters.flag? text with
  | none => simp
  | some flag => simp

/-- A finite field holds the number that its text spells. -/
theorem finiteField_spelled {text : String} {number : Decimal} {value : FiniteDecimal}
    (parsed : Decimal.parse text.toList = some number) (accepted : finiteField number = .ok value) :
    spelledDecimal text = some value := by
  unfold spelledDecimal
  rw [parsed]
  cases number with
  | finite negative coefficient exponent =>
    cases accepted
    rfl
  | infinity negative => cases accepted
  | nan signaling => cases accepted

/-- A text that is no number is not spelled. -/
theorem spelledDecimal_of_none {text : String} (unread : Decimal.parse text.toList = none) :
    spelledDecimal text = none := by
  unfold spelledDecimal
  rw [unread]

/-- A bound is read as what its text spells, or not at all. -/
theorem boundField_represents {cell : Cell} {bound : Option Bound}
    (read : boundField cell = .ok bound) :
    cell.Holds (BoundRepresents bound) ↔ cell.Holds fun text => spelledDecimal text ≠ none := by
  refine holds_congr fun text found => ?_
  unfold boundField Cell.toDecimal at read
  rw [found, Option.bind_some] at read
  cases parsed : Decimal.parse text.toList with
  | none =>
    unfold BoundRepresents
    rw [spelledDecimal_of_none parsed]
    simp
  | some number =>
    rw [parsed] at read
    obtain ⟨value, accepted, read⟩ := bind_eq_ok read
    cases read
    have spelled := finiteField_spelled parsed accepted
    unfold BoundRepresents
    rw [spelled]
    simp

end Cells

section Inputs

variable {letters : Letters}

/-- What an input is built of. -/
theorem buildInput_eq_ok {row : Row} {rowId : String} {input : PricingInput}
    (built : buildInput letters row rowId = .ok input) :
    input.id = rowId ∧ input.required = (row "required").toBool letters true ∧
      input.allowedValues = allowedValues row ∧ boundField (row "minimum") = .ok input.minimum ∧
      boundField (row "maximum") = .ok input.maximum := by
  unfold buildInput at built
  split at built
  · cases built
  · obtain ⟨_, _, built⟩ := bind_eq_ok built
    obtain ⟨minimum, low, built⟩ := bind_eq_ok built
    obtain ⟨maximum, high, built⟩ := bind_eq_ok built
    unfold pricingInput at built
    split at built
    · split at built
      · cases built
        exact ⟨rfl, rfl, rfl, low, high⟩
      · cases built
    · cases built

/-- An input represents its row exactly when the cells of the row spell values. -/
theorem buildInput_represents {row : Row} {rowId : String} {input : PricingInput}
    (built : buildInput letters row rowId = .ok input) :
    InputRepresented letters row input ↔ InputSpelled letters row := by
  obtain ⟨_, required, allowed, low, high⟩ := buildInput_eq_ok built
  have flag := toBool_represents letters (row "required") true
  rw [← required] at flag
  constructor
  · intro represented
    exact ⟨flag.mp represented.required, (boundField_represents low).mp represented.minimum,
      (boundField_represents high).mp represented.maximum⟩
  · intro spelled
    refine ⟨flag.mpr spelled.required, (boundField_represents low).mpr spelled.minimum,
      (boundField_represents high).mpr spelled.maximum, fun text found => ?_⟩
    rw [allowed, allowedValues, found]
    rfl

end Inputs

section Tables

variable {letters : Letters}

/-- A priority is read as what its text spells exactly when that is a whole number. -/
theorem rowPriority_represents {row : Row} {priority : Option Int}
    (read : rowPriority row = .ok priority) :
    ((row "priority").Holds fun text => ∃ value number, spelledDecimal text = some value ∧
        priority = some number ∧ value.toDecimal.amount = (number : ℚ)) ↔
      (row "priority").Holds fun text => ∃ value, spelledDecimal text = some value ∧
        ∃ whole : Int, value.toDecimal.amount = whole := by
  refine holds_congr fun text found => ?_
  constructor
  · rintro ⟨value, number, spelled, _, whole⟩
    exact ⟨value, spelled, number, whole⟩
  · rintro ⟨value, spelled, whole, exact⟩
    refine ⟨value, whole, spelled, ?_, exact⟩
    have parsed : Decimal.parse text.toList = some value.toDecimal := by
      unfold spelledDecimal at spelled
      split at spelled
      · next parsed =>
        cases spelled
        exact parsed
      · cases spelled
    unfold rowPriority Cell.toDecimal at read
    rw [found, Option.bind_some, parsed] at read
    have truncated := truncate_whole exact
    unfold FiniteDecimal.toDecimal Value.toInt at read
    dsimp only at read
    rw [truncated] at read
    cases read
    rfl

/-- What the key of a range row is built of. -/
theorem buildMatch_range {tableId : String} {row : Row} {key : RowMatch}
    (ranged : isRangeRow row = true) (built : buildMatch letters tableId row = .ok key) :
    ∃ bracket : RangeMatch, key = .range bracket ∧
      boundField (row "min") = .ok bracket.minimum ∧
      boundField (row "max") = .ok bracket.maximum ∧
      bracket.includeMinimum = (row "include_min").toBool letters true ∧
      bracket.includeMaximum = (row "include_max").toBool letters true := by
  unfold buildMatch at built
  rw [if_pos ranged] at built
  obtain ⟨minimum, low, built⟩ := bind_eq_ok built
  obtain ⟨maximum, high, built⟩ := bind_eq_ok built
  unfold rangeMatch at built
  split at built
  · cases built
    exact ⟨_, rfl, low, high, rfl, rfl⟩
  · cases built

/-- What the key of any other row is built of. -/
theorem buildMatch_exact {tableId : String} {row : Row} {key : RowMatch}
    (single : isRangeRow row = false) (built : buildMatch letters tableId row = .ok key) :
    ∃ text, (row "match_value").text = some text ∧ key = .exact (.str text) := by
  unfold buildMatch at built
  rw [if_neg (by rw [single]; exact Bool.false_ne_true)] at built
  split at built
  · next text found =>
    cases built
    exact ⟨text, found, rfl⟩
  · cases built

/-- What a row of a table is built of. -/
theorem buildTableRow_eq_ok {tableId : String} {row : Row} {tableRow : TableRow}
    (built : buildTableRow letters tableId row = .ok tableRow) :
    rowPriority row = .ok tableRow.priority ∧
      (∃ number, (row "result_value").toDecimal = some number ∧
        finiteField number = .ok tableRow.value) ∧
      ∃ key, buildMatch letters tableId row = .ok key ∧ tableRow.rowMatches = [key] := by
  obtain ⟨priority, read, built⟩ := bind_eq_ok built
  split at built
  · cases built
  · next number found =>
    obtain ⟨key, matched, built⟩ := bind_eq_ok built
    obtain ⟨value, accepted, built⟩ := bind_eq_ok built
    cases built
    exact ⟨read, ⟨number, found, accepted⟩, key, matched, rfl⟩

/-- A factor is what its text spells. -/
theorem result_represents {row : Row} {number : Decimal} {value : FiniteDecimal}
    (found : (row "result_value").toDecimal = some number)
    (accepted : finiteField number = .ok value) :
    (row "result_value").Holds fun text => spelledDecimal text = some value := by
  intro text read
  unfold Cell.toDecimal at found
  rw [read, Option.bind_some] at found
  exact finiteField_spelled found accepted

/-- A requirement about the only key of a row is one about that key. -/
theorem holds_range {cell : Cell} {tableRow : TableRow} {bracket : RangeMatch}
    (matched : tableRow.rowMatches = [.range bracket]) (required : RangeMatch → String → Prop) :
    (cell.Holds fun text => ∃ other, tableRow.rowMatches = [.range other] ∧ required other text) ↔
      cell.Holds (required bracket) := by
  refine holds_congr fun text _ => ⟨?_, fun holds => ⟨bracket, matched, holds⟩⟩
  rintro ⟨other, same, holds⟩
  rw [matched] at same
  cases same
  exact holds

/-- Nothing of a bracket is represented by an exact value. -/
theorem blank_of_exact {cell : Cell} {tableRow : TableRow} {value : Literal}
    {required : RangeMatch → String → Prop} (matched : tableRow.rowMatches = [.exact value])
    (holds : cell.Holds fun text => ∃ bracket, tableRow.rowMatches = [.range bracket] ∧
      required bracket text) : cell.text = none := by
  refine blank_of_holds fun text found => ?_
  obtain ⟨bracket, same, _⟩ := holds text found
  rw [matched] at same
  cases same

/-- A row of a table represents its row exactly when the cells of the row spell values of one
form. -/
theorem buildTableRow_represents {tableId : String} {row : Row} {tableRow : TableRow}
    (built : buildTableRow letters tableId row = .ok tableRow) :
    RowRepresented letters row tableRow ↔ RowSpelled letters row := by
  obtain ⟨read, ⟨number, found, accepted⟩, key, keyed, matched⟩ := buildTableRow_eq_ok built
  have priority := rowPriority_represents read
  have result := result_represents found accepted
  cases ranged : isRangeRow row with
  | true =>
    obtain ⟨bracket, rfl, low, high, lower, upper⟩ := buildMatch_range ranged keyed
    have includeMin := toBool_represents letters (row "include_min") true
    have includeMax := toBool_represents letters (row "include_max") true
    rw [← lower] at includeMin
    rw [← upper] at includeMax
    constructor
    · intro represented
      refine ⟨priority.mp represented.priority, fun _ => ⟨?_, ?_, ?_, ?_, ?_⟩, fun single => ?_⟩
      · exact (boundField_represents low).mp
          ((holds_range matched fun bracket => BoundRepresents bracket.minimum).mp represented.min)
      · exact (boundField_represents high).mp
          ((holds_range matched fun bracket => BoundRepresents bracket.maximum).mp represented.max)
      · exact includeMin.mp ((holds_range matched fun bracket text =>
          letters.flag? text = some bracket.includeMinimum).mp represented.includeMin)
      · exact includeMax.mp ((holds_range matched fun bracket text =>
          letters.flag? text = some bracket.includeMaximum).mp represented.includeMax)
      · refine blank_of_holds fun text here => ?_
        have same := represented.matchValue text here
        rw [matched] at same
        cases same
      · rw [ranged] at single
        cases single
    · intro spelled
      obtain ⟨min, max, first, second, blank⟩ := spelled.range ranged
      exact {
        min := (holds_range matched fun bracket => BoundRepresents bracket.minimum).mpr
          ((boundField_represents low).mpr min)
        max := (holds_range matched fun bracket => BoundRepresents bracket.maximum).mpr
          ((boundField_represents high).mpr max)
        includeMin := (holds_range matched fun bracket text =>
          letters.flag? text = some bracket.includeMinimum).mpr (includeMin.mpr first)
        includeMax := (holds_range matched fun bracket text =>
          letters.flag? text = some bracket.includeMaximum).mpr (includeMax.mpr second)
        matchValue := holds_of_blank blank
        priority := priority.mpr spelled.priority
        result := result }
  | false =>
    obtain ⟨text, here, rfl⟩ := buildMatch_exact ranged keyed
    constructor
    · intro represented
      refine ⟨priority.mp represented.priority, fun single => ?_, fun _ =>
        ⟨blank_of_exact matched represented.min, blank_of_exact matched represented.max,
          blank_of_exact matched represented.includeMin,
          blank_of_exact matched represented.includeMax⟩⟩
      rw [ranged] at single
      cases single
    · intro spelled
      obtain ⟨min, max, first, second⟩ := spelled.exact ranged
      refine ⟨holds_of_blank min, holds_of_blank max, holds_of_blank first, holds_of_blank second,
        fun other there => ?_, priority.mpr spelled.priority, result⟩
      rw [here] at there
      cases there
      exact matched

end Tables

section Sheets

variable {letters : Letters}

/-- What a table is built of. -/
theorem buildTable_eq_ok {tableId : String} {rows : List Row} {table : RateTable}
    (built : buildTable letters tableId rows = .ok table) :
    table.id = tableId ∧ rows.mapM (buildTableRow letters tableId) = .ok table.rows := by
  unfold buildTable at built
  split at built
  · obtain ⟨tableRows, read, built⟩ := bind_eq_ok built
    unfold rateTable at built
    split at built
    · split at built
      · cases built
        exact ⟨rfl, read⟩
      · cases built
    · cases built
  · cases built

/-- Lists that correspond by one relation correspond by another one where it follows for each of
their members. -/
theorem forall₂_iff {α β : Type} {built first : α → β → Prop} {second : α → Prop}
    {lefts : List α} {rights : List β} (lists : List.Forall₂ built lefts rights)
    (same : ∀ left right, built left right → (first left right ↔ second left)) :
    List.Forall₂ first lefts rights ↔ ∀ left ∈ lefts, second left := by
  induction lists with
  | nil => simp
  | cons head _ ih => rw [List.forall₂_cons, List.forall_mem_cons, same _ _ head, ih]

/-- Inputs represent their sheet exactly when its rows spell values. -/
theorem buildInputs_represents {rows : List Row} {inputs : List PricingInput}
    (built : buildInputs letters rows = .ok inputs) :
    List.Forall₂ (fun entry input => input.id = entry.1 ∧
        InputRepresented letters entry.2 input) (identified "id" rows) inputs ↔
      ∀ entry ∈ identified "id" rows, InputSpelled letters entry.2 := by
  refine forall₂_iff (mapM_eq_ok built) fun entry input step => ?_
  rw [buildInput_represents step]
  exact and_iff_right (buildInput_eq_ok step).1

/-- Tables represent their sheet exactly when its rows spell values of one form. -/
theorem buildTables_represents {rows : List Row} {tables : List RateTable}
    (built : buildTables letters rows = .ok tables) :
    (∀ tableId ∈ (identified "table_id" rows).map Prod.fst, ∃ table ∈ tables,
        table.id = tableId ∧ List.Forall₂ (RowRepresented letters)
          (valuesOf (identified "table_id" rows) tableId) table.rows) ↔
      ∀ entry ∈ identified "table_id" rows, RowSpelled letters entry.2 := by
  have lists := mapM_eq_ok built
  -- A table of a group represents its rows exactly when they spell values.
  have each : ∀ group ∈ byTable rows, ∀ table : RateTable,
      buildTable letters group.1 group.2 = .ok table →
      (List.Forall₂ (RowRepresented letters) (valuesOf (identified "table_id" rows) group.1)
          table.rows ↔
        ∀ row ∈ valuesOf (identified "table_id" rows) group.1, RowSpelled letters row) := by
    intro group member table step
    have read := (buildTable_eq_ok step).2
    rw [group_values member] at read
    exact forall₂_iff (mapM_eq_ok read) fun row tableRow made => buildTableRow_represents made
  constructor
  · intro represented entry member
    obtain ⟨table, inside, named, matched⟩ :=
      represented entry.1 (List.mem_map_of_mem member)
    obtain ⟨group, grouped, step⟩ := exists_left lists inside
    have same : group.1 = entry.1 := (buildTable_eq_ok step).1.symm.trans named
    rw [← same] at matched
    refine (each group grouped table step).mp matched entry.2 ?_
    exact List.mem_map_of_mem (List.mem_filter.mpr ⟨member, decide_eq_true same.symm⟩)
  · intro spelled tableId member
    obtain ⟨group, grouped, rfl⟩ := exists_group member
    obtain ⟨table, inside, step⟩ := exists_right lists grouped
    refine ⟨table, inside, (buildTable_eq_ok step).1, (each group grouped table step).mpr ?_⟩
    intro row belongs
    obtain ⟨entry, listed, rfl⟩ := List.mem_map.mp belongs
    exact spelled entry (List.mem_filter.mp listed).1

/-- An accepted package is valid and holds the inputs and tables it was given. -/
theorem package?_eq_some {interpreter : Interpreter} {draft : PackageDraft}
    {package : CertifiedPackage} (accepted : draft.package? interpreter = some package) :
    package.package.inputs = draft.inputs ∧ package.package.tables = draft.tables ∧
      package.package.Valid := by
  unfold PackageDraft.package? at accepted
  obtain ⟨period, -, accepted⟩ := Option.bind_eq_some_iff.mp accepted
  obtain ⟨⟨-, -, valid⟩, same⟩ := Option.ite_none_right_eq_some.mp accepted
  cases same
  exact ⟨rfl, rfl, valid⟩

/-- A compiled package holds the inputs and tables that were built. -/
theorem compileWorkbook_compiled {interpreter : Interpreter} {sheets : Sheets}
    {package : CertifiedPackage} {status : CompilationStatus}
    (compiled : compileWorkbook interpreter sheets = .ok (.compiled package status)) :
    buildInputs interpreter.letters sheets.inputs = .ok package.package.inputs ∧
      buildTables interpreter.letters sheets.tables = .ok package.package.tables := by
  unfold compileWorkbook at compiled
  split at compiled
  · next mapped =>
    cases compiled
    obtain ⟨metadata, -, mapped⟩ := bind_eq_ok mapped
    obtain ⟨inputs, first, mapped⟩ := bind_eq_ok mapped
    obtain ⟨constants, -, mapped⟩ := bind_eq_ok mapped
    obtain ⟨tables, second, mapped⟩ := bind_eq_ok mapped
    obtain ⟨calculations, -, mapped⟩ := bind_eq_ok mapped
    obtain ⟨outputs, -, mapped⟩ := bind_eq_ok mapped
    obtain ⟨cases, -, mapped⟩ := bind_eq_ok mapped
    unfold buildPackage at mapped
    split at mapped
    · cases mapped
    · dsimp only at mapped
      split at mapped
      · next accepted =>
        cases mapped
        obtain ⟨inside, listed, -⟩ := package?_eq_some accepted
        rw [inside, listed]
        exact ⟨first, second⟩
      · cases mapped
  · cases compiled
  · cases compiled

/-- A compiled package represents its input and its table sheet exactly when every row with an
identifier spells its values in one form. -/
theorem compileWorkbook_represents_iff (interpreter : Interpreter) (sheets : Sheets)
    (package : CertifiedPackage) (status : CompilationStatus)
    (compiled : compileWorkbook interpreter sheets = .ok (.compiled package status)) :
    SheetsRepresented interpreter.letters sheets package.package ↔
      SheetsSpelled interpreter.letters sheets := by
  obtain ⟨inputs, tables⟩ := compileWorkbook_compiled compiled
  constructor
  · intro represented
    exact ⟨(buildInputs_represents inputs).mp represented.inputs,
      (buildTables_represents tables).mp represented.tables⟩
  · intro spelled
    exact ⟨(buildInputs_represents inputs).mpr spelled.inputs,
      (buildTables_represents tables).mpr spelled.tables⟩

end Sheets

/-- Interpreter that knows ASCII letters. -/
def asciiInterpreter : Interpreter where
  letters := asciiLetters
  logicalOrder := [.and, .or]
  decode := fun _ => .ok .other
  print := fun _ => ""
  readDate := fun text => fromIsoformat text.toList
  message := fun _ => ""
  accepts := acceptsScalar
  sorter := byGenerations String

/-- Row of the given texts. -/
def textRow (cells : List (String × String)) : Row := fun column =>
  match cells.lookup column with
  | some text => .str text
  | none => .blank

/-- Sample workbook with one bracket of a table, whose upper bound is given. -/
def roofWorkbook (upper : String) : Sheets where
  metadata := [
    textRow [("key", "package_id"), ("value", "home_rates")],
    textRow [("key", "product_id"), ("value", "ho3")],
    textRow [("key", "line"), ("value", "homeowners")],
    textRow [("key", "country"), ("value", "US")],
    textRow [("key", "state"), ("value", "AZ")],
    textRow [("key", "currency"), ("value", "USD")],
    textRow [("key", "effective_start"), ("value", "2026-01-01")]]
  inputs := [textRow [("id", "roof_age"), ("name", "Roof age"), ("data_type", "INTEGER")]]
  constants := []
  tables := [textRow [("table_id", "roof_factor"), ("dimension_id", "roof_age"), ("min", "0"),
    ("max", upper), ("result_value", "1.1")]]
  calculations := [textRow [("node_id", "premium"), ("operator", "ROUND"), ("operand_1", "#100"),
    ("scale", "2"), ("rounding_mode", "HALF_UP")]]
  outputs := [textRow [("output_id", "total"), ("source_ref", "premium"), ("currency", "USD")]]
  controlCases := []

/-- Package of a compilation, if there is one. -/
def compiledPackage (answer : Except WorkbookException CompilationReceipt) :
    Option (CertifiedPackage × CompilationStatus) :=
  match answer with
  | .ok (.compiled package status) => some (package, status)
  | .ok (.rejected _) | .error _ => none

/-- A compilation with a package. -/
theorem compiledPackage_isSome {answer : Except WorkbookException CompilationReceipt}
    (found : (compiledPackage answer).isSome = true) :
    ∃ package status, answer = .ok (.compiled package status) := by
  unfold compiledPackage at found
  split at found
  · next package status => exact ⟨package, status, rfl⟩
  · cases found
  · cases found

/-- A bracket up to twenty is represented as its row spells it. -/
theorem compileWorkbook_represents_roof :
    ∃ package status, compileWorkbook asciiInterpreter (roofWorkbook "20") =
        .ok (.compiled package status) ∧
      (SheetsRepresented asciiInterpreter.letters (roofWorkbook "20") package.package ↔
        SheetsSpelled asciiInterpreter.letters (roofWorkbook "20")) := by
  have found : (compiledPackage (compileWorkbook asciiInterpreter (roofWorkbook "20"))).isSome =
      true := by decide +kernel
  obtain ⟨package, status, compiled⟩ := compiledPackage_isSome found
  exact ⟨package, status, compiled,
    compileWorkbook_represents_iff asciiInterpreter (roofWorkbook "20") package status compiled⟩

/-- Cells are not always represented: an upper bound with a letter for its zero is dropped, and the
bracket is open. -/
theorem compileWorkbook_open_bound :
    ¬∀ (interpreter : Interpreter) (sheets : Sheets) (package : CertifiedPackage)
      (status : CompilationStatus),
      compileWorkbook interpreter sheets = .ok (.compiled package status) →
      SheetsRepresented interpreter.letters sheets package.package := by
  intro always
  have found : (compiledPackage (compileWorkbook asciiInterpreter (roofWorkbook "2O"))).isSome =
      true := by decide +kernel
  obtain ⟨package, status, compiled⟩ := compiledPackage_isSome found
  obtain ⟨table, -, -, rows⟩ := (always _ _ package status compiled).tables "roof_factor"
    (by decide +kernel)
  have single : valuesOf (identified "table_id" (roofWorkbook "2O").tables) "roof_factor" =
      (roofWorkbook "2O").tables := rfl
  rw [single] at rows
  obtain ⟨tableRow, -, represented⟩ := exists_right rows (List.mem_singleton_self _)
  have text : (textRow [("table_id", "roof_factor"), ("dimension_id", "roof_age"), ("min", "0"),
      ("max", "2O"), ("result_value", "1.1")] "max").text = some "2O" := by decide +kernel
  obtain ⟨bracket, -, value, spelled, -⟩ := represented.max "2O" text
  have unread : spelledDecimal "2O" = none := by decide +kernel
  rw [unread] at spelled
  cases spelled

end RateGuard
