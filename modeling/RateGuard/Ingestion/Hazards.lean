import RateGuard.Ingestion.Representation

/-!
# Exceptions that escape the compiler

The compiler turns rejections into its answer and nothing else. Each builder rejects what it checks
itself; the schemas that it constructs refuse the rest with an exception of their own. The rows with
such content are the hazards: the compiler answers unless a hazard comes before every rejection.
-/

open DecimalFloat CalendarDate TopologicalSort Dictionary Outcome

namespace RateGuard

/-- Whether a builder fails with an exception that is no rejection. -/
def Escapes {α : Type} (run : Except MappingFailure α) : Prop :=
  ∃ exception, run = .error (.escaped exception)

/-- Whether the first element that is not built is a hazard. -/
def FirstFault {α β : Type} (build : α → Except MappingFailure β) (hazard : α → Prop)
    (elements : List α) : Prop :=
  ∃ before element after, elements = before ++ element :: after ∧
    (∀ earlier ∈ before, (build earlier).isOk = true) ∧ hazard element

section Failing

variable {α β : Type}

/-- A result is no exception. -/
theorem not_escapes_ok (value : α) : ¬Escapes (.ok value) := by
  rintro ⟨exception, same⟩
  cases same

/-- A rejection is no escaping exception. -/
theorem not_escapes_rejected (rejection : WorkbookRejection) :
    ¬Escapes (.error (.rejected rejection) : Except MappingFailure α) := by
  rintro ⟨exception, same⟩
  cases same

/-- An escaping exception is one. -/
theorem escapes_escaped (exception : WorkbookException) :
    Escapes (.error (.escaped exception) : Except MappingFailure α) := ⟨exception, rfl⟩

/-- Of two steps one lets an exception escape. -/
theorem escapes_bind {first : Except MappingFailure α} {next : α → Except MappingFailure β} :
    Escapes (first >>= next) ↔
      Escapes first ∨ ∃ value, first = .ok value ∧ Escapes (next value) := by
  cases first with
  | error failure =>
    change Escapes (.error failure) ↔ _
    constructor
    · rintro ⟨exception, same⟩
      cases same
      exact .inl (escapes_escaped exception)
    · rintro (⟨exception, same⟩ | ⟨value, same, -⟩)
      · cases same
        exact escapes_escaped exception
      · cases same
  | ok value =>
    constructor
    · exact fun escapes => .inr ⟨value, rfl, escapes⟩
    · rintro (⟨exception, same⟩ | ⟨other, same, escapes⟩)
      · cases same
      · cases same
        exact escapes

/-- A step and a result. -/
theorem escapes_map {first : Except MappingFailure α} {result : α → β} :
    Escapes (first >>= fun value => pure (result value)) ↔ Escapes first := by
  rw [escapes_bind]
  refine or_iff_left ?_
  rintro ⟨value, -, escapes⟩
  exact not_escapes_ok _ escapes

/-- A traversal lets an exception escape at its first fault. -/
theorem escapes_mapM {build : α → Except MappingFailure β} {elements : List α} :
    Escapes (elements.mapM build) ↔
      FirstFault build (fun element => Escapes (build element)) elements := by
  induction elements with
  | nil =>
    constructor
    · exact fun escapes => absurd escapes (not_escapes_ok _)
    · rintro ⟨before, element, after, same, -⟩
      exact absurd same.symm (by simp)
  | cons first rest ih =>
    rw [List.mapM_cons, escapes_bind]
    constructor
    · rintro (escapes | ⟨value, built, escapes⟩)
      · exact ⟨[], first, rest, rfl, fun _ none => absurd none List.not_mem_nil, escapes⟩
      · rw [escapes_map, ih] at escapes
        obtain ⟨before, element, after, rfl, others, fault⟩ := escapes
        refine ⟨first :: before, element, after, rfl, ?_, fault⟩
        intro earlier member
        rcases List.mem_cons.mp member with rfl | later
        · rw [built]
          rfl
        · exact others earlier later
    · rintro ⟨before, element, after, same, built, fault⟩
      cases before with
      | nil =>
        cases same
        exact .inl fault
      | cons head tail =>
        cases same
        obtain ⟨value, found⟩ := exists_of_isOk (built first List.mem_cons_self)
        refine .inr ⟨value, found, escapes_map.mpr (ih.mpr ⟨tail, element, after, rfl, ?_, fault⟩)⟩
        exact fun earlier member => built earlier (List.mem_cons_of_mem _ member)

/-- First faults with equivalent hazards. -/
theorem firstFault_congr {build : α → Except MappingFailure β} {one two : α → Prop}
    (same : ∀ element, one element ↔ two element) (elements : List α) :
    FirstFault build one elements ↔ FirstFault build two elements := by
  have equal : one = two := funext fun element => propext (same element)
  rw [equal]

end Failing

/-- A refused condition escapes. -/
theorem escapes_schemaRequires {condition : Bool} :
    Escapes (schemaRequires condition) ↔ condition = false := by
  unfold schemaRequires
  cases condition with
  | true => exact iff_of_false (not_escapes_ok _) (by decide)
  | false => exact iff_of_true (escapes_escaped _) rfl

/-- A required condition, and what follows. -/
theorem escapes_required {β : Type} {condition : Bool} {next : Unit → Except MappingFailure β} :
    Escapes (schemaRequires condition >>= next) ↔
      condition = false ∨ (condition = true ∧ Escapes (next ())) := by
  unfold schemaRequires
  cases condition with
  | true =>
    exact ⟨fun escapes => .inr ⟨rfl, escapes⟩,
      fun either => either.elim (fun refused => absurd refused (by decide)) (·.2)⟩
  | false => exact iff_of_true (escapes_escaped _) (.inl rfl)

/-- A name, and what follows: a missing one is rejected. -/
theorem escapes_named {β : Type} {row : Row} {sheet cell : String}
    {next : Unit → Except MappingFailure β} :
    Escapes (requireName row sheet cell >>= next) ↔
      (row "name").text.isSome = true ∧ Escapes (next ()) := by
  unfold requireName
  cases (row "name").text with
  | some name => exact ⟨fun escapes => ⟨rfl, escapes⟩, (·.2)⟩
  | none => exact iff_of_false (not_escapes_rejected _) fun both => absurd both.1 (by decide)

/-- A number, and what follows: what is not finite escapes. -/
theorem escapes_finite {β : Type} {value : Decimal} {next : FiniteDecimal → Except MappingFailure β} :
    Escapes (finiteField value >>= next) ↔
      ¬value.Finite ∨ ∃ number : FiniteDecimal, value = number.toDecimal ∧ Escapes (next number) := by
  cases value with
  | finite negative coefficient exponent =>
    constructor
    · exact fun escapes => .inr ⟨⟨negative, coefficient, exponent⟩, rfl, escapes⟩
    · rintro (infinite | ⟨number, same, escapes⟩)
      · exact absurd trivial infinite
      · cases same
        exact escapes
  | infinity negative => exact iff_of_true (escapes_escaped _) (.inl fun no => no)
  | nan signaling => exact iff_of_true (escapes_escaped _) (.inl fun no => no)

/-- A number, and nothing else that escapes. -/
theorem escapes_finite_only {β : Type} {value : Decimal} {result : FiniteDecimal → β} :
    Escapes (finiteField value >>= fun number => pure (result number)) ↔ ¬value.Finite := by
  rw [escapes_finite]
  refine or_iff_left ?_
  rintro ⟨number, -, escapes⟩
  exact not_escapes_ok _ escapes

/-- Whether a cell spells a number that is not finite. -/
def Cell.NotFinite (cell : Cell) : Prop := ∃ value, cell.toDecimal = some value ∧ ¬value.Finite

/-- Bound that a cell spells. -/
def Cell.bound? (cell : Cell) : Option Bound :=
  match cell.toDecimal with
  | some (.finite negative coefficient exponent) => some (.decimal ⟨negative, coefficient, exponent⟩)
  | some (.infinity _) | some (.nan _) | none => none

/-- A bound, and what follows. -/
theorem escapes_bound {β : Type} {cell : Cell} {next : Option Bound → Except MappingFailure β} :
    Escapes (boundField cell >>= next) ↔
      cell.NotFinite ∨ (¬cell.NotFinite ∧ Escapes (next cell.bound?)) := by
  unfold boundField Cell.bound? Cell.NotFinite
  cases cell.toDecimal with
  | none =>
    have finite : ¬∃ value, (none : Option Decimal) = some value ∧ ¬value.Finite := by
      rintro ⟨value, same, -⟩
      cases same
    exact ⟨fun escapes => .inr ⟨finite, escapes⟩, fun either => either.elim (absurd · finite) (·.2)⟩
  | some value =>
    cases value with
    | finite negative coefficient exponent =>
      have finite : ¬∃ value, some (Decimal.finite negative coefficient exponent) = some value ∧
          ¬value.Finite := by
        rintro ⟨value, same, infinite⟩
        cases same
        exact infinite trivial
      exact ⟨fun escapes => .inr ⟨finite, escapes⟩,
        fun either => either.elim (absurd · finite) (·.2)⟩
    | infinity negative =>
      exact iff_of_true (escapes_escaped _) (.inl ⟨_, rfl, fun no => no⟩)
    | nan signaling => exact iff_of_true (escapes_escaped _) (.inl ⟨_, rfl, fun no => no⟩)

/-- Whether a row of an input, of the given identifier, is refused by the schema only. -/
def InputHazard (letters : Letters) (row : Row) (id : String) : Prop :=
  ∃ dataType, inputDataType letters (row "data_type") = some dataType ∧
    (row "name").text.isSome = true ∧
    ((row "minimum").NotFinite ∨ (row "maximum").NotFinite ∨
      boundsOrdered (row "minimum").bound? (row "maximum").bound? = false ∨
      (dataType = .boolean ∧ allowedValues row ≠ none) ∨ isIdentifier id = false)

/-- The schema of an input refuses reversed bounds, restricted booleans and bad identifiers. -/
theorem escapes_pricingInput {id : String} {dataType : InputDataType} {required : Bool}
    {allowed : Option (List String)} {minimum maximum : Option Bound} :
    Escapes (pricingInput id dataType required allowed minimum maximum) ↔
      boundsOrdered minimum maximum = false ∨ (dataType = .boolean ∧ allowed ≠ none) ∨
        isIdentifier id = false := by
  unfold pricingInput
  split
  · next valid =>
    split
    · next named =>
      refine iff_of_false (not_escapes_ok _) ?_
      rintro (reversed | ⟨boolean, restricted⟩ | unnamed)
      · rw [valid.1] at reversed
        cases reversed
      · exact restricted (valid.2 boolean)
      · rw [named] at unnamed
        cases unnamed
    · next unnamed =>
      exact iff_of_true (escapes_escaped _) (.inr (.inr (Bool.eq_false_of_not_eq_true unnamed)))
  · next refused =>
    refine iff_of_true (escapes_escaped _) ?_
    by_contra fine
    push Not at fine
    exact refused ⟨Bool.eq_true_of_not_eq_false fine.1, fine.2.1⟩

/-- Inputs escape by their hazards. -/
theorem escapes_buildInput {letters : Letters} {row : Row} {id : String} :
    Escapes (buildInput letters row id) ↔ InputHazard letters row id := by
  unfold buildInput InputHazard
  cases inputDataType letters (row "data_type") with
  | none =>
    refine iff_of_false (not_escapes_rejected _) ?_
    rintro ⟨dataType, same, -⟩
    cases same
  | some dataType =>
    dsimp only
    rw [escapes_named, escapes_bound, escapes_bound, escapes_pricingInput]
    simp only [Option.some.injEq, exists_eq_left']
    tauto

/-- Whether a row of a constant is refused by the schema only. -/
def ConstantHazard (row : Row) (id : String) : Prop :=
  ∃ number, (row "value").toDecimal = some number ∧ (row "name").text.isSome = true ∧
    (¬number.Finite ∨ isIdentifier id = false)

/-- Constants escape by their hazards. -/
theorem escapes_buildConstant {row : Row} {id : String} :
    Escapes (buildConstant row id) ↔ ConstantHazard row id := by
  unfold buildConstant ConstantHazard
  cases (row "value").toDecimal with
  | none =>
    refine iff_of_false (not_escapes_rejected _) ?_
    rintro ⟨number, same, -⟩
    cases same
  | some number =>
    dsimp only
    simp only [Option.some.injEq, exists_eq_left']
    rw [escapes_named, escapes_finite]
    refine and_congr_right fun _ => ?_
    constructor
    · rintro (infinite | ⟨value, -, escapes⟩)
      · exact .inl infinite
      · rcases escapes_required.mp escapes with unnamed | ⟨-, escapes⟩
        · exact .inr unnamed
        · exact absurd escapes (not_escapes_ok _)
    · rintro (infinite | unnamed)
      · exact .inl infinite
      · by_cases finite : number.Finite
        · obtain ⟨negative, coefficient, exponent, rfl⟩ := finite.parts
          exact .inr ⟨⟨negative, coefficient, exponent⟩, rfl, escapes_required.mpr (.inl unnamed)⟩
        · exact .inl finite

/-- Whether a row of a table declares a range that is refused by the schema only. -/
def RangeHazard (row : Row) : Prop :=
  (row "min").NotFinite ∨ (row "max").NotFinite ∨
    boundsOrdered (row "min").bound? (row "max").bound? = false

/-- Whether a row of a table is refused by the schema only, or has a priority that is not finite. -/
def TableRowHazard (row : Row) : Prop :=
  (row "priority").NotFinite ∨ ∃ number, (row "result_value").toDecimal = some number ∧
    if isRangeRow row = true then RangeHazard row ∨ ¬number.Finite
    else (row "match_value").text ≠ none ∧ ¬number.Finite

/-- A priority that is not finite escapes. -/
theorem escapes_priority {β : Type} {row : Row} {next : Option Int → Except MappingFailure β}
    {failing : Prop} (same : ∀ priority, Escapes (next priority) ↔ failing) :
    Escapes (rowPriority row >>= next) ↔ (row "priority").NotFinite ∨ failing := by
  unfold rowPriority Cell.NotFinite
  cases (row "priority").toDecimal with
  | none =>
    refine (same none).trans (or_iff_right ?_).symm
    rintro ⟨value, impossible, -⟩
    cases impossible
  | some value =>
    cases value with
    | finite negative coefficient exponent =>
      refine (same _).trans (or_iff_right ?_).symm
      rintro ⟨value, found, infinite⟩
      cases found
      exact infinite trivial
    | infinity negative => exact iff_of_true (escapes_escaped _) (.inl ⟨_, rfl, fun no => no⟩)
    | nan signaling => exact iff_of_true (escapes_escaped _) (.inl ⟨_, rfl, fun no => no⟩)

/-- A bound is spelled where a range is declared. -/
theorem isRangeRow_bound {row : Row} (range : isRangeRow row = true)
    (low : ¬(row "min").NotFinite) (high : ¬(row "max").NotFinite) :
    (row "min").bound?.isSome = true ∨ (row "max").bound?.isSome = true := by
  have spelled : ∀ cell : Cell, cell.toDecimal.isSome = true → ¬cell.NotFinite →
      cell.bound?.isSome = true := by
    intro cell some finite
    obtain ⟨value, found⟩ := Option.isSome_iff_exists.mp some
    unfold Cell.bound?
    cases value with
    | finite negative coefficient exponent =>
      rw [found]
      rfl
    | infinity negative => exact absurd ⟨_, found, fun no => no⟩ finite
    | nan signaling => exact absurd ⟨_, found, fun no => no⟩ finite
  rcases (Bool.or_eq_true _ _).mp range with one | two
  · exact .inl (spelled _ one low)
  · exact .inr (spelled _ two high)

/-- A range with a bound, and what follows. -/
theorem escapes_rangeMatch {β : Type} {minimum maximum : Option Bound} {low high : Bool}
    {next : RowMatch → Except MappingFailure β} {failing : Prop}
    (bounded : minimum.isSome = true ∨ maximum.isSome = true)
    (same : ∀ key, Escapes (next key) ↔ failing) :
    Escapes (rangeMatch minimum maximum low high >>= next) ↔
      boundsOrdered minimum maximum = false ∨ failing := by
  unfold rangeMatch
  split
  · next valid =>
    refine (same _).trans (or_iff_right ?_).symm
    rw [valid.2]
    decide
  · next refused =>
    refine iff_of_true (escapes_escaped _) (.inl ?_)
    exact Bool.eq_false_of_not_eq_true fun ordered => refused ⟨bounded, ordered⟩

/-- The key of a row and what follows. -/
theorem escapes_match {β : Type} {letters : Letters} {tableId : String} {row : Row}
    {next : RowMatch → Except MappingFailure β} {failing : Prop}
    (same : ∀ key, Escapes (next key) ↔ failing) :
    Escapes (buildMatch letters tableId row >>= next) ↔
      if isRangeRow row = true then RangeHazard row ∨ failing
      else (row "match_value").text ≠ none ∧ failing := by
  unfold buildMatch
  by_cases range : isRangeRow row = true
  · rw [if_pos range, if_pos range]
    simp only [bind_assoc]
    rw [escapes_bound, escapes_bound]
    unfold RangeHazard
    by_cases low : (row "min").NotFinite
    · tauto
    by_cases high : (row "max").NotFinite
    · tauto
    rw [escapes_rangeMatch (isRangeRow_bound range low high) same]
    tauto
  · rw [if_neg range, if_neg range]
    cases (row "match_value").text with
    | none => exact iff_of_false (not_escapes_rejected _) fun both => both.1 rfl
    | some value =>
      refine (same (.exact (.str value))).trans ?_
      exact ⟨fun fails => ⟨by simp, fails⟩, (·.2)⟩

/-- Rows of tables escape by their hazards. -/
theorem escapes_buildTableRow {letters : Letters} {tableId : String} {row : Row} :
    Escapes (buildTableRow letters tableId row) ↔ TableRowHazard row := by
  unfold buildTableRow TableRowHazard
  refine escapes_priority fun priority => ?_
  cases (row "result_value").toDecimal with
  | none =>
    refine iff_of_false (not_escapes_rejected _) ?_
    rintro ⟨number, same, -⟩
    cases same
  | some number =>
    simp only [Option.some.injEq, exists_eq_left']
    exact escapes_match fun key => escapes_finite_only

/-- Whether the rows of a table are refused by a schema only. -/
def TableHazard (letters : Letters) (tableId : String) (rows : List Row) : Prop :=
  ∃ dimension, (rows.filterMap fun row => (row "dimension_id").text).dedup = [dimension] ∧
    (FirstFault (buildTableRow letters tableId) TableRowHazard rows ∨
      ((∀ row ∈ rows, (buildTableRow letters tableId row).isOk = true) ∧
        (isIdentifier dimension = false ∨ isIdentifier tableId = false)))

/-- The schema of a table refuses bad identifiers. -/
theorem escapes_rateTable {id dimension : String} {lookupType : TableLookupType}
    {rows : List TableRow} (keyed : ∀ row ∈ rows, row.rowMatches.length = 1) :
    Escapes (rateTable id dimension lookupType rows) ↔
      isIdentifier dimension = false ∨ isIdentifier id = false := by
  unfold rateTable
  rw [dif_pos keyed, ← Bool.and_eq_false_iff]
  cases isIdentifier dimension && isIdentifier id with
  | true => exact iff_of_false (not_escapes_ok _) (by decide)
  | false => exact iff_of_true (escapes_escaped _) rfl

/-- A row has one key. -/
theorem buildTableRow_keyed {letters : Letters} {tableId : String} {row : Row} {built : TableRow}
    (found : buildTableRow letters tableId row = .ok built) : built.rowMatches.length = 1 := by
  obtain ⟨priority, -, found⟩ := bind_eq_ok found
  split at found
  · cases found
  · obtain ⟨key, -, found⟩ := bind_eq_ok found
    obtain ⟨value, -, found⟩ := bind_eq_ok found
    cases found
    rfl

/-- Tables escape by their hazards. -/
theorem escapes_buildTable {letters : Letters} {tableId : String} {rows : List Row} :
    Escapes (buildTable letters tableId rows) ↔ TableHazard letters tableId rows := by
  unfold buildTable TableHazard
  split
  · next dimension single =>
    simp only [single, List.cons.injEq, and_true, exists_eq_left']
    rw [escapes_bind, escapes_mapM, firstFault_congr (fun row => escapes_buildTableRow)]
    refine or_congr_right ?_
    constructor
    · rintro ⟨built, found, escapes⟩
      have keyed : ∀ row ∈ built, row.rowMatches.length = 1 := by
        intro row member
        obtain ⟨source, -, made⟩ := mapM_source found member
        exact buildTableRow_keyed made
      exact ⟨mapM_isOk_iff.mp (by rw [found]; rfl), (escapes_rateTable keyed).mp escapes⟩
    · rintro ⟨all, unnamed⟩
      obtain ⟨built, found⟩ := exists_of_isOk (mapM_isOk_iff.mpr all)
      have keyed : ∀ row ∈ built, row.rowMatches.length = 1 := by
        intro row member
        obtain ⟨source, -, made⟩ := mapM_source found member
        exact buildTableRow_keyed made
      exact ⟨built, found, (escapes_rateTable keyed).mpr unnamed⟩
  · next other =>
    refine iff_of_false (not_escapes_rejected _) ?_
    rintro ⟨dimension, single, -⟩
    exact other dimension single

/-- Whether a token spells a number that is not finite. -/
def OperandHazard (token : List Char) : Prop :=
  Text.strip token ≠ [] ∧ ∃ number,
    Decimal.parse (if (Text.strip token).head? = some '#' then (Text.strip token).tail
      else Text.strip token) = some number ∧ ¬number.Finite

/-- Operands escape by their hazards. -/
theorem escapes_parseOperand {token : List Char} {cell : String} :
    Escapes (parseOperand token cell) ↔ OperandHazard token := by
  unfold parseOperand OperandHazard
  dsimp only
  split
  · next empty => exact iff_of_false (not_escapes_rejected _) fun both => both.1 empty
  · next some =>
    split
    · next number parsed =>
      rw [parsed]
      simp only [Option.some.injEq, exists_eq_left']
      exact escapes_finite_only.trans ⟨fun infinite => ⟨some, infinite⟩, (·.2)⟩
    · next none =>
      rw [none]
      have absent : ¬(Text.strip token ≠ [] ∧ ∃ number, (Option.none : Option Decimal) = Option.some number ∧
          ¬number.Finite) := by
        rintro ⟨-, number, same, -⟩
        cases same
      split
      · exact iff_of_false (not_escapes_ok _) absent
      · exact iff_of_false (not_escapes_rejected _) absent

/-- Two parsed parts: the first is a hazard, or it is parsed and the second is one. -/
theorem escapes_both {α β γ : Type} {first : Except MappingFailure α}
    {second : Except MappingFailure β} {result : α → β → γ} :
    Escapes (first >>= fun one => second >>= fun two => pure (result one two)) ↔
      Escapes first ∨ (first.isOk = true ∧ Escapes second) := by
  rw [escapes_bind]
  refine or_congr_right ?_
  constructor
  · rintro ⟨value, found, escapes⟩
    exact ⟨by rw [found]; rfl, escapes_map.mp escapes⟩
  · rintro ⟨parsed, escapes⟩
    obtain ⟨value, found⟩ := exists_of_isOk parsed
    exact ⟨value, found, escapes_map.mpr escapes⟩

/-- Whether a comparison has an operand that is not finite. -/
def ComparisonHazard (letters : Letters) (text : List Char) (cell : String) : Prop :=
  ∃ left operator right, words text = [left, operator, right] ∧
    comparisonOperator (letters.upper (String.ofList operator)) ≠ none ∧
    (OperandHazard left ∨ ((parseOperand left cell).isOk = true ∧ OperandHazard right))

/-- Comparisons escape by their hazards. -/
theorem escapes_parseComparison {letters : Letters} {text : List Char} {cell : String} :
    Escapes (parseComparison letters text cell) ↔ ComparisonHazard letters text cell := by
  unfold parseComparison ComparisonHazard
  split
  · next left operator right parts =>
    rw [parts]
    simp only [List.cons.injEq, and_true, and_assoc, exists_and_left, exists_eq_left']
    split
    · next comparison found =>
      rw [found]
      refine escapes_both.trans ?_
      rw [escapes_parseOperand, escapes_parseOperand]
      exact ⟨fun fails => ⟨by simp, fails⟩, (·.2)⟩
    · next unknown =>
      rw [unknown]
      exact iff_of_false (not_escapes_rejected _) fun both => both.1 rfl
  · next other =>
    refine iff_of_false (not_escapes_rejected _) ?_
    rintro ⟨left, operator, right, parts, -⟩
    exact other left operator right parts

/-- Whether a condition has an operand that is not finite. -/
def ConditionHazard (letters : Letters) (order : List LogicalOperator) (token : List Char)
    (cell : String) : Prop :=
  Text.strip token ≠ [] ∧
    match order.findSome? fun operator =>
        (searchWord letters.isWord (logicalWord operator) [] (Text.strip token)).map
          (Prod.mk operator) with
    | some (_, parts) => ComparisonHazard letters (Text.strip parts.1) cell ∨
        ((parseComparison letters (Text.strip parts.1) cell).isOk = true ∧
          ComparisonHazard letters (Text.strip parts.2) cell)
    | none => ComparisonHazard letters (Text.strip token) cell

/-- Conditions escape by their hazards. -/
theorem escapes_parseCondition {letters : Letters} {order : List LogicalOperator}
    {token : List Char} {cell : String} :
    Escapes (parseCondition letters order token cell) ↔
      ConditionHazard letters order token cell := by
  unfold parseCondition ConditionHazard
  dsimp only
  generalize order.findSome? (fun operator =>
    (searchWord letters.isWord (logicalWord operator) [] (Text.strip token)).map
      (Prod.mk operator)) = joined
  by_cases empty : Text.strip token = []
  · rw [if_pos empty]
    exact iff_of_false (not_escapes_rejected _) fun both => both.1 empty
  · rw [if_neg empty]
    refine Iff.trans ?_ (and_iff_right empty).symm
    cases joined with
    | none => exact escapes_parseComparison
    | some found =>
      refine escapes_both.trans ?_
      rw [escapes_parseComparison, escapes_parseComparison]

/-- Whether a text is no scale of at most ten places. -/
def ScaleHazard (text : String) : Prop :=
  ∀ number, Decimal.parse text.toList = some number →
    ∀ scale, (Value.decimal number).toInt = .ok scale → ¬(0 ≤ scale ∧ scale ≤ 10)

/-- Scales escape by their hazards. -/
theorem escapes_roundScale {text : String} : Escapes (roundScale text) ↔ ScaleHazard text := by
  unfold roundScale ScaleHazard
  split
  · next none =>
    refine iff_of_true (escapes_escaped _) fun number parsed => ?_
    rw [none] at parsed
    cases parsed
  · next number parsed =>
    split
    · next fault failed =>
      refine iff_of_true (escapes_escaped _) fun other same scale found => ?_
      rw [parsed] at same
      cases same
      rw [failed] at found
      cases found
    · next scale found =>
      split
      · next bounded =>
        refine iff_of_false (not_escapes_ok _) fun refuses => ?_
        exact refuses number parsed scale found ⟨bounded.2, by omega⟩
      · next outside =>
        refine iff_of_true (escapes_escaped _) fun other same more again => ?_
        rw [parsed] at same
        cases same
        rw [found] at again
        cases again
        omega

/-- Whether a row of a lookup is refused by the schema only. -/
def LookupHazard (row : Row) : Prop :=
  ∃ tableId, (row "operand_1").text = some tableId ∧ isIdentifierV2 tableId = false

/-- Whether a row of a rounding is refused by a schema only. -/
def RoundHazard (letters : Letters) (row : Row) (nodeId : String) : Prop :=
  ∃ scale mode, (row "scale").text = some scale ∧ (row "rounding_mode").text = some mode ∧
    roundingMode (letters.upper mode) ≠ none ∧
    (OperandHazard ((row "operand_1").print.getD []) ∨
      ((parseOperand ((row "operand_1").print.getD []) nodeId).isOk = true ∧ ScaleHazard scale))

/-- Whether a row of a choice has an operand that is not finite. -/
def ChoiceHazard (letters : Letters) (order : List LogicalOperator) (row : Row)
    (nodeId : String) : Prop :=
  ConditionHazard letters order ((row "operand_1").print.getD []) nodeId ∨
    ((parseCondition letters order ((row "operand_1").print.getD []) nodeId).isOk = true ∧
      ∃ whenTrue whenFalse, ((row "operand_2").text.getD "").toList.splitOn '|' =
          [whenTrue, whenFalse] ∧
        (OperandHazard whenTrue ∨
          ((parseOperand whenTrue nodeId).isOk = true ∧ OperandHazard whenFalse)))

/-- Whether a row of two operands has one that is not finite. -/
def BinaryHazard (row : Row) (nodeId : String) : Prop :=
  OperandHazard ((row "operand_1").print.getD []) ∨
    ((parseOperand ((row "operand_1").print.getD []) nodeId).isOk = true ∧
      OperandHazard ((row "operand_2").print.getD []))

/-- Whether the expression of a row is refused by a schema only, by its operator. -/
def ExpressionHazard (letters : Letters) (order : List LogicalOperator) (row : Row)
    (nodeId : String) : Prop :=
  let operator := letters.upper ((row "operator").text.getD "")
  if operator = "LOOKUP" then LookupHazard row
  else if operator = "ROUND" then RoundHazard letters row nodeId
  else if operator = "IF" then ChoiceHazard letters order row nodeId
  else binaryOperator operator ≠ none ∧ BinaryHazard row nodeId

/-- Lookups escape by their hazards. -/
theorem escapes_lookupFormula {row : Row} {nodeId : String} :
    Escapes (lookupFormula row nodeId) ↔ LookupHazard row := by
  unfold lookupFormula LookupHazard
  cases (row "operand_1").text with
  | none =>
    refine iff_of_false (not_escapes_rejected _) ?_
    rintro ⟨tableId, same, -⟩
    cases same
  | some tableId =>
    dsimp only
    rw [escapes_required]
    simp only [Option.some.injEq, exists_eq_left']
    exact or_iff_left fun both => not_escapes_ok _ both.2

/-- Roundings escape by their hazards. -/
theorem escapes_roundFormula {letters : Letters} {row : Row} {nodeId : String} :
    Escapes (roundFormula letters row nodeId) ↔ RoundHazard letters row nodeId := by
  unfold roundFormula RoundHazard
  split
  · next scale mode scaled moded =>
    cases found : roundingMode (letters.upper mode) with
    | none =>
      refine iff_of_false (not_escapes_rejected _) ?_
      rintro ⟨_, other, -, again, known, -⟩
      rw [moded] at again
      cases again
      exact known found
    | some rounding =>
      refine escapes_both.trans ?_
      rw [escapes_parseOperand, escapes_roundScale]
      constructor
      · exact fun fails => ⟨scale, mode, scaled, moded, by rw [found]; simp, fails⟩
      · rintro ⟨_, _, one, two, -, fails⟩
        rw [scaled] at one
        cases one
        exact fails
  · next other =>
    refine iff_of_false (not_escapes_rejected _) ?_
    rintro ⟨scale, mode, scaled, moded, -⟩
    exact other scale mode scaled moded

/-- Choices escape by their hazards. -/
theorem escapes_conditionalFormula {letters : Letters} {order : List LogicalOperator} {row : Row}
    {nodeId : String} :
    Escapes (conditionalFormula letters order row nodeId) ↔
      ChoiceHazard letters order row nodeId := by
  unfold conditionalFormula ChoiceHazard
  rw [escapes_bind, escapes_parseCondition]
  refine or_congr_right ?_
  generalize ((row "operand_2").text.getD "").toList.splitOn '|' = parts
  rcases parts with _ | ⟨whenTrue, _ | ⟨whenFalse, _ | ⟨third, rest⟩⟩⟩
  case cons.cons.nil =>
    constructor
    · rintro ⟨condition, parsed, escapes⟩
      have fails := escapes_both.mp escapes
      rw [escapes_parseOperand, escapes_parseOperand] at fails
      exact ⟨by rw [parsed]; rfl, whenTrue, whenFalse, rfl, fails⟩
    · rintro ⟨parsed, first, second, same, fails⟩
      obtain ⟨condition, found⟩ := exists_of_isOk parsed
      obtain ⟨rfl, rfl⟩ : whenTrue = first ∧ whenFalse = second := by simpa using same
      refine ⟨condition, found, escapes_both.mpr ?_⟩
      rw [escapes_parseOperand, escapes_parseOperand]
      exact fails
  all_goals
    refine iff_of_false ?_ ?_
    · rintro ⟨condition, -, escapes⟩
      exact not_escapes_rejected _ escapes
    · rintro ⟨-, first, second, same, -⟩
      cases same

/-- Rows of two operands escape by their hazards. -/
theorem escapes_binaryFormula {operator : BinaryOperator} {row : Row} {nodeId : String} :
    Escapes (binaryFormula operator row nodeId) ↔ BinaryHazard row nodeId := by
  unfold binaryFormula BinaryHazard
  rw [escapes_bind, escapes_parseOperand]
  refine or_congr_right ?_
  have divided : ∀ left right : ExpressionV2, ¬Escapes (
      if operator = .divide ∧ isZeroLiteral right = true then
        .error (rejectRow "DIVISION_BY_ZERO_PATH" calculationSheet nodeId)
      else return ExpressionV2.binary operator left right) := by
    intro left right
    split
    · exact not_escapes_rejected _
    · exact not_escapes_ok _
  constructor
  · rintro ⟨left, parsed, escapes⟩
    refine ⟨by rw [parsed]; rfl, ?_⟩
    rcases escapes_bind.mp escapes with fails | ⟨right, -, escapes⟩
    · exact escapes_parseOperand.mp fails
    · exact absurd escapes (divided left right)
  · rintro ⟨parsed, fails⟩
    obtain ⟨left, found⟩ := exists_of_isOk parsed
    exact ⟨left, found, escapes_bind.mpr (.inl (escapes_parseOperand.mpr fails))⟩

/-- Expressions escape by their hazards. -/
theorem escapes_buildExpression {letters : Letters} {order : List LogicalOperator} {row : Row}
    {nodeId : String} :
    Escapes (buildExpression letters order row nodeId) ↔
      ExpressionHazard letters order row nodeId := by
  unfold buildExpression ExpressionHazard
  dsimp only
  split
  · exact escapes_lookupFormula
  · split
    · exact escapes_roundFormula
    · split
      · exact escapes_conditionalFormula
      · split
        · next binary found =>
          rw [found]
          exact escapes_binaryFormula.trans ⟨fun fails => ⟨by simp, fails⟩, (·.2)⟩
        · next unknown =>
          rw [unknown]
          exact iff_of_false (not_escapes_rejected _) fun both => both.1 rfl

/-- Whether a row of a calculation is refused by a schema only. -/
def CalculationHazard (letters : Letters) (order : List LogicalOperator) (row : Row)
    (nodeId : String) : Prop :=
  ExpressionHazard letters order row nodeId ∨
    ((buildExpression letters order row nodeId).isOk = true ∧ isIdentifierV2 nodeId = false)

/-- Calculations escape by their hazards. -/
theorem escapes_buildCalculation {letters : Letters} {order : List LogicalOperator} {row : Row}
    {nodeId : String} :
    Escapes (buildCalculation letters order row nodeId) ↔
      CalculationHazard letters order row nodeId := by
  unfold buildCalculation CalculationHazard
  rw [escapes_bind, escapes_buildExpression]
  refine or_congr_right ?_
  have named : ∀ expression : ExpressionV2, Escapes (do
      schemaRequires (isIdentifierV2 nodeId)
      return (⟨nodeId, expression, [], none⟩ : CalculationNodeV2)) ↔
      isIdentifierV2 nodeId = false := by
    intro expression
    exact escapes_required.trans (or_iff_left fun both => not_escapes_ok _ both.2)
  constructor
  · rintro ⟨expression, built, escapes⟩
    exact ⟨by rw [built]; rfl, (named expression).mp escapes⟩
  · rintro ⟨built, unnamed⟩
    obtain ⟨expression, found⟩ := exists_of_isOk built
    exact ⟨expression, found, (named expression).mpr unnamed⟩

/-- A step, and what follows whatever it gives. -/
theorem escapes_then {α β : Type} {first : Except MappingFailure α}
    {next : α → Except MappingFailure β} {hazard later : Prop} (faults : Escapes first ↔ hazard)
    (same : ∀ value, first = .ok value → (Escapes (next value) ↔ later)) :
    Escapes (first >>= next) ↔ hazard ∨ (first.isOk = true ∧ later) := by
  rw [escapes_bind, faults]
  refine or_congr_right ?_
  constructor
  · rintro ⟨value, found, escapes⟩
    exact ⟨by rw [found]; rfl, (same value found).mp escapes⟩
  · rintro ⟨built, fails⟩
    obtain ⟨value, found⟩ := exists_of_isOk built
    exact ⟨value, found, (same value found).mpr fails⟩

section Sheets

variable (interpreter : Interpreter)

/-- Whether a row of an output is refused by the schema only. -/
def OutputHazard (calculations : List CalculationNodeV2) (row : Row) (outputId : String) : Prop :=
  ∃ node operand scale mode,
    ((row "source_ref").text.bind fun ref => calculations.reverse.find? (·.id == ref)) = some node ∧
    node.expression = .round operand scale mode ∧
    (isIdentifierV2 outputId && isUpperCode interpreter.letters
      (interpreter.letters.upper ((row "currency").text.getD ""))) = false

/-- Whether decoding of a cell fails otherwise than by malformed text. -/
def DecodeHazard (cell : Cell) : Prop :=
  interpreter.decode (cell.text.getD "\x7b\x7d") = .error .failed

/-- Whether decoded documents are no control case. -/
def CaseRefused (caseId : String) (tolerance : Decimal) : JsonDocument → JsonDocument → Prop
  | .object _ _, .object outputs _ =>
    ¬tolerance.Finite ∨ isIdentifierV2 caseId = false ∨ outputs = [] ∨
      Decimal.lt tolerance (.ofInt 0) ≠ .ok false
  | .other, _ | .object _ _, .other => True

/-- Whether a row of a control case is refused by the schema only, or has a document that is no
object. -/
def CaseHazard (row : Row) (caseId : String) : Prop :=
  DecodeHazard interpreter (row "input") ∨ ∃ inputs,
    decodeCell interpreter (row "input") caseId = .ok inputs ∧
    (DecodeHazard interpreter (row "expected_output") ∨ ∃ expected,
      decodeCell interpreter (row "expected_output") caseId = .ok expected ∧
      ∃ tolerance, (row "tolerance").toDecimal = some tolerance ∧
        CaseRefused caseId tolerance inputs expected)

/-- Whether some sheet has a hazard, behind sheets that are built and rows that are built. -/
def WorkbookHazard (sheets : Sheets) : Prop :=
  (buildMetadata interpreter sheets.metadata).isOk = true ∧
  (FirstFault (fun entry => buildInput interpreter.letters entry.2 entry.1)
      (fun entry => InputHazard interpreter.letters entry.2 entry.1)
      (identified "id" sheets.inputs) ∨
    ((buildInputs interpreter.letters sheets.inputs).isOk = true ∧
  (FirstFault (fun entry => buildConstant entry.2 entry.1)
      (fun entry => ConstantHazard entry.2 entry.1) (identified "id" sheets.constants) ∨
    ((buildConstants sheets.constants).isOk = true ∧
  (FirstFault (fun group => buildTable interpreter.letters group.1 group.2)
      (fun group => TableHazard interpreter.letters group.1 group.2) (byTable sheets.tables) ∨
    ((buildTables interpreter.letters sheets.tables).isOk = true ∧
  (FirstFault (fun entry => buildCalculation interpreter.letters interpreter.logicalOrder
        entry.2 entry.1)
      (fun entry => CalculationHazard interpreter.letters interpreter.logicalOrder entry.2 entry.1)
      (identified "node_id" sheets.calculations) ∨
    ∃ calculations, buildCalculations interpreter.letters interpreter.logicalOrder
        sheets.calculations = .ok calculations ∧
  (FirstFault (fun entry => buildOutput interpreter calculations entry.2 entry.1)
      (fun entry => OutputHazard interpreter calculations entry.2 entry.1)
      (identified "output_id" sheets.outputs) ∨
    ((buildOutputs interpreter calculations sheets.outputs).isOk = true ∧
  FirstFault (fun entry => buildControlCase interpreter entry.2 entry.1)
      (fun entry => CaseHazard interpreter entry.2 entry.1)
      (identified "case_id" sheets.controlCases))))))))))

variable {interpreter}

/-- Metadata is rejected or built. -/
theorem not_escapes_buildMetadata (rows : List Row) : ¬Escapes (buildMetadata interpreter rows) := by
  unfold buildMetadata
  dsimp only
  split
  · intro escapes
    rcases escapes_bind.mp escapes with fails | ⟨value, -, fails⟩
    · unfold validateScope at fails
      split at fails
      · exact not_escapes_rejected _ fails
      · split at fails
        · exact not_escapes_rejected _ fails
        · split at fails
          · exact not_escapes_rejected _ fails
          · exact not_escapes_ok _ fails
    · exact not_escapes_ok _ fails
  · exact not_escapes_rejected _

/-- Outputs escape by their hazards. -/
theorem escapes_buildOutput {calculations : List CalculationNodeV2} {row : Row}
    {outputId : String} :
    Escapes (buildOutput interpreter calculations row outputId) ↔
      OutputHazard interpreter calculations row outputId := by
  unfold buildOutput OutputHazard
  dsimp only
  split
  · next none =>
    refine iff_of_false (not_escapes_rejected _) ?_
    rintro ⟨node, _, _, _, found, -⟩
    rw [none] at found
    cases found
  · next node found =>
    split
    · next operand scale mode rounded =>
      rw [escapes_required]
      constructor
      · rintro (refused | ⟨-, escapes⟩)
        · exact ⟨node, operand, scale, mode, found, rounded, refused⟩
        · exact absurd escapes (not_escapes_ok _)
      · rintro ⟨_, _, _, _, -, -, refused⟩
        exact .inl refused
    · next other =>
      refine iff_of_false (not_escapes_rejected _) ?_
      rintro ⟨again, operand, scale, mode, same, rounded, -⟩
      rw [found] at same
      cases same
      exact other operand scale mode rounded

/-- A sheet of outputs escapes at its first fault. -/
theorem escapes_buildOutputs {calculations : List CalculationNodeV2} {rows : List Row} :
    Escapes (buildOutputs interpreter calculations rows) ↔
      FirstFault (fun entry => buildOutput interpreter calculations entry.2 entry.1)
        (fun entry => OutputHazard interpreter calculations entry.2 entry.1)
        (identified "output_id" rows) := by
  unfold buildOutputs
  rw [escapes_bind, escapes_mapM, firstFault_congr (fun entry => escapes_buildOutput)]
  refine or_iff_left ?_
  rintro ⟨outputs, -, escapes⟩
  split at escapes
  · exact not_escapes_ok _ escapes
  · exact not_escapes_rejected _ escapes

/-- Cells escape by failing decoding. -/
theorem escapes_decodeCell {cell : Cell} {caseId : String} :
    Escapes (decodeCell interpreter cell caseId) ↔ DecodeHazard interpreter cell := by
  unfold decodeCell DecodeHazard
  cases interpreter.decode (cell.text.getD "\x7b\x7d") with
  | ok document =>
    refine iff_of_false (not_escapes_ok _) ?_
    intro same
    cases same
  | error failure =>
    cases failure with
    | malformed =>
      refine iff_of_false (not_escapes_rejected _) ?_
      intro same
      cases same
    | failed => exact iff_of_true (escapes_escaped _) rfl

/-- The schema of a control case refuses what is no case. -/
theorem escapes_controlCase {caseId : String} {inputs expected : JsonDocument}
    {tolerance : Decimal} :
    Escapes (controlCase interpreter caseId inputs expected tolerance) ↔
      CaseRefused caseId tolerance inputs expected := by
  unfold controlCase
  cases expected with
  | other =>
    refine iff_of_true (escapes_escaped _) ?_
    cases inputs <;> trivial
  | object outputs distinct =>
    cases inputs with
    | other => exact iff_of_true (escapes_escaped _) trivial
    | object values distinctValues =>
      unfold CaseRefused
      dsimp only
      rw [escapes_finite]
      by_cases finite : tolerance.Finite
      · obtain ⟨negative, coefficient, exponent, rfl⟩ := finite.parts
        constructor
        · rintro (infinite | ⟨number, same, escapes⟩)
          · exact absurd finite infinite
          · refine .inr ?_
            split at escapes
            · exact absurd escapes (not_escapes_ok _)
            · next refused =>
              by_contra fine
              push Not at fine
              refine refused ⟨Bool.eq_true_of_not_eq_false fine.1, fine.2.1, ?_⟩
              rw [← same]
              exact fine.2.2
        · rintro (infinite | refused)
          · exact absurd finite infinite
          · refine .inr ⟨⟨negative, coefficient, exponent⟩, rfl, ?_⟩
            rw [dif_neg]
            · exact escapes_escaped _
            · rintro ⟨named, some, nonnegative⟩
              rcases refused with unnamed | none | below
              · rw [named] at unnamed
                cases unnamed
              · exact some none
              · exact below nonnegative
      · exact iff_of_true (.inl finite) (.inl finite)

/-- Control cases escape by their hazards. -/
theorem escapes_buildControlCase {row : Row} {caseId : String} :
    Escapes (buildControlCase interpreter row caseId) ↔ CaseHazard interpreter row caseId := by
  unfold buildControlCase CaseHazard
  rw [escapes_bind, escapes_decodeCell]
  refine or_congr_right (exists_congr fun inputs => and_congr_right fun _ => ?_)
  rw [escapes_bind, escapes_decodeCell]
  refine or_congr_right (exists_congr fun expected => and_congr_right fun _ => ?_)
  cases (row "tolerance").toDecimal with
  | none =>
    refine iff_of_false (not_escapes_rejected _) ?_
    rintro ⟨tolerance, same, -⟩
    cases same
  | some tolerance =>
    simp only [Option.some.injEq, exists_eq_left']
    exact escapes_controlCase

/-- A package is rejected or built. -/
theorem not_escapes_buildPackage (draft : PackageDraft) :
    ¬Escapes (buildPackage interpreter draft) := by
  unfold buildPackage
  split
  · exact not_escapes_rejected _
  · dsimp only
    split
    · exact not_escapes_ok _
    · exact not_escapes_rejected _

/-- Sheets escape by their hazards. -/
theorem escapes_mapWorkbook {sheets : Sheets} :
    Escapes (mapWorkbook interpreter sheets) ↔ WorkbookHazard interpreter sheets := by
  unfold mapWorkbook WorkbookHazard
  rw [escapes_then (iff_false_intro (not_escapes_buildMetadata sheets.metadata))
    fun metadata _ => ?_, false_or]
  refine escapes_then (escapes_mapM.trans (firstFault_congr (fun entry => escapes_buildInput) _))
    fun inputs _ => ?_
  refine escapes_then
    (escapes_mapM.trans (firstFault_congr (fun entry => escapes_buildConstant) _))
    fun constants _ => ?_
  refine escapes_then (escapes_mapM.trans (firstFault_congr (fun group => escapes_buildTable) _))
    fun tables _ => ?_
  rw [escapes_bind]
  refine or_congr
    (escapes_mapM.trans (firstFault_congr (fun entry => escapes_buildCalculation) _))
    (exists_congr fun calculations => and_congr_right fun _ => ?_)
  refine escapes_then escapes_buildOutputs fun outputs _ => ?_
  rw [escapes_bind]
  refine (or_iff_left ?_).trans
    (escapes_mapM.trans (firstFault_congr (fun entry => escapes_buildControlCase) _))
  rintro ⟨cases, -, escapes⟩
  exact not_escapes_buildPackage _ escapes

/-- The compiler answers exactly when no hazard comes before every rejection. -/
theorem compileWorkbook_answers_iff (interpreter : Interpreter) (sheets : Sheets) :
    (∃ receipt, compileWorkbook interpreter sheets = .ok receipt) ↔
      ¬WorkbookHazard interpreter sheets := by
  rw [← escapes_mapWorkbook]
  unfold compileWorkbook
  cases mapWorkbook interpreter sheets with
  | ok package => exact iff_of_true ⟨_, rfl⟩ (not_escapes_ok _)
  | error failure =>
    cases failure with
    | rejected error => exact iff_of_true ⟨_, rfl⟩ (not_escapes_rejected _)
    | escaped exception =>
      refine iff_of_false ?_ (not_not.mpr (escapes_escaped _))
      rintro ⟨receipt, same⟩
      cases same

/-- Not every workbook is answered: an identifier with a blank is refused by the schema of an input,
whose exception is not caught. -/
theorem compileWorkbook_escapes :
    ¬∀ (interpreter : Interpreter) (sheets : Sheets),
      ∃ receipt, compileWorkbook interpreter sheets = .ok receipt := by
  intro always
  obtain ⟨receipt, answered⟩ := always asciiInterpreter { roofWorkbook "20" with
    inputs := [textRow [("id", "roof age"), ("name", "Roof age"), ("data_type", "INTEGER")]] }
  have escapes : (compileWorkbook asciiInterpreter { roofWorkbook "20" with
      inputs := [textRow [("id", "roof age"), ("name", "Roof age"), ("data_type", "INTEGER")]] }).isOk =
      false := by decide +kernel
  rw [answered] at escapes
  cases escapes

end Sheets

end RateGuard
