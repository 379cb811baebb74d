import RateGuard.Ipir.Coverage
import RateGuard.Oracle.TableLookup

/-!
# What a rate table declares

A reference reading of a lookup, in which every declared field counts: inclusion flags,
priorities, the default value. The lookup reads brackets with both ends included and
ignores the other fields, so the two agree exactly where that makes no difference.
-/

open DecimalFloat

namespace RateGuard

/-- Which priority wins among rows that hold one key. -/
inductive Precedence where
  | lowest | highest

/-- Whether a priority wins against another or is the same. -/
def Precedence.admits (precedence : Precedence) (first second : Int) : Bool :=
  match precedence with
  | .lowest => first ≤ second
  | .highest => second ≤ first

/-- Place of the number that a value reads as. -/
def Value.place? (value : Value) : Option Line :=
  match value.toDecimal with
  | .ok (.finite negative coefficient exponent) =>
    some (Decimal.finite negative coefficient exponent).place
  | .ok (.infinity negative) => some (Decimal.infinity negative).place
  | .ok (.nan _) | .error _ => none

/-- Whether a declared bracket holds a place, by its bounds and their inclusion. -/
def RangeMatch.holdsPlace (bracket : RangeMatch) (place : Line) : Bool :=
  (bracket.minimum.all fun minimum => minimum.toDecimal.place < place ||
    (minimum.toDecimal.place = place && bracket.includeMinimum)) &&
  bracket.maximum.all fun maximum => place < maximum.toDecimal.place ||
    (place = maximum.toDecimal.place && bracket.includeMaximum)

/-- Whether a place lies between the bounds of a bracket or on one of them. -/
def RangeMatch.reachesPlace (bracket : RangeMatch) (place : Line) : Bool :=
  (bracket.minimum.all fun minimum => minimum.toDecimal.place ≤ place) &&
    bracket.maximum.all fun maximum => place ≤ maximum.toDecimal.place

/-- Whether a declared literal is a value: numbers by their place, booleans as booleans, all others
by their trimmed text. -/
def Literal.equals (key : Literal) (value : Value) : Bool :=
  match key, value with
  | .bool declared, .bool given => declared == given
  | .bool _, .int _ | .bool _, .decimal _ => false
  | .int _, .bool _ | .decimal _, .bool _ => false
  | .int declared, .int _ | .int declared, .decimal _ =>
    value.place? = some (Decimal.ofInt declared).place
  | .decimal declared, .int _ | .decimal declared, .decimal _ =>
    value.place? = some declared.toDecimal.place
  | key, value => Text.strip value.text == Text.strip key.toValue.text

/-- Whether a key of a dimension contains a value. -/
def keyContains (dimension : TableDimension) (key : RowMatch) (value : Option Value) : Bool :=
  match value, dimension.lookupType, key with
  | some value, .exact, .exact literal => literal.equals value
  | some value, .range, .range bracket => value.place?.any bracket.holdsPlace
  | _, _, _ => false

/-- Whether a key of a dimension contains a value or has it at an end that it leaves out. -/
def keyReaches (dimension : TableDimension) (key : RowMatch) (value : Option Value) : Bool :=
  match value, dimension.lookupType, key with
  | some value, .exact, .exact literal => literal.equals value
  | some value, .range, .range bracket => value.place?.any bracket.reachesPlace
  | _, _, _ => false

/-- Whether a value can be compared with a literal: no boolean and no signaling value among
numbers. -/
def Literal.comparable (key : Literal) (value : Value) : Bool :=
  match key, value with
  | .bool _, .int _ | .bool _, .decimal _ | .bool _, .bool _ => false
  | .int _, .bool _ | .decimal _, .bool _ => false
  | .int _, .decimal (.nan true) | .decimal _, .decimal (.nan true) => false
  | _, _ => true

/-- Whether a value can be compared with the key of a dimension. -/
def keyComparable (dimension : TableDimension) (key : RowMatch) (value : Option Value) : Bool :=
  match value, dimension.lookupType, key with
  | some value, .exact, .exact literal => literal.comparable value
  | some value, .range, .range _ => value.place?.isSome
  | _, _, _ => true

/-- Whether a row contains the looked-up values on every dimension. -/
def rowContains (lookup : String → Option Value) : List TableDimension → List RowMatch → Bool
  | dimension :: dimensions, key :: keys =>
    keyContains dimension key (lookup dimension.inputRef) && rowContains lookup dimensions keys
  | _, _ => true

/-- Whether a row contains the looked-up values or has them at ends that it leaves out. -/
def rowReaches (lookup : String → Option Value) : List TableDimension → List RowMatch → Bool
  | dimension :: dimensions, key :: keys =>
    keyReaches dimension key (lookup dimension.inputRef) && rowReaches lookup dimensions keys
  | _, _ => true

/-- Whether the looked-up values can be compared with a row up to the first key that they miss. -/
def rowComparable (lookup : String → Option Value) : List TableDimension → List RowMatch → Bool
  | dimension :: dimensions, key :: keys =>
    keyComparable dimension key (lookup dimension.inputRef) &&
      (!keyReaches dimension key (lookup dimension.inputRef) ||
        rowComparable lookup dimensions keys)
  | _, _ => true

/-- Rows that contain the looked-up values. -/
def containedRows (table : RateTable) (lookup : String → Option Value) : List TableRow :=
  table.rows.filter fun row => rowContains lookup table.dimensions row.rowMatches

/-- Rows that have the looked-up values at ends that they leave out. -/
def excludedRows (table : RateTable) (lookup : String → Option Value) : List TableRow :=
  table.rows.filter fun row => rowReaches lookup table.dimensions row.rowMatches &&
    !rowContains lookup table.dimensions row.rowMatches

/-- Whether rows all declare priorities and no two the same. -/
def distinctPriorities (rows : List TableRow) : Bool :=
  (rows.all (·.priority.isSome)) && decide (rows.map (·.priority)).Nodup

/-- Row whose priority wins. -/
def winner (precedence : Precedence) (rows : List TableRow) : Option TableRow :=
  rows.find? fun row => rows.all fun other =>
    match row.priority, other.priority with
    | some first, some second => precedence.admits first second
    | _, _ => false

/-- What a lookup is declared to give. -/
inductive Answer where
  /-- A factor. -/
  | factor (value : FiniteDecimal)
  /-- The error of a failed lookup. -/
  | failed
  deriving DecidableEq

/-- The declared answer among the rows that contain the values: the value of the only one, of the winner
among several, the default where there is none, else the error. -/
def RateTable.answerAmong (table : RateTable) (precedence : Precedence) : List TableRow → Answer
  | [] => table.defaultValue.elim .failed .factor
  | [row] => .factor row.value
  | first :: second :: rest =>
    if distinctPriorities (first :: second :: rest) then
      (winner precedence (first :: second :: rest)).elim .failed fun row => .factor row.value
    else .failed

/-- The declared answer of a table. -/
def declaredAnswer (precedence : Precedence) (table : RateTable)
    (lookup : String → Option Value) : Answer :=
  table.answerAmong precedence (containedRows table lookup)

/-- Whether a failure is that of a failed lookup. -/
def Failure.isTableLookup : Failure → Bool
  | oracle error => error.kind == .tableLookup
  | _ => false

/-- Whether a lookup gives a declared answer. -/
def Answer.GivenBy (answer : Answer) (result : Except Failure (Decimal × TableRow)) : Prop :=
  match answer, result with
  | factor value, .ok (found, _) => Decimal.Same value.toDecimal found
  | failed, .error failure => failure.isTableLookup
  | factor _, .error _ | failed, .ok _ => False

/-- A value with a place reads as a defined decimal there, and any other raises or is undefined. -/
theorem Value.place?_cases (value : Value) :
    (∃ number place, value.place? = some place ∧ value.toDecimal = .ok number ∧ number.Defined ∧
      number.place = place) ∨
    value.place? = none ∧ ((∃ signal, value.toDecimal = .error signal) ∨
      ∃ signaling, value.toDecimal = .ok (.nan signaling)) := by
  unfold Value.place?
  cases read : value.toDecimal with
  | error signal => exact .inr ⟨rfl, .inl ⟨signal, rfl⟩⟩
  | ok number =>
    cases number with
    | finite negative coefficient exponent =>
      exact .inl ⟨_, _, rfl, rfl, fun _ same => Decimal.noConfusion same, rfl⟩
    | infinity negative => exact .inl ⟨_, _, rfl, rfl, fun _ same => Decimal.noConfusion same, rfl⟩
    | nan signaling => exact .inr ⟨rfl, .inr ⟨signaling, rfl⟩⟩

/-- A defined number compares with a bracket by its place. -/
theorem matchesRange_of_place {bracket : RangeMatch} {value : Value} {place : Line}
    (placed : value.place? = some place) :
    matchesRange bracket value = .ok (bracket.reachesPlace place) := by
  rcases value.place?_cases with ⟨number, other, found, read, defined, rfl⟩ | ⟨absent, -⟩
  · obtain rfl := Option.some.inj (placed.symm.trans found)
    have above : ∀ maximum : Bound, maximum.toDecimal.lt number =
        .ok (decide (maximum.toDecimal.place < number.place)) :=
      fun maximum => lt_eq_place maximum.defined defined
    have below : ∀ minimum : Bound, number.lt minimum.toDecimal =
        .ok (decide (number.place < minimum.toDecimal.place)) :=
      fun minimum => lt_eq_place defined minimum.defined
    unfold matchesRange RangeMatch.reachesPlace
    rw [read]
    cases bracket.minimum with
    | none =>
      cases bracket.maximum with
      | none => rfl
      | some maximum =>
        simp [raising, above, bind, Except.bind, pure, Except.pure, ← decide_not]
    | some minimum =>
      by_cases early : number.place < minimum.toDecimal.place
      · simp [raising, below, early, bind, Except.bind, pure, Except.pure]
      · cases bracket.maximum with
        | none =>
          simp [raising, below, early, bind, Except.bind, pure, Except.pure, not_lt.mp early]
        | some maximum =>
          simp [raising, below, above, early, bind, Except.bind, pure, Except.pure,
            not_lt.mp early, ← decide_not]
  · rw [absent] at placed
    cases placed

/-- A value without a place raises against every bracket. -/
theorem matchesRange_of_unplaced {bracket : RangeMatch} {value : Value}
    (unplaced : value.place? = none) : ∃ signal, matchesRange bracket value =
      .error (.decimal signal) := by
  rcases value.place?_cases with ⟨_, _, found, -⟩ | ⟨-, ⟨signal, raised⟩ | ⟨signaling, read⟩⟩
  · rw [unplaced] at found
    cases found
  · refine ⟨signal, ?_⟩
    unfold matchesRange
    rw [raised]
    rfl
  · refine ⟨.invalidOperation, ?_⟩
    have bounded := bracket.bounded
    have above : ∀ maximum : Bound, maximum.toDecimal.lt (.nan signaling) =
        .error .invalidOperation := by
      intro maximum
      cases maximum <;> rfl
    unfold matchesRange
    rw [read]
    cases low : bracket.minimum with
    | some minimum => rfl
    | none =>
      cases high : bracket.maximum with
      | some maximum => simp [raising, above, bind, Except.bind]
      | none =>
        rw [low, high] at bounded
        cases bounded <;> contradiction

/-- Numbers other than signaling ones equal a declared number at its place. -/
theorem eq_declared {declared given : Decimal} {value : Value} (defined : declared.Defined)
    (quiet : given ≠ .nan true) (read : value.toDecimal = .ok given) :
    given.eq declared = .ok (decide (value.place? = some declared.place)) := by
  unfold Value.place?
  rw [read]
  cases given with
  | finite negative coefficient exponent =>
    rw [eq_eq_place (fun _ same => Decimal.noConfusion same) defined]
    simp
  | infinity negative =>
    rw [eq_eq_place (fun _ same => Decimal.noConfusion same) defined]
    simp
  | nan signaling =>
    cases signaling with
    | true => exact absurd rfl quiet
    | false =>
      cases declared with
      | nan signaling => exact absurd rfl (defined signaling)
      | finite negative coefficient exponent => rfl
      | infinity negative => rfl

/-- Values that can be compared with a literal match it when they equal it. -/
theorem matchesExact_of_comparable {key : Literal} {value : Value}
    (comparable : key.comparable value = true) :
    matchesExact key value = .ok (key.equals value) := by
  have number : ∀ {declared given : Decimal}, declared.Defined → given ≠ .nan true →
      key.toValue.toDecimal = .ok declared → value.toDecimal = .ok given →
      (value.isNumeric && key.toValue.isNumeric) = true →
      matchesExact key value = .ok (decide (value.place? = some declared.place)) := by
    intro declared given defined quiet keyRead read numeric
    unfold matchesExact
    rw [if_pos numeric, keyRead, read]
    exact congrArg raising (eq_declared defined quiet read)
  cases key with
  | int declared =>
    cases value with
    | int given =>
      exact number (Decimal.ofInt_defined declared) (fun same => by cases same) rfl rfl rfl
    | decimal given =>
      have quiet : given ≠ .nan true := by
        rintro rfl
        cases comparable
      exact number (Decimal.ofInt_defined declared) quiet rfl rfl rfl
    | str given => rfl
    | bool given => cases comparable
    | date given => rfl
  | decimal declared =>
    cases value with
    | int given => exact number declared.defined (fun same => by cases same) rfl rfl rfl
    | decimal given =>
      have quiet : given ≠ .nan true := by
        rintro rfl
        cases comparable
      exact number declared.defined quiet rfl rfl rfl
    | str given => rfl
    | bool given => cases comparable
    | date given => rfl
  | str declared => cases value <;> rfl
  | bool declared =>
    cases value with
    | int given => cases comparable
    | decimal given => cases comparable
    | str given => rfl
    | bool given => cases comparable
    | date given => rfl

/-- Values that cannot be compared with a literal raise. -/
theorem matchesExact_of_incomparable {key : Literal} {value : Value}
    (incomparable : key.comparable value = false) :
    ∃ signal, matchesExact key value = .error (.decimal signal) := by
  cases key with
  | int declared =>
    cases value with
    | decimal given =>
      cases given with
      | nan signaling =>
        cases signaling with
        | true => exact ⟨_, rfl⟩
        | false => cases incomparable
      | finite negative coefficient exponent => cases incomparable
      | infinity negative => cases incomparable
    | int given => cases incomparable
    | str given => cases incomparable
    | bool given => exact ⟨_, rfl⟩
    | date given => cases incomparable
  | decimal declared =>
    cases value with
    | decimal given =>
      cases given with
      | nan signaling =>
        cases signaling with
        | true => exact ⟨_, rfl⟩
        | false => cases incomparable
      | finite negative coefficient exponent => cases incomparable
      | infinity negative => cases incomparable
    | int given => cases incomparable
    | str given => cases incomparable
    | bool given => exact ⟨_, rfl⟩
    | date given => cases incomparable
  | str declared => cases value <;> cases incomparable
  | bool declared =>
    cases value with
    | str given => cases incomparable
    | date given => cases incomparable
    | int given => exact ⟨_, rfl⟩
    | decimal given => exact ⟨_, rfl⟩
    | bool given => exact ⟨_, rfl⟩

/-- A key that can be compared matches the values it reaches, and any other raises. -/
theorem keyMatches_eq (dimension : TableDimension) (key : RowMatch) (value : Option Value) :
    (keyComparable dimension key value = true →
      keyMatches dimension key value = .ok (keyReaches dimension key value)) ∧
    (keyComparable dimension key value = false →
      ∃ signal, keyMatches dimension key value = .error (.decimal signal)) := by
  obtain ⟨inputRef, lookupType⟩ := dimension
  cases value with
  | none => exact ⟨fun _ => rfl, fun incomparable => by cases incomparable⟩
  | some value =>
    cases lookupType with
    | exact =>
      cases key with
      | exact literal => exact ⟨matchesExact_of_comparable, matchesExact_of_incomparable⟩
      | range bracket => exact ⟨fun _ => rfl, fun incomparable => by cases incomparable⟩
    | range =>
      cases key with
      | exact literal => exact ⟨fun _ => rfl, fun incomparable => by cases incomparable⟩
      | range bracket =>
        constructor
        · intro comparable
          obtain ⟨place, placed⟩ := Option.isSome_iff_exists.mp comparable
          refine (matchesRange_of_place placed).trans ?_
          simp [keyReaches, placed]
        · intro incomparable
          exact matchesRange_of_unplaced (Option.isNone_iff_eq_none.mp (by
            simpa [keyComparable] using incomparable))

/-- A row that can be compared matches the values it reaches, and any other raises. -/
theorem rowMatches_eq (lookup : String → Option Value) (dimensions : List TableDimension)
    (keys : List RowMatch) :
    (rowComparable lookup dimensions keys = true →
      rowMatches lookup dimensions keys = .ok (rowReaches lookup dimensions keys)) ∧
    (rowComparable lookup dimensions keys = false →
      ∃ signal, rowMatches lookup dimensions keys = .error (.decimal signal)) := by
  induction dimensions generalizing keys with
  | nil => exact ⟨fun _ => rfl, fun incomparable => by cases incomparable⟩
  | cons dimension dimensions ih =>
    cases keys with
    | nil => exact ⟨fun _ => rfl, fun incomparable => by cases incomparable⟩
    | cons key keys =>
      obtain ⟨reached, raised⟩ := keyMatches_eq dimension key (lookup dimension.inputRef)
      unfold rowComparable rowMatches rowReaches
      cases comparable : keyComparable dimension key (lookup dimension.inputRef) with
      | false =>
        obtain ⟨signal, raises⟩ := raised comparable
        rw [raises]
        exact ⟨fun all => (by cases all), fun _ => ⟨signal, rfl⟩⟩
      | true =>
        rw [reached comparable]
        cases keyReaches dimension key (lookup dimension.inputRef) with
        | false => exact ⟨fun _ => rfl, fun incomparable => by cases incomparable⟩
        | true => simpa [bind, Except.bind] using ih keys

/-- The matching rows are those that reach the values, as long as every row can be compared. -/
theorem matchingRows_eq (lookup : String → Option Value) (dimensions : List TableDimension)
    (rows : List TableRow) :
    ((∀ row ∈ rows, rowComparable lookup dimensions row.rowMatches) →
      matchingRows lookup dimensions rows =
        .ok (rows.filter fun row => rowReaches lookup dimensions row.rowMatches)) ∧
    ((¬∀ row ∈ rows, rowComparable lookup dimensions row.rowMatches) →
      ∃ signal, matchingRows lookup dimensions rows = .error (.decimal signal)) := by
  induction rows with
  | nil => exact ⟨fun _ => rfl, fun some => absurd (fun _ => fun none => by cases none) some⟩
  | cons row rest ih =>
    obtain ⟨reached, raised⟩ := rowMatches_eq lookup dimensions row.rowMatches
    simp only [List.forall_mem_cons]
    unfold matchingRows
    cases comparable : rowComparable lookup dimensions row.rowMatches with
    | false =>
      obtain ⟨signal, raises⟩ := raised comparable
      rw [raises]
      exact ⟨fun all => absurd all.1 Bool.false_ne_true, fun _ => ⟨signal, rfl⟩⟩
    | true =>
      rw [reached comparable]
      constructor
      · rintro ⟨-, others⟩
        rw [ih.1 others]
        cases matched : rowReaches lookup dimensions row.rowMatches with
        | false => simp [matched, bind, Except.bind, pure, Except.pure]
        | true => simp [matched, bind, Except.bind, pure, Except.pure]
      · intro fails
        obtain ⟨signal, raises⟩ := ih.2 fun others => fails ⟨rfl, others⟩
        exact ⟨signal, by rw [raises]; rfl⟩

/-- A bracket that holds a place reaches it. -/
theorem RangeMatch.reaches_of_holds {bracket : RangeMatch} {place : Line}
    (holds : bracket.holdsPlace place = true) : bracket.reachesPlace place = true := by
  unfold RangeMatch.holdsPlace at holds
  unfold RangeMatch.reachesPlace
  obtain ⟨lower, upper⟩ := Bool.and_eq_true_iff.mp holds
  refine Bool.and_eq_true_iff.mpr ⟨?_, ?_⟩
  · cases low : bracket.minimum with
    | none => rfl
    | some minimum =>
      simp only [low, Option.all_some, Bool.or_eq_true, Bool.and_eq_true, decide_eq_true_eq]
        at lower ⊢
      rcases lower with above | ⟨same, -⟩
      · exact above.le
      · exact same.le
  · cases high : bracket.maximum with
    | none => rfl
    | some maximum =>
      simp only [high, Option.all_some, Bool.or_eq_true, Bool.and_eq_true, decide_eq_true_eq]
        at upper ⊢
      rcases upper with below | ⟨same, -⟩
      · exact below.le
      · exact same.le

/-- A key that contains a value reaches it. -/
theorem keyReaches_of_contains {dimension : TableDimension} {key : RowMatch}
    {value : Option Value} (contains : keyContains dimension key value = true) :
    keyReaches dimension key value = true := by
  obtain ⟨inputRef, lookupType⟩ := dimension
  cases value with
  | none => cases contains
  | some value =>
    cases lookupType with
    | exact =>
      cases key with
      | exact literal => exact contains
      | range bracket => cases contains
    | range =>
      cases key with
      | exact literal => cases contains
      | range bracket =>
        obtain ⟨place, placed, holds⟩ := (Option.any_eq_true _ _).mp contains
        exact (Option.any_eq_true _ _).mpr ⟨place, placed, RangeMatch.reaches_of_holds holds⟩

/-- A row that contains the values reaches them. -/
theorem rowReaches_of_contains {lookup : String → Option Value} {dimensions : List TableDimension}
    {keys : List RowMatch} (contains : rowContains lookup dimensions keys = true) :
    rowReaches lookup dimensions keys = true := by
  induction dimensions generalizing keys with
  | nil => rfl
  | cons dimension dimensions ih =>
    cases keys with
    | nil => rfl
    | cons key keys =>
      unfold rowContains at contains
      unfold rowReaches
      obtain ⟨here, there⟩ := Bool.and_eq_true_iff.mp contains
      exact Bool.and_eq_true_iff.mpr ⟨keyReaches_of_contains here, ih there⟩

/-- Rows that reach the looked-up values. -/
def reachedRows (table : RateTable) (lookup : String → Option Value) : List TableRow :=
  table.rows.filter fun row => rowReaches lookup table.dimensions row.rowMatches

/-- The reached rows are the rows that contain the values and those that exclude them. -/
theorem reachedRows_split (table : RateTable) (lookup : String → Option Value) :
    containedRows table lookup = (reachedRows table lookup).filter
      (fun row => rowContains lookup table.dimensions row.rowMatches) ∧
    excludedRows table lookup = (reachedRows table lookup).filter
      (fun row => !rowContains lookup table.dimensions row.rowMatches) := by
  unfold containedRows excludedRows reachedRows
  rw [List.filter_filter, List.filter_filter]
  constructor
  · refine List.filter_congr fun row _ => ?_
    cases contains : rowContains lookup table.dimensions row.rowMatches with
    | false => rfl
    | true => simp [rowReaches_of_contains contains]
  · refine List.filter_congr fun row _ => ?_
    rw [Bool.and_comm]

/-- Whether inclusion flags, priorities and default make no difference among rows that contain and rows
that exclude the values: no excluded row stands beside the only row or in place of the default,
no default or the one that the lookup falls back to is declared, and several rows have no winner. -/
def RateTable.Immaterial (table : RateTable) : List TableRow → List TableRow → Prop
  | [], [] =>
    if 1 < table.dimensions.length then
      ∃ value ∈ table.defaultValue, Decimal.Same value.toDecimal neutralFactor.toDecimal
    else table.defaultValue = none
  | [], [row] => ∃ value ∈ table.defaultValue, Decimal.Same value.toDecimal row.value.toDecimal
  | [], _ :: _ :: _ => table.defaultValue = none
  | [_], excluded => excluded = []
  | first :: second :: rest, _ => distinctPriorities (first :: second :: rest) = false

/-- Whether the values can be compared with every row and the fields that a lookup passes over make no
difference. -/
def DeclaredAlike (table : RateTable) (lookup : String → Option Value) : Prop :=
  (∀ row ∈ table.rows, rowComparable lookup table.dimensions row.rowMatches) ∧
    table.Immaterial (containedRows table lookup) (excludedRows table lookup)

/-- Rows with distinct priorities have a winner. -/
theorem winner_exists (precedence : Precedence) {first : TableRow} {rest : List TableRow}
    (distinct : distinctPriorities (first :: rest) = true) :
    ∃ row, winner precedence (first :: rest) = some row := by
  have declared : ∀ row ∈ first :: rest, row.priority.isSome :=
    List.all_eq_true.mp (Bool.and_eq_true_iff.mp distinct).1
  have finite : {row | row ∈ first :: rest}.Finite := List.finite_toSet _
  have present : {row | row ∈ first :: rest}.Nonempty := ⟨first, List.mem_cons_self⟩
  have best : ∃ row ∈ first :: rest, ∀ other ∈ first :: rest,
      precedence.admits (row.priority.getD 0) (other.priority.getD 0) = true := by
    cases precedence with
    | lowest =>
      obtain ⟨row, member, least⟩ :=
        Set.exists_min_image _ (fun row : TableRow => row.priority.getD 0) finite present
      exact ⟨row, member, fun other found => decide_eq_true (least other found)⟩
    | highest =>
      obtain ⟨row, member, most⟩ :=
        Set.exists_max_image _ (fun row : TableRow => row.priority.getD 0) finite present
      exact ⟨row, member, fun other found => decide_eq_true (most other found)⟩
  obtain ⟨row, member, wins⟩ := best
  refine Option.isSome_iff_exists.mp (List.find?_isSome.mpr ⟨row, member, ?_⟩)
  refine List.all_eq_true.mpr fun other found => ?_
  obtain ⟨own, ownDeclared⟩ := Option.isSome_iff_exists.mp (declared row member)
  obtain ⟨its, itsDeclared⟩ := Option.isSome_iff_exists.mp (declared other found)
  have order := wins other found
  rw [ownDeclared, itsDeclared] at order ⊢
  exact order

/-- What a lookup gives for the rows that reach the values. -/
def RateTable.outcomeAmong (table : RateTable) (lookup : String → Option Value) :
    List TableRow → Except Failure (Decimal × TableRow)
  | [] =>
    if 1 < table.dimensions.length then
      .ok (neutralFactor.toDecimal, ⟨[], neutralFactor, none⟩)
    else .error (.oracle (.noMatchingRow table.id (dimensionValues table lookup)))
  | [row] => .ok (row.value.toDecimal, row)
  | first :: second :: rest => .error (.oracle (.ambiguousRows table.id
      (first :: second :: rest).length (dimensionValues table lookup)))

/-- A lookup whose rows can all be compared is decided by the rows that reach the values. -/
theorem lookupTable_comparable {table : RateTable} {lookup : String → Option Value}
    (comparable : ∀ row ∈ table.rows, rowComparable lookup table.dimensions row.rowMatches) :
    lookupTable table lookup = table.outcomeAmong lookup (reachedRows table lookup) := by
  unfold lookupTable
  rw [(matchingRows_eq lookup table.dimensions table.rows).1 comparable]
  unfold reachedRows
  generalize table.rows.filter (fun row => rowReaches lookup table.dimensions row.rowMatches) =
    reached
  rcases reached with _ | ⟨first, _ | ⟨second, rest⟩⟩
  · rfl
  · rfl
  · rfl

/-- Without a row that reaches the values, an undeclared default is an error for one dimension, and a
declared one is the neutral factor for two. -/
theorem given_of_none {precedence : Precedence} {table : RateTable}
    {lookup : String → Option Value} :
    (table.answerAmong precedence []).GivenBy (table.outcomeAmong lookup []) ↔
      table.Immaterial [] [] := by
  unfold RateTable.answerAmong RateTable.outcomeAmong RateTable.Immaterial
  by_cases two : 1 < table.dimensions.length
  · rw [if_pos two, if_pos two]
    cases table.defaultValue with
    | none => simp [Answer.GivenBy]
    | some value => simp [Answer.GivenBy]
  · rw [if_neg two, if_neg two]
    cases table.defaultValue with
    | none => simp [Answer.GivenBy, Failure.isTableLookup, OracleError.kind]
    | some value => simp [Answer.GivenBy]

/-- Several rows that reach the values are an error, which no answer with a factor is. -/
theorem given_of_several {precedence : Precedence} {table : RateTable}
    {lookup : String → Option Value} {first second : TableRow}
    {rest contained excluded : List TableRow}
    (counts : 2 ≤ contained.length + excluded.length) :
    (table.answerAmong precedence contained).GivenBy
        (table.outcomeAmong lookup (first :: second :: rest)) ↔
      table.Immaterial contained excluded := by
  have failure : ∀ matching, (Failure.oracle (.ambiguousRows table.id matching
      (dimensionValues table lookup))).isTableLookup = true := fun _ => rfl
  unfold RateTable.outcomeAmong
  rcases contained with _ | ⟨one, _ | ⟨other, others⟩⟩
  · rcases excluded with _ | ⟨one, _ | ⟨other, others⟩⟩
    · simp at counts
    · simp at counts
    · unfold RateTable.answerAmong RateTable.Immaterial
      cases table.defaultValue with
      | none => simp [Answer.GivenBy, failure]
      | some value => simp [Answer.GivenBy]
  · cases excluded with
    | nil => simp at counts
    | cons one others => simp [RateTable.answerAmong, RateTable.Immaterial, Answer.GivenBy]
  · unfold RateTable.answerAmong RateTable.Immaterial
    cases distinct : distinctPriorities (one :: other :: others) with
    | false => simp [distinct, Answer.GivenBy, failure]
    | true =>
      obtain ⟨row, wins⟩ := winner_exists precedence distinct
      simp [distinct, wins, Answer.GivenBy]

/-- A lookup gives the declared answer exactly where the values can be compared with every row and the
fields that it passes over make no difference. -/
theorem lookup_declared_iff (precedence : Precedence) (table : RateTable)
    (lookup : String → Option Value) :
    (declaredAnswer precedence table lookup).GivenBy (lookupTable table lookup) ↔
      DeclaredAlike table lookup := by
  unfold DeclaredAlike declaredAnswer
  by_cases comparable : ∀ row ∈ table.rows, rowComparable lookup table.dimensions row.rowMatches
  · rw [lookupTable_comparable comparable, and_iff_right comparable]
    obtain ⟨contained, excluded⟩ := reachedRows_split table lookup
    have counts := (reachedRows table lookup).length_eq_length_filter_add
      fun row => rowContains lookup table.dimensions row.rowMatches
    rw [← contained, ← excluded] at counts
    rcases reached : reachedRows table lookup with _ | ⟨first, _ | ⟨second, rest⟩⟩
    · rw [reached] at contained excluded
      rw [contained, excluded]
      exact given_of_none
    · rw [reached] at contained excluded
      cases contains : rowContains lookup table.dimensions first.rowMatches with
      | true =>
        simp only [List.filter_cons, contains, List.filter_nil, if_true, Bool.not_true,
          Bool.false_eq_true, if_false] at contained excluded
        rw [contained, excluded]
        simp [RateTable.answerAmong, RateTable.outcomeAmong, RateTable.Immaterial,
          Answer.GivenBy, Decimal.Same.refl]
      | false =>
        simp only [List.filter_cons, contains, List.filter_nil, if_true, Bool.not_false,
          Bool.false_eq_true, if_false] at contained excluded
        rw [contained, excluded]
        simp only [RateTable.answerAmong, RateTable.outcomeAmong,
          RateTable.Immaterial]
        cases table.defaultValue with
        | none => simp [Answer.GivenBy]
        | some value => simp [Answer.GivenBy]
    · rw [reached] at counts
      exact given_of_several (by simp only [List.length_cons] at counts; omega)
  · obtain ⟨signal, raised⟩ :=
      (matchingRows_eq lookup table.dimensions table.rows).2 comparable
    have failed : lookupTable table lookup = .error (.decimal signal) := by
      unfold lookupTable
      rw [raised]
      rfl
    rw [failed]
    refine ⟨fun given => ?_, fun alike => absurd alike.1 comparable⟩
    cases answer : table.answerAmong precedence (containedRows table lookup) with
    | factor value =>
      rw [answer] at given
      exact given.elim
    | failed =>
      rw [answer] at given
      exact absurd given Bool.false_ne_true

/-- A range of two integers without its upper end. -/
def halfOpenRange (low high : Int)
    (ordered : boundsOrdered (some (.int low)) (some (.int high))) : RangeMatch :=
  { integerRange low high ordered with includeMaximum := false }

/-- Factors of the ages below ten and from ten on. -/
def touchingTable : RateTable where
  id := "age_factors"
  dimensions := [⟨"building_age", .range⟩]
  rows := [⟨[.range (halfOpenRange 0 10 rfl)], ⟨false, 2, 0⟩, none⟩,
    ⟨[.range (integerRange 10 20 rfl)], ⟨false, 3, 0⟩, none⟩]
  effectivePeriod := none
  requiresTotalCoverage := true
  defaultValue := none
  dimensioned := .inl rfl
  keyed := by decide

/-- The declared answer is not given: the age of ten belongs to the second row only, and the lookup fails
because it reads both ends of the first one as included. -/
theorem lookup_not_declared :
    ¬∀ (precedence : Precedence) (table : RateTable) (lookup : String → Option Value),
      (declaredAnswer precedence table lookup).GivenBy (lookupTable table lookup) := by
  intro given
  have answer := given .lowest touchingTable fun _ => some (.int 10)
  have declared : declaredAnswer .lowest touchingTable (fun _ => some (.int 10)) =
      .factor ⟨false, 3, 0⟩ := by decide +kernel
  have failure : ∃ raised, lookupTable touchingTable (fun _ => some (.int 10)) = .error raised :=
    ⟨_, rfl⟩
  obtain ⟨raised, failed⟩ := failure
  rw [declared, failed] at answer
  exact answer

end RateGuard
