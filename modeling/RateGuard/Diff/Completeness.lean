import RateGuard.Diff.TableDiff
import RateGuard.Oracle.TableReference

/-!
# Completeness of the table comparison

Rows are compared through the texts of their keys, and looked up by their values. Where equal
texts come from equal keys, and a text is repeated in both tables or in neither, tables without
a difference are looked up alike.
-/

open DecimalFloat CalendarDate Outcome KeyedList

namespace RateGuard

/-- Kinds of exact keys that lookups tell apart. -/
inductive KeyKind where
  | number | text | boolean
  deriving DecidableEq

/-- Kind of an exact key. -/
def Literal.kind : Literal → KeyKind
  | .int _ | .decimal _ => .number
  | .str _ => .text
  | .bool _ => .boolean

/-- Bounds that are both absent or of one text. -/
def boundsAlike : Option Bound → Option Bound → Prop
  | none, none => True
  | some left, some right => left.toValue.toString = right.toValue.toString
  | none, some _ | some _, none => False

/-- Keys of one kind and one text. -/
def RowMatch.Alike : RowMatch → RowMatch → Prop
  | .exact left, .exact right =>
    left.kind = right.kind ∧ left.toValue.toString = right.toValue.toString
  | .range left, .range right =>
    boundsAlike left.minimum right.minimum ∧ boundsAlike left.maximum right.maximum
  | .exact _, .range _ | .range _, .exact _ => False

/-- Whether rows of one key text have, key by key, one kind and one text. -/
def TextsDetermine (left right : RateTable) : Prop :=
  ∀ row ∈ left.rows ++ right.rows, ∀ other ∈ left.rows ++ right.rows,
    formatMatchKey row = formatMatchKey other →
    List.Forall₂ RowMatch.Alike row.rowMatches other.rowMatches

/-- Whether several rows of a table have a key text. -/
def RateTable.Repeats (table : RateTable) (key : String) : Prop :=
  2 ≤ table.rows.countP fun row => formatMatchKey row == key

/-- Equal texts are equal lists of characters. -/
theorem text_of_toString {left right : Value} (same : left.toString = right.toString) :
    left.text = right.text := by
  have lists := congrArg String.toList same
  simpa [Value.toString] using lists

/-- Bounds of one text are one number. -/
theorem bound_toDecimal {left right : Bound}
    (same : left.toValue.toString = right.toValue.toString) : left.toDecimal = right.toDecimal := by
  have read : ∀ bound : Bound, bound.toValue.toDecimal = .ok bound.toDecimal ∧
      bound.toValue.isNumber = true := by
    intro bound
    cases bound <;> exact ⟨rfl, rfl⟩
  have number : left.toValue.toDecimal = right.toValue.toDecimal := by
    rw [toDecimal_eq_parse _ (.inl (read left).2), toDecimal_eq_parse _ (.inl (read right).2),
      text_of_toString same]
  rw [(read left).1, (read right).1] at number
  exact Except.ok.inj number

/-- Exact keys of one kind and one text match alike. -/
theorem matchesExact_alike {left right : Literal} (kind : left.kind = right.kind)
    (same : left.toValue.toString = right.toValue.toString) (value : Value) :
    matchesExact left value = matchesExact right value := by
  have text := text_of_toString same
  have numeric : left.toValue.isNumeric = right.toValue.isNumeric := by
    cases left <;> cases right <;> first | rfl | cases kind
  have number : left.toValue.toDecimal = right.toValue.toDecimal := by
    cases one : left.kind with
    | number =>
      have first : left.toValue.isNumber = true := by
        cases left <;> first | rfl | cases one
      have second : right.toValue.isNumber = true := by
        rw [one] at kind
        cases right <;> first | rfl | cases kind
      rw [toDecimal_eq_parse _ (.inl first), toDecimal_eq_parse _ (.inl second), text]
    | text =>
      have first : ∃ s, left.toValue = .str s := by
        cases left <;> first | exact ⟨_, rfl⟩ | cases one
      have second : ∃ s, right.toValue = .str s := by
        rw [one] at kind
        cases right <;> first | exact ⟨_, rfl⟩ | cases kind
      rw [toDecimal_eq_parse _ (.inr first), toDecimal_eq_parse _ (.inr second), text]
    | boolean =>
      rw [one] at kind
      cases left with
      | bool first =>
        cases right with
        | bool second => cases first <;> cases second <;> simp_all [Literal.toValue, Value.text]
        | int second => cases kind
        | decimal second => cases kind
        | str second => cases kind
      | int first => cases one
      | decimal first => cases one
      | str first => cases one
  unfold matchesExact
  rw [text, numeric, number]

/-- Optional bounds that are alike are one number or absent. -/
theorem boundsAlike_toDecimal {left right : Option Bound} (alike : boundsAlike left right) :
    left.map Bound.toDecimal = right.map Bound.toDecimal := by
  cases left with
  | none =>
    cases right with
    | none => rfl
    | some second => cases alike
  | some first =>
    cases right with
    | none => cases alike
    | some second => exact congrArg some (bound_toDecimal alike)

/-- Brackets of equal bounds match alike. -/
theorem matchesRange_bounds {left right : RangeMatch}
    (lower : left.minimum.map Bound.toDecimal = right.minimum.map Bound.toDecimal)
    (upper : left.maximum.map Bound.toDecimal = right.maximum.map Bound.toDecimal)
    (value : Value) : matchesRange left value = matchesRange right value := by
  obtain ⟨low, high, _, _, _, _⟩ := left
  obtain ⟨low', high', _, _, _, _⟩ := right
  dsimp only at lower upper
  cases low <;> cases low' <;>
    simp only [Option.map_none, Option.map_some, Option.some.injEq, reduceCtorEq] at lower <;>
    cases high <;> cases high' <;>
    simp only [Option.map_none, Option.map_some, Option.some.injEq, reduceCtorEq] at upper <;>
    simp [matchesRange, *]

/-- Keys of one kind and one text match alike. -/
theorem keyMatches_alike {left right : RowMatch} (alike : left.Alike right)
    (dimension : TableDimension) (value : Option Value) :
    keyMatches dimension left value = keyMatches dimension right value := by
  cases left with
  | exact first =>
    cases right with
    | exact second =>
      obtain ⟨kind, same⟩ := alike
      obtain ⟨inputRef, lookupType⟩ := dimension
      cases value with
      | none => rfl
      | some value =>
        cases lookupType with
        | exact => exact matchesExact_alike kind same value
        | range => rfl
    | range second => cases alike
  | range first =>
    cases right with
    | exact second => cases alike
    | range second =>
      obtain ⟨minimum, maximum⟩ := alike
      obtain ⟨inputRef, lookupType⟩ := dimension
      cases value with
      | none => rfl
      | some value =>
        cases lookupType with
        | exact => rfl
        | range =>
          exact matchesRange_bounds (boundsAlike_toDecimal minimum)
            (boundsAlike_toDecimal maximum) value

/-- Rows whose keys are alike match alike. -/
theorem rowMatches_alike (lookup : String → Option Value) (dimensions : List TableDimension)
    {keys others : List RowMatch} (alike : List.Forall₂ RowMatch.Alike keys others) :
    rowMatches lookup dimensions keys = rowMatches lookup dimensions others := by
  induction dimensions generalizing keys others with
  | nil => simp only [rowMatches]
  | cons dimension rest ih =>
    cases alike with
    | nil => rfl
    | cons head tail =>
      unfold rowMatches
      rw [keyMatches_alike head, ih tail]

/-- Tables without a difference have the same key texts. -/
theorem key_of_none {left right : RateTable} (none : compareRateTables left right = [])
    {key : String} : key ∈ left.rows.map formatMatchKey ↔ key ∈ right.rows.map formatMatchKey := by
  have related := compareRateTables_eq_nil none key
  constructor
  · intro keyed
    by_contra absent
    rw [lastWith_eq_none.mpr absent] at related
    cases found : lastWith formatMatchKey left.rows key with
    | none => exact lastWith_eq_none.mp found keyed
    | some row =>
      rw [found] at related
      cases related
  · intro keyed
    by_contra absent
    rw [lastWith_eq_none.mpr absent] at related
    cases found : lastWith formatMatchKey right.rows key with
    | none => exact lastWith_eq_none.mp found keyed
    | some row =>
      rw [found] at related
      cases related

/-- A list of two elements or more has a first and a second one. -/
theorem exists_two {α : Type} {values : List α} (several : 2 ≤ values.length) :
    ∃ first second rest, values = first :: second :: rest := by
  cases values with
  | nil => exact absurd several (by simp)
  | cons first tail =>
    cases tail with
    | nil => exact absurd several (by simp)
    | cons second rest => exact ⟨first, second, rest, rfl⟩

/-- Several rows that match in one table match several in the other, when a row of the first
stands for rows of the second: each text of either is one of the other, rows of one text match
alike, and repeated texts are repeated. -/
theorem matched_several {left right : RateTable} (matched : TableRow → Bool)
    (keyed : ∀ key, key ∈ left.rows.map formatMatchKey → key ∈ right.rows.map formatMatchKey)
    (alike : ∀ row ∈ left.rows, ∀ other ∈ right.rows, formatMatchKey row = formatMatchKey other →
      matched row = matched other)
    (repeats : ∀ key, left.Repeats key → right.Repeats key)
    (several : 2 ≤ (left.rows.filter matched).length) :
    2 ≤ (right.rows.filter matched).length := by
  obtain ⟨first, second, rest, split⟩ := exists_two several
  have inFirst : first ∈ left.rows.filter matched := by
    rw [split]
    exact List.mem_cons_self
  have inSecond : second ∈ left.rows.filter matched := by
    rw [split]
    exact List.mem_cons_of_mem first List.mem_cons_self
  obtain ⟨firstMember, firstMatched⟩ := List.mem_filter.mp inFirst
  obtain ⟨secondMember, secondMatched⟩ := List.mem_filter.mp inSecond
  have counterpart : ∀ row ∈ left.rows, matched row = true →
      ∃ other ∈ right.rows.filter matched, formatMatchKey other = formatMatchKey row := by
    intro row member holds
    obtain ⟨other, inside, same⟩ := List.mem_map.mp (keyed _ (List.mem_map_of_mem member))
    exact ⟨other, List.mem_filter.mpr ⟨inside, (alike row member other inside same.symm).symm.trans
      holds⟩, same⟩
  by_cases sameKey : formatMatchKey first = formatMatchKey second
  · have repeated : left.Repeats (formatMatchKey first) := by
      unfold RateTable.Repeats
      calc
        2 ≤ (first :: second :: rest).countP
            (fun row => formatMatchKey row == formatMatchKey first) := by
          simp only [List.countP_cons, sameKey, beq_self_eq_true, if_true]
          omega
        _ = (left.rows.filter matched).countP
            (fun row => formatMatchKey row == formatMatchKey first) := by rw [split]
        _ ≤ left.rows.countP (fun row => formatMatchKey row == formatMatchKey first) :=
          List.filter_sublist.countP_le
    calc
      2 ≤ right.rows.countP fun row => formatMatchKey row == formatMatchKey first :=
        repeats _ repeated
      _ ≤ right.rows.countP matched := List.countP_mono_left fun other inside same =>
        (alike first firstMember other inside (beq_iff_eq.mp same).symm).symm.trans firstMatched
      _ = (right.rows.filter matched).length := List.countP_eq_length_filter
  · obtain ⟨one, oneMember, oneKey⟩ := counterpart first firstMember firstMatched
    obtain ⟨two, twoMember, twoKey⟩ := counterpart second secondMember secondMatched
    by_contra few
    rw [not_le] at few
    have single : one = two := by
      cases rows : right.rows.filter matched with
      | nil =>
        rw [rows] at oneMember
        exact absurd oneMember List.not_mem_nil
      | cons only tail =>
        rw [rows] at oneMember twoMember few
        have empty : tail = [] := List.length_eq_zero_iff.mp (by
          rw [List.length_cons] at few
          omega)
        rw [empty] at oneMember twoMember
        rw [List.mem_singleton.mp oneMember, List.mem_singleton.mp twoMember]
    exact sameKey (oneKey.symm.trans ((congrArg formatMatchKey single).trans twoKey))

/-- The only row that matches is the last of its text, when rows of one text match alike. -/
theorem last_of_only {table : RateTable} {matched : TableRow → Bool} {row : TableRow}
    (only : table.rows.filter matched = [row])
    (alike : ∀ other ∈ table.rows, formatMatchKey other = formatMatchKey row →
      matched other = true) :
    lastWith formatMatchKey table.rows (formatMatchKey row) = some row := by
  have member : row ∈ table.rows := by
    refine List.mem_of_mem_filter (p := matched) ?_
    rw [only]
    exact List.mem_singleton_self row
  obtain ⟨last, found⟩ := lastWith_of_key formatMatchKey member
  obtain ⟨inside, same⟩ := lastWith_eq_some found
  have among : last ∈ table.rows.filter matched :=
    List.mem_filter.mpr ⟨inside, alike last inside same⟩
  rw [only] at among
  rw [found, List.mem_singleton.mp among]

/-- Tables without a difference find alike from rows that match alike. -/
theorem found_alike {left right : RateTable} (none : compareRateTables left right = [])
    {matched : TableRow → Bool}
    (alike : ∀ row ∈ left.rows, ∀ other ∈ right.rows, formatMatchKey row = formatMatchKey other →
      matched row = matched other)
    (several : 2 ≤ (left.rows.filter matched).length ↔ 2 ≤ (right.rows.filter matched).length) :
    (left.rows.filter matched = [] ∧ right.rows.filter matched = []) ∨
    (∃ row other, left.rows.filter matched = [row] ∧ right.rows.filter matched = [other] ∧
      Decimal.Same row.value.toDecimal other.value.toDecimal) ∨
    (2 ≤ (left.rows.filter matched).length ∧ 2 ≤ (right.rows.filter matched).length) := by
  have forward : ∀ row ∈ left.rows, matched row = true →
      ∃ other ∈ right.rows.filter matched, formatMatchKey row = formatMatchKey other := by
    intro row member holds
    obtain ⟨other, inside, same⟩ :=
      List.mem_map.mp ((key_of_none none).mp (List.mem_map_of_mem member))
    exact ⟨other, List.mem_filter.mpr ⟨inside,
      (alike row member other inside same.symm).symm.trans holds⟩, same.symm⟩
  have backward : ∀ other ∈ right.rows, matched other = true →
      ∃ row ∈ left.rows.filter matched, formatMatchKey row = formatMatchKey other := by
    intro other inside holds
    obtain ⟨row, member, same⟩ :=
      List.mem_map.mp ((key_of_none none).mpr (List.mem_map_of_mem inside))
    exact ⟨row, List.mem_filter.mpr ⟨member, (alike row member other inside same).trans holds⟩,
      same⟩
  cases lefts : left.rows.filter matched with
  | nil =>
    refine .inl ⟨rfl, List.eq_nil_iff_forall_not_mem.mpr fun other found => ?_⟩
    obtain ⟨inside, holds⟩ := List.mem_filter.mp found
    obtain ⟨row, member, _⟩ := backward other inside holds
    rw [lefts] at member
    exact List.not_mem_nil member
  | cons row tail =>
    have found : row ∈ left.rows.filter matched := by
      rw [lefts]
      exact List.mem_cons_self
    obtain ⟨member, holds⟩ := List.mem_filter.mp found
    cases tail with
    | nil =>
      obtain ⟨other, among, same⟩ := forward row member holds
      have few : ¬2 ≤ (right.rows.filter matched).length := by
        rw [← several, lefts]
        simp
      obtain ⟨inside, holdsToo⟩ := List.mem_filter.mp among
      have rights : right.rows.filter matched = [other] := by
        cases rows : right.rows.filter matched with
        | nil =>
          rw [rows] at among
          exact absurd among List.not_mem_nil
        | cons head rest =>
          rw [rows] at among few
          have empty : rest = [] := List.length_eq_zero_iff.mp (by
            rw [List.length_cons] at few
            omega)
          rw [empty] at among ⊢
          rw [List.mem_singleton.mp among]
      have lastLeft := last_of_only lefts fun candidate listed equal =>
        (alike candidate listed other inside (equal.trans same)).trans holdsToo
      have lastRight := last_of_only rights fun candidate listed equal =>
        (alike row member candidate listed (same.trans equal.symm)).symm.trans holds
      have related := compareRateTables_eq_nil none (formatMatchKey row)
      rw [lastLeft, same, lastRight] at related
      cases related with
      | some values => exact .inr (.inl ⟨row, other, rfl, rights, values⟩)
    | cons second rest =>
      have many : 2 ≤ (left.rows.filter matched).length := by
        rw [lefts]
        simp
      exact .inr (.inr ⟨by simp, several.mp many⟩)

/-- Tables without a difference are looked up alike, as long as the key texts determine the keys
and a text is repeated in both tables or in neither. -/
theorem compareRateTables_complete (left right : RateTable)
    (dimensions : left.dimensions = right.dimensions) (none : compareRateTables left right = [])
    (determine : TextsDetermine left right)
    (repeats : ∀ key, left.Repeats key ↔ right.Repeats key) (lookup : String → Option Value) :
    Agree (fun found other => Decimal.Same found.1 other.1) (lookupTable left lookup)
      (lookupTable right lookup) := by
  have alike : ∀ row ∈ left.rows, ∀ other ∈ right.rows,
      formatMatchKey row = formatMatchKey other →
      rowMatches lookup right.dimensions row.rowMatches =
        rowMatches lookup right.dimensions other.rowMatches := fun row member other inside same =>
    rowMatches_alike lookup _ (determine row (List.mem_append_left _ member) other
      (List.mem_append_right _ inside) same)
  have pairLeft : ∀ row ∈ left.rows, ∃ other ∈ right.rows,
      formatMatchKey row = formatMatchKey other := by
    intro row member
    obtain ⟨other, inside, same⟩ :=
      List.mem_map.mp ((key_of_none none).mp (List.mem_map_of_mem member))
    exact ⟨other, inside, same.symm⟩
  have pairRight : ∀ other ∈ right.rows, ∃ row ∈ left.rows,
      formatMatchKey row = formatMatchKey other := by
    intro other inside
    obtain ⟨row, member, same⟩ :=
      List.mem_map.mp ((key_of_none none).mpr (List.mem_map_of_mem inside))
    exact ⟨row, member, same⟩
  unfold lookupTable
  rw [dimensions]
  by_cases comparable : ∀ row ∈ left.rows,
      rowComparable lookup right.dimensions row.rowMatches = true
  · have comparableRight : ∀ other ∈ right.rows,
        rowComparable lookup right.dimensions other.rowMatches = true := by
      intro other inside
      obtain ⟨row, member, same⟩ := pairRight other inside
      by_contra incomparable
      obtain ⟨signal, raises⟩ :=
        (rowMatches_eq lookup right.dimensions other.rowMatches).2 (by simpa using incomparable)
      have decides := (rowMatches_eq lookup right.dimensions row.rowMatches).1
        (comparable row member)
      rw [alike row member other inside same, raises] at decides
      cases decides
    let matched := fun row : TableRow => rowReaches lookup right.dimensions row.rowMatches
    have matchedAlike : ∀ row ∈ left.rows, ∀ other ∈ right.rows,
        formatMatchKey row = formatMatchKey other → matched row = matched other := by
      intro row member other inside same
      have one := (rowMatches_eq lookup right.dimensions row.rowMatches).1 (comparable row member)
      have two := (rowMatches_eq lookup right.dimensions other.rowMatches).1
        (comparableRight other inside)
      exact Except.ok.inj (one.symm.trans ((alike row member other inside same).trans two))
    rw [(matchingRows_eq lookup right.dimensions left.rows).1 comparable,
      (matchingRows_eq lookup right.dimensions right.rows).1 comparableRight]
    have forward := matched_several matched (fun key => (key_of_none none).mp)
      matchedAlike (fun key => (repeats key).mp)
    have backward := matched_several matched (fun key => (key_of_none none).mpr)
      (fun other inside row member same => (matchedAlike row member other inside same.symm).symm)
      (fun key => (repeats key).mpr)
    change Agree _ (Except.ok (left.rows.filter matched) >>= _)
      (Except.ok (right.rows.filter matched) >>= _)
    rcases found_alike none matchedAlike ⟨forward, backward⟩ with
      ⟨lefts, rights⟩ | ⟨row, other, lefts, rights, values⟩ | ⟨lefts, rights⟩
    · rw [lefts, rights]
      exact Agree.ite Iff.rfl (.success (.refl _)) (.failure _ _)
    · rw [lefts, rights]
      exact .success values
    · obtain ⟨first, second, rest, split⟩ := exists_two lefts
      obtain ⟨first', second', rest', split'⟩ := exists_two rights
      rw [split, split']
      exact .failure _ _
  · obtain ⟨signal, raises⟩ := (matchingRows_eq lookup right.dimensions left.rows).2 comparable
    have incomparable : ¬∀ other ∈ right.rows,
        rowComparable lookup right.dimensions other.rowMatches = true := by
      intro every
      refine comparable fun row member => ?_
      obtain ⟨other, inside, same⟩ := pairLeft row member
      by_contra fails
      obtain ⟨raised, raisesRow⟩ :=
        (rowMatches_eq lookup right.dimensions row.rowMatches).2 (by simpa using fails)
      have decides := (rowMatches_eq lookup right.dimensions other.rowMatches).1 (every other inside)
      rw [← alike row member other inside same, raisesRow] at decides
      cases decides
    obtain ⟨other, raisesRight⟩ :=
      (matchingRows_eq lookup right.dimensions right.rows).2 incomparable
    rw [raises, raisesRight]
    exact .failure _ _

/-- Table of one amount for each listed territory. -/
def territoryTable (rates : List (String × FiniteDecimal)) : RateTable where
  id := "territory"
  dimensions := [⟨"territory", .exact⟩]
  rows := rates.map fun rate => ⟨[.exact (.str rate.1)], rate.2, none⟩
  effectivePeriod := none
  requiresTotalCoverage := false
  defaultValue := none
  dimensioned := .inl rfl
  keyed := by
    intro row member
    obtain ⟨rate, -, rfl⟩ := List.mem_map.mp member
    rfl

/-- Tables that write one amount differently are looked up alike. -/
theorem compareRateTables_complete_respelled :
    Agree (fun found other => Decimal.Same found.1 other.1)
      (lookupTable (territoryTable [("north", ⟨false, 5, 0⟩)]) fun _ => some (.str "north"))
      (lookupTable (territoryTable [("north", ⟨false, 50, -1⟩)])
        fun _ => some (.str "north")) := by
  have keys : ∀ row ∈ (territoryTable [("north", ⟨false, 5, 0⟩)]).rows ++
      (territoryTable [("north", ⟨false, 50, -1⟩)]).rows,
      row.rowMatches = [.exact (.str "north")] := by
    intro row member
    rcases List.mem_append.mp member with member | member <;>
      rw [List.mem_singleton.mp member]
  refine compareRateTables_complete (territoryTable [("north", ⟨false, 5, 0⟩)])
    (territoryTable [("north", ⟨false, 50, -1⟩)]) rfl (by decide +kernel) ?_ (fun _ => Iff.rfl) _
  intro row member other inside _
  rw [keys row member, keys other inside]
  exact .cons ⟨rfl, rfl⟩ .nil

/-- A row given twice in one table and once in the other is no difference, but the repeated row
is ambiguous. -/
theorem compareRateTables_incomplete :
    ¬∀ left right : RateTable, left.id = right.id → left.dimensions = right.dimensions →
      compareRateTables left right = [] → ∀ lookup : String → Option Value,
      Agree (fun found other => Decimal.Same found.1 other.1) (lookupTable left lookup)
        (lookupTable right lookup) := by
  intro always
  let twice := territoryTable [("north", ⟨false, 5, 0⟩), ("north", ⟨false, 5, 0⟩)]
  let once := territoryTable [("north", ⟨false, 5, 0⟩)]
  have agree := always twice once rfl rfl (by decide +kernel) fun _ => some (.str "north")
  have ambiguous : (lookupTable twice fun _ => some (.str "north")).isOk = false := by
    decide +kernel
  have found : (lookupTable once fun _ => some (.str "north")).isOk = true := by decide +kernel
  cases left : lookupTable twice fun _ => some (.str "north") with
  | ok result =>
    rw [left] at ambiguous
    cases ambiguous
  | error failure =>
    cases right : lookupTable once fun _ => some (.str "north") with
    | ok result =>
      rw [left, right] at agree
      cases agree
    | error failure =>
      rw [right] at found
      cases found

end RateGuard
