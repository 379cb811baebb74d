import RateGuard.Foundation.DecimalLine
import RateGuard.Foundation.Span
import RateGuard.Ipir.Package

/-!
# Range coverage of a table

The static check of a table with one range dimension. It compares every two ranges for
an overlap without distinct priorities and, where total coverage is declared without a
default, neighbours in the order of their minima for a gap. As spans of the decimal line
the ranges show what the check sees: one end before another, and a jump between
neighbours.
-/

open DecimalFloat Spans

namespace RateGuard

/-- `_range_bounds`: both ends of a range, an open end at infinity. -/
def RangeMatch.bounds (bracket : RangeMatch) : Decimal × Decimal :=
  ((bracket.minimum.map Bound.toDecimal).getD (.infinity true),
    (bracket.maximum.map Bound.toDecimal).getD (.infinity false))

/-- Whether one range ends before another begins: at a common end both must include it to meet. -/
def endsBefore (first second : RangeMatch) : Bool :=
  first.bounds.2.lt second.bounds.1 == .ok true ||
    (first.bounds.2.eq second.bounds.1 == .ok true &&
      !(first.includeMaximum && second.includeMinimum))

/-- `_ranges_overlap`: neither range ends before the other begins. -/
def rangesOverlap (first second : RangeMatch) : Bool :=
  if endsBefore first second then false
  else if endsBefore second first then false
  else true

/-- Whether two rows declare priorities that differ. -/
def TableRow.prioritized (first second : TableRow) : Bool :=
  first.priority.isSome && second.priority.isSome && first.priority != second.priority

/-- Finding of the coverage check. -/
inductive CoverageIssue where
  /-- Two ranges overlap, by their positions among the ranges. -/
  | overlap (tableId : String) (first second : Nat)
  /-- A stretch between two ends lies in no range. -/
  | gap (tableId : String) (previousHigh nextLow : Decimal)
  deriving DecidableEq

/-- Text of a finding. -/
def CoverageIssue.text : CoverageIssue → String
  | overlap tableId first second =>
    "RateTable '" ++ tableId ++ "' has an ambiguous overlap between rows " ++ toString first ++
      " and " ++ toString second ++ " with no distinct explicit priority."
  | gap tableId previousHigh nextLow =>
    "RateTable '" ++ tableId ++ "' requires total coverage but has a gap between " ++
      String.ofList previousHigh.text ++ " and " ++ String.ofList nextLow.text ++
      ", and no default_value is declared."

/-- Rows whose only key is a range; rows with an exact key are passed over. -/
def RateTable.rangeRows (table : RateTable) : List (TableRow × RangeMatch) :=
  table.rows.filterMap fun row =>
    match row.rowMatches with
    | .range bracket :: _ => some (row, bracket)
    | _ => none

/-- Overlaps of two ranges without distinct priorities. -/
def overlapIssues (tableId : String) (rows : List (TableRow × RangeMatch)) :
    List CoverageIssue :=
  (List.range rows.length).flatMap fun i =>
    (List.range' (i + 1) (rows.length - (i + 1))).filterMap fun j =>
      match rows[i]?, rows[j]? with
      | some first, some second =>
        if !rangesOverlap first.2 second.2 then none
        else if first.1.prioritized second.1 then none
        else some (.overlap tableId i j)
      | _, _ => none

/-- Bounds of ranges in the order of their lower ends. -/
def sortedBounds (rows : List (TableRow × RangeMatch)) : List (Decimal × Decimal) :=
  (rows.map (·.2.bounds)).insertionSort fun x y => Decimal.le x.1 y.1 = .ok true

/-- Neighbours of which the next one begins after the previous one ends. -/
def gapIssues (tableId : String) (rows : List (TableRow × RangeMatch)) : List CoverageIssue :=
  ((sortedBounds rows).zip (sortedBounds rows).tail).filterMap fun pair =>
    if pair.1.2.lt pair.2.1 == .ok true then some (.gap tableId pair.1.2 pair.2.1) else none

/-- `validate_range_coverage`: findings of the check; only tables with one range dimension have
any. -/
def validateRangeCoverage (table : RateTable) : List CoverageIssue :=
  if table.dimensions.map (·.lookupType) ≠ [.range] then []
  else overlapIssues table.id table.rangeRows ++
    if table.requiresTotalCoverage && table.defaultValue.isNone then
      gapIssues table.id table.rangeRows
    else []

/-- Number of a bound. -/
def Bound.number : Bound → ℚ
  | int value => value
  | decimal value => rational value.negative value.coefficient value.exponent

/-- Whether a range holds a number, by its bounds and their inclusion. -/
def RangeMatch.Holds (bracket : RangeMatch) (number : ℚ) : Prop :=
  (∀ minimum ∈ bracket.minimum,
    minimum.number < number ∨ minimum.number = number ∧ bracket.includeMinimum) ∧
  ∀ maximum ∈ bracket.maximum,
    number < maximum.number ∨ number = maximum.number ∧ bracket.includeMaximum

/-- Whether a number lies strictly between the smallest minimum and the largest maximum. -/
def InDomain (rows : List (TableRow × RangeMatch)) (number : ℚ) : Prop :=
  (∃ row ∈ rows, ∀ minimum ∈ row.2.minimum, minimum.number < number) ∧
    ∃ row ∈ rows, ∀ maximum ∈ row.2.maximum, number < maximum.number

/-- A number on the line. -/
def numberPlace (number : ℚ) : Line := ((number : WithTop ℚ) : Line)

/-- Numbers keep their order on the line. -/
@[simp] theorem numberPlace_lt {left right : ℚ} :
    numberPlace left < numberPlace right ↔ left < right :=
  WithBot.coe_lt_coe.trans WithTop.coe_lt_coe

/-- Different numbers have different places. -/
@[simp] theorem numberPlace_inj {left right : ℚ} :
    numberPlace left = numberPlace right ↔ left = right :=
  WithBot.coe_inj.trans WithTop.coe_inj

/-- A place between two others is that of a number. -/
theorem exists_number {low point high : Line} (above : low < point) (below : point < high) :
    ∃ number, point = numberPlace number := by
  obtain ⟨upper, rfl⟩ := WithBot.ne_bot_iff_exists.mp (bot_le.trans_lt above).ne'
  have finite : upper ≠ ⊤ := by
    rintro rfl
    exact absurd (below.trans_le le_top) (lt_irrefl _)
  obtain ⟨number, rfl⟩ := WithTop.ne_top_iff_exists.mp finite
  exact ⟨number, rfl⟩

/-- The place of a bound is its number. -/
theorem Bound.place (bound : Bound) : bound.toDecimal.place = numberPlace bound.number := by
  cases bound with
  | decimal value => rfl
  | int value =>
    have same : rational (value < 0) value.natAbs 0 = value := by
      unfold rational signed
      by_cases negative : value < 0
      · have size : (value.natAbs : Int) = -value := by omega
        simp [negative, size]
      · have size : (value.natAbs : Int) = value := by omega
        simp [negative, size]
    exact congrArg numberPlace same

/-- Bounds are defined decimals. -/
theorem Bound.defined (bound : Bound) : bound.toDecimal.Defined := by
  cases bound with
  | int value => exact Decimal.ofInt_defined value
  | decimal value => exact value.defined

/-- Place of a lower end: the number of the minimum, or the start of the line. -/
def lowPlace (minimum : Option Bound) : Line :=
  (minimum.map fun bound => numberPlace bound.number).getD ⊥

/-- Place of an upper end: the number of the maximum, or the end of the line. -/
def highPlace (maximum : Option Bound) : Line :=
  (maximum.map fun bound => numberPlace bound.number).getD ⊤

/-- The lower end of a range is defined and lies at its place. -/
theorem RangeMatch.bounds_low (bracket : RangeMatch) :
    bracket.bounds.1.Defined ∧ bracket.bounds.1.place = lowPlace bracket.minimum := by
  unfold RangeMatch.bounds lowPlace
  cases bracket.minimum with
  | none => exact ⟨fun _ same => Decimal.noConfusion same, rfl⟩
  | some minimum => exact ⟨minimum.defined, minimum.place⟩

/-- The upper end of a range is defined and lies at its place. -/
theorem RangeMatch.bounds_high (bracket : RangeMatch) :
    bracket.bounds.2.Defined ∧ bracket.bounds.2.place = highPlace bracket.maximum := by
  unfold RangeMatch.bounds highPlace
  cases bracket.maximum with
  | none => exact ⟨fun _ same => Decimal.noConfusion same, rfl⟩
  | some maximum => exact ⟨maximum.defined, maximum.place⟩

/-- The ends of a range are not reversed. -/
theorem RangeMatch.places_ordered (bracket : RangeMatch) :
    lowPlace bracket.minimum ≤ highPlace bracket.maximum := by
  have ordered := bracket.ordered
  unfold lowPlace highPlace
  cases low : bracket.minimum with
  | none => exact bot_le
  | some minimum =>
    cases high : bracket.maximum with
    | none => exact le_top
    | some maximum =>
      rw [boundsOrdered.eq_def, low, high] at ordered
      simp only [lt_eq_place maximum.defined minimum.defined, maximum.place, minimum.place]
        at ordered
      exact not_lt.mp (by simpa using ordered)

/-- A range as a span of the line; infinite ends are left out. -/
def RangeMatch.span (bracket : RangeMatch) : Span Line where
  low := lowPlace bracket.minimum
  high := highPlace bracket.maximum
  includesLow := bracket.includeMinimum && bracket.minimum.isSome
  includesHigh := bracket.includeMaximum && bracket.maximum.isSome
  ordered := bracket.places_ordered

/-- A lower end before a number. -/
theorem lowPlace_lt {minimum : Option Bound} {number : ℚ} :
    lowPlace minimum < numberPlace number ↔ ∀ bound ∈ minimum, bound.number < number := by
  cases minimum with
  | none => simp [lowPlace, numberPlace]
  | some bound => simp [lowPlace]

/-- An upper end after a number. -/
theorem lt_highPlace {maximum : Option Bound} {number : ℚ} :
    numberPlace number < highPlace maximum ↔ ∀ bound ∈ maximum, number < bound.number := by
  cases maximum with
  | none => simp [highPlace, numberPlace, number_lt_top]
  | some bound => simp [highPlace]

/-- The lower condition of a range, on the line. -/
theorem lower_iff {minimum : Option Bound} {included : Bool} {number : ℚ} :
    (∀ bound ∈ minimum, bound.number < number ∨ bound.number = number ∧ included) ↔
      lowPlace minimum < numberPlace number ∨
        lowPlace minimum = numberPlace number ∧ (included && minimum.isSome) := by
  cases minimum with
  | none => simp [lowPlace, numberPlace]
  | some bound => simp [lowPlace]

/-- The upper condition of a range, on the line. -/
theorem upper_iff {maximum : Option Bound} {included : Bool} {number : ℚ} :
    (∀ bound ∈ maximum, number < bound.number ∨ number = bound.number ∧ included) ↔
      numberPlace number < highPlace maximum ∨
        numberPlace number = highPlace maximum ∧ (included && maximum.isSome) := by
  cases maximum with
  | none => simp [highPlace, numberPlace, number_lt_top]
  | some bound => simp [highPlace]

/-- A range holds the numbers that its span contains. -/
theorem RangeMatch.holds_iff {bracket : RangeMatch} {number : ℚ} :
    bracket.Holds number ↔ bracket.span.Contains (numberPlace number) :=
  and_congr lower_iff upper_iff

/-- Spans of ranges contain numbers only. -/
theorem RangeMatch.exists_number {bracket : RangeMatch} {point : Line}
    (inside : bracket.span.Contains point) : ∃ number, point = numberPlace number := by
  obtain ⟨lower, upper⟩ := inside
  have start : ⊥ < point := by
    rcases lower with above | ⟨same, included⟩
    · exact bot_le.trans_lt above
    · have bounded : bracket.minimum.isSome := (Bool.and_eq_true_iff.mp included).2
      obtain ⟨minimum, found⟩ := Option.isSome_iff_exists.mp bounded
      rw [← same]
      simp only [RangeMatch.span, lowPlace, found]
      exact bot_lt_number _
  have finish : point < ⊤ := by
    rcases upper with below | ⟨same, included⟩
    · exact below.trans_le le_top
    · have bounded : bracket.maximum.isSome := (Bool.and_eq_true_iff.mp included).2
      obtain ⟨maximum, found⟩ := Option.isSome_iff_exists.mp bounded
      rw [same]
      simp only [RangeMatch.span, highPlace, found]
      exact number_lt_top _
  exact RateGuard.exists_number start finish

/-- Ranges hold a common number when their spans meet. -/
theorem RangeMatch.meets_iff {first second : RangeMatch} :
    (∃ number, first.Holds number ∧ second.Holds number) ↔ first.span.Meets second.span := by
  constructor
  · rintro ⟨number, left, right⟩
    exact ⟨numberPlace number, holds_iff.mp left, holds_iff.mp right⟩
  · rintro ⟨point, left, right⟩
    obtain ⟨number, rfl⟩ := exists_number left
    exact ⟨number, holds_iff.mpr left, holds_iff.mpr right⟩

/-- Ends that touch are numbers. -/
theorem touching_bounded {maximum minimum : Option Bound}
    (touching : highPlace maximum = lowPlace minimum) : maximum.isSome ∧ minimum.isSome := by
  cases maximum with
  | none =>
    cases minimum with
    | none => exact absurd touching (by simp [highPlace, lowPlace])
    | some bound => exact absurd touching (number_lt_top _).ne'
  | some upper =>
    cases minimum with
    | none => exact absurd touching (bot_lt_number _).ne'
    | some lower => exact ⟨rfl, rfl⟩

/-- The check compares the ends of two ranges as the ends of their spans. -/
theorem endsBefore_iff {first second : RangeMatch} :
    endsBefore first second = true ↔ first.span.Before second.span := by
  unfold endsBefore
  rw [lt_eq_place first.bounds_high.1 second.bounds_low.1,
    eq_eq_place first.bounds_high.1 second.bounds_low.1, first.bounds_high.2,
    second.bounds_low.2]
  simp only [Bool.or_eq_true, Bool.and_eq_true, beq_iff_eq, Except.ok.injEq, decide_eq_true_eq,
    Bool.not_eq_true', Bool.and_eq_false_imp]
  refine or_congr Iff.rfl (and_congr_right fun touching => ?_)
  obtain ⟨maximum, minimum⟩ := touching_bounded touching
  simp [RangeMatch.span, maximum, minimum]

/-- Two rows of ranges are reported when neither ends before the other and their priorities do not
differ. -/
theorem rangesOverlap_iff {first second : RangeMatch} :
    rangesOverlap first second = true ↔
      ¬(first.span.Before second.span ∨ second.span.Before first.span) := by
  rw [← endsBefore_iff, ← endsBefore_iff, rangesOverlap]
  cases endsBefore first second <;> cases endsBefore second first <;> simp

/-- Spans of ranges. -/
def spans (rows : List (TableRow × RangeMatch)) : List (Span Line) := rows.map (·.2.span)

/-- Spans of ranges in the order of their lower ends. -/
def sortedSpans (rows : List (TableRow × RangeMatch)) : List (Span Line) :=
  (spans rows).insertionSort fun first second => first.low ≤ second.low

/-- Positions of a reported overlap. -/
theorem overlap_mem {tableId : String} {rows : List (TableRow × RangeMatch)} {i j : Nat} :
    .overlap tableId i j ∈ overlapIssues tableId rows ↔
      ∃ first second, i < j ∧ rows[i]? = some first ∧ rows[j]? = some second ∧
        rangesOverlap first.2 second.2 ∧ first.1.prioritized second.1 = false := by
  have pair : ∀ {a b : Nat} {first second : TableRow × RangeMatch}, rows[a]? = some first →
      rows[b]? = some second →
      ((match rows[a]?, rows[b]? with
        | some first, some second =>
          if !rangesOverlap first.2 second.2 then none
          else if first.1.prioritized second.1 then none
          else some (CoverageIssue.overlap tableId a b)
        | _, _ => none) = some (.overlap tableId i j) ↔
      (rangesOverlap first.2 second.2 ∧ first.1.prioritized second.1 = false) ∧ a = i ∧ b = j) := by
    intro a b first second here there
    rw [here, there]
    cases overlaps : rangesOverlap first.2 second.2 <;>
      cases decided : first.1.prioritized second.1 <;> simp [overlaps, decided]
  unfold overlapIssues
  simp only [List.mem_flatMap, List.mem_filterMap, List.mem_range, List.mem_range'_1]
  constructor
  · rintro ⟨a, inside, b, ⟨after, within⟩, reported⟩
    have here : rows[a]? = some rows[a] := List.getElem?_eq_getElem inside
    have there : rows[b]? = some rows[b] := List.getElem?_eq_getElem (by omega)
    obtain ⟨⟨overlaps, undecided⟩, rfl, rfl⟩ := (pair here there).mp reported
    exact ⟨rows[a], rows[b], after, here, there, overlaps, undecided⟩
  · rintro ⟨first, second, before, here, there, overlaps, undecided⟩
    obtain ⟨inside, -⟩ := List.getElem?_eq_some_iff.mp here
    obtain ⟨within, -⟩ := List.getElem?_eq_some_iff.mp there
    exact ⟨i, inside, j, ⟨before, by omega⟩, (pair here there).mpr ⟨⟨overlaps, undecided⟩, rfl, rfl⟩⟩

/-- The sorted bounds are those of the ranges in the order of their lower ends, as are the sorted
spans. -/
theorem sorted_brackets (rows : List (TableRow × RangeMatch)) :
    ∃ brackets : List RangeMatch, sortedBounds rows = brackets.map (·.bounds) ∧
      sortedSpans rows = brackets.map (·.span) := by
  refine ⟨(rows.map (·.2)).insertionSort fun first second => first.span.low ≤ second.span.low,
    ?_, ?_⟩
  · unfold sortedBounds
    rw [List.map_insertionSort (fun first second : RangeMatch => first.span.low ≤ second.span.low)
      (fun x y : Decimal × Decimal => Decimal.le x.1 y.1 = .ok true), List.map_map]
    · rfl
    · intro first _ second _
      rw [le_eq_place first.bounds_low.1 second.bounds_low.1, first.bounds_low.2,
        second.bounds_low.2, Except.ok.injEq, decide_eq_true_iff]
      rfl
  · unfold sortedSpans spans
    rw [List.map_insertionSort (fun first second : RangeMatch => first.span.low ≤ second.span.low)
      (fun first second : Span Line => first.low ≤ second.low), List.map_map]
    · rfl
    · intro first _ second _
      rfl

/-- A gap is reported when neighbours in the order of lower ends leave a stretch between them. -/
theorem gap_reported {tableId : String} {rows : List (TableRow × RangeMatch)} :
    (∃ previousHigh nextLow, .gap tableId previousHigh nextLow ∈ gapIssues tableId rows) ↔
      Jumps (sortedSpans rows) := by
  obtain ⟨brackets, bounds, spans⟩ := sorted_brackets rows
  have neighbours : ∀ pair : RangeMatch × RangeMatch,
      pair.1.bounds.2.lt pair.2.bounds.1 = .ok true ↔ pair.1.span.high < pair.2.span.low := by
    intro pair
    rw [lt_eq_place pair.1.bounds_high.1 pair.2.bounds_low.1, pair.1.bounds_high.2,
      pair.2.bounds_low.2, Except.ok.injEq, decide_eq_true_iff]
    rfl
  unfold gapIssues Jumps
  rw [bounds, spans, ← List.map_tail, ← List.map_tail, List.zip_map, List.zip_map]
  constructor
  · rintro ⟨previousHigh, nextLow, reported⟩
    obtain ⟨ends, member, raised⟩ := List.mem_filterMap.mp reported
    obtain ⟨pair, found, rfl⟩ := List.mem_map.mp member
    refine ⟨_, List.mem_map_of_mem found, (neighbours pair).mp ?_⟩
    by_contra apart
    simp [apart] at raised
  · rintro ⟨ends, member, apart⟩
    obtain ⟨pair, found, rfl⟩ := List.mem_map.mp member
    refine ⟨pair.1.bounds.2, pair.2.bounds.1, List.mem_filterMap.mpr
      ⟨_, List.mem_map_of_mem found, ?_⟩⟩
    simp [(neighbours pair).mpr apart]

/-- A number in the domain that no range holds is a point inside that no span contains. -/
theorem uncovered_iff {rows : List (TableRow × RangeMatch)} :
    (∃ number, InDomain rows number ∧ ∀ row ∈ rows, ¬row.2.Holds number) ↔ Gap (spans rows) := by
  have inside : ∀ number, InDomain rows number ↔ Inside (spans rows) (numberPlace number) := by
    intro number
    unfold InDomain Inside spans
    refine and_congr ?_ ?_
    · simp [RangeMatch.span, lowPlace_lt]
    · simp [RangeMatch.span, lt_highPlace]
  have free : ∀ number, (∀ row ∈ rows, ¬row.2.Holds number) ↔
      ∀ span ∈ spans rows, ¬span.Contains (numberPlace number) := by
    intro number
    unfold spans
    simp only [List.forall_mem_map, RangeMatch.holds_iff]
  constructor
  · rintro ⟨number, within, unheld⟩
    exact ⟨numberPlace number, (inside number).mp within, (free number).mp unheld⟩
  · rintro ⟨point, within, uncontained⟩
    have around := within
    obtain ⟨⟨low, -, above⟩, ⟨high, -, below⟩⟩ := around
    obtain ⟨number, rfl⟩ := exists_number above below
    exact ⟨number, (inside number).mpr within, (free number).mpr uncontained⟩

/-- Whether a gap is reported exactly when some number of the domain lies in no range. -/
def GapsExact (table : RateTable) : Prop :=
  (∃ previousHigh nextLow,
    .gap table.id previousHigh nextLow ∈ validateRangeCoverage table) ↔
  ∃ number, InDomain table.rangeRows number ∧ ∀ row ∈ table.rangeRows, ¬row.2.Holds number

/-- Whether an overlap of two rows without distinct priorities is reported exactly when their ranges
share a number. -/
def OverlapsExact (table : RateTable) : Prop :=
  ∀ (i j : Nat) (first second : TableRow × RangeMatch), i < j →
    table.rangeRows[i]? = some first → table.rangeRows[j]? = some second →
    first.1.prioritized second.1 = false →
      (.overlap table.id i j ∈ validateRangeCoverage table ↔
        ∃ number, first.2.Holds number ∧ second.2.Holds number)

/-- Whether an empty range ends before the ranges it is compared with begin, or begins after
they end. -/
def EmptyApart (rows : List (TableRow × RangeMatch)) : Prop :=
  ∀ (i j : Nat) (first second : TableRow × RangeMatch), i < j → rows[i]? = some first →
    rows[j]? = some second → first.1.prioritized second.1 = false → first.2.span.Empty ∨
      second.2.span.Empty → first.2.span.Before second.2.span ∨ second.2.span.Before first.2.span

/-- Whether some stretch is left out for all ranges, or neighbours leave one between them, which an
earlier range reaches across, exactly when some upper end inside the domain lies in no range. -/
def NeighboursTell (rows : List (TableRow × RangeMatch)) : Prop :=
  Interrupted (spans rows) ∨ (Jumps (sortedSpans rows) ↔ Punctured (spans rows))

instance (rows : List (TableRow × RangeMatch)) : Decidable (NeighboursTell rows) :=
  inferInstanceAs (Decidable (_ ∨ (_ ↔ _)))

/-- Findings of a table that has to cover its domain. -/
theorem validateRangeCoverage_total {table : RateTable}
    (ranged : table.dimensions.map (·.lookupType) = [.range])
    (total : table.requiresTotalCoverage = true) (undefaulted : table.defaultValue = none) :
    validateRangeCoverage table =
      overlapIssues table.id table.rangeRows ++ gapIssues table.id table.rangeRows := by
  simp [validateRangeCoverage, ranged, total, undefaulted]

/-- Comparisons of two ranges report no gap. -/
theorem gap_not_overlap {tableId other : String} {rows : List (TableRow × RangeMatch)}
    {previousHigh nextLow : Decimal} :
    .gap other previousHigh nextLow ∉ overlapIssues tableId rows := by
  intro reported
  obtain ⟨i, -, reported⟩ := List.mem_flatMap.mp reported
  obtain ⟨j, -, reported⟩ := List.mem_filterMap.mp reported
  split at reported
  · split at reported
    · cases reported
    · split at reported
      · cases reported
      · cases reported
  · cases reported

/-- Comparisons of neighbours report no overlap. -/
theorem overlap_not_gap {tableId other : String} {rows : List (TableRow × RangeMatch)}
    {i j : Nat} : .overlap other i j ∉ gapIssues tableId rows := by
  intro reported
  obtain ⟨pair, -, reported⟩ := List.mem_filterMap.mp reported
  split at reported
  · cases reported
  · cases reported

/-- The spans in the order of their lower ends are those of the ranges. -/
theorem sortedSpans_interrupted {rows : List (TableRow × RangeMatch)} :
    Interrupted (sortedSpans rows) ↔ Interrupted (spans rows) := by
  unfold Interrupted sortedSpans
  simp only [List.mem_insertionSort]

/-- An overlap of two ranges is reported exactly when they share a number, as long as an empty one
lies apart. -/
theorem overlap_pair {table : RateTable}
    (ranged : table.dimensions.map (·.lookupType) = [.range])
    (total : table.requiresTotalCoverage = true) (undefaulted : table.defaultValue = none)
    {i j : Nat} {first second : TableRow × RangeMatch} (before : i < j)
    (here : table.rangeRows[i]? = some first) (there : table.rangeRows[j]? = some second)
    (undecided : first.1.prioritized second.1 = false) :
    (.overlap table.id i j ∈ validateRangeCoverage table ↔
        ∃ number, first.2.Holds number ∧ second.2.Holds number) ↔
      (first.2.span.Empty ∨ second.2.span.Empty →
        first.2.span.Before second.2.span ∨ second.2.span.Before first.2.span) := by
  have reported : .overlap table.id i j ∈ validateRangeCoverage table ↔
      ¬(first.2.span.Before second.2.span ∨ second.2.span.Before first.2.span) := by
    rw [validateRangeCoverage_total ranged total undefaulted, List.mem_append, overlap_mem,
      ← rangesOverlap_iff]
    simp only [overlap_not_gap, or_false]
    constructor
    · rintro ⟨one, other, -, oneHere, otherThere, found, -⟩
      obtain rfl := Option.some.inj (here.symm.trans oneHere)
      obtain rfl := Option.some.inj (there.symm.trans otherThere)
      exact found
    · intro found
      exact ⟨first, second, before, here, there, found, undecided⟩
  rw [reported, RangeMatch.meets_iff, Span.meets_iff]
  tauto

/-- A range of two integers with both ends. -/
def integerRange (low high : Int) (ordered : boundsOrdered (some (.int low)) (some (.int high))) :
    RangeMatch where
  minimum := some (.int low)
  maximum := some (.int high)
  includeMinimum := true
  includeMaximum := true
  bounded := .inl rfl
  ordered := ordered

/-- A table with one range dimension that has to cover its domain by given ranges. -/
def coveringTable (brackets : List RangeMatch) : RateTable where
  id := "age_factors"
  dimensions := [⟨"age", .range⟩]
  rows := brackets.map fun bracket => ⟨[.range bracket], ⟨false, 1, 0⟩, none⟩
  effectivePeriod := none
  requiresTotalCoverage := true
  defaultValue := none
  dimensioned := .inl rfl
  keyed := by
    intro row member
    obtain ⟨bracket, -, rfl⟩ := List.mem_map.mp member
    rfl

/-- Without empty ranges there is nothing to take for an overlap. -/
theorem emptyApart_of_nonempty {rows : List (TableRow × RangeMatch)}
    (nonempty : ∀ row ∈ rows, ¬row.2.span.Empty) : EmptyApart rows := by
  intro i j first second _ here there _ empty
  rcases empty with empty | empty
  · exact absurd empty (nonempty first (List.mem_of_getElem? here))
  · exact absurd empty (nonempty second (List.mem_of_getElem? there))

end RateGuard
