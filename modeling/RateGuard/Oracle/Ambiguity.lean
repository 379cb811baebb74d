import RateGuard.IpirV2.Package

/-!
# Ambiguous lookups

Which rows of a table some key matches at once. A lookup compares texts, numbers and closed
ranges, so two rows share a key when their literals agree as texts or numbers and their
ranges touch, whatever the coverage check says of priorities and inclusion. Where the check
finds no gap, every number of the domain has a row.
-/

open DecimalFloat Spans

namespace RateGuard

/-- Whether a literal is text. -/
def Literal.isText : Literal → Bool
  | .str _ => true
  | .int _ | .decimal _ | .bool _ => false

/-- Whether a literal is a boolean. -/
def Literal.isBool : Literal → Bool
  | .bool _ => true
  | .int _ | .decimal _ | .str _ => false

/-- Number that a literal is, or whose printed text it is. -/
def Literal.number? : Literal → Option Decimal
  | .int value => some (.ofInt value)
  | .decimal value => some value.toDecimal
  | .str text =>
    (Decimal.parse text.toList).filter fun number =>
      Text.strip number.text == Text.strip text.toList
  | .bool _ => none

/-- Whether two literals have the same place as numbers. -/
def samePlace (first second : Option Decimal) : Bool :=
  match first, second with
  | some left, some right => left.place = right.place
  | _, _ => false

/-- Whether some value equals two literals: their trimmed texts agree, or their numbers do and at least
one of them is no text. -/
def literalsShare (first second : Literal) : Bool :=
  Text.strip first.toValue.text == Text.strip second.toValue.text ||
    (!(first.isText && second.isText) && samePlace first.number? second.number?)

/-- Whether two ranges with both ends included share a number. -/
def rangesTouch (first second : RangeMatch) : Bool :=
  lowPlace first.minimum ≤ highPlace second.maximum &&
    lowPlace second.minimum ≤ highPlace first.maximum

/-- Whether some value matches two keys of a dimension. -/
def keysShare (dimension : TableDimension) (first second : RowMatch) : Bool :=
  match dimension.lookupType, first, second with
  | .exact, .exact left, .exact right => literalsShare left right
  | .range, .range left, .range right => rangesTouch left right
  | _, _, _ => false

/-- Whether some values match two rows on every dimension. -/
def rowsShare : List TableDimension → List RowMatch → List RowMatch → Bool
  | dimension :: dimensions, first :: firsts, second :: seconds =>
    keysShare dimension first second && rowsShare dimensions firsts seconds
  | _, _, _ => true

/-- Whether no two rows of a table share keys on every dimension. -/
def RateTable.Separate (table : RateTable) : Prop :=
  table.rows.Pairwise fun first second =>
    rowsShare table.dimensions first.rowMatches second.rowMatches = false

instance (table : RateTable) : Decidable table.Separate :=
  inferInstanceAs (Decidable (List.Pairwise _ _))

/-- Whether a lookup fails with several matching rows. -/
def Ambiguous (result : Except Failure (Decimal × TableRow)) : Prop :=
  ∃ tableId matching dimensions,
    result = .error (.oracle (.ambiguousRows tableId matching dimensions))

/-- Numbers print as their decimals. -/
theorem Value.number_text {value : Value} {place : Line} (number : value.isNumber = true)
    (placed : value.place? = some place) :
    ∃ read : Decimal, value.toDecimal = .ok read ∧ value.text = read.text ∧ read.place = place := by
  rcases value.place?_cases with ⟨read, other, found, converted, -, rfl⟩ | ⟨absent, -⟩
  · obtain rfl := Option.some.inj (placed.symm.trans found)
    refine ⟨read, converted, ?_, rfl⟩
    cases value with
    | int value =>
      obtain rfl := Except.ok.inj converted
      exact intText_eq value
    | decimal value =>
      obtain rfl := Except.ok.inj converted
      rfl
    | str value => cases number
    | bool value => cases number
    | date value => cases number
  · rw [absent] at placed
    cases placed

/-- A text that agrees with the printed text of a number is read as it. -/
theorem number?_of_text {text : String} {number : Decimal}
    (same : Text.strip number.text = Text.strip text.toList) :
    (Literal.str text).number? = some number := by
  have read : Decimal.parse text.toList = some number := by
    rw [← Decimal.parse_text number]
    unfold Decimal.parse
    rw [same]
  simp [Literal.number?, read, same]

/-- A value equals a literal as a number of the same place, or by its trimmed text; a number equals only
text by its text. -/
theorem Literal.equals_cases {key : Literal} {value : Value}
    (comparable : key.comparable value = true) (equal : key.equals value = true) :
    (value.isNumber = true ∧ key.isText = false ∧
      ∃ number, key.number? = some number ∧ value.place? = some number.place) ∨
    (Text.strip value.text = Text.strip key.toValue.text ∧
      (value.isNumber = true → key.isText = true)) := by
  cases key with
  | str text => exact .inr ⟨eq_of_beq (by cases value <;> exact equal), fun _ => rfl⟩
  | int declared =>
    cases value with
    | int given => exact .inl ⟨rfl, rfl, _, rfl, of_decide_eq_true equal⟩
    | decimal given => exact .inl ⟨rfl, rfl, _, rfl, of_decide_eq_true equal⟩
    | bool given => cases comparable
    | str given => exact .inr ⟨eq_of_beq equal, fun number => by cases number⟩
    | date given => exact .inr ⟨eq_of_beq equal, fun number => by cases number⟩
  | decimal declared =>
    cases value with
    | int given => exact .inl ⟨rfl, rfl, _, rfl, of_decide_eq_true equal⟩
    | decimal given => exact .inl ⟨rfl, rfl, _, rfl, of_decide_eq_true equal⟩
    | bool given => cases comparable
    | str given => exact .inr ⟨eq_of_beq equal, fun number => by cases number⟩
    | date given => exact .inr ⟨eq_of_beq equal, fun number => by cases number⟩
  | bool declared =>
    cases value with
    | int given => cases comparable
    | decimal given => cases comparable
    | bool given => cases comparable
    | str given => exact .inr ⟨eq_of_beq equal, fun number => by cases number⟩
    | date given => exact .inr ⟨eq_of_beq equal, fun number => by cases number⟩

/-- A text with the text of a number is read as a number of its place. -/
theorem share_number_text {text : Literal} {value : Value} {declared : Decimal}
    (isNumber : value.isNumber = true) (placed : value.place? = some declared.place) (isText : text.isText = true)
    (same : Text.strip value.text = Text.strip text.toValue.text) :
    ∃ read, text.number? = some read ∧ read.place = declared.place := by
  cases text with
  | int declared => cases isText
  | decimal declared => cases isText
  | bool declared => cases isText
  | str text =>
    obtain ⟨read, -, printed, place⟩ := Value.number_text isNumber placed
    refine ⟨read, number?_of_text ?_, place⟩
    rw [← printed]
    exact same

/-- Literals that one value equals share a value. -/
theorem literalsShare_of_equals {first second : Literal} {value : Value}
    (firstComparable : first.comparable value = true)
    (secondComparable : second.comparable value = true)
    (firstEquals : first.equals value = true) (secondEquals : second.equals value = true) :
    literalsShare first second = true := by
  unfold literalsShare
  rcases first.equals_cases firstComparable firstEquals with
    ⟨number, unread, one, found, placed⟩ | ⟨same, textual⟩
  · rcases second.equals_cases secondComparable secondEquals with
      ⟨-, -, other, otherFound, otherPlaced⟩ | ⟨otherSame, otherTextual⟩
    · have place : one.place = other.place :=
        Option.some.inj (placed.symm.trans otherPlaced)
      simp [unread, found, otherFound, samePlace, place]
    · obtain ⟨read, otherFound, place⟩ :=
        share_number_text number placed (otherTextual number) otherSame
      simp [unread, found, otherFound, samePlace, place]
  · rcases second.equals_cases secondComparable secondEquals with
      ⟨number, unread, other, otherFound, otherPlaced⟩ | ⟨otherSame, -⟩
    · obtain ⟨read, found, place⟩ :=
        share_number_text number otherPlaced (textual number) same
      simp [unread, found, otherFound, samePlace, place]
    · have texts := same.symm.trans otherSame
      simp [texts]

/-- A bracket reaches the places from its lower to its upper end. -/
theorem RangeMatch.reachesPlace_iff {bracket : RangeMatch} {place : Line} :
    bracket.reachesPlace place = true ↔
      lowPlace bracket.minimum ≤ place ∧ place ≤ highPlace bracket.maximum := by
  unfold RangeMatch.reachesPlace
  rw [Bool.and_eq_true_iff]
  refine and_congr ?_ ?_
  · cases bracket.minimum with
    | none => simp [lowPlace]
    | some minimum => simp [lowPlace, minimum.place]
  · cases bracket.maximum with
    | none => simp [highPlace]
    | some maximum => simp [highPlace, maximum.place]

/-- Ranges that reach one place touch. -/
theorem rangesTouch_of_reaches {first second : RangeMatch} {place : Line}
    (left : first.reachesPlace place = true) (right : second.reachesPlace place = true) :
    rangesTouch first second = true := by
  obtain ⟨firstLow, firstHigh⟩ := RangeMatch.reachesPlace_iff.mp left
  obtain ⟨secondLow, secondHigh⟩ := RangeMatch.reachesPlace_iff.mp right
  exact Bool.and_eq_true_iff.mpr ⟨decide_eq_true (firstLow.trans secondHigh),
    decide_eq_true (secondLow.trans firstHigh)⟩

/-- Keys that one value reaches share a value. -/
theorem keysShare_of_reaches {dimension : TableDimension} {first second : RowMatch}
    {value : Option Value} (firstComparable : keyComparable dimension first value = true)
    (secondComparable : keyComparable dimension second value = true)
    (firstReaches : keyReaches dimension first value = true)
    (secondReaches : keyReaches dimension second value = true) :
    keysShare dimension first second = true := by
  obtain ⟨inputRef, lookupType⟩ := dimension
  cases value with
  | none => cases firstReaches
  | some value =>
    cases lookupType with
    | exact =>
      cases first with
      | range bracket => cases firstReaches
      | exact left =>
        cases second with
        | range bracket => cases secondReaches
        | exact right =>
          exact literalsShare_of_equals firstComparable secondComparable firstReaches
            secondReaches
    | range =>
      cases first with
      | exact literal => cases firstReaches
      | range left =>
        cases second with
        | exact literal => cases secondReaches
        | range right =>
          obtain ⟨place, placed, leftReaches⟩ := (Option.any_eq_true _ _).mp firstReaches
          obtain ⟨other, otherPlaced, rightReaches⟩ := (Option.any_eq_true _ _).mp secondReaches
          obtain rfl := Option.some.inj (placed.symm.trans otherPlaced)
          exact rangesTouch_of_reaches leftReaches rightReaches

/-- Rows that the same values reach share keys. -/
theorem rowsShare_of_reaches {lookup : String → Option Value} {dimensions : List TableDimension}
    {first second : List RowMatch}
    (firstComparable : rowComparable lookup dimensions first = true)
    (secondComparable : rowComparable lookup dimensions second = true)
    (firstReaches : rowReaches lookup dimensions first = true)
    (secondReaches : rowReaches lookup dimensions second = true) :
    rowsShare dimensions first second = true := by
  induction dimensions generalizing first second with
  | nil => rfl
  | cons dimension dimensions ih =>
    cases first with
    | nil => rfl
    | cons left first =>
      cases second with
      | nil => rfl
      | cons right second =>
        unfold rowComparable at firstComparable secondComparable
        unfold rowReaches at firstReaches secondReaches
        obtain ⟨leftReaches, firstReaches⟩ := Bool.and_eq_true_iff.mp firstReaches
        obtain ⟨rightReaches, secondReaches⟩ := Bool.and_eq_true_iff.mp secondReaches
        rw [leftReaches] at firstComparable
        rw [rightReaches] at secondComparable
        obtain ⟨leftComparable, firstComparable⟩ := Bool.and_eq_true_iff.mp firstComparable
        obtain ⟨rightComparable, secondComparable⟩ := Bool.and_eq_true_iff.mp secondComparable
        exact Bool.and_eq_true_iff.mpr
          ⟨keysShare_of_reaches leftComparable rightComparable leftReaches rightReaches,
            ih firstComparable secondComparable firstReaches secondReaches⟩

/-- A lookup that fails with several matching rows has compared every row and reached two that share
keys. -/
theorem RateTable.Separate.unambiguous {table : RateTable} (separate : table.Separate)
    (lookup : String → Option Value) : ¬Ambiguous (lookupTable table lookup) := by
  rintro ⟨tableId, matching, dimensions, failed⟩
  by_cases comparable : ∀ row ∈ table.rows, rowComparable lookup table.dimensions row.rowMatches
  · rw [lookupTable_comparable comparable] at failed
    have apart : (reachedRows table lookup).Pairwise fun first second =>
        rowsShare table.dimensions first.rowMatches second.rowMatches = false :=
      separate.sublist List.filter_sublist
    rcases reached : reachedRows table lookup with _ | ⟨first, _ | ⟨second, rest⟩⟩
    · rw [reached] at failed
      by_cases two : 1 < table.dimensions.length
      · simp [RateTable.outcomeAmong, two] at failed
      · simp [RateTable.outcomeAmong, two] at failed
    · rw [reached] at failed
      cases failed
    · have members : ∀ row ∈ [first, second], row ∈ reachedRows table lookup := by
        intro row member
        rw [reached]
        rcases List.mem_cons.mp member with rfl | member
        · exact List.mem_cons_self
        · exact List.mem_cons_of_mem _ (List.mem_singleton.mp member ▸ List.mem_cons_self)
      have facts := fun row member => List.mem_filter.mp (members row member)
      obtain ⟨firstMember, firstReaches⟩ := facts first (by simp)
      obtain ⟨secondMember, secondReaches⟩ := facts second (by simp)
      rw [reached] at apart
      have split := List.rel_of_pairwise_cons apart (List.mem_cons_self : second ∈ second :: rest)
      rw [rowsShare_of_reaches (comparable first firstMember) (comparable second secondMember)
        firstReaches secondReaches] at split
      cases split
  · obtain ⟨signal, raised⟩ := (matchingRows_eq lookup table.dimensions table.rows).2 comparable
    unfold lookupTable at failed
    rw [raised] at failed
    cases failed

/-- Whether a value can be compared with every key of a dimension but booleans. -/
def Plain (dimension : TableDimension) (value : Value) : Prop :=
  ∀ key : RowMatch, (∀ declared, key ≠ .exact (.bool declared)) →
    keyComparable dimension key (some value) = true

/-- Texts can be compared with every literal. -/
theorem plain_text (inputRef : String) (text : String) :
    Plain ⟨inputRef, .exact⟩ (.str text) := by
  intro key _
  cases key with
  | exact literal => cases literal <;> rfl
  | range bracket => rfl

/-- Numbers can be compared with every key but booleans. -/
theorem plain_number (dimension : TableDimension) {value : Value} {place : Line}
    (number : value.isNumber = true) (placed : value.place? = some place) :
    Plain dimension value := by
  intro key unboolean
  obtain ⟨inputRef, lookupType⟩ := dimension
  cases lookupType with
  | range =>
    cases key with
    | exact literal => rfl
    | range bracket => simp [keyComparable, placed]
  | exact =>
    cases key with
    | range bracket => rfl
    | exact literal =>
      cases literal with
      | bool declared => exact absurd rfl (unboolean declared)
      | str declared => cases value <;> rfl
      | int declared =>
        cases value with
        | int given => rfl
        | decimal given =>
          cases given with
          | finite negative coefficient exponent => rfl
          | infinity negative => rfl
          | nan signaling => cases placed
        | str given => cases number
        | bool given => cases number
        | date given => cases number
      | decimal declared =>
        cases value with
        | int given => rfl
        | decimal given =>
          cases given with
          | finite negative coefficient exponent => rfl
          | infinity negative => rfl
          | nan signaling => cases placed
        | str given => cases number
        | bool given => cases number
        | date given => cases number

/-- Text of a literal. -/
theorem Literal.equals_text (key : Literal) (text : String)
    (same : Text.strip text.toList = Text.strip key.toValue.text) :
    key.equals (.str text) = true := by
  cases key <;> exact beq_iff_eq.mpr same

/-- A number literal equals the decimals of its place. -/
theorem Literal.equals_number {key : Literal} {declared given : Decimal}
    (unread : key.isText = false) (found : key.number? = some declared)
    (placed : (Value.decimal given).place? = some declared.place) :
    key.equals (.decimal given) = true := by
  cases key with
  | int value =>
    obtain rfl := Option.some.inj found
    exact decide_eq_true placed
  | decimal value =>
    obtain rfl := Option.some.inj found
    exact decide_eq_true placed
  | str value => cases unread
  | bool value => cases found

/-- A defined decimal is a value of its place. -/
theorem Value.place?_of_defined {number : Decimal} (defined : number.Defined) :
    (Value.decimal number).place? = some number.place := by
  cases number with
  | finite negative coefficient exponent => rfl
  | infinity negative => rfl
  | nan signaling => exact absurd rfl (defined signaling)

/-- The number of a literal that is no text lies at a number, so what shares its place is defined. -/
theorem Literal.number?_finite {key : Literal} {declared : Decimal} (unread : key.isText = false)
    (found : key.number? = some declared) :
    declared.Defined ∧ ∃ number, declared.place = numberPlace number := by
  cases key with
  | int value =>
    obtain rfl := Option.some.inj found
    exact ⟨Decimal.ofInt_defined value, _, rfl⟩
  | decimal value =>
    obtain rfl := Option.some.inj found
    exact ⟨value.defined, _, rfl⟩
  | str value => cases unread
  | bool value => cases found

/-- A decimal at the place of a number is defined. -/
theorem defined_of_place {value : Decimal} {number : ℚ}
    (place : value.place = numberPlace number) : value.Defined := by
  rintro signaling rfl
  exact absurd place (bot_lt_number number).ne

/-- A number that a literal is equals it, and the text that it is printed as. -/
theorem Literal.equals_of_number {key : Literal} {read given : Decimal} {number : ℚ}
    (found : key.number? = some read) (place : read.place = numberPlace number)
    (same : key.isText = true → given = read) (placed : given.place = numberPlace number) :
    key.equals (.decimal given) = true := by
  cases unread : key.isText with
  | false =>
    refine key.equals_number unread found ?_
    rw [Value.place?_of_defined (defined_of_place placed), placed, place]
  | true =>
    cases key with
    | int value => cases unread
    | decimal value => cases unread
    | bool value => cases unread
    | str text =>
      obtain rfl := same unread
      have printed := (Option.filter_eq_some_iff.mp found).2
      exact printed

/-- Literals that share a value equal one that can be compared with every key but booleans. -/
theorem exists_equal {inputRef : String} {first second : Literal}
    (share : literalsShare first second = true) :
    ∃ value, Plain ⟨inputRef, .exact⟩ value ∧ first.equals value = true ∧
      second.equals value = true := by
  unfold literalsShare at share
  rcases Bool.or_eq_true_iff.mp share with texts | numbers
  · refine ⟨.str (String.ofList first.toValue.text), plain_text _ _, ?_, ?_⟩
    · exact first.equals_text _ (by rw [String.toList_ofList])
    · exact second.equals_text _ (by rw [String.toList_ofList]; exact eq_of_beq texts)
  · obtain ⟨textless, places⟩ := Bool.and_eq_true_iff.mp numbers
    cases firstFound : first.number? with
    | none => simp [firstFound, samePlace] at places
    | some left =>
      cases secondFound : second.number? with
      | none => simp [firstFound, secondFound, samePlace] at places
      | some right =>
        rw [firstFound, secondFound] at places
        have place : left.place = right.place := of_decide_eq_true places
        have plain : ∀ {given : Decimal} {number : ℚ}, given.place = numberPlace number →
            Plain ⟨inputRef, .exact⟩ (.decimal given) := fun placed =>
          plain_number _ rfl (Value.place?_of_defined (defined_of_place placed))
        cases unread : first.isText with
        | false =>
          obtain ⟨-, number, placed⟩ := Literal.number?_finite unread firstFound
          have other : right.place = numberPlace number := place.symm.trans placed
          exact ⟨.decimal right, plain other,
            Literal.equals_of_number firstFound placed (fun text => by
              rw [unread] at text; cases text) other,
            Literal.equals_of_number secondFound other (fun _ => rfl) other⟩
        | true =>
          have otherUnread : second.isText = false := by
            rw [unread, Bool.true_and] at textless
            simpa using textless
          obtain ⟨-, number, placed⟩ := Literal.number?_finite otherUnread secondFound
          have other : left.place = numberPlace number := place.trans placed
          exact ⟨.decimal left, plain other,
            Literal.equals_of_number firstFound other (fun _ => rfl) other,
            Literal.equals_of_number secondFound placed (fun text => by
              rw [otherUnread] at text; cases text) other⟩

/-- Ranges that touch reach the later lower end, or without lower ends the earlier upper end. -/
theorem exists_reached {first second : RangeMatch}
    (later : lowPlace first.minimum ≤ lowPlace second.minimum)
    (touch : rangesTouch first second = true) :
    ∃ bound : Bound, first.reachesPlace bound.toDecimal.place = true ∧
      second.reachesPlace bound.toDecimal.place = true := by
  obtain ⟨forth, back⟩ := Bool.and_eq_true_iff.mp touch
  have ends := of_decide_eq_true back
  simp only [RangeMatch.reachesPlace_iff]
  cases low : second.minimum with
  | some minimum =>
    have place : lowPlace (some minimum) = minimum.toDecimal.place := minimum.place.symm
    rw [low, place] at later ends
    have ordered := second.places_ordered
    rw [low, place] at ordered
    refine ⟨minimum, ⟨later, ends⟩, place.le, ordered⟩
  | none =>
    rw [low] at later
    have unbounded : first.minimum = none := by
      cases start : first.minimum with
      | none => rfl
      | some minimum =>
        rw [start] at later
        exact absurd (bot_lt_number minimum.number) (not_lt.mpr later)
    obtain ⟨left, leftFound⟩ := Option.isSome_iff_exists.mp
      (first.bounded.resolve_left (by simp [unbounded]))
    obtain ⟨right, rightFound⟩ := Option.isSome_iff_exists.mp
      (second.bounded.resolve_left (by simp [low]))
    have leftPlace : highPlace (some left) = left.toDecimal.place := left.place.symm
    have rightPlace : highPlace (some right) = right.toDecimal.place := right.place.symm
    rw [unbounded, leftFound, rightFound, leftPlace, rightPlace]
    rcases le_total left.toDecimal.place right.toDecimal.place with earlier | earlier
    · exact ⟨left, ⟨bot_le, le_rfl⟩, bot_le, earlier⟩
    · exact ⟨right, ⟨bot_le, earlier⟩, bot_le, le_rfl⟩

/-- Value of a bound. -/
def Bound.asValue : Bound → Value
  | int value => .int value
  | decimal value => .decimal value.toDecimal

/-- The value of a bound is a number at its place. -/
theorem Bound.asValue_place (bound : Bound) :
    bound.asValue.isNumber = true ∧ bound.asValue.place? = some bound.toDecimal.place := by
  cases bound with
  | int value => exact ⟨rfl, rfl⟩
  | decimal value => exact ⟨rfl, rfl⟩

/-- Keys that share a value are reached by one that can be compared with every key but booleans. -/
theorem exists_value {dimension : TableDimension} {first second : RowMatch}
    (share : keysShare dimension first second = true) :
    ∃ value, Plain dimension value ∧ keyReaches dimension first (some value) = true ∧
      keyReaches dimension second (some value) = true := by
  obtain ⟨inputRef, lookupType⟩ := dimension
  cases lookupType with
  | exact =>
    cases first with
    | range bracket => cases share
    | exact left =>
      cases second with
      | range bracket => cases share
      | exact right => exact exists_equal share
  | range =>
    cases first with
    | exact literal => cases share
    | range left =>
      cases second with
      | exact literal => cases share
      | range right =>
        have bound : ∃ bound : Bound, left.reachesPlace bound.toDecimal.place = true ∧
            right.reachesPlace bound.toDecimal.place = true := by
          rcases le_total (lowPlace left.minimum) (lowPlace right.minimum) with later | later
          · exact exists_reached later share
          · have turned : rangesTouch right left = true := (Bool.and_comm _ _).trans share
            obtain ⟨bound, rightReaches, leftReaches⟩ := exists_reached later turned
            exact ⟨bound, leftReaches, rightReaches⟩
        obtain ⟨bound, leftReaches, rightReaches⟩ := bound
        obtain ⟨number, placed⟩ := bound.asValue_place
        refine ⟨bound.asValue, plain_number _ number placed, ?_, ?_⟩
        · simp [keyReaches, placed, leftReaches]
        · simp [keyReaches, placed, rightReaches]

/-- What a row reaches depends on the looked-up dimensions only. -/
theorem rowReaches_congr {lookup other : String → Option Value} {dimensions : List TableDimension}
    (same : ∀ dimension ∈ dimensions, lookup dimension.inputRef = other dimension.inputRef)
    (keys : List RowMatch) :
    rowReaches lookup dimensions keys = rowReaches other dimensions keys := by
  induction dimensions generalizing keys with
  | nil => rfl
  | cons dimension dimensions ih =>
    cases keys with
    | nil => rfl
    | cons key keys =>
      unfold rowReaches
      rw [same dimension List.mem_cons_self,
        ih (fun other member => same other (List.mem_cons_of_mem _ member)) keys]

/-- Rows that share keys on dimensions of different inputs are reached by values that can be compared
with every key but booleans. -/
theorem exists_lookup {dimensions : List TableDimension}
    (distinct : (dimensions.map (·.inputRef)).Nodup) {first second : List RowMatch}
    (share : rowsShare dimensions first second = true)
    (firstKeyed : first.length = dimensions.length)
    (secondKeyed : second.length = dimensions.length) :
    ∃ lookup : String → Option Value,
      (∀ dimension ∈ dimensions, ∃ value, lookup dimension.inputRef = some value ∧
        Plain dimension value) ∧
      rowReaches lookup dimensions first = true ∧ rowReaches lookup dimensions second = true := by
  induction dimensions generalizing first second with
  | nil => exact ⟨fun _ => none, fun _ member => absurd member List.not_mem_nil, rfl, rfl⟩
  | cons dimension dimensions ih =>
    cases first with
    | nil => cases firstKeyed
    | cons left first =>
      cases second with
      | nil => cases secondKeyed
      | cons right second =>
        obtain ⟨fresh, distinct⟩ := List.nodup_cons.mp distinct
        obtain ⟨here, there⟩ := Bool.and_eq_true_iff.mp share
        obtain ⟨value, plain, leftReaches, rightReaches⟩ := exists_value here
        obtain ⟨lookup, known, firstReaches, secondReaches⟩ := ih distinct there
          (Nat.succ.inj firstKeyed) (Nat.succ.inj secondKeyed)
        have elsewhere : ∀ other ∈ dimensions,
            (if other.inputRef = dimension.inputRef then some value
              else lookup other.inputRef) = lookup other.inputRef := by
          intro other member
          exact if_neg fun same => fresh (List.mem_map.mpr ⟨other, member, same⟩)
        refine ⟨fun id => if id = dimension.inputRef then some value else lookup id, ?_, ?_, ?_⟩
        · intro other member
          rcases List.mem_cons.mp member with rfl | member
          · exact ⟨value, if_pos rfl, plain⟩
          · obtain ⟨found, looked, otherPlain⟩ := known other member
            exact ⟨found, (elsewhere other member).trans looked, otherPlain⟩
        · unfold rowReaches
          rw [if_pos rfl, rowReaches_congr elsewhere]
          exact Bool.and_eq_true_iff.mpr ⟨leftReaches, firstReaches⟩
        · unfold rowReaches
          rw [if_pos rfl, rowReaches_congr elsewhere]
          exact Bool.and_eq_true_iff.mpr ⟨rightReaches, secondReaches⟩

/-- Whether no key of a table is a boolean. -/
def RateTable.Unboolean (table : RateTable) : Prop :=
  ∀ row ∈ table.rows, ∀ key ∈ row.rowMatches, ∀ declared, key ≠ .exact (.bool declared)

/-- Values that can be compared with every key but booleans can be compared with a row. -/
theorem rowComparable_of_plain {lookup : String → Option Value}
    {dimensions : List TableDimension} {keys : List RowMatch}
    (plain : ∀ dimension ∈ dimensions, ∃ value, lookup dimension.inputRef = some value ∧
      Plain dimension value)
    (unboolean : ∀ key ∈ keys, ∀ declared, key ≠ .exact (.bool declared)) :
    rowComparable lookup dimensions keys = true := by
  induction dimensions generalizing keys with
  | nil => rfl
  | cons dimension dimensions ih =>
    cases keys with
    | nil => rfl
    | cons key keys =>
      obtain ⟨value, looked, comparable⟩ := plain dimension List.mem_cons_self
      have rest := ih (fun other member => plain other (List.mem_cons_of_mem _ member))
        (fun other member => unboolean other (List.mem_cons_of_mem _ member))
      unfold rowComparable
      rw [looked, comparable key (unboolean key List.mem_cons_self), rest, Bool.or_true]
      rfl

/-- Two rows of a table without boolean keys that share keys on dimensions of different inputs are both
reached by some lookup. -/
theorem RateTable.separate_of_unambiguous {table : RateTable}
    (distinct : (table.dimensions.map (·.inputRef)).Nodup) (unboolean : table.Unboolean)
    (never : ∀ lookup, ¬Ambiguous (lookupTable table lookup)) : table.Separate := by
  unfold RateTable.Separate
  rw [List.pairwise_iff_forall_sublist]
  intro first second sublist
  by_contra shares
  have share : rowsShare table.dimensions first.rowMatches second.rowMatches = true := by
    simpa using shares
  have firstMember : first ∈ table.rows := sublist.subset (by simp)
  have secondMember : second ∈ table.rows := sublist.subset (by simp)
  obtain ⟨lookup, plain, firstReaches, secondReaches⟩ := exists_lookup distinct share
    (table.keyed first firstMember) (table.keyed second secondMember)
  have comparable : ∀ row ∈ table.rows, rowComparable lookup table.dimensions row.rowMatches :=
    fun row member => rowComparable_of_plain plain (unboolean row member)
  have both : [first, second].Sublist (reachedRows table lookup) := by
    have kept := sublist.filter fun row => rowReaches lookup table.dimensions row.rowMatches
    rw [List.filter_eq_self.mpr (by simp [firstReaches, secondReaches])] at kept
    exact kept
  refine never lookup ?_
  rw [lookupTable_comparable comparable]
  rcases reached : reachedRows table lookup with _ | ⟨one, _ | ⟨other, rest⟩⟩
  · rw [reached] at both
    exact absurd both.length_le (by simp)
  · rw [reached] at both
    exact absurd both.length_le (by simp)
  · exact ⟨_, _, _, rfl⟩

/-- Tables that passed the coverage check. -/
inductive Checked (table : RateTable) : Prop where
  /-- A table with one range dimension and no finding. -/
  | range (ranged : table.dimensions.map (·.lookupType) = [.range])
      (passed : validateRangeCoverage table = [])
  /-- A table of a validated 0.2 package. -/
  | package (package : PackageV2) (valid : package.Valid) (member : table ∈ package.tables)

/-- A checked table has no finding. -/
theorem Checked.passed {table : RateTable} (checked : Checked table) :
    validateRangeCoverage table = [] := by
  cases checked with
  | range ranged passed => exact passed
  | package package valid member => exact valid.covered table member

/-- In a checked table that has to cover its domain, every place from the smallest minimum to the largest
maximum is reached by a row. -/
theorem Checked.reaches {table : RateTable} (checked : Checked table)
    (ranged : table.dimensions.map (·.lookupType) = [.range])
    (total : table.requiresTotalCoverage = true) (undefaulted : table.defaultValue = none)
    {place : Line} (above : ∃ row ∈ table.rangeRows, lowPlace row.2.minimum ≤ place)
    (below : ∃ row ∈ table.rangeRows, place ≤ highPlace row.2.maximum) :
    ∃ row ∈ table.rangeRows, row.2.reachesPlace place = true := by
  have joined : ¬Jumps (sortedSpans table.rangeRows) := by
    intro jumps
    obtain ⟨previousHigh, nextLow, reported⟩ : ∃ previousHigh nextLow,
        .gap table.id previousHigh nextLow ∈ gapIssues table.id table.rangeRows :=
      gap_reported.mpr jumps
    have found := validateRangeCoverage_total ranged total undefaulted
    rw [checked.passed] at found
    have member := List.mem_append_right (overlapIssues table.id table.rangeRows) reported
    rw [← found] at member
    exact absurd member List.not_mem_nil
  have sorted : (sortedSpans table.rangeRows).Pairwise
      fun first second => first.low ≤ second.low := List.pairwise_insertionSort _ _
  have members : ∀ span, span ∈ sortedSpans table.rangeRows ↔
      ∃ row ∈ table.rangeRows, row.2.span = span := by
    intro span
    unfold sortedSpans spans
    rw [List.mem_insertionSort, List.mem_map]
  obtain ⟨first, firstMember, lower⟩ := above
  obtain ⟨last, lastMember, upper⟩ := below
  obtain ⟨span, member, low, high⟩ := between_of_not_jumps sorted joined
    ⟨first.2.span, (members _).mpr ⟨first, firstMember, rfl⟩, lower⟩
    ⟨last.2.span, (members _).mpr ⟨last, lastMember, rfl⟩, upper⟩
  obtain ⟨row, rowMember, rfl⟩ := (members span).mp member
  exact ⟨row, rowMember, RangeMatch.reachesPlace_iff.mpr ⟨low, high⟩⟩

/-- A range row has its range as its only key. -/
theorem RateTable.rangeRow_keys {table : RateTable} (one : table.dimensions.length = 1)
    {row : TableRow × RangeMatch} (member : row ∈ table.rangeRows) :
    row.1 ∈ table.rows ∧ row.1.rowMatches = [.range row.2] := by
  obtain ⟨found, foundMember, picked⟩ := List.mem_filterMap.mp member
  have keyed := table.keyed found foundMember
  rw [one] at keyed
  obtain ⟨key, single⟩ := List.length_eq_one_iff.mp keyed
  rw [single] at picked
  cases key with
  | exact value => cases picked
  | range bracket =>
    obtain rfl := Option.some.inj picked
    exact ⟨foundMember, single⟩

/-- A lookup in a table with one range dimension that some range reaches finds a row. -/
theorem matched_of_reaches {table : RateTable} {lookup : String → Option Value}
    {dimension : TableDimension} {value : Value} {place : Line}
    (ranged : table.dimensions = [dimension]) (range : dimension.lookupType = .range)
    (looked : lookup dimension.inputRef = some value) (placed : value.place? = some place)
    (reaches : ∃ row ∈ table.rangeRows, row.2.reachesPlace place = true)
    (dimensions : List (String × Option Value)) :
    lookupTable table lookup ≠ .error (.oracle (.noMatchingRow table.id dimensions)) := by
  obtain ⟨inputRef, lookupType⟩ := dimension
  obtain rfl : lookupType = .range := range
  have comparable : ∀ row ∈ table.rows, rowComparable lookup table.dimensions row.rowMatches := by
    intro row member
    have keyed := table.keyed row member
    rw [ranged] at keyed ⊢
    obtain ⟨key, single⟩ := List.length_eq_one_iff.mp keyed
    have known : keyComparable ⟨inputRef, .range⟩ key (some value) = true := by
      cases key with
      | exact literal => rfl
      | range bracket => simp [keyComparable, placed]
    simp [single, rowComparable, looked, known]
  obtain ⟨row, member, reached⟩ := reaches
  obtain ⟨rowMember, keys⟩ := table.rangeRow_keys (by rw [ranged]; rfl) member
  have found : row.1 ∈ reachedRows table lookup := by
    refine List.mem_filter.mpr ⟨rowMember, ?_⟩
    rw [ranged, keys]
    simp [rowReaches, keyReaches, looked, placed, reached]
  rw [lookupTable_comparable comparable]
  rcases every : reachedRows table lookup with _ | ⟨one, _ | ⟨other, rest⟩⟩
  · rw [every] at found
    exact absurd found List.not_mem_nil
  · exact fun same => by cases same
  · exact fun same => by cases same

/-- A checked table is looked up without ambiguity if no two of its rows share keys on every dimension,
and only then where its dimensions look up different inputs and no key is a boolean. One that has
to cover its domain has a row for every number of it. -/
theorem checked_lookup (table : RateTable) (checked : Checked table) :
    (table.Separate → ∀ lookup, ¬Ambiguous (lookupTable table lookup)) ∧
    ((table.dimensions.map (·.inputRef)).Nodup → table.Unboolean →
      (∀ lookup, ¬Ambiguous (lookupTable table lookup)) → table.Separate) ∧
    (table.dimensions.map (·.lookupType) = [.range] → table.requiresTotalCoverage = true →
      table.defaultValue = none →
      ∀ (lookup : String → Option Value) (dimension : TableDimension) (value : Value)
        (place : Line), dimension ∈ table.dimensions →
        lookup dimension.inputRef = some value → value.place? = some place →
        (∃ row ∈ table.rangeRows, lowPlace row.2.minimum ≤ place) →
        (∃ row ∈ table.rangeRows, place ≤ highPlace row.2.maximum) →
        ∀ dimensions,
          lookupTable table lookup ≠ .error (.oracle (.noMatchingRow table.id dimensions))) := by
  refine ⟨fun separate => separate.unambiguous, fun distinct unboolean never =>
    RateTable.separate_of_unambiguous distinct unboolean never, ?_⟩
  intro ranged total undefaulted lookup dimension value place member looked placed above below
  obtain ⟨only, single, range⟩ : ∃ only, table.dimensions = [only] ∧ only.lookupType = .range := by
    obtain ⟨only, single⟩ := List.length_eq_one_iff.mp
      (show table.dimensions.length = 1 by simpa using congrArg List.length ranged)
    rw [single] at ranged
    exact ⟨only, single, (List.cons.inj ranged).1⟩
  rw [single] at member
  obtain rfl := List.mem_singleton.mp member
  exact matched_of_reaches single range looked placed
    (checked.reaches ranged total undefaulted above below)

/-- Factors of the ages up to seventeen and from eighteen on. -/
def separateTable : RateTable where
  id := "age_factors"
  dimensions := [⟨"vehicle_age", .range⟩]
  rows := [⟨[.range (integerRange 0 17 rfl)], ⟨false, 4, 0⟩, none⟩,
    ⟨[.range (integerRange 18 30 rfl)], ⟨false, 5, 0⟩, none⟩]
  effectivePeriod := none
  requiresTotalCoverage := false
  defaultValue := none
  dimensioned := .inl rfl
  keyed := by decide

/-- Separate ranges are looked up without ambiguity. -/
theorem checked_lookup_separate :
    ¬Ambiguous (lookupTable separateTable fun _ => some (.int 5)) :=
  (checked_lookup separateTable (.range rfl (by decide +kernel))).1 (by decide +kernel)
    fun _ => some (.int 5)

/-- A checked table may be looked up with ambiguity: of two ranges that touch, the first excludes the common
end, but the lookup of it matches both. -/
theorem checked_ambiguous :
    ¬∀ table, Checked table → ∀ lookup, ¬Ambiguous (lookupTable table lookup) := by
  intro never
  exact never touchingTable (.range rfl (by decide +kernel)) (fun _ => some (.int 10))
    ⟨_, _, _, rfl⟩

end RateGuard
