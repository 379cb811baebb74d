import RateGuard.Foundation.Decimal
import RateGuard.Foundation.Text

/-!
# Scientific text of decimals

Printing keeps coefficient and exponent, so reading the text of a decimal gives
the same decimal and not merely the same number. Reading also accepts outer
whitespace, underscores, digits of other scripts and named specials.
-/

open Text

namespace DecimalFloat.Decimal

/-- Digits of a coefficient with a point after the given number of places. -/
def pointed (coefficient : List Char) (places : Int) : List Char :=
  if places ≤ 0 then '0' :: '.' :: (List.replicate (-places).toNat '0' ++ coefficient)
  else if coefficient.length ≤ places then
    coefficient ++ List.replicate (places - coefficient.length).toNat '0'
  else coefficient.take places.toNat ++ '.' :: coefficient.drop places.toNat

/-- Signed exponent suffix, absent for exponent zero. -/
def exponentText (exponent : Int) : List Char :=
  if exponent = 0 then []
  else if exponent < 0 then 'E' :: '-' :: digitsOf (-exponent).toNat
  else 'E' :: '+' :: digitsOf exponent.toNat

/-- Places before the point: all of them in plain notation, else one. -/
def pointPlaces (count : Nat) (exponent : Int) : Int :=
  if exponent ≤ 0 ∧ -6 < exponent + count then exponent + count else 1

/-- Unsigned scientific text: plain notation for small nonpositive exponents. -/
def magnitudeText (coefficient : Nat) (exponent : Int) : List Char :=
  pointed (digitsOf coefficient) (pointPlaces (digitsOf coefficient).length exponent) ++
    exponentText (exponent + (digitsOf coefficient).length -
      pointPlaces (digitsOf coefficient).length exponent)

/-- Text of a decimal. -/
def text : Decimal → List Char
  | finite negative coefficient exponent =>
    (if negative then ['-'] else []) ++ magnitudeText coefficient exponent
  | infinity negative => (if negative then ['-'] else []) ++ "Infinity".toList
  | nan signaling => if signaling then "sNaN".toList else "NaN".toList

/-- Exponent suffix of a numeric string. -/
def parseExponent : List Char → Option Int
  | [] => some 0
  | mark :: rest =>
    if mark = 'E' ∨ mark = 'e' then
      let negative := rest.head? == some '-'
      let digits := if rest.head? == some '-' || rest.head? == some '+' then rest.tail else rest
      if digits ≠ [] ∧ digits.all Text.isDigit then some (signed negative (numeral digits))
      else none
    else none

/-- Unsigned numeric string: digits, an optional point with digits, an exponent. -/
def parseMagnitude (negative : Bool) (text : List Char) : Option Decimal :=
  let whole := text.takeWhile Text.isDigit
  let rest := text.dropWhile Text.isDigit
  let pointed := rest.head? == some '.'
  let fraction := if pointed then rest.tail.takeWhile Text.isDigit else []
  let suffix := if pointed then rest.tail.dropWhile Text.isDigit else rest
  if whole = [] ∧ fraction = [] then none
  else (parseExponent suffix).map fun exponent =>
    finite negative (numeral (whole ++ fraction)) (exponent - fraction.length)

/-- Unsigned text: a named special or a numeric string. -/
def parseUnsigned (negative : Bool) (text : List Char) : Option Decimal :=
  let lowered := text.map Char.toLower
  if lowered = "inf".toList ∨ lowered = "infinity".toList then some (infinity negative)
  else if lowered.take 3 = "nan".toList ∧ (text.drop 3).all Text.isDigit then some (nan false)
  else if lowered.take 4 = "snan".toList ∧ (text.drop 4).all Text.isDigit then some (nan true)
  else parseMagnitude negative text

/-- Decimal read from text, or nothing when the syntax is not a number's. -/
def parse (text : List Char) : Option Decimal :=
  match (strip text).filter (· ≠ '_') with
  | '-' :: rest => parseUnsigned true rest
  | '+' :: rest => parseUnsigned false rest
  | rest => parseUnsigned false rest

/-- A boundary character ends a run of digits. -/
theorem digits_run {run : List Char} (rest : List Char) (basic : ∀ c ∈ run, c.isDigit)
    (boundary : ∀ c, rest.head? = some c → Text.isDigit c = false) :
    (run ++ rest).takeWhile Text.isDigit = run ∧ (run ++ rest).dropWhile Text.isDigit = rest := by
  have digits : ∀ c ∈ run, Text.isDigit c = true := fun c member =>
    isDigit_of_basic (basic c member)
  rw [List.takeWhile_append_of_pos digits, List.dropWhile_append_of_pos digits]
  cases rest with
  | nil => simp
  | cons first tail => simp [boundary first rfl]

/-- Whether a character can stand in printed numeric text. -/
def Printed (character : Char) : Prop := isSpace character = false ∧ character ≠ '_'

/-- A basic digit is printed text. -/
theorem printed_of_isDigit {character : Char} (digit : character.isDigit) :
    Printed character := by
  have bounds : 48 ≤ character.toNat ∧ character.toNat ≤ 57 := Char.isDigit_iff_toNat.mp digit
  have gap : ∀ code ∈ spaces, code < 48 ∨ 57 < code := by decide
  constructor
  · rw [isSpace, Bool.eq_false_iff]
    intro space
    have outside := gap _ (List.contains_iff_mem.mp space)
    omega
  · rintro rfl
    exact absurd digit (by decide)

/-- Exponent suffixes read back. -/
theorem parseExponent_exponentText (exponent : Int) :
    parseExponent (exponentText exponent) = some exponent := by
  have parsed : ∀ magnitude : Nat, (digitsOf magnitude).all Text.isDigit = true := by
    intro magnitude
    rw [List.all_eq_true]
    exact fun c member => isDigit_of_basic (digitsOf_basic member)
  have some_digits : ∀ magnitude : Nat, digitsOf magnitude ≠ [] := fun _ => Nat.toDigits_ne_nil
  unfold exponentText
  by_cases none : exponent = 0
  · rw [if_pos none, none]
    rfl
  · rw [if_neg none]
    by_cases negative : exponent < 0
    · rw [if_pos negative]
      simp only [parseExponent, true_or, if_true, List.head?_cons, beq_self_eq_true, Bool.true_or,
        List.tail_cons, ne_eq, some_digits, not_false_eq_true, parsed, and_self, numeral_digitsOf,
        signed, Option.some.injEq]
      omega
    · rw [if_neg negative]
      have plus : (some '+' == some '-') = false := by decide
      simp only [parseExponent, true_or, if_true, List.head?_cons, plus, beq_self_eq_true,
        Bool.or_true, List.tail_cons, ne_eq, some_digits, not_false_eq_true, parsed, and_self,
        numeral_digitsOf, signed, Bool.false_eq_true, if_false, Option.some.injEq]
      omega

/-- An exponent suffix starts with no digit and no point. -/
theorem exponentText_head {exponent : Int} {first : Char}
    (head : (exponentText exponent).head? = some first) : first = 'E' := by
  unfold exponentText at head
  split at head
  · cases head
  · split at head <;> exact (Option.some.inj head).symm

/-- A number without a point reads back. -/
theorem parseMagnitude_whole (negative : Bool) (whole : List Char) (exponent : Int)
    (basic : ∀ c ∈ whole, c.isDigit) (nonempty : whole ≠ []) :
    parseMagnitude negative (whole ++ exponentText exponent) =
      some (finite negative (numeral whole) exponent) := by
  obtain ⟨taken, dropped⟩ := digits_run (exponentText exponent) basic
    (fun c head => by rw [exponentText_head head]; decide)
  have unpointed : ((exponentText exponent).head? == some '.') = false := by
    rw [beq_eq_false_iff_ne]
    intro head
    exact absurd (exponentText_head head) (by decide)
  unfold parseMagnitude
  simp only [taken, dropped, unpointed, Bool.false_eq_true, if_false, and_true, nonempty,
    parseExponent_exponentText, Option.map_some, List.append_nil, List.length_nil, Nat.cast_zero,
    sub_zero]

/-- A number with a point reads back, its exponent lowered by the fraction digits. -/
theorem parseMagnitude_pointed (negative : Bool) (whole fraction : List Char) (exponent : Int)
    (wholeBasic : ∀ c ∈ whole, c.isDigit) (fractionBasic : ∀ c ∈ fraction, c.isDigit)
    (nonempty : whole ≠ []) :
    parseMagnitude negative (whole ++ '.' :: (fraction ++ exponentText exponent)) =
      some (finite negative (numeral (whole ++ fraction)) (exponent - fraction.length)) := by
  obtain ⟨taken, dropped⟩ :=
    digits_run ('.' :: (fraction ++ exponentText exponent)) wholeBasic
      (fun c head => by rw [← Option.some.inj head]; decide)
  obtain ⟨fractionTaken, fractionDropped⟩ :=
    digits_run (exponentText exponent) fractionBasic
      (fun c head => by rw [exponentText_head head]; decide)
  unfold parseMagnitude
  simp only [taken, dropped, List.head?_cons, beq_self_eq_true, if_true, List.tail_cons,
    fractionTaken, fractionDropped, nonempty, false_and, if_false, parseExponent_exponentText,
    Option.map_some]

/-- Unsigned scientific text reads back with its exponent. -/
theorem parseMagnitude_magnitudeText (negative : Bool) (coefficient : Nat) (exponent : Int) :
    parseMagnitude negative (magnitudeText coefficient exponent) =
      some (finite negative coefficient exponent) := by
  have basic : ∀ c ∈ digitsOf coefficient, c.isDigit := fun _ => digitsOf_basic
  have zeros : ∀ (count : Nat), ∀ c ∈ List.replicate count '0', c.isDigit := by
    intro count c member
    rw [List.eq_of_mem_replicate member]
    rfl
  have length_pos : 0 < (digitsOf coefficient).length := Nat.length_toDigits_pos
  unfold magnitudeText
  generalize digits_def : digitsOf coefficient = digits at basic length_pos
  have value : numeral digits = coefficient := digits_def ▸ numeral_digitsOf coefficient
  generalize places_def : pointPlaces digits.length exponent = places
  have choice : (exponent ≤ 0 ∧ places = exponent + digits.length) ∨ places = 1 := by
    unfold pointPlaces at places_def
    split at places_def
    · exact .inl ⟨by omega, places_def.symm⟩
    · exact .inr places_def.symm
  unfold pointed
  by_cases leading : places ≤ 0
  · have fraction : ∀ c ∈ List.replicate (-places).toNat '0' ++ digits, c.isDigit := by
      intro c member
      exact (List.mem_append.mp member).elim (zeros _ c) (basic c)
    have read := parseMagnitude_pointed negative ['0'] _ (exponent + digits.length - places)
      (zeros 1) fraction (by simp)
    rw [if_pos leading]
    refine read.trans (congrArg some ?_)
    have coefficient_read := numeral_zeros_append (1 + (-places).toNat) digits basic
    rw [List.replicate_add, List.append_assoc, value] at coefficient_read
    rw [show numeral (['0'] ++ (List.replicate (-places).toNat '0' ++ digits)) = coefficient from
      coefficient_read]
    congr 1
    rw [List.length_append, List.length_replicate]
    omega
  · rw [if_neg leading]
    by_cases whole : (digits.length : Int) ≤ places
    · have no_padding : (places - digits.length).toNat = 0 := by omega
      have nonempty : digits ≠ [] := List.ne_nil_of_length_pos length_pos
      rw [if_pos whole, no_padding, List.replicate_zero, List.append_nil,
        parseMagnitude_whole negative digits _ basic nonempty, value]
      congr 2
      omega
    · have split_nonempty : digits.take places.toNat ≠ [] := by
        rw [ne_eq, List.take_eq_nil_iff, ← List.length_eq_zero_iff]
        omega
      rw [if_neg whole, List.append_assoc, List.cons_append]
      rw [parseMagnitude_pointed negative _ _ _ (fun c member => basic c (List.mem_of_mem_take member))
        (fun c member => basic c (List.mem_of_mem_drop member)) split_nonempty,
        List.take_append_drop, value, List.length_drop]
      congr 2
      omega

/-- Every character of unsigned text is printed text, and the first one is a digit. -/
theorem magnitudeText_printed (coefficient : Nat) (exponent : Int) :
    (∀ c ∈ magnitudeText coefficient exponent, Printed c) ∧
      ∃ first rest, magnitudeText coefficient exponent = first :: rest ∧ first.isDigit := by
  have basic : ∀ c ∈ digitsOf coefficient, Printed c := fun _ member =>
    printed_of_isDigit (digitsOf_basic member)
  have zeros : ∀ count : Nat, ∀ c ∈ List.replicate count '0', Printed c := by
    intro count c member
    rw [List.eq_of_mem_replicate member]
    exact printed_of_isDigit (by rfl)
  have suffix : ∀ (shown : Int), ∀ c ∈ exponentText shown, Printed c := by
    intro shown c member
    unfold exponentText at member
    have marks : Printed 'E' ∧ Printed '-' ∧ Printed '+' := by
      unfold Printed
      decide
    split at member
    · cases member
    · split at member
      · rcases List.mem_cons.mp member with rfl | member
        · exact marks.1
        · rcases List.mem_cons.mp member with rfl | member
          · exact marks.2.1
          · exact printed_of_isDigit (digitsOf_basic member)
      · rcases List.mem_cons.mp member with rfl | member
        · exact marks.1
        · rcases List.mem_cons.mp member with rfl | member
          · exact marks.2.2
          · exact printed_of_isDigit (digitsOf_basic member)
  have point : Printed '.' := by
    unfold Printed
    decide
  have places : ∀ (count : Int), ∀ c ∈ pointed (digitsOf coefficient) count, Printed c := by
    intro count c member
    unfold pointed at member
    split at member
    · simp only [List.mem_cons, List.mem_append] at member
      rcases member with rfl | rfl | member | member
      · exact printed_of_isDigit (by rfl)
      · exact point
      · exact zeros _ c member
      · exact basic c member
    · split at member
      · exact (List.mem_append.mp member).elim (basic c) (zeros _ c)
      · simp only [List.mem_cons, List.mem_append] at member
        rcases member with member | rfl | member
        · exact basic c (List.mem_of_mem_take member)
        · exact point
        · exact basic c (List.mem_of_mem_drop member)
  have head : ∀ count : Int, ∃ first rest,
      pointed (digitsOf coefficient) count = first :: rest ∧ first.isDigit := by
    intro count
    have nonempty : digitsOf coefficient ≠ [] := Nat.toDigits_ne_nil
    obtain ⟨first, rest, found⟩ := List.exists_cons_of_ne_nil nonempty
    have digit : first.isDigit := digitsOf_basic (found ▸ List.mem_cons_self)
    unfold pointed
    split
    · exact ⟨'0', _, rfl, rfl⟩
    · split
      · exact ⟨first, _, by rw [found]; rfl, digit⟩
      · obtain ⟨pred, succ⟩ : ∃ pred, count.toNat = pred + 1 := ⟨count.toNat - 1, by omega⟩
        refine ⟨first, rest.take pred ++ '.' :: (first :: rest).drop (pred + 1), ?_, digit⟩
        rw [found, succ, List.take_succ_cons]
        rfl
  constructor
  · intro c member
    unfold magnitudeText at member
    exact (List.mem_append.mp member).elim (places _ c) (suffix _ c)
  · unfold magnitudeText
    obtain ⟨first, rest, found, digit⟩ :=
      head (pointPlaces (digitsOf coefficient).length exponent)
    exact ⟨first, _, by rw [found]; rfl, digit⟩

/-- Digits are not changed by lowering case. -/
theorem toLower_of_isDigit {character : Char} (digit : character.isDigit) :
    character.toLower = character := by
  have bounds : 48 ≤ character.toNat ∧ character.toNat ≤ 57 := Char.isDigit_iff_toNat.mp digit
  have lower : ¬(character.val ≥ 'A'.val ∧ character.val ≤ 'Z'.val) := by
    intro upper
    have above := UInt32.le_iff_toNat_le.mp upper.1
    change 65 ≤ character.toNat at above
    omega
  simp only [Char.toLower, dif_neg lower]

/-- Unsigned numeric text is not taken for a named special. -/
theorem parseUnsigned_magnitudeText (negative : Bool) (coefficient : Nat) (exponent : Int) :
    parseUnsigned negative (magnitudeText coefficient exponent) =
      some (finite negative coefficient exponent) := by
  obtain ⟨-, first, rest, found, digit⟩ := magnitudeText_printed coefficient exponent
  have named : first ≠ 'i' ∧ first ≠ 'n' ∧ first ≠ 's' := by
    refine ⟨?_, ?_, ?_⟩ <;>
    · rintro rfl
      exact absurd digit (by decide)
  have read := parseMagnitude_magnitudeText negative coefficient exponent
  rw [found] at read ⊢
  simp only [parseUnsigned, List.map_cons, toLower_of_isDigit digit, List.take_succ_cons]
  rw [if_neg (by simp [named]), if_neg (by simp [named]), if_neg (by simp [named])]
  exact read

/-- Text without whitespace or underscores reaches the sign unchanged. -/
theorem parse_of_printed (text : List Char) (printed : ∀ c ∈ text, Printed c) :
    (strip text).filter (· ≠ '_') = text := by
  rw [strip_eq_self text fun c member => (printed c member).1, List.filter_eq_self]
  intro c member
  simpa using (printed c member).2

/-- The text of a decimal reads back as that decimal, representation included. -/
theorem parse_text (value : Decimal) : parse value.text = some value := by
  have minus : Printed '-' := by
    unfold Printed
    decide
  cases value with
  | finite negative coefficient exponent =>
    obtain ⟨printed, first, rest, found, digit⟩ := magnitudeText_printed coefficient exponent
    have read := parseUnsigned_magnitudeText negative coefficient exponent
    cases negative with
    | true =>
      have signedPrinted : ∀ c ∈ '-' :: magnitudeText coefficient exponent, Printed c := by
        intro c member
        rcases List.mem_cons.mp member with rfl | member
        · exact minus
        · exact printed c member
      change parse ('-' :: magnitudeText coefficient exponent) = _
      unfold parse
      rw [parse_of_printed _ signedPrinted]
      exact read
    | false =>
      change parse (magnitudeText coefficient exponent) = _
      unfold parse
      rw [parse_of_printed _ printed]
      rw [found] at read ⊢
      split
      · exact absurd digit (by simp_all)
      · exact absurd digit (by simp_all)
      · exact read
  | infinity negative => cases negative <;> decide
  | nan signaling => cases signaling <;> decide

example : parse "-12.50".toList = some (finite true 1250 (-2)) := by decide
example : (finite false 5 (-9)).text = "5E-9".toList := by decide


/-- Whether a text has at most one point and ends in a digit. -/
def Pointed (text : List Char) : Prop :=
  text.count '.' ≤ 1 ∧ ∃ front last, text = front ++ [last] ∧ last.isDigit

/-- Digits have no points. -/
theorem digits_count {text : List Char} (basic : ∀ c ∈ text, c.isDigit) : text.count '.' = 0 := by
  refine List.count_eq_zero.mpr fun member => ?_
  exact absurd (basic '.' member) (by decide)

/-- Digits end in a digit. -/
theorem digits_last {text : List Char} (basic : ∀ c ∈ text, c.isDigit) (nonempty : text ≠ []) :
    ∃ front last, text = front ++ [last] ∧ last.isDigit :=
  ⟨text.dropLast, text.getLast nonempty, (List.dropLast_append_getLast nonempty).symm,
    basic _ (List.getLast_mem nonempty)⟩

/-- Points and last characters of digits behind other text. -/
theorem Pointed.append (front : List Char) {digits : List Char} (few : front.count '.' ≤ 1)
    (basic : ∀ c ∈ digits, c.isDigit) (nonempty : digits ≠ []) : Pointed (front ++ digits) := by
  obtain ⟨start, last, rfl, digit⟩ := digits_last basic nonempty
  refine ⟨?_, front ++ start, last, (List.append_assoc ..).symm, digit⟩
  rw [List.count_append, digits_count basic]
  exact few

/-- A coefficient with a point ends in a digit. -/
theorem pointed_pointed {coefficient : List Char} (basic : ∀ c ∈ coefficient, c.isDigit)
    (nonempty : coefficient ≠ []) (places : Int) : Pointed (pointed coefficient places) := by
  have zeros : ∀ count : Nat, ∀ c ∈ List.replicate count '0', c.isDigit := by
    intro count c member
    rw [List.eq_of_mem_replicate member]
    rfl
  unfold pointed
  split
  · refine Pointed.append ['0', '.'] (by decide) (fun c member => ?_)
      (List.append_ne_nil_of_right_ne_nil _ nonempty)
    exact (List.mem_append.mp member).elim (zeros _ c) (basic c)
  · split
    · refine Pointed.append [] (by decide) (fun c member => ?_)
        (List.append_ne_nil_of_left_ne_nil nonempty _)
      exact (List.mem_append.mp member).elim (basic c) (zeros _ c)
    · rename_i after shorter
      have front : (coefficient.take places.toNat ++ ['.']).count '.' ≤ 1 := by
        rw [List.count_append, digits_count fun c member => basic c (List.mem_of_mem_take member)]
        decide
      have rest : coefficient.drop places.toNat ≠ [] := by
        intro empty
        have length := List.drop_eq_nil_iff.mp empty
        omega
      have whole := Pointed.append _ front
        (fun c member => basic c (List.mem_of_mem_drop member)) rest
      rwa [List.append_assoc] at whole

/-- An exponent suffix keeps the points and ends in a digit. -/
theorem Pointed.exponent {text : List Char} (pointed : Pointed text) (exponent : Int) :
    Pointed (text ++ exponentText exponent) := by
  have some_digits : ∀ magnitude : Nat, digitsOf magnitude ≠ [] := fun _ => Nat.toDigits_ne_nil
  have suffix : ∀ (sign : Char) (magnitude : Nat), sign ≠ '.' →
      Pointed (text ++ 'E' :: sign :: digitsOf magnitude) := by
    intro sign magnitude mark
    have front : (text ++ ['E', sign]).count '.' ≤ 1 := by
      rw [List.count_append, List.count_cons_of_ne (by decide), List.count_cons_of_ne mark,
        List.count_nil, add_zero]
      exact pointed.1
    have whole := Pointed.append _ front (fun _ member => digitsOf_basic member)
      (some_digits magnitude)
    rwa [List.append_assoc] at whole
  unfold exponentText
  split
  · rwa [List.append_nil]
  · split
    · exact suffix '-' _ (by decide)
    · exact suffix '+' _ (by decide)

/-- The text of a finite decimal has at most one point and ends in a digit. -/
theorem text_pointed (negative : Bool) (coefficient : Nat) (exponent : Int) :
    Pointed (text (finite negative coefficient exponent)) := by
  have basic : ∀ c ∈ digitsOf coefficient, c.isDigit := fun _ member => digitsOf_basic member
  have magnitude : Pointed (magnitudeText coefficient exponent) :=
    (pointed_pointed basic Nat.toDigits_ne_nil _).exponent _
  cases negative with
  | false => exact magnitude
  | true =>
    obtain ⟨few, front, last, split, digit⟩ := magnitude
    have signed : text (finite true coefficient exponent) =
        '-' :: magnitudeText coefficient exponent := rfl
    refine ⟨?_, '-' :: front, last, ?_, digit⟩
    · rw [signed, List.count_cons_of_ne (by decide)]
      exact few
    · rw [signed, split]
      rfl

end DecimalFloat.Decimal
