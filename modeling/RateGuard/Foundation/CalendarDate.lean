import Mathlib.Order.Basic
import Mathlib.Order.Defs.LinearOrder
import RateGuard.Foundation.Text

/-!
# Calendar dates

Proleptic Gregorian dates of the years 1 to 9999 with their validity as fields,
ordered chronologically, and their ISO text. Reading accepts the extended and
the basic calendar forms and the week forms.
-/

namespace CalendarDate

/-- Leap years of the Gregorian rule. -/
def isLeap (year : Nat) : Bool := year % 4 == 0 && (year % 100 != 0 || year % 400 == 0)

/-- Days of a month, zero outside the twelve. -/
def daysInMonth (year month : Nat) : Nat :=
  match month with
  | 1 | 3 | 5 | 7 | 8 | 10 | 12 => 31
  | 4 | 6 | 9 | 11 => 30
  | 2 => if isLeap year then 29 else 28
  | _ => 0

/-- A valid calendar day. -/
structure Date where
  /-- Year from 1 to 9999. -/
  year : Nat
  /-- Month from 1 to 12. -/
  month : Nat
  /-- Day of the month. -/
  day : Nat
  /-- Supported years. -/
  yearValid : 1 ≤ year ∧ year ≤ 9999
  /-- The day exists in its month. -/
  dayValid : 1 ≤ day ∧ day ≤ daysInMonth year month
  deriving Repr

/-- A month has at most thirty-one days. -/
theorem daysInMonth_le (year month : Nat) : daysInMonth year month ≤ 31 := by
  unfold daysInMonth
  split <;> try omega
  split <;> omega

/-- Only twelve months have days. -/
theorem month_le_of_day {year month day : Nat}
    (valid : 1 ≤ day ∧ day ≤ daysInMonth year month) : month ≤ 12 := by
  unfold daysInMonth at valid
  split at valid <;> omega

/-- Chronological rank of a date. -/
def Date.rank (date : Date) : Nat := (date.year * 13 + date.month) * 32 + date.day

/-- Ranks distinguish dates. -/
theorem Date.rank_injective : Function.Injective Date.rank := by
  intro first second same
  obtain ⟨firstYear, firstMonth, firstDay, _, firstValid⟩ := first
  obtain ⟨secondYear, secondMonth, secondDay, _, secondValid⟩ := second
  have firstMonths := month_le_of_day firstValid
  have secondMonths := month_le_of_day secondValid
  have firstDays := daysInMonth_le firstYear firstMonth
  have secondDays := daysInMonth_le secondYear secondMonth
  simp only [Date.rank] at same
  obtain ⟨rfl, rfl, rfl⟩ : firstYear = secondYear ∧ firstMonth = secondMonth ∧
      firstDay = secondDay := by omega
  rfl

/-- Dates are ordered chronologically. -/
instance : LinearOrder Date := LinearOrder.lift' Date.rank Date.rank_injective

/-- Chronological order is order of ranks. -/
theorem Date.le_iff (first second : Date) : first ≤ second ↔ first.rank ≤ second.rank := Iff.rfl

/-- Strict chronological order is strict order of ranks. -/
theorem Date.lt_iff (first second : Date) : first < second ↔ first.rank < second.rank := Iff.rfl

/-- The date of three numbers, when it exists. -/
def Date.ofNumbers (year month day : Nat) : Option Date :=
  if yearValid : 1 ≤ year ∧ year ≤ 9999 then
    if dayValid : 1 ≤ day ∧ day ≤ daysInMonth year month then
      some ⟨year, month, day, yearValid, dayValid⟩
    else none
  else none

/-- A number padded with zeros to a width. -/
def padded (width value : Nat) : List Char :=
  List.replicate (width - (Text.digitsOf value).length) '0' ++ Text.digitsOf value

/-- Extended ISO text of a date. -/
def Date.isoformat (date : Date) : List Char :=
  padded 4 date.year ++ '-' :: (padded 2 date.month ++ '-' :: padded 2 date.day)

/-- Number of a run of basic digits. -/
def basicNumber (text : List Char) : Option Nat :=
  if text.all Char.isDigit then some (Nat.ofDigitChars 10 text 0) else none

/-- Days of a year. -/
def daysInYear (year : Nat) : Nat := if isLeap year then 366 else 365

/-- Weekday of the first of January, counting Monday as zero. -/
def newYearWeekday (year : Nat) : Nat :=
  let before := year - 1
  (before * 365 + before / 4 - before / 100 + before / 400) % 7

/-- Month and day of a day number within a year, scanning the months from one. -/
def dayOfYear (year day : Nat) : List Nat → Option Date
  | [] => none
  | month :: later =>
    if day < daysInMonth year month then Date.ofNumbers year month (day + 1)
    else dayOfYear year (day - daysInMonth year month) later

/-- Whether a year has a fifty-third ISO week. -/
def hasLongWeekYear (year : Nat) : Bool :=
  newYearWeekday year == 3 || (newYearWeekday year == 2 && isLeap year)

/-- Date of an ISO week and weekday. Week one is the week of the first Thursday. -/
def ofIsoWeek (year week weekday : Nat) : Option Date :=
  if year = 0 ∨ 9999 < year ∨ week = 0 ∨ 53 < week ∨ (week = 53 ∧ ¬hasLongWeekYear year) ∨
      weekday = 0 ∨ 7 < weekday then none
  else
    let first := newYearWeekday year
    let back := if first ≤ 3 then first else 0
    let forward := (week - 1) * 7 + (weekday - 1) + (if first ≤ 3 then 0 else 7 - first)
    let months := (List.range 12).map (· + 1)
    if forward < back then
      dayOfYear (year - 1) (daysInYear (year - 1) + forward - back) months
    else if forward - back < daysInYear year then dayOfYear year (forward - back) months
    else dayOfYear (year + 1) (forward - back - daysInYear year) months

/-- Date of ISO text in calendar or week form, with or without separators. -/
def fromIsoformat (text : List Char) : Option Date := do
  let year ← if 4 ≤ text.length then basicNumber (text.take 4) else none
  match text.drop 4 with
  | ['-', 'W', a, b] => ofIsoWeek year (← basicNumber [a, b]) 1
  | ['W', a, b] => ofIsoWeek year (← basicNumber [a, b]) 1
  | ['-', 'W', a, b, '-', c] => ofIsoWeek year (← basicNumber [a, b]) (← basicNumber [c])
  | ['W', a, b, c] => ofIsoWeek year (← basicNumber [a, b]) (← basicNumber [c])
  | ['-', a, b, '-', c, d] => Date.ofNumbers year (← basicNumber [a, b]) (← basicNumber [c, d])
  | [a, b, c, d] => Date.ofNumbers year (← basicNumber [a, b]) (← basicNumber [c, d])
  | _ => none

/-- Padded numbers have the width they fit in. -/
theorem padded_length (width value : Nat) (fits : value < 10 ^ width) (positive : 0 < width) :
    (padded width value).length = width := by
  have short : (Text.digitsOf value).length ≤ width :=
    (Nat.length_toDigits_le_iff (by decide) positive).mpr fits
  rw [padded, List.length_append, List.length_replicate]
  omega

/-- Padded numbers consist of basic digits. -/
theorem padded_basic {width value : Nat} {character : Char}
    (member : character ∈ padded width value) : character.isDigit := by
  rcases List.mem_append.mp member with zero | digit
  · rw [List.eq_of_mem_replicate zero]
    rfl
  · exact Text.digitsOf_basic digit

/-- Padded numbers read back. -/
theorem basicNumber_padded (width value : Nat) :
    basicNumber (padded width value) = some value := by
  have basic : ∀ c ∈ padded width value, c.isDigit := fun _ => padded_basic
  rw [basicNumber, if_pos (List.all_eq_true.mpr basic), ← Text.numeral_eq_ofDigitChars _ basic,
    padded, Text.numeral_zeros_append _ _ fun _ => Text.digitsOf_basic, Text.numeral_digitsOf]

/-- The printed text of a date reads back. -/
theorem fromIsoformat_isoformat (date : Date) : fromIsoformat date.isoformat = some date := by
  obtain ⟨year, month, day, yearValid, dayValid⟩ := date
  have months := month_le_of_day dayValid
  have days := daysInMonth_le year month
  have yearLength := padded_length 4 year (by omega) (by decide)
  have monthLength := padded_length 2 month (by omega) (by decide)
  have dayLength := padded_length 2 day (by omega) (by decide)
  obtain ⟨m, n, monthDigits⟩ := List.length_eq_two.mp monthLength
  obtain ⟨d, e, dayDigits⟩ := List.length_eq_two.mp dayLength
  have noWeek : m ≠ 'W' := by
    rintro rfl
    have digit : Char.isDigit 'W' := padded_basic (monthDigits ▸ List.mem_cons_self)
    exact absurd digit (by decide)
  have text : (Date.mk year month day yearValid dayValid).isoformat =
      padded 4 year ++ ['-', m, n, '-', d, e] := by
    simp [Date.isoformat, monthDigits, dayDigits]
  have start : (padded 4 year ++ ['-', m, n, '-', d, e]).take 4 = padded 4 year :=
    List.take_left' yearLength
  have rest : (padded 4 year ++ ['-', m, n, '-', d, e]).drop 4 = ['-', m, n, '-', d, e] :=
    List.drop_left' yearLength
  have long : 4 ≤ (padded 4 year ++ ['-', m, n, '-', d, e]).length := by
    rw [List.length_append, yearLength]
    exact Nat.le_add_right 4 _
  unfold fromIsoformat
  rw [text, if_pos long, start, rest, basicNumber_padded]
  simp only [Option.bind_eq_bind, Option.bind_some]
  split
  case h_3 _ week =>
    simp only [List.cons.injEq, true_and] at week
    exact absurd week.1 noWeek
  case h_5 _ shape =>
    simp only [List.cons.injEq, and_true, true_and] at shape
    obtain ⟨rfl, rfl, rfl, rfl⟩ := shape
    rw [← monthDigits, ← dayDigits, basicNumber_padded, basicNumber_padded]
    simp [Date.ofNumbers, yearValid, dayValid]
  case h_7 =>
    rename_i shape _
    exact (shape m n d e rfl).elim
  all_goals rename_i shape; simp at shape

example : (fromIsoformat "2020-W53-5".toList).map Date.isoformat =
    some "2021-01-01".toList := by decide

end CalendarDate
