import RateGuard.Foundation.CalendarDate

/-!
# Instants and their texts

A moment is a local date and time with an offset from universal time, or without one.
Printing writes the time in universal time; reading accepts the extended and the basic
forms, fractions of seconds and offsets. A printed instant reads back.
-/

namespace CalendarDate

/-- Time of a day. -/
structure TimeOfDay where
  /-- Hour. -/
  hour : Nat
  /-- Minute. -/
  minute : Nat
  /-- Second. -/
  second : Nat
  /-- Microsecond. -/
  microsecond : Nat
  /-- There are twenty-four hours. -/
  hourValid : hour < 24
  /-- An hour has sixty minutes. -/
  minuteValid : minute < 60
  /-- A minute has sixty seconds. -/
  secondValid : second < 60
  /-- A second has a million microseconds. -/
  microsecondValid : microsecond < 1000000

/-- Date and time. -/
structure DateTime where
  /-- Date. -/
  date : Date
  /-- Time of the day. -/
  time : TimeOfDay

/-- Local date and time, with microseconds ahead of universal time unless it is naive. -/
structure Moment where
  /-- Local date and time. -/
  clock : DateTime
  /-- Offset, if one is known. -/
  offset : Option Int

/-- Microseconds of a day. -/
def dayLength : Nat := 86400000000

/-- Microseconds of hours, minutes, seconds and microseconds. -/
def microsecondsOf (hour minute second microsecond : Nat) : Nat :=
  ((hour * 60 + minute) * 60 + second) * 1000000 + microsecond

/-- Days up to a date, counting from the first day of the year one. -/
def Date.toOrdinal (date : Date) : Nat :=
  let before := date.year - 1
  before * 365 + before / 4 - before / 100 + before / 400 +
    (((List.range (date.month - 1)).map fun month => daysInMonth date.year (month + 1)).sum +
      date.day)

/-- Microseconds of a date and time on a scale of days. -/
def DateTime.microseconds (clock : DateTime) : Nat :=
  clock.date.toOrdinal * dayLength +
    microsecondsOf clock.time.hour clock.time.minute clock.time.second clock.time.microsecond

/-- Universal time of a moment that has an offset. -/
def Moment.instant (moment : Moment) : Option Int :=
  moment.offset.map fun ahead => moment.clock.microseconds - ahead

/-- A moment read in universal time if it is naive. -/
def Moment.orUtc (moment : Moment) : Moment := { moment with offset := moment.offset.or (some 0) }

/-- The time of four numbers, when it exists. -/
def TimeOfDay.ofNumbers (hour minute second microsecond : Nat) : Option TimeOfDay :=
  if valid : hour < 24 ∧ minute < 60 ∧ second < 60 ∧ microsecond < 1000000 then
    some ⟨hour, minute, second, microsecond, valid.1, valid.2.1, valid.2.2.1, valid.2.2.2⟩
  else none

/-- Extended text of a time; the fraction is left out when it is zero. -/
def TimeOfDay.isoformat (time : TimeOfDay) : List Char :=
  padded 2 time.hour ++ ':' :: (padded 2 time.minute ++ ':' :: (padded 2 time.second ++
    if time.microsecond = 0 then [] else '.' :: padded 6 time.microsecond))

/-- Text of a date and time in universal time. -/
def DateTime.isoformat (clock : DateTime) : List Char :=
  clock.date.isoformat ++ 'T' :: (clock.time.isoformat ++ "+00:00".toList)

/-- Microseconds of a fraction: digits after a point or a comma, cut after the sixth. -/
def fraction : List Char → Option Nat
  | [] => some 0
  | mark :: digits =>
    if (mark = '.' ∨ mark = ',') ∧ digits ≠ [] ∧ digits.all Char.isDigit then
      basicNumber ((digits ++ List.replicate 6 '0').take 6)
    else none

/-- Hours, minutes, seconds and microseconds of a text, with or without separators. -/
def clockNumbers : List Char → Option (Nat × Nat × Nat × Nat)
  | [a, b] => do return (← basicNumber [a, b], 0, 0, 0)
  | [a, b, ':', c, d] => do return (← basicNumber [a, b], ← basicNumber [c, d], 0, 0)
  | a :: b :: ':' :: c :: d :: ':' :: e :: f :: rest => do
    return (← basicNumber [a, b], ← basicNumber [c, d], ← basicNumber [e, f], ← fraction rest)
  | [a, b, c, d] => do return (← basicNumber [a, b], ← basicNumber [c, d], 0, 0)
  | a :: b :: c :: d :: e :: f :: rest => do
    return (← basicNumber [a, b], ← basicNumber [c, d], ← basicNumber [e, f], ← fraction rest)
  | _ => none

/-- Offset of the text after a time, if there is one; it is less than a day. -/
def zoneOffset : List Char → Option (Option Int)
  | [] => some none
  | ['Z'] => some (some 0)
  | sign :: text => do
    let (hour, minute, second, microsecond) ← clockNumbers text
    let ahead := microsecondsOf hour minute second microsecond
    if sign = 'Z' ∨ dayLength ≤ ahead then none
    else return some (if sign = '-' then -ahead else ahead)

/-- Whether a character starts the offset of a time. -/
def startsZone (character : Char) : Bool := character = '+' || character = '-' || character = 'Z'

/-- Length of the date that a text starts with. -/
def dateLength (text : List Char) : Nat :=
  match text.drop 4 with
  | '-' :: 'W' :: _ =>
    if text[8]? = some '-' then if (text[10]?).any Char.isDigit then 8 else 10 else 8
  | '-' :: _ => 10
  | 'W' :: _ =>
    let stop := 7 + ((text.drop 7).takeWhile Char.isDigit).length
    if stop < 9 then stop else if stop % 2 = 0 then 7 else 8
  | _ => 8

/-- Moment of ISO text: a date, and after any separator a time with an optional offset. -/
def momentFromIsoformat (text : List Char) : Option Moment := do
  let date ← fromIsoformat (text.take (dateLength text))
  match text.drop (dateLength text) with
  | [] => some ⟨⟨date, ⟨0, 0, 0, 0, by decide, by decide, by decide, by decide⟩⟩, none⟩
  | _ :: clock =>
    let (hour, minute, second, microsecond) ← clockNumbers (clock.takeWhile fun c => !startsZone c)
    let time ← TimeOfDay.ofNumbers hour minute second microsecond
    let offset ← zoneOffset (clock.dropWhile fun c => !startsZone c)
    some ⟨⟨date, time⟩, offset⟩

/-- A printed date has ten characters, and no week mark in the sixth place. -/
theorem Date.isoformat_shape (date : Date) :
    date.isoformat.length = 10 ∧ ∃ month rest, month ≠ 'W' ∧
      date.isoformat.drop 4 = '-' :: month :: rest := by
  obtain ⟨year, month, day, yearValid, dayValid⟩ := date
  have months := month_le_of_day dayValid
  have days := daysInMonth_le year month
  have yearLength := padded_length 4 year (by omega) (by decide)
  have monthLength := padded_length 2 month (by omega) (by decide)
  have dayLength := padded_length 2 day (by omega) (by decide)
  obtain ⟨m, n, monthDigits⟩ := List.length_eq_two.mp monthLength
  refine ⟨?_, m, n :: '-' :: padded 2 day, ?_, ?_⟩
  · simp [Date.isoformat, yearLength, monthLength, dayLength]
  · rintro rfl
    have digit : Char.isDigit 'W' := padded_basic (monthDigits ▸ List.mem_cons_self)
    exact absurd digit (by decide)
  · rw [Date.isoformat, List.drop_left' yearLength]
    simp [monthDigits]

/-- The printed date is recognised at the start of a text. -/
theorem dateLength_isoformat (date : Date) (rest : List Char) :
    dateLength (date.isoformat ++ rest) = 10 := by
  obtain ⟨length, month, later, noWeek, shape⟩ := date.isoformat_shape
  have start : (date.isoformat ++ rest).drop 4 = '-' :: month :: (later ++ rest) := by
    rw [List.drop_append_of_le_length (by omega), shape]
    rfl
  unfold dateLength
  rw [start]
  split
  · rename_i week
    exact absurd (List.cons.inj (List.cons.inj week).2).1 noWeek
  · rfl
  · rename_i week
    exact absurd (List.cons.inj week).1 (by decide)
  · rename_i other _
    exact absurd rfl (other _)

/-- A fraction of six digits reads back. -/
theorem fraction_padded {value : Nat} (fits : value < 1000000) :
    fraction ('.' :: padded 6 value) = some value := by
  have length := padded_length 6 value fits (by decide)
  have nonempty : padded 6 value ≠ [] := by
    intro empty
    rw [empty] at length
    cases length
  have basic : (padded 6 value).all Char.isDigit = true :=
    List.all_eq_true.mpr fun _ => padded_basic
  rw [fraction, if_pos ⟨.inl rfl, nonempty, basic⟩, List.take_left' length, basicNumber_padded]

/-- The printed time reads back as its numbers. -/
theorem clockNumbers_isoformat (time : TimeOfDay) : clockNumbers time.isoformat =
    some (time.hour, time.minute, time.second, time.microsecond) := by
  obtain ⟨hour, minute, second, microsecond, hourValid, minuteValid, secondValid,
    microsecondValid⟩ := time
  obtain ⟨a, b, hourDigits⟩ := List.length_eq_two.mp
    (padded_length 2 hour (by omega) (by decide))
  obtain ⟨c, d, minuteDigits⟩ := List.length_eq_two.mp
    (padded_length 2 minute (by omega) (by decide))
  obtain ⟨e, f, secondDigits⟩ := List.length_eq_two.mp
    (padded_length 2 second (by omega) (by decide))
  have rest : fraction (if microsecond = 0 then [] else '.' :: padded 6 microsecond) =
      some microsecond := by
    by_cases whole : microsecond = 0
    · rw [if_pos whole, whole]
      rfl
    · rw [if_neg whole, fraction_padded microsecondValid]
  have text : TimeOfDay.isoformat ⟨hour, minute, second, microsecond, hourValid, minuteValid,
      secondValid, microsecondValid⟩ = a :: b :: ':' :: c :: d :: ':' :: e :: f ::
        (if microsecond = 0 then [] else '.' :: padded 6 microsecond) := by
    simp [TimeOfDay.isoformat, hourDigits, minuteDigits, secondDigits]
  rw [text]
  simp only [clockNumbers, rest, ← hourDigits, ← minuteDigits, ← secondDigits,
    basicNumber_padded, Option.bind_eq_bind, Option.bind_some, Option.pure_def]

/-- A printed time holds no character that starts an offset. -/
theorem TimeOfDay.isoformat_plain (time : TimeOfDay) :
    ∀ character ∈ time.isoformat, (!startsZone character) = true := by
  have digit : ∀ {width value : Nat}, ∀ character ∈ padded width value,
      (!startsZone character) = true := by
    intro width value character member
    have basic := padded_basic member
    have apart : ∀ sign, Char.isDigit sign = false → character ≠ sign := by
      rintro sign none rfl
      rw [basic] at none
      cases none
    simp [startsZone, apart '+' rfl, apart '-' rfl, apart 'Z' rfl]
  intro character member
  simp only [TimeOfDay.isoformat, List.mem_append, List.mem_cons] at member
  rcases member with hour | rfl | minute | rfl | second | rest
  · exact digit character hour
  · rfl
  · exact digit character minute
  · rfl
  · exact digit character second
  · split at rest
    · cases rest
    · rcases List.mem_cons.mp rest with rfl | micro
      · rfl
      · exact digit character micro

/-- The printed text of an instant reads back in universal time. -/
theorem momentFromIsoformat_isoformat (clock : DateTime) :
    momentFromIsoformat clock.isoformat = some ⟨clock, some 0⟩ := by
  obtain ⟨date, time⟩ := clock
  have length := date.isoformat_shape.1
  have plain := time.isoformat_plain
  have body : (time.isoformat ++ "+00:00".toList).takeWhile (fun c => !startsZone c) =
      time.isoformat := by
    rw [List.takeWhile_append_of_pos plain]
    exact List.append_nil _
  have zone : (time.isoformat ++ "+00:00".toList).dropWhile (fun c => !startsZone c) =
      "+00:00".toList := by
    rw [List.dropWhile_append_of_pos plain]
    rfl
  have numbers : TimeOfDay.ofNumbers time.hour time.minute time.second time.microsecond =
      some time := by
    rw [TimeOfDay.ofNumbers, dif_pos ⟨time.hourValid, time.minuteValid, time.secondValid,
      time.microsecondValid⟩]
  unfold momentFromIsoformat
  rw [DateTime.isoformat, dateLength_isoformat, List.take_left' length, List.drop_left' length,
    fromIsoformat_isoformat]
  simp only [Option.bind_eq_bind, Option.bind_some, body, zone, clockNumbers_isoformat, numbers]
  rfl

example : (momentFromIsoformat "2026-W01-3T09:30:15,5+02:00".toList).map
    (fun moment => (moment.clock.isoformat, moment.offset)) =
    some ("2025-12-31T09:30:15.500000+00:00".toList, some 7200000000) := by decide

end CalendarDate
