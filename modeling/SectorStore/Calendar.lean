/-!
# Calendar dates

Points in time are seconds since the start of 1970, in Universal Time and in the Gregorian calendar,
extended over all years. The rules of the calendar are the lengths of its months and years, from
which `Date.daysSinceYearZero` counts the days up to a date; `Date.ofDayNumber` finds the date of a
day in closed form. `Calendar.stamp` writes a time in the fixed layout `Thu Jan  1 00:00:00 1970`,
with a line end.
-/

namespace SectorStore.Calendar

/-- Whether a year has a 29th of February. -/
def isLeap (year : Nat) : Bool :=
  year % 4 == 0 && (year % 100 != 0 || year % 400 == 0)

/-- The number of days in a month, counted from 1. -/
def monthLength (year month : Nat) : Nat :=
  match month with
  | 2 => if isLeap year then 29 else 28
  | 4 | 6 | 9 | 11 => 30
  | _ => 31

/-- The number of days in a year. -/
def yearLength (year : Nat) : Nat :=
  if isLeap year then 366 else 365

/-- The number of days from the start of year 0 to the start of a year. -/
def daysBeforeYear : (year : Nat) → Nat
  | 0 => 0
  | year + 1 => daysBeforeYear year + yearLength year

/-- The number of days from the start of a year to the start of a month, counted from 1. -/
def daysBeforeMonth (year month : Nat) : Nat :=
  (List.range (month - 1)).foldl (fun days m => days + monthLength year (m + 1)) 0

/-- A day of the calendar. -/
structure Date where
  /-- The year. -/
  year : Nat
  /-- The month, counted from 1. -/
  month : Nat
  /-- The day of the month, counted from 1. -/
  day : Nat
deriving DecidableEq, Repr

/-- The dates that exist. -/
def Date.IsValid (date : Date) : Prop :=
  1 ≤ date.month ∧ date.month ≤ 12 ∧ 1 ≤ date.day ∧
    date.day ≤ monthLength date.year date.month

instance (date : Date) : Decidable date.IsValid :=
  inferInstanceAs (Decidable (_ ∧ _))

/-- The number of days from the 1st of January of year 0 to a date. -/
def Date.daysSinceYearZero (date : Date) : Nat :=
  daysBeforeYear date.year + daysBeforeMonth date.year date.month + (date.day - 1)

/-- The date of the day that is `days` days after the 1st of January 1970.

Years are taken to start in March, so that a leap day is the last day of its year. From the 1st of
March of year 0 on, every 400 years have 146097 days; inside them the corrections take out the leap
days before the year is found by division by 365, and the months from March on repeat the lengths
31, 30, 31, 30, 31, whose running sum is `(153 * m + 2) / 5`. -/
def Date.ofDayNumber (days : Nat) : Date :=
  let sinceMarch := days + 719468
  let era := sinceMarch / 146097
  let dayOfEra := sinceMarch % 146097
  let yearOfEra := (dayOfEra - dayOfEra / 1460 + dayOfEra / 36524 - dayOfEra / 146096) / 365
  let dayOfYear := dayOfEra - (365 * yearOfEra + yearOfEra / 4 - yearOfEra / 100)
  let marchMonth := (5 * dayOfYear + 2) / 153
  let month := if marchMonth < 10 then marchMonth + 3 else marchMonth - 9
  { year := yearOfEra + era * 400 + if month ≤ 2 then 1 else 0
    month
    day := dayOfYear - (153 * marchMonth + 2) / 5 + 1 }

/-- The names of the days of the week from Sunday on. -/
def weekdayName : Nat → String
  | 0 => "Sun" | 1 => "Mon" | 2 => "Tue" | 3 => "Wed" | 4 => "Thu" | 5 => "Fri" | _ => "Sat"

/-- The names of the months, counted from 1. -/
def monthName : Nat → String
  | 1 => "Jan" | 2 => "Feb" | 3 => "Mar" | 4 => "Apr" | 5 => "May" | 6 => "Jun"
  | 7 => "Jul" | 8 => "Aug" | 9 => "Sep" | 10 => "Oct" | 11 => "Nov" | _ => "Dec"

/-- The decimal digits of `n`, filled up to two characters with `fill`. -/
def twoDigits (fill : Char) (n : Nat) : String :=
  if n < 10 then .ofList [fill, Nat.digitChar n] else toString n

/-- The weekday of a day; the 1st of January 1970 was a Thursday. -/
def weekday (days : Nat) : Nat :=
  (days + 4) % 7

/-- The time of day `seconds` after midnight, as hours, minutes and seconds. -/
def timeOfDay (seconds : Nat) : String :=
  let hours := twoDigits '0' (seconds / 3600)
  let minutes := twoDigits '0' (seconds % 3600 / 60)
  let rest := twoDigits '0' (seconds % 60)
  s!"{hours}:{minutes}:{rest}"

/-- The time `seconds` after the start of 1970, as a line of text. -/
def stamp (seconds : Nat) : String :=
  let days := seconds / 86400
  let date := Date.ofDayNumber days
  let weekday := weekdayName (weekday days)
  let month := monthName date.month
  let day := twoDigits ' ' date.day
  let time := timeOfDay (seconds % 86400)
  s!"{weekday} {month} {day} {time} {date.year}\n"

end SectorStore.Calendar
