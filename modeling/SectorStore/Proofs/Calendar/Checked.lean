import SectorStore.Proofs.Calendar.Dates

/-!
# The date in words of 64 bits

`Calendar.stamp` counts with natural numbers. Here the same text is computed in words of 64 bits,
one operation after another and in the same order: a sum or product that needs more bits gives no
result, and neither does a difference that would be negative or a name behind the end of its table.
`stamp?_eq` says that none of this happens for any number of seconds of 64 bits.

The differences are safe because of what they mean. There are fewer corrections than days in an
era, its years start in front of the days in them (`exists_eraYear`), and so do the months
(`marchMonth_spec`).
-/

namespace SectorStore.Calendar

variable {a b n dayOfEra day year era days seconds : Nat}

/-! ## Arithmetic that may fail -/

/-- A sum or product, if it has at most 64 bits. -/
def word? (n : Nat) : Option Nat :=
  if n < 2 ^ 64 then some n else none

/-- A difference, if it is not negative. -/
def minus? (a b : Nat) : Option Nat :=
  if b ≤ a then some (a - b) else none

theorem word?_eq (h : n < 2 ^ 64) : word? n = some n :=
  if_pos h

theorem minus?_eq (h : b ≤ a) : minus? a b = some (a - b) :=
  if_pos h

/-- The year of an era in which a day of it is, as `eraYear` gives it. -/
def eraYear? (dayOfEra : Nat) : Option Nat := do
  let early ← minus? dayOfEra (dayOfEra / 1460)
  let late ← word? (early + dayOfEra / 36524)
  let even ← minus? late (dayOfEra / 146096)
  return even / 365

/-- The days of an era in front of a year of it, as `eraYearStart` gives them. -/
def eraYearStart? (year : Nat) : Option Nat := do
  let plain ← word? (365 * year)
  let fours ← word? (plain + year / 4)
  minus? fours (year / 100)

/-- The month, counted from 1 for January, of a month counted from 0 for March. -/
def month? (marchMonth : Nat) : Option Nat :=
  if marchMonth < 10 then word? (marchMonth + 3) else minus? marchMonth 9

/-- The date of a day of a year of an era, as `marchDate` gives it. -/
def marchDate? (era year day : Nat) : Option Date := do
  let fives ← word? (5 * day)
  let shifted ← word? (fives + 2)
  let marchMonth := shifted / 153
  let months ← word? (153 * marchMonth)
  let start ← word? (months + 2)
  let rest ← minus? day (start / 5)
  let day ← word? (rest + 1)
  let month ← month? marchMonth
  let past ← word? (era * 400)
  let marchYear ← word? (year + past)
  let year ← word? (marchYear + if month ≤ 2 then 1 else 0)
  return { year, month, day }

/-- The date of a day counted from the 1st of January 1970, as `Date.ofDayNumber` gives it. -/
def date? (days : Nat) : Option Date := do
  let sinceMarch ← word? (days + 719468)
  let year ← eraYear? (sinceMarch % 146097)
  let start ← eraYearStart? year
  let day ← minus? (sinceMarch % 146097) start
  marchDate? (sinceMarch / 146097) year day

/-- The table of the names of the weekdays. -/
def weekdays : List String :=
  ["Sun", "Mon", "Tue", "Wed", "Thu", "Fri", "Sat"]

/-- The table of the names of the months. -/
def months : List String :=
  ["Jan", "Feb", "Mar", "Apr", "May", "Jun", "Jul", "Aug", "Sep", "Oct", "Nov", "Dec"]

/-- The time as a line of text, as `stamp` gives it. -/
def stamp? (seconds : Nat) : Option String := do
  let shifted ← word? (seconds / 86400 + 4)
  let weekday ← weekdays[shifted % 7]?
  let date ← date? (seconds / 86400)
  let index ← minus? date.month 1
  let month ← months[index]?
  let day := twoDigits ' ' date.day
  let time := timeOfDay (seconds % 86400)
  return s!"{weekday} {month} {day} {time} {date.year}\n"

/-! ## Nothing fails -/

/-- The year of a day in its era is found without a word running over. -/
theorem eraYear?_eq (h : dayOfEra < 146097) : eraYear? dayOfEra = some (eraYear dayOfEra) := by
  have hfours : dayOfEra / 1460 ≤ dayOfEra := Nat.div_le_self _ _
  have hera : dayOfEra / 146096 ≤ dayOfEra - dayOfEra / 1460 + dayOfEra / 36524 :=
    Nat.le_add_left_of_le (Nat.div_le_div_left (by decide) (by decide))
  simp only [eraYear?, minus?_eq hfours, Option.bind_eq_bind, Option.bind_some]
  rw [word?_eq (by omega), Option.bind_some, minus?_eq hera, Option.bind_some]
  rfl

/-- The days in front of a year of an era are found without a word running over. -/
theorem eraYearStart?_eq (h : year < 400) : eraYearStart? year = some (eraYearStart year) := by
  simp only [eraYearStart?, Option.bind_eq_bind]
  rw [word?_eq (by omega), Option.bind_some, word?_eq (by omega), Option.bind_some,
    minus?_eq (by omega)]
  rfl

/-- The month in the usual count is found without a word running over. -/
theorem month?_eq (h : n ≤ 11) : month? n = some (if n < 10 then n + 3 else n - 9) := by
  rw [month?]
  split
  · exact word?_eq (by omega)
  · exact minus?_eq (by omega)

/-- Of a day within a year, the day of the month and the month are found. -/
theorem marchDate?_eq (hday : day < 366) (hyear : year < 400) (hera : era < 2 ^ 48) :
    marchDate? era year day = some (marchDate (year + era * 400) day) := by
  obtain ⟨hmonth, hstart, -⟩ := marchMonth_spec hday
  have hplus : ∀ month : Nat, year + era * 400 + (if month ≤ 2 then 1 else 0) < 2 ^ 64 := by
    intro month
    split <;> omega
  rw [marchMonthStart] at hstart
  -- each operation is shown to give a result before the next is looked at
  simp only [marchDate?, Option.bind_eq_bind]
  rw [word?_eq (by omega), Option.bind_some, word?_eq (by omega), Option.bind_some,
    word?_eq (by omega), Option.bind_some, word?_eq (by omega), Option.bind_some,
    minus?_eq hstart, Option.bind_some, word?_eq (by omega), Option.bind_some,
    month?_eq hmonth, Option.bind_some, word?_eq (by omega), Option.bind_some,
    word?_eq (by omega), Option.bind_some, word?_eq (hplus _), Option.bind_some]
  rfl

/-- The date of a day is found without a word running over. -/
theorem date?_eq (h : days < 2 ^ 48) : date? days = some (Date.ofDayNumber days) := by
  have hlt : (days + 719468) % 146097 < 146097 := Nat.mod_lt _ (by decide)
  obtain ⟨day, hyear, hday, hlength⟩ := exists_eraYear hlt
  -- the year starts in front of the day, so that the difference is not negative
  have hstart : eraYearStart (eraYear ((days + 719468) % 146097)) ≤ (days + 719468) % 146097 := by
    omega
  have hdayOfYear := yearLength_le (eraYear ((days + 719468) % 146097) + 1)
  have hera : (days + 719468) / 146097 ≤ days + 719468 / 146097 := by omega
  rw [ofDayNumber_eq]
  simp only [date?, Option.bind_eq_bind]
  rw [word?_eq (by omega), Option.bind_some, eraYear?_eq hlt, Option.bind_some,
    eraYearStart?_eq hyear, Option.bind_some, minus?_eq hstart, Option.bind_some]
  exact marchDate?_eq (by omega) hyear (by omega)

/-- The table of the days of the week has their names. -/
theorem getElem?_weekdays (h : n < 7) : weekdays[n]? = some (weekdayName n) := by
  interval_cases n <;> rfl

/-- The table of the months has their names. -/
theorem getElem?_months (hpos : 1 ≤ n) (hle : n ≤ 12) : months[n - 1]? = some (monthName n) := by
  interval_cases n <;> rfl

/-- No operation on the way to the text of a time fails. -/
theorem stamp?_eq (h : seconds < 2 ^ 64) : stamp? seconds = some (stamp seconds) := by
  obtain ⟨hvalid, -⟩ := ofDayNumber_spec (seconds / 86400)
  obtain ⟨hpos, hle, -, -⟩ := hvalid
  simp only [stamp?, Option.bind_eq_bind]
  rw [word?_eq (by omega), Option.bind_some, getElem?_weekdays (Nat.mod_lt _ (by decide)),
    Option.bind_some, date?_eq (by omega), Option.bind_some, minus?_eq hpos, Option.bind_some,
    getElem?_months hpos hle, Option.bind_some]
  rfl

end SectorStore.Calendar
