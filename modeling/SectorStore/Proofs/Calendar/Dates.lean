import Mathlib.Order.Monotone.Basic
import Mathlib.Tactic.IntervalCases
import SectorStore.Calendar

/-!
# The closed form finds the date

`Date.daysSinceYearZero` counts days by the rules of the calendar, year by year and month by month.
Different dates have different numbers (`Date.IsValid.eq_of_daysSinceYearZero_eq`), and
`ofDayNumber_spec` says that `Date.ofDayNumber` goes the other way: the date it gives exists, and is
as many days after the 1st of January 1970 as asked for. There is no bound on the number of days.

The closed form counts years from March on, and every 400 years, an era, are alike. Inside an era
the proof goes by centuries, by groups of four years and by single years: all centuries but the last
lack the leap day at their end, and of all years but the last one of a group none has one
(`exists_eraDay`). The divisions in the formula for the year never go wrong by more than the
division by 365 drops (`EraDay.eraYear_eq`).
-/

namespace SectorStore.Calendar

variable {year year' month dayOfEra days : Nat} {date date' : Date}

/-! ## Years -/

theorem isLeap_iff (year : Nat) :
    isLeap year = true ↔ year % 4 = 0 ∧ (year % 100 ≠ 0 ∨ year % 400 = 0) := by
  simp only [isLeap, Bool.and_eq_true, Bool.or_eq_true, beq_iff_eq, bne_iff_ne]

/-- The days of the years in front of a year, in closed form: every fourth of them is a leap year,
but for the last one of three centuries in four. -/
theorem daysBeforeYear_eq (year : Nat) :
    daysBeforeYear year + (year + 99) / 100 =
      365 * year + (year + 3) / 4 + (year + 399) / 400 := by
  induction year with
  | zero => rfl
  | succ year ih =>
    have hfours : (year + 1 + 3) / 4 = (year + 3) / 4 + if year % 4 = 0 then 1 else 0 := by
      split <;> omega
    have hhundreds :
        (year + 1 + 99) / 100 = (year + 99) / 100 + if year % 100 = 0 then 1 else 0 := by
      split <;> omega
    have heras : (year + 1 + 399) / 400 = (year + 399) / 400 + if year % 400 = 0 then 1 else 0 := by
      split <;> omega
    have hcentury : year % 100 = 0 → year % 4 = 0 := by omega
    have hera : year % 400 = 0 → year % 100 = 0 := by omega
    rw [daysBeforeYear, yearLength, hfours, hhundreds, heras]
    simp only [isLeap_iff]
    generalize year % 4 = four at *
    generalize year % 100 = hundred at *
    generalize year % 400 = era at *
    split <;> split <;> split <;> split <;> omega

theorem daysBeforeYear_strictMono : StrictMono daysBeforeYear := by
  apply strictMono_nat_of_lt_succ
  intro year
  rw [daysBeforeYear, yearLength]
  split <;> omega

/-! ## Months -/

/-- The months of a year have as many days as the year. -/
theorem daysBeforeMonth_add_le (year : Nat) (hle : month ≤ 12) :
    daysBeforeMonth year month + monthLength year month ≤ yearLength year := by
  interval_cases month <;> simp only [daysBeforeMonth, List.range, List.range.loop, List.foldl,
    monthLength, yearLength] <;> split <;> decide

theorem daysBeforeMonth_succ (h : 1 ≤ month) :
    daysBeforeMonth year (month + 1) = daysBeforeMonth year month + monthLength year month := by
  obtain ⟨before, rfl⟩ := Nat.exists_eq_add_of_le' h
  simp only [daysBeforeMonth, Nat.add_sub_cancel, List.range_succ, List.foldl_append, List.foldl]

theorem daysBeforeMonth_le (year : Nat) {month' : Nat} (h : 1 ≤ month) (hle : month ≤ month') :
    daysBeforeMonth year month ≤ daysBeforeMonth year month' := by
  induction month', hle using Nat.le_induction with
  | base => exact Nat.le_refl _
  | succ month' hle ih =>
    rw [daysBeforeMonth_succ (Nat.le_trans h hle)]
    omega

/-! ## Different dates are different days -/

/-- The day is behind the start of its year and in front of the start of the next one. -/
theorem Date.IsValid.lt_daysBeforeYear (h : date.IsValid) :
    date.daysSinceYearZero < daysBeforeYear (date.year + 1) := by
  obtain ⟨-, hmonth, hday, hlength⟩ := h
  have hle := daysBeforeMonth_add_le date.year hmonth
  rw [Date.daysSinceYearZero, daysBeforeYear]
  omega

/-- In an earlier year there are only earlier days. -/
theorem Date.IsValid.lt_of_year_lt (h : date.IsValid) (hlt : date.year < date'.year) :
    date.daysSinceYearZero < date'.daysSinceYearZero := by
  have hyears : daysBeforeYear (date.year + 1) ≤ daysBeforeYear date'.year :=
    daysBeforeYear_strictMono.monotone hlt
  have hnext := h.lt_daysBeforeYear
  rw [Date.daysSinceYearZero] at hnext
  rw [Date.daysSinceYearZero, Date.daysSinceYearZero]
  omega

/-- In an earlier month of the year there are only earlier days. -/
theorem Date.IsValid.lt_of_month_lt (h : date.IsValid) (hyear : date.year = date'.year)
    (hlt : date.month < date'.month) : date.daysSinceYearZero < date'.daysSinceYearZero := by
  obtain ⟨hone, -, hday, hlength⟩ := h
  have hmonths := daysBeforeMonth_le date.year (Nat.le_succ_of_le hone)
    (Nat.succ_le_of_lt hlt)
  rw [Nat.succ_eq_add_one, daysBeforeMonth_succ hone] at hmonths
  rw [Date.daysSinceYearZero, Date.daysSinceYearZero, ← hyear]
  omega

/-- No two dates are the same day. -/
theorem Date.IsValid.eq_of_daysSinceYearZero_eq (h : date.IsValid) (h' : date'.IsValid)
    (heq : date.daysSinceYearZero = date'.daysSinceYearZero) : date = date' := by
  have hyear : date.year = date'.year := by
    rcases Nat.lt_trichotomy date.year date'.year with hlt | hyear | hlt
    · exact absurd heq (Nat.ne_of_lt (h.lt_of_year_lt hlt))
    · exact hyear
    · exact absurd heq.symm (Nat.ne_of_lt (h'.lt_of_year_lt hlt))
  have hmonth : date.month = date'.month := by
    rcases Nat.lt_trichotomy date.month date'.month with hlt | hmonth | hlt
    · exact absurd heq (Nat.ne_of_lt (h.lt_of_month_lt hyear hlt))
    · exact hmonth
    · exact absurd heq.symm (Nat.ne_of_lt (h'.lt_of_month_lt hyear.symm hlt))
  have hday : date.day = date'.day := by
    obtain ⟨-, -, hone, -⟩ := h
    obtain ⟨-, -, hone', -⟩ := h'
    rw [Date.daysSinceYearZero, Date.daysSinceYearZero, hyear, hmonth] at heq
    omega
  cases date
  cases date'
  simp_all

/-! ## The year in an era -/

/-- The year of an era in which a day of it is. -/
def eraYear (dayOfEra : Nat) : Nat :=
  (dayOfEra - dayOfEra / 1460 + dayOfEra / 36524 - dayOfEra / 146096) / 365

/-- The days of an era in front of the 1st of March of a year. -/
def eraYearStart (year : Nat) : Nat :=
  365 * year + year / 4 - year / 100

/-- A day of an era by the century, the group of four years in it, the year of the group and the
day of the year. The year may have a leap day at its end if it is the last of its group, unless the
group is the last one of its century and this not the last one of the era. -/
structure EraDay (dayOfEra century group year day : Nat) : Prop where
  /-- There are four centuries. -/
  century_le : century ≤ 3
  /-- A century has 25 groups. -/
  group_le : group ≤ 24
  /-- A group has four years. -/
  year_le : year ≤ 3
  /-- A year has 365 days, or there is a leap day behind them. -/
  day_le : day < 365 ∨ day = 365 ∧ year = 3 ∧ (group < 24 ∨ century = 3)
  /-- The days in front of the day. -/
  eq : dayOfEra = 36524 * century + 1461 * group + 365 * year + day

theorem exists_eraDay (h : dayOfEra < 146097) :
    ∃ century group year day, EraDay dayOfEra century group year day := by
  -- the last century of the era, and the last year of a group, may be one day longer: each is the
  -- quotient, but never more than 3
  obtain ⟨century, rest, hcentury⟩ : ∃ century rest, dayOfEra = 36524 * century + rest ∧
      century ≤ 3 ∧ (rest < 36524 ∨ rest = 36524 ∧ century = 3) :=
    ⟨min 3 (dayOfEra / 36524), dayOfEra - 36524 * min 3 (dayOfEra / 36524), by omega⟩
  obtain ⟨group, rest', hgroup⟩ : ∃ group rest', rest = 1461 * group + rest' ∧ rest' < 1461 :=
    ⟨rest / 1461, rest % 1461, by omega⟩
  obtain ⟨year, day, hyear⟩ : ∃ year day, rest' = 365 * year + day ∧ year ≤ 3 ∧
      (day < 365 ∨ day = 365 ∧ year = 3) :=
    ⟨min 3 (rest' / 365), rest' - 365 * min 3 (rest' / 365), by omega⟩
  exact ⟨century, group, year, day, by omega, by omega, by omega, by omega, by omega⟩

namespace EraDay

variable {century group yearOfGroup day : Nat}

/-- Full days of centuries are counted as centuries; on the last day of the era there is one too
much, which is what the last correction is for. -/
theorem century_eq (h : EraDay dayOfEra century group yearOfGroup day) :
    dayOfEra / 36524 - dayOfEra / 146096 = century := by
  obtain ⟨hcentury, hgroup, hyear, hday, heq⟩ := h
  have hlast :
      1461 * group + 365 * yearOfGroup + day < 36524 ∨ dayOfEra = 146096 ∧ century = 3 := by
    omega
  -- with more facts at hand the division below takes `omega` too long
  clear hday
  rcases hlast with hrest | ⟨rfl, rfl⟩
  · have hfull : dayOfEra / 36524 = century := by
      clear hcentury
      omega
    have hera : dayOfEra / 146096 = 0 := by omega
    omega
  · rfl

/-- Where 1460 days are taken for four years, the groups in front of a day are counted, or one more
if the day is late in the last year of its group; it always is on a leap day. -/
theorem group_eq (h : EraDay dayOfEra century group yearOfGroup day) :
    ∃ early, dayOfEra / 1460 = 25 * century + group + early ∧
      (early = 0 ∧ day < 365 ∨ early = 1 ∧ 1 ≤ day) := by
  obtain ⟨hcentury, hgroup, hyear, hday, heq⟩ := h
  exact ⟨(24 * century + group + 365 * yearOfGroup + day) / 1460, by omega, by omega⟩

/-- The formula gives the year. -/
theorem eraYear_eq (h : EraDay dayOfEra century group yearOfGroup day) :
    eraYear dayOfEra = 100 * century + 4 * group + yearOfGroup := by
  obtain ⟨early, hgroup, hearly⟩ := h.group_eq
  have hcentury := h.century_eq
  have hle : dayOfEra / 146096 ≤ dayOfEra / 36524 := Nat.div_le_div_left (by decide) (by decide)
  have hday := h.day_le
  have heq := h.eq
  -- what is left of the leap days is less than a year
  have hsum : dayOfEra - dayOfEra / 1460 + dayOfEra / 36524 - dayOfEra / 146096 =
      365 * (100 * century + 4 * group + yearOfGroup) + (day - early) := by
    generalize dayOfEra / 146096 = eras at *
    generalize dayOfEra / 36524 = centuries at *
    generalize dayOfEra / 1460 = groups at *
    omega
  rw [eraYear, hsum]
  omega

end EraDay

/-- A day of an era is in the year that the formula gives, whose last day is a leap day or not by
the rule for the year in which it ends. -/
theorem exists_eraYear (h : dayOfEra < 146097) :
    ∃ day, eraYear dayOfEra < 400 ∧ dayOfEra = eraYearStart (eraYear dayOfEra) + day ∧
      day < yearLength (eraYear dayOfEra + 1) := by
  obtain ⟨century, group, year, day, hera⟩ := exists_eraDay h
  have hyear := hera.eraYear_eq
  obtain ⟨hcentury, hgroup, hyearOfGroup, hday, heq⟩ := hera
  refine ⟨day, by omega, ?_, ?_⟩
  · have hfours : (100 * century + 4 * group + year) / 4 = 25 * century + group := by omega
    have hhundreds : (100 * century + 4 * group + year) / 100 = century := by omega
    rw [hyear, eraYearStart, hfours, hhundreds]
    omega
  · have hleap := isLeap_iff (eraYear dayOfEra + 1)
    rw [yearLength]
    split
    · omega
    · -- only a leap year has a day behind its 365
      rcases hday with hday | ⟨rfl, rfl, hcase⟩
      · exact hday
      · exact absurd (hleap.2 (by omega)) ‹_›

/-! ## The date -/

/-- The days from the 1st of March to the start of a month, counted from 0 for March. -/
def marchMonthStart (month : Nat) : Nat :=
  (153 * month + 2) / 5

/-- The years of all eras are alike. -/
theorem isLeap_add_era (year era : Nat) : isLeap (year + era * 400) = isLeap year := by
  apply Bool.eq_iff_iff.2
  rw [isLeap_iff, isLeap_iff]
  omega

/-- The date of a day of a year that starts in March, counted from 0. -/
def marchDate (year day : Nat) : Date :=
  let marchMonth := (5 * day + 2) / 153
  let month := if marchMonth < 10 then marchMonth + 3 else marchMonth - 9
  { year := year + if month ≤ 2 then 1 else 0
    month
    day := day - marchMonthStart marchMonth + 1 }

/-- The closed form is the date of a day of a year of an era, counted from the 1st of March of
year 0. -/
theorem ofDayNumber_eq (days : Nat) :
    Date.ofDayNumber days =
      marchDate (eraYear ((days + 719468) % 146097) + (days + 719468) / 146097 * 400)
        ((days + 719468) % 146097 - eraYearStart (eraYear ((days + 719468) % 146097))) := by
  unfold Date.ofDayNumber
  generalize days + 719468 = sinceMarch
  rfl

/-- From March to December, the start of a month is the same in all years, seen from March. -/
theorem daysBeforeMonth_march (year : Nat) (h : month < 10) :
    daysBeforeMonth year (month + 3) = (if isLeap year then 60 else 59) + marchMonthStart month ∧
      monthLength year (month + 3) = marchMonthStart (month + 1) - marchMonthStart month := by
  interval_cases month <;> simp only [daysBeforeMonth, List.range, List.range.loop, List.foldl,
    monthLength, marchMonthStart] <;> split <;> decide

/-- The month of a day of a year that starts in March. -/
theorem marchMonth_spec {day : Nat} (h : day < 366) :
    (5 * day + 2) / 153 ≤ 11 ∧ marchMonthStart ((5 * day + 2) / 153) ≤ day ∧
      day < marchMonthStart ((5 * day + 2) / 153 + 1) := by
  unfold marchMonthStart
  omega

theorem yearLength_le (year : Nat) : yearLength year ≤ 366 := by
  rw [yearLength]
  split <;> decide

/-- From the 1st of March to the end of the year there are 306 days. -/
theorem daysBeforeYear_succ_eq (year : Nat) :
    daysBeforeYear (year + 1) = daysBeforeYear year + (if isLeap year then 60 else 59) + 306 := by
  rw [daysBeforeYear, yearLength]
  split <;> rfl

/-- The days of a year that starts in March have dates, which are counted on from the 1st of
March. -/
theorem marchDate_spec {day : Nat} (h : day < yearLength (year + 1)) :
    (marchDate year day).IsValid ∧ (marchDate year day).daysSinceYearZero =
      daysBeforeYear year + (if isLeap year then 60 else 59) + day := by
  obtain ⟨hmonth, hstart, hend⟩ := marchMonth_spec (Nat.lt_of_lt_of_le h (yearLength_le _))
  unfold marchDate
  generalize (5 * day + 2) / 153 = month at *
  rcases Nat.lt_or_ge month 10 with hlate | hearly
  · obtain ⟨hbefore, hlength⟩ := daysBeforeMonth_march year hlate
    have hnot : ¬month + 3 ≤ 2 := by omega
    simp only [if_pos hlate, if_neg hnot, Date.IsValid, Date.daysSinceYearZero, Nat.add_zero,
      hbefore, hlength]
    omega
  · -- January and February belong to the next year of the calendar
    have hnot : ¬month < 10 := Nat.not_lt.2 hearly
    have hle : month - 9 ≤ 2 := by omega
    have hyear := daysBeforeYear_succ_eq year
    simp only [if_neg hnot, if_pos hle, Date.IsValid, Date.daysSinceYearZero, hyear]
    obtain rfl | rfl : month = 10 ∨ month = 11 := by omega
    -- January is as long in all years, and February ends with the year that starts in March
    · have hbefore : daysBeforeMonth (year + 1) 1 = 0 := rfl
      have hlength : monthLength (year + 1) 1 = 31 := rfl
      simp only [Nat.reduceSub, hbefore, hlength, marchMonthStart] at hend hstart ⊢
      omega
    · have hbefore : daysBeforeMonth (year + 1) 2 = 31 := rfl
      have hlength : yearLength (year + 1) = monthLength (year + 1) 2 + 337 := by
        rw [yearLength, monthLength]
        split <;> rfl
      simp only [Nat.reduceSub, hbefore, marchMonthStart] at hend hstart ⊢
      omega

/-- The days in front of the 1st of March of a year, counted from year 0. -/
theorem daysBeforeYear_march (hlt : year < 400) (era : Nat) :
    daysBeforeYear (year + era * 400) + (if isLeap (year + era * 400) then 60 else 59) =
      146097 * era + eraYearStart year + 60 := by
  -- counted back from the start of the next year, leap days are only those of whole years
  have hback := daysBeforeYear_succ_eq (year + era * 400)
  have heq := daysBeforeYear_eq (year + era * 400 + 1)
  have hfours : (year + era * 400 + 1 + 3) / 4 = year / 4 + 100 * era + 1 := by omega
  have hhundreds : (year + era * 400 + 1 + 99) / 100 = year / 100 + 4 * era + 1 := by omega
  have heras : (year + era * 400 + 1 + 399) / 400 = era + 1 := by omega
  rw [eraYearStart]
  omega

/-- The date found by the closed form exists, and is the day asked for. The first day counted from
is the 1st of March of year 0, 719468 days before the 1st of January 1970. -/
theorem ofDayNumber_spec (days : Nat) :
    (Date.ofDayNumber days).IsValid ∧
      (Date.ofDayNumber days).daysSinceYearZero = days + 719528 := by
  obtain ⟨day, hyear, hday, hlt⟩ := exists_eraYear
    (Nat.mod_lt (days + 719468) (show 146097 > 0 by decide))
  have hera := Nat.div_add_mod (days + 719468) 146097
  rw [ofDayNumber_eq]
  generalize (days + 719468) % 146097 = dayOfEra at *
  generalize (days + 719468) / 146097 = era at *
  -- the era goes into the year, so the length of the year must not depend on it
  have hsub : dayOfEra - eraYearStart (eraYear dayOfEra) = day := by omega
  have hleap :
      yearLength (eraYear dayOfEra + era * 400 + 1) = yearLength (eraYear dayOfEra + 1) := by
    rw [yearLength, yearLength, Nat.add_right_comm, isLeap_add_era]
  obtain ⟨hvalid, hcount⟩ := marchDate_spec (hleap ▸ hlt)
  rw [hsub]
  refine ⟨hvalid, ?_⟩
  rw [hcount, daysBeforeYear_march hyear era]
  omega

end SectorStore.Calendar
