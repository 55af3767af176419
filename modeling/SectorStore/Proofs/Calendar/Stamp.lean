import Std.Data.String.ToNat
import SectorStore.FileHeader.Basic
import SectorStore.Proofs.Calendar.Checked
import SectorStore.Proofs.Text.Fixed

/-!
# The text of a time

`stamp_spec` says what the text of a time is: the date is the only one that is as many days after
the 1st of January 1970 as whole days have passed, the weekday is found by going on from that
Thursday one day after another, and the time of day is what is left over. Every part of the text
but the year has a fixed width, so that the parts are read off it, and no two times have the same
text (`stamp_injective`). Up to the year 99999 a line has at most 25 bytes, which is what the fields
for times in a header hold (`text_ofString_append`).
-/

namespace SectorStore.Calendar

variable {n m days seconds seconds' : Nat} {fill : Char}

/-! ## Weekdays -/

/-- The weekday after a weekday. -/
def nextWeekday : String → String
  | "Mon" => "Tue" | "Tue" => "Wed" | "Wed" => "Thu" | "Thu" => "Fri" | "Fri" => "Sat"
  | "Sat" => "Sun" | _ => "Mon"

/-- The weekday so many days after a Thursday. -/
def weekdayAfter : (days : Nat) → String
  | 0 => "Thu"
  | days + 1 => nextWeekday (weekdayAfter days)

/-- The names of the days of the week follow each other. -/
theorem weekdayName_succ (h : n < 7) :
    weekdayName ((n + 1) % 7) = nextWeekday (weekdayName n) := by
  interval_cases n <;> decide

/-- The weekday found by division is that found by counting. -/
theorem weekdayName_weekday (days : Nat) : weekdayName (weekday days) = weekdayAfter days := by
  induction days with
  | zero => rfl
  | succ days ih =>
    have hmod : weekday (days + 1) = (weekday days + 1) % 7 := by
      unfold weekday
      omega
    have hlt : weekday days < 7 := Nat.mod_lt _ (by decide)
    rw [hmod, weekdayName_succ hlt, ih, weekdayAfter]

/-! ## Digits -/

/-- Different digits are different characters. -/
theorem digitChar_inj (hn : n < 10) (hm : m < 10) (h : Nat.digitChar n = Nat.digitChar m) :
    n = m := by
  have hcode := congrArg Char.toNat h
  rw [Nat.toNat_digitChar_of_lt_ten hn, Nat.toNat_digitChar_of_lt_ten hm] at hcode
  omega

/-- A number of at most two digits has two characters, of which the first may be the filler. -/
theorem toList_twoDigits (fill : Char) (h : n < 100) :
    (twoDigits fill n).toList =
      [if n < 10 then fill else Nat.digitChar (n / 10), Nat.digitChar (n % 10)] := by
  rw [twoDigits]
  split
  · next hlt => rw [String.toList_ofList, Nat.mod_eq_of_lt hlt]
  · next hge =>
    rw [Nat.toString_eq_repr, Nat.repr_eq_ofList_toDigits, String.toList_ofList,
      Nat.toDigits_eq_if (by decide), if_neg hge, Nat.toDigits_of_lt_base (by omega)]
    rfl

/-- Two digits, or a digit behind a character that comes before all digits or is the digit zero,
tell the number. -/
theorem twoDigits_inj (hfill : fill.toNat ≤ 48) (hn : n < 100) (hm : m < 100)
    (h : (twoDigits fill n).toList = (twoDigits fill m).toList) : n = m := by
  rw [toList_twoDigits fill hn, toList_twoDigits fill hm, List.cons.injEq, List.cons.injEq] at h
  obtain ⟨htens, hones, -⟩ := h
  have hones := digitChar_inj (Nat.mod_lt n (by decide)) (Nat.mod_lt m (by decide)) hones
  have hcode := congrArg Char.toNat htens
  have hdigit : ∀ k < 100, (Nat.digitChar (k / 10)).toNat = 48 + k / 10 :=
    fun k hk => Nat.toNat_digitChar_of_lt_ten (by omega)
  -- the filling is no digit but zero, and the tens of a number from 10 on are not zero
  split at hcode <;> split at hcode
  · omega
  · rw [hdigit m hm] at hcode
    omega
  · rw [hdigit n hn] at hcode
    omega
  · rw [hdigit n hn, hdigit m hm] at hcode
    omega

/-! ## The parts of the text -/

theorem length_weekdayName (n : Nat) : (weekdayName n).toList.length = 3 := by
  unfold weekdayName
  split <;> rfl

theorem length_monthName (n : Nat) : (monthName n).toList.length = 3 := by
  unfold monthName
  split <;> rfl

theorem length_twoDigits (fill : Char) (h : n < 100) : (twoDigits fill n).toList.length = 2 := by
  rw [toList_twoDigits fill h]
  rfl

/-- Different months have different names. -/
theorem monthName_inj {month month' : Nat} (h : 1 ≤ month ∧ month ≤ 12)
    (h' : 1 ≤ month' ∧ month' ≤ 12) (heq : monthName month = monthName month') :
    month = month' := by
  -- there are only twelve names
  have hall : ∀ i < 13, ∀ j < 13, 1 ≤ i → 1 ≤ j → monthName i = monthName j → i = j := by
    decide +kernel
  exact hall month (by omega) month' (by omega) h.1 h'.1 heq

/-- The line for a weekday, a date and a time of day. -/
def line (weekday : String) (date : Date) (hour minute second : Nat) : String :=
  let month := monthName date.month
  let day := twoDigits ' ' date.day
  let hour := twoDigits '0' hour
  let minute := twoDigits '0' minute
  let second := twoDigits '0' second
  s!"{weekday} {month} {day} {hour}:{minute}:{second} {date.year}"

/-- A line is the weekday, the month, the day, the time and the year, with separators in between. -/
theorem toList_line (weekday : String) (date : Date) (hour minute second : Nat) :
    (line weekday date hour minute second).toList = weekday.toList ++
      (' ' :: (monthName date.month).toList ++
        (' ' :: (twoDigits ' ' date.day).toList ++
          (' ' :: (twoDigits '0' hour).toList ++
            (':' :: (twoDigits '0' minute).toList ++
              (':' :: (twoDigits '0' second).toList ++
                (' ' :: Nat.toDigits 10 date.year)))))) := by
  simp [line, Utf8.toString_text]

/-- A line with its end, as it is put together. -/
theorem line_append (weekday : String) (date : Date) (time : Nat) :
    line weekday date (time / 3600) (time % 3600 / 60) (time % 60) ++ "\n" =
      (let month := monthName date.month
      let day := twoDigits ' ' date.day
      let time := timeOfDay time
      s!"{weekday} {month} {day} {time} {date.year}\n") := by
  apply String.toList_inj.1
  simp [line, timeOfDay, Utf8.toString_text]

/-- The stamp of a time is the line of its date and its time of day, with a line end. -/
theorem stamp_eq_line (seconds : Nat) :
    stamp seconds = line (weekdayAfter (seconds / 86400)) (Date.ofDayNumber (seconds / 86400))
      (seconds % 86400 / 3600) (seconds % 86400 % 3600 / 60) (seconds % 86400 % 60) ++ "\n" := by
  rw [line_append, ← weekdayName_weekday]
  rfl

section Lines

variable {date date' : Date} {weekday weekday' : String}
  {hour minute second hour' minute' second' : Nat}

theorem monthLength_le (year month : Nat) : monthLength year month ≤ 31 := by
  unfold monthLength
  split
  · split <;> decide
  all_goals decide

/-- The day of a month has at most two digits. -/
theorem Date.IsValid.day_lt (h : date.IsValid) : date.day < 100 := by
  have hlength := monthLength_le date.year date.month
  obtain ⟨-, -, -, hday⟩ := h
  omega

/-- From a line the date and the time of day can be read. -/
theorem line_inj (hweekday : weekday.toList.length = weekday'.toList.length)
    (hvalid : date.IsValid) (hvalid' : date'.IsValid)
    (htime : hour < 24 ∧ minute < 60 ∧ second < 60)
    (htime' : hour' < 24 ∧ minute' < 60 ∧ second' < 60)
    (h : line weekday date hour minute second = line weekday' date' hour' minute' second') :
    date = date' ∧ hour = hour' ∧ minute = minute' ∧ second = second' := by
  have hday := hvalid.day_lt
  have hday' := hvalid'.day_lt
  have hfill : ('0' : Char).toNat ≤ 48 := by decide
  have htwo : ∀ {fill : Char} {n m : Nat}, n < 100 → m < 100 →
      (twoDigits fill n).toList.length = (twoDigits fill m).toList.length :=
    fun hn hm => (length_twoDigits _ hn).trans (length_twoDigits _ hm).symm
  have h := congrArg String.toList h
  rw [toList_line, toList_line] at h
  -- the parts in front of the year are of the same length in both lines
  obtain ⟨-, h⟩ := List.append_inj h hweekday
  obtain ⟨hmonth, h⟩ := List.append_inj (List.cons.inj h).2
    ((length_monthName _).trans (length_monthName _).symm)
  obtain ⟨hdays, h⟩ := List.append_inj (List.cons.inj h).2 (htwo hday hday')
  obtain ⟨hhours, h⟩ := List.append_inj (List.cons.inj h).2 (htwo (by omega) (by omega))
  obtain ⟨hminutes, h⟩ := List.append_inj (List.cons.inj h).2 (htwo (by omega) (by omega))
  obtain ⟨hseconds, h⟩ := List.append_inj (List.cons.inj h).2 (htwo (by omega) (by omega))
  have hyear : date.year = date'.year := by
    apply Nat.repr_injective
    rw [Nat.repr_eq_ofList_toDigits, Nat.repr_eq_ofList_toDigits, (List.cons.inj h).2]
  have hmonth : date.month = date'.month :=
    monthName_inj ⟨hvalid.1, hvalid.2.1⟩ ⟨hvalid'.1, hvalid'.2.1⟩ (String.toList_inj.1 hmonth)
  have hdays : date.day = date'.day := twoDigits_inj (by decide) hday hday' hdays
  refine ⟨?_, twoDigits_inj hfill (by omega) (by omega) hhours,
    twoDigits_inj hfill (by omega) (by omega) hminutes,
    twoDigits_inj hfill (by omega) (by omega) hseconds⟩
  cases date
  cases date'
  simp_all

/-! ## The text in a header -/

/-- The number of digits of a year up to 99999. -/
theorem length_toDigits_le (h : n ≤ 99999) : (Nat.toDigits 10 n).length ≤ 5 :=
  (Nat.length_toDigits_le_iff (by decide) (by decide)).2 (by omega)

/-- A line has at most 25 characters, as long as the year has at most five digits. -/
theorem length_line_le (hweekday : weekday.toList.length = 3) (hvalid : date.IsValid)
    (htime : hour < 24 ∧ minute < 60 ∧ second < 60) (hyear : date.year ≤ 99999) :
    (line weekday date hour minute second).toList.length ≤ 25 := by
  have hdigits := length_toDigits_le hyear
  rw [toList_line]
  simp only [List.length_append, List.length_cons, hweekday, length_monthName,
    length_twoDigits ' ' hvalid.day_lt, length_twoDigits '0' (show hour < 100 by omega),
    length_twoDigits '0' (show minute < 100 by omega),
    length_twoDigits '0' (show second < 100 by omega)]
  omega

/-- The character is a single byte, and neither zero nor a line end. -/
def IsPrintable (c : Char) : Prop :=
  32 ≤ c.toNat ∧ c.toNat < 127

instance (c : Char) : Decidable (IsPrintable c) :=
  inferInstanceAs (Decidable (_ ∧ _))

theorem isPrintable_of_isDigit {c : Char} (h : c.isDigit = true) : IsPrintable c := by
  obtain ⟨hle, hge⟩ := Char.isDigit_iff_toNat.1 h
  exact ⟨Nat.le_trans (by decide) hle, Nat.lt_of_le_of_lt hge (by decide)⟩

/-- A printable character takes one byte. -/
theorem utf8Size_of_isPrintable {c : Char} (h : IsPrintable c) : c.utf8Size = 1 := by
  apply Char.utf8Size_eq_one_iff.2
  rw [UInt32.le_iff_toNat_le]
  exact Nat.le_of_lt_succ (Nat.lt_of_lt_of_le h.2 (by decide))

/-- The two characters of a number are printable. -/
theorem isPrintable_twoDigits (hfill : IsPrintable fill) (h : n < 100) :
    ∀ c ∈ (twoDigits fill n).toList, IsPrintable c := by
  have hdigit : ∀ k < 10, IsPrintable (Nat.digitChar k) := by decide
  rw [toList_twoDigits fill h]
  intro c hc
  rw [List.mem_cons, List.mem_singleton] at hc
  rcases hc with rfl | rfl
  · split
    · exact hfill
    · exact hdigit _ (by omega)
  · exact hdigit _ (by omega)

/-- A text that is checked character by character is printable. -/
theorem isPrintable_of_all {text : String} (h : text.toList.all (IsPrintable ·) = true) :
    ∀ c ∈ text.toList, IsPrintable c :=
  fun c hc => of_decide_eq_true (List.all_eq_true.1 h c hc)

theorem isPrintable_weekdayName (n : Nat) : ∀ c ∈ (weekdayName n).toList, IsPrintable c := by
  unfold weekdayName
  split <;> exact isPrintable_of_all (by decide)

theorem isPrintable_monthName (month : Nat) : ∀ c ∈ (monthName month).toList, IsPrintable c := by
  unfold monthName
  split <;> exact isPrintable_of_all (by decide)

/-- A line has printable characters only. -/
theorem isPrintable_line (hweekday : ∀ c ∈ weekday.toList, IsPrintable c) (hvalid : date.IsValid)
    (htime : hour < 24 ∧ minute < 60 ∧ second < 60) :
    ∀ c ∈ (line weekday date hour minute second).toList, IsPrintable c := by
  have hblank : IsPrintable ' ' := by decide
  have hcolon : IsPrintable ':' := by decide
  have hzero : IsPrintable '0' := by decide
  have hday := isPrintable_twoDigits hblank hvalid.day_lt
  have hhour := isPrintable_twoDigits hzero (show hour < 100 by omega)
  have hminute := isPrintable_twoDigits hzero (show minute < 100 by omega)
  have hsecond := isPrintable_twoDigits hzero (show second < 100 by omega)
  have hmonth := isPrintable_monthName date.month
  have hyear : ∀ c ∈ Nat.toDigits 10 date.year, IsPrintable c := fun c hc =>
    isPrintable_of_isDigit (Nat.isDigit_of_mem_toDigits (by decide) (by decide) hc)
  rw [toList_line]
  simp only [List.mem_append, List.mem_cons]
  grind

/-- A printable text is read back from a field without the line end behind it. -/
theorem text_ofString_append {text : String} {width : Nat}
    (hchars : ∀ c ∈ text.toList, IsPrintable c) (hlength : text.toList.length < width) :
    (Utf8.encode text).length = text.toList.length ∧
      (FixedText.ofString (text ++ "\n") : FixedText width).text = text := by
  -- neither the line end nor the character that ends a field is printable
  have hbytes := Utf8.length_encodeChars fun c hc => utf8Size_of_isPrintable (hchars c hc)
  have hsplit : (text ++ "\n").toList = text.toList ++ ['\n'] := by simp
  have htrim : FixedText.trimLineEnds (text ++ "\n").toList = text.toList := by
    rw [hsplit]
    apply FixedText.trimLineEnds_append
    intro hmem
    exact absurd (hchars _ hmem) (by decide)
  have hzero : '\x00' ∉ (text ++ "\n").toList := by
    rw [hsplit, List.mem_append, not_or]
    exact ⟨fun hmem => absurd (hchars _ hmem) (by decide), by decide⟩
  refine ⟨hbytes, ?_⟩
  rw [FixedText.text_ofString hzero (by rwa [htrim, hbytes]), htrim, String.ofList_toList]

end Lines

/-! ## The time -/

/-- The day from which time is counted. -/
def epoch : Date where
  year := 1970
  month := 1
  day := 1

/-- The days from year 0 to the start of 1970. -/
theorem daysSinceYearZero_epoch : epoch.daysSinceYearZero = 719528 := by
  have hyears := daysBeforeYear_eq 1970
  have hmonths : daysBeforeMonth 1970 1 = 0 := rfl
  simp only [Date.daysSinceYearZero, epoch, hmonths]
  omega

/-- Different times have different texts. -/
theorem stamp_injective : Function.Injective stamp := by
  intro seconds seconds' h
  obtain ⟨hvalid, hcount⟩ := ofDayNumber_spec (seconds / 86400)
  obtain ⟨hvalid', hcount'⟩ := ofDayNumber_spec (seconds' / 86400)
  rw [stamp_eq_line, stamp_eq_line, String.append_left_inj] at h
  obtain ⟨hdate, hhour, hminute, hsecond⟩ := line_inj
    (by rw [← weekdayName_weekday, ← weekdayName_weekday, length_weekdayName, length_weekdayName])
    hvalid hvalid' (by omega) (by omega) h
  -- the dates tell the whole days, and the times of day the rest
  rw [hdate, hcount'] at hcount
  omega

/-- The text of a time is the line for the one date that exists and is as many days after the first
one as whole days have passed, for the weekday that is as many days after Thursday, and for the
hours, minutes and seconds of the rest. Up to the year 99999 the line has at most 25 bytes, and a
field for a time in a header keeps all of it. In words of 64 bits it is computed without an
overflow, a negative number or an index out of range, and no other time has the same text. -/
theorem stamp_spec (h : seconds < 2 ^ 64) :
    ∃ (date : Date) (hour minute second : Nat) (text : String),
      (date.IsValid ∧ date.daysSinceYearZero = epoch.daysSinceYearZero + seconds / 86400 ∧
        ∀ other : Date, other.IsValid →
          other.daysSinceYearZero = epoch.daysSinceYearZero + seconds / 86400 → other = date) ∧
      (hour < 24 ∧ minute < 60 ∧ second < 60 ∧
        3600 * hour + 60 * minute + second = seconds % 86400) ∧
      text = line (weekdayAfter (seconds / 86400)) date hour minute second ∧
      stamp seconds = text ++ "\n" ∧
      (date.year ≤ 99999 → (Utf8.encode text).length ≤ 25 ∧
        (FixedText.ofString (stamp seconds) : FixedText timeWidth).text = text) ∧
      stamp? seconds = some (stamp seconds) ∧
      ∀ other < 2 ^ 64, stamp other = stamp seconds → other = seconds := by
  obtain ⟨hvalid, hcount⟩ := ofDayNumber_spec (seconds / 86400)
  have htext := stamp_eq_line seconds
  have hcheck := stamp?_eq h
  have hepoch : (Date.ofDayNumber (seconds / 86400)).daysSinceYearZero =
      epoch.daysSinceYearZero + seconds / 86400 := by
    rw [hcount, daysSinceYearZero_epoch, Nat.add_comm]
  -- from here on it does not matter how the date was found, only which days it counts
  generalize Date.ofDayNumber (seconds / 86400) = date at *
  refine ⟨date, seconds % 86400 / 3600, seconds % 86400 % 3600 / 60, seconds % 86400 % 60, _,
    ⟨hvalid, hepoch, ?unique⟩, by omega, rfl, htext, ?stored, hcheck,
    fun other _ heq => stamp_injective heq⟩
  case unique =>
    intro other hother heq
    exact hother.eq_of_daysSinceYearZero_eq hvalid (heq.trans hepoch.symm)
  case stored =>
    intro hyear
    have hlength : (weekdayAfter (seconds / 86400)).toList.length = 3 := by
      rw [← weekdayName_weekday, length_weekdayName]
    have hchars : ∀ c ∈ (weekdayAfter (seconds / 86400)).toList, IsPrintable c := by
      rw [← weekdayName_weekday]
      exact isPrintable_weekdayName _
    have htime : seconds % 86400 / 3600 < 24 ∧ seconds % 86400 % 3600 / 60 < 60 ∧
        seconds % 86400 % 60 < 60 := by omega
    have hle := length_line_le hlength hvalid htime hyear
    obtain ⟨hbytes, hback⟩ := text_ofString_append (isPrintable_line hchars hvalid htime)
      (show _ < timeWidth from Nat.lt_succ_of_le hle)
    rw [htext]
    exact ⟨hbytes.trans_le hle, hback⟩

/-- The last second of the leap day at the end of a century, which only every fourth century has. -/
theorem stamp_spec_of_leapDay :
    951868799 < 2 ^ 64 ∧ stamp? 951868799 = some "Tue Feb 29 23:59:59 2000\n" ∧
      (FixedText.ofString (stamp 951868799) : FixedText timeWidth).text =
        "Tue Feb 29 23:59:59 2000" := by
  have hlt : 951868799 < 2 ^ 64 := by decide
  obtain ⟨date, hour, minute, second, text, ⟨-, -, hunique⟩, -, -, hstamp, hstored, hchecked, -⟩ :=
    stamp_spec hlt
  have hstamp' : stamp 951868799 = "Tue Feb 29 23:59:59 2000" ++ "\n" := by decide +kernel
  have hdate : (⟨2000, 2, 29⟩ : Date) = date := by
    apply hunique _ (by decide)
    have hyears := daysBeforeYear_eq 2000
    have hmonths : daysBeforeMonth 2000 2 = 31 := rfl
    rw [daysSinceYearZero_epoch]
    simp only [Date.daysSinceYearZero, hmonths]
    omega
  have htext : text = "Tue Feb 29 23:59:59 2000" := by
    rw [hstamp, String.append_left_inj] at hstamp'
    exact hstamp'
  obtain ⟨-, hback⟩ := hstored (hdate ▸ (by decide : 2000 ≤ 99999))
  exact ⟨hlt, hchecked.trans (congrArg some hstamp'), hback.trans htext⟩

end SectorStore.Calendar
