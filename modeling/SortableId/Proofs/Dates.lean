import Mathlib.Order.Monotone.Basic
import Mathlib.Tactic.IntervalCases
import SortableId.Calendar

/-!
# Dates of the Gregorian calendar

A date is one of the calendar if its day lies in a month of its year, and it stands for as many days
as the years and the months before it have.  The date that is computed for a day is one of the
calendar and stands for that day.  The argument splits the days of an era into centuries, spans of
four years and years, whose leap days come last, and a year into months from March on.
-/

namespace SortableId.Date

/-! ## The rules of the calendar -/

/-- Every fourth year is a leap year, except for the full centuries that 400 does not divide. -/
def IsLeap (year : Nat) : Prop := 4 ∣ year ∧ (¬ 100 ∣ year ∨ 400 ∣ year)

instance (year : Nat) : Decidable (IsLeap year) := inferInstanceAs (Decidable (_ ∧ _))

/-- The number of leap days of a year. -/
def leapDays (year : Nat) : Nat := if IsLeap year then 1 else 0

/-- The number of days of a year. -/
def yearLength (year : Nat) : Nat := 365 + leapDays year

/-- The numbers of days of the months of a year, from January on. -/
def monthLengths (year : Nat) : List Nat :=
  [31, 28 + leapDays year, 31, 30, 31, 30, 31, 31, 30, 31, 30, 31]

/-- The date is a day of a month of the calendar, in 1970 or later. -/
structure InCalendar (date : Date) : Prop where
  year : 1970 ≤ date.year
  month : 1 ≤ date.month
  day : 1 ≤ date.day
  inMonth : date.day ≤ (monthLengths date.year)[date.month - 1]?.getD 0

instance (date : Date) : Decidable date.InCalendar :=
  decidable_of_iff (1970 ≤ date.year ∧ 1 ≤ date.month ∧ 1 ≤ date.day ∧
      date.day ≤ (monthLengths date.year)[date.month - 1]?.getD 0)
    ⟨fun ⟨year, month, day, inMonth⟩ => ⟨year, month, day, inMonth⟩,
      fun ⟨year, month, day, inMonth⟩ => ⟨year, month, day, inMonth⟩⟩

theorem leapDays_le (year : Nat) : leapDays year ≤ 1 := by
  unfold leapDays
  split <;> decide

namespace InCalendar

variable {date : Date}

theorem month_le (inCalendar : date.InCalendar) : date.month ≤ 12 := by
  have inMonth := inCalendar.inMonth
  have day := inCalendar.day
  by_contra late
  have outside : (monthLengths date.year)[date.month - 1]? = none := by
    apply List.getElem?_eq_none
    simp only [monthLengths, List.length_cons, List.length_nil]
    omega
  rw [outside, Option.getD_none] at inMonth
  omega

theorem day_le (inCalendar : date.InCalendar) : date.day ≤ 31 := by
  have lengths : ∀ length ∈ monthLengths date.year, length ≤ 31 := by
    have february : 28 + leapDays date.year ≤ 31 :=
      Nat.add_le_add_left (Nat.le_trans (leapDays_le date.year) (by decide : 1 ≤ 3)) 28
    simp [monthLengths, february]
  have inMonth := inCalendar.inMonth
  cases found : (monthLengths date.year)[date.month - 1]? with
  | none =>
      rw [found, Option.getD_none] at inMonth
      omega
  | some length =>
      rw [found, Option.getD_some] at inMonth
      exact Nat.le_trans inMonth (lengths length (List.mem_of_getElem? found))

end InCalendar

/-- The number of days from 1970-01-01 to a date: those of the years before it, of the months
before it and of the days before it. -/
def unixDay (date : Date) : Nat :=
  ((List.range' 1970 (date.year - 1970)).map yearLength).sum +
    ((monthLengths date.year).take (date.month - 1)).sum + (date.day - 1)

/-! ## Years -/

/-- How many of the years before the given one a number divides. -/
def multiplesBefore (divisor year : Nat) : Nat := (year + (divisor - 1)) / divisor

theorem multiplesBefore_succ {divisor : Nat} (positive : 0 < divisor) (year : Nat) :
    multiplesBefore divisor (year + 1) =
      multiplesBefore divisor year + if divisor ∣ year then 1 else 0 := by
  have shift : year + (divisor - 1) + 1 = year + divisor := by omega
  rw [multiplesBefore, Nat.add_right_comm, Nat.succ_div]
  simp only [multiplesBefore, shift, Nat.dvd_add_self_right]

/-- The number of days before a year, from the start of year zero on. -/
def daysBefore (year : Nat) : Nat :=
  365 * year + multiplesBefore 4 year + multiplesBefore 400 year - multiplesBefore 100 year

/-- The rule for leap years, with each divisor for itself. -/
theorem leapDays_add (year : Nat) : leapDays year + (if 100 ∣ year then 1 else 0) =
    (if 4 ∣ year then 1 else 0) + if 400 ∣ year then 1 else 0 := by
  have centuries : 400 ∣ year → 100 ∣ year := Nat.dvd_trans (by decide)
  have fours : 100 ∣ year → 4 ∣ year := Nat.dvd_trans (by decide)
  by_cases four : 4 ∣ year
  · by_cases century : 100 ∣ year
    · by_cases era : 400 ∣ year
      · simp [leapDays, IsLeap, four, century, era]
      · simp [leapDays, IsLeap, four, century, era]
    · have era := mt centuries century
      simp [leapDays, IsLeap, four, century, era]
  · have century := mt fours four
    have era := mt centuries century
    simp [leapDays, IsLeap, four, century, era]

theorem daysBefore_succ (year : Nat) : daysBefore (year + 1) = daysBefore year + yearLength year := by
  have leap := leapDays_add year
  have few : multiplesBefore 100 year ≤ year := by
    unfold multiplesBefore
    omega
  rw [daysBefore, daysBefore, multiplesBefore_succ (by decide), multiplesBefore_succ (by decide),
    multiplesBefore_succ (by decide), yearLength]
  omega

theorem monotone_daysBefore : Monotone daysBefore := by
  apply monotone_nat_of_le_succ
  intro year
  rw [daysBefore_succ]
  exact Nat.le_add_right _ _

theorem daysBefore_add_sum (year count : Nat) :
    daysBefore year + ((List.range' year count).map yearLength).sum = daysBefore (year + count) := by
  induction count with
  | zero => rfl
  | succ count ih =>
      rw [List.range'_concat, List.map_append, List.sum_append, ← Nat.add_assoc, ih, Nat.one_mul,
        ← Nat.add_assoc, daysBefore_succ, List.map_singleton, List.sum_singleton]

theorem daysBefore_epoch : daysBefore 1970 = 719528 := rfl

theorem unixDay_add {date : Date} (late : 1970 ≤ date.year) :
    date.unixDay + 719528 = daysBefore date.year +
      (((monthLengths date.year).take (date.month - 1)).sum + (date.day - 1)) := by
  have years := daysBefore_add_sum 1970 (date.year - 1970)
  rw [Nat.add_sub_of_le late, daysBefore_epoch] at years
  rw [unixDay, ← years]
  omega

/-! ## Months -/

/-- The days of the months of a year before the given one, and the length of that month, for the
months from March to December, which are counted from zero. -/
theorem months_from_march (year : Nat) {month : Nat} (inYear : month < 10) :
    ((monthLengths year).take (month + 2)).sum = 59 + leapDays year + (153 * month + 2) / 5 ∧
      (monthLengths year)[month + 2]? = some ((153 * month + 155) / 5 - (153 * month + 2) / 5) := by
  interval_cases month <;> simp [monthLengths, Nat.add_assoc] <;> omega

variable {year dayOfYear : Nat}

/-- A day of the year that begins in March of the given one.  If it has a leap day, that is the last
one. -/
structure InMarchYear (year dayOfYear : Nat) : Prop where
  le : dayOfYear ≤ 365
  leap : dayOfYear = 365 → leapDays (year + 1) = 1

theorem ofMarch_of_lt {month : Nat} (inYear : month < 10)
    (inMonth : (5 * dayOfYear + 2) / 153 = month) :
    ofMarch year dayOfYear = ⟨year, month + 3, dayOfYear - (153 * month + 2) / 5 + 1⟩ := by
  have late : ¬ month + 3 ≤ 2 := by omega
  rw [ofMarch]
  simp only [inMonth, if_pos inYear, if_neg late, Nat.add_zero]

theorem ofMarch_january (inMonth : (5 * dayOfYear + 2) / 153 = 10) :
    ofMarch year dayOfYear = ⟨year + 1, 1, dayOfYear - 306 + 1⟩ := by
  simp [ofMarch, inMonth]

theorem ofMarch_february (inMonth : (5 * dayOfYear + 2) / 153 = 11) :
    ofMarch year dayOfYear = ⟨year + 1, 2, dayOfYear - 337 + 1⟩ := by
  simp [ofMarch, inMonth]

/-- A date is that of a day of the year that begins in March of the given one. -/
structure Follows (date : Date) (year dayOfYear : Nat) : Prop where
  year_eq : date.year = year + if 306 ≤ dayOfYear then 1 else 0
  month_pos : 1 ≤ date.month
  day_pos : 1 ≤ date.day
  inMonth : date.day ≤ (monthLengths date.year)[date.month - 1]?.getD 0
  /-- January begins 306 days after March. -/
  days : daysBefore date.year + (((monthLengths date.year).take (date.month - 1)).sum +
    (date.day - 1)) + 306 = daysBefore (year + 1) + dayOfYear

theorem follows_of_lt {month : Nat} (inYear : month < 10)
    (inMonth : (5 * dayOfYear + 2) / 153 = month) :
    Follows (ofMarch year dayOfYear) year dayOfYear := by
  -- The days that the division leaves over are fewer than the month has.
  have within := (Nat.div_eq_iff (by decide)).mp inMonth
  rcases months_from_march year inYear with ⟨before, length⟩
  rw [ofMarch_of_lt inYear inMonth]
  constructor
  case year_eq =>
    have early : ¬ 306 ≤ dayOfYear := by omega
    rw [if_neg early]
    rfl
  case month_pos => exact Nat.succ_pos _
  case day_pos => exact Nat.succ_pos _
  case inMonth =>
    simp only [Nat.add_succ_sub_one, length, Option.getD_some]
    omega
  case days =>
    simp only [Nat.add_succ_sub_one, before, daysBefore_succ, yearLength]
    omega

theorem follows_january (inMonth : (5 * dayOfYear + 2) / 153 = 10) :
    Follows (ofMarch year dayOfYear) year dayOfYear := by
  have within := (Nat.div_eq_iff (by decide)).mp inMonth
  have late : 306 ≤ dayOfYear := by omega
  rw [ofMarch_january inMonth]
  constructor
  case year_eq => rw [if_pos late]
  case month_pos => exact Nat.le_refl 1
  case day_pos => exact Nat.succ_pos _
  case inMonth =>
    change dayOfYear - 306 + 1 ≤ 31
    omega
  case days =>
    simp only [Nat.sub_self, List.take_zero, List.sum_nil, Nat.add_sub_cancel]
    omega

theorem follows_february (inYear : InMarchYear year dayOfYear)
    (inMonth : (5 * dayOfYear + 2) / 153 = 11) :
    Follows (ofMarch year dayOfYear) year dayOfYear := by
  rcases inYear with ⟨le, leap⟩
  have within := (Nat.div_eq_iff (by decide)).mp inMonth
  have late : 306 ≤ dayOfYear := by omega
  rw [ofMarch_february inMonth]
  constructor
  case year_eq => rw [if_pos late]
  case month_pos => exact Nat.succ_pos _
  case day_pos => exact Nat.succ_pos _
  case inMonth =>
    change dayOfYear - 337 + 1 ≤ 28 + leapDays (year + 1)
    by_cases last : dayOfYear = 365
    · rw [leap last, last]
    · omega
  case days =>
    have january : ((monthLengths (year + 1)).take 1).sum = 31 := rfl
    simp only [Nat.add_one_sub_one, january]
    omega

theorem follows_ofMarch (inYear : InMarchYear year dayOfYear) :
    Follows (ofMarch year dayOfYear) year dayOfYear := by
  have months : (5 * dayOfYear + 2) / 153 < 10 ∨ (5 * dayOfYear + 2) / 153 = 10 ∨
      (5 * dayOfYear + 2) / 153 = 11 := by
    have le := inYear.le
    omega
  rcases months with sameYear | january | february
  · exact follows_of_lt sameYear rfl
  · exact follows_january january
  · exact follows_february inYear february

/-- A day that is not before the first of January 1970 lies in no earlier year. -/
theorem Follows.year_ge {date : Date} (follows : Follows date year dayOfYear)
    (inYear : InMarchYear year dayOfYear)
    (late : daysBefore 1970 + 306 ≤ daysBefore (year + 1) + dayOfYear) : 1970 ≤ date.year := by
  have le := inYear.le
  rw [follows.year_eq]
  by_contra early
  split at early
  · have before : daysBefore (year + 1) ≤ daysBefore 1969 := monotone_daysBefore (by omega)
    have succ : daysBefore 1970 = daysBefore 1969 + 365 := rfl
    omega
  · have before : daysBefore (year + 1) ≤ daysBefore 1970 := monotone_daysBefore (by omega)
    omega

/-! ## Eras -/

/-- A day of an era of 400 years in centuries, spans of four years, years and days.  The last year of
a span has a leap day, unless one of the first three centuries ends with it. -/
structure Splits (dayOfEra century span year rest : Nat) : Prop where
  whole : dayOfEra = 36524 * century + 1461 * span + 365 * year + rest
  century_le : century ≤ 3
  span_le : span ≤ 24
  year_le : year ≤ 3
  rest_le : rest ≤ 365
  leap : rest = 365 → year = 3 ∧ (span = 24 → century = 3)

theorem exists_splits {dayOfEra : Nat} (inEra : dayOfEra < 146097) :
    ∃ century span year rest, Splits dayOfEra century span year rest := by
  -- The leap days at the end of an era and of a span open no fifth century and no fifth year.
  let century := min (dayOfEra / 36524) 3
  let dayOfCentury := dayOfEra - 36524 * century
  let span := dayOfCentury / 1461
  let year := min (dayOfCentury % 1461 / 365) 3
  refine ⟨century, span, year, dayOfCentury - 1461 * span - 365 * year, ?_⟩
  constructor <;> omega

namespace Splits

variable {dayOfEra century span year rest : Nat}

/-- The last day of an era belongs to no fifth century. -/
theorem div_century (splits : Splits dayOfEra century span year rest) :
    dayOfEra / 36524 = century + dayOfEra / 146096 := by
  rcases splits with ⟨whole, _, _, _, _, leap⟩
  by_cases last : dayOfEra = 146096
  · have third : century = 3 := by omega
    rw [last, third]
  · have early : dayOfEra < 146096 := by omega
    rw [Nat.div_eq_of_lt early]
    exact Nat.div_eq_of_lt_le (by omega) (by omega)

/-- A span has 1460 days and a leap day, unless a century ends with it. -/
theorem div_span (splits : Splits dayOfEra century span year rest) :
    dayOfEra / 1460 =
      25 * century + span + (24 * century + span + 365 * year + rest) / 1460 := by
  have regrouped : dayOfEra =
      24 * century + span + 365 * year + rest + 1460 * (25 * century + span) := by
    rw [splits.whole]
    omega
  rw [regrouped, Nat.add_mul_div_left _ _ (by decide), Nat.add_comm]

/-- Without its leap days an era is divided into years of 365 days. -/
theorem yearOfEra_eq (splits : Splits dayOfEra century span year rest) :
    (dayOfEra - dayOfEra / 1460 + dayOfEra / 36524 - dayOfEra / 146096) / 365 =
      100 * century + 4 * span + year := by
  rw [splits.div_century, splits.div_span]
  rcases splits with ⟨whole, _, _, _, _, leap⟩
  apply Nat.div_eq_of_lt_le <;> omega

theorem dayOfYear_eq (splits : Splits dayOfEra century span year rest) {yearOfEra : Nat}
    (whole : yearOfEra = 100 * century + 4 * span + year) :
    dayOfEra - (365 * yearOfEra + yearOfEra / 4 - yearOfEra / 100) = rest := by
  rcases splits with ⟨days, _, _, _, _, _⟩
  omega

variable {era yearOfEra : Nat}

theorem inMarchYear (splits : Splits dayOfEra century span year rest)
    (whole : yearOfEra = 100 * century + 4 * span + year) :
    InMarchYear (era * 400 + yearOfEra) rest where
  le := splits.rest_le
  leap last := by
    rcases splits.leap last with ⟨lastYear, lastSpan⟩
    have span_le := splits.span_le
    have isLeap : IsLeap (era * 400 + yearOfEra + 1) := by
      unfold IsLeap
      omega
    rw [leapDays, if_pos isLeap]

theorem daysBefore_eq (splits : Splits dayOfEra century span year rest)
    (whole : yearOfEra = 100 * century + 4 * span + year) :
    daysBefore (era * 400 + yearOfEra + 1) + rest = 146097 * era + dayOfEra + 366 := by
  rcases splits with ⟨days, _, _, _, _, _⟩
  have fours : multiplesBefore 4 (era * 400 + yearOfEra + 1) =
      100 * era + 25 * century + span + 1 := by
    unfold multiplesBefore
    omega
  have centuries : multiplesBefore 100 (era * 400 + yearOfEra + 1) = 4 * era + century + 1 := by
    unfold multiplesBefore
    omega
  have eras : multiplesBefore 400 (era * 400 + yearOfEra + 1) = era + 1 := by
    unfold multiplesBefore
    omega
  rw [daysBefore, fours, centuries, eras, days, whole]
  omega

end Splits

/-- The date of a day is that of a day of some year that begins in March. -/
theorem exists_follows (day : Nat) : ∃ year dayOfYear, Follows (ofUnixDay day) year dayOfYear ∧
    InMarchYear year dayOfYear ∧ daysBefore (year + 1) + dayOfYear = daysBefore 1970 + 306 + day := by
  have inEra : (day + daysBeforeUnix) % 146097 < 146097 := Nat.mod_lt _ (by decide)
  rcases exists_splits inEra with ⟨century, span, year, rest, splits⟩
  have inYear : InMarchYear
      ((day + daysBeforeUnix) / 146097 * 400 + (100 * century + 4 * span + year)) rest :=
    splits.inMarchYear rfl
  refine ⟨_, rest, ?_, inYear, ?_⟩
  · have follows := follows_ofMarch inYear
    rw [ofUnixDay]
    simpa only [splits.yearOfEra_eq, splits.dayOfYear_eq rfl] using follows
  · rw [splits.daysBefore_eq rfl, Nat.div_add_mod, daysBefore_epoch]
    unfold daysBeforeUnix
    omega

theorem inCalendar_ofUnixDay (day : Nat) : (ofUnixDay day).InCalendar := by
  rcases exists_follows day with ⟨year, dayOfYear, follows, inYear, start⟩
  have late : daysBefore 1970 + 306 ≤ daysBefore (year + 1) + dayOfYear := by
    rw [start]
    exact Nat.le_add_right _ _
  exact ⟨follows.year_ge inYear late, follows.month_pos, follows.day_pos, follows.inMonth⟩

/-- The date of a day stands for that day. -/
theorem unixDay_ofUnixDay (day : Nat) : (ofUnixDay day).unixDay = day := by
  rcases exists_follows day with ⟨year, dayOfYear, follows, _, start⟩
  have days := follows.days
  rw [← unixDay_add (inCalendar_ofUnixDay day).year, start, daysBefore_epoch] at days
  omega

end SortableId.Date
