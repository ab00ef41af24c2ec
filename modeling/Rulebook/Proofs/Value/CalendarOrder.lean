/-
Rulebook.Proofs.Value.CalendarOrder — earlier days come first.

Dates are compared by year, month and day, where what is meant is the order of the
days.  Dates that are in the calendar follow each other without a gap: the last of a
month is the day before the first of the next.  So on these the two are the same.
Triples that are no dates, such as a thirtieth of February, have their place in the
order as well, but no day of their own.

  §1 Months   — their first days.
  §2 Dates    — the days of dates, and the comparison.
  §3 Days     — the dates of days.
  §4 Instants — the comparison by the time, and the dates of instants.
-/
import Mathlib.Tactic.IntervalCases
import Mathlib.Tactic.Ring
import Rulebook.Calendar

namespace Rulebook

/-- Counting on from the same number does not change how two numbers compare. -/
theorem compare_add_natCast (k : Int) (m n : Nat) : compare (k + m) (k + n) = compare m n := by
  rw [← cmp_eq_compare, ← cmp_eq_compare, cmp_add_left, Nat.strictMono_cast.cmp_map_eq]

/-! ## 1. Months -/

namespace Date

/-- The leap days from the year zero to a year. -/
def leapDays (year : Int) : Int := year / 4 - year / 100 + year / 400

theorem leapDays_eq (year : Int) :
    leapDays year = leapDays (year - 1) + if IsLeap year then 1 else 0 := by
  unfold leapDays
  by_cases leap : IsLeap year
  · rw [if_pos leap]
    unfold IsLeap at leap
    omega
  · rw [if_neg leap]
    unfold IsLeap at leap
    omega

/-- The day on which a month begins.  Days are counted from the first of January 1970, and months
from the first of the year zero, which is the month one. -/
def monthStart (month : Int) : Int :=
  -- years that begin in March end in their leap day
  let year := (month - 3) / 12
  365 * year + leapDays year + (153 * ((month - 3) % 12) + 2) / 5 - 719468

theorem monthStart_eq (month year marchMonth : Int) (parts : month = 12 * year + marchMonth + 3)
    (nonneg : 0 ≤ marchMonth) (le : marchMonth ≤ 11) :
    monthStart month = 365 * year + leapDays year + (153 * marchMonth + 2) / 5 - 719468 := by
  have years : (month - 3) / 12 = year := by omega
  have months : (month - 3) % 12 = marchMonth := by omega
  rw [monthStart, years, months]

/-- The next month begins when the days of this one are over. -/
theorem monthStart_succ (year : Int) {month : Nat} (pos : 1 ≤ month) (le : month ≤ 12) :
    monthStart (12 * year + month + 1) = monthStart (12 * year + month) + daysIn year month := by
  rcases Nat.lt_or_ge 2 month with late | early
  · have here := monthStart_eq (12 * year + month) year (month - 3) (by ring) (by omega) (by omega)
    have next := monthStart_eq (12 * year + month + 1) year (month - 2) (by ring) (by omega)
      (by omega)
    have days : (153 * (month - 2) + 2 : Int) / 5
        = (153 * (month - 3) + 2) / 5 + daysIn year month := by
      interval_cases month <;> simp [daysIn]
    rw [here, next, days]
    ring
  · -- January and February end the year that began in the March before
    have february := monthStart_eq (12 * year + 2) (year - 1) 11 (by ring) (by decide) (by decide)
    obtain rfl | rfl : month = 1 ∨ month = 2 := by omega
    · have january := monthStart_eq (12 * year + 1) (year - 1) 10 (by ring) (by decide) (by decide)
      rw [Nat.cast_one, add_assoc, january]
      refine february.trans ?_
      simp [daysIn]
      ring
    · have march := monthStart_eq (12 * year + 3) year 0 (by ring) (by decide) (by decide)
      rw [Nat.cast_ofNat, add_assoc, february]
      refine march.trans ?_
      rw [leapDays_eq year]
      unfold daysIn
      rw [if_pos rfl]
      split <;> omega

theorem monthStart_mono {month month' : Int} (le : month ≤ month') :
    monthStart month ≤ monthStart month' := by
  refine monotone_int_of_le_succ (fun month => ?_) le
  unfold monthStart leapDays
  dsimp only
  omega

/-! ## 2. Dates -/

/-- The number of the month of a date. -/
def monthNumber (d : Date) : Int := 12 * d.year + d.month

/-- The day of a date. -/
def dayNumber (d : Date) : Int := monthStart d.monthNumber - 1 + d.day

variable {a b d : Date}

/-- The date falls on a day of its month. -/
theorem InCalendar.dayNumber_lt (valid : d.InCalendar) :
    d.dayNumber < monthStart (d.monthNumber + 1) := by
  have ends := monthStart_succ d.year valid.month_pos valid.month_le
  have inside := valid.day_le
  unfold dayNumber monthNumber
  omega

/-- A date of an earlier month falls on an earlier day. -/
theorem InCalendar.dayNumber_lt_of_month (valid : a.InCalendar) (valid' : b.InCalendar)
    (earlier : a.monthNumber < b.monthNumber) : a.dayNumber < b.dayNumber := by
  have begins : monthStart b.monthNumber ≤ b.dayNumber := by
    have := valid'.day_pos
    unfold dayNumber
    omega
  calc a.dayNumber < monthStart (a.monthNumber + 1) := valid.dayNumber_lt
    _ ≤ monthStart b.monthNumber := monthStart_mono earlier
    _ ≤ b.dayNumber := begins

/-- Dates are compared by their months, and by the day within a month. -/
theorem InCalendar.order_eq_then (valid : a.InCalendar) (valid' : b.InCalendar) :
    a.order b = (compare a.monthNumber b.monthNumber).then (compare a.day b.day) := by
  have pos := valid.month_pos
  have pos' := valid'.month_pos
  have le := valid.month_le
  have le' := valid'.month_le
  have months : compare a.monthNumber b.monthNumber
      = (compare a.year b.year).then (compare a.month b.month) := by
    unfold monthNumber
    rcases lt_trichotomy a.year b.year with year | year | year
    · rw [compare_lt_iff_lt.mpr year]
      exact compare_lt_iff_lt.mpr (by omega)
    · rw [year, compare_add_natCast, compare_eq_iff_eq.mpr rfl, Ordering.eq_then]
    · rw [compare_gt_iff_gt.mpr year]
      exact compare_gt_iff_gt.mpr (by omega)
  rw [order, months, Ordering.then_assoc]

/-- Dates of the calendar are compared by the day. -/
theorem InCalendar.order_eq_compare (valid : a.InCalendar) (valid' : b.InCalendar) :
    a.order b = compare a.dayNumber b.dayNumber := by
  rw [valid.order_eq_then valid']
  rcases lt_trichotomy a.monthNumber b.monthNumber with month | month | month
  · rw [compare_lt_iff_lt.mpr month]
    exact (compare_lt_iff_lt.mpr (valid.dayNumber_lt_of_month valid' month)).symm
  · rw [compare_eq_iff_eq.mpr month, Ordering.eq_then, dayNumber, dayNumber, month,
      compare_add_natCast]
  · rw [compare_gt_iff_gt.mpr month]
    exact (compare_gt_iff_gt.mpr (valid'.dayNumber_lt_of_month valid month)).symm

/-! ## 3. Days -/

/-- The date of a day of a year that begins in March. -/
def ofMarch (year : Int) (rest : Nat) : Date :=
  let marchMonth := (5 * rest + 2) / 153
  let month := if marchMonth < 10 then marchMonth + 3 else marchMonth - 9
  ⟨year + (if month ≤ 2 then 1 else 0), month, rest - (153 * marchMonth + 2) / 5 + 1⟩

theorem monthNumber_ofMarch (year : Int) {rest : Nat} (days : rest ≤ 365) :
    (ofMarch year rest).monthNumber = 12 * year + (5 * rest + 2) / 153 + 3 := by
  unfold ofMarch monthNumber
  dsimp only
  by_cases early : (5 * rest + 2) / 153 < 10
  · rw [if_pos early, if_neg (by omega)]
    omega
  · rw [if_neg early, if_pos (by omega)]
    omega

theorem dayNumber_ofMarch (year : Int) {rest : Nat} (days : rest ≤ 365) :
    (ofMarch year rest).dayNumber = 365 * year + leapDays year + rest - 719468 := by
  have before : (153 * ((5 * rest + 2) / 153) + 2) / 5 ≤ rest := by omega
  have day : (ofMarch year rest).day = rest - (153 * ((5 * rest + 2) / 153) + 2) / 5 + 1 := rfl
  rw [dayNumber, monthNumber_ofMarch year days, monthStart_eq _ year _ rfl (by omega) (by omega),
    day]
  push_cast [before]
  ring

/-- The last of February is in the calendar in leap years, and all other days always. -/
theorem inCalendar_ofMarch (year : Int) {rest : Nat} (days : rest ≤ 365)
    (last : rest = 365 → IsLeap (year + 1)) : (ofMarch year rest).InCalendar := by
  unfold ofMarch
  dsimp only
  have lower : 153 * ((5 * rest + 2) / 153) ≤ 5 * rest + 2 := by omega
  have upper : 5 * rest + 2 < 153 * ((5 * rest + 2) / 153) + 153 := by omega
  generalize (5 * rest + 2) / 153 = marchMonth at *
  by_cases february : marchMonth = 11
  · subst february
    refine ⟨by simp, by simp, by simp, ?_⟩
    by_cases leap : IsLeap (year + 1)
    · simp [daysIn, leap]
      omega
    · have inside := mt last leap
      simp [daysIn, leap]
      omega
  · have months : marchMonth ≤ 10 := by omega
    interval_cases marchMonth <;> refine ⟨by simp, by simp, by simp, ?_⟩ <;> simp [daysIn] <;>
      omega

/-- A day of an era of 400 years, with the centuries, groups of four years, and years before it, and
the days since the last March began.  A century has a group more than others, or a group a year, or
a year a day, only if those before it are complete. -/
structure EraDay where
  century : Nat
  group : Nat
  year : Nat
  rest : Nat
  century_le : century ≤ 3
  group_le : group ≤ 24
  year_le : year ≤ 3
  rest_le : rest ≤ 365
  last : rest = 365 → year = 3 ∧ (group = 24 → century = 3)

namespace EraDay

variable (d : EraDay)

/-- The days of the era before it. -/
def number : Nat := 36524 * d.century + 1461 * d.group + 365 * d.year + d.rest

/-- The years of the era before it. -/
def years : Nat := 100 * d.century + 4 * d.group + d.year

theorem exists_number {day : Nat} (inside : day < 146097) : ∃ d : EraDay, d.number = day := by
  let century := min (day / 36524) 3
  let group := (day - 36524 * century) / 1461
  let year := min ((day - 36524 * century - 1461 * group) / 365) 3
  let rest := day - 36524 * century - 1461 * group - 365 * year
  refine ⟨⟨century, group, year, rest, by omega, by omega, by omega, by omega, by omega⟩, ?_⟩
  dsimp only [number]
  omega

theorem number_lt : d.number < 146097 := by
  obtain ⟨century, group, year, rest, centuries, groups, years, days, last⟩ := d
  dsimp only [number]
  omega

/-- Taking away the leap days leaves years of 365 days. -/
theorem years_eq :
    (d.number - d.number / 1460 + d.number / 36524 - d.number / 146096) / 365 = d.years := by
  obtain ⟨century, group, year, rest, centuries, groups, years, days, last⟩ := d
  dsimp only [number, EraDay.years]
  have fours : (36524 * century + 1461 * group + 365 * year + rest) / 1460
      = 25 * century + group +
        (if 1460 ≤ 24 * century + group + 365 * year + rest then 1 else 0) := by
    split <;> omega
  have hundreds : (36524 * century + 1461 * group + 365 * year + rest) / 36524
      = century + (36524 * century + 1461 * group + 365 * year + rest) / 146096 := by
    -- the last day of an era is the only one after its four centuries
    rcases Nat.lt_or_ge (1461 * group + 365 * year + rest) 36524 with inside | outside
    · rw [Nat.div_eq_of_lt (by omega : _ < 146096)]
      exact Nat.div_eq_of_lt_le (by omega) (by omega)
    · obtain ⟨rfl, rfl, rfl, rfl⟩ : century = 3 ∧ group = 24 ∧ year = 3 ∧ rest = 365 := by omega
      omega
  rw [hundreds, fours]
  split <;> omega

theorem rest_eq : d.number - (365 * d.years + d.years / 4 - d.years / 100) = d.rest := by
  obtain ⟨century, group, year, rest, centuries, groups, years, days, last⟩ := d
  dsimp only [number, EraDay.years]
  have fours : (100 * century + 4 * group + year) / 4 = 25 * century + group := by omega
  have hundreds : (100 * century + 4 * group + year) / 100 = century := by omega
  rw [fours, hundreds]
  omega

/-- The leap days up to a year. -/
theorem leapDays_years (era : Int) :
    leapDays (d.years + era * 400) = 24 * d.century + d.group + era * 97 := by
  obtain ⟨century, group, year, rest, centuries, groups, years, days, last⟩ := d
  dsimp only [EraDay.years, leapDays]
  push_cast
  have fours : (100 * century + 4 * group + year + era * 400 : Int) / 4
      = 25 * century + group + era * 100 := by omega
  have hundreds : (100 * century + 4 * group + year + era * 400 : Int) / 100
      = century + era * 4 := by omega
  have eras : (100 * century + 4 * group + year + era * 400 : Int) / 400 = era := by omega
  rw [fours, hundreds, eras]
  ring

theorem isLeap (era : Int) (whole : d.rest = 365) : IsLeap (d.years + era * 400 + 1) := by
  obtain ⟨century, group, year, rest, centuries, groups, years, days, last⟩ := d
  obtain ⟨rfl, fourth⟩ := last whole
  dsimp only [EraDay.years]
  refine ⟨by omega, ?_⟩
  by_cases complete : group = 24
  · have ended := fourth complete
    omega
  · left
    omega

end EraDay

theorem ofDayNumber_eq {n era : Int} (d : EraDay) (parts : n + 719468 = 146097 * era + d.number) :
    ofDayNumber n = ofMarch (d.years + era * 400) d.rest := by
  have inside := d.number_lt
  have eras : (n + 719468).fdiv 146097 = era := by
    rw [Int.fdiv_eq_ediv_of_nonneg _ (by decide)]
    omega
  have days : ((n + 719468).fmod 146097).toNat = d.number := by
    rw [Int.fmod_eq_emod_of_nonneg _ (by decide)]
    omega
  unfold ofDayNumber
  dsimp only
  rw [eras, days, d.years_eq, d.rest_eq]
  rfl

/-- The date of a day is in the calendar and falls on the day. -/
theorem ofDayNumber_spec (n : Int) :
    (ofDayNumber n).InCalendar ∧ (ofDayNumber n).dayNumber = n := by
  have inside : (n + 719468) % 146097 < 146097 := Int.emod_lt_of_pos _ (by decide)
  obtain ⟨d, number⟩ :=
    EraDay.exists_number (by omega : ((n + 719468) % 146097).toNat < 146097)
  have parts : n + 719468 = 146097 * ((n + 719468) / 146097) + d.number := by omega
  generalize (n + 719468) / 146097 = era at parts
  rw [ofDayNumber_eq d parts]
  refine ⟨inCalendar_ofMarch _ d.rest_le (d.isLeap era), ?_⟩
  rw [dayNumber_ofMarch _ d.rest_le, d.leapDays_years]
  unfold EraDay.number at parts
  unfold EraDay.years
  omega

/-- The dates of days are compared as the days are. -/
theorem order_ofDayNumber (m n : Int) :
    (ofDayNumber m).order (ofDayNumber n) = compare m n := by
  obtain ⟨valid, day⟩ := ofDayNumber_spec m
  obtain ⟨valid', day'⟩ := ofDayNumber_spec n
  rw [valid.order_eq_compare valid', day, day']

end Date

/-! ## 4. Instants -/

namespace Instant

variable {t u : Instant}

/-- Outside leap seconds, instants are compared by the nanoseconds since the start of 1970. -/
theorem order_eq_compare (plain : t.nanos < 1000000000) (plain' : u.nanos < 1000000000) :
    t.order u = compare (1000000000 * t.seconds + t.nanos) (1000000000 * u.seconds + u.nanos) := by
  unfold order
  rcases lt_trichotomy t.seconds u.seconds with earlier | same | later
  · rw [compare_lt_iff_lt.mpr earlier]
    exact (compare_lt_iff_lt.mpr (by omega)).symm
  · rw [same, compare_eq_iff_eq.mpr rfl, Ordering.eq_then, compare_add_natCast]
  · rw [compare_gt_iff_gt.mpr later]
    exact (compare_gt_iff_gt.mpr (by omega)).symm

/-- The date of an instant is in the calendar. -/
theorem date_inCalendar (t : Instant) : t.date.InCalendar :=
  (Date.ofDayNumber_spec _).1

/-- An instant that is not later is not of a later date, leap seconds included. -/
theorem date_le_of_le (le : (t.order u).isLE) : (t.date.order u.date).isLE := by
  have seconds : t.seconds ≤ u.seconds := by
    by_contra later
    rw [order, compare_gt_iff_gt.mpr (not_le.mp later)] at le
    cases le
  unfold date
  rw [Date.order_ofDayNumber, Int.fdiv_eq_ediv_of_nonneg _ (by decide),
    Int.fdiv_eq_ediv_of_nonneg _ (by decide), Std.isLE_compare]
  omega

end Instant

end Rulebook
