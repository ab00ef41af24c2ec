/-
Rulebook.Calendar — calendar dates and points in time, with their order and text.

Dates are those of the Gregorian calendar carried back before its
introduction, with a year zero and negative years.  A point in time counts
seconds since the start of 1970 in universal time; nanoseconds from one
billion on stand for the leap second that follows the fifty-ninth second of a
minute, so that they sort after that second and before the next one.

Both stand for the values of a calendar library, and three things are relied on
of it.  It admits no date but those of the calendar, which `Date.InCalendar` says
here, and no more than two billion nanoseconds.  It compares dates by the day and
instants by the time.  And it writes them as below.  The comparison is defined
here by the parts, and for dates that are not in the calendar as well, so that
what is proved of it does not depend on the first; that it is the comparison by
the day and by the time where it should be is proved in
`Rulebook.Proofs.Value.CalendarOrder`.
-/

namespace Rulebook

/-! ## 1. Dates -/

/-- A calendar date. -/
structure Date where
  year : Int
  month : Nat
  day : Nat
deriving DecidableEq, Repr, Inhabited

/-- A point in time: whole seconds since 1970 and the nanoseconds within the second. -/
structure Instant where
  seconds : Int
  nanos : Nat
deriving DecidableEq, Repr, Inhabited

namespace Date

/-- Every fourth year is a leap year, but of those that end a century only every fourth. -/
def IsLeap (year : Int) : Prop := year % 4 = 0 ∧ (year % 100 ≠ 0 ∨ year % 400 = 0)

instance (year : Int) : Decidable (IsLeap year) := inferInstanceAs (Decidable (_ ∧ _))

/-- The number of days of a month. -/
def daysIn (year : Int) (month : Nat) : Nat :=
  if month = 2 then if IsLeap year then 29 else 28
  else if month ∈ [4, 6, 9, 11] then 30
  else 31

/-- The calendar has a date of this year, month and day. -/
structure InCalendar (d : Date) : Prop where
  month_pos : 1 ≤ d.month
  month_le : d.month ≤ 12
  day_pos : 1 ≤ d.day
  day_le : d.day ≤ daysIn d.year d.month

/-- Earlier years first, then earlier months, then earlier days. -/
def order (a b : Date) : Ordering :=
  (compare a.year b.year).then ((compare a.month b.month).then (compare a.day b.day))

/-- The date that lies `n` days after the first of January 1970.

Days are counted from the first of March of the year zero, in eras of 400 years,
so that the leap day is the last day of its year. -/
def ofDayNumber (n : Int) : Date :=
  let shifted := n + 719468
  let era := shifted.fdiv 146097
  let dayOfEra := (shifted.fmod 146097).toNat
  let yearOfEra := (dayOfEra - dayOfEra / 1460 + dayOfEra / 36524 - dayOfEra / 146096) / 365
  let dayOfYear := dayOfEra - (365 * yearOfEra + yearOfEra / 4 - yearOfEra / 100)
  let marchMonth := (5 * dayOfYear + 2) / 153
  let day := dayOfYear - (153 * marchMonth + 2) / 5 + 1
  let month := if marchMonth < 10 then marchMonth + 3 else marchMonth - 9
  ⟨yearOfEra + era * 400 + (if month ≤ 2 then 1 else 0), month, day⟩

end Date

/-! ## 2. Text -/

/-- Decimal digits, filled with zeros on the left up to `width`. -/
def zeroPadded (width n : Nat) : String :=
  let digits := Nat.toDigits 10 n
  String.ofList (List.replicate (width - digits.length) '0' ++ digits)

namespace Date

/-- Years of four digits stand alone; all others carry a sign and at least four digits. -/
def yearText (year : Int) : String :=
  if 0 ≤ year ∧ year ≤ 9999 then zeroPadded 4 year.toNat
  else (if year < 0 then "-" else "+") ++ zeroPadded 4 year.natAbs

/-- The written form of a date, such as `2024-02-29`. -/
def text (d : Date) : String :=
  yearText d.year ++ "-" ++ zeroPadded 2 d.month ++ "-" ++ zeroPadded 2 d.day

end Date

namespace Instant

/-- Earlier seconds first, then earlier nanoseconds. -/
def order (a b : Instant) : Ordering :=
  (compare a.seconds b.seconds).then (compare a.nanos b.nanos)

/-- The calendar date of the instant. -/
def date (t : Instant) : Date := Date.ofDayNumber (t.seconds.fdiv 86400)

/-- The second of the day. -/
def secondOfDay (t : Instant) : Nat := (t.seconds.fmod 86400).toNat

/-- Nanoseconds as a fraction: none for zero, otherwise three, six or nine digits,
whichever is the fewest that loses nothing. -/
def fractionText (nanos : Nat) : String :=
  if nanos = 0 then ""
  else if nanos % 1000000 = 0 then "." ++ zeroPadded 3 (nanos / 1000000)
  else if nanos % 1000 = 0 then "." ++ zeroPadded 6 (nanos / 1000)
  else "." ++ zeroPadded 9 nanos

/-- The written form of a time without its zone, such as `2024-02-29T23:59:60.500`; a leap second
shows as second sixty. -/
def localText (t : Instant) : String :=
  let s := t.secondOfDay
  let leap := 1000000000 ≤ t.nanos
  let second := s % 60 + (if leap then 1 else 0)
  let nanos := if leap then t.nanos - 1000000000 else t.nanos
  t.date.text ++ "T" ++ zeroPadded 2 (s / 3600) ++ ":" ++ zeroPadded 2 (s / 60 % 60) ++ ":" ++
    zeroPadded 2 second ++ fractionText nanos

end Instant
end Rulebook
