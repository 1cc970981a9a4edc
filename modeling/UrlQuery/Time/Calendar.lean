/-!
# The Gregorian calendar

Days are counted from 1970-01-01, before it by negative numbers, and years run without a gap
through 0 and below. A date is found through its era, the 400 years after which the calendar
repeats, and in it through a year that begins on the first of March, so that the leap day comes
last.
-/

namespace UrlQuery.Time

/-- A day of the calendar. -/
structure Date where
  year : Int
  month : Nat
  day : Nat
  deriving DecidableEq, Repr

namespace Date

/-- The date of a day, counted from 1970-01-01. -/
def ofDays (days : Int) : Date :=
  let z := days + 719468
  let dayOfEra := (z % 146097).toNat
  let yearOfEra := (dayOfEra - dayOfEra / 1460 + dayOfEra / 36524 - dayOfEra / 146096) / 365
  let dayOfYear := dayOfEra - (365 * yearOfEra + yearOfEra / 4 - yearOfEra / 100)
  let march := (5 * dayOfYear + 2) / 153
  let month := if march < 10 then march + 3 else march - 9
  { year := yearOfEra + z / 146097 * 400 + (if month ≤ 2 then 1 else 0)
    month := month
    day := dayOfYear - (153 * march + 2) / 5 + 1 }

end Date

/-- The day on which a year begins. -/
def yearStart (year : Int) : Int :=
  365 * (year - 1970) + (year - 1) / 4 - (year - 1) / 100 + (year - 1) / 400 - 477

/-- The number of a day in its year, from 1. -/
def dayOfYear (days : Int) : Nat :=
  (days - yearStart (Date.ofDays days).year).toNat + 1

/-- The days since the last Monday. -/
def sinceMonday (days : Int) : Nat :=
  ((days + 3) % 7).toNat

/-- The days since the last Sunday. -/
def sinceSunday (days : Int) : Nat :=
  ((days + 4) % 7).toNat

/-- A week of the ISO calendar: it belongs to the year that its Thursday lies in. -/
structure IsoWeek where
  year : Int
  week : Nat
  deriving DecidableEq, Repr

/-- The ISO week of a day. -/
def IsoWeek.ofDays (days : Int) : IsoWeek :=
  let thursday := days - sinceMonday days + 3
  ⟨(Date.ofDays thursday).year, (dayOfYear thursday - 1) / 7 + 1⟩

/-- The number of a week that begins `since` days before, counted from the first in the year. -/
def weekOfYear (days : Int) (since : Nat) : Nat :=
  (dayOfYear days + 6 - since) / 7

end UrlQuery.Time
