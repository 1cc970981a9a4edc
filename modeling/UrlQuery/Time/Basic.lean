import UrlQuery.Time.Calendar

/-!
# Points in time

A `Timestamp` is an instant together with the offset of the clock that shows it. The offset
changes what is written, not when it is.
-/

namespace UrlQuery

/--
An instant, `secs` seconds and `nanos` nanoseconds after 1970-01-01T00:00:00Z, shown by a clock
`offset` seconds ahead of UTC. In a leap second `nanos` is a second or more.
-/
structure Timestamp where
  secs : Int
  nanos : Nat := 0
  offset : Int := 0
  deriving DecidableEq, Repr

namespace Timestamp

/-- The earliest second of the calendar, -262143-01-01T00:00:00Z. -/
def earliest : Int := -8334601228800

/-- The zero time is the earliest instant, at any offset. The epoch is a time like any other. -/
def isZero (t : Timestamp) : Bool :=
  t.secs == earliest && t.nanos == 0

/-- The nanoseconds since the epoch. A leap second runs on into the next one. -/
def nanoseconds (t : Timestamp) : Int :=
  t.secs * 1000000000 + t.nanos

end Timestamp

namespace Time

/-- What a clock shows: the day, the second of that day, and the nanoseconds. -/
structure Clock where
  days : Int
  secondOfDay : Nat
  nanos : Nat
  offset : Int
  deriving DecidableEq, Repr

namespace Clock

/-- The reading of the clock of a timestamp. -/
def ofTimestamp (t : Timestamp) : Clock :=
  { days := (t.secs + t.offset) / 86400
    secondOfDay := ((t.secs + t.offset) % 86400).toNat
    nanos := t.nanos
    offset := t.offset }

def date (c : Clock) : Date := Date.ofDays c.days

def hour (c : Clock) : Nat := c.secondOfDay / 3600

def minute (c : Clock) : Nat := c.secondOfDay / 60 % 60

/-- The second, 60 in a leap second. -/
def second (c : Clock) : Nat := c.secondOfDay % 60 + c.nanos / 1000000000

/-- The nanoseconds within the second that is shown. -/
def fraction (c : Clock) : Nat := c.nanos % 1000000000

/-- The hour from 1 to 12. -/
def hour12 (c : Clock) : Nat :=
  if c.hour % 12 = 0 then 12 else c.hour % 12

def isAfternoon (c : Clock) : Bool := 12 ≤ c.hour

/-- The seconds since the epoch. -/
def timestamp (c : Clock) : Int :=
  c.days * 86400 + c.secondOfDay - c.offset

end Clock

end Time

end UrlQuery
