import UrlQuery.Time.Basic
import UrlQuery.Time.Offset

/-!
# Time layouts

A layout is text in which `%` and a letter stand for a part of the time, such as
`%Y-%m-%d %H:%M:%S`. All other characters stand for themselves. Between the `%` and the letter of
a number, `-`, `_` or `0` sets what fills its places. `%.3f` is one of a few longer directives.

`Layout.parse?` reads the text of a layout into items and gives nothing when a directive is
unknown, cut short, or padded though it is no single number. `Layout.format` writes the items.
-/

namespace UrlQuery.Time

/-- The numbers that a layout can show. -/
inductive NumberField where
  | year | century | yearOfCentury
  | isoYear | isoYearOfCentury | isoWeek
  | quarter | month | day | dayOfYear
  | weekFromSunday | weekFromMonday | weekdayFromSunday | weekdayFromMonday
  | hour | hour12 | minute | second | nanosecond | timestamp
  deriving DecidableEq, Repr

/-- One item of a layout. -/
inductive LayoutItem where
  | literal (c : Char)
  | number (field : NumberField) (pad : Pad)
  | monthName (long : Bool)
  | weekdayName (long : Bool)
  | halfDay (upper : Bool)
  /-- The fraction in as many digits as it needs. -/
  | fraction
  /-- The fraction in a fixed number of digits. -/
  | fractionDigits (count : Nat) (point : Bool)
  | offset (precision : Offset.Precision) (colon : Bool)
  | offsetName
  | rfc3339
  deriving DecidableEq, Repr

/-- A layout that was read. -/
abbrev Layout := List LayoutItem

/-! ## Names -/

def monthNames : List String :=
  ["January", "February", "March", "April", "May", "June", "July", "August", "September",
    "October", "November", "December"]

def weekdayNames : List String :=
  ["Monday", "Tuesday", "Wednesday", "Thursday", "Friday", "Saturday", "Sunday"]

/-- A name in full, or its first three letters. -/
def nameText (names : List String) (long : Bool) (i : Nat) : List Char :=
  let name := (names.getD i "").toList
  if long then name else name.take 3

/-! ## Standard formats -/

def dateText (c : Clock) : List Char :=
  yearText c.date.year ++ '-' :: two c.date.month ++ '-' :: two c.date.day

def clockText (c : Clock) : List Char :=
  two c.hour ++ ':' :: two c.minute ++ ':' :: two c.second

/-- RFC 3339 with the fraction that `subsecond` writes. -/
def rfc3339With (subsecond : Nat → List Char) (c : Clock) : List Char :=
  dateText c ++ 'T' :: clockText c ++ subsecond c.fraction ++ Offset.text .minutes true c.offset

/-! ## Writing -/

namespace NumberField

/-- A number of the calendar or the clock in its places. -/
def format (pad : Pad) (c : Clock) : NumberField → List Char
  | year => paddedYear pad c.date.year
  | century => twoPlaces pad (c.date.year / 100 % 256).toNat
  | yearOfCentury => twoPlaces pad (c.date.year % 100).toNat
  | isoYear => paddedYear pad (IsoWeek.ofDays c.days).year
  | isoYearOfCentury => twoPlaces pad ((IsoWeek.ofDays c.days).year % 100).toNat
  | isoWeek => twoPlaces pad (IsoWeek.ofDays c.days).week
  | quarter => digits ((c.date.month - 1) / 3 + 1)
  | month => twoPlaces pad c.date.month
  | day => twoPlaces pad c.date.day
  | dayOfYear => signed 3 pad false (Time.dayOfYear c.days)
  | weekFromSunday => twoPlaces pad (weekOfYear c.days (sinceSunday c.days))
  | weekFromMonday => twoPlaces pad (weekOfYear c.days (sinceMonday c.days))
  | weekdayFromSunday => digits (sinceSunday c.days)
  | weekdayFromMonday => digits (sinceMonday c.days + 1)
  | hour => twoPlaces pad c.hour
  | hour12 => twoPlaces pad c.hour12
  | minute => twoPlaces pad c.minute
  | second => twoPlaces pad c.second
  | nanosecond => signed 9 pad false c.fraction
  | timestamp => signed 9 pad false c.timestamp

end NumberField

/-- One item as it is written for a clock. -/
def LayoutItem.format (c : Clock) : LayoutItem → List Char
  | literal ch => [ch]
  | number field pad => field.format pad c
  | monthName long => nameText monthNames long (c.date.month - 1)
  | weekdayName long => nameText weekdayNames long (sinceMonday c.days)
  | halfDay true => (if c.isAfternoon then "PM" else "AM").toList
  | halfDay false => (if c.isAfternoon then "pm" else "am").toList
  | fraction => fractionText c.fraction
  | fractionDigits count point =>
    (if point then ['.'] else []) ++ zeroFilled count (c.fraction / Nat.pow 10 (9 - count))
  | offset precision colon => Offset.text precision colon c.offset
  | offsetName => Offset.name c.offset
  | rfc3339 => rfc3339With fractionText c

/-- A layout as it is written for a clock. -/
def Layout.format (layout : Layout) (c : Clock) : List Char :=
  layout.flatMap (·.format c)

/-! ## Reading -/

/-- The letter of a single number, with the padding it has of itself. -/
def NumberField.ofLetter? : Char → Option (NumberField × Pad)
  | 'Y' => some (.year, .zero)
  | 'C' => some (.century, .zero)
  | 'y' => some (.yearOfCentury, .zero)
  | 'G' => some (.isoYear, .zero)
  | 'g' => some (.isoYearOfCentury, .zero)
  | 'V' => some (.isoWeek, .zero)
  | 'q' => some (.quarter, .nothing)
  | 'm' => some (.month, .zero)
  | 'd' => some (.day, .zero)
  | 'e' => some (.day, .space)
  | 'j' => some (.dayOfYear, .zero)
  | 'U' => some (.weekFromSunday, .zero)
  | 'W' => some (.weekFromMonday, .zero)
  | 'w' => some (.weekdayFromSunday, .nothing)
  | 'u' => some (.weekdayFromMonday, .nothing)
  | 'H' => some (.hour, .zero)
  | 'k' => some (.hour, .space)
  | 'I' => some (.hour12, .zero)
  | 'l' => some (.hour12, .space)
  | 'M' => some (.minute, .zero)
  | 'S' => some (.second, .zero)
  | 'f' => some (.nanosecond, .zero)
  | 's' => some (.timestamp, .nothing)
  | _ => none

namespace Layout

private def slashDate : Layout :=
  [.number .month .zero, .literal '/', .number .day .zero, .literal '/',
    .number .yearOfCentury .zero]

private def clockOf (hours : NumberField) : Layout :=
  [.number hours .zero, .literal ':', .number .minute .zero, .literal ':', .number .second .zero]

/-- The letters that stand for something other than a single number. -/
def ofLetter? : Char → Option Layout
  | 'A' => some [.weekdayName true]
  | 'a' => some [.weekdayName false]
  | 'B' => some [.monthName true]
  | 'b' | 'h' => some [.monthName false]
  | 'P' => some [.halfDay false]
  | 'p' => some [.halfDay true]
  | 'D' | 'x' => some slashDate
  | 'F' =>
    some [.number .year .zero, .literal '-', .number .month .zero, .literal '-',
      .number .day .zero]
  | 'v' =>
    some [.number .day .space, .literal '-', .monthName false, .literal '-', .number .year .zero]
  | 'R' => some [.number .hour .zero, .literal ':', .number .minute .zero]
  | 'T' | 'X' => some (clockOf .hour)
  | 'r' => some (clockOf .hour12 ++ [.literal ' ', .halfDay true])
  | 'c' =>
    some ([.weekdayName false, .literal ' ', .monthName false, .literal ' ', .number .day .space,
      .literal ' '] ++ clockOf .hour ++ [.literal ' ', .number .year .zero])
  | 'z' => some [.offset .minutes false]
  | 'Z' => some [.offsetName]
  | '+' => some [.rfc3339]
  | 'n' => some [.literal '\n']
  | 't' => some [.literal '\t']
  | '%' => some [.literal '%']
  | _ => none

/-- A number whose padding is set by the character before its letter. -/
private def padded (pad : Pad) (letter : Char) : Option (Layout × Nat) :=
  (NumberField.ofLetter? letter).map fun field => ([.number field.1 pad], 2)

/-- What follows a `%`: the items it stands for, and how many characters it takes. -/
def directive? : List Char → Option (Layout × Nat)
  | '-' :: letter :: _ => padded .nothing letter
  | '_' :: letter :: _ => padded .space letter
  | '0' :: letter :: _ => padded .zero letter
  | ':' :: ':' :: ':' :: 'z' :: _ => some ([.offset .hours false], 4)
  | ':' :: ':' :: 'z' :: _ => some ([.offset .seconds true], 3)
  | ':' :: 'z' :: _ => some ([.offset .minutes true], 2)
  | '.' :: 'f' :: _ => some ([.fraction], 2)
  | '.' :: '3' :: 'f' :: _ => some ([.fractionDigits 3 true], 3)
  | '.' :: '6' :: 'f' :: _ => some ([.fractionDigits 6 true], 3)
  | '.' :: '9' :: 'f' :: _ => some ([.fractionDigits 9 true], 3)
  | '3' :: 'f' :: _ => some ([.fractionDigits 3 false], 2)
  | '6' :: 'f' :: _ => some ([.fractionDigits 6 false], 2)
  | '9' :: 'f' :: _ => some ([.fractionDigits 9 false], 2)
  | letter :: _ =>
    match NumberField.ofLetter? letter with
    | some (field, pad) => some ([.number field pad], 1)
    | none => (ofLetter? letter).map (·, 1)
  | [] => none

/-- The items of a layout, if every directive in it is known. -/
def parse? : List Char → Option Layout
  | [] => some []
  | '%' :: rest =>
    match directive? rest with
    | none => none
    | some (items, taken) => (parse? (rest.drop taken)).map (items ++ ·)
  | c :: rest => (parse? rest).map (.literal c :: ·)
termination_by cs => cs.length
decreasing_by
  all_goals simp only [List.length_drop, List.length_cons]; omega

end Layout

end UrlQuery.Time
