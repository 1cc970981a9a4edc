import UrlQuery.Field.Tag
import UrlQuery.Time.Layout

/-!
# Times as text

A time is written as a count since the epoch, by a layout, or as RFC 3339 in whole seconds. The
zero time is written as nothing, and a layout that cannot be read falls back to RFC 3339.
-/

namespace UrlQuery.Timestamp

open Time

/-- RFC 3339 in whole seconds; the offset of UTC itself is `Z`. -/
def rfc3339 (t : Timestamp) : String :=
  let c := Clock.ofTimestamp t
  String.ofList (dateText c ++ 'T' :: clockText c ++
    (if c.offset = 0 then ['Z'] else Offset.text .minutes true c.offset))

/-- The time as a layout shows it. -/
def formatted (t : Timestamp) (layout : String) : String :=
  match Layout.parse? layout.toList with
  | some items => String.ofList (items.format (Clock.ofTimestamp t))
  | none => t.rfc3339

/-- The milliseconds since the epoch, cut off toward it. -/
def milliseconds (t : Timestamp) : Int :=
  t.nanoseconds.tdiv 1000000

/-- The time in a given format. -/
def render (format : TimeFormat) (t : Timestamp) : String :=
  if t.isZero then ""
  else
    match format with
    | .unix => toString t.secs
    | .unixMilli => toString t.milliseconds
    | .unixNano => toString t.nanoseconds
    | .layout text => t.formatted text
    | .rfc3339 => t.rfc3339

end UrlQuery.Timestamp
