import UrlQuery.Time.Number

/-!
# Offsets from UTC

An offset is written as a sign, hours, and as much of the rest as its `Precision` asks for.
-/

namespace UrlQuery.Time.Offset

/-- How much of an offset is written. -/
inductive Precision where
  /-- Hours; the rest is dropped. -/
  | hours
  /-- Hours and minutes, rounded to the nearest minute. -/
  | minutes
  /-- Hours, minutes and seconds. -/
  | seconds
  deriving DecidableEq, Repr

def sign (offset : Int) : Char := if offset < 0 then '-' else '+'

/-- An offset as text, the parts apart by a colon or not. -/
def text (precision : Precision) (colon : Bool) (offset : Int) : List Char :=
  let n := offset.natAbs
  let mark := if colon then [':'] else []
  match precision with
  | .hours => sign offset :: two (n / 3600)
  | .minutes =>
    let m := (n + 30) / 60
    sign offset :: (two (m / 60) ++ mark ++ two (m % 60))
  | .seconds => sign offset :: (two (n / 3600) ++ mark ++ two (n / 60 % 60) ++ mark ++ two (n % 60))

/-- The name of a clock known by its offset alone: exact, with seconds only if it has some. -/
def name (offset : Int) : List Char :=
  let n := offset.natAbs
  sign offset :: (two (n / 3600) ++ ':' :: two (n / 60 % 60)) ++
    (if n % 60 = 0 then [] else ':' :: two (n % 60))

end UrlQuery.Time.Offset
