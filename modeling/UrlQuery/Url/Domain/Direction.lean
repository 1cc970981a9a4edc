import UrlQuery.Unicode.Direction

/-!
# Directions in domain names

The labels of a domain name have to stay in order and apart when scripts of both directions are
mixed. So if any character of a name is written from right to left, each label has to have one
direction: it begins with a letter of it, ends with a letter of it or with a digit, and holds no
letter of the other; the digits of a label from right to left are of one kind, and a label from
left to right has no Arabic ones. Marks at the end do not count.
-/

namespace UrlQuery.Domain

open Unicode (Direction direction)

/-- The character makes the name one of mixed directions. -/
def isFromRight (c : Char) : Bool :=
  direction c == .right || direction c == .arabicNumber

/-- The directions of a text without the marks at its end. -/
def directionsWithin (cs : List Char) : List Direction :=
  ((cs.map direction).reverse.dropWhile (· == .mark)).reverse

/-- What follows the first letter of a label from left to right. -/
def staysLeft (directions : List Direction) : Bool :=
  directions.getLast?.all (fun d => d == .left || d == .europeanNumber) &&
    !directions.contains .right && !directions.contains .arabicNumber

/-- What follows the first letter of a label from right to left. -/
def staysRight (directions : List Direction) : Bool :=
  directions.getLast?.all (fun d => d == .right || d == .europeanNumber || d == .arabicNumber) &&
    !directions.contains .left &&
    !(directions.contains .europeanNumber && directions.contains .arabicNumber)

/-- A label has one direction. -/
def hasOneDirection (label : List Char) : Bool :=
  match label with
  | [] => true
  | first :: rest =>
    match direction first with
    | .left => staysLeft (directionsWithin rest)
    | .right => staysRight (directionsWithin rest)
    | _ => false

/-- The directions in a name do not mix. -/
def areDirected (labels : List (List Char)) : Bool :=
  !labels.any (·.any isFromRight) || labels.all hasOneDirection

end UrlQuery.Domain
