/-!
# Numbers of fixed width

The parts of a date and of a clock are written in a fixed number of places. A `Pad` says what
fills the places in front of a number that is shorter.
-/

namespace UrlQuery.Time

/-- What fills the places in front of a number. -/
inductive Pad where
  | nothing
  | zero
  | space
  deriving DecidableEq, Repr

/-- The decimal digits of a number. -/
def digits (n : Nat) : List Char := Nat.toDigits 10 n

/-- Fills up to `width` places in front. -/
def fill (width : Nat) (c : Char) (cs : List Char) : List Char :=
  List.replicate (width - cs.length) c ++ cs

/-- A number in `width` places with zeros in front. -/
def zeroFilled (width n : Nat) : List Char := fill width '0' (digits n)

/-- A number with its sign; the zeros of the padding stand behind the sign, the spaces before. -/
def signed (width : Nat) (pad : Pad) (plus : Bool) (n : Int) : List Char :=
  let sign := if n < 0 then ['-'] else if plus then ['+'] else []
  match pad with
  | .nothing => sign ++ digits n.natAbs
  | .zero => sign ++ fill (width - sign.length) '0' (digits n.natAbs)
  | .space => fill width ' ' (sign ++ digits n.natAbs)

/-- A year has four places; outside 0 to 9999 it bears a sign and may be longer. -/
def paddedYear (pad : Pad) (year : Int) : List Char :=
  if 0 ≤ year ∧ year ≤ 9999 then signed 4 pad false year else signed 5 pad true year

/-- A year as the standard formats write it. -/
def yearText (year : Int) : List Char := paddedYear .zero year

/--
A number in two places. The tens are one character, counted from `0` also beyond nine, which only
the century of a year outside 0 to 9999 reaches.
-/
def twoPlaces (pad : Pad) (n : Nat) : List Char :=
  let ones := Char.ofNat (0x30 + n % 10)
  match n / 10, pad with
  | 0, .nothing => [ones]
  | 0, .space => [' ', ones]
  | tens, _ => [Char.ofNat (0x30 + tens), ones]

/-- A number below a hundred in two digits. -/
def two (n : Nat) : List Char := twoPlaces .zero n

/--
The digits behind the second: none for a whole second, else the fewest of three, six or nine that
hold the fraction, with a point before them.
-/
def fractionText (nanos : Nat) : List Char :=
  if nanos = 0 then []
  else if nanos % 1000000 = 0 then '.' :: zeroFilled 3 (nanos / 1000000)
  else if nanos % 1000 = 0 then '.' :: zeroFilled 6 (nanos / 1000)
  else '.' :: zeroFilled 9 nanos

end UrlQuery.Time
