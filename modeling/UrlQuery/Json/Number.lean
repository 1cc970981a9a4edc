import UrlQuery.Json.Basic

/-!
# JSON numbers

A number is read in two parts: a whole number of up to 64 bits made of its first digits, and a
power of ten. Digits that would overflow the first part are left out of it. Those before the point
still count in the power, those after it do not. An integer that fits is kept exactly; every other
number is the first part, as a float, times or divided by the power of ten. A number that would be
infinite is refused.

The product is rounded twice, so the result may differ from the float nearest to the decimal in
its last bits.
-/

namespace UrlQuery.Json.Number

/-- The first part of a number, its power of ten, and whether digits have been left out. -/
structure Parts where
  significand : Nat
  exponent : Int
  full : Bool := false
  deriving DecidableEq, Repr

def digitValue (c : Char) : Nat := c.toNat - 0x30

/-- One more digit fits into 64 bits. -/
def fits (significand : Nat) (c : Char) : Bool :=
  significand * 10 + digitValue c < UInt64.size

/-- A digit before the point. -/
def Parts.pushWhole (p : Parts) (c : Char) : Parts :=
  if !p.full && fits p.significand c then
    { p with significand := p.significand * 10 + digitValue c }
  else { p with exponent := p.exponent + 1, full := true }

/-- A digit after the point. -/
def Parts.pushFraction (p : Parts) (c : Char) : Parts :=
  if !p.full && fits p.significand c then
    { p with significand := p.significand * 10 + digitValue c, exponent := p.exponent - 1 }
  else { p with full := true }

/-- Divides by a power of ten, in steps that a float can hold. -/
def scaleDown (x : Float) (e : Nat) : Float :=
  if e ≤ 308 then x / Float.ofScientific 1 false e
  else if x == 0 then x
  else scaleDown (x / Float.ofScientific 1 false 308) (e - 308)
termination_by e

/-- The float of a first part and a power of ten, unless it is infinite. -/
def Parts.toFloat? (p : Parts) : Option Float :=
  let x := p.significand.toUInt64.toFloat
  if p.exponent < 0 then some (scaleDown x p.exponent.natAbs)
  else if p.exponent ≤ 308 then
    let y := x * Float.ofScientific 1 false p.exponent.toNat
    if y.isInf then none else some y
  else if p.significand = 0 then some x
  else none

/-- A number with a point or an exponent, or one that is too large for an integer. -/
def ofParts? (negative : Bool) (p : Parts) : Option JsonNumber :=
  p.toFloat?.map fun x => .float (if negative then -x else x)

/-- A number without a point and an exponent. Negative zero is a float. -/
def ofWhole? (negative : Bool) (p : Parts) : Option JsonNumber :=
  if p.full then ofParts? negative p
  else if !negative then some (.natural p.significand)
  else if p.significand = 0 || UInt64.size < 2 * p.significand then ofParts? true p
  else some (.negative (-p.significand))

/-- The exponent behind an `e`: an optional sign and at least one digit. -/
def exponent? (cs : List Char) : Option Int :=
  let (negative, digits) :=
    match cs with
    | '-' :: rest => (true, rest)
    | '+' :: rest => (false, rest)
    | _ => (false, cs)
  if digits.isEmpty || !digits.all Char.isDigit then none
  else
    let n := digits.foldl (fun n c => n * 10 + digitValue c) 0
    some (if negative then -(n : Int) else n)

/-- A number that has an exponent behind its digits. -/
def scaled? (negative : Bool) (parts : Parts) (rest : List Char) : Option JsonNumber := do
  let e ← exponent? rest
  ofParts? negative { parts with exponent := parts.exponent + e }

/-- The number of a text that stands behind the sign. -/
def unsigned? (negative : Bool) (cs : List Char) : Option JsonNumber :=
  let whole := cs.takeWhile Char.isDigit
  let afterWhole := cs.dropWhile Char.isDigit
  let parts := whole.foldl Parts.pushWhole ⟨0, 0, false⟩
  if whole.isEmpty || (whole.head? == some '0' && 1 < whole.length) then none
  else
    match afterWhole with
    | [] => ofWhole? negative parts
    | '.' :: rest =>
      let fraction := rest.takeWhile Char.isDigit
      let parts := fraction.foldl Parts.pushFraction { parts with full := false }
      if fraction.isEmpty then none
      else
        match rest.dropWhile Char.isDigit with
        | [] => ofParts? negative parts
        | mark :: rest => if mark = 'e' || mark = 'E' then scaled? negative parts rest else none
    | mark :: rest => if mark = 'e' || mark = 'E' then scaled? negative parts rest else none

/-- The number that a text is. -/
def parse? : List Char → Option JsonNumber
  | '-' :: rest => unsigned? true rest
  | cs => unsigned? false cs

end UrlQuery.Json.Number
