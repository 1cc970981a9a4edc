/-!
# Binary floating-point numbers

The bits of a number in an IEEE 754 binary format, taken apart. A finite number is
`significand · 2 ^ exponent` with a sign. All further arithmetic is on these naturals and integers,
so nothing after this module depends on how floats are computed with.
-/

namespace UrlQuery.Decimal

/-- A binary format: the widths of its fraction and exponent fields. -/
structure BinaryFormat where
  fractionBits : Nat
  exponentBits : Nat
  deriving DecidableEq, Repr

/-- How many values the fraction field has. -/
def BinaryFormat.fractions (format : BinaryFormat) : Nat := Nat.pow 2 format.fractionBits

/-- How many values the exponent field has. -/
def BinaryFormat.exponents (format : BinaryFormat) : Nat := Nat.pow 2 format.exponentBits

def binary64 : BinaryFormat := ⟨52, 11⟩

def binary32 : BinaryFormat := ⟨23, 8⟩

/-- A number of a binary format. -/
inductive Binary where
  | notANumber
  | infinite (negative : Bool)
  /--
  The number `significand · 2 ^ exponent`. It is at a step if the numbers below it lie twice as
  close as those above.
  -/
  | finite (negative : Bool) (significand : Nat) (exponent : Int) (atStep : Bool)
  deriving DecidableEq, Repr

namespace Binary

/-- Takes the bits of a number apart. -/
def ofBits (format : BinaryFormat) (bits : Nat) : Binary :=
  let fraction := bits % format.fractions
  let field := bits / format.fractions % format.exponents
  let negative := bits / (format.fractions * format.exponents) % 2 = 1
  let bias : Int := (format.exponents / 2 : Nat) - 1 + format.fractionBits
  if field = format.exponents - 1 then
    if fraction = 0 then infinite negative else notANumber
  else if field = 0 then finite negative fraction (1 - bias) false
  else
    finite negative (format.fractions + fraction) (field - bias)
      (fraction = 0 && field ≠ 1)

def ofFloat (x : Float) : Binary := ofBits binary64 x.toBits.toNat

def ofFloat32 (x : Float32) : Binary := ofBits binary32 x.toBits.toNat

/-- The number is zero, of either sign. -/
def isZero : Binary → Bool
  | finite _ significand _ _ => significand == 0
  | _ => false

end Binary

end UrlQuery.Decimal
