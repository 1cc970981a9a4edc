import UrlQuery.Decimal.Shortest

/-!
# Numbers as text

A floating-point number is written with the digits of its shortest decimal. A `NumberStyle` says
where positional notation ends and whether a whole number shows a fraction.
-/

namespace UrlQuery.Decimal

/-- How a number is laid out. -/
structure NumberStyle where
  /-- Positional notation is used for leading places from the first up to below the second. -/
  positional : Option (Int × Int)
  /-- A whole number ends in `.0`. -/
  showsFraction : Bool
  deriving DecidableEq, Repr

/-- Positional notation at any size, whole numbers without a point. -/
def plain : NumberStyle := ⟨none, false⟩

/-- Positional notation from 0.0001 to below 10^16, whole numbers with a point. -/
def diagnostic : NumberStyle := ⟨some (-4, 16), true⟩

/-- The digits of a decimal, the power of ten of the first one, and no zeros at the end. -/
def significantDigits (d : Numeral) : List Char × Int :=
  let digits := Nat.toDigits 10 d.digits
  let trimmed := (digits.reverse.dropWhile (· == '0')).reverse
  if trimmed.isEmpty then (['0'], 0) else (trimmed, d.exponent + digits.length - 1)

/-- A number in positional notation. -/
def positionalText (showsFraction : Bool) (digits : List Char) (leading : Int) : List Char :=
  if leading < 0 then
    '0' :: '.' :: (List.replicate (-leading - 1).toNat '0' ++ digits)
  else
    let whole := leading.toNat + 1
    if digits.length ≤ whole then
      digits ++ List.replicate (whole - digits.length) '0' ++
        (if showsFraction then ['.', '0'] else [])
    else digits.take whole ++ '.' :: digits.drop whole

/-- A number with a power of ten behind it. -/
def scientificText (digits : List Char) (leading : Int) : List Char :=
  let fraction := digits.drop 1
  digits.take 1 ++ (if fraction.isEmpty then [] else '.' :: fraction) ++
    'e' :: (toString leading).toList

/-- A decimal as text. -/
def Numeral.text (style : NumberStyle) (d : Numeral) : List Char :=
  let (digits, leading) := significantDigits d
  let positional :=
    d.digits = 0 || match style.positional with
      | none => true
      | some (low, high) => low ≤ leading && leading < high
  if positional then positionalText style.showsFraction digits leading
  else scientificText digits leading

/-- A number of a binary format as text. Zero keeps its sign. -/
def Binary.text (style : NumberStyle) : Binary → String
  | notANumber => "NaN"
  | infinite negative => if negative then "-inf" else "inf"
  | finite negative significand exponent atStep =>
    String.ofList ((if negative then ['-'] else []) ++
      (shortest significand exponent atStep).text style)

end UrlQuery.Decimal
