import UrlQuery.Unicode.CompositionTable
import UrlQuery.Unicode.Mark

/-!
# Composed text

A letter with marks can be written in several ways: as one composite character, or as the letter
with its marks behind it in various orders. The composed form is the same for all of them. It is
made in three steps: every composite is taken apart, the marks are put in the order of their
classes, and what forms a composite is put together again.

A syllable of Hangul is a composite as well, of two or three letters; its code point follows from
theirs.
-/

namespace UrlQuery.Unicode

/-! ## Composites -/

/-- The composites of the tables, each behind its two parts. -/
def composites : List ((Char × Char) × Char) :=
  (markedLetters.flatMap fun row =>
    (row.letters.toList.zip row.composites.toList).map fun (letter, composite) =>
      ((letter, Char.ofNat row.mark), composite)) ++
  otherComposites.map fun (first, second, composite) =>
    ((Char.ofNat first, Char.ofNat second), Char.ofNat composite)

/-- The parts of a syllable of Hangul: the last letter is split off first. -/
def syllableParts? (c : Char) : Option (Char × Char) :=
  let n := c.toNat - 0xAC00
  if c.toNat < 0xAC00 || 11172 ≤ n then none
  else if n % 28 = 0 then
    some (Char.ofNat (0x1100 + n / 588), Char.ofNat (0x1161 + n % 588 / 28))
  else some (Char.ofNat (c.toNat - n % 28), Char.ofNat (0x11A7 + n % 28))

/-- The syllable of two letters of Hangul, or of a syllable and a last letter. -/
def syllable? (a b : Char) : Option Char :=
  let isBetween (first last : Nat) (c : Char) := first ≤ c.toNat && c.toNat ≤ last
  if isBetween 0x1100 0x1112 a && isBetween 0x1161 0x1175 b then
    some (Char.ofNat (0xAC00 + (a.toNat - 0x1100) * 588 + (b.toNat - 0x1161) * 28))
  else if isBetween 0xAC00 0xD7A3 a && (a.toNat - 0xAC00) % 28 == 0 &&
      isBetween 0x11A8 0x11C2 b then
    some (Char.ofNat (a.toNat + (b.toNat - 0x11A7)))
  else none

/-- The two parts of a composite. -/
def parts? (c : Char) : Option (Char × Char) :=
  if c.toNat < 0xC0 then none
  else
    match syllableParts? c with
    | some parts => some parts
    | none => (composites.find? (·.2 == c)).map (·.1)

/-- The composite of two characters. -/
def composite? (a b : Char) : Option Char :=
  if b.toNat < 0x300 then none
  else
    match syllable? a b with
    | some c => some c
    | none => composites.lookup (a, b)

/-! ## The three steps -/

/-- Takes a composite apart, in at most so many steps. The second part is never a composite. -/
def decompose : (steps : Nat) → Char → List Char
  | 0, c => [c]
  | steps + 1, c =>
    match parts? c with
    | some (first, second) => decompose steps first ++ [second]
    | none => [c]

/-- Takes all composites apart. No composite stands for more than four characters. -/
def decomposed (cs : List Char) : List Char := cs.flatMap (decompose 3)

/-- Puts a character in front of ordered text, behind the marks of lower classes. -/
def insertOrdered (c : Char) : List Char → List Char
  | [] => [c]
  | d :: rest =>
    if combiningClass d ≠ 0 && combiningClass d < combiningClass c then d :: insertOrdered c rest
    else c :: d :: rest

/-- Puts the marks between other characters in the order of their classes. -/
def ordered (cs : List Char) : List Char := cs.foldr insertOrdered []

/-- Puts together what forms composites with a first character, over the marks that were passed.
A mark is passed that forms none; no other of its class, and no other character, reaches over it. -/
def recompose (first : Char) (passed : List Char) : List Char → List Char
  | [] => first :: passed
  | c :: rest =>
    let n := combiningClass c
    let isReached := passed.getLast?.all fun d => combiningClass d < n
    match if isReached then composite? first c else none with
    | some composite => recompose composite passed rest
    | none =>
      if n = 0 then first :: passed ++ recompose c [] rest else recompose first (passed ++ [c]) rest

/-- The composed form of a text whose characters are composed each for itself. -/
def composed (cs : List Char) : List Char :=
  let pieces := ordered (decomposed cs)
  let leading := pieces.takeWhile (combiningClass · ≠ 0)
  match pieces.dropWhile (combiningClass · ≠ 0) with
  | [] => leading
  | first :: rest => leading ++ recompose first [] rest

end UrlQuery.Unicode
