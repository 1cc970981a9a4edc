/-!
# UTF-8

Text as bytes and bytes as text. Reading never fails: a byte that cannot continue the character
before it ends that character, and what was read of it stands as one replacement character. So
every maximal beginning of a character that is cut short becomes one U+FFFD, and text that was
written by `encode` is read back as it was.

## How the reader works

The reader is a machine with one step per byte. Between characters its state is `none`; inside
one it is a `Pending` record, which holds how many bytes are owed and which the next may be.
The bounds of the second byte rule out overlong forms, surrogates and values above U+10FFFF, so a
finished character is always a scalar value.
-/

namespace UrlQuery.Utf8

/-- The UTF-8 bytes of a text. -/
def encode (s : String) : List UInt8 :=
  s.toList.flatMap String.utf8EncodeChar

/-- What stands for a byte sequence that is no character. -/
def replacement : Char := '\uFFFD'

/-! ## One byte at a time -/

/-- Inside a character: the bytes still owed, the bounds of the next one, and the bits so far. -/
structure Pending where
  owed : Nat
  low : Nat
  high : Nat
  bits : Nat
  deriving DecidableEq, Repr

/-- The first byte of a character: what is written at once, and where the reader then stands. -/
def start (b : Nat) : List Char × Option Pending :=
  if b < 0x80 then ([Char.ofNat b], none)
  else if b < 0xC2 then ([replacement], none)
  else if b < 0xE0 then ([], some ⟨1, 0x80, 0xBF, b - 0xC0⟩)
  else if b = 0xE0 then ([], some ⟨2, 0xA0, 0xBF, 0⟩)
  else if b = 0xED then ([], some ⟨2, 0x80, 0x9F, 0xD⟩)
  else if b < 0xF0 then ([], some ⟨2, 0x80, 0xBF, b - 0xE0⟩)
  else if b = 0xF0 then ([], some ⟨3, 0x90, 0xBF, 0⟩)
  else if b < 0xF4 then ([], some ⟨3, 0x80, 0xBF, b - 0xF0⟩)
  else if b = 0xF4 then ([], some ⟨3, 0x80, 0x8F, 4⟩)
  else ([replacement], none)

/-- One byte from any state. A byte that the character does not admit ends it and begins anew. -/
def step : Option Pending → Nat → List Char × Option Pending
  | none, b => start b
  | some p, b =>
    if p.low ≤ b ∧ b ≤ p.high then
      let bits := p.bits * 64 + (b - 0x80)
      if p.owed ≤ 1 then ([Char.ofNat bits], none)
      else ([], some ⟨p.owed - 1, 0x80, 0xBF, bits⟩)
    else
      let (written, state) := start b
      (replacement :: written, state)

/-- Reads bytes to the end, from any state. A character cut short by the end is replaced too. -/
def run : Option Pending → List UInt8 → List Char
  | none, [] => []
  | some _, [] => [replacement]
  | state, b :: rest => (step state b.toNat).1 ++ run (step state b.toNat).2 rest

/-- The text of a byte sequence, with U+FFFD for what is not UTF-8. -/
def decode (bytes : List UInt8) : String :=
  String.ofList (run none bytes)

end UrlQuery.Utf8
