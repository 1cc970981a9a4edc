/-!
# Punycode

The bootstring of RFC 3492, which writes any characters in letters, digits and hyphens. The ASCII
characters come first. The others follow in the order of their code points, each as the distance
that an imaginary cursor moves over all places and all code points up to it. A distance is a
number in digits of varying base, least digit first; a digit below the threshold of its place
ends it. The thresholds follow a bias that adapts to the distances so far.

Writing recurs on the distance, which every digit makes smaller. Reading takes one character at a
time.
-/

namespace UrlQuery.Punycode

/-- The letter or digit of a value below 36. -/
def digit (n : Nat) : Char :=
  if n < 26 then Char.ofNat (0x61 + n) else Char.ofNat (0x30 + (n - 26))

/-- The value of a letter of either case or of a digit. -/
def digitValue? (c : Char) : Option Nat :=
  if 'a' ≤ c && c ≤ 'z' then some (c.toNat - 0x61)
  else if 'A' ≤ c && c ≤ 'Z' then some (c.toNat - 0x41)
  else if '0' ≤ c && c ≤ '9' then some (c.toNat - 0x30 + 26)
  else none

/-- The threshold of a place, from 1 to 26. Places are counted in steps of 36. -/
def threshold (bias place : Nat) : Nat := max 1 (min 26 (place - bias))

theorem threshold_bounds (bias place : Nat) :
    1 ≤ threshold bias place ∧ threshold bias place ≤ 26 := by
  unfold threshold
  omega

/-- Divides a distance by 35 until it is at most 455, and counts the places that takes. -/
def settle (delta places : Nat) : Nat :=
  if 455 < delta then settle (delta / 35) (places + 36) else places + 36 * delta / (delta + 38)
termination_by delta
decreasing_by exact Nat.div_lt_self (by omega) (by omega)

/-- The bias after a distance. The first distance is damped more than the others. -/
def adapt (delta count : Nat) (first : Bool) : Nat :=
  let damped := if first then delta / 700 else delta / 2
  settle (damped + damped / count) 0

/-! ## Writing -/

/-- A distance in digits, from a place on. -/
def numeral (bias place n : Nat) : List Char :=
  let t := threshold bias place
  if n < t then [digit n]
  else digit (t + (n - t) % (36 - t)) :: numeral bias (place + 36) ((n - t) / (36 - t))
termination_by n
decreasing_by
  have bounds := threshold_bounds bias place
  have := Nat.div_le_self (n - threshold bias place) (36 - threshold bias place)
  omega

/-- The writer: what is written, the distance so far, the bias, and how many places are settled. -/
structure Writer where
  out : List Char
  delta : Nat
  bias : Nat
  settled : Nat

/-- Moves the cursor past one place at code point `code`. -/
def Writer.pass (basic code : Nat) (w : Writer) (c : Char) : Writer :=
  if c.toNat < code then { w with delta := w.delta + 1 }
  else if c.toNat = code then
    { out := w.out ++ numeral w.bias 36 w.delta
      delta := 0
      bias := adapt w.delta (w.settled + 1) (w.settled = basic)
      settled := w.settled + 1 }
  else w

/-- Moves the cursor from a code point through the next ones, which ascend. -/
def writeFrom (input : List Char) (basic : Nat) : List Nat → Nat → Writer → Writer
  | [], _, w => w
  | code :: rest, start, w =>
    let w := { w with delta := w.delta + (code - start) * (w.settled + 1) }
    let w := input.foldl (Writer.pass basic code) w
    writeFrom input basic rest (code + 1) { w with delta := w.delta + 1 }

/-- Puts a number into an ascending list without repetition. -/
def insertCode (n : Nat) : List Nat → List Nat
  | [] => [n]
  | m :: rest =>
    if n < m then n :: m :: rest
    else if n = m then m :: rest
    else m :: insertCode n rest

/-- The Punycode of a text. -/
def encode (input : List Char) : List Char :=
  let basic := input.filter (·.toNat < 0x80)
  let codes := (input.filter (0x80 ≤ ·.toNat)).foldl (fun codes c => insertCode c.toNat codes) []
  let w := writeFrom input basic.length codes 0x80 ⟨[], 0, 72, basic.length⟩
  basic ++ (if basic.isEmpty then [] else ['-']) ++ w.out

/-! ## Reading -/

/-- The reader: the text so far, the cursor, and the distance that is being read. -/
structure Reader where
  out : List Char
  code : Nat := 0x80
  bias : Nat := 72
  first : Bool := true
  /-- The place of the cursor before and with the digits read. -/
  start : Nat := 0
  index : Nat := 0
  weight : Nat := 1
  place : Nat := 36

/-- Puts in a character where the cursor has come to. -/
def Reader.settle? (r : Reader) (index : Nat) : Option Reader :=
  let count := r.out.length + 1
  let code := r.code + index / count
  let at' := index % count
  if code < 0xD800 || (0xDFFF < code && code < 0x110000) then
    some
      { out := r.out.take at' ++ Char.ofNat code :: r.out.drop at'
        code := code
        bias := adapt (index - r.start) count r.first
        first := false
        start := at' + 1
        index := at' + 1 }
  else none

/-- The bound of all distances and weights. -/
def bound : Nat := 4294967296

/-- One digit. -/
def Reader.step? (r : Reader) (c : Char) : Option Reader := do
  let n ← digitValue? c
  let index := r.index + n * r.weight
  let t := threshold r.bias r.place
  let weight := r.weight * (36 - t)
  if bound ≤ index then none
  else if n < t then r.settle? index
  else if bound ≤ weight then none
  else some { r with index := index, weight := weight, place := r.place + 36 }

/-- The text of a Punycode. The last hyphen parts the ASCII characters from the digits; it stands
only behind such characters. -/
def decode? (input : List Char) : Option (List Char) := do
  let digits := (input.reverse.takeWhile (· != '-')).reverse
  let before := input.take (input.length - digits.length)
  if before == ['-'] || before.any (0x80 ≤ ·.toNat) then none
  else
    let r ← digits.foldlM Reader.step? { out := before.dropLast }
    if r.place = 36 then some r.out else none

end UrlQuery.Punycode
