import UrlQuery.Url.Ipv4

/-!
# IPv6 addresses

Eight pieces of sixteen bits in hexadecimal, parted by colons. Two colons stand for a run of one
or more zero pieces, once in an address, and the last two pieces may be written as an IPv4 address.
In writing, the first of the longest runs of at least two zeros is shortened.
-/

namespace UrlQuery.Ipv6

/-- A piece: one to four hexadecimal digits. -/
def piece? (cs : List Char) : Option Nat :=
  if cs.isEmpty || 4 < cs.length then none else Ipv4.numeral? 16 cs

/-- A byte in decimal without leading zeros. -/
def decimalByte? (cs : List Char) : Option Nat := do
  let n ← Ipv4.numeral? 10 cs
  if cs.isEmpty || (1 < cs.length && cs.head? == some '0') || 255 < n then none else some n

/-- The two pieces of an IPv4 address. -/
def embedded? (cs : List Char) : Option (List Nat) := do
  match ← (cs.splitOn '.').mapM decimalByte? with
  | [a, b, c, d] => some [a * 256 + b, c * 256 + d]
  | _ => none

/-- The last piece, which may be an IPv4 address. -/
def lastPieces? (cs : List Char) : Option (List Nat) :=
  if cs.contains '.' then embedded? cs else (piece? cs).map ([·])

/-- The pieces between single colons; nothing has none. -/
def pieces? (last? : List Char → Option (List Nat)) (cs : List Char) : Option (List Nat) :=
  if cs.isEmpty then some []
  else
    let groups := cs.splitOn ':'
    match groups.getLast? with
    | none => none
    | some last => do pure ((← groups.dropLast.mapM piece?) ++ (← last? last))

/-- Cuts a text at its first two colons. -/
def cut? : List Char → Option (List Char × List Char)
  | ':' :: ':' :: rest => some ([], rest)
  | c :: rest => (cut? rest).map fun (before, after) => (c :: before, after)
  | [] => none

/-- The eight pieces of an address. -/
def address? (cs : List Char) : Option (List Nat) :=
  match cut? cs with
  | none => do
    let all ← pieces? lastPieces? cs
    if all.length = 8 then some all else none
  | some (before, after) => do
    let front ← pieces? (fun last => (piece? last).map ([·])) before
    let back ← pieces? lastPieces? after
    if front.length + back.length < 8 then
      some (front ++ List.replicate (8 - front.length - back.length) 0 ++ back)
    else none

/-- The address of a text. -/
def parse (cs : List Char) : Except UrlError (List Nat) :=
  match address? cs with
  | some pieces => .ok pieces
  | none => .error .invalidIpv6

/-- The number of zeros in front. -/
def zerosInFront (pieces : List Nat) : Nat := (pieces.takeWhile (· == 0)).length

/-- The longest run of zeros: where it begins and how long it is. The first one of several. -/
def longestRun (pieces : List Nat) : Nat × Nat :=
  (List.range pieces.length).foldl (fun best i =>
    let n := zerosInFront (pieces.drop i)
    if best.2 < n then (i, n) else best) (0, 0)

/-- Pieces parted by colons. -/
def joined (pieces : List Nat) : String :=
  String.intercalate ":" (pieces.map fun n => String.ofList (Nat.toDigits 16 n))

/-- An address as text. -/
def text (pieces : List Nat) : String :=
  let (start, count) := longestRun pieces
  if count < 2 then joined pieces
  else joined (pieces.take start) ++ "::" ++ joined (pieces.drop (start + count))

end UrlQuery.Ipv6
