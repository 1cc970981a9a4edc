import UrlQuery.Url.Error

/-!
# IPv4 addresses

A host whose last part is a number is an IPv4 address. It has one to four parts, in decimal, octal
or hexadecimal; the last part fills all bytes that are left.
-/

namespace UrlQuery.Ipv4

/-- The value of a digit in a base of at most 16. -/
def digitValue? (base : Nat) (c : Char) : Option Nat :=
  let n :=
    if '0' ≤ c && c ≤ '9' then c.toNat - 0x30
    else if 'a' ≤ c && c ≤ 'f' then c.toNat - 0x57
    else if 'A' ≤ c && c ≤ 'F' then c.toNat - 0x37
    else 16
  if n < base then some n else none

/-- The value of digits in a base. -/
def numeral? (base : Nat) (cs : List Char) : Option Nat :=
  cs.foldlM (fun n c => (digitValue? base c).map (n * base + ·)) 0

/-- The value of a part. `0x` marks hexadecimal and a leading zero octal; no digits are zero. -/
def part? (cs : List Char) : Option Nat :=
  match cs with
  | [] => none
  | '0' :: 'x' :: rest => numeral? 16 rest
  | '0' :: 'X' :: rest => numeral? 16 rest
  | '0' :: c :: rest => numeral? 8 (c :: rest)
  | _ => numeral? 10 cs

/-- The parts of a host. An empty part at the end does not count. -/
def parts (host : List Char) : List (List Char) :=
  let all := host.splitOn '.'
  if all.getLast? == some [] then all.dropLast else all

/-- The host is to be read as an address. -/
def endsInNumber (host : List Char) : Bool :=
  match (parts host).getLast? with
  | none => false
  | some last => (!last.isEmpty && last.all Char.isDigit) || (part? last).isSome

/-- The address of the values of its parts, the last of which is `last`. -/
def ofNumbers? (leading : List Nat) (last : Nat) : Option Nat :=
  if leading.all (· ≤ 255) && last < Nat.pow 256 (4 - leading.length) then
    some (leading.foldl (fun n b => n * 256 + b) 0 * Nat.pow 256 (4 - leading.length) + last)
  else none

/-- The address of a host that ends in a number. -/
def parse (host : List Char) : Except UrlError Nat :=
  let address? := do
    let numbers ← (parts host).mapM part?
    let last ← numbers.getLast?
    if numbers.length ≤ 4 then ofNumbers? numbers.dropLast last else none
  match address? with
  | some n => .ok n
  | none => .error .invalidIpv4

/-- An address as four decimal numbers. -/
def text (address : Nat) : String :=
  let byte (i : Nat) := toString (address / Nat.pow 256 i % 256)
  byte 3 ++ "." ++ byte 2 ++ "." ++ byte 1 ++ "." ++ byte 0

end UrlQuery.Ipv4
