/-!
# Tables of characters

A property of characters is a list of runs: the code points from a first to a last one, each of
them or every second one. A case map is a list of shifts, runs whose characters all move by the
same distance. Both tables hold characters above ASCII only.
-/

namespace UrlQuery.Unicode

/-- The code points from `first` to `last` in steps of `step`. -/
structure Run where
  first : Nat
  last : Nat
  step : Nat
  deriving DecidableEq, Repr

def Run.contains (r : Run) (n : Nat) : Bool :=
  r.first ≤ n && n ≤ r.last && (n - r.first) % r.step == 0

/-- A run of code points that all move by `distance`. -/
structure Shift where
  first : Nat
  last : Nat
  step : Nat
  distance : Int
  deriving DecidableEq, Repr

def Shift.contains (s : Shift) (n : Nat) : Bool :=
  Run.contains ⟨s.first, s.last, s.step⟩ n

/-- A character is in a table of runs. -/
def inRuns (table : List Run) (c : Char) : Bool :=
  table.any (·.contains c.toNat)

/-- The character that a table of shifts moves a character to, if it moves it. -/
def shifted? (table : List Shift) (c : Char) : Option Char :=
  (table.find? (·.contains c.toNat)).map fun s => Char.ofNat ((c.toNat : Int) + s.distance).toNat

end UrlQuery.Unicode
