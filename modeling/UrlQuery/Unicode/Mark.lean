import UrlQuery.Unicode.MarkTable

/-!
# Marks

A mark combines with the character before it. Its combining class says where it goes: marks of
different classes go to different places, so their order does not matter, and the canonical order
is by class.
-/

namespace UrlQuery.Unicode

/-- The character is a mark that takes no place of its own. -/
def isNonspacingMark (c : Char) : Bool :=
  0x300 ≤ c.toNat && inRuns nonspacingMark c

/-- The character is a mark. -/
def isMark (c : Char) : Bool :=
  isNonspacingMark c || inRuns spacingMark c

/-- The combining class of a character. All characters but some marks have class 0. -/
def combiningClass (c : Char) : Nat :=
  if c.toNat < 0x300 then 0
  else
    match combiningClasses.find? fun entry => inRuns entry.2 c with
    | some (n, _) => n
    | none => 0

/-- The mark silences the vowel of a consonant, which may then join the next one. -/
def isVirama (c : Char) : Bool := combiningClass c == 9

end UrlQuery.Unicode
