import UrlQuery.Unicode.DirectionTable
import UrlQuery.Unicode.Mark

/-!
# Writing directions

How a character stands in a line of mixed scripts.
-/

namespace UrlQuery.Unicode

/-- The direction of a character. -/
inductive Direction where
  | left
  | right
  | europeanNumber
  | arabicNumber
  /-- The direction of what stands around it. -/
  | neutral
  /-- The direction of the character that the mark belongs to. -/
  | mark
  deriving DecidableEq, Repr

/-- The direction of a character. Letters are written from left to right unless a table says
otherwise. -/
def direction (c : Char) : Direction :=
  if c.toNat < 0x80 then
    if c.isAlpha then .left else if c.isDigit then .europeanNumber else .neutral
  else if isNonspacingMark c && !inRuns directedMark c then .mark
  else if inRuns rightToLeft c then .right
  else if inRuns arabicNumber c then .arabicNumber
  else if inRuns europeanNumber c then .europeanNumber
  else if inRuns neutral c then .neutral
  else .left

end UrlQuery.Unicode
