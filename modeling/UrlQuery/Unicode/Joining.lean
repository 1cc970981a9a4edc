import UrlQuery.Unicode.JoiningTable
import UrlQuery.Unicode.Mark

/-!
# Joining letters

In a cursive script a letter is joined to its neighbours, on sides that depend on the letter. Marks
on it do not matter.
-/

namespace UrlQuery.Unicode

/-- The letter is joined to the one after it. -/
def joinsNext (c : Char) : Bool := inRuns dualJoining c || inRuns leftJoining c

/-- The letter is joined to the one before it. -/
def joinsPrevious (c : Char) : Bool := inRuns dualJoining c || inRuns rightJoining c

/-- The character does not matter for joining. -/
def isTransparent (c : Char) : Bool := isNonspacingMark c || c.toNat == 0x1E94B

end UrlQuery.Unicode
