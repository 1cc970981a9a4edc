import UrlQuery.Unicode.Case
import UrlQuery.Unicode.PrintTable
import UrlQuery.Url.Domain.FormTable

/-!
# Characters of domain names

Each character of a domain name has a form, the text that stands for it in the plain name: nothing
for a character without a width, the lower-case form of a capital, the plain letters for one that
only looks different. A few characters have no form, and no name holds them.
-/

namespace UrlQuery.Domain

open Unicode (inRuns)

def LetterForms.form? (row : LetterForms) (n : Nat) : Option (List Char) :=
  if row.first ≤ n && n ≤ row.last then (row.letters.toList[n - row.first]?).map ([·]) else none

def TextForms.form? (row : TextForms) (n : Nat) : Option (List Char) :=
  if row.first ≤ n && n ≤ row.last then (row.texts[n - row.first]?).map (·.toList) else none

/-- The form that the tables give a character. -/
def listedForm? (c : Char) : Option (List Char) :=
  match Unicode.shifted? shiftedForms c with
  | some form => some [form]
  | none =>
    match letterForms.findSome? (·.form? c.toNat) with
    | some form => some form
    | none => textForms.findSome? (·.form? c.toNat)

/-- The character is not for names: it has no picture, or it is refused. -/
def isRefused (c : Char) : Bool := inRuns Unicode.unprintable c || inRuns refused c

/-- The form of a character, if it has one. -/
def form? (c : Char) : Option (List Char) :=
  if c.toNat < 0x80 then some [c.toLower]
  else
    match listedForm? c with
    | some form => some form
    | none =>
      if inRuns dropped c then some []
      else if isRefused c then none
      else some (Unicode.lower c)

/-- The character is its own form. -/
def isPlain (c : Char) : Bool := form? c == some [c]

end UrlQuery.Domain
