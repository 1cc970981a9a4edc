/-!
# Tokens of declarations

The text of a declaration in tokens: words, lifetimes, literals in quotes, and signs of one
character, or two for the arrow. Blanks and comments only part them.

The reader takes one token at a time and goes on with the rest, which is shorter.
-/

namespace UrlQuery.Derive

/-- A token as it is written. -/
inductive Token where
  | word (text : String)
  | lifetime (text : String)
  | literal (text : String)
  | sign (text : String)
  deriving DecidableEq, Repr

namespace Token

def text : Token → String
  | word text => text
  | lifetime text => text
  | literal text => text
  | sign text => text

/-- White space, or a mark that only sets the direction of the text. -/
def isBlank (c : Char) : Bool :=
  let n := c.toNat
  n == 0x20 || (0x09 ≤ n && n ≤ 0x0D) || n == 0x85 || n == 0xA0 || n == 0x1680 ||
    (0x2000 ≤ n && n ≤ 0x200A) || n == 0x200E || n == 0x200F || n == 0x2028 || n == 0x2029 ||
    n == 0x202F || n == 0x205F || n == 0x3000

/-- A character of a word or a number. -/
def isWordPart (c : Char) : Bool :=
  c.isAlphanum || c == '_' || (0x80 ≤ c.toNat && !isBlank c)

/-! ## Pieces -/

/-- The rest behind a comment that is open so many times. -/
def afterComment : (depth : Nat) → List Char → List Char
  | _, [] => []
  | 0, cs => cs
  | depth + 1, '*' :: '/' :: rest => afterComment depth rest
  | depth + 1, '/' :: '*' :: rest => afterComment (depth + 2) rest
  | depth + 1, _ :: rest => afterComment (depth + 1) rest

theorem length_afterComment (depth : Nat) (cs : List Char) :
    (afterComment depth cs).length ≤ cs.length := by
  fun_induction afterComment depth cs <;> simp <;> omega

/-- Cuts a text behind a quote. A backslash takes the next character along. -/
def cutQuoted (quote : Char) : List Char → List Char × List Char
  | [] => ([], [])
  | '\\' :: c :: rest =>
    ('\\' :: c :: (cutQuoted quote rest).1, (cutQuoted quote rest).2)
  | c :: rest =>
    if c = quote then ([c], rest)
    else (c :: (cutQuoted quote rest).1, (cutQuoted quote rest).2)

theorem length_cutQuoted (quote : Char) (cs : List Char) :
    (cutQuoted quote cs).2.length ≤ cs.length := by
  fun_induction cutQuoted quote cs <;> simp <;> omega

theorem length_dropWhile_le (p : Char → Bool) (cs : List Char) :
    (cs.dropWhile p).length ≤ cs.length :=
  (List.dropWhile_suffix p).length_le

/-! ## Reading -/

/-- The token that begins with a character, if any does, and the rest behind it. -/
def next (c : Char) (rest : List Char) : Option Token × List Char :=
  let word (before rest : List Char) :=
    (some (.word (String.ofList (before ++ rest.takeWhile isWordPart))), rest.dropWhile isWordPart)
  let quoted (quote : Char) (rest : List Char) :=
    (some (.literal (String.ofList (quote :: (cutQuoted quote rest).1))), (cutQuoted quote rest).2)
  if isBlank c then (none, rest)
  else
    match c, rest with
    | '/', '/' :: rest => (none, rest.dropWhile (· != '\n'))
    | '/', '*' :: rest => (none, afterComment 1 rest)
    | '-', '>' :: rest => (some (.sign "->"), rest)
    | '"', rest => quoted '"' rest
    | '\'', '\\' :: rest => quoted '\'' ('\\' :: rest)
    | '\'', d :: '\'' :: rest => (some (.literal (String.ofList ['\'', d, '\''])), rest)
    | '\'', rest =>
      (some (.lifetime (String.ofList ('\'' :: rest.takeWhile isWordPart))),
        rest.dropWhile isWordPart)
    | 'r', '#' :: rest => word ['r', '#'] rest
    | c, rest => if isWordPart c then word [c] rest else (some (.sign (String.ofList [c])), rest)

theorem length_next (c : Char) (rest : List Char) : (next c rest).2.length ≤ rest.length := by
  unfold next
  split
  · simp
  · split
    · exact Nat.le_succ_of_le (length_dropWhile_le _ _)
    · exact Nat.le_succ_of_le (length_afterComment _ _)
    · simp
    · exact length_cutQuoted _ _
    · exact length_cutQuoted _ _
    · simp only [List.length_cons]
      omega
    · exact length_dropWhile_le _ _
    · exact Nat.le_succ_of_le (length_dropWhile_le _ _)
    · split
      · exact length_dropWhile_le _ _
      · simp

/-- The tokens of a text. -/
def scan : List Char → List Token
  | [] => []
  | c :: rest => (next c rest).1.toList ++ scan (next c rest).2
termination_by cs => cs.length
decreasing_by
  have := length_next c rest
  simp only [List.length_cons]
  omega

end Token

end UrlQuery.Derive
