import UrlQuery.Url.Basic

/-!
# Paths of URLs

The text of a path is cut into segments at its slashes, and the segments are gone through from the
root: a name leads down, one dot stays, and two dots lead up again, but never above a drive letter.
Either may be written as escapes.

In the path of a file, a drive letter that comes first stands for a drive. It is written with a
colon then, and a file on a drive has no host.
-/

namespace UrlQuery.Url

/-- A slash, or a backslash in a special scheme. -/
def isSlash (special : Bool) (c : Char) : Bool :=
  c == '/' || (special && c == '\\')

/-- A tab or a line end. -/
def isBreak (c : Char) : Bool := c == '\t' || c == '\n' || c == '\r'

/-- The text without tabs and line ends. -/
def withoutBreaks (cs : List Char) : List Char := cs.filter (!isBreak ·)

/-! ## Segments -/

/-- A segment that stands for the one it is in. -/
def isSingleDot (segment : String) : Bool :=
  [".", "%2e"].contains segment.toLower

/-- A segment that stands for the one above. -/
def isDoubleDot (segment : String) : Bool :=
  ["..", ".%2e", "%2e.", "%2e%2e"].contains segment.toLower

/-- The letter of a drive and its mark, a colon or a bar. -/
def isDriveMark (letter mark : Char) : Bool :=
  letter.isAlpha && (mark == ':' || mark == '|')

/-- A letter and a colon, or a bar in its place. -/
def isDriveLetter (segment : String) : Bool :=
  match segment.toList with
  | [letter, mark] => isDriveMark letter mark
  | _ => false

/-- A segment that is never left upwards: a drive letter. A backslash may follow it, where that is
no slash. -/
def isAnchor (segment : String) : Bool :=
  match segment.toList with
  | [letter, mark] => isDriveMark letter mark
  | letter :: mark :: '\\' :: _ => isDriveMark letter mark
  | _ => false

/-- A path without its last segment, unless that is never left. -/
def dropSegment (names : List String) : List String :=
  if names.getLast?.any isAnchor then names else names.dropLast

/-! ## Moves -/

/-- What a segment does to the path before it. -/
inductive Move where
  | up
  | stay
  | down (names : List String)
  /-- Down to a drive, which replaces the host. -/
  | drive (name : String)
  deriving DecidableEq, Repr

/-- A path as far as it has been gone. -/
structure Trail where
  names : List String := []
  hasDrive : Bool := false
  deriving DecidableEq, Repr

/-- Goes a move. A last move that is no name ends the path with an empty segment. -/
def Trail.go (trail : Trail) (isLast : Bool) : Move → Trail
  | .up =>
    let names := dropSegment trail.names
    { trail with names := if isLast then names ++ [""] else names }
  | .stay => if isLast then { trail with names := trail.names ++ [""] } else trail
  | .down names => { trail with names := trail.names ++ names }
  | .drive name => { names := trail.names ++ [name], hasDrive := true }

/-- Goes through segments. What one does may depend on whether it is the first of the path. -/
def walk (move : (isFirst : Bool) → List Char → Move) (trail : Trail) : List (List Char) → Trail
  | [] => trail
  | segment :: rest =>
    walk move (trail.go rest.isEmpty (move trail.names.isEmpty segment)) rest

/-- What a name does. -/
def Move.ofName (segment : String) : Move :=
  if isDoubleDot segment then up else if isSingleDot segment then stay else down [segment]

/-! ## Paths -/

/-- The segments of a path, which has its first slash taken off. -/
def segments (special : Bool) (cs : List Char) : List String :=
  (walk (fun _ segment => .ofName (escaped keptInPath segment)) {}
    (cs.splitOnP (isSlash special))).names

/-- The path of a special scheme. -/
def specialPath (cs : List Char) : UrlPath :=
  .segments (segments true (if cs.head?.any (isSlash true) then cs.drop 1 else cs))

/-- The path behind an authority of another scheme; it may be missing. -/
def otherPath (cs : List Char) : UrlPath :=
  if cs.isEmpty then .segments []
  else .segments (segments false (if cs.head? == some '/' then cs.drop 1 else cs))

/-! ## Paths of files -/

/-- Cuts a segment behind a letter and a colon if a tab or line end stands there and text follows:
the break parts them like a slash. -/
def cutDrive? (cs : List Char) : Option (String × String) :=
  match cs.dropWhile isBreak with
  | [] => none
  | letter :: rest =>
    match rest.dropWhile isBreak with
    | ':' :: next :: after =>
      if letter.isAlpha && isBreak next && !after.all isBreak then
        some (String.ofList [letter, ':'], escaped keptInPath (withoutBreaks after))
      else none
    | _ => none

/-- What a segment in the path of a file does. A drive letter that comes first gets a colon. -/
def Move.ofFileSegment (isFirst : Bool) (cs : List Char) : Move :=
  let name := escaped keptInPath (withoutBreaks cs)
  match if isFirst then cutDrive? cs else none with
  | some (letter, rest) => down [letter, rest]
  | none =>
    if isFirst && isDriveLetter name then drive (String.ofList (name.toList.take 1 ++ [':']))
    else ofName name

/-- The trail of the path of a file. Empty segments in front are left out at the end. -/
def fileTrail (cs : List Char) : Trail :=
  let trail := walk Move.ofFileSegment {} (cs.splitOnP (isSlash true))
  let shown := trail.names.dropWhile (· == "")
  { trail with names := if shown.isEmpty then [""] else shown }

end UrlQuery.Url
