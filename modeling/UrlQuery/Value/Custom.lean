import UrlQuery.Params.Basic

/-!
# Values that encode themselves

A `CustomEncoder` is handed the key that its value would be written under and the parameters so
far. It leaves other parameters behind, and may fail with a text. What it wrote before it failed
stays.

`CustomEncoder.ofWrites` is an encoder given by a list of writes, each under the key and a suffix.
-/

namespace UrlQuery

/-- The encoder of a value that writes its own entries. -/
structure CustomEncoder where
  /-- The parameters that are left, and the text of the error if the encoder failed. -/
  run : (key : String) → Params → Params × Option String

/-- One thing that an encoder given by a list does. -/
inductive Write where
  | add (suffix value : String)
  | set (suffix value : String)
  | erase (suffix : String)
  /-- Stops with an error. -/
  | fail (message : String)
  deriving DecidableEq, Repr

namespace CustomEncoder

/-- Runs the writes one after the other up to the first that fails. -/
def runWrites (key : String) : List Write → Params → Params × Option String
  | [], p => (p, none)
  | .add suffix value :: rest, p => runWrites key rest (p.add (key ++ suffix) value)
  | .set suffix value :: rest, p => runWrites key rest (p.set (key ++ suffix) value)
  | .erase suffix :: rest, p => runWrites key rest (p.erase (key ++ suffix))
  | .fail message :: _, p => (p, some message)

/-- The encoder that runs a list of writes. -/
def ofWrites (writes : List Write) : CustomEncoder :=
  ⟨fun key => runWrites key writes⟩

end CustomEncoder

end UrlQuery
