import UrlQuery.Url.Error
import UrlQuery.Value.Basic

/-!
# Errors

An `Error` is the cause for which a value could not be encoded or appended to a URL. Its text is
made in one place, `Error.message`.
-/

namespace UrlQuery

/-- Why a value could not be encoded or appended to a URL. -/
inductive Error where
  /-- A value of this kind has no keys to be written under. -/
  | unsupportedKind (kind : Kind)
  /-- The encoder of a value failed at a key, with the text of its own error. -/
  | customEncoder (key source : String)
  /-- A map, struct or sequence at a key lies deeper than the limit. -/
  | depthLimit (key : String) (maxDepth : Nat)
  | invalidUrl (cause : UrlError)
  deriving DecidableEq, Repr

namespace Error

/-- The text of an error. -/
def message : Error → String
  | unsupportedKind kind => "unsupported kind for query encoding: " ++ kind.name
  | customEncoder key source => "custom encoder failed for key '" ++ key ++ "': " ++ source
  | depthLimit key maxDepth =>
    "maximum nesting depth of " ++ toString maxDepth ++ " exceeded at '" ++ key ++ "'"
  | invalidUrl cause => "invalid URL: " ++ cause.message

/-- The key at which the error arose. -/
def key? : Error → Option String
  | customEncoder key _ => some key
  | depthLimit key _ => some key
  | unsupportedKind _ => none
  | invalidUrl _ => none

/-- The text of the error that a value's own encoder failed with. -/
def customSource? : Error → Option String
  | customEncoder _ source => some source
  | _ => none

/-- Another error lies behind this one. -/
def hasSource : Error → Bool
  | customEncoder _ _ => true
  | invalidUrl _ => true
  | _ => false

def isUnsupportedKind : Error → Bool
  | unsupportedKind _ => true
  | _ => false

def isCustomEncoder : Error → Bool
  | customEncoder _ _ => true
  | _ => false

def isDepthLimit : Error → Bool
  | depthLimit _ _ => true
  | _ => false

end Error

end UrlQuery
