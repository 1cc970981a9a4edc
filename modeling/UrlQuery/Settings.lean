import UrlQuery.Media.Registry
import UrlQuery.Url.Query

/-!
# Settings of a process

The configuration and the codec names that hold where none are given, as one value that a program
passes on. A program starts with the standard ones.
-/

namespace UrlQuery

/-- The configuration and the codec names of a process. -/
structure Settings where
  config : Config := {}
  codecs : CodecRegistry := .standard

namespace Settings

/-- Binds the subtype of a media type to a codec name. -/
def registerCodec (s : Settings) (mediaType name : String) : Settings :=
  { s with codecs := s.codecs.register mediaType name }

/-- The codec name of a media type. -/
def codecName? (s : Settings) (mediaType : String) : Option String :=
  s.codecs.codecName? mediaType

/-- Replaces the configuration. -/
def setConfig (s : Settings) (config : Config) : Settings :=
  { s with config }

/-- Encodes a value by the configuration of the process. -/
def encode (s : Settings) (value : Value) : Except Error Params :=
  value.encode s.config

/-- Encodes a value and appends it to the query of a URL. -/
def appendValue (s : Settings) (url : Url) (value : Value) : Except Error Url :=
  url.appendValue s.config value

end Settings

end UrlQuery
