/-!
# Subtypes of media types

The subtype of `application/vnd.api+json; charset=utf-8` is `json`: what stands between the first
slash and the first semicolon, without anything up to a plus sign. A text without a slash, or with
a semicolon before it, has the empty subtype.
-/

namespace UrlQuery.Media

/-- What follows the first `mark`, if there is one. -/
def after? (mark : Char) (cs : List Char) : Option (List Char) :=
  match cs.dropWhile (· != mark) with
  | [] => none
  | _ :: rest => some rest

/-- The subtype of a media type. -/
def subtype (mediaType : String) : String :=
  let withoutParameters := mediaType.toList.takeWhile (· != ';')
  match after? '/' withoutParameters with
  | none => ""
  | some name => String.ofList ((after? '+' name).getD name)

end UrlQuery.Media
