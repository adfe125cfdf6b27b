import Stencil.MediaType.Guess

/-!
# Content types

A content type is a media type that may be followed by parameters.  A template's content type comes from its
file name or from a bare suffix; textual ones name their encoding, and unknown ones are plain text.
-/

namespace Stencil

/-- The content type of templates about which nothing is known. -/
def plainContentType : Text := "text/plain; charset=utf-8"

/-- The media type of a content type: parameters, surrounding blanks and letter case dropped. -/
def mediaTypeOf (contentType : Text) : Text :=
  Text.lower (Text.trim (match Text.breakAt? ';' contentType with
    | some (media, _) => media
    | none => contentType))

/-- The content type of a template with a given file name or bare suffix. -/
def contentTypeOf (fileName : Option Text) : Text :=
  match fileName with
  | none => plainContentType
  | some [] => plainContentType
  | some name =>
    let full := if name.contains '.' then name else "template." ++ name
    match MediaType.guess? full with
    | none => plainContentType
    | some media => if Text.startsWith "text/" media then media ++ "; charset=utf-8" else media

end Stencil
