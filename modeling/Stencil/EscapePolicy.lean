import Stencil.MediaType.Content
import Stencil.Text.Quoted

/-!
# Escape policies

A policy decides by media type whether inserted values are escaped.  The last entry for a media type counts,
and media types without an entry are verbatim.
-/

namespace Stencil

/-- What happens to inserted values. -/
inductive Escaping where
  | escape
  | verbatim
  deriving DecidableEq, Repr

namespace Escaping

/-- The decision with a given name. -/
def ofName? (name : Text) : Option Escaping :=
  if name = ("escape" : Text) then some escape
  else if name = ("verbatim" : Text) then some verbatim
  else none

/-- The name of a decision. -/
def name : Escaping → Text
  | escape => "escape"
  | verbatim => "verbatim"

end Escaping

/-- Decisions by media type, one for each media type that has any. -/
structure EscapePolicy where
  entries : List (Text × Escaping)
  deriving DecidableEq, Repr

namespace EscapePolicy

/-- Replace the decision for a key, or add it at the end. -/
def put (key : Text) (decision : Escaping) : List (Text × Escaping) → List (Text × Escaping)
  | [] => [(key, decision)]
  | entry :: entries =>
    if entry.1 = key then (key, decision) :: entries else entry :: put key decision entries

/-- Set the decision for the media type of a content type. -/
def register (contentType : Text) (decision : Escaping) (policy : EscapePolicy) : EscapePolicy :=
  ⟨put (mediaTypeOf contentType) decision policy.entries⟩

/-- The policy that escapes the markup family and nothing else. -/
def standard : EscapePolicy :=
  ⟨[("text/html", .escape), ("application/xhtml+xml", .escape), ("application/xml", .escape),
    ("text/xml", .escape)]⟩

/-- The standard policy with further decisions, given in order. -/
def withExtra (extra : List (Text × Escaping)) : EscapePolicy :=
  extra.foldl (fun policy entry => policy.register entry.1 entry.2) standard

/-- The decision for a content type, if there is an entry for its media type. -/
def entry? (policy : EscapePolicy) (contentType : Text) : Option Escaping :=
  policy.entries.lookup (mediaTypeOf contentType)

/-- The decision for a content type. -/
def decide (policy : EscapePolicy) (contentType : Text) : Escaping :=
  (policy.entry? contentType).getD .verbatim

/-- Whether values are escaped in templates of a content type. -/
def escapes (policy : EscapePolicy) (contentType : Text) : Bool :=
  policy.decide contentType == .escape

/-- Whether there is an entry for the media type of a content type. -/
def covers (policy : EscapePolicy) (contentType : Text) : Bool :=
  (policy.entry? contentType).isSome

/-- A policy as it is shown: the media types that are escaped, in order. -/
def toText (policy : EscapePolicy) : Text :=
  let escaped := (policy.entries.filter fun entry => entry.2 == .escape).map Prod.fst
  "<EscapePolicy escape=" ++ Quoted.encodeList (Text.sortDistinct escaped) ++ ">"

end EscapePolicy
end Stencil
