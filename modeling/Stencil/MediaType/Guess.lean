import Stencil.MediaType.Table
import Stencil.Text.Blank
import Stencil.Text.Case

/-!
# Guessing a media type

The extension of a file name decides its media type.  Abbreviated extensions are written out, one extension
of a compressed file is passed over, and names that carry a scheme are read without it.
-/

namespace Stencil.MediaType

/-- The last component of a path and what stands before it, slash included. -/
def splitComponent (path : Text) : Text × Text :=
  let component := (path.reverse.takeWhile (· != '/')).reverse
  (path.take (path.length - component.length), component)

/-- Split a file name before its last dot; the leading dots belong to the stem. -/
def splitName (name : Text) : Text × Text :=
  let dots := name.takeWhile (· == '.')
  let rest := name.drop dots.length
  match rest.reverse.dropWhile (· != '.') with
  | [] => (name, [])
  | _ :: stem => (dots ++ stem.reverse, rest.drop stem.length)

/-- Split a path before its extension, which may be empty. -/
def splitExtension (path : Text) : Text × Text :=
  let (directory, name) := splitComponent path
  let (stem, suffix) := splitName name
  (directory ++ stem, suffix)

/-- The value of a text in a table of texts. -/
def lookupText {α : Type} (table : List (String × α)) (key : Text) : Option α :=
  (table.find? fun entry => entry.1.toList == key).map Prod.snd

/-- Write out abbreviated extensions; an extension that is written out is never an abbreviation
itself, so `rounds` is only a bound. -/
def expandAbbreviation : (rounds : Nat) → Text × Text → Text × Text
  | 0, path => path
  | rounds + 1, (stem, suffix) =>
    match lookupText abbreviations suffix.lower with
    | none => (stem, suffix)
    | some full => expandAbbreviation rounds (splitExtension (stem ++ full.toList))

/-- Pass over one extension of a compressed file. -/
def dropCompression (path : Text × Text) : Text × Text :=
  if compressions.any fun suffix => suffix.toList == path.2 then splitExtension path.1 else path

/-- The media type of an extension in a table. -/
def ofExtension? (table : List (String × List String)) (suffix : Text) : Option Text :=
  (table.find? fun entry => entry.2.any fun known => known.toList == suffix).map
    fun entry => entry.1.toList

/-- The scheme in front of a name, in lower case, and the rest of the name.  A scheme is not empty
and has no slash. -/
def splitScheme (name : Text) : Option Text × Text :=
  match Text.breakAt? ':' name with
  | some (char :: scheme, rest) =>
    if (char :: scheme).contains '/' then (none, name) else (some (Text.lower (char :: scheme)), rest)
  | _ => (none, name)

/-- The media type that an inline document states before its first comma. -/
def ofInline? (document : Text) : Option Text :=
  (Text.breakAt? ',' document).map fun (head, _) =>
    let stated := match Text.breakAt? ';' head with
      | some (stated, _) => stated
      | none => head
    if stated.contains '=' || !stated.contains '/' then "text/plain" else stated

/-- The media type of a file name, if its extension is known. -/
def guess? (name : Text) : Option Text :=
  let (scheme, path) := splitScheme name
  if scheme = some ("data" : Text) then ofInline? path
  else
    let suffix := (dropCompression (expandAbbreviation 2 (splitExtension path))).2.lower
    (ofExtension? registered suffix).or (ofExtension? customary suffix)

end Stencil.MediaType
