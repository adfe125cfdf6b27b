import Stencil.Text.Basic

/-!
# Template lines

A template is read one physical line at a time.  A line is text to be output, a directive that shapes the
output, or blank; the parts of a text line are literal runs and inserted fragments.
-/

namespace Stencil

/-- An expression between markers in a text line. -/
structure Fragment where
  /-- The text between the markers, trimmed; it is not looked into here. -/
  code : Text
  /-- Column of the opening marker. -/
  start : Nat
  /-- Column after the closing marker, or the end of the line. -/
  stop : Nat
  deriving DecidableEq, Repr

/-- A piece of a text line. -/
inductive Part where
  | literal (text : Text)
  | fragment (fragment : Fragment)
  deriving DecidableEq, Repr

/-- What a line is, with what only that kind of line has. -/
inductive LineForm where
  | text (parts : List Part)
  | directive (statement : Text)
  | blank
  deriving DecidableEq, Repr

/-- A physical line of a template. -/
structure Line where
  /-- Position in the template, counted from one; a line built by hand may carry any number. -/
  number : Int
  /-- The line without its terminator. -/
  content : Text
  /-- A line feed, a carriage return with a line feed, or nothing. -/
  terminator : Text
  form : LineForm
  deriving DecidableEq, Repr

namespace Line

/-- The fragments of a line in order. -/
def fragments (line : Line) : List Fragment :=
  match line.form with
  | .text parts => parts.filterMap fun
    | .literal _ => none
    | .fragment fragment => some fragment
  | _ => []

/-- Whether a line is a directive. -/
def isDirective (line : Line) : Bool :=
  match line.form with
  | .directive _ => true
  | _ => false

end Line

/-- A physical line as it stands in a source: its content and its terminator. -/
abbrev RawLine := Text × Text

/-- The content and terminator of a piece that a line feed ended. -/
def RawLine.ofPiece (piece : Text) : RawLine :=
  if piece.getLast? = some '\r' then (piece.dropLast, ['\r', '\n']) else (piece, ['\n'])

/-- Split a source into its lines.  A carriage return directly before the line feed belongs to the
terminator, and a source that ends in a line feed has no further, empty line. -/
def splitLines (source : Text) : List RawLine :=
  let pieces := Text.splitOn '\n' source
  let closed := pieces.dropLast.map RawLine.ofPiece
  match pieces.getLast? with
  | some (char :: rest) => closed ++ [(char :: rest, [])]
  | _ => closed

end Stencil
