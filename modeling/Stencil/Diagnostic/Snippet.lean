import Stencil.Diagnostic.Paint

/-!
# Snippets

A few template lines around the one at fault, with a caret below a column of it when one is known.
-/

namespace Stencil

/-- Numbered template lines around a line at fault. -/
structure Snippet where
  lines : List (Int × Text)
  faultLine : Int
  column : Option Int
  deriving DecidableEq, Repr

namespace Snippet

/-- The content of a piece between line feeds, without carriage returns at its end. -/
def content (piece : Text) : Text := Text.dropTailWhile (· == '\r') piece

/-- Give consecutive numbers to a list of texts. -/
def number : (first : Int) → List Text → List (Int × Text)
  | _, [] => []
  | first, text :: texts => (first, text) :: number (first + 1) texts

/-- The lines of a source whose distance from the line at fault is at most `context`. -/
def around (source : Text) (line context : Int) (column : Option Int) : Snippet :=
  let pieces := Text.splitOn '\n' source
  let first := max 0 (line - 1 - context)
  let last := min (pieces.length : Int) (line + context)
  let shown := (pieces.drop first.toNat).take (last - first).toNat
  ⟨number (first + 1) (shown.map content), line, column⟩

/-- The line under a line at fault that points at a column. -/
def caretLine (colours : Bool) (column : Int) : Text :=
  Paint.faint colours "     |" ++ " " ++ Paint.faultLine colours (Text.spaces column ++ ['^'])

/-- The rows that show one line of a snippet. -/
def rows (colours : Bool) (snippet : Snippet) (line : Int × Text) : List Text :=
  let atFault := line.1 == snippet.faultLine
  let row := Paint.sourceLine colours line.1 line.2 atFault
  match snippet.column with
  | some column => if atFault then [row, caretLine colours column] else [row]
  | none => [row]

/-- The rows of a snippet between two rules. -/
def toText (colours : Bool) (snippet : Snippet) : Text :=
  let rule := Paint.faint colours "   |"
  Text.join ['\n'] (rule :: (snippet.lines.flatMap (snippet.rows colours) ++ [rule]))

end Snippet

/-- A template that another one was being inserted into, and the line at which. -/
abbrev EnclosingFrame := Text × Int

/-- The list of enclosing templates, innermost first; nothing when there are none. -/
def stackText (colours : Bool) (stack : List EnclosingFrame) : Text :=
  match stack with
  | [] => []
  | _ => Text.join ['\n'] (Paint.faint colours "Template stack:" :: stack.map fun (name, line) =>
      "  • " ++ Paint.location colours (name ++ ":" ++ Text.ofInt line))

end Stencil
