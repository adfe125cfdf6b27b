import Stencil.Flaw
import Stencil.Line.Scan

/-!
# Classifying lines

A line that starts with the directive marker, blanks before it aside, is a directive; an empty line is
blank; every other line is text.
-/

namespace Stencil.Line

/-- The statement of a directive line: what follows the marker and one optional space. -/
def statement? (marker content : Text) : Option Text :=
  (Text.afterLead? marker content.trimStart).map fun
    | ' ' :: statement => statement
    | statement => statement

/-- Classify one physical line. -/
def classify (marker : Text) (number : Int) (raw : RawLine) : Except Flaw Line :=
  match statement? marker raw.1 with
  | some statement => .ok ⟨number, raw.1, raw.2, .directive statement⟩
  | none =>
    if raw.1.isEmpty then .ok ⟨number, raw.1, raw.2, .blank⟩
    else match scan raw.1 with
      | .ok parts => .ok ⟨number, raw.1, raw.2, .text parts⟩
      | .error column => .error (.unterminatedFragment number column)

/-- Classify physical lines that are numbered from `number` on, up to the first flaw. -/
def classifyFrom (marker : Text) : (number : Int) → List RawLine → Except Flaw (List Line)
  | _, [] => .ok []
  | number, raw :: raws =>
    match classify marker number raw with
    | .error flaw => .error flaw
    | .ok line => match classifyFrom marker (number + 1) raws with
      | .error flaw => .error flaw
      | .ok lines => .ok (line :: lines)

/-- The classified lines of a template. -/
def ofSource (marker source : Text) : Except Flaw (List Line) :=
  classifyFrom marker 1 (splitLines source)

end Stencil.Line
