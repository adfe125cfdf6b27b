import Stencil.Script.Diagnosis
import Stencil.Script.Lex
import Stencil.Script.Placement
import Stencil.Script.ReadStmt

/-!
# Reading a script

A script is read in three steps: its tokens, its statements, and whether every statement may stand where it stands.
-/

namespace Stencil.Script

/-- Enough steps to read a list of logical lines. -/
def stepsForLines (lines : List LogicalLine) : Nat := 8 * (lines.length + 1)

/-- The statements of the logical lines of a script. -/
def readLines (lines : List LogicalLine) : Option (List Stmt) := do
  let (statements, rest) ← readBlock ⟨0, 0⟩ (stepsForLines lines) lines
  if rest.isEmpty then return statements else none

/-- The line of the first wait in a script that has no definition in which it could stand. -/
def strayWait? (lines : List LogicalLine) : Option Nat :=
  let tokens := lines.flatMap LogicalLine.tokens
  if tokens.any (·.token == .word "async") then none
  else (tokens.find? (·.token == .word "await")).map Placed.line

/-- The statements of a script; absent when the script is well formed but says more than the statements here can
express. -/
def readScript (script : Text) : Except Refusal (Option (List Stmt)) :=
  let reading := Reading.ofText script
  let layout := Layout.ofReading reading
  match layout.ending with
  | .refused refusal | .stuck refusal => .error ((layout.diagnose?).getD refusal)
  | .complete =>
    match readLines reading.lines with
    | none =>
      match layout.diagnose? with
      | some refusal => .error refusal
      | none =>
        match strayWait? reading.lines with
        | some line => .error ⟨.form, "'await' outside async function", line⟩
        | none => .ok none
    | some statements =>
      match misplacedIn? statements with
      | some refusal => .error refusal
      | none => .ok (some statements)

end Stencil.Script
