import Stencil.Script.Refusal

/-!
# Flaws of templates

The reasons for which a template is refused before anything is run, each with the line to blame.
-/

namespace Stencil

/-- Why a template is refused. -/
inductive Flaw where
  /-- Two open braces without two close braces later on the line. -/
  | unterminatedFragment (line : Int) (column : Nat)
  /-- The template ends inside a block. -/
  | unclosedBlock (head : Text) (line : Int)
  /-- A closing brace outside of every block. -/
  | unmatchedCloser (line : Int)
  /-- A closing brace followed by text that opens no block. -/
  | malformedCloser (rest : Text) (line : Int)
  /-- A continuation that text separates from the block it would continue. -/
  | separatedArm (head : Text) (closer line : Int)
  /-- The routine is not a well-formed script; `line` is absent when no line can be blamed. -/
  | rejected (blame : Script.Blame) (message : Text) (line : Option Int)
  deriving DecidableEq, Repr

namespace Flaw

/-- The description of a flaw, without its location. -/
def message : Flaw → Text
  | unterminatedFragment _ _ => "unterminated interpolation"
  | unclosedBlock head _ => "unclosed block '" ++ head ++ "' opened here"
  | unmatchedCloser _ => "closing brace with no open block"
  | malformedCloser rest _ => "unexpected text after closing brace: '" ++ rest ++ "'"
  | separatedArm head closer _ =>
    "'" ++ head ++ "' is separated from the block closed on line " ++ Text.ofInt closer
      ++ " by text; put the opener directly after the closer"
  | rejected _ message _ => message

/-- The line to blame. -/
def line? : Flaw → Option Int
  | unterminatedFragment line _ | unclosedBlock _ line | unmatchedCloser line
  | malformedCloser _ line | separatedArm _ _ line => some line
  | rejected _ _ line => line

/-- The column to blame. -/
def column? : Flaw → Option Nat
  | unterminatedFragment _ column => some column
  | _ => none

end Flaw
end Stencil
