import Stencil.Text.Basic

/-!
# Refusals

Why a text is not a script.
-/

namespace Stencil.Script

/-- What a refused script is blamed for. -/
inductive Blame where
  | form
  | indentation
  | tabs
  deriving DecidableEq, Repr

/-- A reason to refuse a script, with the physical line to blame; line zero when there is no such line. -/
structure Refusal where
  blame : Blame
  message : Text
  line : Nat
  deriving DecidableEq, Repr

/-- The message when nothing more precise is known. -/
def generalMessage : Text := "invalid syntax"

end Stencil.Script
