import Stencil.Diagnostic.SourceFault
import Stencil.Routine.Generate
import Stencil.Script.Read

/-!
# Compiling a routine

The text of a sheet is read as a script.  A refusal is brought back to the template line that the blamed line
of the sheet comes from.
-/

namespace Stencil

/-- A routine that can be run, with what is needed to explain its failures. -/
structure Routine where
  /-- The name under which the routine's lines appear in traces. -/
  file : Text
  /-- The template line of every generated line. -/
  origins : List Int
  /-- The generated text. -/
  text : Text
  /-- The statements between the routine's header and its end. -/
  body : List Script.Stmt

/-- Why a plan cannot be made into a routine. -/
inductive CompileError where
  /-- The script holds a null character. -/
  | nullCharacter
  /-- The plan ends a block that never began. -/
  | unbalancedPlan
  | flawed (flaw : Flaw)
  deriving DecidableEq, Repr

namespace Routine

/-- The name under which the lines of a template's routine appear in traces. -/
def fileFor (origin : Origin) : Text :=
  "<kiln " ++ (firstGiven? [origin.file, origin.name]).getD "template" ++ ">"

/-- The template line of a generated line, if there is such a line. -/
def originOf (routine : Routine) (line : Nat) : Option Int := originAt routine.origins line

/-- The body of a routine whose script says more than can be run: it fails. -/
def unsupported : List Script.Stmt := [.fail 1 (some (.name 1 "NotImplementedError"))]

/-- The body of the routine that the factory of a script defines. -/
def bodyOf : Option (List Script.Stmt) → List Script.Stmt
  | some [.define _ _ _ (.define _ _ _ body :: _)] => body
  | _ => unsupported

/-- Read a sheet as a routine. -/
def ofSheet (origin : Origin) (sheet : Sheet) : Except CompileError Routine :=
  let text := sheet.toText
  if text.contains '\x00' then .error .nullCharacter
  else match Script.readScript text with
    | .error refusal =>
      .error (.flawed (.rejected refusal.blame refusal.message (originAt sheet.origins refusal.line)))
    | .ok program => .ok ⟨fileFor origin, sheet.origins, text, bodyOf program⟩

/-- Compile a plan. -/
def ofPlan (origin : Origin) (plan : Plan) : Except CompileError Routine :=
  match sheet? plan with
  | none => .error .unbalancedPlan
  | some sheet => ofSheet origin sheet

end Routine
end Stencil
