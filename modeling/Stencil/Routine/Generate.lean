import Stencil.Plan.Basic
import Stencil.Routine.Names
import Stencil.Routine.Sheet
import Stencil.Text.Quoted

/-!
# Generating a routine

The instructions of a plan are written one after the other.  Neighbouring literals are joined into one
append, every fragment is assigned to a name before it is appended, the head of an arm goes back to the
level of the block that it continues, and a body in which nothing was written gets a line that does nothing.
-/

namespace Stencil.Routine

/-- One body that is being written. -/
structure BodyFrame where
  /-- Whether anything was written into it. -/
  written : Bool
  /-- Whether it belongs to an arm. -/
  arm : Bool
  deriving DecidableEq, Repr

/-- What has been written, and what is still held back. -/
structure Writing where
  sheet : Sheet
  /-- The innermost body. -/
  frame : BodyFrame
  /-- The bodies around it, innermost first. -/
  outer : List BodyFrame
  /-- Literal text that is not written yet. -/
  held : Text
  /-- The template line of the first literal held back. -/
  heldLine : Int
  /-- The template line of the last instruction. -/
  lastLine : Int
  deriving DecidableEq, Repr

namespace Writing

/-- Write a line into the innermost body. -/
def emit (text : Text) (line : Int) (state : Writing) : Writing :=
  { state with sheet := state.sheet.write text line, frame := { state.frame with written := true } }

/-- The line that appends an expression's text. -/
def appendLine (argument : Text) : Text := appendName ++ ['('] ++ argument ++ [')']

/-- Write the literals that are held back. -/
def flush (state : Writing) : Writing :=
  match state.held with
  | [] => state
  | held => { state.emit (appendLine (Quoted.encode held)) state.heldLine with held := [] }

/-- Write the line that does nothing, if nothing else is in the innermost body. -/
def fill (line : Int) (state : Writing) : Writing :=
  if state.frame.written then state else { state with sheet := state.sheet.write "pass" line }

/-- The converter that a fragment's value goes through. -/
def converter (escape : Bool) : Text := if escape then escapeName else textName

/-- Take an instruction other than a literal, after the literals before it are written; absent when
the instruction ends a block that never began. -/
def stepFlushed (state : Writing) : Instruction → Option Writing
  | .literal _ _ => some state
  | .insert code escape line =>
    some ((state.emit (valueName ++ " = " ++ code) line).emit
      (appendLine (converter escape ++ ['('] ++ valueName ++ [')'])) line)
  | .exec code line => some (state.emit code line)
  | .begin head true line =>
    let filled := state.fill line
    some { filled with
      sheet := filled.sheet.writeAt ((filled.sheet.level : Int) - 1) (head ++ [':']) line,
      frame := ⟨false, true⟩,
      outer := { filled.frame with written := true } :: filled.outer }
  | .begin head false line =>
    let opened := state.emit (head ++ [':']) line
    some { opened with
      sheet := opened.sheet.indent,
      frame := ⟨false, false⟩,
      outer := opened.frame :: opened.outer }
  | .finish line =>
    let filled := state.fill line
    match filled.outer with
    | [] => none
    | frame :: outer =>
      if filled.frame.arm then some { filled with frame := frame, outer := outer }
      else filled.sheet.dedent?.map fun sheet =>
        { filled with sheet := sheet, frame := frame, outer := outer }

/-- Take one instruction. -/
def step (state : Writing) (instruction : Instruction) : Option Writing :=
  let state := { state with lastLine := instruction.line }
  match instruction with
  | .literal text line =>
    some { state with
      held := state.held ++ text,
      heldLine := if state.held.isEmpty then line else state.heldLine }
  | _ => state.flush.stepFlushed instruction

/-- Take a list of instructions. -/
def run (state : Writing) : List Instruction → Option Writing
  | [] => some state
  | instruction :: rest => (state.step instruction).bind fun next => next.run rest

end Writing

/-- The two headers and the four assignments that every routine starts with. -/
def prologue : Sheet :=
  let outer := (Sheet.empty.write
    ("def " ++ factoryName ++ ['('] ++ escapeParameter ++ ", " ++ textParameter ++ "):") 1).indent
  let inner := (outer.write ("def " ++ renderName ++ "(self):") 1).indent
  (((inner.write (escapeName ++ " = " ++ escapeParameter) 1).write
    (textName ++ " = " ++ textParameter) 1).write
    (bufferName ++ " = []") 1).write
    (appendName ++ " = " ++ bufferName ++ ".append") 1

/-- The state after the prologue. -/
def opening : Writing := ⟨prologue, ⟨true, false⟩, [], [], 1, 1⟩

/-- Return the joined output from the routine, and the routine from the factory. -/
def closing (line : Int) (sheet : Sheet) : Option Sheet := do
  let outer ← (sheet.write ("return ''.join(" ++ bufferName ++ [')']) line).dedent?
  (outer.write ("return " ++ renderName) line).dedent?

/-- The sheet of a plan; absent when the plan ends a block that never began, or an arm stands
outside of every block. -/
def sheet? (plan : Plan) : Option Sheet := do
  let state ← opening.run plan.instructions
  let flushed := state.flush
  closing flushed.lastLine flushed.sheet

end Stencil.Routine
