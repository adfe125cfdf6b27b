import Stencil.Block.Basic

/-!
# Render plans

A plan is a block tree written flat: what to append, what to run, and where blocks begin and end.  Arms
stand inside the pair of the block that they continue.
-/

namespace Stencil

/-- One step of a plan, with the template line that it comes from. -/
inductive Instruction where
  /-- Append a text as it is. -/
  | literal (text : Text) (line : Int)
  /-- Append the value of a fragment, escaped or as it is. -/
  | insert (code : Text) (escape : Bool) (line : Int)
  /-- Begin a block; `arm` marks a continuation. -/
  | begin (head : Text) (arm : Bool) (line : Int)
  /-- Run a statement. -/
  | exec (code : Text) (line : Int)
  /-- End a block. -/
  | finish (line : Int)
  deriving DecidableEq, Repr

namespace Instruction

/-- The template line of an instruction. -/
def line : Instruction → Int
  | literal _ line | insert _ _ line | begin _ _ line | exec _ line | finish line => line

/-- Whether an instruction begins or ends a block. -/
def isBracket : Instruction → Bool
  | begin _ _ _ | finish _ => true
  | _ => false

end Instruction

/-- The instructions of a template, with one escaping decision for all of its fragments. -/
structure Plan where
  instructions : List Instruction
  escape : Bool
  name : Option Text
  deriving DecidableEq, Repr

namespace Plan

/-- The instructions that begin or end a block, in order. -/
def brackets (plan : Plan) : List Instruction := plan.instructions.filter Instruction.isBracket

/-- Whether instructions that start inside `depth` blocks end outside all blocks without ever
closing one that is not open. -/
def balancedFrom : (depth : Nat) → List Instruction → Bool
  | depth, [] => depth == 0
  | depth, .begin _ _ _ :: rest => balancedFrom (depth + 1) rest
  | 0, .finish _ :: _ => false
  | depth + 1, .finish _ :: rest => balancedFrom depth rest
  | depth, _ :: rest => balancedFrom depth rest

/-- Whether every block that begins also ends, and in the right order. -/
def isBalanced (plan : Plan) : Bool := balancedFrom 0 plan.brackets

end Plan
end Stencil
