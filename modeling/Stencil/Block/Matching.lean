import Stencil.Block.Basic
import Stencil.Directive
import Stencil.Flaw

/-!
# Matching braces

Classified lines become a block tree.  An opener that follows a closer directly, comments aside, continues
the block just closed as an arm; after text in between it starts a block of its own, which is refused when
its head starts with a continuation word.
-/

namespace Stencil

/-- A block whose closer has not been reached. -/
structure OpenBlock where
  head : Text
  number : Int
  /-- The nodes found so far. -/
  body : List Node
  /-- The first block of the chain that this block continues. -/
  chain : Option Block

namespace OpenBlock

/-- The block, closed at a line. -/
def close (stop : Int) (block : OpenBlock) : Block :=
  .mk block.number block.head block.body [] stop

end OpenBlock

/-- What is known after some lines. -/
structure Matching where
  /-- The finished nodes outside every open block. -/
  root : List Node
  /-- The open blocks, innermost first. -/
  stack : List OpenBlock
  /-- The closed chain that an opener on this line would continue. -/
  pending : Option Block
  /-- The closing line of the chain that text has just ended. -/
  gap : Option Int

namespace Matching

/-- The state before the first line. -/
def start : Matching := ⟨[], [], none, none⟩

/-- Add a node to the innermost open body. -/
def add (node : Node) (state : Matching) : Matching :=
  match state.stack with
  | [] => { state with root := state.root ++ [node] }
  | block :: blocks => { state with stack := { block with body := block.body ++ [node] } :: blocks }

/-- Put the pending chain into the innermost open body, so that no more arms can join it. -/
def settle (state : Matching) : Matching :=
  match state.pending with
  | none => state
  | some block => { state.add (.control block) with pending := none }

/-- Take a line that is output. -/
def output (line : Line) (state : Matching) : Matching :=
  match state.pending with
  | none => state.add (.leaf line.number line)
  | some block => { state.settle with gap := some block.stop }.add (.leaf line.number line)

/-- Close the innermost block. -/
def closeBlock (number : Int) (state : Matching) : Except Flaw Matching :=
  let state := state.settle
  match state.stack with
  | [] => .error (.unmatchedCloser number)
  | block :: blocks =>
    let closed := block.close number
    let pending := match block.chain with
      | none => closed
      | some chain => chain.addArm closed
    .ok { state with stack := blocks, pending := some pending }

/-- Open a block. -/
def openBlock (number : Int) (head : Text) (state : Matching) : Except Flaw Matching :=
  match state.pending with
  | some chain =>
    .ok { state with pending := none, stack := ⟨head, number, [], some chain⟩ :: state.stack }
  | none =>
    let opened := { state with stack := ⟨head, number, [], none⟩ :: state.stack }
    match state.gap with
    | none => .ok opened
    | some closer =>
      if Directive.isContinuation head then .error (.separatedArm head closer number)
      else .ok opened

/-- Forget the chain that text has ended. -/
def closeGap (state : Matching) : Matching := { state with gap := none }

/-- Take a directive. -/
def direct (number : Int) (state : Matching) : Directive → Except Flaw Matching
  | .comment => .ok state
  | .closer => (state.closeBlock number).map closeGap
  | .reopener head => do
    let closed ← state.closeBlock number
    (closed.openBlock number head).map closeGap
  | .malformed rest => .error (.malformedCloser rest number)
  | .opener head => (state.openBlock number head).map closeGap
  | .statement code => .ok (state.settle.add (.statement number code)).closeGap

/-- Take one line. -/
def step (state : Matching) (line : Line) : Except Flaw Matching :=
  match line.form with
  | .directive statement => state.direct line.number (.ofStatement statement)
  | _ => .ok (state.output line)

/-- Take a list of lines, up to the first flaw. -/
def run (state : Matching) : List Line → Except Flaw Matching
  | [] => .ok state
  | line :: lines => match state.step line with
    | .error flaw => .error flaw
    | .ok next => next.run lines

/-- The nodes of the whole template, when no block is open. -/
def finish (state : Matching) : Except Flaw (List Node) :=
  let state := state.settle
  match state.stack with
  | [] => .ok state.root
  | block :: _ => .error (.unclosedBlock block.head block.number)

end Matching

/-- The block tree of a list of lines. -/
def Tree.ofLines (name : Option Text) (lines : List Line) : Except Flaw Tree :=
  match Matching.start.run lines with
  | .error flaw => .error flaw
  | .ok state => match state.finish with
    | .error flaw => .error flaw
    | .ok body => .ok ⟨body, name⟩

end Stencil
