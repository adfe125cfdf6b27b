import Stencil.Plan.Basic

/-!
# Laying out a block tree as a plan

A node before its successors, a block's body before its arms; the pair of a block closes at the line of its
last closer, which may be that of an arm.
-/

namespace Stencil

/-- The instructions of one part of a text line. -/
def Part.instructions (escape : Bool) (number : Int) : Part → List Instruction
  | .literal [] => []
  | .literal text => [.literal text number]
  | .fragment inserted => [.insert inserted.code escape number]

/-- The instructions of an output line: its parts, then its terminator. -/
def Line.instructions (escape : Bool) (line : Line) : List Instruction :=
  let parts := match line.form with
    | .text parts => parts.flatMap (Part.instructions escape line.number)
    | _ => []
  parts ++ if line.terminator.isEmpty then [] else [.literal line.terminator line.number]

/-- The line at which a block with its arms is over. -/
def lastStop (stop : Int) (arms : List Block) : Int :=
  match arms.getLast? with
  | none => stop
  | some arm => arm.stop

mutual

/-- The instructions of a node; a stray node has none. -/
def Node.instructions (escape : Bool) : Node → List Instruction
  | .leaf _ line => line.instructions escape
  | .statement number code => [.exec code number]
  | .stray _ _ => []
  | .control (.mk number head body arms stop) =>
    .begin head false number :: (nodeInstructions escape body ++ armInstructions escape arms
      ++ [.finish (lastStop stop arms)])

/-- The instructions of a list of nodes. -/
def nodeInstructions (escape : Bool) : List Node → List Instruction
  | [] => []
  | node :: nodes => node.instructions escape ++ nodeInstructions escape nodes

/-- The instructions of a list of arms. -/
def armInstructions (escape : Bool) : List Block → List Instruction
  | [] => []
  | .mk number head body _ stop :: arms =>
    .begin head true number :: (nodeInstructions escape body ++ [.finish stop])
      ++ armInstructions escape arms

end

/-- The plan of a block tree. -/
def Tree.plan (escape : Bool) (tree : Tree) : Plan :=
  ⟨nodeInstructions escape tree.body, escape, tree.name⟩

end Stencil
