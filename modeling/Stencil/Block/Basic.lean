import Stencil.Line.Basic

/-!
# Block trees

A template is a tree of output lines, statements and blocks.  A block may be continued by arms, which are
blocks themselves and stand in a flat list on the first block of the chain.
-/

namespace Stencil

mutual

/-- A node of a block tree. -/
inductive Node where
  /-- A text or blank line, which is output. -/
  | leaf (number : Int) (line : Line)
  /-- A directive that neither opens nor closes a block. -/
  | statement (number : Int) (code : Text)
  /-- A block with its arms. -/
  | control (block : Block)
  /-- A node of some other sort, which only a tree built by hand can hold. -/
  | stray (number : Int) (sort : Text)

/-- A block: the line of its opener, its head, its body, its arms and the line of the closer that
ended its own body. -/
inductive Block where
  | mk (number : Int) (head : Text) (body : List Node) (arms : List Block) (stop : Int)

end

deriving instance Repr for Node, Block

namespace Block

/-- Line of the opener. -/
def number : Block → Int
  | mk number _ _ _ _ => number

/-- Text before the opening brace. -/
def head : Block → Text
  | mk _ head _ _ _ => head

/-- The nodes between the opener and the closer. -/
def body : Block → List Node
  | mk _ _ body _ _ => body

/-- The continuations of the block, in order. -/
def arms : Block → List Block
  | mk _ _ _ arms _ => arms

/-- Line of the closer of the block's own body. -/
def stop : Block → Int
  | mk _ _ _ _ stop => stop

/-- The block with one more arm. -/
def addArm : (block arm : Block) → Block
  | mk number head body arms stop, arm => mk number head body (arms ++ [arm]) stop

end Block

/-- A whole template: the nodes outside every block, and the template's name. -/
structure Tree where
  body : List Node
  name : Option Text

mutual

/-- The line numbers of a node and of all nodes below it, parents first. -/
def Node.walk : Node → List Int
  | .leaf number _ | .statement number _ | .stray number _ => [number]
  | .control block => block.walk

/-- The line numbers of a block, of its body and of its arms. -/
def Block.walk : Block → List Int
  | .mk number _ body arms _ => number :: (walkNodes body ++ walkBlocks arms)

/-- The line numbers of a list of nodes, each followed by those below it. -/
def walkNodes : List Node → List Int
  | [] => []
  | node :: nodes => node.walk ++ walkNodes nodes

/-- The line numbers of a list of blocks, each followed by those below it. -/
def walkBlocks : List Block → List Int
  | [] => []
  | block :: blocks => block.walk ++ walkBlocks blocks

end

/-- The line numbers of all nodes of a tree, parents first. -/
def Tree.walk (tree : Tree) : List Int := walkNodes tree.body

mutual

/-- The sort of the first stray node at or below a node; arms of arms are not looked at. -/
def Node.stray? : Node → Option Text
  | .leaf _ _ | .statement _ _ => none
  | .stray _ sort => some sort
  | .control (.mk _ _ body arms _) => (strayAmong? body).or (strayInArms? arms)

/-- The sort of the first stray node in a list of nodes. -/
def strayAmong? : List Node → Option Text
  | [] => none
  | node :: nodes => node.stray?.or (strayAmong? nodes)

/-- The sort of the first stray node in the bodies of a list of arms. -/
def strayInArms? : List Block → Option Text
  | [] => none
  | .mk _ _ body _ _ :: arms => (strayAmong? body).or (strayInArms? arms)

end

/-- The sort of the first stray node of a tree. -/
def Tree.stray? (tree : Tree) : Option Text := strayAmong? tree.body

end Stencil
