import Mathlib.Data.List.Nodup
import Mathlib.Data.List.Pairwise
import Stencil.Line.Classify
import Stencil.Plan.Layout
import Stencil.Proofs.BlockGrammar
import Stencil.Proofs.LineMap
import Stencil.Proofs.PrintedTree

/-!
# Where blocks lie

When the numbers of the lines ascend, the lines of a block tree lie as its nesting says: everything in a block's body
stands between the opener and the closer of the body, and arms follow one another.  Going through the tree, parents
first, is going through the lines, comments and lone closers left out.
-/

namespace Stencil

/-! ## Nodes of a tree -/

namespace Node

/-- The line of a node; that of its opener for a block. -/
def number : Node → Int
  | leaf number _ | statement number _ | stray number _ => number
  | control block => block.number

/-- The lines at which a node begins and ends: its own, or those of the opener and the closer of a block's body. -/
def ends : Node → List Int
  | leaf number _ | statement number _ | stray number _ => [number]
  | control block => [block.number, block.stop]

end Node

/-- A node occurs in a list of nodes: as one of them, in the body of a block, or as an arm of a block. -/
inductive Occurs (node : Node) : List Node → Prop where
  | among {nodes : List Node} (member : node ∈ nodes) : Occurs node nodes
  | inside {nodes : List Node} {block : Block} (outer : .control block ∈ nodes) (inner : Occurs node block.body) :
      Occurs node nodes
  | arm {nodes : List Node} {block arm : Block} (outer : .control block ∈ nodes) (member : arm ∈ block.arms)
      (inner : Occurs node [.control arm]) : Occurs node nodes

mutual

/-- A node and all nodes below it, parents first. -/
def Node.visits : Node → List Node
  | .leaf number line => [.leaf number line]
  | .statement number code => [.statement number code]
  | .stray number sort => [.stray number sort]
  | .control block => block.visits

/-- A block, the nodes of its body and its arms, each followed by those below it. -/
def Block.visits : Block → List Node
  | .mk number head body arms stop =>
    .control (.mk number head body arms stop) :: (visitNodes body ++ visitBlocks arms)

/-- A list of nodes, each followed by those below it. -/
def visitNodes : List Node → List Node
  | [] => []
  | node :: nodes => node.visits ++ visitNodes nodes

/-- A list of blocks, each followed by the nodes below it. -/
def visitBlocks : List Block → List Node
  | [] => []
  | block :: blocks => block.visits ++ visitBlocks blocks

end

/-- All nodes of a tree, parents first. -/
def Tree.visits (tree : Tree) : List Node := visitNodes tree.body

section Occurs

variable {node : Node} {nodes more : List Node} {block arm : Block}

theorem not_occurs_nil : ¬ Occurs node [] := by
  rintro (member | ⟨outer, -⟩ | ⟨outer, -⟩) <;> simp_all

theorem occurs_append : Occurs node (nodes ++ more) ↔ Occurs node nodes ∨ Occurs node more := by
  constructor
  · intro occurs
    cases occurs with
    | among member => exact (List.mem_append.mp member).imp .among .among
    | inside outer inner => exact (List.mem_append.mp outer).imp (.inside · inner) (.inside · inner)
    | arm outer member inner => exact (List.mem_append.mp outer).imp (.arm · member inner) (.arm · member inner)
  · rintro (occurs | occurs)
    · cases occurs with
      | among member => exact .among (List.mem_append_left _ member)
      | inside outer inner => exact .inside (List.mem_append_left _ outer) inner
      | arm outer member inner => exact .arm (List.mem_append_left _ outer) member inner
    · cases occurs with
      | among member => exact .among (List.mem_append_right _ member)
      | inside outer inner => exact .inside (List.mem_append_right _ outer) inner
      | arm outer member inner => exact .arm (List.mem_append_right _ outer) member inner

theorem occurs_cons {first : Node} : Occurs node (first :: nodes) ↔ Occurs node [first] ∨ Occurs node nodes :=
  @occurs_append node [first] nodes

theorem occurs_control : Occurs node [.control block] ↔ node = .control block ∨ Occurs node block.body ∨
    ∃ arm ∈ block.arms, Occurs node [.control arm] := by
  constructor
  · intro occurs
    cases occurs with
    | among member => exact .inl (List.mem_singleton.mp member)
    | inside outer inner =>
        obtain rfl := Node.control.inj (List.mem_singleton.mp outer)
        exact .inr (.inl inner)
    | arm outer member inner =>
        obtain rfl := Node.control.inj (List.mem_singleton.mp outer)
        exact .inr (.inr ⟨_, member, inner⟩)
  · rintro (rfl | inner | ⟨arm, member, inner⟩)
    · exact .among List.mem_cons_self
    · exact .inside List.mem_cons_self inner
    · exact .arm List.mem_cons_self member inner

/-- A node that is no block is all there is of it. -/
theorem occurs_single {first : Node} (plain : ∀ block, first ≠ .control block) :
    Occurs node [first] ↔ node = first := by
  constructor
  · intro occurs
    cases occurs with
    | among member => exact List.mem_singleton.mp member
    | inside outer inner => exact absurd (List.mem_singleton.mp outer).symm (plain _)
    | arm outer member inner => exact absurd (List.mem_singleton.mp outer).symm (plain _)
  · rintro rfl
    exact .among List.mem_cons_self

theorem occurs_addArm : Occurs node [.control (block.addArm arm)] ↔
    node = .control (block.addArm arm) ∨ Occurs node block.body ∨
      (∃ earlier ∈ block.arms, Occurs node [.control earlier]) ∨
      Occurs node [.control arm] := by
  rw [occurs_control]
  cases block
  simp [Block.addArm, Block.body, Block.arms, or_and_right, exists_or]

end Occurs

/-! ## Visits -/

mutual

theorem Node.mem_visits (found : Node) : ∀ node : Node, found ∈ node.visits ↔ Occurs found [node]
  | .leaf _ _ => by rw [Node.visits, occurs_single (by simp), List.mem_singleton]
  | .statement _ _ => by rw [Node.visits, occurs_single (by simp), List.mem_singleton]
  | .stray _ _ => by rw [Node.visits, occurs_single (by simp), List.mem_singleton]
  | .control block => by rw [Node.visits, Block.mem_visits found block]

theorem Block.mem_visits (found : Node) : ∀ block : Block, found ∈ block.visits ↔ Occurs found [.control block]
  | .mk number head body arms stop => by
      rw [Block.visits, List.mem_cons, List.mem_append, mem_visitNodes found body, mem_visitBlocks found arms,
        occurs_control]
      rfl

theorem mem_visitNodes (found : Node) : ∀ nodes : List Node, found ∈ visitNodes nodes ↔ Occurs found nodes
  | [] => by simp [visitNodes, not_occurs_nil]
  | node :: nodes => by
      rw [visitNodes, List.mem_append, Node.mem_visits found node, mem_visitNodes found nodes, ← occurs_cons]

theorem mem_visitBlocks (found : Node) : ∀ blocks : List Block,
    found ∈ visitBlocks blocks ↔ ∃ block ∈ blocks, Occurs found [.control block]
  | [] => by simp [visitBlocks]
  | block :: blocks => by
      rw [visitBlocks, List.mem_append, Block.mem_visits found block, mem_visitBlocks found blocks]
      simp

end

mutual

/-- The walk gives the lines of the nodes that it visits. -/
theorem Node.walk_eq : ∀ node : Node, node.walk = node.visits.map Node.number
  | .leaf _ _ | .statement _ _ | .stray _ _ => rfl
  | .control block => by rw [Node.walk, Node.visits, Block.walk_eq block]

theorem Block.walk_eq : ∀ block : Block, block.walk = block.visits.map Node.number
  | .mk number head body arms stop => by
      rw [Block.walk, Block.visits, List.map_cons, List.map_append, walkNodes_eq body, walkBlocks_eq arms]
      rfl

theorem walkNodes_eq : ∀ nodes : List Node, walkNodes nodes = (visitNodes nodes).map Node.number
  | [] => rfl
  | node :: nodes => by rw [walkNodes, visitNodes, List.map_append, Node.walk_eq node, walkNodes_eq nodes]

theorem walkBlocks_eq : ∀ blocks : List Block, walkBlocks blocks = (visitBlocks blocks).map Node.number
  | [] => rfl
  | block :: blocks => by rw [walkBlocks, visitBlocks, List.map_append, Block.walk_eq block, walkBlocks_eq blocks]

end

theorem walkNodes_append (nodes more : List Node) : walkNodes (nodes ++ more) = walkNodes nodes ++ walkNodes more := by
  induction nodes with
  | nil => rfl
  | cons node nodes ih => simp [walkNodes, ih]

theorem walkBlocks_append (blocks more : List Block) :
    walkBlocks (blocks ++ more) = walkBlocks blocks ++ walkBlocks more := by
  induction blocks with
  | nil => rfl
  | cons block blocks ih => simp [walkBlocks, ih]

theorem walk_addArm (block arm : Block) : (block.addArm arm).walk = block.walk ++ arm.walk := by
  cases block
  simp [Block.addArm, Block.walk, walkBlocks_append, walkBlocks]

/-! ## Lines and their numbers -/

namespace Line

/-- Whether a line has a node of its own: comments and lone closers have none. -/
def hasNode (line : Line) : Bool :=
  match line.directive? with
  | some .comment | some .closer => false
  | _ => true

end Line

/-- The numbers of the lines ascend. -/
def Ascending (lines : List Line) : Prop := (lines.map Line.number).Pairwise (· < ·)

section Ascending

variable {lines whole between : List Line} {first last line other : Line}

theorem Ascending.part (ascending : Ascending whole) (part : lines <:+: whole) : Ascending lines :=
  List.Pairwise.sublist (part.sublist.map Line.number) ascending

theorem Ascending.lt (ascending : Ascending (lines ++ between)) (member : line ∈ lines) (member' : other ∈ between) :
    line.number < other.number := by
  rw [Ascending, List.map_append, List.pairwise_append] at ascending
  exact ascending.2.2 _ (List.mem_map_of_mem member) _ (List.mem_map_of_mem member')

theorem Ascending.behind (ascending : Ascending (lines ++ line :: between)) (member : other ∈ between) :
    line.number < other.number := by
  rw [List.append_cons] at ascending
  exact ascending.lt (by simp) member

theorem Ascending.eq_of_number (ascending : Ascending lines) (member : line ∈ lines) (member' : other ∈ lines)
    (same : line.number = other.number) : line = other := by
  have distinct : (lines.map Line.number).Nodup := List.Pairwise.imp Int.ne_of_lt ascending
  exact List.inj_on_of_nodup_map distinct member member' same

theorem Ascending.inner (ascending : Ascending (first :: (between ++ [last]))) :
    first.number < last.number ∧ ∀ line ∈ between, first.number < line.number ∧ line.number < last.number := by
  have pairs : (first :: (between ++ [last])).Pairwise fun line other => line.number < other.number :=
    List.pairwise_map.mp ascending
  rw [List.pairwise_cons, List.pairwise_append] at pairs
  obtain ⟨behind, -, -, before⟩ := pairs
  refine ⟨behind last (by simp), fun line member => ⟨behind line (by simp [member]), ?_⟩⟩
  exact before line member last (by simp)

/-- A line between two others stands between them. -/
theorem Ascending.mem_of_between (ascending : Ascending whole) (part : first :: (between ++ [last]) <:+: whole)
    (member : line ∈ whole) (behind : first.number < line.number) (before : line.number < last.number) :
    line ∈ between := by
  obtain ⟨front, back, rfl⟩ := part
  have pairs := List.pairwise_map.mp ascending
  rw [List.pairwise_append, List.pairwise_append] at pairs
  obtain ⟨⟨-, -, fronts⟩, -, backs⟩ := pairs
  rcases List.mem_append.mp member with member | late
  · rcases List.mem_append.mp member with early | middle
    · exact absurd (fronts line early first (by simp)) (by omega)
    · rcases List.mem_cons.mp middle with rfl | middle
      · omega
      · rcases List.mem_append.mp middle with inside | final
        · exact inside
        · rw [List.mem_singleton.mp final] at before
          omega
  · exact absurd (backs last (by simp) line late) (by omega)

/-- Reading a source gives lines with ascending numbers. -/
theorem Line.ascending_of_classifyFrom {marker : Text} {number : Int} {raws : List RawLine}
    (read : classifyFrom marker number raws = .ok lines) :
    Ascending lines ∧ ∀ line ∈ lines, number ≤ line.number := by
  induction raws generalizing number lines with
  | nil =>
      cases read
      exact ⟨.nil, by simp⟩
  | cons raw raws ih =>
      rw [classifyFrom] at read
      split at read
      · cases read
      · rename_i line first
        split at read
        · cases read
        · rename_i others rest
          cases read
          obtain ⟨ascending, later⟩ := ih rest
          have own : line.number = number := number_of_classify first
          refine ⟨List.pairwise_cons.mpr ⟨?_, ascending⟩, ?_⟩
          · intro found member
            obtain ⟨other, inside, rfl⟩ := List.mem_map.mp member
            have := later other inside
            omega
          · intro other member
            rcases List.mem_cons.mp member with rfl | inside
            · omega
            · have := later other inside
              omega

end Ascending

/-! ## The walk through the lines -/

theorem Joint.nodeLines {ender opener : Line} {joining : List Line} {head : Text}
    (joint : Joint ender joining opener head) : joining.filter Line.hasNode = [opener] := by
  cases joint with
  | same reopens => simp [Line.hasNode, reopens]
  | @behind comments opener head closes quiet opens =>
      have silent : comments.filter Line.hasNode = [] := by
        refine List.filter_eq_nil_iff.mpr fun line member => ?_
        simp [Line.hasNode, quiet line member]
      simp [Line.hasNode, closes, opens, silent]

mutual

/-- The walk goes through the lines that have nodes. -/
theorem Spells.walk : ∀ {lines : List Line} {nodes : List Node}, Spells lines nodes →
    walkNodes nodes = (lines.filter Line.hasNode).map Line.number
  | _, _, .nil => rfl
  | _, _, .comment before found => by
      rw [before.walk]
      simp [Line.hasNode, found]
  | _, _, .output before found => by
      rw [walkNodes_append, before.walk]
      simp [Line.hasNode, found, walkNodes, Node.walk]
  | _, _, .statement before found => by
      rw [walkNodes_append, before.walk]
      simp [Line.hasNode, found, walkNodes, Node.walk]
  | _, _, .chain before chain closes => by
      rw [walkNodes_append, before.walk]
      simp [Line.hasNode, closes, walkNodes, Node.walk, chain.walk]

theorem SpellsChain.walk : ∀ {lines : List Line} {ender : Line} {block : Block}, SpellsChain lines ender block →
    block.walk = (lines.filter Line.hasNode).map Line.number
  | _, _, _, .block opens inside _ => by
      rw [Block.walk, inside.walk]
      simp [Line.hasNode, opens, walkBlocks]
  | _, _, _, .arm before joint inside _ => by
      rw [walk_addArm, before.walk, Block.walk, inside.walk]
      simp [joint.nodeLines, walkBlocks]

end

/-! ## The places of blocks -/

/-- How an arm follows the block before it in its chain, whose body was closed on a line: on the same line just if that
line opens the arm itself, and otherwise with nothing but comments in between. -/
structure Block.Follows (lines : List Line) (stop : Int) (arm : Block) : Prop where
  behind : stop ≤ arm.number
  joined : stop = arm.number ↔
    ∃ line ∈ lines, line.number = arm.number ∧ line.directive? = some (.reopener arm.head)
  comments : ∀ line ∈ lines, stop < line.number → line.number < arm.number → line.directive? = some .comment

/-- Every arm follows the block before it; the first one follows a block whose body was closed on a line. -/
def FollowOn (lines : List Line) : (stop : Int) → (arms : List Block) → Prop
  | _, [] => True
  | stop, arm :: arms => arm.Follows lines stop ∧ FollowOn lines arm.stop arms

/-- A block lies where its nesting says: its arms have no arms, its body stands between its opener and its closer, and
its arms follow one another. -/
structure Block.Placed (lines : List Line) (block : Block) : Prop where
  flat : ∀ arm ∈ block.arms, arm.arms = []
  closed : block.number < block.stop
  within : ∀ node, Occurs node block.body → ∀ line ∈ node.ends, block.number < line ∧ line < block.stop
  chained : FollowOn lines block.stop block.arms

/-- A node begins and ends on some lines of a template, and its blocks lie where their nesting says. -/
def Node.PlacedIn (whole lines : List Line) (node : Node) : Prop :=
  (∀ line ∈ node.ends, line ∈ lines.map Line.number) ∧ ∀ block, node = .control block → block.Placed whole

section Places

variable {whole lines more within joining : List Line} {opener ender earlier : Line} {node : Node} {head : Text}
  {body : List Node} {chain arm : Block} {stop : Int}

theorem Node.PlacedIn.mono (placed : node.PlacedIn whole lines) (part : lines ⊆ more) : node.PlacedIn whole more :=
  ⟨fun line member => List.map_subset _ part (placed.1 line member), placed.2⟩

theorem Node.placedIn_line {line : Line} (plain : ∀ block, node ≠ .control block) (ends : node.ends = [line.number])
    (member : line ∈ lines) : node.PlacedIn whole lines := by
  refine ⟨fun number inside => ?_, fun block same => absurd same (plain block)⟩
  rw [ends, List.mem_singleton] at inside
  exact inside ▸ List.mem_map_of_mem member

theorem followOn_snoc (arms : List Block) : FollowOn lines stop (arms ++ [arm]) ↔
    FollowOn lines stop arms ∧ arm.Follows lines (lastStop stop arms) := by
  induction arms generalizing stop with
  | nil => simp [FollowOn, lastStop]
  | cons first arms ih =>
      have last : lastStop first.stop arms = lastStop stop (first :: arms) := by
        cases arms with
        | nil => rfl
        | cons second arms => simp [lastStop, List.getLast?_cons]
      rw [List.cons_append, FollowOn, FollowOn, ih, last, and_assoc]

theorem lastStop_addArm : lastStop (chain.addArm arm).stop (chain.addArm arm).arms = arm.stop := by
  cases chain
  simp [Block.addArm, Block.arms, lastStop]

/-- The opener of an arm follows the closer that the joint starts with. -/
theorem Joint.follows (ascending : Ascending whole) (joint : Joint earlier joining opener head)
    (part : joining <:+: whole) : Block.Follows whole earlier.number (.mk opener.number head body [] stop) := by
  have member : opener ∈ whole := by
    refine part.subset ?_
    cases joint <;> simp
  cases joint with
  | same reopens =>
      refine ⟨Int.le_refl _, iff_of_true rfl ⟨_, member, rfl, reopens⟩, fun line _ behind before => ?_⟩
      exact absurd (Int.lt_trans behind before) (Int.lt_irrefl _)
  | @behind comments opener head closes quiet opens =>
      have between := (ascending.part part).inner
      refine ⟨Int.le_of_lt between.1, iff_of_false (Int.ne_of_lt between.1) ?_, fun line inside behind before => ?_⟩
      · rintro ⟨line, inside, same, reopens⟩
        rw [ascending.eq_of_number inside member same, opens] at reopens
        cases reopens
      · exact quiet line (ascending.mem_of_between part inside behind before)

/-- A block whose body is spelled between its opener and its closer lies there. -/
theorem placed_of_spelled (ascending : Ascending whole) (part : opener :: (within ++ [ender]) <:+: whole)
    (inside : ∀ node, Occurs node body → node.PlacedIn whole within) :
    Block.Placed whole (.mk opener.number head body [] ender.number) where
  flat arm member := absurd member List.not_mem_nil
  closed := (ascending.part part).inner.1
  within node occurs number member := by
    obtain ⟨line, spelled, rfl⟩ := List.mem_map.mp ((inside node occurs).1 number member)
    exact (ascending.part part).inner.2 line spelled
  chained := trivial

/-- A chain with one more arm lies where its nesting says. -/
theorem Block.Placed.addArm (placed : chain.Placed whole) (flat : arm.arms = [])
    (follows : arm.Follows whole (lastStop chain.stop chain.arms)) : (chain.addArm arm).Placed whole := by
  obtain ⟨flats, closed, within, chained⟩ := placed
  cases chain with
  | mk number head body arms stop =>
      refine ⟨fun other member => ?_, closed, within, (followOn_snoc arms).mpr ⟨chained, follows⟩⟩
      rcases List.mem_append.mp member with member | member
      · exact flats other member
      · rwa [List.mem_singleton.mp member]

end Places

mutual

/-- The nodes that some lines of a template spell begin and end on these lines. -/
theorem Spells.placed {whole : List Line} (ascending : Ascending whole) : ∀ {lines : List Line} {nodes : List Node},
    Spells lines nodes → lines <:+: whole → ∀ node, Occurs node nodes → node.PlacedIn whole lines
  | _, _, .nil, _, _, occurs => absurd occurs not_occurs_nil
  | _, _, .comment before _, part, node, occurs =>
      (before.placed ascending ((List.infix_append' [] _ _).trans part) node occurs).mono (by simp)
  | _, _, .output before _, part, node, occurs => by
      rcases occurs_append.mp occurs with early | last
      · exact (before.placed ascending ((List.infix_append' [] _ _).trans part) node early).mono (by simp)
      · obtain rfl := (occurs_single (by simp)).mp last
        exact Node.placedIn_line (by simp) rfl (by simp)
  | _, _, .statement before _, part, node, occurs => by
      rcases occurs_append.mp occurs with early | last
      · exact (before.placed ascending ((List.infix_append' [] _ _).trans part) node early).mono (by simp)
      · obtain rfl := (occurs_single (by simp)).mp last
        exact Node.placedIn_line (by simp) rfl (by simp)
  | _, _, .chain before chain _, part, node, occurs => by
      rcases occurs_append.mp occurs with early | last
      · exact (before.placed ascending ((List.infix_append' [] _ _).trans part) node early).mono (by simp)
      · refine ((chain.placed ascending ?_).2 node last).mono (by simp)
        exact (List.suffix_append _ _).isInfix.trans part

/-- The last closer of a chain ends its last block, and its nodes begin and end on its lines. -/
theorem SpellsChain.placed {whole : List Line} (ascending : Ascending whole) :
    ∀ {lines : List Line} {ender : Line} {block : Block}, SpellsChain lines ender block →
      lines ++ [ender] <:+: whole → lastStop block.stop block.arms = ender.number ∧
        ∀ node, Occurs node [.control block] → node.PlacedIn whole (lines ++ [ender])
  | _, _, _, @SpellsChain.block opener ender _ within body _ inside _, part => by
      refine ⟨rfl, fun node occurs => ?_⟩
      have body' : ∀ node, Occurs node body → node.PlacedIn whole within := by
        refine inside.placed ascending (List.IsInfix.trans ?_ part)
        exact ⟨[opener], [ender], by simp⟩
      rcases occurs_control.mp occurs with rfl | inner | ⟨arm, member, -⟩
      · refine ⟨?_, fun block same => ?_⟩
        · simp [Node.ends, Block.number, Block.stop]
        · obtain rfl := Node.control.inj same
          exact placed_of_spelled ascending part body'
      · exact (body' node inner).mono (by simp)
      · exact absurd member List.not_mem_nil
  | _, _, _, @SpellsChain.arm lines joining within earlier ender opener chain head body before joint inside _, part => by
      obtain ⟨rest, starts⟩ : ∃ rest, joining = earlier :: rest := by
        cases joint <;> exact ⟨_, rfl⟩
      obtain ⟨front, ends⟩ : ∃ front, joining = front ++ [opener] := by
        cases joint with
        | same => exact ⟨[], rfl⟩
        | behind => exact ⟨_ :: _, rfl⟩
      obtain ⟨stop, chained⟩ :=
        before.placed ascending (List.IsInfix.trans ⟨[], rest ++ within ++ [ender], by simp [starts]⟩ part)
      have body' : ∀ node, Occurs node body → node.PlacedIn whole within := by
        refine inside.placed ascending (List.IsInfix.trans ?_ part)
        exact ⟨lines ++ joining, [ender], by simp⟩
      have arm : Block.Placed whole (.mk opener.number head body [] ender.number) := by
        refine placed_of_spelled ascending (List.IsInfix.trans ?_ part) body'
        exact ⟨lines ++ front, [], by simp [ends]⟩
      have follows :
          Block.Follows whole (lastStop chain.stop chain.arms) (.mk opener.number head body [] ender.number) := by
        rw [stop]
        refine joint.follows ascending (List.IsInfix.trans ?_ part)
        exact ⟨lines, within ++ [ender], by simp⟩
      have first := chained (.control chain) (.among List.mem_cons_self)
      have early : lines ++ [earlier] ⊆ lines ++ (joining ++ within) ++ [ender] := by
        simp [starts]
      refine ⟨lastStop_addArm, fun node occurs => ?_⟩
      rcases occurs_addArm.mp occurs with rfl | inner | ⟨older, member, inner⟩ | last
      · refine ⟨?_, fun block same => ?_⟩
        · have ends := (first.mono early).1
          cases chain
          exact ends
        · obtain rfl := Node.control.inj same
          exact (first.2 chain rfl).addArm rfl follows
      · exact (chained node (.inside List.mem_cons_self inner)).mono early
      · exact (chained node (.arm List.mem_cons_self member inner)).mono early
      · rcases occurs_control.mp last with rfl | inner | ⟨other, member, -⟩
        · refine ⟨?_, fun block same => ?_⟩
          · simp [Node.ends, Block.number, Block.stop, ends]
          · obtain rfl := Node.control.inj same
            exact arm
        · exact (body' node inner).mono fun line member => by simp [member]
        · exact absurd member List.not_mem_nil

end

/-! ## Lines under other numbers -/

/-- Lines under the numbers of their places. -/
def Line.numberedByPlace (lines : List Line) : List Line :=
  lines.mapIdx fun place line => line.renumber fun _ => place

/-- The number of the line at a place. -/
def Line.numberAt (lines : List Line) (place : Int) : Int := ((lines[place.toNat]?).map Line.number).getD 0

theorem Line.ascending_numberedByPlace (lines : List Line) : Ascending (numberedByPlace lines) := by
  refine List.pairwise_iff_getElem.mpr fun first second inside inside' before => ?_
  simpa [numberedByPlace, Line.renumber] using before

theorem Line.renumber_numberedByPlace (lines : List Line) :
    (numberedByPlace lines).map (Line.renumber (numberAt lines)) = lines := by
  refine List.ext_getElem (by simp [numberedByPlace]) fun place inside inside' => ?_
  simp [numberedByPlace, numberAt, Line.renumber, inside']

/-- Reading a source numbers its lines upwards.  When the lines of an accepted template are numbered upwards, every
block and every arm of its tree lies where its nesting says, and the walk visits every node of the tree once, through
ascending lines: all but the comments and the lone closers.  Lines under other numbers have the tree of the same lines
under the numbers of their places, with the other numbers in it. -/
theorem blocks_lie_as_nested :
    (∀ marker source lines, Line.ofSource marker source = .ok lines → Ascending lines) ∧
      (∀ name lines tree, Ascending lines → Tree.ofLines name lines = .ok tree →
        (∀ block, Occurs (.control block) tree.body → block.Placed lines) ∧
        (tree.walk = tree.visits.map Node.number ∧ tree.visits.Nodup ∧
          ∀ node, node ∈ tree.visits ↔ Occurs node tree.body) ∧
        tree.walk.Pairwise (· < ·) ∧ tree.walk = (lines.filter Line.hasNode).map Line.number) ∧
      ∀ name lines tree, Tree.ofLines name lines = .ok tree →
        Ascending (Line.numberedByPlace lines) ∧
        ∃ placed, Tree.ofLines name (Line.numberedByPlace lines) = .ok placed ∧
          placed.renumber (Line.numberAt lines) = tree := by
  refine ⟨fun marker source lines read => (Line.ascending_of_classifyFrom read).1,
    fun name lines tree ascending accepted => ?_,
    fun name lines tree accepted => ⟨Line.ascending_numberedByPlace lines, ?_⟩⟩
  · have spells := spells_of_ofLines accepted
    have visits : tree.walk = tree.visits.map Node.number := walkNodes_eq tree.body
    have walk : tree.walk = (lines.filter Line.hasNode).map Line.number := spells.walk
    have upwards : tree.walk.Pairwise (· < ·) := by
      rw [walk]
      exact List.Pairwise.sublist (List.filter_sublist.map Line.number) ascending
    refine ⟨fun block occurs => ?_, ⟨visits, ?_, fun node => mem_visitNodes node tree.body⟩, upwards, walk⟩
    · exact (spells.placed ascending List.infix_rfl _ occurs).2 block rfl
    · rw [visits] at upwards
      exact List.Nodup.of_map Node.number (List.Pairwise.imp Int.ne_of_lt upwards)
  · have other := ofLines_renumber (Line.numberAt lines) name (Line.numberedByPlace lines)
    rw [Line.renumber_numberedByPlace, accepted] at other
    cases matched : Tree.ofLines name (Line.numberedByPlace lines) with
    | error flaw =>
        rw [matched] at other
        cases other
    | ok placed =>
        rw [matched] at other
        exact ⟨placed, rfl, (Except.ok.inj other).symm⟩

theorem armedLines_lie_as_nested :
    Line.ofSource ['%'] "% if a \x7b\nx\n% \x7d\n% # or\n% else \x7b\n\n% \x7d\n" = .ok armedLines ∧
      Ascending armedLines ∧ Tree.ofLines none armedLines = .ok armedTree ∧ armedTree.walk = [1, 2, 5, 6] ∧
        ∀ block, Occurs (.control block) armedTree.body → block.Placed armedLines := by
  have read : Line.ofSource ['%'] "% if a \x7b\nx\n% \x7d\n% # or\n% else \x7b\n\n% \x7d\n" = .ok armedLines := by
    decide +kernel
  have accepted : Tree.ofLines none armedLines = .ok armedTree := rfl
  have ascending : Ascending armedLines := blocks_lie_as_nested.1 _ _ _ read
  obtain ⟨placed, -, -, walk⟩ := blocks_lie_as_nested.2.1 _ _ _ ascending accepted
  exact ⟨read, ascending, accepted, walk, placed⟩

end Stencil
