import Stencil.Proofs.BlockGeometry
import Stencil.Proofs.LineOrder

/-!
# Brackets of plans

Counting the blocks that are open decides whether the begins and ends of a plan are well-formed brackets.  The plan of
an accepted template is more than that: it has a begin for every opener and an end for every closer, and the arms of a
chain are the last pairs inside the pair of the block that starts it.
-/

namespace Stencil

/-- Whether an instruction begins a block. -/
def Instruction.isBegin : Instruction → Bool
  | .begin _ _ _ => true
  | _ => false

namespace Line

/-- Whether a line opens a block. -/
def isOpener (line : Line) : Bool :=
  match line.directive? with
  | some (.opener _) | some (.reopener _) => true
  | _ => false

/-- Whether a line closes a block. -/
def isCloser (line : Line) : Bool :=
  match line.directive? with
  | some .closer | some (.reopener _) => true
  | _ => false

end Line

/-! ## Words of brackets -/

/-- The words of well-formed brackets: nothing, or a begin, a word, an end and another word. -/
inductive Dyck : List Instruction → Prop where
  | nil : Dyck []
  | pair {head : Text} {arm : Bool} {number stop : Int} {inner rest : List Instruction} (inside : Dyck inner)
      (behind : Dyck rest) : Dyck (.begin head arm number :: (inner ++ .finish stop :: rest))

theorem Dyck.append {word more : List Instruction} (first : Dyck word) (second : Dyck more) : Dyck (word ++ more) := by
  induction first with
  | nil => exact second
  | pair inside behind _ ih =>
      rw [List.cons_append, List.append_assoc, List.cons_append]
      exact .pair inside ih

namespace Plan

/-- A word of brackets leaves the count of open blocks as it is. -/
theorem balancedFrom_dyck {word : List Instruction} (dyck : Dyck word) (depth : Nat) (rest : List Instruction) :
    balancedFrom depth (word ++ rest) = balancedFrom depth rest := by
  induction dyck generalizing depth rest with
  | nil => rfl
  | pair inside behind ihInside ihBehind =>
      rw [List.cons_append, List.append_assoc, List.cons_append, balancedFrom, ihInside, balancedFrom, ihBehind]

/-- Brackets with a number of blocks open before them: words, with an end of one of those blocks behind each but the
last. -/
inductive Closing : Nat → List Instruction → Prop where
  | last {word : List Instruction} (dyck : Dyck word) : Closing 0 word
  | block {depth : Nat} {stop : Int} {inner rest : List Instruction} (inside : Dyck inner)
      (behind : Closing depth rest) : Closing (depth + 1) (inner ++ .finish stop :: rest)

theorem Closing.pair {depth : Nat} {head : Text} {arm : Bool} {number stop : Int} {inner rest : List Instruction}
    (inside : Dyck inner) (behind : Closing depth rest) :
    Closing depth (.begin head arm number :: (inner ++ .finish stop :: rest)) := by
  cases behind with
  | last dyck => exact .last (.pair inside dyck)
  | @block depth stop' inner' rest within outer =>
      have widened := @Closing.block depth stop' _ rest (@Dyck.pair head arm number stop inner inner' inside within) outer
      simpa using widened

/-- A begin opens one more block, so behind it is a word up to the end of that block. -/
theorem closing_of_balancedFrom {word : List Instruction} {depth : Nat}
    (brackets : ∀ instruction ∈ word, instruction.isBracket = true) (balanced : balancedFrom depth word = true) :
    Closing depth word := by
  induction word generalizing depth with
  | nil =>
      cases depth with
      | zero => exact .last .nil
      | succ depth => cases balanced
  | cons first word ih =>
      have others : ∀ instruction ∈ word, instruction.isBracket = true :=
        fun instruction member => brackets instruction (List.mem_cons_of_mem _ member)
      cases first with
      | literal | insert | exec => cases brackets _ List.mem_cons_self
      | begin head arm number =>
          have open_ : Closing (depth + 1) word := ih others balanced
          cases open_ with
          | block inside behind => exact behind.pair inside
      | finish stop =>
          cases depth with
          | zero => cases balanced
          | succ depth => exact .block .nil (ih others balanced)

theorem isBalanced_iff (plan : Plan) : plan.isBalanced = true ↔ Dyck plan.brackets := by
  constructor
  · intro balanced
    cases closing_of_balancedFrom (fun _ member => (List.mem_filter.mp member).2) balanced with
    | last dyck => exact dyck
  · intro dyck
    have ended := balancedFrom_dyck dyck 0 []
    rw [List.append_nil] at ended
    exact ended

end Plan

/-! ## The layout of arms -/

/-- Instructions as blocks are laid out.  Among nodes there are pairs of blocks, each with the pairs of its arms as the
last of what is inside; among arms there are pairs of arms and nothing else. -/
inductive Laid : (arms : Bool) → List Instruction → Prop where
  | nil {arms : Bool} : Laid arms []
  | single {instruction : Instruction} {rest : List Instruction} (plain : instruction.isBracket = false)
      (behind : Laid false rest) : Laid false (instruction :: rest)
  | block {head : Text} {number stop : Int} {body arms rest : List Instruction} (inside : Laid false body)
      (continued : Laid true arms) (behind : Laid false rest) :
      Laid false (.begin head false number :: (body ++ (arms ++ .finish stop :: rest)))
  | arm {head : Text} {number stop : Int} {body rest : List Instruction} (inside : Laid false body)
      (behind : Laid true rest) : Laid true (.begin head true number :: (body ++ .finish stop :: rest))

theorem Laid.append {arms : Bool} {instructions more : List Instruction} (first : Laid arms instructions)
    (second : Laid arms more) : Laid arms (instructions ++ more) := by
  induction first with
  | nil => exact second
  | single plain _ ih => exact .single plain (ih second)
  | block inside continued _ _ _ ih =>
      rw [List.cons_append, List.append_assoc, List.append_assoc, List.cons_append]
      exact .block inside continued (ih second)
  | arm inside _ _ ih =>
      rw [List.cons_append, List.append_assoc, List.cons_append]
      exact .arm inside (ih second)

/-- The begins and ends of what is laid out are well-formed brackets. -/
theorem Laid.dyck {arms : Bool} {instructions : List Instruction} (laid : Laid arms instructions) :
    Dyck (instructions.filter Instruction.isBracket) := by
  induction laid with
  | nil => exact .nil
  | single plain _ ih =>
      rw [List.filter_cons, if_neg (by simp [plain])]
      exact ih
  | @block head number stop body arms rest _ _ _ inside continued behind =>
      have pair : Dyck (.begin head false number :: (_ ++ .finish stop :: _)) := .pair (inside.append continued) behind
      simpa [List.filter_cons, Instruction.isBracket] using pair
  | @arm head number stop body rest _ _ inside behind =>
      have pair : Dyck (.begin head true number :: (_ ++ .finish stop :: _)) := .pair inside behind
      simpa [List.filter_cons, Instruction.isBracket] using pair

theorem plain_of_line {escape : Bool} {line : Line} {instruction : Instruction}
    (member : instruction ∈ line.instructions escape) : instruction.isBracket = false := by
  unfold Line.instructions at member
  rcases List.mem_append.mp member with inside | last
  · split at inside
    · obtain ⟨part, -, made⟩ := List.mem_flatMap.mp inside
      unfold Part.instructions at made
      split at made
      · cases made
      · rw [List.mem_singleton.mp made]
        rfl
      · rw [List.mem_singleton.mp made]
        rfl
    · cases inside
  · split at last
    · cases last
    · rw [List.mem_singleton.mp last]
      rfl

theorem laid_of_plain {instructions : List Instruction}
    (plain : ∀ instruction ∈ instructions, instruction.isBracket = false) : Laid false instructions := by
  induction instructions with
  | nil => exact .nil
  | cons first rest ih =>
      exact .single (plain first List.mem_cons_self) (ih fun other member => plain other (List.mem_cons_of_mem _ member))

mutual

theorem Node.laid (escape : Bool) : ∀ node : Node, Laid false (node.instructions escape)
  | .leaf number line => laid_of_plain fun _ => plain_of_line
  | .statement number code => .single rfl .nil
  | .stray number sort => .nil
  | .control (.mk number head body arms stop) => by
      rw [Node.instructions, List.append_assoc]
      exact .block (laid_nodes escape body) (laid_arms escape arms) .nil

theorem laid_nodes (escape : Bool) : ∀ nodes : List Node, Laid false (nodeInstructions escape nodes)
  | [] => .nil
  | node :: nodes => (Node.laid escape node).append (laid_nodes escape nodes)

theorem laid_arms (escape : Bool) : ∀ arms : List Block, Laid true (armInstructions escape arms)
  | [] => .nil
  | .mk number head body _ stop :: arms => by
      rw [armInstructions, List.cons_append, List.append_assoc]
      exact .arm (laid_nodes escape body) (laid_arms escape arms)

end

/-! ## Openers and closers -/

theorem counts_of_line (escape : Bool) (line : Line) :
    (line.instructions escape).countP Instruction.isBegin = 0 ∧
      (line.instructions escape).countP Instruction.isFinish = 0 := by
  constructor <;>
  · refine List.countP_eq_zero.mpr fun instruction member => ?_
    have plain := plain_of_line member
    cases instruction with
    | begin | finish => cases plain
    | literal | insert | exec => exact Bool.false_ne_true

theorem Joint.counts {ender opener : Line} {joining : List Line} {head : Text}
    (joint : Joint ender joining opener head) :
    joining.countP Line.isOpener = 1 ∧ joining.countP Line.isCloser = 1 := by
  cases joint with
  | same reopens => simp [Line.isOpener, Line.isCloser, reopens]
  | @behind comments opener head closes quiet opens =>
      have silent : comments.countP Line.isOpener = 0 ∧ comments.countP Line.isCloser = 0 := by
        constructor <;>
        · refine List.countP_eq_zero.mpr fun line member => ?_
          simp [Line.isOpener, Line.isCloser, quiet line member]
      simp [Line.isOpener, Line.isCloser, closes, opens, silent]

/-- One more arm is one more begin and one more end, with what is inside. -/
theorem countP_addArm (escape : Bool) (counted : Instruction → Bool)
    (anywhere : ∀ line other, counted (.finish line) = counted (.finish other)) (chain : Block) (number stop : Int)
    (head : Text) (body : List Node) :
    (nodeInstructions escape [.control (chain.addArm (.mk number head body [] stop))]).countP counted =
      (nodeInstructions escape [.control chain]).countP counted +
        ([.begin head true number, .finish stop].countP counted + (nodeInstructions escape body).countP counted) := by
  cases chain with
  | mk first firstHead firstBody arms firstStop =>
      have last := anywhere (lastStop firstStop (arms ++ [.mk number head body [] stop])) (lastStop firstStop arms)
      simp only [Block.addArm, nodeInstructions, Node.instructions, armInstructions_append, armInstructions,
        List.countP_append, List.countP_cons, List.countP_nil, List.append_nil, last]
      omega

mutual

/-- What lines spell has a begin for every opener and an end for every closer among them. -/
theorem Spells.counts (escape : Bool) : ∀ {lines : List Line} {nodes : List Node}, Spells lines nodes →
    (nodeInstructions escape nodes).countP Instruction.isBegin = lines.countP Line.isOpener ∧
      (nodeInstructions escape nodes).countP Instruction.isFinish = lines.countP Line.isCloser
  | _, _, .nil => ⟨rfl, rfl⟩
  | _, _, .comment before found => by
      simp [before.counts escape, Line.isOpener, Line.isCloser, found]
  | _, _, .output before found => by
      simp [nodeInstructions_append, nodeInstructions, Node.instructions, before.counts escape, counts_of_line,
        Line.isOpener, Line.isCloser, found]
  | _, _, .statement before found => by
      simp [nodeInstructions_append, nodeInstructions, Node.instructions, before.counts escape, Instruction.isBegin,
        Instruction.isFinish, Line.isOpener, Line.isCloser, found]
  | _, _, .chain before chain closes => by
      simp [nodeInstructions_append, before.counts escape, chain.counts escape, Line.isOpener, Line.isCloser, closes]

/-- The last closer of a chain is not among its lines. -/
theorem SpellsChain.counts (escape : Bool) : ∀ {lines : List Line} {ender : Line} {block : Block},
    SpellsChain lines ender block →
      (nodeInstructions escape [.control block]).countP Instruction.isBegin = lines.countP Line.isOpener ∧
        (nodeInstructions escape [.control block]).countP Instruction.isFinish = lines.countP Line.isCloser + 1
  | _, _, _, .block opens inside _ => by
      simp [nodeInstructions, Node.instructions, armInstructions, inside.counts escape, List.countP_cons,
        Instruction.isBegin, Instruction.isFinish, Line.isOpener, Line.isCloser, opens]
  | _, _, _, .arm before joint inside _ => by
      rw [countP_addArm escape _ (fun _ _ => rfl), countP_addArm escape _ (fun _ _ => rfl)]
      simp only [before.counts escape, inside.counts escape, List.countP_append, joint.counts]
      exact ⟨rfl, Nat.add_right_comm _ _ _⟩

end

/-! ## Where arms stand -/

/-- What stands before and behind the begin of an arm in the instructions of a list of nodes.  The pair of the arm is
directly inside the pair of the block that starts its chain.  Between the begin of that block and the arm are the body
of the block and then the pairs of earlier arms, and between the end of the arm and the end of that pair are the pairs
of later arms. -/
inductive ArmPair (escape : Bool) (nodes : List Node) :
    (before : List Instruction) → (head : Text) → (number : Int) → (after : List Instruction) → Prop where
  | inside {block arm : Block} {earlier later : List Block} {outer rest : List Instruction}
      (occurs : Occurs (.control block) nodes) (arms : block.arms = earlier ++ arm :: later)
      (body : Laid false (nodeInstructions escape block.body)) (first : Laid true (armInstructions escape earlier))
      (inner : Laid false (nodeInstructions escape arm.body)) (last : Laid true (armInstructions escape later)) :
      ArmPair escape nodes
        (outer ++ .begin block.head false block.number ::
          (nodeInstructions escape block.body ++ armInstructions escape earlier))
        arm.head arm.number
        (nodeInstructions escape arm.body ++ .finish arm.stop ::
          (armInstructions escape later ++ .finish (lastStop block.stop block.arms) :: rest))

section Arms

variable {escape : Bool} {nodes more : List Node} {before after : List Instruction} {head : Text} {number : Int}

/-- An arm stands in the same way in the instructions of more nodes. -/
theorem ArmPair.mono (pair : ArmPair escape nodes before head number after)
    (among : ∀ node, Occurs node nodes → Occurs node more) (outer rest : List Instruction) :
    ArmPair escape more (outer ++ before) head number (after ++ rest) := by
  cases pair with
  | @inside block arm earlier later outer' rest' occurs arms body first inner last =>
      have wider := @ArmPair.inside escape more block arm earlier later (outer ++ outer') (rest' ++ rest)
        (among _ occurs) arms body first inner last
      simpa using wider

/-- The begin of an arm among the instructions of the arms of a block: it is that of one of them, or it stands in the
body of one of them. -/
def AmongArms (escape : Bool) (arms : List Block) (before : List Instruction) (head : Text) (number : Int)
    (after : List Instruction) : Prop :=
  (∃ earlier arm later, arms = earlier ++ arm :: later ∧ arm.head = head ∧ arm.number = number ∧
    before = armInstructions escape earlier ∧
    after = nodeInstructions escape arm.body ++ .finish arm.stop :: armInstructions escape later) ∨
  ∃ arm ∈ arms, ∃ outer inner behind rest, before = outer ++ inner ∧ after = behind ++ rest ∧
    ArmPair escape arm.body inner head number behind

mutual

theorem Node.armPair : ∀ (node : Node) {before after : List Instruction}, node.instructions escape =
    before ++ .begin head true number :: after → ArmPair escape [node] before head number after
  | .leaf _ line, before, after, same => by
      have member : .begin head true number ∈ line.instructions escape := by
        rw [show line.instructions escape = _ from same]
        exact List.mem_append_right _ List.mem_cons_self
      cases plain_of_line member
  | .statement _ _, before, after, same => by
      cases before with
      | nil => cases (List.cons.inj same).1
      | cons first before => simp [Node.instructions] at same
  | .stray _ _, before, after, same => by simp [Node.instructions] at same
  | .control (.mk first firstHead body arms stop), before, after, same => by
      rw [Node.instructions] at same
      cases before with
      | nil => cases (List.cons.inj same).1
      | cons opening before =>
          obtain ⟨rfl, inner⟩ := List.cons.inj same
          rw [List.append_assoc] at inner
          rcases Braces.append_eq_append_cons.mp inner with ⟨rest, inBody, rfl⟩ | ⟨rest, rfl, behind⟩
          · have among : ∀ node, Occurs node body → Occurs node [.control (.mk first firstHead body arms stop)] :=
              fun node occurs => .inside List.mem_cons_self occurs
            exact (nodes_armPair body inBody).mono among [_] _
          · rcases Braces.append_eq_append_cons.mp behind with ⟨rest', inArms, rfl⟩ | ⟨rest', rfl, atEnd⟩
            · rcases arms_armPair arms inArms with ⟨earlier, arm, later, rfl, rfl, rfl, rfl, rfl⟩ |
                ⟨arm, member, outer, inner, behind, rest'', rfl, rfl, pair⟩
              · have here := @ArmPair.inside escape [.control (.mk first firstHead body (earlier ++ arm :: later) stop)]
                  (.mk first firstHead body (earlier ++ arm :: later) stop) arm earlier later [] []
                  (.among List.mem_cons_self) rfl (laid_nodes escape body) (laid_arms escape earlier)
                  (laid_nodes escape arm.body) (laid_arms escape later)
                simpa [Block.head, Block.number, Block.body, Block.stop, Block.arms] using here
              · have inside := @ArmPair.mono escape _ [.control (.mk first firstHead body arms stop)] _ _ _ _ pair
                  (fun node occurs => .arm List.mem_cons_self member (.inside List.mem_cons_self occurs))
                  (.begin firstHead false first :: (nodeInstructions escape body ++ outer))
                  (rest'' ++ [.finish (lastStop stop arms)])
                simpa using inside
            · cases rest' with
              | nil => cases (List.cons.inj atEnd).1
              | cons last rest' => simp at atEnd

theorem nodes_armPair : ∀ (nodes : List Node) {before after : List Instruction}, nodeInstructions escape nodes =
    before ++ .begin head true number :: after → ArmPair escape nodes before head number after
  | [], before, after, same => by simp [nodeInstructions] at same
  | node :: nodes, before, after, same => by
      rw [nodeInstructions] at same
      rcases Braces.append_eq_append_cons.mp same with ⟨rest, first, rfl⟩ | ⟨rest, rfl, behind⟩
      · exact (Node.armPair node first).mono (fun node occurs => occurs_cons.mpr (.inl occurs)) [] _
      · have among : ∀ other, Occurs other nodes → Occurs other (node :: nodes) :=
          fun other occurs => occurs_cons.mpr (.inr occurs)
        have pair := (nodes_armPair nodes behind).mono among (node.instructions escape) []
        rwa [List.append_nil] at pair

theorem arms_armPair : ∀ (arms : List Block) {before after : List Instruction}, armInstructions escape arms =
    before ++ .begin head true number :: after → AmongArms escape arms before head number after
  | [], before, after, same => by simp [armInstructions] at same
  | .mk first firstHead body within stop :: arms, before, after, same => by
      rw [armInstructions, List.cons_append, List.append_assoc] at same
      cases before with
      | nil =>
          obtain ⟨opening, rfl⟩ := List.cons.inj same
          obtain ⟨rfl, -, rfl⟩ := Instruction.begin.inj opening
          exact .inl ⟨[], _, arms, rfl, rfl, rfl, rfl, rfl⟩
      | cons opening before =>
          obtain ⟨rfl, inner⟩ := List.cons.inj same
          rcases Braces.append_eq_append_cons.mp inner with ⟨rest, inBody, rfl⟩ | ⟨rest, rfl, behind⟩
          · exact .inr ⟨_, List.mem_cons_self, [_], before, rest, _, rfl, rfl, nodes_armPair body inBody⟩
          · cases rest with
            | nil => cases (List.cons.inj behind).1
            | cons ending rest =>
                obtain ⟨rfl, others⟩ := List.cons.inj behind
                rcases arms_armPair arms others with ⟨earlier, arm, later, rfl, rfl, rfl, rfl, rfl⟩ |
                  ⟨arm, member, outer, inside, after, rest', rfl, rfl, pair⟩
                · exact .inl ⟨.mk first firstHead body within stop :: earlier, arm, later, rfl, rfl, rfl,
                    by simp [armInstructions], rfl⟩
                · exact .inr ⟨arm, List.mem_cons_of_mem _ member,
                    .begin firstHead true first :: (nodeInstructions escape body ++ .finish stop :: outer), inside, after,
                    rest', by simp, rfl, pair⟩

end

end Arms

/-- The begins and ends of a plan are balanced just if they are well-formed brackets.  Those of the plan of an accepted
template are, there are as many of them as openers and closers in its lines, and every arm stands directly inside the
pair of the block that starts its chain, with nothing but arms around it from the first arm on. -/
theorem plan_brackets_nest :
    (∀ plan : Plan, plan.isBalanced = true ↔ Dyck plan.brackets) ∧
      ∀ (source : TemplateSource) marker escape plan, source.plan marker escape = .ok plan →
        plan.isBalanced = true ∧
        ∃ lines tree, Line.ofSource marker source.text = .ok lines ∧ Tree.ofLines source.name lines = .ok tree ∧
          plan.instructions.countP Instruction.isBegin = lines.countP Line.isOpener ∧
          plan.instructions.countP Instruction.isFinish = lines.countP Line.isCloser ∧
          ∀ before head number after, plan.instructions = before ++ .begin head true number :: after →
            ArmPair escape tree.body before head number after := by
  refine ⟨Plan.isBalanced_iff, fun source marker escape plan accepted => ?_⟩
  obtain ⟨lines, tree, read, matched, rfl⟩ := tree_of_plan accepted
  obtain ⟨begins, ends⟩ := (spells_of_ofLines matched).counts escape
  have balanced : (tree.plan escape).isBalanced = true :=
    (Plan.isBalanced_iff _).mpr (laid_nodes escape tree.body).dyck
  exact ⟨balanced, lines, tree, read, matched, begins, ends, fun before head number after => nodes_armPair tree.body⟩

theorem armedSource_brackets_nest :
    ∃ plan, armedSource.plan Environment.standardMarker false = .ok plan ∧ plan.isBalanced = true ∧
      ∃ lines tree, Line.ofSource Environment.standardMarker armedSource.text = .ok lines ∧
        Tree.ofLines armedSource.name lines = .ok tree ∧ lines.countP Line.isOpener = 2 ∧
          lines.countP Line.isCloser = 2 ∧
            ArmPair false tree.body
              [.begin "if a" false 1, .literal "x" 2, .insert "b" false 2, .literal "\n" 2] "else" 5 [.literal "\n" 6, .finish 7, .finish 7] := by
  have accepted : armedSource.plan Environment.standardMarker false = .ok
      ⟨[.begin "if a" false 1, .literal "x" 2, .insert "b" false 2, .literal "\n" 2,
        .begin "else" true 5, .literal "\n" 6, .finish 7, .finish 7], false, none⟩ := by decide +kernel
  obtain ⟨balanced, lines, tree, read, matched, begins, ends, arms⟩ := plan_brackets_nest.2 _ _ _ _ accepted
  exact ⟨_, accepted, balanced, lines, tree, read, matched, begins.symm, ends.symm, arms _ _ _ _ rfl⟩

end Stencil
