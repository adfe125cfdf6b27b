import Stencil.Proofs.Braces

/-!
# The grammar of block trees

Which lines spell which nodes: output and statements spell themselves, comments spell nothing, and a block with its arms
is spelled from its first opener to its last closer.  Whatever the matcher accepts is spelled like this, so that what
holds of a block tree can be shown along the grammar, without the matcher's stack.
-/

namespace Stencil

/-- The lines from the closer of a block on that open an arm of its chain: the closer opens the arm itself, or an opener
stands behind it with nothing but comments in between. -/
inductive Joint (ender : Line) : (lines : List Line) → (opener : Line) → (head : Text) → Prop where
  | same {head : Text} (reopens : ender.directive? = some (.reopener head)) : Joint ender [ender] ender head
  | behind {comments : List Line} {opener : Line} {head : Text} (closes : ender.directive? = some .closer)
      (quiet : ∀ line ∈ comments, line.directive? = some .comment)
      (opens : opener.directive? = some (.opener head)) : Joint ender (ender :: (comments ++ [opener])) opener head

mutual

/-- Lines that spell a list of nodes. -/
inductive Spells : (lines : List Line) → (nodes : List Node) → Prop where
  | nil : Spells [] []
  | comment {lines : List Line} {nodes : List Node} {line : Line} (before : Spells lines nodes)
      (found : line.directive? = some .comment) : Spells (lines ++ [line]) nodes
  | output {lines : List Line} {nodes : List Node} {line : Line} (before : Spells lines nodes)
      (found : line.directive? = none) : Spells (lines ++ [line]) (nodes ++ [.leaf line.number line])
  | statement {lines : List Line} {nodes : List Node} {line : Line} {code : Text} (before : Spells lines nodes)
      (found : line.directive? = some (.statement code)) :
      Spells (lines ++ [line]) (nodes ++ [.statement line.number code])
  | chain {lines chained : List Line} {nodes : List Node} {ender : Line} {block : Block} (before : Spells lines nodes)
      (chain : SpellsChain chained ender block) (closes : ender.directive? = some .closer) :
      Spells (lines ++ (chained ++ [ender])) (nodes ++ [.control block])

/-- Lines that spell a block with its arms, up to the closer of the last one. -/
inductive SpellsChain : (lines : List Line) → (ender : Line) → (block : Block) → Prop where
  | block {opener ender : Line} {head : Text} {within : List Line} {body : List Node}
      (opens : opener.directive? = some (.opener head)) (inside : Spells within body) (closes : ender.Closes) :
      SpellsChain (opener :: within) ender (.mk opener.number head body [] ender.number)
  | arm {lines joining within : List Line} {earlier ender opener : Line} {chain : Block} {head : Text}
      {body : List Node} (before : SpellsChain lines earlier chain) (joint : Joint earlier joining opener head)
      (inside : Spells within body) (closes : ender.Closes) :
      SpellsChain (lines ++ (joining ++ within)) ender (chain.addArm (.mk opener.number head body [] ender.number))

end

theorem Spells.comments {lines more : List Line} {nodes : List Node} (spells : Spells lines nodes)
    (quiet : ∀ line ∈ more, line.directive? = some .comment) : Spells (lines ++ more) nodes := by
  induction more using List.reverseRecOn with
  | nil => rwa [List.append_nil]
  | append_singleton more line ih =>
      rw [← List.append_assoc]
      exact .comment (ih fun other inside => quiet other (by simp [inside])) (quiet line (by simp))

namespace Matching

/-! ## Unfinished blocks -/

/-- Lines that spell the nodes outside every open block, and then the open blocks one inside the other, each with the
chain that it continues and what is known of its body. -/
inductive Framed : (lines : List Line) → (root : List Node) → (stack : List OpenBlock) → Prop where
  | root {lines : List Line} {nodes : List Node} (spells : Spells lines nodes) : Framed lines nodes []
  | block {before within : List Line} {root body : List Node} {stack : List OpenBlock} {opener : Line} {head : Text}
      (outer : Framed before root stack) (opens : opener.directive? = some (.opener head))
      (inside : Spells within body) :
      Framed (before ++ opener :: within) root (⟨head, opener.number, body, none⟩ :: stack)
  | arm {before lines joining within : List Line} {root body : List Node} {stack : List OpenBlock}
      {earlier opener : Line} {chain : Block} {head : Text} (outer : Framed before root stack)
      (spells : SpellsChain lines earlier chain) (joint : Joint earlier joining opener head)
      (inside : Spells within body) :
      Framed (before ++ (lines ++ (joining ++ within))) root (⟨head, opener.number, body, some chain⟩ :: stack)

section Framed

variable {lines more : List Line} {state next : Matching}

/-- Lines that spell one more node of every body spell it at the end of the innermost one. -/
theorem Framed.add {node : Node} (framed : Framed lines state.root state.stack)
    (grows : ∀ within body, Spells within body → Spells (within ++ more) (body ++ [node])) :
    Framed (lines ++ more) (state.add node).root (state.add node).stack := by
  obtain ⟨root, stack, pending, gap⟩ := state
  cases framed with
  | root spells => exact .root (grows _ _ spells)
  | block outer opens inside =>
      rw [List.append_assoc, List.cons_append]
      exact .block outer opens (grows _ _ inside)
  | arm outer spells joint inside =>
      rw [List.append_assoc, List.append_assoc, List.append_assoc]
      exact .arm outer spells joint (grows _ _ inside)

theorem Framed.comments {root : List Node} {stack : List OpenBlock} (framed : Framed lines root stack)
    (quiet : ∀ line ∈ more, line.directive? = some .comment) : Framed (lines ++ more) root stack := by
  cases framed with
  | root spells => exact .root (spells.comments quiet)
  | block outer opens inside =>
      rw [List.append_assoc, List.cons_append]
      exact .block outer opens (inside.comments quiet)
  | arm outer spells joint inside =>
      rw [List.append_assoc, List.append_assoc, List.append_assoc]
      exact .arm outer spells joint (inside.comments quiet)

end Framed

/-! ## The matcher -/

/-- What the matcher knows of some lines: they spell its open blocks, and behind them a chain that may still get arms,
if there is one. -/
inductive Reads (lines : List Line) (state : Matching) : Prop where
  | free (pending : state.pending = none) (framed : Framed lines state.root state.stack)
  | waiting {before chained comments : List Line} {ender : Line} {chain : Block} (pending : state.pending = some chain)
      (whole : lines = before ++ (chained ++ ender :: comments)) (framed : Framed before state.root state.stack)
      (spells : SpellsChain chained ender chain) (closes : ender.directive? = some .closer)
      (quiet : ∀ line ∈ comments, line.directive? = some .comment)

section Reads

variable {lines : List Line} {line : Line} {state next : Matching}

/-- Settling puts the chain that waits where it is spelled. -/
theorem Reads.settle (reads : Reads lines state) : Framed lines state.settle.root state.settle.stack := by
  cases reads with
  | free pending framed =>
      rw [Matching.settle, pending]
      exact framed
  | @waiting before chained comments ender chain pending whole framed spells closes quiet =>
      rw [settle_of_pending pending, whole]
      refine @Framed.add _ _ { state with pending := none } _ framed fun within body inside => ?_
      have ended := (Spells.chain inside spells closes).comments quiet
      simpa using ended

/-- Closing the innermost block spells its chain up to the closer. -/
theorem Reads.closeBlock (reads : Reads lines state) (closes : line.Closes)
    (closing : state.closeBlock line.number = .ok next) : ∃ before chained chain, lines = before ++ chained ∧
      next.pending = some chain ∧ Framed before next.root next.stack ∧ SpellsChain chained line chain := by
  have framed := reads.settle
  rw [Matching.closeBlock] at closing
  generalize state.settle = settled at framed closing
  obtain ⟨root, stack, pending, gap⟩ := settled
  cases framed with
  | root spells => cases closing
  | block outer opens inside =>
      obtain rfl := Except.ok.inj closing
      exact ⟨_, _, _, rfl, rfl, outer, .block opens inside closes⟩
  | arm outer spells joint inside =>
      obtain rfl := Except.ok.inj closing
      exact ⟨_, _, _, rfl, rfl, outer, .arm spells joint inside closes⟩

theorem openBlock_of_some {number : Int} {head : Text} {chain : Block} (pending : state.pending = some chain) :
    state.openBlock number head =
      .ok { state with pending := none, stack := ⟨head, number, [], some chain⟩ :: state.stack } := by
  rw [openBlock, pending]

theorem openBlock_of_none {number : Int} {head : Text} (pending : state.pending = none)
    (opening : state.openBlock number head = .ok next) :
    next = ⟨state.root, ⟨head, number, [], none⟩ :: state.stack, none, state.gap⟩ := by
  rw [openBlock, pending] at opening
  dsimp only at opening
  split at opening
  · exact (Except.ok.inj opening).symm
  · split at opening
    · cases opening
    · exact (Except.ok.inj opening).symm

theorem Reads.opener {head : Text} (reads : Reads lines state) (found : line.directive? = some (.opener head))
    (opening : state.openBlock line.number head = .ok next) : Reads (lines ++ [line]) next.closeGap := by
  cases reads with
  | free pending framed =>
      obtain rfl := openBlock_of_none pending opening
      exact .free rfl (.block framed found .nil)
  | @waiting before chained comments ender chain pending whole framed spells closes quiet =>
      rw [openBlock_of_some pending] at opening
      obtain rfl := Except.ok.inj opening
      have joined := Framed.arm framed spells (.behind closes quiet found) .nil
      have same : before ++ (chained ++ (ender :: (comments ++ [line]) ++ [])) = lines ++ [line] := by simp [whole]
      exact .free rfl (same ▸ joined)

theorem Reads.step (reads : Reads lines state) (step : state.step line = .ok next) : Reads (lines ++ [line]) next := by
  cases found : line.directive? with
  | none =>
      rw [Braces.step_of_output found] at step
      obtain rfl := Except.ok.inj step
      have grows (within : List Line) (body : List Node) (inside : Spells within body) :
          Spells (within ++ [line]) (body ++ [.leaf line.number line]) := inside.output found
      have settled := reads.settle
      refine .free (Braces.pending_output line state) ?_
      unfold Matching.output
      cases pending : state.pending with
      | none =>
          rw [Matching.settle, pending] at settled
          exact settled.add grows
      | some chain => exact @Framed.add _ _ { state.settle with gap := some chain.stop } _ settled grows
  | some directive =>
      rw [Braces.step_of_directive found] at step
      cases directive with
      | comment =>
          obtain rfl := Except.ok.inj step
          cases reads with
          | free pending framed =>
              refine .free pending (framed.comments ?_)
              simpa using found
          | @waiting before chained comments ender chain pending whole framed spells closes quiet =>
              have whole : lines ++ [line] = before ++ (chained ++ ender :: (comments ++ [line])) := by simp [whole]
              refine .waiting pending whole framed spells closes ?_
              simpa [or_imp, forall_and, found] using quiet
      | statement code =>
          obtain rfl := Except.ok.inj step
          refine .free ((Braces.pending_add _ _).trans (Braces.pending_settle state)) ?_
          exact reads.settle.add fun within body inside => inside.statement found
      | malformed rest => cases step
      | closer =>
          obtain ⟨closed, closing, rfl⟩ := ok_of_map step
          obtain ⟨before, chained, chain, rfl, pending, framed, spells⟩ := reads.closeBlock (.inl found) closing
          have whole : before ++ chained ++ [line] = before ++ (chained ++ line :: []) := List.append_assoc ..
          exact .waiting pending whole framed spells found (by simp)
      | reopener head =>
          rw [Matching.direct] at step
          cases closing : state.closeBlock line.number with
          | error flaw =>
              rw [closing] at step
              cases step
          | ok closed =>
              obtain ⟨before, chained, chain, rfl, pending, framed, spells⟩ :=
                reads.closeBlock (.inr ⟨head, found⟩) closing
              rw [closing] at step
              obtain ⟨opened, opening, rfl⟩ := ok_of_map step
              rw [openBlock_of_some pending] at opening
              obtain rfl := Except.ok.inj opening
              refine .free rfl ?_
              rw [List.append_assoc]
              exact .arm framed spells (.same found) .nil
      | opener head =>
          obtain ⟨opened, opening, rfl⟩ := ok_of_map step
          exact reads.opener found opening

theorem Reads.run {before : List Line} (reads : Reads before state) (run : state.run lines = .ok next) :
    Reads (before ++ lines) next := by
  induction lines generalizing before state with
  | nil =>
      obtain rfl := Except.ok.inj run
      rwa [List.append_nil]
  | cons line lines ih =>
      rw [Matching.run] at run
      cases step : state.step line with
      | error flaw =>
          rw [step] at run
          cases run
      | ok between =>
          rw [step] at run
          have rest := ih (reads.step step) run
          rwa [List.append_assoc] at rest

end Reads
end Matching

/-- The lines of an accepted template spell its tree. -/
theorem spells_of_ofLines {name : Option Text} {lines : List Line} {tree : Tree}
    (accepted : Tree.ofLines name lines = .ok tree) : Spells lines tree.body := by
  rw [Tree.ofLines] at accepted
  cases run : Matching.start.run lines with
  | error flaw =>
      rw [run] at accepted
      cases accepted
  | ok state =>
      have reads : Matching.Reads ([] ++ lines) state := .run (.free rfl (.root .nil)) run
      have framed := reads.settle
      rw [run] at accepted
      dsimp only [Matching.finish] at accepted
      generalize state.settle = settled at framed accepted
      obtain ⟨root, stack, pending, gap⟩ := settled
      cases framed with
      | root spells =>
          cases accepted
          exact spells
      | block outer opens inside => cases accepted
      | arm outer spells joint inside => cases accepted

end Stencil
