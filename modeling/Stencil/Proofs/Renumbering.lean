import Stencil.Block.Matching

/-!
# Block trees under other line numbers

Matching looks at what lines say and never at their numbers: lines under other numbers give the same tree, or the same
flaw, under the other numbers.
-/

namespace Stencil

/-! ## Other numbers -/

/-- The line under another number. -/
def Line.renumber (f : Int → Int) (line : Line) : Line := { line with number := f line.number }

mutual

/-- The node with other line numbers, also below it. -/
def Node.renumber (f : Int → Int) : Node → Node
  | .leaf number line => .leaf (f number) (line.renumber f)
  | .statement number code => .statement (f number) code
  | .control block => .control (block.renumber f)
  | .stray number sort => .stray (f number) sort

/-- The block with other line numbers, also in its body and its arms. -/
def Block.renumber (f : Int → Int) : Block → Block
  | .mk number head body arms stop => .mk (f number) head (renumberNodes f body) (renumberBlocks f arms) (f stop)

/-- The nodes with other line numbers. -/
def renumberNodes (f : Int → Int) : List Node → List Node
  | [] => []
  | node :: nodes => node.renumber f :: renumberNodes f nodes

/-- The blocks with other line numbers. -/
def renumberBlocks (f : Int → Int) : List Block → List Block
  | [] => []
  | block :: blocks => block.renumber f :: renumberBlocks f blocks

end

/-- The tree with other line numbers. -/
def Tree.renumber (f : Int → Int) (tree : Tree) : Tree := ⟨renumberNodes f tree.body, tree.name⟩

/-- The open block with other line numbers. -/
def OpenBlock.renumber (f : Int → Int) (block : OpenBlock) : OpenBlock :=
  ⟨block.head, f block.number, renumberNodes f block.body, block.chain.map (Block.renumber f)⟩

/-- What is known with other line numbers. -/
def Matching.renumber (f : Int → Int) (state : Matching) : Matching :=
  ⟨renumberNodes f state.root, state.stack.map (OpenBlock.renumber f), state.pending.map (Block.renumber f),
    state.gap.map f⟩

/-- The flaw at other lines. -/
def Flaw.renumber (f : Int → Int) : Flaw → Flaw
  | unterminatedFragment line column => unterminatedFragment (f line) column
  | unclosedBlock head line => unclosedBlock head (f line)
  | unmatchedCloser line => unmatchedCloser (f line)
  | malformedCloser rest line => malformedCloser rest (f line)
  | separatedArm head closer line => separatedArm head (f closer) (f line)
  | rejected blame message line => rejected blame message (line.map f)

/-- The result of reading lines under other numbers. -/
def renumbered {α β : Type} (f : Int → Int) (move : α → β) : Except Flaw α → Except Flaw β
  | .ok value => .ok (move value)
  | .error flaw => .error (flaw.renumber f)

variable (f : Int → Int)

@[simp] theorem renumberNodes_append (first second : List Node) :
    renumberNodes f (first ++ second) = renumberNodes f first ++ renumberNodes f second := by
  induction first with
  | nil => rfl
  | cons node nodes ih => rw [List.cons_append, renumberNodes, renumberNodes, ih, List.cons_append]

@[simp] theorem renumberBlocks_append (first second : List Block) :
    renumberBlocks f (first ++ second) = renumberBlocks f first ++ renumberBlocks f second := by
  induction first with
  | nil => rfl
  | cons block blocks ih => rw [List.cons_append, renumberBlocks, renumberBlocks, ih, List.cons_append]

theorem renumber_addArm (block arm : Block) :
    (block.addArm arm).renumber f = (block.renumber f).addArm (arm.renumber f) := by
  cases block
  simp [Block.addArm, Block.renumber, renumberBlocks]

/-! ## Matching -/

namespace Matching

theorem renumber_add (node : Node) (state : Matching) :
    (state.add node).renumber f = (state.renumber f).add (node.renumber f) := by
  obtain ⟨root, stack, pending, gap⟩ := state
  cases stack with
  | nil => simp [add, renumber, renumberNodes]
  | cons block blocks => simp [add, renumber, OpenBlock.renumber, renumberNodes]

theorem renumber_settle (state : Matching) : state.settle.renumber f = (state.renumber f).settle := by
  obtain ⟨root, stack, pending, gap⟩ := state
  cases pending with
  | none => rfl
  | some block =>
    have added := renumber_add f (.control block) ⟨root, stack, some block, gap⟩
    exact congrArg (fun found => { found with pending := none }) added

theorem renumber_output (line : Line) (state : Matching) :
    (state.output line).renumber f = (state.renumber f).output (line.renumber f) := by
  cases waiting : state.pending with
  | none =>
    have same : (state.renumber f).pending = none := congrArg (Option.map _) waiting
    rw [output, waiting, output, same]
    exact renumber_add f _ _
  | some block =>
    have same : (state.renumber f).pending = some (block.renumber f) := congrArg (Option.map _) waiting
    have stop : (block.renumber f).stop = f block.stop := by
      cases block
      rfl
    rw [output, waiting, output, same]
    dsimp only
    rw [renumber_add, stop, ← renumber_settle]
    rfl

theorem closeBlock_renumber (number : Int) (state : Matching) :
    (state.renumber f).closeBlock (f number) = renumbered f (renumber f) (state.closeBlock number) := by
  rw [closeBlock, closeBlock, ← renumber_settle]
  generalize state.settle = settled
  obtain ⟨root, stack, pending, gap⟩ := settled
  cases stack with
  | nil => rfl
  | cons block blocks =>
    obtain ⟨head, number', body, chain⟩ := block
    cases chain with
    | none => rfl
    | some chain =>
      show Except.ok _ = Except.ok _
      congr 1
      simp only [renumber, OpenBlock.renumber, Option.map_some, renumber_addArm]
      rfl

theorem openBlock_renumber (number : Int) (head : Text) (state : Matching) :
    (state.renumber f).openBlock (f number) head = renumbered f (renumber f) (state.openBlock number head) := by
  obtain ⟨root, stack, pending, gap⟩ := state
  cases pending with
  | some chain => rfl
  | none =>
    cases gap with
    | none => rfl
    | some closer =>
      by_cases continues : Directive.isContinuation head
      · simp [openBlock, renumber, continues, renumbered, Flaw.renumber]
      · simp [openBlock, renumber, continues, renumbered, OpenBlock.renumber, renumberNodes]

theorem renumbered_closeGap (result : Except Flaw Matching) :
    (renumbered f (renumber f) result).map closeGap = renumbered f (renumber f) (result.map closeGap) := by
  cases result <;> rfl

theorem direct_renumber (number : Int) (state : Matching) (directive : Directive) :
    (state.renumber f).direct (f number) directive = renumbered f (renumber f) (state.direct number directive) := by
  cases directive with
  | comment => rfl
  | malformed rest => rfl
  | closer => rw [direct, direct, closeBlock_renumber, renumbered_closeGap]
  | opener head => rw [direct, direct, openBlock_renumber, renumbered_closeGap]
  | statement code =>
    have added := renumber_add f (.statement number code) state.settle
    rw [direct, direct, ← renumber_settle]
    exact congrArg (fun next : Matching => Except.ok next.closeGap) added.symm
  | reopener head =>
    rw [direct, direct, closeBlock_renumber]
    cases state.closeBlock number with
    | error flaw => rfl
    | ok closed =>
      show ((closed.renumber f).openBlock (f number) head).map closeGap =
        renumbered f _ ((closed.openBlock number head).map closeGap)
      rw [openBlock_renumber, renumbered_closeGap]

theorem step_renumber (line : Line) (state : Matching) :
    (state.renumber f).step (line.renumber f) = renumbered f (renumber f) (state.step line) := by
  obtain ⟨number, content, terminator, form⟩ := line
  cases form with
  | directive statement => exact direct_renumber f number state _
  | text parts => exact congrArg Except.ok (renumber_output f _ _).symm
  | blank => exact congrArg Except.ok (renumber_output f _ _).symm

theorem run_renumber (lines : List Line) (state : Matching) :
    (state.renumber f).run (lines.map (Line.renumber f)) = renumbered f (renumber f) (state.run lines) := by
  induction lines generalizing state with
  | nil => rfl
  | cons line lines ih =>
    rw [List.map_cons, run, run, step_renumber]
    cases state.step line with
    | error flaw => rfl
    | ok next => exact ih next

theorem finish_renumber (state : Matching) :
    (state.renumber f).finish = renumbered f (renumberNodes f) state.finish := by
  rw [finish, finish, ← renumber_settle]
  generalize state.settle = settled
  obtain ⟨root, stack, pending, gap⟩ := settled
  cases stack <;> rfl

end Matching

/-- Lines under other numbers give the same tree, or the same flaw, under the other numbers. -/
theorem ofLines_renumber (name : Option Text) (lines : List Line) :
    Tree.ofLines name (lines.map (Line.renumber f)) = renumbered f (Tree.renumber f) (Tree.ofLines name lines) := by
  have start : Matching.start = Matching.start.renumber f := rfl
  rw [Tree.ofLines, Tree.ofLines, start, Matching.run_renumber, ← start]
  cases Matching.start.run lines with
  | error flaw => rfl
  | ok state =>
    simp only [renumbered, Matching.finish_renumber]
    cases state.finish <;> rfl

end Stencil
