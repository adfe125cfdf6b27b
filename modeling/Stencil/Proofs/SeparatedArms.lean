import Stencil.Diagnostic.SourceFault
import Stencil.Line.Classify
import Stencil.Proofs.Braces

/-!
# Separated arms

An opener with a continuation word that text separates from the closer before it is refused, and the refusal names a
line on which a block was closed.  That line belongs to the chain that the closer ended: it is the line on which the
first block of the chain was closed.  For a chain without arms this is the nearest closer; behind arms it is not.
-/

namespace Stencil
namespace Braces

/-! ## Chains and the lines on which they were closed -/

mutual

/-- How the opener behind some lines begins its block: by itself, or as an arm of a chain, whose first block was
closed on a given line. -/
inductive Opened : (before : List Line) → (opener : Line) → (earlier : Option Int) → Prop where
  | alone {before : List Line} {opener : Line} {head : Text} (opens : opener.directive? = some (.opener head))
      (apart : ¬ Chained before) : Opened before opener none
  | joined {before between : List Line} {opener : Line} {head : Text} {first : Int}
      (opens : opener.directive? = some (.opener head)) (behind : Behind before between first)
      (comments : ∀ line ∈ between, line.directive? = some .comment) : Opened before opener (some first)
  | reopened {before : List Line} {opener : Line} {head : Text} {first : Int}
      (reopens : opener.directive? = some (.reopener head)) (closed : ChainClosed (before ++ [opener]) first) :
      Opened before opener (some first)

/-- The last line closes a block of a chain whose first block was closed on a given line. -/
inductive ChainClosed : (lines : List Line) → (first : Int) → Prop where
  | close {before inside : List Line} {opener closer : Line} {earlier : Option Int}
      (opened : Opened before opener earlier) (stays : StaysOpen inside) (inner : depth inside = 0)
      (closes : closer.Closes) :
      ChainClosed (before ++ opener :: (inside ++ [closer])) (earlier.getD closer.number)

/-- The lines end in a closer with some further lines behind it, and the first block of the chain that it ended was
closed on a given line. -/
inductive Behind : (lines between : List Line) → (first : Int) → Prop where
  | closer {older between : List Line} {closer : Line} {first : Int} (closes : closer.directive? = some .closer)
      (closed : ChainClosed (older ++ [closer]) first) : Behind (older ++ closer :: between) between first

end

theorem Behind.snoc {lines between : List Line} {first : Int} (behind : Behind lines between first) (line : Line) :
    Behind (lines ++ [line]) (between ++ [line]) first := by
  cases behind with
  | @closer older _ ender _ closes closed =>
      rw [List.append_assoc, List.cons_append]
      exact .closer closes closed

/-- These lines leave a block open that began in a given way, with so many more open inside it. -/
def HoldsOpen (lines : List Line) (inside : Int) (earlier : Option Int) : Prop :=
  ∃ before opener after, lines = before ++ opener :: after ∧ Opened before opener earlier ∧ StaysOpen after ∧
    depth after = inside

theorem HoldsOpen.snoc {lines : List Line} {inside : Int} {earlier : Option Int}
    (holds : HoldsOpen lines inside earlier) (line : Line) (last : line.Closes → 0 < inside) :
    HoldsOpen (lines ++ [line]) (inside + line.depthChange) earlier := by
  obtain ⟨before, opener, after, rfl, opened, stays, rfl⟩ := holds
  exact ⟨before, opener, after ++ [line], by simp, opened, stays.snoc last, by simp⟩

theorem holdsOpen_opener {lines : List Line} {line : Line} {earlier : Option Int}
    (opened : Opened lines line earlier) : HoldsOpen (lines ++ [line]) 0 earlier :=
  ⟨lines, line, [], rfl, opened, staysOpen_nil, rfl⟩

theorem HoldsOpen.closed {lines : List Line} {line : Line} {earlier : Option Int} (holds : HoldsOpen lines 0 earlier)
    (closes : line.Closes) : ChainClosed (lines ++ [line]) (earlier.getD line.number) := by
  obtain ⟨before, opener, after, rfl, opened, stays, inner⟩ := holds
  rw [List.append_assoc, List.cons_append]
  exact .close opened stays inner closes

/-! ## The lines that the matcher remembers -/

/-- For every open block, innermost first, the line on which the first block of its chain was closed. -/
def earlierStops (state : Matching) : List (Option Int) :=
  state.stack.map fun block => block.chain.map Block.stop

@[simp] theorem earlierStops_add (node : Node) (state : Matching) :
    earlierStops (state.add node) = earlierStops state := by
  unfold Matching.add
  split <;> simp_all [earlierStops]

@[simp] theorem earlierStops_settle (state : Matching) : earlierStops state.settle = earlierStops state := by
  unfold Matching.settle
  split
  · rfl
  · exact earlierStops_add _ state

theorem earlierStops_output (line : Line) (state : Matching) :
    earlierStops (state.output line) = earlierStops state := by
  unfold Matching.output
  split
  · exact earlierStops_add _ state
  · exact (earlierStops_add _ _).trans (earlierStops_settle state)

theorem stop_addArm (block arm : Block) : (block.addArm arm).stop = block.stop := by
  cases block
  rfl

/-- What the matcher remembers of the lines so far: how its open blocks began, and on which line the first block was
closed of a chain that an opener would continue, or that text has ended. -/
structure Remembers (lines : List Line) (state : Matching) : Prop where
  blocks : ∀ (index : Nat) (earlier : Option Int), (earlierStops state)[index]? = some earlier →
    HoldsOpen lines index earlier
  pending : ∀ chain, state.pending = some chain → ∃ between, Behind lines between chain.stop ∧
    ∀ line ∈ between, line.directive? = some .comment
  gap : ∀ first, state.gap = some first → ∃ between, Behind lines between first ∧
    (∀ line ∈ between, line.directive? = none ∨ line.directive? = some .comment) ∧
    ∃ line ∈ between, line.directive? = none

theorem remembers_start : Remembers [] Matching.start where
  blocks index earlier found := by simp [earlierStops, Matching.start] at found
  pending chain found := by cases found
  gap first found := by cases found

/-- The blocks stay open on a line that neither opens nor closes one. -/
theorem Remembers.blocks_quiet {lines : List Line} {line : Line} {state next : Matching}
    (remembers : Remembers lines state) (quiet : line.Quiet) (same : earlierStops next = earlierStops state)
    (index : Nat) (earlier : Option Int) (found : (earlierStops next)[index]? = some earlier) :
    HoldsOpen (lines ++ [line]) index earlier := by
  have held := (remembers.blocks index earlier (same ▸ found)).snoc line fun closes => absurd closes quiet.not_closes
  rwa [quiet.depthChange, Int.add_zero] at held

theorem Remembers.output {lines : List Line} {line : Line} {state : Matching} (remembers : Remembers lines state)
    (found : line.directive? = none) : Remembers (lines ++ [line]) (state.output line) where
  blocks := remembers.blocks_quiet (.inl found) (earlierStops_output line state)
  pending chain pending := by rw [pending_output] at pending; cases pending
  gap first gap := by
    unfold Matching.output at gap
    split at gap
    · rw [gap_add] at gap
      obtain ⟨between, behind, quiet, output⟩ := remembers.gap first gap
      refine ⟨between ++ [line], behind.snoc line, ?_, line, by simp, found⟩
      simpa [or_imp, forall_and, found] using quiet
    · rename_i chain pending
      rw [gap_add] at gap
      obtain rfl := Option.some.inj gap
      obtain ⟨between, behind, comments⟩ := remembers.pending chain pending
      refine ⟨between ++ [line], behind.snoc line, ?_, line, by simp, found⟩
      simpa [or_imp, forall_and, found] using fun other member => .inr (comments other member)

theorem Remembers.comment {lines : List Line} {line : Line} {state : Matching} (remembers : Remembers lines state)
    (found : line.directive? = some .comment) : Remembers (lines ++ [line]) state where
  blocks := remembers.blocks_quiet (.inr (.inl found)) rfl
  pending chain pending := by
    obtain ⟨between, behind, comments⟩ := remembers.pending chain pending
    exact ⟨between ++ [line], behind.snoc line, by simpa [or_imp, forall_and, found] using comments⟩
  gap first gap := by
    obtain ⟨between, behind, quiet, output, member, silent⟩ := remembers.gap first gap
    refine ⟨between ++ [line], behind.snoc line, ?_, output, by simp [member], silent⟩
    simpa [or_imp, forall_and, found] using quiet

theorem Remembers.statement {lines : List Line} {line : Line} {state : Matching} {code : Text} (node : Node)
    (remembers : Remembers lines state) (found : line.directive? = some (.statement code)) :
    Remembers (lines ++ [line]) (state.settle.add node).closeGap where
  blocks := remembers.blocks_quiet (.inr (.inr ⟨code, found⟩)) ((earlierStops_add _ _).trans (earlierStops_settle state))
  pending chain pending := by simp [Matching.closeGap] at pending
  gap first gap := by cases gap

/-- Closing a block keeps the line on which the first block of its chain was closed. -/
theorem Remembers.closeBlock {lines : List Line} {line : Line} {state closed : Matching}
    (remembers : Remembers lines state) (closes : line.Closes) (closing : state.closeBlock line.number = .ok closed) :
    ∃ earlier chain, earlierStops state = earlier :: earlierStops closed ∧ closed.pending = some chain ∧
      ChainClosed (lines ++ [line]) chain.stop := by
  rw [← earlierStops_settle]
  have holds : ∀ earlier, (earlierStops state.settle)[0]? = some earlier → HoldsOpen lines 0 earlier := by
    rw [earlierStops_settle]
    exact remembers.blocks 0
  unfold Matching.closeBlock at closing
  dsimp only at closing
  cases stack : state.settle.stack with
  | nil =>
      rw [stack] at closing
      cases closing
  | cons block blocks =>
      rw [stack] at closing
      cases closing
      have shape : earlierStops state.settle = block.chain.map Block.stop :: blocks.map fun block =>
          block.chain.map Block.stop := by
        rw [earlierStops, stack, List.map_cons]
      have ended := (holds (block.chain.map Block.stop) (by rw [shape]; rfl)).closed closes
      refine ⟨_, _, shape, rfl, ?_⟩
      cases chain : block.chain with
      | none =>
          rw [chain] at ended
          exact ended
      | some first =>
          rw [chain] at ended
          dsimp only
          rw [stop_addArm]
          exact ended

theorem Remembers.closer {lines : List Line} {line : Line} {state closed : Matching}
    (remembers : Remembers lines state) (found : line.directive? = some .closer)
    (closing : state.closeBlock line.number = .ok closed) : Remembers (lines ++ [line]) closed.closeGap := by
  obtain ⟨earlier, chain, stops, pending, ended⟩ := remembers.closeBlock (.inl found) closing
  refine ⟨fun index earlier inside => ?_, fun other same => ?_, fun first gap => by cases gap⟩
  · have outer : (earlierStops state)[index + 1]? = some earlier := by
      rw [stops, List.getElem?_cons_succ]
      exact inside
    have held := (remembers.blocks (index + 1) earlier outer).snoc line (by omega)
    simpa [Line.depthChange, found, Int.add_neg_cancel_right] using held
  · obtain rfl := Option.some.inj (pending.symm.trans same)
    exact ⟨[], .closer found ended, by simp⟩

theorem Remembers.reopener {lines : List Line} {line : Line} {state closed opened : Matching} {head : Text}
    (remembers : Remembers lines state) (found : line.directive? = some (.reopener head))
    (closing : state.closeBlock line.number = .ok closed) (opening : closed.openBlock line.number head = .ok opened) :
    Remembers (lines ++ [line]) opened.closeGap := by
  obtain ⟨earlier, chain, stops, pending, ended⟩ := remembers.closeBlock (.inr ⟨head, found⟩) closing
  rw [Matching.openBlock, pending] at opening
  cases opening
  refine ⟨fun index earlier inside => ?_, fun chain same => ?_, fun first gap => ?_⟩
  · cases index with
    | zero =>
        cases inside
        exact holdsOpen_opener (.reopened found ended)
    | succ index =>
        have outer : (earlierStops state)[index + 1]? = some earlier := by
          rw [stops, List.getElem?_cons_succ]
          exact inside
        have held := (remembers.blocks (index + 1) earlier outer).snoc line (by omega)
        simpa [Line.depthChange, found] using held
  · cases same
  · cases gap

/-- Opening one more block leaves the blocks around it open. -/
theorem Remembers.opening {lines : List Line} {line : Line} {state opened : Matching} {head : Text}
    {earlier : Option Int} (remembers : Remembers lines state) (found : line.directive? = some (.opener head))
    (began : Opened lines line earlier) (stops : earlierStops opened = earlier :: earlierStops state)
    (pending : opened.pending = none) : Remembers (lines ++ [line]) opened.closeGap where
  blocks index earlier inside := by
    have stops : earlierStops opened.closeGap = _ := stops
    rw [stops] at inside
    cases index with
    | zero =>
        cases inside
        exact holdsOpen_opener began
    | succ index =>
        have held := (remembers.blocks index earlier inside).snoc line (by simp [Line.Closes, found])
        simpa [Line.depthChange, found] using held
  pending chain same := by cases pending.symm.trans same
  gap first gap := by cases gap

theorem Remembers.opener {lines : List Line} {line : Line} {state opened : Matching} {head : Text}
    (remembers : Remembers lines state) (tracks : Tracks lines state) (found : line.directive? = some (.opener head))
    (opening : state.openBlock line.number head = .ok opened) : Remembers (lines ++ [line]) opened.closeGap := by
  cases pending : state.pending with
  | some chain =>
      rw [Matching.openBlock, pending] at opening
      cases opening
      obtain ⟨between, behind, comments⟩ := remembers.pending chain pending
      exact remembers.opening found (.joined found behind comments) rfl rfl
  | none =>
      have apart : ¬ Chained lines := by
        rw [← tracks.pending, pending]
        exact Bool.false_ne_true
      have plain : opened = ⟨state.root, ⟨head, line.number, [], none⟩ :: state.stack, none, state.gap⟩ := by
        rw [Matching.openBlock, pending] at opening
        dsimp only at opening
        split at opening
        · exact (Except.ok.inj opening).symm
        · split at opening
          · cases opening
          · exact (Except.ok.inj opening).symm
      subst plain
      exact remembers.opening found (.alone found apart) rfl rfl

/-! ## Steps and runs -/

/-- Text separates what follows these lines from the chain before it, whose first block was closed on a given line. -/
def SeparatedFrom (lines : List Line) (first : Int) : Prop :=
  ∃ between, Behind lines between first ∧
    (∀ line ∈ between, line.directive? = none ∨ line.directive? = some .comment) ∧
    ∃ line ∈ between, line.directive? = none

/-- The matcher goes on and remembers the lines, or it refuses a separated arm with the line on which the first block
of the chain was closed. -/
def Names (lines : List Line) (line : Line) : Except Flaw Matching → Prop
  | .ok next => Remembers (lines ++ [line]) next
  | .error (.separatedArm head first number) =>
    line.directive? = some (.opener head) ∧ number = line.number ∧ SeparatedFrom lines first
  | .error _ => True

theorem Remembers.step {lines : List Line} {state : Matching} (remembers : Remembers lines state)
    (tracks : Tracks lines state) (line : Line) : Names lines line (state.step line) := by
  cases found : line.directive? with
  | none =>
      rw [step_of_output found]
      exact remembers.output found
  | some directive =>
      rw [step_of_directive found]
      cases directive with
      | comment => exact remembers.comment found
      | statement code => exact remembers.statement _ found
      | malformed rest => trivial
      | closer =>
          rw [Matching.direct]
          cases closing : state.closeBlock line.number with
          | ok closed => exact remembers.closer found closing
          | error flaw =>
              unfold Matching.closeBlock at closing
              dsimp only at closing
              split at closing
              · cases closing
                trivial
              · cases closing
      | reopener head =>
          rw [Matching.direct]
          cases closing : state.closeBlock line.number with
          | error flaw =>
              unfold Matching.closeBlock at closing
              dsimp only at closing
              split at closing
              · cases closing
                trivial
              · cases closing
          | ok closed =>
              obtain ⟨earlier, chain, -, pending, -⟩ := remembers.closeBlock (.inr ⟨head, found⟩) closing
              obtain ⟨opened, opening, -, -⟩ := openBlock_of_pending line.number head
                (Option.isSome_iff_exists.mpr ⟨chain, pending⟩)
              have result : (do
                  let closed ← Except.ok closed
                  (closed.openBlock line.number head).map Matching.closeGap : Except Flaw Matching) =
                  .ok opened.closeGap := by
                show (closed.openBlock line.number head).map Matching.closeGap = _
                rw [opening]
                rfl
              rw [result]
              exact remembers.reopener found closing opening
      | opener head =>
          rw [Matching.direct]
          cases opening : state.openBlock line.number head with
          | ok opened => exact remembers.opener tracks found opening
          | error flaw =>
              unfold Matching.openBlock at opening
              split at opening
              · cases opening
              · dsimp only at opening
                split at opening
                · cases opening
                · rename_i first gap
                  split at opening
                  · cases opening
                    exact ⟨found, rfl, remembers.gap first gap⟩
                  · cases opening

theorem Remembers.run {before : List Line} {state : Matching} (remembers : Remembers before state)
    (tracks : Tracks before state) (lines : List Line) {head : Text} {first number : Int}
    (refused : state.run lines = .error (.separatedArm head first number)) :
    ∃ older opener after, before ++ lines = older ++ opener :: after ∧ opener.directive? = some (.opener head) ∧
      number = opener.number ∧ SeparatedFrom older first := by
  induction lines generalizing before state with
  | nil => cases refused
  | cons line lines ih =>
      have named := remembers.step tracks line
      have judged := tracks.step line
      rw [Matching.run] at refused
      cases step : state.step line with
      | error flaw =>
          rw [step] at named refused
          cases refused
          exact ⟨before, line, lines, rfl, named.1, named.2.1, named.2.2⟩
      | ok next =>
          rw [step] at named judged refused
          have rest := ih named judged.1 refused
          rwa [List.append_assoc, List.singleton_append] at rest

/-- A separated arm is reported with the line on which the first block of the chain before it was closed.  Between the
closer that ended the chain and the opener there are only output, of which there is some, and comments. -/
theorem separated_arm_names_first_closer {name : Option Text} {lines : List Line} {flaw : Flaw} {origin : Origin}
    {first : Int} (refused : Tree.ofLines name lines = .error flaw)
    (ambiguous : (SourceFault.ofFlaw origin flaw).category = .ambiguous first) :
    ∃ older ender between opener after head, lines = older ++ ender :: (between ++ opener :: after) ∧
      ender.directive? = some .closer ∧
      (∀ line ∈ between, line.directive? = none ∨ line.directive? = some .comment) ∧
      (∃ line ∈ between, line.directive? = none) ∧
      opener.directive? = some (.opener head) ∧
      ChainClosed (older ++ [ender]) first ∧
      (SourceFault.ofFlaw origin flaw).line = some opener.number ∧
      (SourceFault.ofFlaw origin flaw).text = "'" ++ head ++ "' is separated from the block closed on line " ++
        Text.ofInt first ++ " by text; put the opener directly after the closer" := by
  obtain ⟨head, number, rfl⟩ : ∃ head number, flaw = .separatedArm head first number := by
    cases flaw <;> cases ambiguous
    exact ⟨_, _, rfl⟩
  have stopped : Matching.start.run lines = .error (.separatedArm head first number) := by
    rw [Tree.ofLines] at refused
    cases result : Matching.start.run lines with
    | error flaw =>
        rw [result] at refused
        exact congrArg Except.error (Except.error.inj refused)
    | ok state =>
        rw [result] at refused
        dsimp only at refused
        cases opened : outline state with
        | nil =>
            rw [finish_of_outline_nil opened] at refused
            cases refused
        | cons block blocks =>
            rw [finish_of_outline_cons opened] at refused
            cases refused
  obtain ⟨before, opener, after, whole, opens, rfl, between, behind, quiet, output⟩ :=
    remembers_start.run tracks_start lines stopped
  cases behind with
  | @closer older _ ender _ closes closed =>
      rw [List.nil_append, List.append_assoc, List.cons_append] at whole
      exact ⟨older, ender, between, opener, after, head, whole, closes, quiet, output, opens, closed, rfl, rfl⟩

/-- A conditional with an arm, closed on line 5, and an opener that line 6 separates from it. -/
def lateArm : Text := "%% if a \x7b\nx\n%% \x7d else \x7b\ny\n%% \x7d\n\n%% else \x7b\n%% \x7d\n"

/-- Its lines up to the closer that ends the conditional, which is the nearest one before the opener. -/
def lateArmStart : List Line :=
  [⟨1, "%% if a \x7b", ['\n'], .directive "if a \x7b"⟩, ⟨2, "x", ['\n'], .text [.literal "x"]⟩,
    ⟨3, "%% \x7d else \x7b", ['\n'], .directive "\x7d else \x7b"⟩, ⟨4, "y", ['\n'], .text [.literal "y"]⟩]

@[inherit_doc lateArmStart]
def lateArmCloser : Line := ⟨5, "%% \x7d", ['\n'], .directive "\x7d"⟩

/-- All of its lines. -/
def lateArmLines : List Line :=
  lateArmStart ++ lateArmCloser :: [⟨6, [], ['\n'], .blank⟩, ⟨7, "%% else \x7b", ['\n'], .directive "else \x7b"⟩,
    ⟨8, "%% \x7d", ['\n'], .directive "\x7d"⟩]

theorem lateArm_names_first_closer : Tree.ofLines none lateArmLines = .error (.separatedArm "else" 3 7) ∧
    ∃ older ender between opener after, lateArmLines = older ++ ender :: (between ++ opener :: after) ∧
      ender.directive? = some .closer ∧ opener.number = 7 ∧ ChainClosed (older ++ [ender]) 3 := by
  have refused : Tree.ofLines none lateArmLines = .error (.separatedArm "else" 3 7) := rfl
  obtain ⟨older, ender, between, opener, after, head, whole, closes, -, -, -, closed, line, -⟩ :=
    separated_arm_names_first_closer refused (show
      (SourceFault.ofFlaw ⟨none, none, none⟩ (.separatedArm "else" 3 7)).category = .ambiguous 3 from rfl)
  exact ⟨refused, older, ender, between, opener, after, whole, closes, (Option.some.inj line).symm, closed⟩

/-- The line that is named is not that of the nearest closer before the opener. -/
theorem nearest_closer_not_named : Line.ofSource ['%', '%'] lateArm = .ok lateArmLines ∧
    Tree.ofLines none lateArmLines = .error (.separatedArm "else" 3 7) ∧
    ∃ between opener after, lateArmLines = lateArmStart ++ lateArmCloser :: (between ++ opener :: after) ∧
      opener.number = 7 ∧ lateArmCloser.Closes ∧ (∀ line ∈ between, ¬ line.Closes) ∧ lateArmCloser.number = 5 := by
  refine ⟨by decide +kernel, rfl, [⟨6, [], ['\n'], .blank⟩], _, _, rfl, rfl, .inl rfl, ?_, rfl⟩
  intro line member
  rw [List.mem_singleton.mp member]
  simp [Line.Closes, Line.directive?]

end Braces
end Stencil
