import Mathlib.Algebra.Ring.Int.Defs
import Mathlib.Data.List.Induction
import Stencil.Block.Matching

/-!
# The language of balanced braces

The lines of a template are judged without a stack: how many blocks are open is a count of openers and closers,
and whether an opener continues the block before it depends on the lines since the last closer.  The matcher
accepts exactly the lists of lines in which no line breaks a rule and no block is left open, and otherwise it
reports the first line that breaks one, or the innermost block that is left open.
-/

namespace Stencil

namespace Line

/-- What a directive line does to the block structure; absent for lines that are output. -/
def directive? (line : Line) : Option Directive :=
  match line.form with
  | .directive statement => some (.ofStatement statement)
  | _ => none

/-- Whether a line closes a block. -/
def Closes (line : Line) : Prop :=
  line.directive? = some .closer ∨ ∃ head, line.directive? = some (.reopener head)

/-- Whether a line opens a block with a head. -/
def OpensBlock (line : Line) (head : Text) : Prop :=
  line.directive? = some (.opener head) ∨ line.directive? = some (.reopener head)

/-- By how much a line changes the number of open blocks; closing one and opening the next leaves it. -/
def depthChange (line : Line) : Int :=
  match line.directive? with
  | some (.opener _) => 1
  | some .closer => -1
  | _ => 0

/-- A line that neither opens nor closes a block nor tries to. -/
def Quiet (line : Line) : Prop :=
  line.directive? = none ∨ line.directive? = some .comment ∨
    ∃ code, line.directive? = some (.statement code)

theorem Quiet.depthChange {line : Line} (quiet : line.Quiet) : line.depthChange = 0 := by
  rcases quiet with found | found | ⟨code, found⟩ <;> simp [Line.depthChange, found]

theorem Quiet.not_closes {line : Line} (quiet : line.Quiet) : ¬ line.Closes := by
  rcases quiet with found | found | ⟨code, found⟩ <;> simp [Closes, found]

end Line

/-- Settling adds the pending chain to the innermost open body. -/
theorem Matching.settle_of_pending {state : Matching} {chain : Block} (pending : state.pending = some chain) :
    state.settle = ({ state with pending := none } : Matching).add (.control chain) := by
  unfold settle add
  rw [pending]
  cases state.stack <;> rfl

theorem Matching.pending_closeBlock {number : Int} {state next : Matching}
    (closed : state.closeBlock number = .ok next) :
    next.pending.isSome = true := by
  simp only [closeBlock] at closed
  split at closed
  · cases closed
  · obtain rfl := Except.ok.inj closed
    rfl

theorem Matching.ok_of_map {α β ε : Type} {f : α → β} {result : Except ε α} {final : β}
    (mapped : result.map f = .ok final) : ∃ value, result = .ok value ∧ final = f value := by
  cases result with
  | error flaw => simp [Except.map] at mapped
  | ok value => exact ⟨value, rfl, (Except.ok.inj mapped).symm⟩

namespace Braces

/-! ## Rules for lines -/

/-- How many blocks are open after some lines. -/
def depth (lines : List Line) : Int := (lines.map Line.depthChange).sum

/-- The lines end in a closer with some further lines behind it. -/
def ClosedBefore (lines between : List Line) : Prop :=
  ∃ older closer, lines = older ++ closer :: between ∧ closer.directive? = some .closer

/-- A line behind these lines directly follows a closer, comments aside. -/
def Chained (lines : List Line) : Prop :=
  ∃ between, ClosedBefore lines between ∧ ∀ line ∈ between, line.directive? = some .comment

/-- The last directive of these lines is a closer, comments aside, and there is output behind it. -/
def Separated (lines : List Line) : Prop :=
  ∃ between, ClosedBefore lines between ∧
    (∀ line ∈ between, line.directive? = none ∨ line.directive? = some .comment) ∧
    ∃ line ∈ between, line.directive? = none

/-- Which rule a line breaks behind other lines, as the flaw that is reported for it. -/
def Breaks (before : List Line) (line : Line) : Flaw → Prop
  | .malformedCloser rest number =>
    line.directive? = some (.malformed rest) ∧ number = line.number
  | .unmatchedCloser number => line.Closes ∧ depth before = 0 ∧ number = line.number
  | .separatedArm head _ number =>
    line.directive? = some (.opener head) ∧ Directive.isContinuation head = true ∧ Separated before ∧
      number = line.number
  | _ => False

/-- No line breaks a rule. -/
def Clean (lines : List Line) : Prop :=
  ∀ before line after, lines = before ++ line :: after → ∀ flaw, ¬ Breaks before line flaw

/-- No line closes a block that was open before these lines. -/
def StaysOpen (lines : List Line) : Prop :=
  ∀ before line after, lines = before ++ line :: after → line.Closes → 0 < depth before

/-- These lines leave a block open that was opened on a line with a head, with so many more open inside it. -/
def LeavesOpen (lines : List Line) (inside : Int) (head : Text) (number : Int) : Prop :=
  ∃ before opener after, lines = before ++ opener :: after ∧ opener.OpensBlock head ∧
    number = opener.number ∧ StaysOpen after ∧ depth after = inside

/-! ## One more line -/

@[simp] theorem depth_nil : depth [] = 0 := rfl

@[simp] theorem depth_snoc (lines : List Line) (line : Line) :
    depth (lines ++ [line]) = depth lines + line.depthChange := by
  simp [depth]

/-- A list with one more item, split at some place: the split is at the new item or before it. -/
theorem snoc_eq_append_cons {α : Type} {items before after : List α} {last item : α} :
    items ++ [last] = before ++ item :: after ↔
      (items = before ∧ last = item ∧ after = []) ∨
        ∃ rest, after = rest ++ [last] ∧ items = before ++ item :: rest := by
  constructor
  · intro split
    rcases List.eq_nil_or_concat after with rfl | ⟨rest, final, rfl⟩
    · obtain ⟨rfl, same⟩ := List.append_inj' split rfl
      exact .inl ⟨rfl, by simpa using same, rfl⟩
    · rw [List.concat_eq_append, ← List.cons_append, ← List.append_assoc] at split
      obtain ⟨rfl, same⟩ := List.append_inj' split rfl
      obtain rfl : last = final := by simpa using same
      exact .inr ⟨rest, List.concat_eq_append, rfl⟩
  · rintro (⟨rfl, rfl, rfl⟩ | ⟨rest, rfl, rfl⟩) <;> simp

/-- A list put together of two has an item in the first one or in the second one. -/
theorem append_eq_append_cons {α : Type} {first second before after : List α} {item : α} :
    first ++ second = before ++ item :: after ↔
      (∃ rest, first = before ++ item :: rest ∧ after = rest ++ second) ∨
        ∃ rest, before = first ++ rest ∧ second = rest ++ item :: after := by
  constructor
  · intro same
    rcases List.append_eq_append_iff.mp same with ⟨rest, rfl, behind⟩ | ⟨rest, rfl, behind⟩
    · exact .inr ⟨rest, rfl, behind⟩
    · cases rest with
      | nil => exact .inr ⟨[], by simp, behind.symm⟩
      | cons item' rest =>
          obtain ⟨rfl, rfl⟩ := List.cons.inj behind
          exact .inl ⟨rest, rfl, rfl⟩
  · rintro (⟨rest, rfl, rfl⟩ | ⟨rest, rfl, rfl⟩) <;> simp

theorem closedBefore_snoc {lines between : List Line} {line : Line} :
    ClosedBefore (lines ++ [line]) between ↔
      (between = [] ∧ line.directive? = some .closer) ∨
        ∃ rest, between = rest ++ [line] ∧ ClosedBefore lines rest := by
  constructor
  · rintro ⟨older, closer, split, closes⟩
    rcases snoc_eq_append_cons.mp split with ⟨rfl, rfl, rfl⟩ | ⟨rest, rfl, rfl⟩
    · exact .inl ⟨rfl, closes⟩
    · exact .inr ⟨rest, rfl, older, closer, rfl, closes⟩
  · rintro (⟨rfl, closes⟩ | ⟨rest, rfl, older, closer, rfl, closes⟩)
    · exact ⟨lines, line, rfl, closes⟩
    · exact ⟨older, closer, by simp, closes⟩

theorem not_chained_nil : ¬ Chained [] := by
  rintro ⟨between, ⟨older, closer, split, -⟩, -⟩
  simp at split

theorem not_separated_nil : ¬ Separated [] := by
  rintro ⟨between, ⟨older, closer, split, -⟩, -⟩
  simp at split

theorem chained_snoc {lines : List Line} {line : Line} :
    Chained (lines ++ [line]) ↔
      line.directive? = some .closer ∨ (line.directive? = some .comment ∧ Chained lines) := by
  constructor
  · rintro ⟨between, closed, quiet⟩
    rcases closedBefore_snoc.mp closed with ⟨rfl, closes⟩ | ⟨rest, rfl, earlier⟩
    · exact .inl closes
    · exact .inr ⟨quiet line (by simp), rest, earlier, fun other member => quiet other (by simp [member])⟩
  · rintro (closes | ⟨comment, rest, closed, quiet⟩)
    · exact ⟨[], closedBefore_snoc.mpr (.inl ⟨rfl, closes⟩), by simp⟩
    · refine ⟨rest ++ [line], closedBefore_snoc.mpr (.inr ⟨rest, rfl, closed⟩), ?_⟩
      simpa [or_imp, forall_and, comment] using quiet

theorem separated_snoc {lines : List Line} {line : Line} :
    Separated (lines ++ [line]) ↔
      (line.directive? = some .comment ∧ Separated lines) ∨
        (line.directive? = none ∧ (Chained lines ∨ Separated lines)) := by
  constructor
  · rintro ⟨between, closed, quiet, output, member, isOutput⟩
    rcases closedBefore_snoc.mp closed with ⟨rfl, -⟩ | ⟨rest, rfl, earlier⟩
    · simp at member
    · have quietRest : ∀ other ∈ rest, other.directive? = none ∨ other.directive? = some .comment :=
        fun other inside => quiet other (by simp [inside])
      have separated (inside : ∃ other ∈ rest, other.directive? = none) : Separated lines :=
        ⟨rest, earlier, quietRest, inside⟩
      rcases quiet line (by simp) with silent | comment
      · by_cases inside : ∃ other ∈ rest, other.directive? = none
        · exact .inr ⟨silent, .inr (separated inside)⟩
        · refine .inr ⟨silent, .inl ⟨rest, earlier, fun other member => ?_⟩⟩
          exact (quietRest other member).resolve_left fun isNone => inside ⟨other, member, isNone⟩
      · refine .inl ⟨comment, separated ⟨output, ?_, isOutput⟩⟩
        rcases List.mem_append.mp member with inside | last
        · exact inside
        · obtain rfl := List.mem_singleton.mp last
          simp [comment] at isOutput
  · rintro (⟨comment, rest, closed, quiet, output, member, isOutput⟩ | ⟨silent, chained | separated⟩)
    · refine ⟨rest ++ [line], closedBefore_snoc.mpr (.inr ⟨rest, rfl, closed⟩), ?_, output, by simp [member],
        isOutput⟩
      simpa [or_imp, forall_and, comment] using quiet
    · obtain ⟨rest, closed, quiet⟩ := chained
      refine ⟨rest ++ [line], closedBefore_snoc.mpr (.inr ⟨rest, rfl, closed⟩), ?_, line, by simp, silent⟩
      simpa [or_imp, forall_and, silent] using fun other member => .inr (quiet other member)
    · obtain ⟨rest, closed, quiet, -⟩ := separated
      refine ⟨rest ++ [line], closedBefore_snoc.mpr (.inr ⟨rest, rfl, closed⟩), ?_, line, by simp, silent⟩
      simpa [or_imp, forall_and, silent] using quiet

theorem Chained.not_separated {lines : List Line} (chained : Chained lines) : ¬ Separated lines := by
  induction lines using List.reverseRecOn with
  | nil => exact absurd chained not_chained_nil
  | append_singleton lines line ih =>
      rw [separated_snoc]
      rcases chained_snoc.mp chained with closes | ⟨comment, earlier⟩
      · simp [closes]
      · simp [comment, ih earlier]

theorem clean_nil : Clean [] := by
  intro before line after split
  simp at split

theorem clean_snoc {lines : List Line} {line : Line} :
    Clean (lines ++ [line]) ↔ Clean lines ∧ ∀ flaw, ¬ Breaks lines line flaw := by
  constructor
  · intro clean
    refine ⟨fun before other after split => ?_, clean lines line [] rfl⟩
    exact clean before other (after ++ [line]) (by simp [split])
  · rintro ⟨clean, kept⟩ before other after split
    rcases snoc_eq_append_cons.mp split with ⟨rfl, rfl, rfl⟩ | ⟨rest, rfl, rfl⟩
    · exact kept
    · exact clean before other rest rfl

theorem staysOpen_nil : StaysOpen [] := by
  intro before line after split
  simp at split

theorem StaysOpen.snoc {lines : List Line} {line : Line} (stays : StaysOpen lines)
    (last : line.Closes → 0 < depth lines) : StaysOpen (lines ++ [line]) := by
  intro before other after split closes
  rcases snoc_eq_append_cons.mp split with ⟨rfl, rfl, rfl⟩ | ⟨rest, rfl, rfl⟩
  · exact last closes
  · exact stays before other rest rfl closes

theorem LeavesOpen.snoc {lines : List Line} {inside : Int} {head : Text} {number : Int}
    (leaves : LeavesOpen lines inside head number) (line : Line) (last : line.Closes → 0 < inside) :
    LeavesOpen (lines ++ [line]) (inside + line.depthChange) head number := by
  obtain ⟨before, opener, after, rfl, opens, isNumber, stays, rfl⟩ := leaves
  exact ⟨before, opener, after ++ [line], by simp, opens, isNumber, stays.snoc last, by simp⟩

theorem leavesOpen_opener {lines : List Line} {line : Line} {head : Text} (opens : line.OpensBlock head) :
    LeavesOpen (lines ++ [line]) 0 head line.number :=
  ⟨lines, line, [], rfl, opens, rfl, staysOpen_nil, rfl⟩

theorem not_breaks_quiet {line : Line} (quiet : line.Quiet) (lines : List Line) (flaw : Flaw) :
    ¬ Breaks lines line flaw := by
  rcases quiet with found | found | ⟨code, found⟩ <;> cases flaw <;> simp [Breaks, Line.Closes, found]

/-- A closing line keeps the rules when a block is open. -/
theorem not_breaks_closing {lines : List Line} {line : Line} (closes : line.Closes)
    (inside : depth lines ≠ 0) (flaw : Flaw) : ¬ Breaks lines line flaw := by
  rcases closes with found | ⟨head, found⟩ <;> cases flaw <;> simp [Breaks, Line.Closes, found, inside]

/-- An opener keeps the rules unless it continues a block from which output separates it. -/
theorem not_breaks_opener {lines : List Line} {line : Line} {head : Text}
    (opens : line.directive? = some (.opener head))
    (joined : Separated lines → Directive.isContinuation head = false) (flaw : Flaw) :
    ¬ Breaks lines line flaw := by
  cases flaw <;> simp only [Breaks, Line.Closes, opens, reduceCtorEq, Option.some.injEq,
    Directive.opener.injEq, false_and, exists_false, or_self, not_false_eq_true]
  rintro ⟨rfl, continues, separated, -⟩
  simp [joined separated] at continues

/-! ## What the matcher knows -/

/-- The heads and the lines of the open blocks, innermost first. -/
def outline (state : Matching) : List (Text × Int) :=
  state.stack.map fun block => (block.head, block.number)

@[simp] theorem outline_add (node : Node) (state : Matching) :
    outline (state.add node) = outline state := by
  unfold Matching.add
  split <;> simp_all [outline]

@[simp] theorem pending_add (node : Node) (state : Matching) :
    (state.add node).pending = state.pending := by
  unfold Matching.add
  split <;> rfl

@[simp] theorem gap_add (node : Node) (state : Matching) : (state.add node).gap = state.gap := by
  unfold Matching.add
  split <;> rfl

@[simp] theorem outline_settle (state : Matching) : outline state.settle = outline state := by
  unfold Matching.settle
  split
  · rfl
  · exact outline_add _ state

@[simp] theorem pending_settle (state : Matching) : state.settle.pending = none := by
  unfold Matching.settle
  split <;> simp_all

@[simp] theorem gap_settle (state : Matching) : state.settle.gap = state.gap := by
  unfold Matching.settle
  split <;> simp

theorem outline_output (line : Line) (state : Matching) : outline (state.output line) = outline state := by
  unfold Matching.output
  split
  · exact outline_add _ state
  · exact (outline_add _ _).trans (outline_settle state)

theorem pending_output (line : Line) (state : Matching) : (state.output line).pending = none := by
  unfold Matching.output
  split <;> simp_all

theorem gap_output (line : Line) (state : Matching) :
    (state.output line).gap.isSome ↔ state.pending.isSome ∨ state.gap.isSome := by
  unfold Matching.output
  split <;> simp_all

/-- What the matcher knows of the lines so far: the open blocks, whether an opener would continue the block before
it, and whether output came in between. -/
structure Tracks (lines : List Line) (state : Matching) : Prop where
  count : depth lines = (outline state).length
  leaves : ∀ (index : Nat) head number, (outline state)[index]? = some (head, number) →
    LeavesOpen lines index head number
  pending : state.pending.isSome ↔ Chained lines
  gap : state.gap.isSome ↔ Separated lines

theorem tracks_start : Tracks [] Matching.start where
  count := rfl
  leaves index head number found := by simp [outline, Matching.start] at found
  pending := by simp [Matching.start, not_chained_nil]
  gap := by simp [Matching.start, not_separated_nil]

/-- A line that leaves the open blocks as they are. -/
theorem Tracks.quiet {lines : List Line} {line : Line} {state next : Matching} (tracks : Tracks lines state)
    (quiet : line.Quiet) (same : outline next = outline state)
    (pending : next.pending.isSome ↔ Chained (lines ++ [line]))
    (gap : next.gap.isSome ↔ Separated (lines ++ [line])) : Tracks (lines ++ [line]) next where
  count := by rw [depth_snoc, quiet.depthChange, same, Int.add_zero, tracks.count]
  leaves index head number found := by
    have left := (tracks.leaves index head number (same ▸ found)).snoc line fun closes =>
      absurd closes quiet.not_closes
    rwa [quiet.depthChange, Int.add_zero] at left
  pending := pending
  gap := gap

/-- A line that opens one more block. -/
theorem Tracks.opener {lines : List Line} {line : Line} {state next : Matching} {head : Text}
    (tracks : Tracks lines state) (opens : line.directive? = some (.opener head))
    (one : outline next = (head, line.number) :: outline state)
    (pending : next.pending = none) (gap : next.gap = none) : Tracks (lines ++ [line]) next where
  count := by simp [depth_snoc, Line.depthChange, opens, one, tracks.count]
  leaves index found number member := by
    rw [one] at member
    cases index with
    | zero =>
        obtain ⟨rfl, rfl⟩ : head = found ∧ line.number = number := by simpa using member
        exact leavesOpen_opener (.inl opens)
    | succ index =>
        have left := (tracks.leaves index found number (by simpa using member)).snoc line
          (by simp [Line.Closes, opens])
        simpa [Line.depthChange, opens] using left
  pending := by simp [pending, chained_snoc, opens]
  gap := by simp [gap, separated_snoc, opens]

/-- A line that closes the innermost block, and may open another one in its place. -/
theorem Tracks.closer {lines : List Line} {line : Line} {state next : Matching} {block : Text × Int}
    {blocks : List (Text × Int)} (tracks : Tracks lines state) (before : outline state = block :: blocks)
    (closes : line.directive? = some .closer) (one : outline next = blocks)
    (pending : next.pending.isSome) (gap : next.gap = none) : Tracks (lines ++ [line]) next where
  count := by simp [depth_snoc, Line.depthChange, closes, one, tracks.count, before]
  leaves index head number member := by
    have left := (tracks.leaves (index + 1) head number (by simpa [before, ← one] using member)).snoc
      line (by omega)
    simpa [Line.depthChange, closes, Int.add_neg_cancel_right] using left
  pending := by simp [pending, chained_snoc, closes]
  gap := by simp [gap, separated_snoc, closes]

theorem Tracks.reopener {lines : List Line} {line : Line} {state next : Matching} {head : Text}
    {block : Text × Int} {blocks : List (Text × Int)} (tracks : Tracks lines state)
    (before : outline state = block :: blocks) (reopens : line.directive? = some (.reopener head))
    (one : outline next = (head, line.number) :: blocks)
    (pending : next.pending = none) (gap : next.gap = none) : Tracks (lines ++ [line]) next where
  count := by simp [depth_snoc, Line.depthChange, reopens, one, tracks.count, before]
  leaves index found number member := by
    rw [one] at member
    cases index with
    | zero =>
        obtain ⟨rfl, rfl⟩ : head = found ∧ line.number = number := by simpa using member
        exact leavesOpen_opener (.inr reopens)
    | succ index =>
        have left := (tracks.leaves (index + 1) found number (by simpa [before] using member)).snoc
          line (by omega)
        simpa [Line.depthChange, reopens] using left
  pending := by simp [pending, chained_snoc, reopens]
  gap := by simp [gap, separated_snoc, reopens]

/-! ## Steps and runs of the matcher -/

theorem closeBlock_of_outline_nil {state : Matching} (number : Int) (empty : outline state = []) :
    state.closeBlock number = .error (.unmatchedCloser number) := by
  have stack : state.settle.stack = [] := by
    rw [← outline_settle] at empty
    simpa [outline] using empty
  simp [Matching.closeBlock, stack]

theorem closeBlock_of_outline_cons {state : Matching} {block : Text × Int} {blocks : List (Text × Int)}
    (number : Int) (before : outline state = block :: blocks) :
    ∃ next, state.closeBlock number = .ok next ∧ outline next = blocks ∧ next.pending.isSome ∧
      next.gap = state.gap := by
  rw [← outline_settle] at before
  obtain ⟨first, others, stack, -, rest⟩ := List.map_eq_cons_iff.mp before
  cases chain : first.chain with
  | none =>
      refine ⟨{ state.settle with stack := others, pending := some (first.close number) }, ?_, rest, rfl,
        gap_settle state⟩
      simp [Matching.closeBlock, stack, chain]
  | some earlier =>
      refine ⟨{ state.settle with stack := others, pending := some (earlier.addArm (first.close number)) },
        ?_, rest, rfl, gap_settle state⟩
      simp [Matching.closeBlock, stack, chain]

theorem openBlock_of_pending {state : Matching} (number : Int) (head : Text)
    (pending : state.pending.isSome) :
    ∃ next, state.openBlock number head = .ok next ∧ outline next = (head, number) :: outline state ∧
      next.pending = none := by
  obtain ⟨chain, found⟩ := Option.isSome_iff_exists.mp pending
  exact ⟨_, by simp only [Matching.openBlock, found]; rfl, rfl, rfl⟩

theorem openBlock_of_free {state : Matching} (number : Int) (head : Text) (free : state.pending = none)
    (joined : state.gap.isSome → Directive.isContinuation head = false) :
    ∃ next, state.openBlock number head = .ok next ∧ outline next = (head, number) :: outline state ∧
      next.pending = none := by
  refine ⟨{ state with stack := ⟨head, number, [], none⟩ :: state.stack }, ?_, rfl, free⟩
  cases gap : state.gap with
  | none => simp [Matching.openBlock, free, gap]
  | some closer =>
      have plain : Directive.isContinuation head = false := joined (by simp [gap])
      simp [Matching.openBlock, free, gap, plain]

theorem openBlock_of_separated {state : Matching} (number : Int) (head : Text) {closer : Int}
    (free : state.pending = none) (gap : state.gap = some closer)
    (continues : Directive.isContinuation head = true) :
    state.openBlock number head = .error (.separatedArm head closer number) := by
  simp [Matching.openBlock, free, gap, continues]

theorem step_of_output {state : Matching} {line : Line} (output : line.directive? = none) :
    state.step line = .ok (state.output line) := by
  unfold Matching.step
  unfold Line.directive? at output
  split <;> simp_all

theorem step_of_directive {state : Matching} {line : Line} {directive : Directive}
    (found : line.directive? = some directive) :
    state.step line = state.direct line.number directive := by
  unfold Matching.step
  unfold Line.directive? at found
  split <;> simp_all

/-- Either a line keeps the rules and the matcher goes on, or it breaks one and the matcher reports that. -/
def Judges (lines : List Line) (line : Line) : Except Flaw Matching → Prop
  | .ok next => Tracks (lines ++ [line]) next ∧ ∀ flaw, ¬ Breaks lines line flaw
  | .error flaw => Breaks lines line flaw

theorem Tracks.step {lines : List Line} {state : Matching} (tracks : Tracks lines state) (line : Line) :
    Judges lines line (state.step line) := by
  cases found : line.directive? with
  | none =>
      rw [step_of_output found]
      refine ⟨tracks.quiet (.inl found) (outline_output line state) ?_ ?_, not_breaks_quiet (.inl found) lines⟩
      · simp [pending_output, chained_snoc, found]
      · rw [gap_output, tracks.pending, tracks.gap]
        simp [separated_snoc, found]
  | some directive =>
      rw [step_of_directive found]
      cases directive with
      | comment =>
          refine ⟨tracks.quiet (.inr (.inl found)) rfl ?_ ?_, not_breaks_quiet (.inr (.inl found)) lines⟩
          · rw [tracks.pending]
            simp [chained_snoc, found]
          · rw [tracks.gap]
            simp [separated_snoc, found]
      | statement code =>
          have quiet : line.Quiet := .inr (.inr ⟨code, found⟩)
          refine ⟨tracks.quiet quiet ?_ ?_ ?_, not_breaks_quiet quiet lines⟩
          · exact (outline_add _ _).trans (outline_settle state)
          · simp [Matching.closeGap, chained_snoc, found]
          · simp [Matching.closeGap, separated_snoc, found]
      | malformed rest => exact ⟨found, rfl⟩
      | closer =>
          cases before : outline state with
          | nil =>
              have flawed := closeBlock_of_outline_nil line.number before
              simp only [Matching.direct, flawed, Except.map]
              exact ⟨.inl found, by simp [tracks.count, before], rfl⟩
          | cons block blocks =>
              obtain ⟨next, closed, one, pending, -⟩ := closeBlock_of_outline_cons line.number before
              have inside : depth lines ≠ 0 := by simp [tracks.count, before]; omega
              simp only [Matching.direct, closed, Except.map]
              exact ⟨tracks.closer before found one pending rfl, not_breaks_closing (.inl found) inside⟩
      | reopener head =>
          cases before : outline state with
          | nil =>
              have flawed := closeBlock_of_outline_nil line.number before
              simp only [Matching.direct, flawed]
              exact ⟨.inr ⟨head, found⟩, by simp [tracks.count, before], rfl⟩
          | cons block blocks =>
              obtain ⟨between, closed, one, pending, -⟩ := closeBlock_of_outline_cons line.number before
              obtain ⟨next, opened, two, free⟩ := openBlock_of_pending line.number head pending
              have inside : depth lines ≠ 0 := by simp [tracks.count, before]; omega
              have direct : state.direct line.number (.reopener head) = .ok next.closeGap := by
                simp [Matching.direct, closed, opened, bind, Except.bind, Except.map]
              rw [direct]
              rw [one] at two
              exact ⟨tracks.reopener before found two free rfl,
                not_breaks_closing (.inr ⟨head, found⟩) inside⟩
      | opener head =>
          cases pending : state.pending with
          | some chain =>
              obtain ⟨next, opened, one, free⟩ :=
                openBlock_of_pending line.number head (Option.isSome_iff_exists.mpr ⟨chain, pending⟩)
              simp only [Matching.direct, opened, Except.map]
              have chained : Chained lines := tracks.pending.mp (by simp [pending])
              exact ⟨tracks.opener found one free rfl,
                not_breaks_opener found fun separated => absurd separated chained.not_separated⟩
          | none =>
              by_cases broken : Separated lines ∧ Directive.isContinuation head = true
              · obtain ⟨closer, gap⟩ := Option.isSome_iff_exists.mp (tracks.gap.mpr broken.1)
                have flawed := openBlock_of_separated line.number head pending gap broken.2
                simp only [Matching.direct, flawed, Except.map]
                exact ⟨found, broken.2, broken.1, rfl⟩
              · have joined : Separated lines → Directive.isContinuation head = false := by
                  simpa using broken
                obtain ⟨next, opened, one, free⟩ := openBlock_of_free line.number head pending
                  fun gap => joined (tracks.gap.mp gap)
                simp only [Matching.direct, opened, Except.map]
                exact ⟨tracks.opener found one free rfl, not_breaks_opener found joined⟩

theorem finish_of_outline_nil {state : Matching} (empty : outline state = []) :
    state.finish = .ok state.settle.root := by
  have stack : state.settle.stack = [] := by
    rw [← outline_settle] at empty
    simpa [outline] using empty
  simp [Matching.finish, stack]

theorem finish_of_outline_cons {state : Matching} {head : Text} {number : Int}
    {blocks : List (Text × Int)} (opened : outline state = (head, number) :: blocks) :
    state.finish = .error (.unclosedBlock head number) := by
  rw [← outline_settle] at opened
  obtain ⟨first, others, stack, same, -⟩ := List.map_eq_cons_iff.mp opened
  obtain ⟨rfl, rfl⟩ : first.head = head ∧ first.number = number := by simpa using same
  simp [Matching.finish, stack]

/-- The rules hold for some lines and the matcher tracks them, or it has reported the first line that breaks
one. -/
theorem Tracks.run {before : List Line} {state : Matching} (tracks : Tracks before state)
    (clean : Clean before) (lines : List Line) :
    match state.run lines with
    | .ok final => Tracks (before ++ lines) final ∧ Clean (before ++ lines)
    | .error flaw => ∃ older line after, before ++ lines = older ++ line :: after ∧ Clean older ∧
        Breaks older line flaw := by
  induction lines generalizing before state with
  | nil => simpa [Matching.run] using ⟨tracks, clean⟩
  | cons line lines ih =>
      have judged := tracks.step line
      cases step : state.step line with
      | error flaw =>
          rw [step] at judged
          simp only [Matching.run, step]
          exact ⟨before, line, lines, rfl, clean, judged⟩
      | ok next =>
          rw [step] at judged
          have rest := ih judged.1 (clean_snoc.mpr ⟨clean, judged.2⟩)
          simpa only [Matching.run, step, List.append_assoc, List.singleton_append] using rest

end Braces
end Stencil
