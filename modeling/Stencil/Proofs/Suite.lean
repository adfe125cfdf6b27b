import Stencil.Plan.Layout
import Stencil.Routine.Generate

/-!
# Block structure of generated routines

The suite of a list of nodes is defined by recursion on the tree: the lines that a routine must hold for the
nodes, each at its level.  The generator works through a flat plan with a stack of bodies and literals that are
held back; its sheet is shown to be the prologue, the suite of the tree, and the two lines that return.
-/

namespace Stencil

namespace Routine

/-! ## Suites of block trees -/

/-- A line of a suite before its indentation is written out. -/
structure SuiteLine where
  /-- How many blocks are around the line. -/
  level : Nat
  text : Text
  /-- The template line that it comes from. -/
  origin : Int
  deriving DecidableEq, Repr

/-- The line as a sheet holds it. -/
def SuiteLine.generated (line : SuiteLine) : GeneratedLine :=
  ⟨Sheet.indentation line.level ++ line.text, line.origin⟩

/-- What a node contributes to the suite around it: literal text, which neighbours may extend, or a line. -/
inductive Draft where
  | text (content : Text) (origin : Int)
  | line (written : SuiteLine)
  deriving DecidableEq, Repr

namespace Draft

/-- Join neighbouring texts; the joined text comes from the line of its first part. -/
def joinTexts : List Draft → List Draft
  | [] => []
  | .line written :: drafts => .line written :: joinTexts drafts
  | .text content origin :: drafts => match joinTexts drafts with
    | .text more _ :: others => .text (content ++ more) origin :: others
    | others => .text content origin :: others

/-- A draft as a line of a suite: a text is appended by a call. -/
def toLine (level : Nat) : Draft → SuiteLine
  | .text content origin => ⟨level, Writing.appendLine (Quoted.encode content), origin⟩
  | .line written => written

/-- The suite of a list of drafts: every longest run of texts becomes one line. -/
def toLines (level : Nat) (drafts : List Draft) : List SuiteLine :=
  (joinTexts drafts).map (toLine level)

end Draft

/-- A suite, or the line that does nothing when the suite is empty. -/
def orPass (level : Nat) (origin : Int) : List SuiteLine → List SuiteLine
  | [] => [⟨level, "pass", origin⟩]
  | lines => lines

/-- The line of the template that ends a block's own body. -/
def bodyStop (stop : Int) : List Block → Int
  | [] => stop
  | arm :: _ => arm.number

/-- What one part of a text line contributes: an expression gives an assignment and an append. -/
def partDrafts (escape : Bool) (level : Nat) (origin : Int) : Part → List Draft
  | .literal [] => []
  | .literal content => [.text content origin]
  | .fragment fragment =>
    [.line ⟨level, valueName ++ " = " ++ fragment.code, origin⟩,
      .line ⟨level, Writing.appendLine (Writing.converter escape ++ ['('] ++ valueName ++ [')']), origin⟩]

/-- What an output line contributes: its parts and its terminator. -/
def lineDrafts (escape : Bool) (level : Nat) (line : Line) : List Draft :=
  (match line.form with
    | .text parts => parts.flatMap (partDrafts escape level line.number)
    | _ => []) ++
  match line.terminator with
  | [] => []
  | terminator => [.text terminator line.number]

mutual

/-- What a node contributes to the suite around it at a level. -/
def nodeDrafts (escape : Bool) (level : Nat) : Node → List Draft
  | .leaf _ line => lineDrafts escape level line
  | .statement number code => [.line ⟨level, code, number⟩]
  | .stray _ _ => []
  | .control (.mk number head body arms stop) =>
    .line ⟨level, head ++ [':'], number⟩ ::
      (orPass (level + 1) (bodyStop stop arms) (Draft.toLines (level + 1) (draftsAmong escape (level + 1) body))
        ++ armLines escape level arms).map .line

/-- What a list of nodes contributes. -/
def draftsAmong (escape : Bool) (level : Nat) : List Node → List Draft
  | [] => []
  | node :: nodes => nodeDrafts escape level node ++ draftsAmong escape level nodes

/-- The lines of arms: each head at the level of the construct, with its own suite one level further in. -/
def armLines (escape : Bool) (level : Nat) : List Block → List SuiteLine
  | [] => []
  | .mk number head body _ stop :: arms =>
    ⟨level, head ++ [':'], number⟩ ::
      (orPass (level + 1) stop (Draft.toLines (level + 1) (draftsAmong escape (level + 1) body))
        ++ armLines escape level arms)

end

/-- The suite of a list of nodes at a level. -/
def suite (escape : Bool) (level : Nat) (nodes : List Node) : List SuiteLine :=
  Draft.toLines level (draftsAmong escape level nodes)

/-! ## Joining texts -/

namespace Draft

@[simp] theorem toLines_nil (level : Nat) : toLines level [] = [] := rfl

/-- A line keeps the texts before it apart from those behind it. -/
theorem joinTexts_append_line (written : SuiteLine) (before after : List Draft) :
    joinTexts (before ++ .line written :: after) =
      joinTexts before ++ .line written :: joinTexts after := by
  induction before with
  | nil => rfl
  | cons draft before ih =>
      cases draft with
      | line first => simp [joinTexts, ih]
      | text content origin =>
          simp only [List.cons_append, joinTexts, ih]
          cases joinTexts before with
          | nil => rfl
          | cons joined others => cases joined <;> rfl

theorem toLines_append_line (level : Nat) (written : SuiteLine) (before after : List Draft) :
    toLines level (before ++ .line written :: after) =
      toLines level before ++ written :: toLines level after := by
  simp [toLines, joinTexts_append_line, toLine]

theorem toLines_append_lines (level : Nat) (written : List SuiteLine) (after : List Draft) :
    toLines level (written.map .line ++ after) = written ++ toLines level after := by
  induction written with
  | nil => rfl
  | cons first written ih =>
      rw [List.cons_append, ← ih]
      exact toLines_append_line level first [] (written.map .line ++ after)

/-- Two texts next to each other are one text. -/
theorem joinTexts_text_text (content more : Text) (origin other : Int) (after : List Draft) :
    joinTexts (.text content origin :: .text more other :: after) =
      joinTexts (.text (content ++ more) origin :: after) := by
  simp only [joinTexts]
  cases joinTexts after with
  | nil => rfl
  | cons joined others => cases joined <;> simp

theorem joinTexts_eq_nil_iff (drafts : List Draft) : joinTexts drafts = [] ↔ drafts = [] := by
  constructor
  · intro empty
    cases drafts with
    | nil => rfl
    | cons draft drafts =>
        cases draft with
        | line written => simp [joinTexts] at empty
        | text content origin =>
            simp only [joinTexts] at empty
            split at empty <;> simp at empty
  · rintro rfl
    rfl

theorem toLines_eq_nil_iff (level : Nat) (drafts : List Draft) :
    toLines level drafts = [] ↔ drafts = [] := by
  simp [toLines, joinTexts_eq_nil_iff]

end Draft

/-! ## What the generator has written -/

namespace Writing

/-- The literals that are held back, as a draft. -/
def pending (state : Writing) : List Draft :=
  match state.held with
  | [] => []
  | held => [.text held state.heldLine]

/-- The lines of the sheet when more drafts follow the literals that are held back. -/
def followedBy (state : Writing) (drafts : List Draft) : List GeneratedLine :=
  state.sheet.lines
    ++ (Draft.toLines state.sheet.level (state.pending ++ drafts)).map SuiteLine.generated

/-- Whether the innermost body has a line or will get one from the literals that are held back. -/
def Busy (state : Writing) : Prop := state.frame.written = true ∨ state.held ≠ []

/-- The second state has written some drafts into the innermost body of the first one. -/
structure Wrote (drafts : List Draft) (before after : Writing) : Prop where
  level : after.sheet.level = before.sheet.level
  outer : after.outer = before.outer
  arm : after.frame.arm = before.frame.arm
  lines : ∀ more, after.followedBy more = before.followedBy (drafts ++ more)
  busy : after.Busy ↔ before.Busy ∨ drafts ≠ []

theorem Wrote.refl (state : Writing) : Wrote [] state state :=
  ⟨rfl, rfl, rfl, fun _ => rfl, by simp⟩

theorem Wrote.trans {first second : List Draft} {before between after : Writing}
    (left : Wrote first before between) (right : Wrote second between after) :
    Wrote (first ++ second) before after where
  level := right.level.trans left.level
  outer := right.outer.trans left.outer
  arm := right.arm.trans left.arm
  lines more := by rw [right.lines, left.lines, List.append_assoc]
  busy := by
    rw [right.busy, left.busy]
    simp only [ne_eq, List.append_eq_nil_iff, Classical.not_and_iff_not_or_not, or_assoc]

@[simp] theorem held_flush (state : Writing) : state.flush.held = [] := by
  unfold flush
  split <;> simp_all

@[simp] theorem level_flush (state : Writing) : state.flush.sheet.level = state.sheet.level := by
  unfold flush
  split <;> rfl

@[simp] theorem outer_flush (state : Writing) : state.flush.outer = state.outer := by
  unfold flush
  split <;> rfl

@[simp] theorem arm_flush (state : Writing) : state.flush.frame.arm = state.frame.arm := by
  unfold flush
  split <;> rfl

@[simp] theorem lastLine_flush (state : Writing) : state.flush.lastLine = state.lastLine := by
  unfold flush
  split <;> rfl

theorem written_flush (state : Writing) : state.flush.frame.written = true ↔ state.Busy := by
  unfold flush Busy
  split <;> simp_all [emit]

theorem lines_flush (state : Writing) : state.flush.sheet.lines = state.followedBy [] := by
  unfold flush followedBy pending
  split
  · simp [*]
  · simp [emit, Sheet.write, Sheet.writeAt, Draft.toLines, Draft.joinTexts, Draft.toLine,
      SuiteLine.generated]

/-- With nothing held back, the drafts that follow are written as they stand. -/
theorem followedBy_of_held {state : Writing} (idle : state.held = []) (drafts : List Draft) :
    state.followedBy drafts =
      state.sheet.lines ++ (Draft.toLines state.sheet.level drafts).map SuiteLine.generated := by
  simp [followedBy, pending, idle]

theorem followedBy_line (state : Writing) (written : SuiteLine) (drafts : List Draft) :
    state.followedBy (.line written :: drafts) =
      state.followedBy [] ++ written.generated ::
        (Draft.toLines state.sheet.level drafts).map SuiteLine.generated := by
  simp [followedBy, Draft.toLines_append_line, List.append_assoc]

/-- A line that is emitted after the literals before it. -/
theorem wrote_emit (state : Writing) (text : Text) (origin : Int) :
    Wrote [.line ⟨state.sheet.level, text, origin⟩] state (state.flush.emit text origin) where
  level := by simp [emit, Sheet.write, Sheet.writeAt]
  outer := by simp [emit]
  arm := by simp [emit]
  lines more := by
    rw [List.singleton_append, followedBy_line, ← lines_flush]
    simp [followedBy, pending, emit, Sheet.write, Sheet.writeAt, SuiteLine.generated]
  busy := by simp [Busy, emit]

/-- A literal is held back. -/
theorem wrote_literal (state : Writing) (text : Text) (origin : Int) (occupied : text ≠ []) :
    ∃ next, state.step (.literal text origin) = some next ∧
      Wrote [.text text origin] state next := by
  refine ⟨_, rfl, ⟨rfl, rfl, rfl, ?_, ?_⟩⟩
  · intro more
    obtain ⟨char, rest, rfl⟩ := List.exists_cons_of_ne_nil occupied
    cases held : state.held with
    | nil => simp [followedBy, pending, held]
    | cons first others => simp [followedBy, pending, held, Draft.toLines, Draft.joinTexts_text_text]
  · simp [Busy, occupied]

/-! ## Running instructions -/

/-- Running some instructions at a level writes some drafts. -/
def Writes (level : Nat) (instructions : List Instruction) (drafts : List Draft) : Prop :=
  ∀ state, state.sheet.level = level →
    ∃ next, state.run instructions = some next ∧ Wrote drafts state next

theorem run_append (state : Writing) (first second : List Instruction) :
    state.run (first ++ second) = (state.run first).bind fun next => next.run second := by
  induction first generalizing state with
  | nil => rfl
  | cons instruction first ih =>
      simp only [List.cons_append, run]
      cases state.step instruction with
      | none => rfl
      | some next => exact ih next

theorem Writes.nil (level : Nat) : Writes level [] [] :=
  fun state _ => ⟨state, rfl, .refl state⟩

theorem Writes.append {level : Nat} {first second : List Instruction} {left right : List Draft}
    (writes : Writes level first left) (after : Writes level second right) :
    Writes level (first ++ second) (left ++ right) := by
  intro state atLevel
  obtain ⟨between, firstRun, firstWrote⟩ := writes state atLevel
  obtain ⟨next, secondRun, secondWrote⟩ := after between (firstWrote.level.trans atLevel)
  exact ⟨next, by rw [run_append, firstRun]; exact secondRun, firstWrote.trans secondWrote⟩

theorem Writes.flatMap {α : Type} {level : Nat} {instructions : α → List Instruction}
    {drafts : α → List Draft} (writes : ∀ item, Writes level (instructions item) (drafts item))
    (items : List α) : Writes level (items.flatMap instructions) (items.flatMap drafts) := by
  induction items with
  | nil => exact .nil level
  | cons item items ih => simpa using (writes item).append ih

/-- The state with the template line of the instruction that is taken next. -/
def note (line : Int) (state : Writing) : Writing := { state with lastLine := line }

theorem wrote_note (state : Writing) (line : Int) : Wrote [] state (state.note line) :=
  ⟨rfl, rfl, rfl, fun _ => rfl, by simp [Busy, note]⟩

theorem writes_literal (level : Nat) (text : Text) (origin : Int) (occupied : text ≠ []) :
    Writes level [.literal text origin] [.text text origin] := by
  intro state _
  obtain ⟨next, step, wrote⟩ := state.wrote_literal text origin occupied
  exact ⟨next, by simp [run, step], wrote⟩

theorem writes_exec (level : Nat) (code : Text) (origin : Int) :
    Writes level [.exec code origin] [.line ⟨level, code, origin⟩] := by
  rintro state rfl
  exact ⟨(state.note origin).flush.emit code origin, rfl,
    (wrote_note state origin).trans (wrote_emit (state.note origin) code origin)⟩

theorem flush_of_held {state : Writing} (nothing : state.held = []) : state.flush = state := by
  simp [flush, nothing]

theorem writes_insert (escape : Bool) (level : Nat) (code : Text) (origin : Int) :
    Writes level [.insert code escape origin]
      [.line ⟨level, valueName ++ " = " ++ code, origin⟩,
        .line ⟨level, appendLine (converter escape ++ ['('] ++ valueName ++ [')']), origin⟩] := by
  rintro state rfl
  let assigned := (state.note origin).flush.emit (valueName ++ " = " ++ code) origin
  have assignment : Wrote _ state assigned :=
    (wrote_note state origin).trans (wrote_emit (state.note origin) _ origin)
  have append := wrote_emit assigned
    (appendLine (converter escape ++ ['('] ++ valueName ++ [')'])) origin
  rw [assignment.level, flush_of_held (by simp [assigned, emit])] at append
  exact ⟨_, rfl, assignment.trans append⟩

/-! ## Bodies and arms -/

/-- The innermost body is complete, and the line that does nothing stands in it if nothing else does. -/
def settled (origin : Int) (state : Writing) : Writing :=
  let filled := state.flush.fill origin
  { filled with frame := { filled.frame with written := true } }

@[simp] theorem held_settled (state : Writing) (origin : Int) : (state.settled origin).held = [] := by
  simp only [settled, fill]
  split <;> simp

@[simp] theorem level_settled (state : Writing) (origin : Int) :
    (state.settled origin).sheet.level = state.sheet.level := by
  simp only [settled, fill]
  split <;> simp [Sheet.write, Sheet.writeAt]

@[simp] theorem outer_settled (state : Writing) (origin : Int) :
    (state.settled origin).outer = state.outer := by
  simp only [settled, fill]
  split <;> simp

@[simp] theorem frame_settled (state : Writing) (origin : Int) :
    (state.settled origin).frame = ⟨true, state.frame.arm⟩ := by
  simp only [settled, fill]
  split <;> simp

/-- The lines of a body that was empty when it was begun. -/
theorem lines_settled {drafts : List Draft} {before after : Writing} (origin : Int)
    (wrote : Wrote drafts before after) (idle : before.held = []) (empty : before.frame.written = false) :
    (after.settled origin).sheet.lines = before.sheet.lines ++
      (orPass before.sheet.level origin (Draft.toLines before.sheet.level drafts)).map
        SuiteLine.generated := by
  have idleBefore : ¬ before.Busy := by simp [Busy, idle, empty]
  have lines : after.flush.sheet.lines =
      before.sheet.lines ++ (Draft.toLines before.sheet.level drafts).map SuiteLine.generated := by
    rw [lines_flush, wrote.lines, List.append_nil]
    simp [followedBy, pending, idle]
  by_cases nothing : drafts = []
  · have unwritten : ¬ after.flush.frame.written = true := by
      rw [written_flush, wrote.busy]
      simp [idleBefore, nothing]
    simp [settled, fill, unwritten, lines, nothing, orPass, Sheet.write, Sheet.writeAt,
      wrote.level, SuiteLine.generated]
  · have written : after.flush.frame.written = true := by
      rw [written_flush, wrote.busy]
      exact .inr nothing
    obtain ⟨first, others, shape⟩ := List.exists_cons_of_ne_nil
      (mt (Draft.toLines_eq_nil_iff before.sheet.level drafts).1 nothing)
    simp [settled, fill, written, lines, shape, orPass]

theorem settled_eq_self {state : Writing} {origin : Int} (idle : state.held = [])
    (written : state.frame.written = true) : state.settled origin = state := by
  rcases state with ⟨sheet, ⟨full, arm⟩, outer, held, heldLine, lastLine⟩
  simp only at idle written
  simp [settled, flush, fill, idle, written]

/-- The head of an arm settles the body before it. -/
theorem step_begin_arm (state : Writing) (head : Text) (origin : Int) :
    state.step (.begin head true origin) = (state.settled origin).step (.begin head true origin) := by
  cases held : state.held <;> cases written : state.frame.written <;>
    simp [step, Instruction.line, stepFlushed, settled, flush, fill, held, written, emit]

/-- The end of a block settles its last body. -/
theorem step_finish (state : Writing) (origin : Int) :
    state.step (.finish origin) = (state.settled origin).step (.finish origin) := by
  cases held : state.held <;> cases written : state.frame.written <;>
    simp [step, Instruction.line, stepFlushed, settled, flush, fill, held, written, emit]

theorem writes_part (escape : Bool) (level : Nat) (origin : Int) (part : Part) :
    Writes level (part.instructions escape origin) (partDrafts escape level origin part) := by
  cases part with
  | literal text =>
      cases text with
      | nil => exact .nil level
      | cons char text => exact writes_literal level (char :: text) origin (List.cons_ne_nil char text)
  | fragment fragment => exact writes_insert escape level fragment.code origin

theorem writes_line (escape : Bool) (level : Nat) (line : Line) :
    Writes level (line.instructions escape) (lineDrafts escape level line) := by
  apply Writes.append
  · cases line.form with
    | text parts => exact .flatMap (writes_part escape level line.number) parts
    | directive statement => exact .nil level
    | blank => exact .nil level
  · cases line.terminator with
    | nil => exact .nil level
    | cons char rest => exact writes_literal level (char :: rest) line.number (List.cons_ne_nil char rest)

/-- An arm is begun behind a body that is settled: its head goes one level out, and its body is the innermost
one. -/
def armBegun (head : Text) (origin : Int) (state : Writing) : Writing :=
  { state with
    sheet := state.sheet.writeAt ((state.sheet.level : Int) - 1) (head ++ [':']) origin
    frame := ⟨false, true⟩
    outer := state.frame :: state.outer
    lastLine := origin }

theorem step_begin_arm_settled (state : Writing) (head : Text) (origin : Int) :
    state.step (.begin head true origin) = some ((state.settled origin).armBegun head origin) := by
  rw [step_begin_arm]
  simp [step, Instruction.line, stepFlushed, flush, fill, armBegun]

/-- The innermost body is left for the one around it. -/
def leave (level : Nat) (frame : BodyFrame) (outer : List BodyFrame) (origin : Int) (state : Writing) :
    Writing :=
  { state.settled origin with
    sheet := { (state.settled origin).sheet with level := level }
    frame := frame
    outer := outer
    lastLine := origin }

theorem step_finish_arm {state : Writing} {frame : BodyFrame} {outer : List BodyFrame} (origin : Int)
    (around : state.outer = frame :: outer) (arm : state.frame.arm = true) :
    state.step (.finish origin) = some (state.leave state.sheet.level frame outer origin) := by
  rw [step_finish, leave, ← level_settled state origin]
  simp [step, Instruction.line, stepFlushed, flush, fill, around, arm, -level_settled]

theorem step_finish_block {state : Writing} {frame : BodyFrame} {outer : List BodyFrame} {level : Nat}
    (origin : Int) (around : state.outer = frame :: outer) (arm : state.frame.arm = false)
    (inside : state.sheet.level = level + 1) :
    state.step (.finish origin) = some (state.leave level frame outer origin) := by
  rw [step_finish]
  simp [step, Instruction.line, stepFlushed, flush, fill, around, arm, leave, Sheet.dedent?, inside]

/-- The second state has written some lines behind the settled body of the first one. -/
structure Extended (lines : List SuiteLine) (before after : Writing) : Prop where
  lines : after.sheet.lines = before.sheet.lines ++ lines.map SuiteLine.generated
  level : after.sheet.level = before.sheet.level
  frame : after.frame = before.frame
  outer : after.outer = before.outer
  held : after.held = []

/-- One arm behind a settled body, given what its own body writes. -/
theorem extended_arm (escape : Bool) {level : Nat} (head : Text) (number stop : Int) (body : List Node)
    {state : Writing} (inside : state.sheet.level = level + 1) (idle : state.held = [])
    (written : state.frame.written = true)
    (writes : Writes (level + 1) (nodeInstructions escape body) (draftsAmong escape (level + 1) body)) :
    ∃ next, state.run (.begin head true number :: (nodeInstructions escape body ++ [.finish stop]))
        = some next ∧
      Extended (⟨level, head ++ [':'], number⟩ :: orPass (level + 1) stop (suite escape (level + 1) body))
        state next := by
  obtain ⟨filled, filledRun, wrote⟩ := writes (state.armBegun head number) inside
  have finish := step_finish_arm stop wrote.outer wrote.arm
  refine ⟨filled.leave filled.sheet.level state.frame state.outer stop, ?_, ?_⟩
  · simp only [run, step_begin_arm_settled, settled_eq_self idle written, Option.bind_some, run_append,
      filledRun, finish]
  · have lines := lines_settled stop wrote idle rfl
    refine ⟨?_, wrote.level, rfl, rfl, by simp [leave]⟩
    simp [leave, lines, armBegun, Sheet.writeAt, inside, SuiteLine.generated, suite]

/-- What comes behind the first body of a construct settles it: an arm's head or the construct's end. -/
theorem run_settled (escape : Bool) (stop : Int) (arms : List Block) (state : Writing) :
    state.run (armInstructions escape arms ++ [.finish (lastStop stop arms)]) =
      (state.settled (bodyStop stop arms)).run
        (armInstructions escape arms ++ [.finish (lastStop stop arms)]) := by
  cases arms with
  | nil =>
      simp only [armInstructions, List.nil_append, run, lastStop, List.getLast?_nil, bodyStop]
      rw [step_finish]
  | cons arm arms =>
      cases arm with
      | mk number head body _ armStop =>
          simp only [armInstructions, List.cons_append, run, bodyStop, Block.number]
          rw [step_begin_arm]

/-- A whole construct, given what its own body and its arms write. -/
theorem wrote_block (escape : Bool) {level : Nat} (head : Text) (number stop : Int) (body : List Node)
    (arms : List Block)
    (writes : Writes (level + 1) (nodeInstructions escape body) (draftsAmong escape (level + 1) body))
    (extended : ∀ state : Writing, state.sheet.level = level + 1 → state.held = [] →
      state.frame.written = true → ∃ next, state.run (armInstructions escape arms) = some next ∧
        Extended (armLines escape level arms) state next) :
    Writes level ((Node.control (.mk number head body arms stop)).instructions escape)
      (nodeDrafts escape level (.control (.mk number head body arms stop))) := by
  rintro state rfl
  let headed := (state.note number).flush.emit (head ++ [':']) number
  let opened : Writing := { headed with
    sheet := headed.sheet.indent, frame := ⟨false, false⟩, outer := headed.frame :: headed.outer }
  have begun : state.step (.begin head false number) = some opened := rfl
  have headWrote : Wrote [.line ⟨state.sheet.level, head ++ [':'], number⟩] state headed :=
    (wrote_note state number).trans (wrote_emit (state.note number) (head ++ [':']) number)
  have inside : opened.sheet.level = state.sheet.level + 1 := congrArg (· + 1) headWrote.level
  have idle : opened.held = [] := by simp [opened, headed, emit]
  obtain ⟨filled, filledRun, wrote⟩ := writes opened inside
  have bodyLines := lines_settled (bodyStop stop arms) wrote idle rfl
  rw [inside] at bodyLines
  -- The first arm or the end of the construct settles the first body, at the same template line.
  obtain ⟨last, lastRun, ended⟩ := extended (filled.settled (bodyStop stop arms))
    (by rw [level_settled, wrote.level, inside]) (by simp) (by simp)
  have lastFrame : last.frame = ⟨true, false⟩ := by rw [ended.frame, frame_settled, wrote.arm]
  have lastOuter : last.outer = headed.frame :: headed.outer := by
    rw [ended.outer, outer_settled, wrote.outer]
  have lastInside : last.sheet.level = state.sheet.level + 1 := by
    rw [ended.level, level_settled, wrote.level, inside]
  have finish := step_finish_block (lastStop stop arms) lastOuter (by rw [lastFrame]) lastInside
  refine ⟨last.leave state.sheet.level headed.frame headed.outer (lastStop stop arms), ?_, ?_⟩
  · simp only [Node.instructions, List.append_assoc, run, begun, Option.bind_some]
    rw [run_append, filledRun, Option.bind_some, run_settled, run_append, lastRun]
    simp [run, finish]
  · have settledLast : last.settled (lastStop stop arms) = last :=
      settled_eq_self ended.held (by rw [lastFrame])
    have headLines : headed.sheet.lines =
        state.followedBy [] ++ [SuiteLine.generated ⟨state.sheet.level, head ++ [':'], number⟩] := by
      have written := headWrote.lines []
      rw [followedBy_of_held (by simp [headed, emit]), List.singleton_append, followedBy_line] at written
      simpa using written
    refine ⟨rfl, headWrote.outer, headWrote.arm, ?_, ?_⟩
    · intro more
      rw [followedBy_of_held (by simp [leave])]
      simp only [leave, settledLast, ended.lines, bodyLines, nodeDrafts, List.cons_append,
        followedBy_line, Draft.toLines_append_lines]
      simp [opened, headLines, Sheet.indent]
    · simp [Busy, nodeDrafts, leave, headed, emit]

mutual

theorem writes_node (escape : Bool) (level : Nat) (node : Node) :
    Writes level (node.instructions escape) (nodeDrafts escape level node) := by
  match node with
  | .leaf _ line => exact writes_line escape level line
  | .statement number code => exact writes_exec level code number
  | .stray _ _ => exact .nil level
  | .control (.mk number head body arms stop) =>
      exact wrote_block escape head number stop body arms (writes_nodes escape (level + 1) body)
        (extended_arms escape level arms)

theorem writes_nodes (escape : Bool) (level : Nat) (nodes : List Node) :
    Writes level (nodeInstructions escape nodes) (draftsAmong escape level nodes) := by
  match nodes with
  | [] => exact .nil level
  | node :: nodes => exact (writes_node escape level node).append (writes_nodes escape level nodes)

/-- Arms behind a settled body. -/
theorem extended_arms (escape : Bool) (level : Nat) (arms : List Block) (state : Writing)
    (inside : state.sheet.level = level + 1) (idle : state.held = []) (written : state.frame.written = true) :
    ∃ next, state.run (armInstructions escape arms) = some next ∧
      Extended (armLines escape level arms) state next := by
  match arms with
  | [] => exact ⟨state, rfl, ⟨by simp [armLines], rfl, rfl, rfl, idle⟩⟩
  | .mk number head body _ stop :: arms =>
      obtain ⟨between, firstRun, first⟩ := extended_arm escape head number stop body inside idle written
        (writes_nodes escape (level + 1) body)
      obtain ⟨next, restRun, rest⟩ := extended_arms escape level arms between
        (first.level.trans inside) first.held (by rw [first.frame, written])
      refine ⟨next, ?_, ?_, rest.level.trans first.level, rest.frame.trans first.frame,
        rest.outer.trans first.outer, rest.held⟩
      · rw [armInstructions, run_append, firstRun, Option.bind_some, restRun]
      · rw [rest.lines, first.lines]
        simp [armLines, suite]

end

theorem lastLine_step {state next : Writing} {instruction : Instruction}
    (step : state.step instruction = some next) : next.lastLine = instruction.line := by
  cases instruction with
  | literal text line =>
      obtain rfl := Option.some.inj step
      rfl
  | insert code escape line =>
      obtain rfl := Option.some.inj step
      exact lastLine_flush (state.note line)
  | exec code line =>
      obtain rfl := Option.some.inj step
      exact lastLine_flush (state.note line)
  | begin head arm line =>
      cases arm with
      | false =>
          obtain rfl := Option.some.inj step
          exact lastLine_flush (state.note line)
      | true =>
          rw [step_begin_arm_settled] at step
          obtain rfl := Option.some.inj step
          rfl
  | finish line =>
      cases around : state.outer with
      | nil => rw [step_finish] at step; simp [Writing.step, stepFlushed, flush, fill, around] at step
      | cons frame outer =>
          cases arm : state.frame.arm with
          | true =>
              rw [step_finish_arm line around arm] at step
              obtain rfl := Option.some.inj step
              rfl
          | false =>
              cases level : state.sheet.level with
              | zero =>
                  rw [step_finish] at step
                  simp [Writing.step, stepFlushed, flush, fill, around, arm, Sheet.dedent?, level] at step
              | succ level' =>
                  rw [step_finish_block line around arm level] at step
                  obtain rfl := Option.some.inj step
                  rfl

theorem lastLine_run {state next : Writing} {instructions : List Instruction}
    (run : state.run instructions = some next) :
    next.lastLine = (instructions.getLast?.map Instruction.line).getD state.lastLine := by
  induction instructions generalizing state with
  | nil =>
      obtain rfl := Option.some.inj run
      rfl
  | cons instruction rest ih =>
      obtain ⟨between, step, restRun⟩ := Option.bind_eq_some_iff.mp run
      rw [ih restRun, lastLine_step step]
      cases rest with
      | nil => rfl
      | cons second rest => simp [List.getLast?_cons]

end Writing

/-! ## Sheets of block trees -/

/-- The template line of the last instruction of a plan; the first line when there is none. -/
def finalLine (plan : Plan) : Int := (plan.instructions.getLast?.map Instruction.line).getD 1

/-- The two lines that return the joined output from the routine, and the routine from the factory. -/
def epilogue (origin : Int) : List SuiteLine :=
  [⟨2, "return ''.join(" ++ bufferName ++ [')'], origin⟩, ⟨1, "return " ++ renderName, origin⟩]

/-- The sheet of a block tree holds the prologue, the suite of the tree two levels in, and the two lines that
return; every level that the writer goes in it also goes out again. -/
theorem sheet?_plan (escape : Bool) (tree : Tree) :
    sheet? (tree.plan escape) = some
      ⟨prologue.lines ++ (suite escape 2 tree.body ++ epilogue (finalLine (tree.plan escape))).map
        SuiteLine.generated, 0⟩ := by
  obtain ⟨state, run, wrote⟩ := Writing.writes_nodes escape 2 tree.body opening rfl
  have level : state.sheet.level = 2 := wrote.level
  have lines : state.flush.sheet.lines =
      prologue.lines ++ (suite escape 2 tree.body).map SuiteLine.generated := by
    rw [Writing.lines_flush, wrote.lines, Writing.followedBy_of_held rfl, List.append_nil]
    rfl
  have last : state.lastLine = finalLine (tree.plan escape) := Writing.lastLine_run run
  have plan : (tree.plan escape).instructions = nodeInstructions escape tree.body := rfl
  simp only [sheet?, plan, run, Option.bind_eq_bind, Option.bind_some, Writing.lastLine_flush, last,
    closing, Sheet.dedent?, Sheet.write, Sheet.writeAt, Writing.level_flush, level, lines]
  simp [epilogue, SuiteLine.generated]

end Routine
end Stencil
