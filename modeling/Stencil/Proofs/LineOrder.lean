import Stencil.Plan.Layout
import Stencil.Proofs.Braces
import Stencil.Template

/-!
# Lines and instructions

A template can be read as a plan one line at a time: each line becomes a few instructions, and only the heads of
openers look back, to the nearest line that is no comment.  The plan of the block tree is this reading with the
ends of blocks put in, so that no line is lost, written twice or moved.
-/

namespace Stencil

namespace Instruction

/-- Whether an instruction ends a block. -/
def isFinish : Instruction → Bool
  | finish _ => true
  | _ => false

end Instruction

namespace Line

/-- Whether the nearest of some lines before an opener that is no comment is a lone closer. -/
def continuedBy (before : List Line) : Bool :=
  match before.reverse.find? fun line => decide (line.directive? ≠ some .comment) with
  | some nearest => decide (nearest.directive? = some .closer)
  | none => false

/-- The instruction of one part of a text line. -/
def partInstruction (escape : Bool) (number : Int) : Part → Instruction
  | .literal text => .literal text number
  | .fragment fragment => .insert fragment.code escape number

/-- The instructions of one line; `arm` says whether an opener on it continues the block before it. -/
def reading (escape arm : Bool) (line : Line) : List Instruction :=
  match line.form with
  | .text parts => parts.map (partInstruction escape line.number) ++
    if line.terminator = [] then [] else [.literal line.terminator line.number]
  | .blank => [.literal line.terminator line.number]
  | .directive statement => match Directive.ofStatement statement with
    | .comment | .closer | .malformed _ => []
    | .statement code => [.exec code line.number]
    | .opener head => [.begin head arm line.number]
    | .reopener head => [.begin head true line.number]

/-- The instructions of lines that stand behind other lines. -/
def readingFrom (escape : Bool) (before : List Line) : List Line → List Instruction
  | [] => []
  | line :: lines =>
    line.reading escape (continuedBy before) ++ readingFrom escape (before ++ [line]) lines

/-- What reading a template's text says of its lines: no literal run is empty, and a blank line has a
terminator. -/
def Proper (line : Line) : Prop :=
  match line.form with
  | .text parts => Part.literal [] ∉ parts
  | .blank => line.terminator ≠ []
  | .directive _ => True

/-! ## Lines of a source -/

theorem literal_nil_not_mem_run (text : Text) : Part.literal [] ∉ Part.run text := by
  cases text <;> simp [Part.run]

theorem literal_nil_not_mem_scanFrom {column : Nat} {content : Text} {parts : List Part}
    (scanned : scanFrom column content = .ok parts) : Part.literal [] ∉ parts := by
  fun_induction scanFrom column content generalizing parts with
  | case1 column content =>
      obtain rfl := Except.ok.inj scanned
      exact literal_nil_not_mem_run content
  | case2 =>
      obtain rfl := Except.ok.inj scanned
      simp [literal_nil_not_mem_run]
  | case3 => simp at scanned
  | case4 => simp at scanned
  | case5 column content before after found start inside rest closed stop others inner =>
      rename_i ih
      obtain rfl := Except.ok.inj scanned
      simp [literal_nil_not_mem_run, ih inner]

theorem proper_of_classify {marker : Text} {number : Int} {raw : RawLine} {line : Line}
    (ended : raw.1 = [] → raw.2 ≠ []) (classified : classify marker number raw = .ok line) : line.Proper := by
  unfold classify at classified
  split at classified
  · obtain rfl := Except.ok.inj classified
    trivial
  · split at classified
    · rename_i blank
      obtain rfl := Except.ok.inj classified
      exact ended (List.isEmpty_iff.mp blank)
    · split at classified
      · rename_i parts scanned
        obtain rfl := Except.ok.inj classified
        exact literal_nil_not_mem_scanFrom scanned
      · simp at classified

theorem proper_of_classifyFrom {marker : Text} {number : Int} {raws : List RawLine} {lines : List Line}
    (ended : ∀ raw ∈ raws, raw.1 = [] → raw.2 ≠ [])
    (classified : classifyFrom marker number raws = .ok lines) : ∀ line ∈ lines, line.Proper := by
  induction raws generalizing number lines with
  | nil =>
      obtain rfl := Except.ok.inj classified
      simp
  | cons raw raws ih =>
      simp only [classifyFrom] at classified
      split at classified
      · simp at classified
      · rename_i line first
        split at classified
        · simp at classified
        · rename_i others rest
          obtain rfl := Except.ok.inj classified
          intro other member
          rcases List.mem_cons.mp member with rfl | inside
          · exact proper_of_classify (ended raw (by simp)) first
          · exact ih (fun raw inside => ended raw (by simp [inside])) rest other inside

/-- Only a line with some content can be without a terminator. -/
theorem terminator_of_splitLines {source : Text} {raw : RawLine} (member : raw ∈ splitLines source) :
    raw.1 = [] → raw.2 ≠ [] := by
  have closed (piece : Text) : (RawLine.ofPiece piece).2 ≠ [] := by
    by_cases back : piece.getLast? = some '\r' <;> simp [RawLine.ofPiece, back]
  have closedBefore (pieces : List Text) (inside : raw ∈ pieces.map RawLine.ofPiece) : raw.2 ≠ [] := by
    obtain ⟨piece, -, rfl⟩ := List.mem_map.mp inside
    exact closed piece
  simp only [splitLines] at member
  split at member
  · rcases List.mem_append.mp member with inside | last
    · exact fun _ => closedBefore _ inside
    · obtain rfl := List.mem_singleton.mp last
      simp
  · exact fun _ => closedBefore _ member

theorem proper_of_ofSource {marker source : Text} {lines : List Line}
    (read : ofSource marker source = .ok lines) : ∀ line ∈ lines, line.Proper :=
  proper_of_classifyFrom (fun _ => terminator_of_splitLines) read

/-! ## Output lines and their leaves -/

theorem partInstruction_of_proper {escape : Bool} {number : Int} {part : Part}
    (proper : Part.literal [] ≠ part) :
    part.instructions escape number = [partInstruction escape number part] := by
  cases part with
  | fragment fragment => rfl
  | literal text =>
      cases text with
      | nil => exact absurd rfl proper
      | cons char text => rfl

/-- The reading of an output line is what its leaf becomes in the plan. -/
theorem instructions_eq_reading {escape arm : Bool} {line : Line} (proper : line.Proper)
    (output : line.directive? = none) : line.instructions escape = line.reading escape arm := by
  unfold Proper at proper
  unfold directive? at output
  unfold instructions reading
  split at proper
  · rename_i parts form
    have same : parts.flatMap (Part.instructions escape line.number) =
        parts.map (partInstruction escape line.number) := by
      rw [List.map_eq_flatMap, List.flatMap_def, List.flatMap_def]
      refine congrArg List.flatten (List.map_congr_left fun part member => ?_)
      exact partInstruction_of_proper fun empty => proper (empty ▸ member)
    simp [form, same, List.isEmpty_iff]
  · rename_i form
    simp [form, proper]
  · rename_i form
    simp [form] at output

/-! ## The nearest line -/

theorem continuedBy_snoc (before : List Line) (line : Line) :
    continuedBy (before ++ [line]) =
      if line.directive? = some .comment then continuedBy before
      else decide (line.directive? = some .closer) := by
  by_cases comment : line.directive? = some .comment <;> simp [continuedBy, comment]

theorem continuedBy_eq_true_iff (before : List Line) : continuedBy before = true ↔ Braces.Chained before := by
  induction before using List.reverseRecOn with
  | nil => simp [continuedBy, Braces.not_chained_nil]
  | append_singleton before line ih =>
      rw [continuedBy_snoc, Braces.chained_snoc]
      by_cases comment : line.directive? = some .comment
      · simp [comment, ih]
      · simp [comment]

end Line

/-! ## The plan of an unfinished tree -/

/-- Instructions without the ends of blocks. -/
def withoutEnds (instructions : List Instruction) : List Instruction :=
  instructions.filter fun instruction => !instruction.isFinish

@[simp] theorem withoutEnds_append (first second : List Instruction) :
    withoutEnds (first ++ second) = withoutEnds first ++ withoutEnds second :=
  List.filter_append ..

theorem nodeInstructions_append (escape : Bool) (first second : List Node) :
    nodeInstructions escape (first ++ second) =
      nodeInstructions escape first ++ nodeInstructions escape second := by
  induction first with
  | nil => rfl
  | cons node first ih => simp [nodeInstructions, ih]

theorem armInstructions_append (escape : Bool) (first second : List Block) :
    armInstructions escape (first ++ second) =
      armInstructions escape first ++ armInstructions escape second := by
  induction first with
  | nil => rfl
  | cons arm first ih =>
      cases arm with
      | mk number head body arms stop => simp [armInstructions, ih]

namespace Matching

/-- What a list of nodes contributes to the plan, without the ends of blocks. -/
def nodesView (escape : Bool) (nodes : List Node) : List Instruction :=
  withoutEnds (nodeInstructions escape nodes)

/-- What a chain that may still get arms contributes. -/
def chainView (escape : Bool) : Option Block → List Instruction
  | none => []
  | some block => nodesView escape [.control block]

/-- What an open block contributes: the chain that it continues, its head, and its body so far. -/
def openView (escape : Bool) (block : OpenBlock) : List Instruction :=
  chainView escape block.chain ++
    .begin block.head block.chain.isSome block.number :: nodesView escape block.body

/-- What everything that has been matched contributes, in the order of the lines. -/
def view (escape : Bool) (state : Matching) : List Instruction :=
  nodesView escape state.root ++
    (state.stack.reverse.flatMap (openView escape) ++ chainView escape state.pending)

@[simp] theorem nodesView_append (escape : Bool) (first second : List Node) :
    nodesView escape (first ++ second) = nodesView escape first ++ nodesView escape second := by
  simp [nodesView, nodeInstructions_append]

theorem view_add (escape : Bool) (node : Node) (state : Matching) (free : state.pending = none) :
    (state.add node).view escape = state.view escape ++ nodesView escape [node] := by
  unfold add
  cases stack : state.stack with
  | nil => simp [view, chainView, free, stack]
  | cons block blocks => simp [view, chainView, openView, free, stack]

theorem view_settle (escape : Bool) (state : Matching) :
    state.settle.view escape = state.view escape := by
  cases pending : state.pending with
  | none => simp [settle, pending]
  | some chain =>
      have added := view_add escape (.control chain) { state with pending := none } rfl
      rw [settle_of_pending pending, added]
      simp [view, chainView, pending]

theorem nodesView_addArm (escape : Bool) (chain : Block) (number stop : Int) (head : Text)
    (body : List Node) :
    nodesView escape [.control (chain.addArm (.mk number head body [] stop))] =
      nodesView escape [.control chain] ++ .begin head true number :: nodesView escape body := by
  cases chain with
  | mk first firstHead firstBody arms firstStop =>
      simp [nodesView, nodeInstructions, Block.addArm, Node.instructions, armInstructions,
        armInstructions_append, withoutEnds, Instruction.isFinish]

theorem nodesView_block (escape : Bool) (number stop : Int) (head : Text) (body : List Node) :
    nodesView escape [.control (.mk number head body [] stop)] =
      .begin head false number :: nodesView escape body := by
  simp [nodesView, nodeInstructions, Node.instructions, armInstructions, withoutEnds,
    Instruction.isFinish]

theorem view_closeBlock {escape : Bool} {number : Int} {state next : Matching}
    (closed : state.closeBlock number = .ok next) : next.view escape = state.view escape := by
  rw [← view_settle escape state]
  simp only [closeBlock] at closed
  split at closed
  · simp at closed
  · rename_i block blocks stack
    obtain rfl := Except.ok.inj closed
    cases chain : block.chain with
    | none => simp [view, stack, chainView, openView, chain, OpenBlock.close, nodesView_block]
    | some head => simp [view, stack, chainView, openView, chain, OpenBlock.close, nodesView_addArm]

theorem view_openBlock {escape : Bool} {number : Int} {head : Text} {state next : Matching}
    (opened : state.openBlock number head = .ok next) :
    next.view escape = state.view escape ++ [.begin head state.pending.isSome number] := by
  unfold openBlock at opened
  split at opened
  · rename_i chain pending
    obtain rfl := Except.ok.inj opened
    simp [view, chainView, openView, pending, nodesView, nodeInstructions, withoutEnds]
  · rename_i pending
    have same (gap : Option Int) : view escape ⟨state.root, ⟨head, number, [], none⟩ :: state.stack,
        state.pending, gap⟩ = state.view escape ++ [.begin head state.pending.isSome number] := by
      simp [view, chainView, openView, pending, nodesView, nodeInstructions, withoutEnds]
    split at opened
    · obtain rfl := Except.ok.inj opened
      exact same _
    · split at opened
      · simp at opened
      · obtain rfl := Except.ok.inj opened
        exact same _

theorem view_output (escape : Bool) (line : Line) (state : Matching) :
    (state.output line).view escape =
      state.view escape ++ nodesView escape [.leaf line.number line] := by
  unfold output
  split
  · rename_i free
    exact view_add escape _ state free
  · rename_i chain _
    refine (view_add escape _ { state.settle with gap := some chain.stop }
      (Braces.pending_settle state)).trans ?_
    exact congrArg (· ++ _) (view_settle escape state)

theorem withoutEnds_reading (escape arm : Bool) (line : Line) :
    withoutEnds (line.reading escape arm) = line.reading escape arm := by
  refine List.filter_eq_self.mpr fun instruction member => ?_
  unfold Line.reading at member
  split at member
  · rcases List.mem_append.mp member with inside | last
    · obtain ⟨part, -, rfl⟩ := List.mem_map.mp inside
      cases part <;> rfl
    · split at last
      · simp at last
      · obtain rfl := List.mem_singleton.mp last
        rfl
  · obtain rfl := List.mem_singleton.mp member
    rfl
  · split at member <;> simp at member <;> obtain rfl := member <;> rfl

/-- One line adds its reading to the plan. -/
theorem view_step {escape arm : Bool} {line : Line} {state next : Matching}
    (step : state.step line = .ok next) (proper : line.Proper) (same : state.pending.isSome = arm) :
    next.view escape = state.view escape ++ line.reading escape arm := by
  cases found : line.directive? with
  | none =>
      rw [Braces.step_of_output found] at step
      obtain rfl := Except.ok.inj step
      have leaf : nodesView escape [.leaf line.number line] = line.reading escape arm := by
        rw [← withoutEnds_reading, ← Line.instructions_eq_reading proper found]
        simp [nodesView, nodeInstructions, Node.instructions]
      rw [view_output, leaf]
  | some directive =>
      rw [Braces.step_of_directive found] at step
      obtain ⟨statement, form, rfl⟩ : ∃ statement, line.form = .directive statement ∧
          directive = .ofStatement statement := by
        unfold Line.directive? at found
        split at found
        · rename_i statement form
          exact ⟨statement, form, (Option.some.inj found).symm⟩
        · simp at found
      simp only [Line.reading, form]
      cases read : Directive.ofStatement statement with
      | comment =>
          rw [read] at step
          obtain rfl := Except.ok.inj step
          simp
      | statement code =>
          rw [read] at step
          obtain rfl := Except.ok.inj step
          refine (view_add escape _ state.settle (Braces.pending_settle state)).trans ?_
          rw [view_settle]
          rfl
      | malformed rest =>
          rw [read] at step
          simp [direct] at step
      | closer =>
          rw [read] at step
          obtain ⟨closed, closing, rfl⟩ := ok_of_map step
          exact (view_closeBlock closing).trans (by simp)
      | reopener head =>
          rw [read] at step
          simp only [direct] at step
          cases closing : state.closeBlock line.number with
          | error flaw => simp [closing, bind, Except.bind] at step
          | ok closed =>
              rw [closing] at step
              obtain ⟨opened, opening, rfl⟩ := ok_of_map step
              have added : opened.view escape = _ := view_openBlock opening
              rwa [view_closeBlock closing, pending_closeBlock closing] at added
      | opener head =>
          rw [read] at step
          obtain ⟨opened, opening, rfl⟩ := ok_of_map step
          have added : opened.view escape = _ := view_openBlock opening
          rwa [same] at added

theorem view_run (escape : Bool) {before lines : List Line} {state final : Matching}
    (run : state.run lines = .ok final) (proper : ∀ line ∈ lines, line.Proper)
    (tracks : Braces.Tracks before state) :
    final.view escape = state.view escape ++ Line.readingFrom escape before lines := by
  induction lines generalizing before state with
  | nil =>
      obtain rfl := Except.ok.inj run
      simp [Line.readingFrom]
  | cons line lines ih =>
      have judged := tracks.step line
      cases step : state.step line with
      | error flaw => simp [Matching.run, step] at run
      | ok next =>
          rw [step] at judged
          simp only [Matching.run, step] at run
          have arm : state.pending.isSome = Line.continuedBy before := by
            rw [Bool.eq_iff_iff, tracks.pending, Line.continuedBy_eq_true_iff]
          rw [ih run (fun other inside => proper other (by simp [inside])) judged.1,
            view_step step (proper line (by simp)) arm, List.append_assoc]
          rfl

theorem view_finish {escape : Bool} {state : Matching} {nodes : List Node}
    (finished : state.finish = .ok nodes) : nodesView escape nodes = state.view escape := by
  simp only [finish] at finished
  split at finished
  · rename_i stack
    obtain rfl := Except.ok.inj finished
    rw [← view_settle]
    simp [view, stack, chainView, Braces.pending_settle]
  · simp at finished

end Matching

theorem withoutEnds_plan_of_ofLines {escape : Bool} {name : Option Text} {lines : List Line} {tree : Tree}
    (matched : Tree.ofLines name lines = .ok tree) (proper : ∀ line ∈ lines, line.Proper) :
    withoutEnds (tree.plan escape).instructions = Line.readingFrom escape [] lines := by
  unfold Tree.ofLines at matched
  split at matched
  · simp at matched
  · rename_i final run
    split at matched
    · simp at matched
    · rename_i nodes finished
      obtain rfl := Except.ok.inj matched
      have read := Matching.view_run escape run proper Braces.tracks_start
      rw [← Matching.view_finish finished] at read
      exact read

/-- The plan of an accepted source is that of the tree of its lines. -/
theorem tree_of_plan {source : TemplateSource} {marker : Text} {escape : Bool} {plan : Plan}
    (accepted : source.plan marker escape = .ok plan) :
    ∃ lines tree, Line.ofSource marker source.text = .ok lines ∧ Tree.ofLines source.name lines = .ok tree ∧
      tree.plan escape = plan := by
  unfold TemplateSource.plan at accepted
  obtain ⟨tree, matched, rfl⟩ := Matching.ok_of_map accepted
  unfold TemplateSource.tree at matched
  cases read : Line.ofSource marker source.text with
  | error flaw => simp [read, bind, Except.bind] at matched
  | ok lines =>
      rw [read] at matched
      exact ⟨lines, tree, rfl, matched, rfl⟩

/-- A template with text between an opener and its closer, a comment behind the closer, and an arm. -/
def armedSource : TemplateSource :=
  ⟨"%% if a \x7b\nx\x7b\x7b b \x7d\x7d\n%% \x7d\n%% # then\n%% else \x7b\n\n%% \x7d\n", none, none, "text/plain"⟩

end Stencil
