import Stencil.Proofs.LiteralSources
import Stencil.Proofs.WrittenLines

/-!
# Line maps

The template lines that are noted for the lines of a routine ascend, they are lines of the source, and what a line of
the routine is written for stands on the line that is noted for it.
-/

namespace Stencil

/-! ## What stands on a line -/

theorem Text.trim_infix (text : Text) : text.trim <:+: text := by
  rw [Text.trim_eq]
  exact (List.rdropWhile_prefix _ _).isInfix.trans (List.dropWhile_suffix _).isInfix

/-- The text of a part of a line, markers and blanks around a fragment aside. -/
def Part.shown : Part → Text
  | literal text => text
  | fragment inserted => inserted.code

theorem shown_of_run {text : Text} : ∀ part ∈ Part.run text, part.shown = text := by
  cases text with
  | nil => exact nofun
  | cons char text =>
      intro part member
      rw [List.mem_singleton.mp member]
      rfl

theorem infix_of_scanFrom {column : Nat} {content : Text} {parts : List Part}
    (scanned : scanFrom column content = .ok parts) : ∀ part ∈ parts, part.shown <:+: content := by
  have run {text content : Text} (inside : text <:+: content) : ∀ part ∈ Part.run text, part.shown <:+: content := by
    intro part member
    rw [shown_of_run part member]
    exact inside
  fun_induction scanFrom column content generalizing parts with
  | case1 column content =>
      cases scanned
      exact run List.infix_rfl
  | case2 column content before after found =>
      cases scanned
      obtain ⟨whole, -⟩ := Marker.first?_eq_some found
      have front : before <:+: content := whole ▸ (List.prefix_append _ _).isInfix
      have back : after <:+: content :=
        whole ▸ ((List.suffix_append _ _).trans (List.suffix_append _ _)).isInfix
      exact List.forall_mem_append.mpr ⟨run front, List.forall_mem_singleton.mpr ((Text.trim_infix _).trans back)⟩
  | case3 => cases scanned
  | case4 => cases scanned
  | case5 column content before after found start inside rest closed stop others inner =>
      rename_i ih
      cases scanned
      obtain ⟨whole, -⟩ := Marker.first?_eq_some found
      obtain ⟨whole', -⟩ := breakAtClose?_eq_some closed
      have front : before <:+: content := whole ▸ (List.prefix_append _ _).isInfix
      have back : after <:+: content :=
        whole ▸ ((List.suffix_append _ _).trans (List.suffix_append _ _)).isInfix
      have between : inside <:+: after := whole' ▸ (List.prefix_append _ _).isInfix
      have behind : rest <:+: after :=
        whole' ▸ ((List.suffix_append _ _).trans (List.suffix_append _ _)).isInfix
      refine List.forall_mem_append.mpr ⟨run front, List.forall_mem_cons.mpr ⟨?_, fun part member => ?_⟩⟩
      · exact (Text.trim_infix _).trans (between.trans back)
      · exact (ih inner part member).trans (behind.trans back)

theorem infix_of_ofStatement {statement piece : Text}
    (found : (Directive.ofStatement statement).piece? = some piece) : piece <:+: statement := by
  have trimmed := Text.trim_infix statement
  have headed (text : Text) : Directive.headOf text <:+: text :=
    (Text.trim_infix _).trans (List.dropLast_prefix _).isInfix
  unfold Directive.ofStatement at found
  split at found
  · cases found
  · cases found
  · cases found
  · rename_i rest _ same
    rw [same] at trimmed
    have behind : Text.trim rest <:+: statement :=
      (Text.trim_infix rest).trans ((List.suffix_cons _ _).isInfix.trans trimmed)
    dsimp only at found
    split at found
    · cases found
      exact (headed _).trans behind
    · cases found
  · split at found
    · cases found
      exact (headed _).trans trimmed
    · cases found
      exact trimmed

theorem infix_of_statement? {marker content statement : Text}
    (found : Line.statement? marker content = some statement) : statement <:+: content := by
  obtain ⟨behind, lead, same⟩ := Option.map_eq_some_iff.mp found
  have inside : statement <:+: behind := by
    split at same
    · exact same ▸ (List.suffix_cons _ _).isInfix
    · exact same ▸ List.infix_rfl
  have outside : behind <:+: content.trimStart := by
    rw [Text.eq_of_afterLead? lead]
    exact (List.suffix_append _ _).isInfix
  exact inside.trans (outside.trans (List.dropWhile_suffix _).isInfix)

/-- Whether the text of an instruction stands on a line: a literal in its content or as its end, and everything else in
its content. -/
def Instruction.StandsOn (raw : RawLine) : Instruction → Prop
  | literal text _ => text ≠ [] ∧ (text <:+: raw.1 ∨ text = raw.2)
  | insert code _ _ | begin code _ _ | exec code _ => code <:+: raw.1
  | finish _ => True

/-- What a line is read as stands on the line, and has its number. -/
theorem Line.reading_standsOn {marker : Text} {number : Int} {raw : RawLine} {line : Line} {escape arm : Bool}
    (ended : raw.1 = [] → raw.2 ≠ []) (classified : classify marker number raw = .ok line) :
    line.number = number ∧ ∀ instruction ∈ line.reading escape arm,
      instruction.line = number ∧ instruction.StandsOn raw := by
  have proper := proper_of_classify ended classified
  unfold classify at classified
  split at classified
  · rename_i statement found
    cases classified
    refine ⟨rfl, fun instruction member => ?_⟩
    have inside := infix_of_statement? found
    have piece {code : Text} (same : (Directive.ofStatement statement).piece? = some code) : code <:+: raw.1 :=
      (infix_of_ofStatement same).trans inside
    unfold reading at member
    dsimp only at member
    generalize Directive.ofStatement statement = directive at member piece
    cases directive with
    | comment | closer | malformed rest => cases member
    | statement code | opener code | reopener code =>
        cases List.mem_singleton.mp member
        exact ⟨rfl, piece rfl⟩
  · split at classified
    · cases classified
      refine ⟨rfl, fun instruction member => ?_⟩
      cases List.mem_singleton.mp member
      exact ⟨rfl, proper, .inr rfl⟩
    · split at classified
      · rename_i parts scanned
        cases classified
        refine ⟨rfl, fun instruction member => ?_⟩
        rcases List.mem_append.mp member with inside | last
        · obtain ⟨part, listed, rfl⟩ := List.mem_map.mp inside
          have shown := infix_of_scanFrom scanned part listed
          cases part with
          | literal text => exact ⟨rfl, fun empty => proper (empty ▸ listed), .inl shown⟩
          | fragment inserted => exact ⟨rfl, shown⟩
        · split at last
          · cases last
          · rename_i occupied
            cases List.mem_singleton.mp last
            exact ⟨rfl, occupied, .inr rfl⟩
      · cases classified

/-! ## Lines of a source -/

/-- The line of a source with a number, counted from one. -/
def lineAt? (source : Text) : Int → Option RawLine
  | .ofNat (position + 1) => (splitLines source)[position]?
  | _ => none

theorem Line.number_of_classify {marker : Text} {number : Int} {raw : RawLine} {line : Line}
    (classified : classify marker number raw = .ok line) : line.number = number := by
  unfold classify at classified
  split at classified
  · cases classified
    rfl
  · split at classified
    · cases classified
      rfl
    · split at classified
      · cases classified
        rfl
      · cases classified

/-- Lines are numbered in order, each by its position. -/
theorem Line.numbers_of_classifyFrom {marker : Text} {number : Int} {raws : List RawLine} {lines : List Line}
    (classified : classifyFrom marker number raws = .ok lines) :
    (lines.map Line.number).Pairwise (· ≤ ·) ∧ ∀ line ∈ lines, ∃ position raw, raws[position]? = some raw ∧
      line.number = number + (position : Nat) ∧ classify marker line.number raw = .ok line := by
  induction raws generalizing number lines with
  | nil =>
      cases classified
      exact ⟨.nil, nofun⟩
  | cons raw raws ih =>
      simp only [classifyFrom] at classified
      split at classified
      · cases classified
      · rename_i line first
        split at classified
        · cases classified
        · rename_i others rest
          cases classified
          obtain ⟨sorted, placed⟩ := ih rest
          have own := number_of_classify first
          refine ⟨List.pairwise_cons.mpr ⟨fun other member => ?_, sorted⟩, List.forall_mem_cons.mpr ⟨?_, ?_⟩⟩
          · obtain ⟨later, listed, rfl⟩ := List.mem_map.mp member
            obtain ⟨position, -, -, same, -⟩ := placed later listed
            omega
          · exact ⟨0, raw, rfl, by simpa using own, own ▸ first⟩
          · intro later listed
            obtain ⟨position, raw', there, same, read⟩ := placed later listed
            exact ⟨position + 1, raw', there, by push_cast; omega, read⟩

theorem lineAt?_of_position {source : Text} {position : Nat} {raw : RawLine}
    (there : (splitLines source)[position]? = some raw) : lineAt? source (1 + (position : Nat)) = some raw := by
  have number : (1 + (position : Nat) : Int) = .ofNat (position + 1) := by
    rw [Int.ofNat_eq_natCast, Nat.cast_add, Nat.cast_one, add_comm]
  rw [number]
  exact there

/-- A line with a number is one of so many lines. -/
theorem bounds_of_lineAt? {source : Text} {number : Int} {raw : RawLine} (there : lineAt? source number = some raw) :
    1 ≤ number ∧ number ≤ (splitLines source).length := by
  unfold lineAt? at there
  split at there
  · rename_i position
    obtain ⟨inside, -⟩ := List.getElem?_eq_some_iff.mp there
    rw [Int.ofNat_eq_natCast]
    omega
  · cases there

/-! ## Line numbers of a block tree -/

theorem Line.line_of_instructions {escape : Bool} {line : Line} {instruction : Instruction}
    (member : instruction ∈ line.instructions escape) : instruction.line = line.number := by
  unfold instructions at member
  rcases List.mem_append.mp member with inside | last
  · split at inside
    · obtain ⟨part, -, own⟩ := List.mem_flatMap.mp inside
      rcases part with (_ | _) | _
      · cases own
      · rw [List.mem_singleton.mp own]
        rfl
      · rw [List.mem_singleton.mp own]
        rfl
    · cases inside
  · split at last
    · cases last
    · rw [List.mem_singleton.mp last]
      rfl

namespace Matching

/-- The line numbers in the plan of some nodes. -/
def nodesLines (nodes : List Node) : List Int := (nodeInstructions false nodes).map Instruction.line

/-- The line numbers in the plan of a chain that may still get arms, the one of its last end aside. -/
def chainLines : Block → List Int
  | .mk number _ body arms _ => number :: (nodesLines body ++ (armInstructions false arms).map Instruction.line)

/-- The line number of the last end of a chain. -/
def chainStop : Block → Int
  | .mk _ _ _ arms stop => lastStop stop arms

/-- The line numbers in the plan of an open block and of the chain that it continues. -/
def openLines (block : OpenBlock) : List Int :=
  (block.chain.map chainLines).getD [] ++ block.number :: nodesLines block.body

/-- The line numbers in the plan of everything that has been matched. -/
def timeline (state : Matching) : List Int :=
  nodesLines state.root ++ (state.stack.reverse.flatMap openLines ++
    (state.pending.map fun chain => nodesLines [.control chain]).getD [])

theorem nodesLines_append (first second : List Node) :
    nodesLines (first ++ second) = nodesLines first ++ nodesLines second := by
  rw [nodesLines, nodeInstructions_append, List.map_append]
  rfl

theorem nodesLines_control (chain : Block) : nodesLines [.control chain] = chainLines chain ++ [chainStop chain] := by
  obtain ⟨number, head, body, arms, stop⟩ := chain
  simp [nodesLines, chainLines, chainStop, nodeInstructions, Node.instructions, Instruction.line]

theorem nodesLines_block (number stop : Int) (head : Text) (body : List Node) :
    nodesLines [.control (.mk number head body [] stop)] = number :: nodesLines body ++ [stop] := by
  simp [nodesLines_control, chainLines, chainStop, lastStop, armInstructions]

theorem nodesLines_addArm (chain : Block) (number stop : Int) (head : Text) (body : List Node) :
    nodesLines [.control (chain.addArm (.mk number head body [] stop))] =
      chainLines chain ++ (number :: nodesLines body ++ [stop, stop]) := by
  obtain ⟨first, firstHead, firstBody, arms, firstStop⟩ := chain
  rw [Block.addArm, nodesLines_control]
  simp [chainLines, chainStop, lastStop, armInstructions, armInstructions_append, Block.stop, Instruction.line,
    nodesLines]

theorem timeline_add (node : Node) {state : Matching} (free : state.pending = none) :
    (state.add node).timeline = state.timeline ++ nodesLines [node] := by
  unfold add
  cases stack : state.stack with
  | nil => simp [timeline, free, stack, nodesLines_append]
  | cons block blocks => simp [timeline, openLines, free, stack, nodesLines_append]

theorem timeline_settle (state : Matching) : state.settle.timeline = state.timeline := by
  cases pending : state.pending with
  | none => simp [settle, pending]
  | some chain =>
      have added := timeline_add (.control chain) (rfl : { state with pending := none }.pending = none)
      rw [settle_of_pending pending, added]
      simp [timeline, pending]

/-- Closing a block adds its end, and that of the chain that it continues. -/
theorem timeline_closeBlock {number : Int} {state next : Matching} (closed : state.closeBlock number = .ok next) :
    ∃ count, next.timeline = state.timeline ++ List.replicate count number := by
  rw [← timeline_settle state]
  simp only [closeBlock] at closed
  split at closed
  · cases closed
  · rename_i block blocks stack
    cases closed
    cases chain : block.chain with
    | none =>
        refine ⟨1, ?_⟩
        simp [timeline, stack, openLines, chain, OpenBlock.close, nodesLines_block]
    | some head =>
        refine ⟨2, ?_⟩
        simp [timeline, stack, openLines, chain, OpenBlock.close, nodesLines_addArm]

/-- Opening a block drops the end of the chain that it continues. -/
theorem timeline_openBlock {number : Int} {head : Text} {state next : Matching}
    (opened : state.openBlock number head = .ok next) : next.timeline.Sublist (state.timeline ++ [number]) := by
  have fresh (gap : Option Int) (pending : state.pending = none) :
      timeline ⟨state.root, ⟨head, number, [], none⟩ :: state.stack, state.pending, gap⟩ =
        state.timeline ++ [number] := by
    simp [timeline, openLines, pending, nodesLines, nodeInstructions]
  unfold openBlock at opened
  split at opened
  · rename_i chain pending
    cases opened
    have before : state.timeline =
        (nodesLines state.root ++ state.stack.reverse.flatMap openLines ++ chainLines chain) ++ [chainStop chain] := by
      simp [timeline, pending, nodesLines_control]
    have after : timeline ⟨state.root, ⟨head, number, [], some chain⟩ :: state.stack, none, state.gap⟩ =
        (nodesLines state.root ++ state.stack.reverse.flatMap openLines ++ chainLines chain) ++ [number] := by
      simp [timeline, openLines, nodesLines, nodeInstructions]
    rw [before, after]
    exact (List.sublist_append_left _ _).append_right _
  · rename_i pending
    split at opened
    · cases opened
      exact fresh _ pending ▸ List.Sublist.refl _
    · split at opened
      · cases opened
      · cases opened
        exact fresh _ pending ▸ List.Sublist.refl _

theorem timeline_output (line : Line) (state : Matching) :
    ∃ count, (state.output line).timeline = state.timeline ++ List.replicate count line.number := by
  have leaf : ∃ count, nodesLines [.leaf line.number line] = List.replicate count line.number := by
    refine ⟨_, List.eq_replicate_iff.mpr ⟨rfl, fun number member => ?_⟩⟩
    obtain ⟨instruction, listed, rfl⟩ := List.mem_map.mp member
    simp only [nodeInstructions, Node.instructions, List.append_nil] at listed
    exact Line.line_of_instructions listed
  obtain ⟨count, same⟩ := leaf
  refine ⟨count, ?_⟩
  rw [← same, ← timeline_settle state]
  unfold output
  split
  · rename_i free
    rw [timeline_add _ free, timeline_settle]
  · rename_i chain _
    exact timeline_add (.leaf line.number line) (Braces.pending_settle state)

/-- One line keeps the line numbers in order and adds its own. -/
theorem timeline_step {line : Line} {state next : Matching} (step : state.step line = .ok next) :
    ∃ count, next.timeline.Sublist (state.timeline ++ List.replicate count line.number) := by
  cases found : line.directive? with
  | none =>
      rw [Braces.step_of_output found] at step
      cases step
      obtain ⟨count, same⟩ := timeline_output line state
      exact ⟨count, same ▸ List.Sublist.refl _⟩
  | some directive =>
      rw [Braces.step_of_directive found] at step
      cases directive with
      | comment =>
          cases step
          exact ⟨0, (List.append_nil _).symm ▸ List.Sublist.refl _⟩
      | statement code =>
          cases step
          have added := timeline_add (.statement line.number code) (Braces.pending_settle state)
          rw [timeline_settle] at added
          exact ⟨1, added ▸ List.Sublist.refl _⟩
      | malformed rest => cases step
      | closer =>
          obtain ⟨closed, closing, rfl⟩ := ok_of_map step
          obtain ⟨count, same⟩ := timeline_closeBlock closing
          exact ⟨count, same ▸ List.Sublist.refl _⟩
      | opener head =>
          obtain ⟨opened, opening, rfl⟩ := ok_of_map step
          exact ⟨1, (timeline_openBlock opening : opened.timeline.Sublist _)⟩
      | reopener head =>
          simp only [direct] at step
          cases closing : state.closeBlock line.number with
          | error flaw => simp [closing, bind, Except.bind] at step
          | ok closed =>
              rw [closing] at step
              obtain ⟨opened, opening, rfl⟩ := ok_of_map step
              obtain ⟨count, same⟩ := timeline_closeBlock closing
              refine ⟨count + 1, ?_⟩
              have added := timeline_openBlock opening
              rw [same, List.append_assoc, ← List.replicate_succ'] at added
              exact added

/-- Lines whose numbers ascend leave the line numbers in ascending order. -/
theorem timeline_run {lines : List Line} {state final : Matching} (run : state.run lines = .ok final)
    (sorted : (state.timeline ++ lines.map Line.number).Pairwise (· ≤ ·)) :
    final.timeline.Pairwise (· ≤ ·) ∧ ∀ number ∈ final.timeline, number ∈ state.timeline ++ lines.map Line.number := by
  induction lines generalizing state with
  | nil =>
      cases run
      rw [List.map_nil, List.append_nil] at sorted ⊢
      exact ⟨sorted, fun number member => member⟩
  | cons line lines ih =>
      cases step : state.step line with
      | error flaw => simp [Matching.run, step] at run
      | ok next =>
          simp only [Matching.run, step] at run
          obtain ⟨count, added⟩ := timeline_step step
          have own {number : Int} (member : number ∈ next.timeline) :
              number ∈ state.timeline ∨ number = line.number :=
            (List.mem_append.mp (added.subset member)).imp_right List.eq_of_mem_replicate
          rw [List.map_cons, List.pairwise_append, List.pairwise_cons] at sorted
          obtain ⟨before, ⟨first, after⟩, apart⟩ := sorted
          have more : (state.timeline ++ List.replicate count line.number).Pairwise (· ≤ ·) := by
            refine List.pairwise_append.mpr ⟨before, List.pairwise_replicate.mpr (.inr (Int.le_refl _)), ?_⟩
            intro number early other late
            rw [List.eq_of_mem_replicate late]
            exact apart number early _ List.mem_cons_self
          have sorted' : (next.timeline ++ lines.map Line.number).Pairwise (· ≤ ·) := by
            refine List.pairwise_append.mpr ⟨more.sublist added, after, fun number early other late => ?_⟩
            · rcases own early with earlier | rfl
              · exact apart number earlier other (List.mem_cons_of_mem _ late)
              · exact first other late
          obtain ⟨ordered, inside⟩ := ih run sorted'
          refine ⟨ordered, fun number member => ?_⟩
          rcases List.mem_append.mp (inside number member) with early | late
          · rcases own early with earlier | rfl
            · exact List.mem_append_left _ earlier
            · exact List.mem_append_right _ List.mem_cons_self
          · exact List.mem_append_right _ (List.mem_cons_of_mem _ late)

theorem timeline_finish {state : Matching} {nodes : List Node} (finished : state.finish = .ok nodes) :
    nodesLines nodes = state.timeline := by
  simp only [finish] at finished
  split at finished
  · rename_i stack
    cases finished
    rw [← timeline_settle]
    simp [timeline, stack, Braces.pending_settle]
  · cases finished

end Matching

/-! ## Instructions and lines of a source -/

theorem lines_of_parts (escape : Bool) (number : Int) (parts : List Part) :
    (parts.flatMap (Part.instructions escape number)).map Instruction.line =
      (parts.flatMap (Part.instructions false number)).map Instruction.line := by
  induction parts with
  | nil => rfl
  | cons part parts ih =>
      rw [List.flatMap_cons, List.flatMap_cons, List.map_append, List.map_append, ih]
      rcases part with (_ | _) | _ <;> rfl

theorem lines_of_line (escape : Bool) (line : Line) :
    (line.instructions escape).map Instruction.line = (line.instructions false).map Instruction.line := by
  rw [Line.instructions, Line.instructions, List.map_append, List.map_append]
  cases line.form with
  | text parts => exact congrArg (· ++ _) (lines_of_parts escape line.number parts)
  | _ => rfl

mutual

theorem lines_of_node (escape : Bool) (node : Node) :
    (node.instructions escape).map Instruction.line = (node.instructions false).map Instruction.line := by
  match node with
  | .leaf _ line => exact lines_of_line escape line
  | .statement _ _ | .stray _ _ => rfl
  | .control (.mk number head body arms stop) =>
      simp [Node.instructions, Instruction.line, lines_of_nodes escape body, lines_of_arms escape arms,
        Matching.nodesLines]

theorem lines_of_nodes (escape : Bool) (nodes : List Node) :
    (nodeInstructions escape nodes).map Instruction.line = Matching.nodesLines nodes := by
  match nodes with
  | [] => rfl
  | node :: nodes =>
      rw [nodeInstructions, List.map_append, lines_of_node escape node, lines_of_nodes escape nodes,
        Matching.nodesLines, ← List.map_append]
      rfl

theorem lines_of_arms (escape : Bool) (arms : List Block) :
    (armInstructions escape arms).map Instruction.line = (armInstructions false arms).map Instruction.line := by
  match arms with
  | [] => rfl
  | .mk number head body _ stop :: arms =>
      simp [armInstructions, Instruction.line, lines_of_nodes escape body, lines_of_arms escape arms,
        Matching.nodesLines]

end

theorem mem_readingFrom {escape : Bool} {before lines : List Line} {instruction : Instruction}
    (member : instruction ∈ Line.readingFrom escape before lines) :
    ∃ line ∈ lines, ∃ arm, instruction ∈ line.reading escape arm := by
  induction lines generalizing before with
  | nil => cases member
  | cons line lines ih =>
      rcases List.mem_append.mp member with own | later
      · exact ⟨line, List.mem_cons_self, _, own⟩
      · obtain ⟨other, listed, arm, inside⟩ := ih later
        exact ⟨other, List.mem_cons_of_mem _ listed, arm, inside⟩

/-- The instructions of an accepted source are in the order of its lines, and what each of them holds stands on the
line that it has the number of. -/
theorem plan_follows_lines {source : TemplateSource} {marker : Text} {escape : Bool} {plan : Plan}
    (accepted : source.plan marker escape = .ok plan) :
    (plan.instructions.map Instruction.line).Pairwise (· ≤ ·) ∧
      ∀ instruction ∈ plan.instructions, ∃ raw, lineAt? source.text instruction.line = some raw ∧
        instruction.StandsOn raw := by
  obtain ⟨lines, tree, read, matched, rfl⟩ := tree_of_plan accepted
  have view : withoutEnds (tree.plan escape).instructions = Line.readingFrom escape [] lines :=
    withoutEnds_plan_of_ofLines matched (Line.proper_of_ofSource read)
  obtain ⟨ascending, placed⟩ := Line.numbers_of_classifyFrom read
  have there {line : Line} (listed : line ∈ lines) : ∃ raw ∈ splitLines source.text,
      lineAt? source.text line.number = some raw ∧ Line.classify marker line.number raw = .ok line := by
    obtain ⟨position, raw, found, number, classified⟩ := placed line listed
    exact ⟨raw, List.mem_of_getElem? found, number ▸ lineAt?_of_position found, classified⟩
  have ordered : ((tree.plan escape).instructions.map Instruction.line).Pairwise (· ≤ ·) ∧
      ∀ number ∈ (tree.plan escape).instructions.map Instruction.line, number ∈ lines.map Line.number := by
    unfold Tree.ofLines at matched
    split at matched
    · cases matched
    · rename_i final run
      split at matched
      · cases matched
      · rename_i nodes finished
        cases matched
        rw [Tree.plan, lines_of_nodes, Matching.timeline_finish finished]
        exact Matching.timeline_run run ascending
  refine ⟨ordered.1, fun instruction member => ?_⟩
  by_cases ends : instruction.isFinish
  · obtain ⟨line, listed, same⟩ := List.mem_map.mp (ordered.2 _ (List.mem_map_of_mem member))
    obtain ⟨raw, -, found, -⟩ := there listed
    cases instruction with
    | finish number => exact ⟨raw, same ▸ found, trivial⟩
    | _ => cases ends
  · have kept : instruction ∈ withoutEnds (tree.plan escape).instructions :=
      List.mem_filter.mpr ⟨member, by rw [Bool.not_eq_true] at ends; rw [ends]; rfl⟩
    rw [view] at kept
    obtain ⟨line, listed, arm, inside⟩ := mem_readingFrom kept
    obtain ⟨raw, own, found, classified⟩ := there listed
    obtain ⟨-, stands⟩ := Line.reading_standsOn (Line.terminator_of_splitLines own) classified
    obtain ⟨same, stands⟩ := stands instruction inside
    exact ⟨raw, same ▸ found, stands⟩

/-! ## The map of a routine -/

namespace Routine

/-- Whether what a line is written for stands on the line of the source that is noted for it.  For an empty body it is
the head of its opener that stands on a line, which is not behind the one that is noted. -/
def Cause.StandsIn (source : Text) : Cause → Prop
  | literals first others => ∀ piece ∈ first :: others, ∃ raw, lineAt? source piece.2 = some raw ∧
      piece.1 ≠ [] ∧ (piece.1 <:+: raw.1 ∨ piece.1 = raw.2)
  | fragment code line | statement code line | head code line =>
      ∃ raw, lineAt? source line = some raw ∧ code <:+: raw.1
  | value _ line => ∃ code raw, lineAt? source line = some raw ∧ code <:+: raw.1
  | emptyBody opener stop => opener ≤ stop ∧ ∃ code raw, lineAt? source opener = some raw ∧ code <:+: raw.1

theorem Cause.standsIn_of_from {source : Text} {instructions : List Instruction}
    (placed : ∀ instruction ∈ instructions, ∃ raw, lineAt? source instruction.line = some raw ∧
      instruction.StandsOn raw) {cause : Cause} (found : cause.From instructions) : cause.StandsIn source := by
  cases cause with
  | literals first others => exact fun piece member => placed _ (found piece member)
  | fragment code line =>
      obtain ⟨escape, listed⟩ := found
      exact placed _ listed
  | value escape line =>
      obtain ⟨code, listed⟩ := found
      exact ⟨code, placed _ listed⟩
  | statement code line => exact placed _ found
  | head code line =>
      obtain ⟨arm, listed⟩ := found
      exact placed _ listed
  | emptyBody opener stop =>
      obtain ⟨order, code, arm, listed⟩ := found
      exact ⟨order, code, placed _ listed⟩

theorem feeds_of_lineAt? {source : Text} {number : Int} {raw : RawLine} (there : lineAt? source number = some raw) :
    '\n' ∉ raw.1 := by
  unfold lineAt? at there
  split at there
  · exact feeds_of_splitLines (List.mem_of_getElem? there)
  · cases there

/-- What is written for a cause is one line. -/
theorem Cause.feeds_of_standsIn {source : Text} {cause : Cause} (stands : cause.StandsIn source) :
    '\n' ∉ cause.text := by
  have plain {code : Text} {line : Int} (stands : ∃ raw, lineAt? source line = some raw ∧ code <:+: raw.1) :
      '\n' ∉ code := by
    obtain ⟨raw, there, inside⟩ := stands
    exact fun feed => feeds_of_lineAt? there (inside.subset feed)
  cases cause with
  | literals first others => exact clean_appendLine _ (by decide)
  | fragment code line =>
      refine fun feed => (List.mem_append.mp feed).elim ?_ (plain stands)
      decide
  | value escape line =>
      have both : ∀ escape, '\n' ∉ Writing.appendLine (Writing.converter escape ++ ['('] ++ valueName ++ [')']) := by
        decide
      exact both escape
  | statement code line => exact plain stands
  | head code line =>
      refine fun feed => (List.mem_append.mp feed).elim (plain stands) ?_
      decide
  | emptyBody opener stop => exact (by decide : '\n' ∉ "pass".toList)

/-- Lines that are joined and ended by line feeds are found again. -/
theorem splitOn_join {lines : List Text} (occupied : lines ≠ []) (clean : ∀ line ∈ lines, '\n' ∉ line) :
    Text.splitOn '\n' (Text.join ['\n'] lines ++ ['\n']) = lines ++ [[]] := by
  induction lines with
  | nil => exact absurd rfl occupied
  | cons first lines ih =>
      obtain ⟨own, others⟩ := List.forall_mem_cons.mp clean
      cases lines with
      | nil => exact splitOn_line own []
      | cons second lines =>
          have whole : Text.join ['\n'] (first :: second :: lines) ++ ['\n'] =
              first ++ '\n' :: (Text.join ['\n'] (second :: lines) ++ ['\n']) := by
            simp [Text.join]
          rw [whole, splitOn_line own, ih (List.cons_ne_nil _ _) others]
          rfl

theorem feeds_of_explained {source : Text} {lines : List GeneratedLine} {causes : List Cause}
    (explained : List.Forall₂ Cause.Explains lines causes) (stands : ∀ cause ∈ causes, cause.StandsIn source) :
    ∀ line ∈ lines, '\n' ∉ line.text := by
  induction explained with
  | nil => exact nofun
  | cons explains _ ih =>
      rw [List.forall_mem_cons] at stands
      refine List.forall_mem_cons.mpr ⟨?_, ih stands.2⟩
      obtain ⟨level, rfl⟩ := explains
      refine fun feed => (List.mem_append.mp feed).elim (fun blank => ?_) (Cause.feeds_of_standsIn stands.1)
      cases List.eq_of_mem_replicate blank

theorem ofSheet_origins {origin : Origin} {sheet : Sheet} {routine : Routine}
    (compiled : ofSheet origin sheet = .ok routine) :
    routine.origins = sheet.origins ∧ routine.text = sheet.toText := by
  obtain ⟨_, -, -, origins, text, -⟩ := ofSheet_eq_ok compiled
  exact ⟨origins, text⟩

theorem length_splitOn (separator : Char) (text : Text) :
    (Text.splitOn separator text).length = text.count separator + 1 := by
  induction text with
  | nil => rfl
  | cons char text ih =>
      rw [Text.splitOn]
      split
      · rename_i same
        rw [List.length_cons, ih, same, List.count_cons_self]
      · rename_i other
        rw [List.count_cons_of_ne other]
        split
        · rename_i none
          rw [none] at ih
          cases ih
        · rename_i piece pieces same
          rw [same] at ih
          exact ih

theorem origins_of_explains {lines : List GeneratedLine} {causes : List Cause}
    (explained : List.Forall₂ Cause.Explains lines causes) :
    lines.map GeneratedLine.origin = causes.map Cause.origin := by
  induction explained with
  | nil => rfl
  | cons explains _ ih =>
      obtain ⟨level, rfl⟩ := explains
      exact congrArg (_ :: ·) ih

/-- The last line that is noted is not before any line of the plan, and it is one of them if there are any. -/
theorem finalLine_last {plan : Plan} (ascending : (plan.instructions.map Instruction.line).Pairwise (· ≤ ·)) :
    (∀ number ∈ plan.instructions.map Instruction.line, number ≤ finalLine plan) ∧
      (finalLine plan = 1 ∨ finalLine plan ∈ plan.instructions.map Instruction.line) := by
  rw [finalLine]
  rcases List.eq_nil_or_concat plan.instructions with none | ⟨before, last, whole⟩
  · rw [none]
    exact ⟨nofun, .inl rfl⟩
  · rw [whole, List.concat_eq_append, List.map_append] at ascending ⊢
    obtain ⟨-, -, apart⟩ := List.pairwise_append.mp ascending
    rw [List.getLast?_concat, Option.map_some, Option.getD_some]
    refine ⟨fun number member => ?_, .inr (List.mem_append_right _ List.mem_cons_self)⟩
    rcases List.mem_append.mp member with early | own
    · exact apart number early _ List.mem_cons_self
    · exact Int.le_of_eq (List.mem_singleton.mp own)

/-- What is noted for the lines of a routine: the first line, what is noted for the causes, and the last line. -/
theorem origins_of_plan {plan : Plan} {count : Nat}
    (ascending : (plan.instructions.map Instruction.line).Pairwise (· ≤ ·))
    (inside : ∀ number ∈ plan.instructions.map Instruction.line, 1 ≤ number ∧ number ≤ count) :
    let origins := List.replicate 6 (1 : Int) ++
      ((Cause.among [] plan.instructions).map Cause.origin ++ [finalLine plan, finalLine plan])
    origins.Pairwise (· ≤ ·) ∧ ∀ origin ∈ origins, 1 ≤ origin ∧ origin ≤ max 1 count := by
  obtain ⟨sorted, noted⟩ := Cause.follows_among [] plan.instructions ascending
  obtain ⟨ends, final⟩ := finalLine_last ascending
  have bodied {origin : Int} (member : origin ∈ (Cause.among [] plan.instructions).map Cause.origin) :
      origin ∈ plan.instructions.map Instruction.line := by
    obtain ⟨cause, listed, rfl⟩ := List.mem_map.mp member
    exact noted cause listed
  have last : 1 ≤ finalLine plan ∧ finalLine plan ≤ max 1 count := by
    rcases final with first | member
    · omega
    · have bounds := inside _ member
      omega
  have twice {origin : Int} (member : origin ∈ [finalLine plan, finalLine plan]) : origin = finalLine plan := by
    simpa using member
  have bounds : ∀ origin ∈ (Cause.among [] plan.instructions).map Cause.origin ++ [finalLine plan, finalLine plan],
      1 ≤ origin ∧ origin ≤ max 1 count := by
    intro origin member
    rcases List.mem_append.mp member with own | ended
    · have bounds := inside _ (bodied own)
      omega
    · rw [twice ended]
      exact last
  constructor
  · refine List.pairwise_append.mpr ⟨List.pairwise_replicate.mpr (.inr (Int.le_refl _)),
      List.pairwise_append.mpr ⟨sorted, List.pairwise_pair.mpr (Int.le_refl _), ?_⟩, ?_⟩
    · intro origin own other ended
      rw [twice ended]
      exact ends _ (bodied own)
    · intro first one other later
      rw [List.eq_of_mem_replicate one]
      exact (bounds other later).1
  · intro origin member
    rcases List.mem_append.mp member with one | later
    · rw [List.eq_of_mem_replicate one]
      omega
    · exact bounds origin later

/-- A sheet with the lines of a body between the prologue and the two lines that return. -/
def sheetAround (body : List GeneratedLine) (last : Int) : Sheet :=
  ⟨prologue.lines ++ (body ++ (epilogue last).map SuiteLine.generated), 0⟩

theorem origins_sheetAround {body : List GeneratedLine} {causes : List Cause}
    (explained : List.Forall₂ Cause.Explains body causes) (last : Int) :
    (sheetAround body last).origins = List.replicate 6 (1 : Int) ++ (causes.map Cause.origin ++ [last, last]) := by
  rw [sheetAround, Sheet.origins, List.map_append, List.map_append, origins_of_explains explained]
  rfl

/-- The text of the sheet splits into its lines, since none of them has a line feed inside. -/
theorem splitOn_sheetAround {source : Text} {body : List GeneratedLine} {causes : List Cause}
    (explained : List.Forall₂ Cause.Explains body causes) (stands : ∀ cause ∈ causes, cause.StandsIn source)
    (last : Int) :
    Text.splitOn '\n' (sheetAround body last).toText =
      (sheetAround body last).lines.map GeneratedLine.text ++ [[]] := by
  have around : ∀ text ∈ prologue.lines.map GeneratedLine.text ++
      ((epilogue 1).map SuiteLine.generated).map GeneratedLine.text, '\n' ∉ text := by decide
  obtain ⟨before, after⟩ := List.forall_mem_append.mp around
  refine splitOn_join (List.cons_ne_nil _ _) ?_
  rw [sheetAround, List.map_append, List.map_append]
  exact List.forall_mem_append.mpr ⟨before, List.forall_mem_append.mpr
    ⟨List.forall_mem_map.mpr (feeds_of_explained explained stands), after⟩⟩

/-- Every line of the routine of an accepted source is ended by a line feed and has a template line noted for it.
These lines ascend, and they are lines of the source, or the first line when the source has none.  Between the prologue
and the two lines that return stands one line for every cause in the plan, in their order, and what a line is written
for stands on the line of the source that is noted for it. -/
theorem line_map_sound {source : TemplateSource} {marker : Text} {escape : Bool} {plan : Plan}
    (accepted : source.plan marker escape = .ok plan) :
    ∃ sheet, sheet? plan = some sheet ∧
      (∀ routine, source.routine marker escape = .ok routine →
        routine.origins = sheet.origins ∧ routine.text = sheet.toText) ∧
      Text.splitOn '\n' sheet.toText = sheet.lines.map GeneratedLine.text ++ [[]] ∧
      sheet.origins.length = sheet.toText.count '\n' ∧
      sheet.origins.Pairwise (· ≤ ·) ∧
      (∀ origin ∈ sheet.origins, 1 ≤ origin ∧ origin ≤ max 1 (splitLines source.text).length) ∧
      ∃ body last, sheet.lines = prologue.lines ++ (body ++ (epilogue last).map SuiteLine.generated) ∧
        List.Forall₂ Cause.Explains body (Cause.among [] plan.instructions) ∧
        ∀ cause ∈ Cause.among [] plan.instructions, cause.StandsIn source.text := by
  obtain ⟨ascending, placed⟩ := plan_follows_lines accepted
  have occupied : ∀ line, .literal [] line ∉ plan.instructions := by
    intro line member
    obtain ⟨raw, -, empty, -⟩ := placed _ member
    exact empty rfl
  have stands : ∀ cause ∈ Cause.among [] plan.instructions, cause.StandsIn source.text := fun cause member =>
    Cause.standsIn_of_from placed
      (Cause.from_among [] plan.instructions nofun (fun instruction member => member) ascending cause member)
  obtain ⟨tree, -, rfl⟩ := Matching.ok_of_map accepted
  have explained := suite_explained escape tree occupied
  have written := sheet?_plan escape tree
  have inside : ∀ number ∈ (tree.plan escape).instructions.map Instruction.line,
      1 ≤ number ∧ number ≤ (splitLines source.text).length := by
    intro number member
    obtain ⟨instruction, listed, rfl⟩ := List.mem_map.mp member
    obtain ⟨raw, there, -⟩ := placed instruction listed
    exact bounds_of_lineAt? there
  obtain ⟨sorted, bounds⟩ := origins_of_plan ascending inside
  rw [List.map_append] at written
  generalize (suite escape 2 tree.body).map SuiteLine.generated = body at explained written
  have origins := origins_sheetAround explained (finalLine (tree.plan escape))
  have split := splitOn_sheetAround explained stands (finalLine (tree.plan escape))
  have count := length_splitOn '\n' (sheetAround body (finalLine (tree.plan escape))).toText
  rw [split, List.length_append, List.length_map] at count
  refine ⟨sheetAround body (finalLine (tree.plan escape)), written, fun routine compiled => ?_, split, ?_,
    origins ▸ sorted, origins ▸ bounds, body, _, rfl, explained, stands⟩
  · simp only [TemplateSource.routine, accepted, ofPlan, written] at compiled
    exact ofSheet_origins compiled
  · rw [Sheet.origins, List.length_map]
    exact Nat.succ.inj count

/-- The map of a template with an arm: the literal behind the fragment is noted where it begins. -/
theorem armedSource_line_map :
    ∃ plan, armedSource.plan Environment.standardMarker false = .ok plan ∧ ∃ sheet, sheet? plan = some sheet ∧
      sheet.origins.Pairwise (· ≤ ·) ∧ sheet.origins.length = sheet.toText.count '\n' := by
  have accepted : armedSource.plan Environment.standardMarker false = .ok
      ⟨[.begin "if a" false 1, .literal "x" 2, .insert "b" false 2, .literal "\n" 2,
        .begin "else" true 5, .literal "\n" 6, .finish 7, .finish 7], false, none⟩ := by decide +kernel
  obtain ⟨sheet, written, -, -, count, sorted, -⟩ := line_map_sound accepted
  exact ⟨_, accepted, sheet, written, sorted, count⟩

end Routine

end Stencil
