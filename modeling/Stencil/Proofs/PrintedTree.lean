import Stencil.Proofs.Braces
import Stencil.Proofs.Renumbering
import Stencil.Proofs.Trimming

/-!
# Printing block trees

A block tree is printed as lines: output as it stands, statements and heads as directives, and every arm on the line
that closes the block before it.  Matching the printed lines of an accepted template gives its tree again.
-/

namespace Stencil

/-! ## Printed lines -/

/-- A directive line with a statement. -/
def directing (marker statement : Text) : Line := ⟨0, marker ++ ' ' :: statement, ['\n'], .directive statement⟩

/-- The statement that opens a block. -/
def openingStatement (head : Text) : Text := head ++ [' ', '{']

/-- The statement that closes a block and opens an arm. -/
def continuingStatement (head : Text) : Text := '}' :: ' ' :: openingStatement head

/-- The statement that closes a block. -/
def closingStatement : Text := ['}']

mutual

/-- The lines of a node. -/
def Node.printed (marker : Text) : Node → List Line
  | .leaf _ line => [line]
  | .statement _ code => [directing marker code]
  | .control block => block.printed marker ++ [directing marker closingStatement]
  | .stray _ _ => []

/-- The lines of a block with its arms, up to the last closer. -/
def Block.printed (marker : Text) : Block → List Line
  | .mk _ head body arms _ =>
    directing marker (openingStatement head) :: (printedNodes marker body ++ printedArms marker arms)

/-- The lines of a list of nodes. -/
def printedNodes (marker : Text) : List Node → List Line
  | [] => []
  | node :: nodes => node.printed marker ++ printedNodes marker nodes

/-- The lines of a list of arms, up to the last closer. -/
def printedArms (marker : Text) : List Block → List Line
  | [] => []
  | .mk _ head body _ _ :: arms =>
    directing marker (continuingStatement head) :: (printedNodes marker body ++ printedArms marker arms)

end

/-- The lines of a tree. -/
def Tree.printed (marker : Text) (tree : Tree) : List Line := printedNodes marker tree.body

/-! ## Printed directives -/

namespace Directive

variable {statement head code : Text}

theorem ofStatement_trim (statement : Text) : ofStatement statement.trim = ofStatement statement := by
  rw [ofStatement, ofStatement, Text.trim_trim]

/-- A statement that stands for itself does so again when it is printed. -/
theorem ofStatement_statement (found : ofStatement statement = .statement code) :
    ofStatement code = .statement code := by
  have same : code = statement.trim := by
    unfold ofStatement at found
    split at found
    · cases found
    · cases found
    · cases found
    · dsimp only at found
      split at found <;> cases found
    · split at found <;> cases found
      rfl
  rw [same, ofStatement_trim, found, same]

theorem trim_headOf (statement : Text) : (headOf statement).trim = headOf statement := Text.trim_trim _

theorem trim_head_of_reopener (found : ofStatement statement = .reopener head) : head.trim = head := by
  unfold ofStatement at found
  split at found
  · cases found
  · cases found
  · cases found
  · dsimp only at found
    split at found <;> cases found
    exact trim_headOf _
  · split at found <;> cases found

/-- The head of an opener is trimmed, and it does not start like a comment or a closer. -/
theorem head_of_opener (found : ofStatement statement = .opener head) :
    head.trim = head ∧ ∀ char ∈ head.head?, char ≠ '#' ∧ char ≠ '}' := by
  unfold ofStatement at found
  split at found
  · cases found
  · cases found
  · cases found
  · dsimp only at found
    split at found <;> cases found
  · rename_i other comment closer closing
    split at found <;> cases found
    refine ⟨trim_headOf _, fun char first => ?_⟩
    cases trimmed : statement.trim with
    | nil => exact absurd trimmed other
    | cons start rest =>
      have first' : start ∈ statement.trim.head? := by rw [trimmed]; rfl
      have shown : isBlank start = false := Text.head?_trim first'
      rw [trimmed, headOf] at first
      cases rest with
      | nil => cases first
      | cons next rest =>
        rw [List.dropLast_cons_cons, Text.head?_trim_cons shown] at first
        cases first
        exact ⟨fun same => comment _ (same ▸ trimmed), fun same => closing _ (same ▸ trimmed)⟩

theorem getLast?_openingStatement (head : Text) : (openingStatement head).getLast? = some '{' := by
  rw [openingStatement, List.getLast?_append]
  rfl

theorem opens_openingStatement (head : Text) : opens (openingStatement head) = true := by
  rw [opens, getLast?_openingStatement]
  rfl

theorem headOf_openingStatement (trimmed : head.trim = head) : headOf (openingStatement head) = head := by
  have front : (openingStatement head).dropLast = head ++ [' '] := by
    rw [openingStatement, List.dropLast_append_of_ne_nil (List.cons_ne_nil _ _)]
    rfl
  rw [headOf, front, Text.trim_snoc_blank rfl trimmed]

/-- The opening statement without the blanks at its ends: nothing is dropped unless the head is empty. -/
theorem trim_openingStatement (trimmed : head.trim = head) :
    (openingStatement head).trim = if head = [] then ['{'] else openingStatement head := by
  cases head with
  | nil => rfl
  | cons start rest =>
    rw [if_neg (List.cons_ne_nil _ _)]
    refine Text.trim_eq_self (fun char first => ?_) fun char last => ?_
    · have first' : char ∈ (Text.trim (start :: rest)).head? := by rw [trimmed]; exact first
      exact Text.head?_trim first'
    · rw [getLast?_openingStatement] at last
      cases last
      rfl

theorem ofStatement_of_brace {rest : Text} (trimmed : statement.trim = '}' :: rest) (occupied : rest ≠ []) :
    ofStatement statement = if opens rest.trim then .reopener (headOf rest.trim) else .malformed rest.trim := by
  rw [ofStatement, trimmed]
  cases rest with
  | nil => exact absurd rfl occupied
  | cons => rfl

theorem ofStatement_of_plain {start : Char} {rest : Text} (trimmed : statement.trim = start :: rest)
    (noComment : start ≠ '#') (noCloser : start ≠ '}') :
    ofStatement statement =
      if opens (start :: rest) then .opener (headOf (start :: rest)) else .statement (start :: rest) := by
  unfold ofStatement
  rw [trimmed]
  split
  · rename_i same
    cases same
  · rename_i same
    cases same
    exact absurd rfl noComment
  · rename_i same
    cases same
    exact absurd rfl noCloser
  · rename_i same
    cases same
    exact absurd rfl noCloser
  · rfl

/-- The printed form of an opener is an opener with the same head. -/
theorem ofStatement_opening (found : ofStatement statement = .opener head) :
    ofStatement (openingStatement head) = .opener head := by
  obtain ⟨trimmed, plain⟩ := head_of_opener found
  cases head with
  | nil => rfl
  | cons start rest =>
    obtain ⟨noComment, noCloser⟩ := plain start rfl
    have whole : (openingStatement (start :: rest)).trim = start ::
        (rest ++ [' ', '{']) := trim_openingStatement trimmed
    rw [ofStatement_of_plain whole noComment noCloser]
    exact (if_pos (opens_openingStatement (start :: rest))).trans (congrArg opener (headOf_openingStatement trimmed))

/-- The printed form of an arm reopens with its head. -/
theorem ofStatement_continuing (trimmed : head.trim = head) :
    ofStatement (continuingStatement head) = .reopener head := by
  have whole : (continuingStatement head).trim = '}' :: ' ' :: openingStatement head := by
    refine Text.trim_eq_self (fun char first => ?_) fun char last => ?_
    · cases first
      rfl
    · have ending : (continuingStatement head).getLast? = some '{' := by
        rw [continuingStatement, openingStatement, ← List.cons_append, ← List.cons_append, List.getLast?_append]
        rfl
      rw [ending] at last
      cases last
      rfl
  have inner : Text.trim (' ' :: openingStatement head) = (openingStatement head).trim :=
    Text.trim_cons_blank (by decide) _
  rw [ofStatement_of_brace whole (List.cons_ne_nil _ _), inner, trim_openingStatement trimmed]
  cases head with
  | nil => rfl
  | cons start rest =>
    rw [if_neg (List.cons_ne_nil _ _), if_pos (opens_openingStatement _), headOf_openingStatement trimmed]

end Directive

/-! ## What has been matched, printed -/

section Printing

variable (marker : Text)

@[simp] theorem printedNodes_append (first second : List Node) :
    printedNodes marker (first ++ second) = printedNodes marker first ++ printedNodes marker second := by
  induction first with
  | nil => rfl
  | cons node nodes ih => rw [List.cons_append, printedNodes, printedNodes, ih, List.append_assoc]

@[simp] theorem printedArms_append (first second : List Block) :
    printedArms marker (first ++ second) = printedArms marker first ++ printedArms marker second := by
  induction first with
  | nil => rfl
  | cons block blocks ih =>
    cases block
    rw [List.cons_append, printedArms, printedArms, ih, List.cons_append, List.append_assoc]

theorem printed_addArm (chain : Block) (number stop : Int) (head : Text) (body : List Node) :
    (chain.addArm (.mk number head body [] stop)).printed marker =
      chain.printed marker ++ directing marker (continuingStatement head) :: printedNodes marker body := by
  cases chain
  simp [Block.addArm, Block.printed, printedArms]

/-- The lines of an open block, behind those of the chain that it continues. -/
def OpenBlock.printed (block : OpenBlock) : List Line :=
  (match block.chain with
    | none => [directing marker (openingStatement block.head)]
    | some chain => chain.printed marker ++ [directing marker (continuingStatement block.head)]) ++
  printedNodes marker block.body

namespace Matching

/-- The lines of everything that has been matched. -/
def printed (state : Matching) : List Line :=
  printedNodes marker state.root ++ (state.stack.reverse.flatMap (OpenBlock.printed marker) ++
    printedNodes marker (state.pending.toList.map .control))

theorem printed_add (node : Node) {state : Matching} (free : state.pending = none) :
    (state.add node).printed marker = state.printed marker ++ node.printed marker := by
  obtain ⟨root, stack, pending, gap⟩ := state
  obtain rfl : pending = none := free
  cases stack with
  | nil => simp [add, printed, printedNodes]
  | cons block blocks => simp [add, printed, printedNodes, OpenBlock.printed]

theorem printed_settle (state : Matching) : state.settle.printed marker = state.printed marker := by
  cases pending : state.pending with
  | none => rw [settle, pending]
  | some chain =>
    have added : (({ state with pending := none } : Matching).add (.control chain)).printed marker = _ :=
      printed_add marker _ rfl
    rw [settle_of_pending pending, added]
    simp [printed, pending, printedNodes]

theorem printed_output (line : Line) (state : Matching) :
    (state.output line).printed marker = state.printed marker ++ [line] := by
  unfold output
  split
  · rename_i free
    exact printed_add marker _ free
  · rename_i chain _
    have free : ({ state.settle with gap := some chain.stop } : Matching).pending = none := Braces.pending_settle state
    refine (printed_add marker _ free).trans ?_
    exact congrArg (· ++ [line]) (printed_settle marker state)

theorem printed_closeBlock {number : Int} {state next : Matching} (closed : state.closeBlock number = .ok next) :
    next.printed marker = state.printed marker ++ [directing marker closingStatement] := by
  rw [← printed_settle marker state]
  simp only [closeBlock] at closed
  split at closed
  · cases closed
  · rename_i block blocks stack
    obtain rfl := Except.ok.inj closed
    cases chain : block.chain with
    | none =>
      simp [printed, stack, OpenBlock.printed, chain, OpenBlock.close, printedNodes, Node.printed, Block.printed,
        printedArms]
    | some head =>
      simp [printed, stack, OpenBlock.printed, chain, OpenBlock.close, printedNodes, Node.printed, printed_addArm]

/-- An opener adds its line, unless a chain is pending: then its line takes the place of the closer of the chain. -/
theorem printed_openBlock {number : Int} {head : Text} {state next : Matching}
    (opened : state.openBlock number head = .ok next) :
    (state.pending = none →
        next.printed marker = state.printed marker ++ [directing marker (openingStatement head)]) ∧
      (state.pending ≠ none → ∃ lines, state.printed marker = lines ++ [directing marker closingStatement] ∧
        next.printed marker = lines ++ [directing marker (continuingStatement head)]) := by
  cases pending : state.pending with
  | some chain =>
    simp only [openBlock, pending] at opened
    obtain rfl := Except.ok.inj opened
    refine ⟨fun free => absurd free (Option.some_ne_none _), fun _ => ?_⟩
    refine ⟨printedNodes marker state.root ++ (state.stack.reverse.flatMap (OpenBlock.printed marker) ++
      chain.printed marker), ?_, ?_⟩
    · simp [printed, pending, printedNodes, Node.printed]
    · simp [printed, OpenBlock.printed, printedNodes]
  | none =>
    refine ⟨fun _ => ?_, fun waiting => absurd rfl waiting⟩
    have grown : next.stack = ⟨head, number, [], none⟩ :: state.stack ∧ next.root = state.root ∧
        next.pending = none := by
      simp only [openBlock, pending] at opened
      split at opened
      · obtain rfl := Except.ok.inj opened
        exact ⟨rfl, rfl, rfl⟩
      · split at opened
        · cases opened
        · obtain rfl := Except.ok.inj opened
          exact ⟨rfl, rfl, rfl⟩
    simp [printed, grown, pending, OpenBlock.printed, printedNodes]

/-! ## Matching printed lines -/

theorem run_append (state : Matching) (first second : List Line) :
    state.run (first ++ second) = (state.run first).bind fun next => next.run second := by
  induction first generalizing state with
  | nil => rfl
  | cons line lines ih =>
    rw [List.cons_append, run, run]
    cases state.step line with
    | error flaw => rfl
    | ok next => exact ih next

theorem run_snoc_ok {state next : Matching} {lines : List Line} {line : Line} :
    state.run (lines ++ [line]) = .ok next ↔
      ∃ between, state.run lines = .ok between ∧ between.step line = .ok next := by
  rw [run_append]
  cases state.run lines with
  | error flaw => simp [Except.bind]
  | ok between =>
    have one : between.run [line] = between.step line := by
      rw [run]
      cases between.step line <;> rfl
    simp [Except.bind, one]

/-- Whether a chain has been ended by text does not matter to an opener that continues one. -/
theorem openBlock_closeGap {number : Int} {head : Text} {state : Matching} (waiting : state.pending.isSome = true) :
    (state.closeGap.openBlock number head).map closeGap = (state.openBlock number head).map closeGap := by
  obtain ⟨chain, pending⟩ := Option.isSome_iff_exists.mp waiting
  have same : state.closeGap.pending = some chain := pending
  rw [openBlock, openBlock, pending, same]
  rfl

theorem step_directing (state : Matching) (statement : Text) :
    state.step (directing marker statement) = state.direct 0 (.ofStatement statement) := rfl

/-- A line that closes and opens does what its two halves do one after the other. -/
theorem direct_reopener (number : Int) (state : Matching) (head : Text) :
    state.direct number (.reopener head) =
      (state.direct number .closer).bind fun closed => closed.direct number (.opener head) := by
  have halves : state.direct number (.reopener head) =
      (state.closeBlock number).bind fun closed => (closed.openBlock number head).map closeGap := rfl
  rw [halves, direct]
  cases closed : state.closeBlock number with
  | error flaw => rfl
  | ok between => exact (openBlock_closeGap (pending_closeBlock closed)).symm

/-- Matching what is printed of a state gives the state again. -/
def Reprints (state : Matching) : Prop := start.run (state.printed marker) = .ok state

variable {marker} {state next : Matching} {head : Text}

theorem Reprints.snoc {line : Line} (reprints : state.Reprints marker) (stepped : state.step line = .ok next)
    (same : next.printed marker = state.printed marker ++ [line]) : next.Reprints marker := by
  rw [Reprints, same]
  exact run_snoc_ok.mpr ⟨state, reprints, stepped⟩

theorem Reprints.closer (reprints : state.Reprints marker) (closed : state.direct 0 .closer = .ok next) :
    next.Reprints marker := by
  obtain ⟨between, ended, rfl⟩ := ok_of_map closed
  have same : between.printed marker = state.printed marker ++ [directing marker closingStatement] :=
    printed_closeBlock marker ended
  have stepped : state.step (directing marker closingStatement) = .ok between.closeGap := closed
  exact reprints.snoc stepped same

/-- An opener that continues a chain is printed on the line of the closer, in front of which the run is taken up. -/
theorem Reprints.opener (reprints : state.Reprints marker) (trimmed : head.trim = head)
    (plain : state.pending = none → Directive.ofStatement (openingStatement head) = .opener head)
    (opened : state.direct 0 (.opener head) = .ok next) : next.Reprints marker := by
  obtain ⟨between, begun, rfl⟩ := ok_of_map opened
  obtain ⟨alone, chained⟩ := printed_openBlock marker begun
  by_cases free : state.pending = none
  · have stepped : state.step (directing marker (openingStatement head)) = .ok between.closeGap := by
      rw [step_directing, plain free]
      exact opened
    exact reprints.snoc stepped (alone free)
  · obtain ⟨lines, behind, instead⟩ := chained free
    rw [Reprints, behind] at reprints
    obtain ⟨before, run, closed⟩ := run_snoc_ok.mp reprints
    have stepped : before.step (directing marker (continuingStatement head)) = .ok between.closeGap := by
      rw [step_directing, Directive.ofStatement_continuing trimmed]
      have first : before.direct 0 .closer = .ok state := closed
      rw [direct_reopener, first]
      exact opened
    have same : between.closeGap.printed marker = lines ++ [directing marker (continuingStatement head)] := instead
    rw [Reprints, same]
    exact run_snoc_ok.mpr ⟨before, run, stepped⟩

theorem Reprints.direct {statement : Text} (reprints : state.Reprints marker)
    (directed : state.direct 0 (.ofStatement statement) = .ok next) : next.Reprints marker := by
  cases found : Directive.ofStatement statement with
  | comment =>
    rw [found] at directed
    obtain rfl := Except.ok.inj directed
    exact reprints
  | malformed rest =>
    rw [found] at directed
    cases directed
  | closer => exact reprints.closer (found ▸ directed)
  | reopener head =>
    rw [found, direct_reopener] at directed
    cases first : state.direct 0 .closer with
    | error flaw =>
      rw [first] at directed
      cases directed
    | ok closed =>
      rw [first] at directed
      have waiting : closed.pending.isSome = true := by
        obtain ⟨between, ended, rfl⟩ := ok_of_map first
        have chained : between.pending.isSome = true := pending_closeBlock ended
        exact chained
      refine (reprints.closer first).opener (Directive.trim_head_of_reopener found) (fun free => ?_) directed
      simp [free] at waiting
  | opener head =>
    rw [found] at directed
    exact reprints.opener (Directive.head_of_opener found).1 (fun _ => Directive.ofStatement_opening found) directed
  | statement code =>
    rw [found] at directed
    have stepped : state.step (directing marker code) = .ok next := by
      rw [step_directing, Directive.ofStatement_statement found]
      exact directed
    refine reprints.snoc stepped ?_
    obtain rfl := Except.ok.inj directed
    refine (printed_add marker (.statement 0 code) (Braces.pending_settle state)).trans ?_
    rw [printed_settle]
    rfl

theorem Reprints.step {line : Line} (reprints : state.Reprints marker) (number : line.number = 0)
    (stepped : state.step line = .ok next) : next.Reprints marker := by
  cases form : line.form with
  | directive statement =>
    rw [Matching.step, form] at stepped
    exact reprints.direct (number ▸ stepped)
  | text parts =>
    refine reprints.snoc stepped ?_
    rw [Matching.step, form] at stepped
    obtain rfl := Except.ok.inj stepped
    exact printed_output marker line state
  | blank =>
    refine reprints.snoc stepped ?_
    rw [Matching.step, form] at stepped
    obtain rfl := Except.ok.inj stepped
    exact printed_output marker line state

theorem Reprints.run (lines : List Line) (numbers : ∀ line ∈ lines, line.number = 0) (reprints : state.Reprints marker)
    (ran : state.run lines = .ok next) : next.Reprints marker := by
  induction lines generalizing state with
  | nil =>
    obtain rfl := Except.ok.inj ran
    exact reprints
  | cons line lines ih =>
    rw [Matching.run] at ran
    split at ran
    · cases ran
    · rename_i between stepped
      have stepsTo : between.Reprints marker := reprints.step (numbers line List.mem_cons_self) stepped
      exact ih (fun other inside => numbers other (List.mem_cons_of_mem _ inside)) stepsTo ran

theorem printed_finish {body : List Node} (finished : state.finish = .ok body) :
    state.printed marker = printedNodes marker body := by
  rw [← printed_settle marker state]
  have free : state.settle.pending = none := Braces.pending_settle state
  simp only [finish] at finished
  split at finished
  · rename_i stack
    obtain rfl := Except.ok.inj finished
    simp [printed, stack, printedNodes]
  · cases finished

end Matching
end Printing

/-! ## Trees -/

/-- Matching the lines of a tree that was matched from unnumbered lines gives the tree again. -/
theorem ofLines_printed {marker : Text} {name : Option Text} {lines : List Line} {tree : Tree}
    (numbers : ∀ line ∈ lines, line.number = 0) (accepted : Tree.ofLines name lines = .ok tree) :
    Tree.ofLines name (tree.printed marker) = .ok tree := by
  unfold Tree.ofLines at accepted
  split at accepted
  · cases accepted
  · rename_i state ran
    split at accepted
    · cases accepted
    · rename_i body finished
      obtain rfl := Except.ok.inj accepted
      have blank : Matching.start.Reprints marker := rfl
      have reprints : state.Reprints marker := blank.run lines numbers ran
      have same : Tree.printed marker ⟨body, name⟩ = state.printed marker := (Matching.printed_finish finished).symm
      have again : Matching.start.run (state.printed marker) = .ok state := reprints
      rw [Tree.ofLines, same, again]
      dsimp only
      rw [finished]

/-- The line without its number. -/
def Line.unnumbered (line : Line) : Line := line.renumber fun _ => 0

/-- The tree without its line numbers. -/
def Tree.unnumbered (tree : Tree) : Tree := tree.renumber fun _ => 0

/-- What was read from lines, without the line numbers. -/
def unnumberedReading (reading : Except Flaw Tree) : Except Flaw Tree := renumbered (fun _ => 0) Tree.unnumbered reading

theorem ofLines_unnumbered (name : Option Text) (lines : List Line) :
    Tree.ofLines name (lines.map Line.unnumbered) = unnumberedReading (Tree.ofLines name lines) :=
  ofLines_renumber (fun _ => 0) name lines

theorem renumber_directing {f : Int → Int} (fixed : f 0 = 0) (marker statement : Text) :
    (directing marker statement).renumber f = directing marker statement := by
  simp [directing, Line.renumber, fixed]

section

variable {f : Int → Int} (marker : Text)

mutual

/-- Printing a node under other numbers renumbers its lines. -/
theorem Node.printed_renumber (fixed : f 0 = 0) (node : Node) :
    (node.renumber f).printed marker = (node.printed marker).map (Line.renumber f) := by
  cases node with
  | leaf number line => rfl
  | stray number sort => rfl
  | statement number code => simp [Node.renumber, Node.printed, renumber_directing fixed]
  | control block =>
    simp [Node.renumber, Node.printed, renumber_directing fixed, Block.printed_renumber fixed block]

theorem Block.printed_renumber (fixed : f 0 = 0) (block : Block) :
    (block.renumber f).printed marker = (block.printed marker).map (Line.renumber f) := by
  obtain ⟨number, head, body, arms, stop⟩ := block
  simp [Block.renumber, Block.printed, renumber_directing fixed, printedNodes_renumber fixed body,
    printedArms_renumber fixed arms]

theorem printedNodes_renumber (fixed : f 0 = 0) (nodes : List Node) :
    printedNodes marker (renumberNodes f nodes) = (printedNodes marker nodes).map (Line.renumber f) := by
  cases nodes with
  | nil => rfl
  | cons node nodes =>
    simp [renumberNodes, printedNodes, Node.printed_renumber fixed node, printedNodes_renumber fixed nodes]

theorem printedArms_renumber (fixed : f 0 = 0) (arms : List Block) :
    printedArms marker (renumberBlocks f arms) = (printedArms marker arms).map (Line.renumber f) := by
  match arms with
  | [] => rfl
  | .mk number head body others stop :: arms =>
    simp [renumberBlocks, Block.renumber, printedArms, renumber_directing fixed, printedNodes_renumber fixed body,
      printedArms_renumber fixed arms]

end

end

theorem Matching.run_comments {comments : List Line} (quiet : ∀ line ∈ comments, line.directive? = some .comment)
    (state : Matching) (after : List Line) : state.run (comments ++ after) = state.run after := by
  induction comments with
  | nil => rfl
  | cons line comments ih =>
    have passed : state.step line = .ok state := Braces.step_of_directive (quiet line List.mem_cons_self)
    rw [List.cons_append, run, passed]
    exact ih fun other inside => quiet other (List.mem_cons_of_mem _ inside)

/-- An opener behind a closer, comments aside, is matched like one line that closes and opens. -/
theorem Matching.run_joined {closer opener joined : Line} {comments : List Line} {head : Text}
    (closes : closer.directive? = some .closer) (quiet : ∀ line ∈ comments, line.directive? = some .comment)
    (opens : opener.directive? = some (.opener head)) (reopens : joined.directive? = some (.reopener head))
    (numbers : closer.number = opener.number ∧ joined.number = opener.number) (state : Matching) (after : List Line) :
    state.run (closer :: (comments ++ opener :: after)) = state.run (joined :: after) := by
  have first : state.step closer = state.direct opener.number .closer :=
    numbers.1 ▸ Braces.step_of_directive closes
  have both : state.step joined = state.direct opener.number (.reopener head) :=
    numbers.2 ▸ Braces.step_of_directive reopens
  rw [run, first, run, both, direct_reopener]
  cases state.direct opener.number .closer with
  | error flaw => rfl
  | ok closed =>
    have second : closed.step opener = closed.direct opener.number (.opener head) := Braces.step_of_directive opens
    dsimp only [Except.bind]
    rw [run_comments quiet, run, second]

/-- Printing the tree of an accepted template and matching the printed lines, under whatever numbers, gives the tree
again up to line numbers.  An opener that follows a closer with at most comments between them is read like the one
line that closes the block and opens the arm, whether the template is accepted or not. -/
theorem printed_tree_matches_again (marker : Text) (name : Option Text) (lines : List Line) :
    (∀ tree printed, Tree.ofLines name lines = .ok tree →
      printed.map Line.unnumbered = (tree.printed marker).map Line.unnumbered →
        ∃ again, Tree.ofLines name printed = .ok again ∧ again.unnumbered = tree.unnumbered) ∧
      ∀ before closer comments opener after head joined, lines = before ++ closer :: (comments ++ opener :: after) →
        closer.directive? = some .closer → (∀ line ∈ comments, line.directive? = some .comment) →
          opener.directive? = some (.opener head) → joined.form = .directive (continuingStatement head) →
            unnumberedReading (Tree.ofLines name (before ++ joined :: after)) =
              unnumberedReading (Tree.ofLines name lines) := by
  constructor
  · intro tree printed accepted same
    have unnumbered : Tree.ofLines name (lines.map Line.unnumbered) = .ok tree.unnumbered := by
      rw [ofLines_unnumbered, accepted]
      rfl
    have numbers : ∀ line ∈ lines.map Line.unnumbered, line.number = 0 := by
      intro line inside
      obtain ⟨numbered, -, rfl⟩ := List.mem_map.mp inside
      rfl
    have lines_eq : printed.map Line.unnumbered = tree.unnumbered.printed marker :=
      same.trans (printedNodes_renumber (f := fun _ => 0) marker rfl tree.body).symm
    have again : unnumberedReading (Tree.ofLines name printed) = .ok tree.unnumbered := by
      rw [← ofLines_unnumbered, lines_eq]
      exact ofLines_printed numbers unnumbered
    cases reading : Tree.ofLines name printed with
    | error flaw =>
      rw [reading] at again
      cases again
    | ok found =>
      rw [reading] at again
      exact ⟨found, rfl, Except.ok.inj again⟩
  · rintro before closer comments opener after head joined rfl closes quiet opens form
    have trimmed : head.trim = head := by
      unfold Line.directive? at opens
      split at opens
      · exact (Directive.head_of_opener (Option.some.inj opens)).1
      · cases opens
    have reopens : joined.directive? = some (.reopener head) := by
      rw [Line.directive?, form]
      exact congrArg some (Directive.ofStatement_continuing trimmed)
    have quiet' : ∀ line ∈ comments.map Line.unnumbered, line.directive? = some .comment := by
      intro line inside
      obtain ⟨comment, member, rfl⟩ := List.mem_map.mp inside
      exact quiet comment member
    have closes' : closer.unnumbered.directive? = some .closer := closes
    have opens' : opener.unnumbered.directive? = some (.opener head) := opens
    have reopens' : joined.unnumbered.directive? = some (.reopener head) := reopens
    have joins (state : Matching) : state.run (closer.unnumbered ::
        (comments.map Line.unnumbered ++ opener.unnumbered :: after.map Line.unnumbered)) =
          state.run (joined.unnumbered :: after.map Line.unnumbered) :=
      Matching.run_joined closes' quiet' opens' reopens' ⟨rfl, rfl⟩ state _
    rw [← ofLines_unnumbered, ← ofLines_unnumbered]
    simp only [List.map_append, List.map_cons, Tree.ofLines, Matching.run_append, joins]

/-- A block with an arm on a line of its own, behind a comment. -/
def armedLines : List Line :=
  [⟨1, "% if a \x7b", ['\n'], .directive "if a \x7b"⟩, ⟨2, "x", ['\n'], .text [.literal ['x']]⟩,
    ⟨3, "% \x7d", ['\n'], .directive ['}']⟩, ⟨4, "% # or", ['\n'], .directive "# or"⟩,
    ⟨5, "% else \x7b", ['\n'], .directive "else \x7b"⟩, ⟨6, [], ['\n'], .blank⟩,
      ⟨7, "% \x7d", ['\n'], .directive ['}']⟩]

/-- The tree of the block with an arm. -/
def armedTree : Tree :=
  ⟨[.control (.mk 1 "if a" [.leaf 2 ⟨2, "x", ['\n'], .text [.literal ['x']]⟩]
    [.mk 5 "else" [.leaf 6 ⟨6, [], ['\n'], .blank⟩] [] 7] 3)], none⟩

theorem armedLines_match_again :
    Tree.ofLines none armedLines = .ok armedTree ∧
      (∃ again, Tree.ofLines none (armedTree.printed ['%']) = .ok again ∧ again.unnumbered = armedTree.unnumbered) ∧
        unnumberedReading (Tree.ofLines none (armedLines.take 2 ++
          ⟨3, "% \x7d else \x7b", ['\n'], .directive "\x7d else \x7b"⟩ :: armedLines.drop 5)) =
            unnumberedReading (Tree.ofLines none armedLines) := by
  have accepted : Tree.ofLines none armedLines = .ok armedTree := rfl
  obtain ⟨prints, joins⟩ := printed_tree_matches_again ['%'] none armedLines
  refine ⟨accepted, prints armedTree _ accepted rfl, ?_⟩
  refine joins (armedLines.take 2) ⟨3, "% \x7d", ['\n'], .directive ['}']⟩ [⟨4, "% # or", ['\n'], .directive "# or"⟩]
    ⟨5, "% else \x7b", ['\n'], .directive "else \x7b"⟩ (armedLines.drop 5) "else" _ rfl rfl ?_ rfl rfl
  intro line inside
  obtain rfl := List.mem_singleton.mp inside
  rfl

end Stencil
