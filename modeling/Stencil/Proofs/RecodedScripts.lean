import Stencil.Proofs.RecodedReading
import Stencil.Proofs.RecodedRoutines
import Stencil.Proofs.RecodedSuites
import Stencil.Proofs.WholeRoutine

/-!
# Scripts that differ in how they convert values

When every piece of script in a template is a complete line that speaks of no name of a routine's own, the routines that
are read for the two decisions about escaping are recodings of each other.
-/

namespace Stencil

open Script

/-- The script that an instruction holds: an expression, a statement, or the head of a block with its colon. -/
def Instruction.script? : Instruction → Option Text
  | .insert code _ _ | .exec code _ => some code
  | .begin head _ _ => some (head ++ [':'])
  | _ => none

namespace Routine

/-- Whether a text is one complete line of script that speaks of no name of a routine's own. -/
def Plainspoken (text : Text) : Prop :=
  '\r' ∉ text ∧ ∃ line, Reading.ofText text = .sole line ∧
    ∀ name ∈ spoken false line.tokens, isOwnName name = false ∧ name ≠ renderName

/-- Whether a text is one complete line of script that stands for itself and speaks of no hidden name. -/
structure Fit (reticence : Reticence) (text : Text) : Prop where
  solid : Solid text
  sole : ∃ line, Reading.ofText text = .sole line ∧ Allowed reticence line.tokens

variable {reticence : Reticence} {escape : Bool} {number width : Nat}

/-- The names that a routine does not share are its own names, and the name of the routine itself. -/
theorem own_of_reserved : ∀ name ∈ reserved, isOwnName name = true ∨ name = renderName := by decide

theorem Plainspoken.fit {text : Text} (plain : Plainspoken text) (solid : Solid text)
    (hidden : ∀ name, reticence.hidden name → name ∈ reserved) : Fit reticence text where
  solid := solid
  sole := by
    obtain ⟨-, line, sole, free⟩ := plain
    refine ⟨line, sole, fun name spoken concealed => ?_⟩
    obtain ⟨foreign, other⟩ := free name spoken
    rcases own_of_reserved name (hidden name concealed) with own | same
    · rw [foreign] at own
      cases own
    · exact other same

/-! ## Lines side by side -/

theorem spoken_at (line : Nat) (pointed : Bool) (tokens : List Placed) :
    spoken pointed (tokens.map (Placed.at line)) = spoken pointed tokens := by
  induction tokens generalizing pointed with
  | nil => rfl
  | cons placed tokens ih => rw [List.map_cons, spoken, spoken, ih, Placed.at]

theorem allowed_at {tokens : List Placed} (allowed : Allowed reticence tokens) (line : Nat) :
    Allowed reticence (tokens.map (Placed.at line)) := by
  rwa [Allowed, spoken_at]

/-- The line that keeps the value of an expression speaks of what the expression speaks of, and of a name for the value. -/
theorem Fit.value {code : Text} (fit : Fit reticence code) (seen : ¬ reticence.hidden valueName) :
    Fit reticence (valueName ++ " = " ++ code) where
  solid := solid_valueLine fit.solid
  sole := by
    obtain ⟨line, sole, allowed⟩ := fit.sole
    refine ⟨_, ofText_valueLine fit.solid sole, ?_⟩
    exact List.forall_mem_cons.mpr ⟨seen, allowed_at allowed 1⟩

theorem fit_pass (seen : ¬ reticence.hidden "pass".toList) : Fit reticence "pass" where
  solid := simple_pass.solid
  sole := ⟨_, ofText_pass, List.forall_mem_singleton.mpr seen⟩

/-- The logical line of the tokens of a line alone, on a given line and with a given indentation. -/
def placedLine (width number : Nat) (tokens : List Placed) : LogicalLine :=
  ⟨⟨width, width⟩, tokens.map (Placed.at number), number, number⟩

/-- No word that starts a statement of a routine's own continues a clause. -/
theorem apart_continuing {first : Text} (other : ∀ word ∈ continuingWords, first ≠ word.toList) (depth : Nat)
    (tokens : List Placed) : ∀ word ∈ continuingWords, atWord word (⟨.word first, number, depth⟩ :: tokens) = false :=
  fun word continuing => beq_eq_false_iff_ne.mpr (other word continuing)

theorem standsFor_append (text : Text) : StandsFor (placedLine width number
    ([(.word appendName, 0), (.mark ['('], 1), (.string text, 1), (.mark [')'], 0)].map
      fun (token, depth) => (⟨token, 1, depth⟩ : Placed))) (appending number (.constant (.text text))) where
  head := rfl
  subject := rfl
  read := readLine_appendLine number text
  apart := apart_continuing (by decide) 0 _

theorem standsFor_convert (escape : Bool) : StandsFor (placedLine width number
    ([(.word appendName, 0), (.mark ['('], 1), (.word (Writing.converter escape), 1), (.mark ['('], 2),
      (.word valueName, 2), (.mark [')'], 1), (.mark [')'], 0)].map
        fun (token, depth) => (⟨token, 1, depth⟩ : Placed))) (converting number escape) where
  head := by cases escape <;> rfl
  subject := by cases escape <;> rfl
  read := readLine_convertLine escape number
  apart := apart_continuing (by decide) 0 _

/-! ## Suites side by side -/

/-- Whether two suites are read as lines that are the same, or recodings of each other, none further out than a given
width. -/
def ReadTogether (reticence : Reticence) (escape : Bool) (width number : Nat) (lines lines' : List SuiteLine) : Prop :=
  ∃ found found', ReadAs number (lines.map SuiteLine.script) found ∧ ReadAs number (lines'.map SuiteLine.script) found' ∧
    List.Forall₂ (RecodedLine reticence (some escape)) found found' ∧ ∀ line ∈ found, width ≤ line.indent.wide

namespace ReadTogether

variable {lines lines' : List SuiteLine} {level : Nat} {text text' : Text} {origin : Int}

theorem nil : ReadTogether reticence escape width number [] [] := ⟨[], [], .nil number, .nil number, .nil, nofun⟩

theorem cons (rest : ReadTogether reticence escape width (number + 1) lines lines') (inside : width ≤ 4 * level)
    {alone alone' : LogicalLine} (solid : Solid text) (solid' : Solid text') (sole : Reading.ofText text = .sole alone)
    (sole' : Reading.ofText text' = .sole alone')
    (recoded : RecodedLine reticence (some escape) (placedLine (4 * level) number alone.tokens)
      (placedLine (4 * level) number alone'.tokens)) :
    ReadTogether reticence escape width number (⟨level, text, origin⟩ :: lines) (⟨level, text', origin⟩ :: lines') := by
  obtain ⟨found, found', read, read', each, wide⟩ := rest
  exact ⟨_, _, .cons solid sole read, .cons solid' sole' read', .cons recoded each, List.forall_mem_cons.mpr ⟨inside, wide⟩⟩

/-- A line of the template's script is the same on both sides. -/
theorem fit (rest : ReadTogether reticence escape width (number + 1) lines lines') (inside : width ≤ 4 * level)
    (fit : Fit reticence text) :
    ReadTogether reticence escape width number (⟨level, text, origin⟩ :: lines) (⟨level, text, origin⟩ :: lines') := by
  obtain ⟨alone, sole, allowed⟩ := fit.sole
  exact rest.cons inside fit.solid fit.solid sole sole (.same (allowed_at allowed number))

theorem literal (rest : ReadTogether reticence escape width (number + 1) lines lines') (inside : width ≤ 4 * level)
    (content : Text) : ReadTogether reticence escape width number
      (⟨level, Writing.appendLine (Quoted.encode content), origin⟩ :: lines)
      (⟨level, Writing.appendLine (Quoted.encode content), origin⟩ :: lines') :=
  rest.cons inside (solid_appendLine content) (solid_appendLine content) (ofText_appendLine content)
    (ofText_appendLine content)
    (.stands rfl (standsFor_append content) (standsFor_append content) (.literal rfl number content))

theorem convert (rest : ReadTogether reticence escape width (number + 1) lines lines') (inside : width ≤ 4 * level) :
    ReadTogether reticence escape width number
      (⟨level, Writing.appendLine (Writing.converter true ++ ['('] ++ valueName ++ [')']), origin⟩ :: lines)
      (⟨level, Writing.appendLine (Writing.converter escape ++ ['('] ++ valueName ++ [')']), origin⟩ :: lines') :=
  rest.cons inside (simple_convertLine true).solid (simple_convertLine escape).solid (ofText_convertLine true)
    (ofText_convertLine escape) (.stands rfl (standsFor_convert true) (standsFor_convert escape) (.convert rfl number))

end ReadTogether

/-- Suites that are written for pieces of script that are fit are read as lines that belong together. -/
theorem Counterparts.readTogether {bottom : Nat} {pieces : List Instruction} {lines lines' : List SuiteLine}
    (counterparts : Counterparts escape bottom pieces lines lines')
    (fit : ∀ piece ∈ pieces, ∀ text, piece.script? = some text → Fit reticence text)
    (seen : ∀ name ∈ [valueName, "pass".toList], ¬ reticence.hidden name) (number : Nat) :
    ReadTogether reticence escape (4 * bottom) number lines lines' := by
  induction counterparts generalizing number with
  | nil => exact .nil
  | same inside plain _ ih =>
      obtain ⟨own, others⟩ := List.forall_mem_append.mp fit
      have rest := ih others (number + 1)
      have inside := Nat.mul_le_mul_left 4 inside
      cases plain with
      | literal level content origin => exact rest.literal inside content
      | pass level origin => exact rest.fit inside (fit_pass (seen _ (.tail _ (.head _))))
      | statement level code line => exact rest.fit inside (own _ (.head _) code rfl)
      | head level code arm line => exact rest.fit inside (own _ (.head _) _ rfl)
  | insert inside code line _ ih =>
      obtain ⟨own, others⟩ := List.forall_mem_cons.mp fit
      have inside := Nat.mul_le_mul_left 4 inside
      exact ((ih others (number + 1 + 1)).convert inside).fit inside ((own code rfl).value (seen _ (.head _)))

/-! ## Lines before and behind a suite -/

theorem readBlock_simple {line : LogicalLine} (indent : line.indent = ⟨width, width⟩) {statements : List Stmt}
    (head : readHead? line.tokens = none) (subject : readSubject? line.tokens = none)
    (read : readLine line.tokens = some statements) (steps : Nat) (lines : List LogicalLine) :
    readBlock ⟨width, width⟩ (steps + 2) (line :: lines) =
      (readBlock ⟨width, width⟩ (steps + 1) lines).bind fun more => some (statements ++ more.1, more.2) := by
  rw [readBlock_line indent, readStatement, head]
  simp only [subject, read, Option.bind_eq_bind, Option.bind_some, Option.pure_def]

theorem readBlock_define {line first : LogicalLine} (indent : line.indent = ⟨width, width⟩) {name : Text}
    {parameters : List Parameter} (head : readHead? line.tokens = some (some (.define name parameters, [])))
    {inner : Nat} (indent' : first.indent = ⟨inner, inner⟩) (wider : width < inner) (steps : Nat)
    (lines : List LogicalLine) : readBlock ⟨width, width⟩ (steps + 3) (line :: first :: lines) =
      (readBlock ⟨inner, inner⟩ steps (first :: lines)).bind fun body =>
        (readBlock ⟨width, width⟩ (steps + 2) body.2).bind fun more =>
          some (.define line.start name parameters body.1 :: more.1, more.2) := by
  have suite : readSuite line [] (steps + 1) (first :: lines) = readBlock ⟨inner, inner⟩ steps (first :: lines) := by
    simp only [readSuite, List.isEmpty_nil, if_true, indent', indent, wider]
  rw [readBlock_line indent, readStatement, head]
  simp only [Option.bind_eq_bind, Option.bind_some, suite, Option.bind_assoc, Option.pure_def, List.singleton_append]

/-- Whether some lines are read as statements of their own, whatever lines follow them. -/
structure Leads (number level : Nat) (lines : List SuiteLine) (found : List LogicalLine) (statements : List Stmt) :
    Prop where
  read : ReadAs number (lines.map SuiteLine.script) found
  first : ∀ line ∈ found.head?, line.indent = ⟨4 * level, 4 * level⟩
  block : ∀ steps rest, readBlock ⟨4 * level, 4 * level⟩ (steps + 1 + lines.length) (found ++ rest) =
    (readBlock ⟨4 * level, 4 * level⟩ (steps + 1) rest).bind fun more => some (statements ++ more.1, more.2)

theorem Leads.nil (number level : Nat) : Leads number level [] [] [] where
  read := .nil number
  first := nofun
  block _ _ := (Option.bind_fun_some _).symm

theorem Simple.leads {text : Text} {own : Nat → List Stmt} (simple : Simple text own) {level : Nat} (origin : Int)
    {lines : List SuiteLine} {found : List LogicalLine} {statements : List Stmt}
    (rest : Leads (number + 1) level lines found statements) : ∃ alone, Reading.ofText text = .sole alone ∧
      Leads number level (⟨level, text, origin⟩ :: lines) (placedLine (4 * level) number alone.tokens :: found)
        (own number ++ statements) := by
  obtain ⟨solid, alone, sole, statement⟩ := simple
  obtain ⟨head, subject, line⟩ := statement number
  refine ⟨alone, sole, .cons solid sole rest.read, by rintro _ ⟨⟩; rfl, fun steps behind => ?_⟩
  rw [List.length_cons, List.cons_append, show steps + 1 + (lines.length + 1) = steps + lines.length + 2 by omega,
    readBlock_simple rfl head subject line, show steps + lines.length + 1 = steps + 1 + lines.length by omega,
    rest.block, Option.bind_assoc]
  simp only [Option.bind_some, List.append_assoc]

theorem leads_preparing : ∃ line found, Leads 3 2 preparingLines (line :: found) preparing := by
  obtain ⟨_, -, leads⟩ := simple_prepareAppend.leads 1 (.nil 7 2)
  obtain ⟨_, -, leads⟩ := simple_prepareBuffer.leads 1 leads
  obtain ⟨_, -, leads⟩ := simple_prepareText.leads 1 leads
  obtain ⟨_, -, leads⟩ := simple_prepareEscape.leads 1 leads
  exact ⟨_, _, leads⟩

/-- The statements of two bodies that end alike differ in how they convert values only. -/
theorem rel_readBlock {conversion : Option Bool} {last rest : List LogicalLine} {final : List Stmt}
    (frank : ∀ name, ¬ reticence.unread name) (ends : Ends width last)
    (closing : ∀ steps, readBlock ⟨width, width⟩ steps last = none ∨ readBlock ⟨width, width⟩ steps last = some (final, rest))
    (steps : Nat) {lines lines' : List LogicalLine} (together : Together reticence conversion width last lines lines') :
    Option.Rel (fun found found' => ∃ statements statements', RecodedBlock reticence conversion statements statements' ∧
      found = (statements ++ final, rest) ∧ found' = (statements' ++ final, rest))
      (readBlock ⟨width, width⟩ steps lines) (readBlock ⟨width, width⟩ steps lines') := by
  induction steps generalizing lines lines' with
  | zero => exact .none
  | succ steps ih =>
      rcases together.cases with ⟨rfl, rfl⟩ | ⟨line, line', more, more', rfl, rfl, recoded, wide, together'⟩
      · rcases closing (steps + 1) with none | some
        · rw [none]
          exact .none
        · rw [some]
          exact .some ⟨[], [], .nil, rfl, rfl⟩
      · rw [readBlock, readBlock, recoded.indent, if_neg wide.not_gt, if_neg wide.not_gt]
        split
        · exact .none
        · refine rel_bind ((readAlongside frank ends steps).statement together' recoded wide) fun found found' alike => ?_
          refine rel_bind (ih alike.2) fun _ _ both => ?_
          obtain ⟨statements, statements', inside, rfl, rfl⟩ := both
          exact .some ⟨found.1 ++ statements, found'.1 ++ statements', alike.1.append inside,
            by rw [List.append_assoc], by rw [List.append_assoc]⟩

/-- The lines that every routine and its factory end with are read as their returns. -/
theorem readBlock_closing {number : Nat} {lines : List SuiteLine} {given after : LogicalLine} {final : List Stmt}
    (leads : Leads number 2 lines [given] final) (out : after.indent = ⟨4, 4⟩) (steps : Nat) :
    readBlock ⟨8, 8⟩ steps [given, after] = none ∨ readBlock ⟨8, 8⟩ steps [given, after] = some (final, [after]) := by
  have one : lines.length = 1 := by
    have length := leads.read.length
    rw [List.length_map] at length
    exact length.symm
  match steps with
  | 0 => exact .inl rfl
  | 1 =>
      rw [readBlock_line (leads.first given rfl)]
      exact .inl rfl
  | steps + 2 =>
      have read := leads.block steps [after]
      have beyond : Beyond 8 [after] := by
        rintro _ ⟨⟩
        rw [out]
        decide
      rw [one, readBlock_beyond beyond, Option.bind_some, List.append_nil] at read
      exact .inr read

/-- The line that the factory of a routine starts with. -/
def factoryLine : LogicalLine :=
  placedLine 0 1 ([(.word "def", 0), (.word factoryName, 0), (.mark ['('], 1), (.word escapeParameter, 1),
    (.mark [','], 1), (.word textParameter, 1), (.mark [')'], 0), (.mark [':'], 0)].map
      fun (token, depth) => (⟨token, 1, depth⟩ : Placed))

/-- The line that a routine starts with. -/
def headLine : LogicalLine :=
  placedLine 4 2 ([(.word "def", 0), (.word renderName, 0), (.mark ['('], 1), (.word "self", 1), (.mark [')'], 0),
    (.mark [':'], 0)].map fun (token, depth) => (⟨token, 1, depth⟩ : Placed))

/-- A routine is what is read between the lines that it and its factory start with and the return from the factory. -/
theorem bodyOf_readLines {first after : LogicalLine} {own : List LogicalLine} (block : List LogicalLine) {number : Nat}
    {lines : List SuiteLine} {given : List Stmt} (leads : Leads 3 2 preparingLines (first :: own) preparing)
    (returns : Leads number 1 lines [after] given) : ∃ steps, ∀ block' : List LogicalLine, block'.length = block.length →
      let body := bodyOf (readLines (factoryLine :: headLine :: (first :: own ++ block')))
      (readBlock ⟨8, 8⟩ steps block' = none → body = unsupported) ∧
        ∀ statements, readBlock ⟨8, 8⟩ steps block' = some (statements, [after]) → body = preparing ++ statements := by
  obtain ⟨steps, enough⟩ : ∃ steps, 8 * (own.length + block.length + 4) = steps + 1 + 4 + 3 + 3 :=
    ⟨8 * (own.length + block.length + 4) - 11, by omega⟩
  have one : lines.length = 1 := by
    have length := returns.read.length
    rw [List.length_map] at length
    exact length.symm
  refine ⟨steps + 1, fun block' length => ?_⟩
  have whole : stepsForLines (factoryLine :: headLine :: (first :: own ++ block')) = steps + 1 + 4 + 3 + 3 := by
    rw [stepsForLines, ← enough, ← length]
    simp only [List.length_cons, List.length_append]
    omega
  have inside : readBlock ⟨8, 8⟩ (steps + 1 + 4) (first :: (own ++ block')) = _ := leads.block steps block'
  have closed := returns.block (steps + 1 + 4) []
  rw [one] at closed
  have closed : readBlock ⟨4, 4⟩ (steps + 1 + 4 + 2) [after] = some (given ++ [], []) := closed
  dsimp only
  have outer : factoryLine.indent = ⟨0, 0⟩ := rfl
  have inner : headLine.indent = ⟨4, 4⟩ := rfl
  rw [readLines, whole, readBlock_define outer rfl inner (by decide), List.cons_append,
    readBlock_define inner rfl (leads.first first rfl) (by decide)]
  refine ⟨fun none => ?_, fun statements some => ?_⟩
  · rw [inside, none]
    rfl
  · rw [inside, some, Option.bind_some, Option.bind_some, closed]
    rfl

/-- The line that returns the output of a routine ends a suite. -/
theorem ends_returnLine (number : Nat) {alone : LogicalLine}
    (sole : Reading.ofText ("return ''.join(" ++ bufferName ++ [')']) = .sole alone) (more : List LogicalLine) :
    Ends 8 (placedLine 8 number alone.tokens :: more) := by
  have same := ofText_returning.symm.trans sole
  obtain rfl := (List.cons.inj (congrArg Reading.lines same)).1
  exact ⟨_, more, rfl, rfl, apart_continuing (by decide) 0 _⟩

/-- Scripts around suites that are written for the same pieces are read as routines that differ in how they convert values
only. -/
theorem Counterparts.recodedBody {pieces : List Instruction} {lines lines' : List SuiteLine}
    (counterparts : Counterparts escape 2 pieces lines lines')
    (fit : ∀ piece ∈ pieces, ∀ text, piece.script? = some text → Fit reticence text)
    (seen : ∀ name ∈ [valueName, "pass".toList], ¬ reticence.hidden name) (frank : ∀ name, ¬ reticence.unread name)
    (last : Int) : ∃ found found',
      ReadAs 1 ((prologueLines ++ (lines ++ epilogue last)).map SuiteLine.script) found ∧
      ReadAs 1 ((prologueLines ++ (lines' ++ epilogue last)).map SuiteLine.script) found' ∧
        RecodedBody reticence escape (bodyOf (readLines found)) (bodyOf (readLines found')) := by
  obtain ⟨first, own, leads⟩ := leads_preparing
  obtain ⟨inside, inside', read, read', each, wide⟩ := counterparts.readTogether fit seen 7
  obtain ⟨given, sole, leadsGiven⟩ := simple_returning.leads last (.nil (lines.length + 7 + 1) 2)
  obtain ⟨after, -, leadsAfter⟩ := simple_returnRoutine.leads last (.nil (lines.length + 7 + 1 + 1) 1)
  have returns : ReadAs (lines.length + 7) ((epilogue last).map SuiteLine.script)
      [placedLine 8 (lines.length + 7) given.tokens, placedLine 4 (lines.length + 7 + 1) after.tokens] :=
    leadsGiven.read.append leadsAfter.read
  generalize last_lines : [placedLine 8 (lines.length + 7) given.tokens, placedLine 4 (lines.length + 7 + 1) after.tokens] =
    ending at returns
  have length : inside'.length = inside.length := each.length_eq.symm
  have same : lines'.length = lines.length := by
    rw [← List.length_map (f := SuiteLine.script), ← read'.length, length, read.length, List.length_map]
  have whole {suite : List SuiteLine} {block : List LogicalLine} (same : suite.length = lines.length)
      (read : ReadAs 7 (suite.map SuiteLine.script) block) :
      ReadAs 3 ((preparingLines ++ (suite ++ epilogue last)).map SuiteLine.script) (first :: own ++ (block ++ ending)) := by
    rw [List.map_append, List.map_append]
    refine leads.read.append (read.append ?_)
    rwa [List.length_map, same, Nat.add_comm]
  have factory {suite : List SuiteLine} {found : List LogicalLine}
      (read : ReadAs 3 ((preparingLines ++ (suite ++ epilogue last)).map SuiteLine.script) found) :
      ReadAs 1 ((prologueLines ++ (suite ++ epilogue last)).map SuiteLine.script) (factoryLine :: headLine :: found) :=
    .cons solid_factoryHead ofText_factoryHead (.cons solid_renderHead ofText_renderHead read)
  refine ⟨_, _, factory (whole rfl read), factory (whole same read'), ?_⟩
  obtain ⟨steps, bodies⟩ := bodyOf_readLines (inside ++ ending) leads leadsAfter
  have together : Together reticence (some escape) 8 ending (inside ++ ending) (inside' ++ ending) :=
    ⟨inside, inside', each, wide, rfl, rfl⟩
  have ends : Ends 8 ending := last_lines ▸ ends_returnLine _ sole _
  have closing := readBlock_closing leadsGiven (leadsAfter.first _ rfl)
  have alike := rel_readBlock frank ends (last_lines ▸ closing) steps together
  have own := bodies (inside ++ ending) rfl
  have other := bodies (inside' ++ ending) (by rw [List.length_append, List.length_append, length])
  generalize readBlock ⟨8, 8⟩ steps (inside ++ ending) = found, readBlock ⟨8, 8⟩ steps (inside' ++ ending) = found'
    at alike own other
  cases alike with
  | none =>
      rw [own.1 rfl, other.1 rfl]
      exact .unsupported
  | some both =>
      obtain ⟨statements, statements', inside, rfl, rfl⟩ := both
      rw [own.2 _ rfl, other.2 _ rfl]
      exact .written _ inside

end Routine
end Stencil
