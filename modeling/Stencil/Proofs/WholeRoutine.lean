import Stencil.Proofs.SourcePieces

/-!
# Whole routines

The script of a routine is the prologue, the suite of its template and the lines that return.  It is read as the
definition of a factory that defines the routine; the routine's statements are those of the steps of the template,
behind the assignments to its own names and before the statement that returns the joined output.
-/

namespace Stencil

open Script

namespace Routine

/-! ## The lines around a suite -/

/-- The head of the factory. -/
def factoryHead : Text := "def " ++ factoryName ++ ['('] ++ escapeParameter ++ ", " ++ textParameter ++ "):"

/-- The head of the routine. -/
def renderHead : Text := "def " ++ renderName ++ "(self):"

/-- The lines of the assignments that every routine starts with. -/
def preparingLines : List SuiteLine :=
  [⟨2, escapeName ++ " = " ++ escapeParameter, 1⟩, ⟨2, textName ++ " = " ++ textParameter, 1⟩,
    ⟨2, bufferName ++ " = []", 1⟩, ⟨2, appendName ++ " = " ++ bufferName ++ ".append", 1⟩]

/-- The lines that every routine starts with. -/
def prologueLines : List SuiteLine := ⟨0, factoryHead, 1⟩ :: ⟨1, renderHead, 1⟩ :: preparingLines

theorem prologue_lines : prologue.lines = prologueLines.map SuiteLine.generated := rfl

theorem join_lines (lines : List SuiteLine) (occupied : lines ≠ []) :
    Text.join ['\n'] (lines.map fun line => line.generated.text) ++ ['\n'] =
      (lines.map SuiteLine.script).flatMap ScriptLine.written := by
  have same (line : SuiteLine) : line.script.written = line.generated.text ++ ['\n'] := by
    have width : ((4 : Int) * (line.level : Int)).toNat = 4 * line.level := by omega
    rw [SuiteLine.script, ScriptLine.written, SuiteLine.generated, Sheet.indentation, Text.spaces, width]
  induction lines with
  | nil => exact absurd rfl occupied
  | cons line lines ih =>
      cases lines with
      | nil =>
          rw [List.map_singleton, List.map_singleton, List.flatMap_singleton, same]
          rfl
      | cons next lines =>
          have whole : (line :: next :: lines).map SuiteLine.script =
              line.script :: (next :: lines).map SuiteLine.script := rfl
          rw [whole, List.flatMap_cons, same, ← ih (List.cons_ne_nil _ _)]
          simp only [List.map_cons, Text.join, List.append_assoc]

/-- The assignments that every routine starts with. -/
def preparing : List Stmt :=
  [.assign 3 [.name escapeName] (.name 3 escapeParameter),
    .assign 4 [.name textName] (.name 4 textParameter),
    .assign 5 [.name bufferName] (.list []),
    .assign 6 [.name appendName] (.attribute 6 (.name 6 bufferName) "append")]

/-- The statement that returns the joined output. -/
def returning (line : Nat) : Stmt :=
  .giveBack line (some (.call line (.attribute line (.constant (.text [])) "join") [.name line bufferName]))

theorem tokens_at (number : Nat) (tokens : List (Token × Nat)) :
    (tokens.map fun (token, depth) => (⟨token, 1, depth⟩ : Placed)).map (Placed.at number) = tokensOn number tokens :=
  List.map_map

theorem simple_closed {text : Text} {tokens : List (Token × Nat)} {statements : Nat → List Stmt}
    (solid : Solid text) (sole : Reading.ofText text = soleLine tokens)
    (head : ∀ number, readHead? (tokensOn number tokens) = none)
    (subject : ∀ number, readSubject? (tokensOn number tokens) = none)
    (line : ∀ number, readLine (tokensOn number tokens) = some (statements number)) : Simple text statements where
  solid := solid
  read := by
    refine ⟨_, sole, fun number => ?_⟩
    rw [tokens_at]
    exact ⟨head number, subject number, line number⟩

section Closed

theorem simple_prepareEscape : Simple (escapeName ++ " = " ++ escapeParameter) fun number =>
    [.assign number [.name escapeName] (.name number escapeParameter)] := by
  have sole : Reading.ofText (escapeName ++ " = " ++ escapeParameter) =
      soleLine [(.word escapeName, 0), (.mark ['='], 0), (.word escapeParameter, 0)] := rfl
  exact simple_closed ⟨by decide, by decide, by rintro _ ⟨⟩; rfl⟩ sole (fun _ => rfl) (fun _ => rfl) (fun _ => rfl)

theorem simple_prepareText : Simple (textName ++ " = " ++ textParameter) fun number =>
    [.assign number [.name textName] (.name number textParameter)] := by
  have sole : Reading.ofText (textName ++ " = " ++ textParameter) =
      soleLine [(.word textName, 0), (.mark ['='], 0), (.word textParameter, 0)] := rfl
  exact simple_closed ⟨by decide, by decide, by rintro _ ⟨⟩; rfl⟩ sole (fun _ => rfl) (fun _ => rfl) (fun _ => rfl)

theorem simple_prepareBuffer : Simple (bufferName ++ " = []") fun number =>
    [.assign number [.name bufferName] (.list [])] := by
  have sole : Reading.ofText (bufferName ++ " = []") =
      soleLine [(.word bufferName, 0), (.mark ['='], 0), (.mark ['['], 1), (.mark [']'], 0)] := rfl
  exact simple_closed ⟨by decide, by decide, by rintro _ ⟨⟩; rfl⟩ sole (fun _ => rfl) (fun _ => rfl) (fun _ => rfl)

theorem simple_prepareAppend : Simple (appendName ++ " = " ++ bufferName ++ ".append") fun number =>
    [.assign number [.name appendName] (.attribute number (.name number bufferName) "append")] := by
  have sole : Reading.ofText (appendName ++ " = " ++ bufferName ++ ".append") =
      soleLine [(.word appendName, 0), (.mark ['='], 0), (.word bufferName, 0), (.mark ['.'], 0),
        (.word "append", 0)] := rfl
  exact simple_closed ⟨by decide, by decide, by rintro _ ⟨⟩; rfl⟩ sole (fun _ => rfl) (fun _ => rfl) (fun _ => rfl)

theorem ofText_returning : Reading.ofText ("return ''.join(" ++ bufferName ++ [')']) =
    soleLine [(.word "return", 0), (.string [], 0), (.mark ['.'], 0), (.word "join", 0), (.mark ['('], 1),
      (.word bufferName, 1), (.mark [')'], 0)] := rfl

theorem simple_returning : Simple ("return ''.join(" ++ bufferName ++ [')']) fun number => [returning number] :=
  simple_closed ⟨by decide, by decide, by rintro _ ⟨⟩; rfl⟩ ofText_returning (fun _ => rfl) (fun _ => rfl) (fun _ => rfl)

theorem simple_returnRoutine : Simple ("return " ++ renderName) fun number =>
    [.giveBack number (some (.name number renderName))] := by
  have sole : Reading.ofText ("return " ++ renderName) =
      soleLine [(.word "return", 0), (.word renderName, 0)] := rfl
  exact simple_closed ⟨by decide, by decide, by rintro _ ⟨⟩; rfl⟩ sole (fun _ => rfl) (fun _ => rfl) (fun _ => rfl)

end Closed

/-- The statements of a routine's script. -/
def routineScript (statements : List Stmt) (line : Nat) : List Stmt :=
  [.define 1 factoryName [⟨escapeParameter, 1⟩, ⟨textParameter, 1⟩]
    [.define 2 renderName [⟨"self", 2⟩] (preparing ++ (statements ++ [returning line])),
      .giveBack (line + 1) (some (.name (line + 1) renderName))]]

theorem Simple.alone {text : Text} {statements : Nat → List Stmt} (simple : Simple text statements) (number level : Nat)
    (template : Int) : ∃ found, ReadAs number ([⟨level, text, template⟩].map SuiteLine.script) found ∧
      Clauses (4 * level) found .nothing (statements number) := by
  have none : ReadAs (number + 1) (([] : List SuiteLine).map SuiteLine.script) [] := .nil _
  obtain ⟨found, read, clauses⟩ := simple.clauses level template none (.nil _)
  rw [List.append_nil] at clauses
  exact ⟨found, read, clauses⟩

theorem ofText_renderHead : Reading.ofText renderHead =
    soleLine [(.word "def", 0), (.word renderName, 0), (.mark ['('], 1), (.word "self", 1), (.mark [')'], 0),
      (.mark [':'], 0)] := rfl

theorem ofText_factoryHead : Reading.ofText factoryHead =
    soleLine [(.word "def", 0), (.word factoryName, 0), (.mark ['('], 1), (.word escapeParameter, 1),
      (.mark [','], 1), (.word textParameter, 1), (.mark [')'], 0), (.mark [':'], 0)] := rfl

theorem solid_renderHead : Solid renderHead := ⟨by decide, by decide, by rintro _ ⟨⟩; rfl⟩

theorem solid_factoryHead : Solid factoryHead := ⟨by decide, by decide, by rintro _ ⟨⟩; rfl⟩

/-- The assignments that every routine starts with, in front of further lines. -/
theorem reads_preparing {lines : List SuiteLine} {found : List LogicalLine} {statements : List Stmt}
    (read : ReadAs 7 (lines.map SuiteLine.script) found) (clauses : Clauses 8 found .nothing statements) :
    ∃ body, ReadAs 3 ((preparingLines ++ lines).map SuiteLine.script) body ∧
      Clauses 8 body .nothing (preparing ++ statements) := by
  obtain ⟨_, read, clauses⟩ := simple_prepareAppend.clauses 2 1 read clauses
  obtain ⟨_, read, clauses⟩ := simple_prepareBuffer.clauses 2 1 read clauses
  obtain ⟨_, read, clauses⟩ := simple_prepareText.clauses 2 1 read clauses
  obtain ⟨body, read, clauses⟩ := simple_prepareEscape.clauses 2 1 read clauses
  exact ⟨body, read, clauses⟩

/-- A suite between the lines that every routine starts with and the lines that return. -/
theorem reads_around {suite : List SuiteLine} {found : List LogicalLine} {statements : List Stmt}
    (read : ReadAs 7 (suite.map SuiteLine.script) found) (clauses : Clauses 8 found .nothing statements) (last : Int) :
    ∃ whole, ReadAs 1 ((prologueLines ++ (suite ++ epilogue last)).map SuiteLine.script) whole ∧
      Clauses 0 whole .nothing (routineScript statements (suite.length + 7)) := by
  obtain ⟨joined, readJoin, clausesJoin⟩ := simple_returning.alone (suite.length + 7) 2 last
  obtain ⟨given, readGiven, clausesGiven⟩ := simple_returnRoutine.alone (suite.length + 7 + 1) 1 last
  have follows : 7 + (suite.map SuiteLine.script).length = suite.length + 7 := by rw [List.length_map, Nat.add_comm]
  have readBody := read.append (follows ▸ readJoin)
  rw [← List.map_append] at readBody
  obtain ⟨body, readBody, clausesBody⟩ := reads_preparing readBody (clauses.append clausesJoin)
  have length := readBody.length
  have lines : preparingLines.length = 4 := rfl
  rw [List.length_map, List.length_append, List.length_append, lines, List.length_singleton] at length
  have occupied : body ≠ [] := by
    rintro rfl
    cases length.trans (Nat.add_comm _ _)
  have behind : suite.length + 7 + 1 = 3 + body.length := by omega
  rw [behind, readBody.length] at readGiven
  have readInside := readBody.append readGiven
  rw [← List.map_append] at readInside
  have whole : prologueLines ++ (suite ++ epilogue last) = ⟨0, factoryHead, 1⟩ :: ⟨1, renderHead, 1⟩ ::
      (preparingLines ++ (suite ++ [⟨2, "return ''.join(" ++ bufferName ++ [')'], last⟩]) ++
        [⟨1, "return " ++ renderName, last⟩]) := by
    simp [prologueLines, epilogue]
  rw [whole]
  refine ⟨_, .cons solid_factoryHead ofText_factoryHead (.cons solid_renderHead ofText_renderHead readInside), ?_⟩
  rw [← List.append_nil (body ++ given)]
  exact .define rfl rfl (by decide : 0 < 4) (List.cons_ne_nil _ _)
    (.define rfl rfl (by decide : 4 < 8) occupied clausesBody clausesGiven) (.nil 0)

theorem reads_routine {origin : Nat → Option Int} {escape : Bool} {suite : List SuiteLine} {steps : List Step}
    (reads : Reads origin escape 2 suite ⟨.nothing, steps⟩) (mapped : Mapped origin 7 suite) (last : Int) :
    ∃ found statements, ReadAs 1 ((prologueLines ++ (suite ++ epilogue last)).map SuiteLine.script) found ∧
      Clauses 0 found .nothing (routineScript statements (suite.length + 7)) ∧
      Lowers origin escape steps statements := by
  obtain ⟨found, _, statements, read, clauses, ⟨⟩, lowers⟩ := reads 7 mapped
  obtain ⟨whole, readWhole, clausesWhole⟩ := reads_around read clauses last
  exact ⟨whole, statements, readWhole, clausesWhole, lowers⟩

/-! ## Compiled routines -/

theorem mapped_origins (before lines after : List SuiteLine) :
    Mapped (fun number : Nat => originAt ((before ++ (lines ++ after)).map SuiteLine.origin) number)
      (before.length + 1) lines := by
  induction lines generalizing before with
  | nil => trivial
  | cons line lines ih =>
      have rest := ih (before ++ [line])
      rw [List.append_assoc, List.length_append] at rest
      refine ⟨?_, rest⟩
      simp [originAt]

theorem readScript_of_clauses {lines : List SuiteLine} {found : List LogicalLine} {statements : List Stmt}
    {program : Option (List Stmt)} (read : ReadAs 1 (lines.map SuiteLine.script) found)
    (clauses : Clauses 0 found .nothing statements)
    (accepted : readScript ((lines.map SuiteLine.script).flatMap ScriptLine.written) = .ok program) :
    program = some statements ∧ misplacedIn? statements = none := by
  rw [readScript, reading_of_lines read] at accepted
  dsimp only at accepted
  split at accepted
  · cases accepted
  · cases accepted
  · rw [readLines_of_clauses clauses] at accepted
    dsimp only at accepted
    split at accepted
    · cases accepted
    · rename_i placed
      exact ⟨(Except.ok.inj accepted).symm, placed⟩

theorem ofSheet_eq_ok {origin : Origin} {sheet : Sheet} {routine : Routine}
    (accepted : ofSheet origin sheet = .ok routine) :
    ∃ program, readScript sheet.toText = .ok program ∧ routine.file = fileFor origin ∧
      routine.origins = sheet.origins ∧ routine.text = sheet.toText ∧ routine.body = bodyOf program := by
  unfold ofSheet at accepted
  dsimp only at accepted
  split at accepted
  · cases accepted
  · split at accepted
    · cases accepted
    · rename_i program read
      cases accepted
      exact ⟨program, read, rfl, rfl, rfl, rfl⟩

/-- What is known of the routine that is made of a tree. -/
theorem routine_of_tree {marker : Text} {escape : Bool} {source : TemplateSource} {routine : Routine} {tree : Tree}
    (matched : source.tree marker = .ok tree) (accepted : source.routine marker escape = .ok routine) :
    let lines := prologueLines ++ (suite escape 2 tree.body ++ epilogue (finalLine (tree.plan escape)))
    routine.file = fileFor source.origin ∧ routine.origins = lines.map SuiteLine.origin ∧
      ∃ program, readScript ((lines.map SuiteLine.script).flatMap ScriptLine.written) = .ok program ∧
        routine.body = bodyOf program := by
  have plan : source.plan marker escape = .ok (tree.plan escape) := by rw [TemplateSource.plan, matched]; rfl
  simp only [TemplateSource.routine, plan, ofPlan, sheet?_plan, prologue_lines, ← List.map_append] at accepted
  obtain ⟨program, script, file, origins, -, body⟩ := ofSheet_eq_ok accepted
  rw [Sheet.toText, List.map_map] at script
  have text := join_lines (prologueLines ++ (suite escape 2 tree.body ++ epilogue (finalLine (tree.plan escape))))
    (List.cons_ne_nil _ _)
  refine ⟨file, ?_, program, text ▸ script, body⟩
  rw [origins, Sheet.origins, List.map_map]
  rfl

/-- The statements of an accepted source's routine are those of its steps, between the assignments that every
routine starts with and the statement that returns the output. -/
theorem body_of_routine {marker : Text} {escape : Bool} {source : TemplateSource} {routine : Routine} {tree : Tree}
    {steps : List Step} (accepted : source.routine marker escape = .ok routine)
      (matched : source.tree marker = .ok tree)
    (found : tree.steps? = some steps) (returns : ∀ piece ∈ piecesAmong tree.body, '\r' ∉ piece.2) :
    ∃ statements line, routine.body = preparing ++ (statements ++ [returning line]) ∧
      routine.file = fileFor source.origin ∧ Lowers routine.originOf escape steps statements ∧
      misplacedIn? (routineScript statements line) = none := by
  obtain ⟨whole, among, single⟩ := Option.bind_eq_some_iff.mp found
  obtain rfl := whole?_eq_some single
  have reads : Reads routine.originOf escape 2 (suite escape 2 tree.body) ⟨.nothing, steps⟩ :=
    (ready_nodes among (sound_of_source matched returns)).1
  obtain ⟨file, origins, program, script, body⟩ := routine_of_tree matched accepted
  generalize finalLine (tree.plan escape) = last at origins script
  generalize suite escape 2 tree.body = lines at origins script reads
  have mapped : Mapped routine.originOf 7 lines := by
    have all := mapped_origins prologueLines lines (epilogue last)
    unfold originOf
    rw [origins]
    exact all
  obtain ⟨found, statements, lexed, clauses, lowers⟩ := reads_routine reads mapped last
  obtain ⟨rfl, placed⟩ := readScript_of_clauses lexed clauses script
  exact ⟨statements, _, body, file, lowers, placed⟩

end Routine
end Stencil
