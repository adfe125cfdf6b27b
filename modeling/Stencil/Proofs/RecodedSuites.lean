import Stencil.Proofs.Suite

/-!
# Routines that differ in how they convert values

Whether values are escaped is decided once for a template.  What is written for its tree with one decision and with the
other is the same line by line, but for the lines that convert the values of inserted expressions.
-/

namespace Stencil

namespace Instruction

/-- Whether an instruction holds a piece of script. -/
def isPiece : Instruction → Bool
  | insert _ _ _ | begin _ _ _ | exec _ _ => true
  | _ => false

/-- The expression that an instruction inserts, with its line. -/
def inserted? : Instruction → Option (Text × Int)
  | insert code _ line => some (code, line)
  | _ => none

/-- The instruction, where an expression's value is escaped or not as decided. -/
def deciding (escape : Bool) : Instruction → Instruction
  | insert code _ line => insert code escape line
  | instruction => instruction

end Instruction

/-! ## Plans -/

section Plans

variable (escape decided : Bool)

theorem deciding_line (line : Line) :
    (line.instructions decided).map (Instruction.deciding escape) = line.instructions escape := by
  have ended : (if line.terminator.isEmpty then ([] : List Instruction)
      else [.literal line.terminator line.number]).map (Instruction.deciding escape) =
        if line.terminator.isEmpty then [] else [.literal line.terminator line.number] := by
    split <;> rfl
  rw [Line.instructions, Line.instructions, List.map_append, ended]
  cases line.form with
  | text parts =>
      dsimp only
      rw [List.map_flatMap]
      refine congrArg (· ++ _) (congrArg (parts.flatMap ·) (funext fun part => ?_))
      rcases part with (_ | _) | _ <;> rfl
  | _ => rfl

mutual

theorem deciding_node (node : Node) :
    (node.instructions decided).map (Instruction.deciding escape) = node.instructions escape := by
  cases node with
  | leaf number line => exact deciding_line escape decided line
  | statement number code => rfl
  | stray number sort => rfl
  | control block =>
      obtain ⟨number, head, body, arms, stop⟩ := block
      rw [Node.instructions, Node.instructions, List.map_cons, List.map_append, List.map_append, deciding_nodes body,
        deciding_arms arms]
      rfl

theorem deciding_nodes (nodes : List Node) :
    (nodeInstructions decided nodes).map (Instruction.deciding escape) = nodeInstructions escape nodes := by
  cases nodes with
  | nil => rfl
  | cons node nodes =>
      rw [nodeInstructions, nodeInstructions, List.map_append, deciding_node node, deciding_nodes nodes]

theorem deciding_arms (arms : List Block) :
    (armInstructions decided arms).map (Instruction.deciding escape) = armInstructions escape arms := by
  cases arms with
  | nil => rfl
  | cons arm arms =>
      obtain ⟨number, head, body, arms', stop⟩ := arm
      rw [armInstructions, armInstructions, List.map_append, List.map_cons, List.map_append, deciding_nodes body,
        deciding_arms arms]
      rfl

end

/-- Plans of one tree have the same instructions but for the decision, which is the same for all of a plan. -/
theorem deciding_plan (tree : Tree) :
    (tree.plan decided).instructions.map (Instruction.deciding escape) = (tree.plan escape).instructions :=
  deciding_nodes escape decided tree.body

end Plans

namespace Routine

/-! ## Suites side by side -/

/-- Whether a line is written for a literal, for a body without anything in it, or for a piece of script that is not
inserted; the piece is given. -/
inductive Plain : List Instruction → SuiteLine → Prop where
  | literal (level : Nat) (content : Text) (origin : Int) :
    Plain [] ⟨level, Writing.appendLine (Quoted.encode content), origin⟩
  | pass (level : Nat) (origin : Int) : Plain [] ⟨level, "pass", origin⟩
  | statement (level : Nat) (code : Text) (line : Int) : Plain [.exec code line] ⟨level, code, line⟩
  | head (level : Nat) (code : Text) (arm : Bool) (line : Int) : Plain [.begin code arm line] ⟨level, code ++ [':'], line⟩

/-- The lines that are written for an inserted expression. -/
def insertion (escape : Bool) (level : Nat) (code : Text) (line : Int) : List SuiteLine :=
  [⟨level, valueName ++ " = " ++ code, line⟩,
    ⟨level, Writing.appendLine (Writing.converter escape ++ ['('] ++ valueName ++ [')']), line⟩]

/-- Whether the lines of two suites are written for the same pieces of script, where the values of expressions are escaped
in the one and converted as decided in the other; no line stands further out than the suite. -/
inductive Counterparts (escape : Bool) (bottom : Nat) : List Instruction → List SuiteLine → List SuiteLine → Prop where
  | nil : Counterparts escape bottom [] [] []
  | same {own pieces : List Instruction} {line : SuiteLine} {lines lines' : List SuiteLine} (inside : bottom ≤ line.level)
    (plain : Plain own line) (rest : Counterparts escape bottom pieces lines lines') :
    Counterparts escape bottom (own ++ pieces) (line :: lines) (line :: lines')
  | insert {pieces : List Instruction} {lines lines' : List SuiteLine} {level : Nat} (inside : bottom ≤ level)
    (code : Text) (line : Int) (rest : Counterparts escape bottom pieces lines lines') :
    Counterparts escape bottom (.insert code true line :: pieces) (insertion true level code line ++ lines)
      (insertion escape level code line ++ lines')

namespace Counterparts

variable {escape : Bool} {bottom level : Nat} {pieces more : List Instruction} {lines lines' others others' : List SuiteLine}

theorem append (first : Counterparts escape bottom pieces lines lines')
    (second : Counterparts escape bottom more others others') :
    Counterparts escape bottom (pieces ++ more) (lines ++ others) (lines' ++ others') := by
  induction first with
  | nil => exact second
  | same inside plain _ ih =>
      rw [List.append_assoc]
      exact .same inside plain ih
  | insert inside code line _ ih =>
      rw [List.append_assoc, List.append_assoc]
      exact .insert inside code line ih

theorem further (counterparts : Counterparts escape level pieces lines lines') (out : bottom ≤ level) :
    Counterparts escape bottom pieces lines lines' := by
  induction counterparts with
  | nil => exact .nil
  | same inside plain _ ih => exact .same (Nat.le_trans out inside) plain ih
  | insert inside code line _ ih => exact .insert (Nat.le_trans out inside) code line ih

/-- The lines come from the same template lines. -/
theorem origins (counterparts : Counterparts escape bottom pieces lines lines') :
    lines'.map SuiteLine.origin = lines.map SuiteLine.origin := by
  induction counterparts with
  | nil => rfl
  | same _ _ _ ih => rw [List.map_cons, List.map_cons, ih]
  | insert _ _ _ _ ih =>
      rw [List.map_append, List.map_append, ih]
      rfl

/-- Where nothing is written in the one suite, nothing is in the other one, for no piece. -/
theorem nothing (counterparts : Counterparts escape bottom pieces [] lines') : pieces = [] ∧ lines' = [] := by
  generalize written : ([] : List SuiteLine) = lines at counterparts
  cases counterparts with
  | nil => exact ⟨rfl, rfl⟩
  | same => cases written
  | insert => cases written

/-- A literal in front of a suite. -/
theorem literal (content : Text) (origin : Int) (counterparts : Counterparts escape level pieces lines lines') :
    Counterparts escape level pieces (⟨level, Writing.appendLine (Quoted.encode content), origin⟩ :: lines)
      (⟨level, Writing.appendLine (Quoted.encode content), origin⟩ :: lines') :=
  .same (Nat.le_refl _) (.literal level content origin) counterparts

theorem orPass (origin : Int) (counterparts : Counterparts escape level pieces lines lines') :
    Counterparts escape level pieces (orPass level origin lines) (orPass level origin lines') := by
  cases counterparts with
  | nil => exact .same (Nat.le_refl _) (.pass level origin) .nil
  | same inside plain rest => exact .same inside plain rest
  | insert inside code line rest => exact .insert inside code line rest

end Counterparts

/-- Whether two lists of drafts are drawn up for the same pieces of script, one with the values of expressions escaped. -/
inductive Drawn (escape : Bool) (bottom : Nat) : List Instruction → List Draft → List Draft → Prop where
  | nil : Drawn escape bottom [] [] []
  | text {pieces : List Instruction} {drafts drafts' : List Draft} (content : Text) (origin : Int)
    (rest : Drawn escape bottom pieces drafts drafts') :
    Drawn escape bottom pieces (.text content origin :: drafts) (.text content origin :: drafts')
  | lines {own pieces : List Instruction} {lines lines' : List SuiteLine} {drafts drafts' : List Draft}
    (written : Counterparts escape bottom own lines lines') (rest : Drawn escape bottom pieces drafts drafts') :
    Drawn escape bottom (own ++ pieces) (lines.map .line ++ drafts) (lines'.map .line ++ drafts')

namespace Drawn

variable {escape : Bool} {bottom level : Nat} {pieces more : List Instruction} {drafts drafts' others others' : List Draft}
  {lines lines' : List SuiteLine}

theorem append (first : Drawn escape bottom pieces drafts drafts') (second : Drawn escape bottom more others others') :
    Drawn escape bottom (pieces ++ more) (drafts ++ others) (drafts' ++ others') := by
  induction first with
  | nil => exact second
  | text content origin _ ih => exact .text content origin ih
  | lines written _ ih =>
      rw [List.append_assoc, List.append_assoc, List.append_assoc]
      exact .lines written ih

theorem ofLines (written : Counterparts escape bottom pieces lines lines') :
    Drawn escape bottom pieces (lines.map .line) (lines'.map .line) := by
  have drawn : Drawn escape bottom (pieces ++ []) (lines.map .line ++ []) (lines'.map .line ++ []) := .lines written .nil
  rwa [List.append_nil, List.append_nil, List.append_nil] at drawn

/-- A text in front of lines is a line of its own. -/
theorem toLines_text (content : Text) (origin : Int) {lines : List SuiteLine} (occupied : lines ≠ []) (drafts : List Draft) :
    Draft.toLines level (.text content origin :: (lines.map .line ++ drafts)) =
      ⟨level, Writing.appendLine (Quoted.encode content), origin⟩ :: Draft.toLines level (lines.map .line ++ drafts) := by
  obtain ⟨line, lines, rfl⟩ := List.exists_cons_of_ne_nil occupied
  have first := Draft.toLines_append_line level line [.text content origin] (lines.map .line ++ drafts)
  have second := Draft.toLines_append_line level line [] (lines.map .line ++ drafts)
  exact first.trans (congrArg (List.cons _) second.symm)

/-- The suites of drafts that are drawn up for the same pieces, also behind a text that they may extend. -/
theorem counterparts_toLines (drawn : Drawn escape level pieces drafts drafts') :
    Counterparts escape level pieces (Draft.toLines level drafts) (Draft.toLines level drafts') ∧
      ∀ content origin, Counterparts escape level pieces (Draft.toLines level (.text content origin :: drafts))
        (Draft.toLines level (.text content origin :: drafts')) := by
  induction drawn with
  | nil => exact ⟨.nil, fun content origin => .literal content origin .nil⟩
  | text content origin _ ih =>
      refine ⟨ih.2 content origin, fun before first => ?_⟩
      rw [Draft.toLines, Draft.toLines, Draft.joinTexts_text_text, Draft.joinTexts_text_text]
      exact ih.2 (before ++ content) first
  | @lines own pieces lines lines' drafts drafts' written _ ih =>
      have whole := written.append ih.1
      rw [← Draft.toLines_append_lines, ← Draft.toLines_append_lines] at whole
      refine ⟨whole, fun content origin => ?_⟩
      by_cases occupied : lines = []
      · subst occupied
        obtain ⟨rfl, rfl⟩ := written.nothing
        exact ih.2 content origin
      · have occupied' : lines' ≠ [] := by
          rintro rfl
          cases written with
          | nil => exact occupied rfl
        rw [toLines_text content origin occupied, toLines_text content origin occupied']
        exact whole.literal content origin

theorem counterparts (drawn : Drawn escape level pieces drafts drafts') :
    Counterparts escape level pieces (Draft.toLines level drafts) (Draft.toLines level drafts') :=
  drawn.counterparts_toLines.1

end Drawn

/-! ## Suites of trees -/

/-- The pieces of script in instructions. -/
def pieces (instructions : List Instruction) : List Instruction := instructions.filter Instruction.isPiece

theorem pieces_append (first second : List Instruction) : pieces (first ++ second) = pieces first ++ pieces second :=
  List.filter_append ..

section Trees

variable (escape : Bool)

theorem drawn_part (level : Nat) (origin : Int) (part : Part) : Drawn escape level (pieces (part.instructions true origin))
    (partDrafts true level origin part) (partDrafts escape level origin part) := by
  cases part with
  | literal text =>
      cases text with
      | nil => exact .nil
      | cons char text => exact .text _ _ .nil
  | fragment inserted => exact .ofLines (.insert (Nat.le_refl _) inserted.code origin .nil)

theorem drawn_parts (level : Nat) (origin : Int) (parts : List Part) :
    Drawn escape level (pieces (parts.flatMap (Part.instructions true origin)))
      (parts.flatMap (partDrafts true level origin)) (parts.flatMap (partDrafts escape level origin)) := by
  induction parts with
  | nil => exact .nil
  | cons part parts ih =>
      rw [List.flatMap_cons, List.flatMap_cons, List.flatMap_cons, pieces_append]
      exact (drawn_part escape level origin part).append ih

theorem drawn_line (level : Nat) (line : Line) : Drawn escape level (pieces (line.instructions true))
    (lineDrafts true level line) (lineDrafts escape level line) := by
  rw [Line.instructions, pieces_append, lineDrafts, lineDrafts]
  refine .append ?_ ?_
  · cases line.form with
    | text parts => exact drawn_parts escape level line.number parts
    | _ => exact .nil
  · cases line.terminator with
    | nil => exact .nil
    | cons char rest => exact .text _ _ .nil

mutual

theorem drawn_node (level : Nat) (node : Node) : Drawn escape level (pieces (node.instructions true))
    (nodeDrafts true level node) (nodeDrafts escape level node) := by
  match node with
  | .leaf _ line => exact drawn_line escape level line
  | .statement number code =>
      have written := Counterparts.same (Nat.le_refl _) (.statement level code number) (.nil : Counterparts escape level [] [] [])
      exact .ofLines written
  | .stray _ _ => exact .nil
  | .control (.mk number head body arms stop) =>
      have inside := (drawn_nodes (level + 1) body).counterparts.orPass (bodyStop stop arms)
      have whole := (inside.further (Nat.le_succ level)).append (counterparts_arms level arms)
      have clause := Counterparts.same (Nat.le_refl _) (.head level head false number) whole
      have same : pieces ((Node.control (.mk number head body arms stop)).instructions true) =
          [.begin head false number] ++ (pieces (nodeInstructions true body) ++ pieces (armInstructions true arms)) := by
        have ended : pieces [.finish (lastStop stop arms)] = [] := rfl
        have begun : pieces [.begin head false number] = [.begin head false number] := rfl
        rw [Node.instructions, ← List.singleton_append, pieces_append, pieces_append, pieces_append, begun, ended,
          List.append_nil]
      rw [same]
      exact .ofLines clause

theorem drawn_nodes (level : Nat) (nodes : List Node) : Drawn escape level (pieces (nodeInstructions true nodes))
    (draftsAmong true level nodes) (draftsAmong escape level nodes) := by
  match nodes with
  | [] => exact .nil
  | node :: nodes =>
      rw [nodeInstructions, pieces_append, draftsAmong, draftsAmong]
      exact (drawn_node level node).append (drawn_nodes level nodes)

theorem counterparts_arms (level : Nat) (arms : List Block) : Counterparts escape level
    (pieces (armInstructions true arms)) (armLines true level arms) (armLines escape level arms) := by
  match arms with
  | [] => exact .nil
  | .mk number head body own stop :: arms =>
      have inside := (drawn_nodes (level + 1) body).counterparts.orPass stop
      have whole := (inside.further (Nat.le_succ level)).append (counterparts_arms level arms)
      have clause := Counterparts.same (Nat.le_refl _) (.head level head true number) whole
      have same : pieces (armInstructions true (.mk number head body own stop :: arms)) =
          [.begin head true number] ++ (pieces (nodeInstructions true body) ++ pieces (armInstructions true arms)) := by
        have ended : pieces [.finish stop] = [] := rfl
        have begun : pieces [.begin head true number] = [.begin head true number] := rfl
        rw [armInstructions, pieces_append, ← List.singleton_append, pieces_append, pieces_append, begun, ended,
          List.append_nil, List.append_assoc]
      rw [same]
      exact clause

end

/-- The suites of one tree, with one decision and with the other, are written for the same pieces of script. -/
theorem counterparts_suite (level : Nat) (nodes : List Node) : Counterparts escape level
    (pieces (nodeInstructions true nodes)) (suite true level nodes) (suite escape level nodes) :=
  (drawn_nodes escape level nodes).counterparts

end Trees

/-! ## Sheets -/

/-- Whether lines are the same one by one, but for the second one of the two lines that are written for each of the given
inserted expressions: there the one escapes the value, and the other one makes a text of it. -/
inductive Differ : List (Text × Int) → List GeneratedLine → List GeneratedLine → Prop where
  | nil : Differ [] [] []
  | same {inserted : List (Text × Int)} {lines lines' : List GeneratedLine} (line : GeneratedLine)
    (rest : Differ inserted lines lines') : Differ inserted (line :: lines) (line :: lines')
  | insert {inserted : List (Text × Int)} {lines lines' : List GeneratedLine} (level : Nat) (code : Text) (origin : Int)
    (rest : Differ inserted lines lines') :
    Differ ((code, origin) :: inserted)
      (⟨Sheet.indentation level ++ (valueName ++ " = " ++ code), origin⟩ ::
        ⟨Sheet.indentation level ++ Writing.appendLine (escapeName ++ ['('] ++ valueName ++ [')']), origin⟩ :: lines)
      (⟨Sheet.indentation level ++ (valueName ++ " = " ++ code), origin⟩ ::
        ⟨Sheet.indentation level ++ Writing.appendLine (textName ++ ['('] ++ valueName ++ [')']), origin⟩ :: lines')

namespace Differ

variable {inserted : List (Text × Int)} {lines lines' : List GeneratedLine}

theorem refl (lines : List GeneratedLine) : Differ [] lines lines := by
  induction lines with
  | nil => exact .nil
  | cons line _ ih => exact .same line ih

theorem append {more : List (Text × Int)} {others others' : List GeneratedLine} (first : Differ inserted lines lines')
    (second : Differ more others others') : Differ (inserted ++ more) (lines ++ others) (lines' ++ others') := by
  induction first with
  | nil => exact second
  | same line _ ih => exact .same line ih
  | insert level code origin _ ih => exact .insert level code origin ih

/-- The lines come from the same template lines. -/
theorem origins (differ : Differ inserted lines lines') :
    lines'.map GeneratedLine.origin = lines.map GeneratedLine.origin := by
  induction differ with
  | nil => rfl
  | same line _ ih => rw [List.map_cons, List.map_cons, ih]
  | insert level code origin _ ih => rw [List.map_cons, List.map_cons, List.map_cons, List.map_cons, ih]

/-- Behind an indentation there is what follows it. -/
theorem takeWhile_indentation (level : Nat) {text : Text} (occupied : text ≠ [])
    (starts : ∀ char ∈ text.head?, char ≠ ' ') :
    (Sheet.indentation level ++ text).takeWhile (· == ' ') = Sheet.indentation level := by
  obtain ⟨char, rest, rfl⟩ := List.exists_cons_of_ne_nil occupied
  have blank : ∀ char ∈ Sheet.indentation level, (char == ' ') = true := by
    intro char member
    rw [Sheet.indentation, Text.spaces] at member
    rw [List.eq_of_mem_replicate member]
    rfl
  rw [List.takeWhile_append_of_pos blank, List.takeWhile_cons_of_neg (by simpa using starts char rfl), List.append_nil]

/-- The lines are indented alike. -/
theorem indented (differ : Differ inserted lines lines') :
    lines'.map (fun line => line.text.takeWhile (· == ' ')) = lines.map fun line => line.text.takeWhile (· == ' ') := by
  induction differ with
  | nil => rfl
  | same line _ ih => rw [List.map_cons, List.map_cons, ih]
  | insert level code origin _ ih =>
      have plain (name : Text) : Writing.appendLine (name ++ ['('] ++ valueName ++ [')']) ≠ [] ∧
          ∀ char ∈ (Writing.appendLine (name ++ ['('] ++ valueName ++ [')'])).head?, char ≠ ' ' :=
        ⟨List.cons_ne_nil _ _, by rintro _ ⟨⟩; decide⟩
      rw [List.map_cons, List.map_cons, List.map_cons, List.map_cons, ih,
        takeWhile_indentation level (plain _).1 (plain _).2, takeWhile_indentation level (plain _).1 (plain _).2]

end Differ

theorem Counterparts.differ {bottom : Nat} {pieces : List Instruction} {lines lines' : List SuiteLine}
    (counterparts : Counterparts false bottom pieces lines lines') :
    Differ (pieces.filterMap Instruction.inserted?) (lines.map SuiteLine.generated) (lines'.map SuiteLine.generated) := by
  induction counterparts with
  | nil => exact .nil
  | same _ plain _ ih =>
      rw [List.filterMap_append]
      cases plain <;> exact .same _ ih
  | insert _ code line _ ih => exact .insert _ code line ih

/-- What is inserted is inserted by pieces of script. -/
theorem inserted_pieces (instructions : List Instruction) :
    (pieces instructions).filterMap Instruction.inserted? = instructions.filterMap Instruction.inserted? := by
  induction instructions with
  | nil => rfl
  | cons instruction instructions ih =>
      cases instruction with
      | literal | finish => exact ih
      | insert code escape line => exact congrArg ((code, line) :: ·) ih
      | begin | exec => exact ih

/-- The last instructions of two plans of one tree stand on one line. -/
theorem finalLine_deciding (tree : Tree) : finalLine (tree.plan false) = finalLine (tree.plan true) := by
  have lines (instruction : Instruction) : (instruction.deciding false).line = instruction.line := by
    cases instruction <;> rfl
  have same := deciding_plan false true tree
  rw [finalLine, ← same, List.getLast?_map, Option.map_map, finalLine]
  exact congrArg (Option.getD · 1) (congrArg (Option.map · _) (funext lines))

/-- The sheets of one tree, with values escaped and with values made texts of, are the same line by line, but for the
lines that convert what is inserted. -/
theorem differ_sheets (tree : Tree) : ∃ sheet sheet', sheet? (tree.plan true) = some sheet ∧
    sheet? (tree.plan false) = some sheet' ∧
      Differ ((tree.plan true).instructions.filterMap Instruction.inserted?) sheet.lines sheet'.lines := by
  refine ⟨_, _, sheet?_plan true tree, sheet?_plan false tree, ?_⟩
  rw [finalLine_deciding]
  have suites := (counterparts_suite false 2 tree.body).differ
  rw [inserted_pieces] at suites
  have whole := (Differ.refl prologue.lines).append
    (suites.append (.refl ((epilogue (finalLine (tree.plan true))).map SuiteLine.generated)))
  rwa [List.nil_append, List.append_nil, ← List.map_append, ← List.map_append] at whole

end Routine
end Stencil
