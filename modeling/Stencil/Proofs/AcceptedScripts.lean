import Stencil.Proofs.Clauses

/-!
# Accepted scripts

A script of lines that are logical lines of their own and the clauses of statements is accepted when its indentations
fit each other and every statement may stand where it stands.  Whether the indentations fit is decided by the
indentations alone.
-/

namespace Stencil.Script

/-- The line with nothing but its indentation. -/
def LogicalLine.bare (line : LogicalLine) : LogicalLine := ⟨line.indent, [], 0, 0⟩

/-- The line of a script with nothing but its indentation. -/
def ScriptLine.bare (line : ScriptLine) : LogicalLine := ⟨⟨line.width, line.width⟩, [], 0, 0⟩

theorem enterLine_bare (line : LogicalLine) (opened : List Indent) :
    (enterLine line.bare opened).toOption = (enterLine line opened).toOption := by
  have indent : line.bare.indent = line.indent := rfl
  unfold enterLine
  rw [indent]
  cases leaveWider line.indent opened with
  | mk count rest =>
      cases rest with
      | nil => rfl
      | cons found outer =>
          dsimp only
          split
          · split <;> rfl
          split
          · rfl
          split
          · rfl
          split <;> rfl

/-- Whether the indentations of lines fit depends on nothing else of the lines. -/
theorem isOk_layLines_bare (opened : List Indent) (lines : List LogicalLine) :
    (layLines opened (lines.map LogicalLine.bare)).2.isOk = (layLines opened lines).2.isOk := by
  induction lines generalizing opened with
  | nil => rfl
  | cons line lines ih =>
      have same := enterLine_bare line opened
      rw [List.map_cons, layLines, layLines]
      cases entered : enterLine line opened with
      | error refusal =>
          cases entered' : enterLine line.bare opened with
          | error refusal' => rfl
          | ok found => rw [entered, entered'] at same; cases same
      | ok found =>
          cases entered' : enterLine line.bare opened with
          | error refusal' => rw [entered, entered'] at same; cases same
          | ok found' =>
              rw [entered, entered'] at same
              cases same
              exact ih found.2

theorem bare_of_read {number : Nat} {lines : List ScriptLine} {found : List LogicalLine}
    (read : ReadAs number lines found) :
    found.map LogicalLine.bare = lines.map ScriptLine.bare := by
  induction read with
  | nil => rfl
  | cons solid sole more ih =>
      rw [List.map_cons, List.map_cons, ih]
      rfl

theorem ending_of_laid {lines : List LogicalLine} (laid : (layLines [⟨0, 0⟩] lines).2.isOk) :
    (Layout.ofReading ⟨lines, none, [], .complete⟩).ending = .complete := by
  unfold Layout.ofReading
  dsimp only
  generalize layLines [⟨0, 0⟩] lines = entered at laid ⊢
  obtain ⟨entries, result⟩ := entered
  cases result with
  | error refusal => cases laid
  | ok opened => rfl

/-- The statements of a script whose lines are their clauses. -/
theorem readScript_of_lines {lines : List ScriptLine} {found : List LogicalLine} {statements : List Stmt}
    (read : ReadAs 1 lines found) (clauses : Clauses 0 found .nothing statements)
    (laid : (layLines [⟨0, 0⟩] (lines.map ScriptLine.bare)).2.isOk) (placed : misplacedIn? statements = none) :
    readScript (lines.flatMap ScriptLine.written) = .ok (some statements) := by
  rw [← bare_of_read read, isOk_layLines_bare] at laid
  rw [readScript, reading_of_lines read]
  dsimp only
  rw [ending_of_laid laid]
  dsimp only
  rw [readLines_of_clauses clauses]
  dsimp only
  rw [placed]

end Stencil.Script
