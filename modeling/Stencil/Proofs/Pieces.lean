import Stencil.Proofs.DirectRun

/-!
# Pieces on other lines

A fragment, a statement or a head is read the same on every line, apart from the line that its parts carry.
-/

namespace Stencil

open Script

theorem isPlain_at (line : Nat) (statement : Stmt) : (statement.at line).isPlain = statement.isPlain := by
  cases statement <;> rfl

/-- A line with the head of a compound statement is no plain statement. -/
theorem not_plain_of_head {line : LogicalLine} {found : Option (Found Head)} (head : readHead? line.tokens = some found)
    {steps : Nat} {lines rest : List LogicalLine} {statements : List Stmt}
    (read : readStatement steps line lines = some (statements, rest)) :
    ∃ statement ∈ statements, statement.isPlain = false := by
  cases steps with
  | zero => cases read
  | succ steps =>
      rw [readStatement, head] at read
      simp only [Option.bind_eq_bind, Option.bind_eq_some_iff, Option.pure_def, Prod.exists] at read
      obtain ⟨head, tokens, -, body, lines', -, read⟩ := read
      cases head with
      | define name parameters =>
          cases read
          exact ⟨_, .head _, rfl⟩
      | attempt =>
          simp only [Option.bind_eq_some_iff, Prod.exists] at read
          obtain ⟨handlers, _, -, read⟩ := read
          split at read
          all_goals
            simp only [Option.bind_eq_some_iff, Prod.exists] at read
            obtain ⟨_, _, -, _, _, -, read⟩ := read
            split at read
            · cases read
            · cases read
              exact ⟨_, .head _, rfl⟩
      | _ =>
          simp only [Option.bind_eq_some_iff, Prod.exists] at read
          obtain ⟨otherwise, _, -, read⟩ := read
          cases read
          exact ⟨_, .head _, rfl⟩

/-- The plain statements of a script of one line. -/
theorem readLine_of_readLines {line : LogicalLine} {statements : List Stmt}
    (indent : line.indent = ⟨0, 0⟩) (read : readLines [line] = some statements) (plain : statements.all Stmt.isPlain) :
    readHead? line.tokens = none ∧ readSubject? line.tokens = none ∧ readLine line.tokens = some statements := by
  have steps : stepsForLines [line] = 14 + 2 := rfl
  rw [readLines, steps, readBlock_line indent] at read
  simp only [Option.bind_eq_bind, Option.bind_eq_some_iff, Option.pure_def, Prod.exists] at read
  obtain ⟨_, _, ⟨first, rest, found, more, _, tail, same⟩, read⟩ := read
  cases same
  split at read
  · cases read
    cases head : readHead? line.tokens with
    | some result =>
        obtain ⟨statement, inside, compound⟩ := not_plain_of_head head found
        have := List.all_eq_true.mp plain statement (List.mem_append_left _ inside)
        rw [compound] at this
        cases this
    | none =>
        rw [readStatement, head] at found
        cases subject : readSubject? line.tokens with
        | some value =>
            simp [subject] at found
        | none =>
            simp only [subject, Option.bind_eq_bind, Option.bind_eq_some_iff, Option.pure_def] at found
            obtain ⟨_, line', same⟩ := found
            cases same
            cases tail
            exact ⟨rfl, rfl, by rw [line', List.append_nil]⟩
  · cases read

/-- The clause with every part on one line. -/
def Clause.at (line : Nat) : Clause → Clause
  | .branch test => .branch (test.at line)
  | .loop test => .loop (test.at line)
  | .each target source => .each (target.at line) (source.at line)
  | .elif test => .elif (test.at line)
  | .otherwise => .otherwise

theorem entire?_at {α : Type} (move : α → α) (line : Nat) (read : Option (Found α)) :
    entire? (read.map (Found.at move line)) = (entire? read).map move := by
  cases read with
  | none => rfl
  | some found => match found with
    | (_, []) => rfl
    | (_, _ :: _) => rfl

theorem eq_of_entire? {α : Type} {read : Option (Found α)} {found : α} (whole : entire? read = some found) :
    read = some (found, []) := by
  unfold entire? at whole
  split at whole
  · rw [Option.some.inj whole]
  · cases whole

theorem clause?_at (line : Nat) (tokens : List Placed) :
    clause? (tokens.map (Placed.at line)) = (clause? tokens).map (Clause.at line) := by
  simp only [clause?, readHead?_at, atWord_at, tail_at]
  cases readHead? tokens with
  | some found => match found with
    | none => rfl
    | some (head, []) => cases head <;> rfl
    | some (head, _ :: _) => cases head <;> rfl
  | none =>
      simp only [Option.map_none]
      split
      · refine bind_moved (readSingle_anywhere line tokens.tail) fun (test, rest) => ?_
        simp only [Found.at, expectMark_at, entire?_at, Option.map_map]
        rfl
      split
      · simp only [expectMark_at, entire?_at, Option.map_map]
        rfl
      · rfl

theorem tokensAt?_eq_some {line : Nat} {text : Text} {tokens : List Placed}
    (found : tokensAt? line text = some tokens) :
    ∃ alone, Reading.ofText text = .sole alone ∧ tokens = alone.tokens.map (Placed.at line) := by
  unfold tokensAt? at found
  split at found
  · rename_i alone same
    exact ⟨alone, same, (Option.some.inj found).symm⟩
  · cases found

/-- A clause line is read on whatever line it stands. -/
theorem clause_read {head : Text} {line : Nat} {clause : Clause} (found : clauseAt? line head = some clause) :
    ∃ (form : Clause) (alone : LogicalLine), clause = form.at line ∧ Reading.ofText (head ++ [':']) = .sole alone ∧
      ∀ number, clause? (alone.tokens.map (Placed.at number)) = some (form.at number) := by
  simp only [clauseAt?, Option.bind_eq_bind, Option.bind_eq_some_iff] at found
  obtain ⟨_, tokens, found⟩ := found
  obtain ⟨alone, sole, rfl⟩ := tokensAt?_eq_some tokens
  rw [clause?_at, Option.map_eq_some_iff] at found
  obtain ⟨form, found, rfl⟩ := found
  exact ⟨form, alone, rfl, sole, fun number => by rw [clause?_at, found]; rfl⟩

theorem head_of_clause? {tokens : List Placed} {clause : Clause} (found : clause? tokens = some clause) :
    match clause with
    | .branch test => readHead? tokens = some (some (.branch test, []))
    | .loop test => readHead? tokens = some (some (.loop test, []))
    | .each target source => readHead? tokens = some (some (.each target source, []))
    | .elif test => atWord "elif" tokens ∧ ∃ rest, readSingle tokens.tail = some (test, rest) ∧
        expectMark ":" rest = some ((), [])
    | .otherwise => atWord "else" tokens ∧ expectMark ":" tokens.tail = some ((), []) := by
  unfold clause? at found
  split at found
  · cases found
    assumption
  · cases found
    assumption
  · cases found
    assumption
  · cases found
  split at found
  · rename_i word
    simp only [Option.bind_eq_bind, Option.bind_eq_some_iff, Option.map_eq_some_iff] at found
    obtain ⟨⟨test, rest⟩, single, _, colon, rfl⟩ := found
    exact ⟨word, rest, single, eq_of_entire? colon⟩
  split at found
  · rename_i word
    rw [Option.map_eq_some_iff] at found
    obtain ⟨_, colon, rfl⟩ := found
    exact ⟨word, eq_of_entire? colon⟩
  · cases found

end Stencil
