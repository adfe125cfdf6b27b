import Stencil.Proofs.Pieces
import Stencil.Proofs.RoutineLines
import Stencil.Proofs.Suite

/-!
# Routines of block trees

The suite of a block tree is read as statements that are the steps of the tree one by one, except that neighbouring
texts are put out together, that the value of a fragment is kept under a name before it is converted, and that a
body without steps does nothing.  A statement stands on a generated line that comes from the template line of its
step.
-/

namespace Stencil

open Script

namespace Routine

/-! ## Statements for steps -/

/-- The statements that steps are written as; `origin` gives the template line of a generated line. -/
inductive Lowers (origin : Nat → Option Int) (escape : Bool) : List Step → List Stmt → Prop where
  | nil : Lowers origin escape [] []
  | blank {steps : List Step} {statements : List Stmt} (rest : Lowers origin escape steps statements) :
      Lowers origin escape (.text [] :: steps) statements
  | idle {steps : List Step} {statements : List Stmt} (rest : Lowers origin escape steps statements) :
      Lowers origin escape steps (.nothing :: statements)
  | texts {steps : List Step} {statements : List Stmt} (line : Nat) (contents : List Text)
      (rest : Lowers origin escape steps statements) :
      Lowers origin escape (contents.map .text ++ steps)
        (appending line (.constant (.text contents.flatten)) :: statements)
  | value {steps : List Step} {statements : List Stmt} {first second template : Nat} (code : Expr)
      (one : origin first = some (template : Int)) (other : origin second = some (template : Int))
      (rest : Lowers origin escape steps statements) :
      Lowers origin escape (.value template (code.at template) :: steps)
        (.assign first [.name valueName] (code.at first) ::
          appending second (.call second (.name second (Writing.converter escape)) [.name second valueName]) ::
          statements)
  | perform {steps : List Step} {statements : List Stmt} {line template : Nat} (statement : Stmt)
      (plain : statement.isPlain) (known : origin line = some (template : Int))
      (rest : Lowers origin escape steps statements) :
      Lowers origin escape (.perform (statement.at template) :: steps) (statement.at line :: statements)
  | branch {steps body otherwise : List Step} {statements bodyStatements otherStatements : List Stmt}
      {line template : Nat} (test : Expr) (known : origin line = some (template : Int))
      (inside : Lowers origin escape body bodyStatements) (other : Lowers origin escape otherwise otherStatements)
      (rest : Lowers origin escape steps statements) :
      Lowers origin escape (.branch (test.at template) body otherwise :: steps)
        (.branch line (test.at line) bodyStatements otherStatements :: statements)
  | loop {steps body otherwise : List Step} {statements bodyStatements otherStatements : List Stmt}
      {line template : Nat} (test : Expr) (known : origin line = some (template : Int))
      (inside : Lowers origin escape body bodyStatements) (other : Lowers origin escape otherwise otherStatements)
      (rest : Lowers origin escape steps statements) :
      Lowers origin escape (.loop (test.at template) body otherwise :: steps)
        (.loop line (test.at line) bodyStatements otherStatements :: statements)
  | each {steps body otherwise : List Step} {statements bodyStatements otherStatements : List Stmt}
      {line template : Nat} (target : Target) (source : Expr) (known : origin line = some (template : Int))
      (inside : Lowers origin escape body bodyStatements) (other : Lowers origin escape otherwise otherStatements)
      (rest : Lowers origin escape steps statements) :
      Lowers origin escape (.each template (target.at template) (source.at template) body otherwise :: steps)
        (.each line (target.at line) (source.at line) bodyStatements otherStatements :: statements)

/-- The statements that what the first clauses of a suite add to a clause before them are written as. -/
inductive LowersTail (origin : Nat → Option Int) (escape : Bool) : Tail Step → Tail Stmt → Prop where
  | nothing : LowersTail origin escape .nothing .nothing
  | elif {steps : List Step} {statements : List Stmt} (body : Lowers origin escape steps statements) :
      LowersTail origin escape (.elif steps) (.elif statements)
  | otherwise {steps : List Step} {statements : List Stmt} (body : Lowers origin escape steps statements) :
      LowersTail origin escape (.otherwise steps) (.otherwise statements)

/-! ## Lines with their numbers -/

/-- A line of a suite as a line of a script. -/
def SuiteLine.script (line : SuiteLine) : ScriptLine := ⟨4 * line.level, line.text⟩

/-- Whether the generated lines from a number on come from the template lines of a suite. -/
def Mapped (origin : Nat → Option Int) : Nat → List SuiteLine → Prop
  | _, [] => True
  | number, line :: lines => origin number = some line.origin ∧ Mapped origin (number + 1) lines

theorem mapped_append {origin : Nat → Option Int} (number : Nat) (first second : List SuiteLine) :
    Mapped origin number (first ++ second) ↔
      Mapped origin number first ∧ Mapped origin (number + first.length) second := by
  induction first generalizing number with
  | nil => simp [Mapped]
  | cons line first ih =>
      have shift : number + 1 + first.length = number + (line :: first).length := by simp; omega
      rw [List.cons_append, Mapped, Mapped, ih, shift, and_assoc]

/-- Whether lines of a suite, wherever they stand, are read as the statements of a suite of steps. -/
def Reads (origin : Nat → Option Int) (escape : Bool) (level : Nat) (lines : List SuiteLine) (suite : Suite) : Prop :=
  ∀ number, Mapped origin number lines → ∃ found tail statements,
    ReadAs number (lines.map SuiteLine.script) found ∧ Clauses (4 * level) found tail statements ∧
      LowersTail origin escape suite.tail tail ∧ Lowers origin escape suite.steps statements

variable {origin : Nat → Option Int} {escape : Bool} {level : Nat}

theorem reads_nil : Reads origin escape level [] .empty :=
  fun number _ => ⟨[], .nothing, [], .nil number, .nil _, .nothing, .nil⟩

theorem whole?_eq_some {suite : Suite} {steps : List Step} (whole : suite.whole? = some steps) :
    suite = ⟨.nothing, steps⟩ := by
  obtain ⟨tail, found⟩ := suite
  cases tail with
  | nothing =>
      cases whole
      rfl
  | _ => cases whole

/-! ## Simple lines -/

/-- Whether a text is read as simple statements on whatever line it stands. -/
structure Simple (text : Text) (statements : Nat → List Stmt) : Prop where
  solid : Solid text
  read : ∃ alone, Reading.ofText text = .sole alone ∧ ∀ number,
    readHead? (alone.tokens.map (Placed.at number)) = none ∧
    readSubject? (alone.tokens.map (Placed.at number)) = none ∧
    readLine (alone.tokens.map (Placed.at number)) = some (statements number)

theorem simple_appendLine (text : Text) :
    Simple (Writing.appendLine (Quoted.encode text)) fun number => [appending number (.constant (.text text))] where
  solid := solid_appendLine text
  read := ⟨_, ofText_appendLine text, fun number => ⟨rfl, rfl, readLine_appendLine number text⟩⟩

theorem simple_pass : Simple "pass" fun _ => [.nothing] where
  solid := ⟨by decide, by decide, by rintro _ ⟨⟩; rfl⟩
  read := ⟨_, ofText_pass, fun _ => ⟨rfl, rfl, rfl⟩⟩

theorem simple_convertLine (escape : Bool) :
    Simple (Writing.appendLine (Writing.converter escape ++ ['('] ++ valueName ++ [')'])) fun number =>
      [appending number (.call number (.name number (Writing.converter escape)) [.name number valueName])] where
  solid := by cases escape <;> exact ⟨by decide, by decide, by rintro _ ⟨⟩; rfl⟩
  read := ⟨_, ofText_convertLine escape, fun number => ⟨by cases escape <;> rfl, by cases escape <;> rfl,
    readLine_convertLine escape number⟩⟩

theorem solid_valueLine {code : Text} (solid : Solid code) : Solid (valueName ++ " = " ++ code) :=
  have opening : Solid (valueName ++ " = ".toList) := ⟨by decide, by decide, by rintro _ ⟨⟩; rfl⟩
  opening.append (List.cons_ne_nil _ _) solid.feeds solid.returns

theorem simple_valueLine {code : Text} (solid : Solid code) {line : Nat} {value : Expr}
    (found : fragmentAt? line code = some value) :
    ∃ form : Expr, value = form.at line ∧
      Simple (valueName ++ " = " ++ code) fun number => [.assign number [.name valueName] (form.at number)] := by
  simp only [fragmentAt?, Option.bind_eq_bind, Option.bind_eq_some_iff] at found
  obtain ⟨_, tokens, found⟩ := found
  obtain ⟨alone, read, rfl⟩ := tokensAt?_eq_some tokens
  rw [readValue_anywhere, entire?_at, Option.map_eq_some_iff] at found
  obtain ⟨form, found, rfl⟩ := found
  refine ⟨form, rfl, solid_valueLine solid, _, ofText_valueLine solid read, fun number => ⟨rfl, rfl, ?_⟩⟩
  have value : readValue (alone.tokens.map (Placed.at number)) = some (form.at number, []) := by
    rw [readValue_anywhere, eq_of_entire? found]
    rfl
  have again : (alone.tokens.map (Placed.at 1)).map (Placed.at number) = alone.tokens.map (Placed.at number) :=
    List.map_map
  rw [List.map_append, again]
  exact readLine_valueLine number value

theorem simple_statement {code : Text} (solid : Solid code) {line : Nat} {statements : List Stmt}
    (found : statementsAt? line code = some statements) :
    ∃ forms : List Stmt, statements = forms.map (Stmt.at line) ∧ forms.all Stmt.isPlain ∧
      Simple code fun number => forms.map (Stmt.at number) := by
  simp only [statementsAt?, Option.bind_eq_bind, Option.bind_eq_some_iff] at found
  obtain ⟨_, tokens, read, all, found⟩ := found
  obtain ⟨alone, sole, rfl⟩ := tokensAt?_eq_some tokens
  split at found
  · rename_i plain
    cases found
    obtain ⟨head, subject, read⟩ := readLine_of_readLines rfl all plain
    simp only [readHead?_at, readSubject?_at, readLine_at, Option.map_eq_none_iff, Option.map_eq_some_iff]
      at head subject read
    obtain ⟨forms, read, rfl⟩ := read
    refine ⟨forms, rfl, ?_, solid, alone, sole, fun number => ?_⟩
    · simpa [isPlain_at] using plain
    · simp [readHead?_at, readSubject?_at, readLine_at, head, subject, read]
  · cases found

/-- A simple line in front of clauses. -/
theorem Simple.clauses {text : Text} {statements : Nat → List Stmt} (simple : Simple text statements) {number : Nat}
    (level : Nat) (template : Int) {lines : List SuiteLine} {found : List LogicalLine} {more : List Stmt}
    (read : ReadAs (number + 1) (lines.map SuiteLine.script) found)
    (clauses : Clauses (4 * level) found .nothing more) :
    ∃ found', ReadAs number ((⟨level, text, template⟩ :: lines).map SuiteLine.script) found' ∧
      Clauses (4 * level) found' .nothing (statements number ++ more) := by
  obtain ⟨solid, alone, sole, statement⟩ := simple
  obtain ⟨head, subject, line⟩ := statement number
  exact ⟨_, .cons solid sole read, .simple rfl head subject line clauses⟩

/-! ## Suites -/

theorem Reads.simple {text : Text} {statements : Nat → List Stmt} (simple : Simple text statements)
    {template : Int} {lines : List SuiteLine} {steps : List Step} (before : List Step)
    (lower : ∀ {number : Nat} {more : List Stmt}, origin number = some template →
      Lowers origin escape steps more → Lowers origin escape (before ++ steps) (statements number ++ more))
    (rest : Reads origin escape level lines ⟨.nothing, steps⟩) :
    Reads origin escape level (⟨level, text, template⟩ :: lines) ⟨.nothing, before ++ steps⟩ := by
  intro number mapped
  obtain ⟨same, mapped⟩ := mapped
  obtain ⟨found, _, more, read, clauses, ⟨⟩, lowers⟩ := rest (number + 1) mapped
  obtain ⟨found', read', clauses'⟩ := simple.clauses level template read clauses
  exact ⟨found', .nothing, _, read', clauses', .nothing, lower same lowers⟩

theorem Reads.texts (contents : List Text) {template : Int} {lines : List SuiteLine} {steps : List Step}
    (rest : Reads origin escape level lines ⟨.nothing, steps⟩) :
    Reads origin escape level (⟨level, Writing.appendLine (Quoted.encode contents.flatten), template⟩ :: lines)
      ⟨.nothing, contents.map .text ++ steps⟩ :=
  .simple (simple_appendLine contents.flatten) _ (fun _ lowers => .texts _ contents lowers) rest

theorem Reads.pass {template : Int} {lines : List SuiteLine} {steps : List Step}
    (rest : Reads origin escape level lines ⟨.nothing, steps⟩) :
    Reads origin escape level (⟨level, "pass", template⟩ :: lines) ⟨.nothing, steps⟩ :=
  .simple simple_pass [] (fun _ lowers => .idle lowers) rest

theorem Reads.value {lines : List SuiteLine} {steps : List Step}
    (rest : Reads origin escape level lines ⟨.nothing, steps⟩) {code : Text} (solid : Solid code) {template : Nat}
    {value : Expr} (found : fragmentAt? template code = some value) :
    Reads origin escape level
      (⟨level, valueName ++ " = " ++ code, template⟩ ::
        ⟨level, Writing.appendLine (Writing.converter escape ++ ['('] ++ valueName ++ [')']), template⟩ :: lines)
      ⟨.nothing, .value template value :: steps⟩ := by
  obtain ⟨form, rfl, simple⟩ := simple_valueLine solid found
  intro number mapped
  obtain ⟨first, second, mapped⟩ := mapped
  obtain ⟨found, _, more, read, clauses, ⟨⟩, lowers⟩ := rest (number + 1 + 1) mapped
  obtain ⟨_, read, clauses⟩ := (simple_convertLine escape).clauses level template read clauses
  obtain ⟨_, read, clauses⟩ := simple.clauses level template read clauses
  exact ⟨_, .nothing, _, read, clauses, .nothing, .value form first second lowers⟩

theorem Reads.statements {lines : List SuiteLine} {steps : List Step}
    (rest : Reads origin escape level lines ⟨.nothing, steps⟩) {code : Text} (solid : Solid code) {template : Nat}
    {statements : List Stmt} (found : statementsAt? template code = some statements) :
    Reads origin escape level (⟨level, code, template⟩ :: lines)
      ⟨.nothing, statements.map .perform ++ steps⟩ := by
  obtain ⟨forms, rfl, plain, simple⟩ := simple_statement solid found
  refine .simple simple _ (fun {number more} known lowers => ?_) rest
  clear found simple
  induction forms with
  | nil => exact lowers
  | cons form forms ih =>
      rw [List.all_cons, Bool.and_eq_true] at plain
      exact .perform form plain.1 known (ih plain.2)

theorem LowersTail.lowers {tail : Tail Step} {tail' : Tail Stmt} (lowers : LowersTail origin escape tail tail') :
    Lowers origin escape tail.body tail'.body := by
  cases lowers with
  | nothing => exact .nil
  | elif body => exact body
  | otherwise body => exact body

theorem LowersTail.final {tail : Tail Step} {tail' : Tail Stmt} (lowers : LowersTail origin escape tail tail')
    {suite : Suite} (same : suite.tail = tail) {otherwise : List Step} (found : suite.otherwise? = some otherwise) :
    tail'.IsFinal ∧ Lowers origin escape otherwise tail'.body := by
  rw [Suite.otherwise?, same] at found
  cases lowers with
  | nothing =>
      cases found
      exact ⟨trivial, .nil⟩
  | elif body => cases found
  | otherwise body =>
      cases found
      exact ⟨trivial, body⟩

/-- A clause with its body in front of a suite. -/
theorem Reads.clause {lines : List SuiteLine} {suite : Suite} (rest : Reads origin escape level lines suite)
    {head : Text} (solid : Solid (head ++ [':'])) {template : Nat} {clause : Clause}
    (found : clauseAt? template head = some clause) {inside : List SuiteLine} (occupied : inside ≠ [])
    {body : List Step} {whole : Suite} (front : suite.afterClause? template body clause = some whole)
    (first : Reads origin escape (level + 1) inside ⟨.nothing, body⟩) :
    Reads origin escape level (⟨level, head ++ [':'], template⟩ :: (inside ++ lines)) whole := by
  obtain ⟨form, alone, rfl, sole, read⟩ := clause_read found
  intro number mapped
  obtain ⟨known, mapped⟩ := mapped
  rw [mapped_append] at mapped
  obtain ⟨found, _, statements, first, clauses, ⟨⟩, lowers⟩ := first (number + 1) mapped.1
  obtain ⟨found', tail, more, rest, clauses', lowersTail, lowers'⟩ := rest _ mapped.2
  have whole : ReadAs number ((⟨level, head ++ [':'], template⟩ :: (inside ++ lines)).map SuiteLine.script)
      (⟨⟨4 * level, 4 * level⟩, alone.tokens.map (Placed.at number), number, number⟩ :: (found ++ found')) := by
    rw [List.map_cons, List.map_append]
    refine .cons solid sole (first.append ?_)
    rwa [List.length_map]
  have wider : 4 * level < 4 * (level + 1) := by omega
  have occupied' : found ≠ [] := by
    have length := first.length
    rw [List.length_map] at length
    intro empty
    rw [empty] at length
    exact occupied (List.length_eq_zero_iff.mp length.symm)
  have head := head_of_clause? (read number)
  cases form with
  | branch test =>
      cases front
      exact ⟨_, .nothing, _, whole, .branch rfl head wider occupied' clauses clauses', .nothing,
        .branch test known lowers lowersTail.lowers lowers'⟩
  | loop test =>
      simp only [Clause.at, Suite.afterClause?, Option.map_eq_some_iff] at front
      obtain ⟨otherwise, last, rfl⟩ := front
      obtain ⟨final, other⟩ := lowersTail.final rfl last
      exact ⟨_, .nothing, _, whole, .loop rfl head wider occupied' clauses final clauses', .nothing,
        .loop test known lowers other lowers'⟩
  | each target source =>
      simp only [Clause.at, Suite.afterClause?, Option.map_eq_some_iff] at front
      obtain ⟨otherwise, last, rfl⟩ := front
      obtain ⟨final, other⟩ := lowersTail.final rfl last
      exact ⟨_, .nothing, _, whole, .each rfl head wider occupied' clauses final clauses', .nothing,
        .each target source known lowers other lowers'⟩
  | elif test =>
      cases front
      obtain ⟨word, rest, single, colon⟩ := head
      exact ⟨_, _, _, whole, .elif rfl word single colon wider occupied' clauses clauses',
        .elif (.branch test known lowers lowersTail.lowers .nil), lowers'⟩
  | otherwise =>
      simp only [Clause.at, Suite.afterClause?, Option.map_eq_some_iff] at front
      obtain ⟨steps, last, rfl⟩ := front
      obtain rfl := whole?_eq_some last
      cases lowersTail
      exact ⟨_, _, _, whole, .otherwise rfl head.1 head.2 wider occupied' clauses clauses', .otherwise lowers, lowers'⟩

/-! ## Trees -/

end Routine

mutual

/-- The fragments, statements and heads of a node and of all nodes below it, with their lines. -/
def Node.pieces : Node → List (Int × Text)
  | .leaf _ line => line.fragments.map fun inserted => (line.number, inserted.code)
  | .statement number code => [(number, code)]
  | .stray _ _ => []
  | .control (.mk number head body arms _) => (number, head) :: (piecesAmong body ++ piecesOfArms arms)

/-- The fragments, statements and heads of a list of nodes. -/
def piecesAmong : List Node → List (Int × Text)
  | [] => []
  | node :: nodes => node.pieces ++ piecesAmong nodes

/-- The fragments, statements and heads of a list of arms. -/
def piecesOfArms : List Block → List (Int × Text)
  | [] => []
  | .mk number head body _ _ :: arms => (number, head) :: (piecesAmong body ++ piecesOfArms arms)

end

namespace Routine

/-- Whether a fragment, statement or head stands on a line of a template and can stand on a line of a script. -/
def Sound (piece : Int × Text) : Prop := 0 < piece.1 ∧ Solid piece.2

/-- Whether the lines of drafts are read as a suite of steps, also behind further text. -/
def Ready (origin : Nat → Option Int) (escape : Bool) (level : Nat) (drafts : List Draft) (suite : Suite) : Prop :=
  Reads origin escape level (Draft.toLines level drafts) suite ∧
    ∀ steps, suite = ⟨.nothing, steps⟩ → ∀ (contents : List Text) (template : Int),
      Reads origin escape level (Draft.toLines level (.text contents.flatten template :: drafts))
        ⟨.nothing, contents.map .text ++ steps⟩

variable {drafts : List Draft} {steps : List Step}

theorem ready_nil : Ready origin escape level [] .empty := by
  refine ⟨reads_nil, ?_⟩
  rintro _ ⟨⟩ contents template
  exact .texts contents reads_nil

theorem Ready.text (ready : Ready origin escape level drafts ⟨.nothing, steps⟩) (content : Text) (template : Int) :
    Ready origin escape level (.text content template :: drafts) ⟨.nothing, .text content :: steps⟩ := by
  constructor
  · have single := ready.2 steps rfl [content] template
    rwa [List.flatten_singleton] at single
  · rintro _ ⟨⟩ contents first
    have joined := ready.2 steps rfl (contents ++ [content]) first
    rw [List.flatten_append, List.flatten_singleton, List.map_append, List.append_assoc] at joined
    rwa [Draft.toLines, Draft.joinTexts_text_text]

theorem Ready.blank (ready : Ready origin escape level drafts ⟨.nothing, steps⟩) :
    Ready origin escape level drafts ⟨.nothing, .text [] :: steps⟩ := by
  constructor
  · intro number mapped
    obtain ⟨found, tail, statements, read, clauses, lowersTail, lowers⟩ := ready.1 number mapped
    exact ⟨found, tail, statements, read, clauses, lowersTail, .blank lowers⟩
  · rintro _ ⟨⟩ contents template
    have joined := ready.2 steps rfl (contents ++ [[]]) template
    rwa [List.flatten_append, List.flatten_singleton, List.append_nil, List.map_append, List.append_assoc] at joined

/-- Lines keep the text in front of them apart from what is behind them. -/
theorem ready_lines {written : List SuiteLine} (occupied : written ≠ []) {suite : Suite}
    (read : Reads origin escape level (written ++ Draft.toLines level drafts) suite) :
    Ready origin escape level (written.map .line ++ drafts) suite := by
  refine ⟨by rwa [Draft.toLines_append_lines], ?_⟩
  rintro _ rfl contents template
  cases written with
  | nil => exact absurd rfl occupied
  | cons line written =>
      have apart : Draft.toLines level (.text contents.flatten template :: ((line :: written).map .line ++ drafts)) =
          ⟨level, Writing.appendLine (Quoted.encode contents.flatten), template⟩ ::
            (line :: written ++ Draft.toLines level drafts) := by
        rw [← Draft.toLines_append_lines]
        rfl
      rw [apart]
      exact .texts contents read

theorem reads_orPass {lines : List SuiteLine} (stop : Int)
    (read : Reads origin escape level lines ⟨.nothing, steps⟩) :
    Reads origin escape level (orPass level stop lines) ⟨.nothing, steps⟩ := by
  cases lines with
  | nil => exact .pass read
  | cons line lines => exact read

theorem orPass_ne_nil (stop : Int) (lines : List SuiteLine) : orPass level stop lines ≠ [] := by
  cases lines <;> exact List.cons_ne_nil _ _

theorem ready_part {part : Part} {template : Int} {step : Step} (found : stepOf? template.toNat part = some step)
    (sound : ∀ inserted, part = .fragment inserted → Sound (template, inserted.code))
    (rest : Ready origin escape level drafts ⟨.nothing, steps⟩) :
    Ready origin escape level (partDrafts escape level template part ++ drafts) ⟨.nothing, step :: steps⟩ := by
  cases part with
  | literal content =>
      cases found
      cases content with
      | nil => exact rest.blank
      | cons char content => exact rest.text _ template
  | fragment inserted =>
      obtain ⟨value, code, rfl⟩ := Option.map_eq_some_iff.mp found
      obtain ⟨positive, solid⟩ := sound inserted rfl
      obtain ⟨template, rfl⟩ := Int.eq_ofNat_of_zero_le positive.le
      have read := rest.1.value solid code
      exact ready_lines (List.cons_ne_nil _ [_]) read

theorem ready_parts {parts : List Part} {template : Int} {before : List Step}
    (found : parts.mapM (stepOf? template.toNat) = some before)
    (sound : ∀ inserted, .fragment inserted ∈ parts → Sound (template, inserted.code))
    (rest : Ready origin escape level drafts ⟨.nothing, steps⟩) :
    Ready origin escape level (parts.flatMap (partDrafts escape level template) ++ drafts)
      ⟨.nothing, before ++ steps⟩ := by
  induction parts generalizing before with
  | nil =>
      cases found
      exact rest
  | cons part parts ih =>
      simp only [List.mapM_cons, Option.bind_eq_bind, Option.bind_eq_some_iff] at found
      obtain ⟨step, first, before, more, same⟩ := found
      cases same
      rw [List.flatMap_cons, List.append_assoc]
      refine ready_part first (fun inserted same => sound inserted (same ▸ .head _)) ?_
      exact ih more fun inserted inside => sound inserted (.tail _ inside)

theorem ready_terminator (terminator : Text) (template : Int)
    (rest : Ready origin escape level drafts ⟨.nothing, steps⟩) :
    Ready origin escape level
      ((match terminator with
        | [] => []
        | terminator => [.text terminator template]) ++ drafts) ⟨.nothing, .text terminator :: steps⟩ := by
  cases terminator with
  | nil => exact rest.blank
  | cons char terminator => exact rest.text _ template

theorem ready_leaf {line : Line} {before : List Step} (found : stepsOf? line = some before)
    (sound : ∀ inserted ∈ line.fragments, Sound (line.number, inserted.code))
    (rest : Ready origin escape level drafts ⟨.nothing, steps⟩) :
    Ready origin escape level (lineDrafts escape level line ++ drafts) ⟨.nothing, before ++ steps⟩ := by
  have ended := ready_terminator line.terminator line.number rest
  rw [lineDrafts, List.append_assoc]
  rw [stepsOf?] at found
  rw [Line.fragments] at sound
  cases form : line.form with
  | text parts =>
      rw [form] at found sound
      obtain ⟨front, read, same⟩ := Option.bind_eq_some_iff.mp found
      cases same
      rw [List.append_assoc]
      refine ready_parts read (fun inserted member => sound _ ?_) ended
      exact List.mem_filterMap.mpr ⟨_, member, rfl⟩
  | _ =>
      rw [form] at found
      cases found
      exact ended

theorem solid_head {head : Text} (solid : Solid head) : Solid (head ++ [':']) := by
  cases head with
  | nil => exact ⟨by decide, by decide, by rintro _ ⟨⟩; rfl⟩
  | cons char head => exact solid.append (List.cons_ne_nil _ _) (by decide) (by decide)

mutual

theorem ready_node {node : Node} {suite whole : Suite} (found : node.inFrontOf? suite = some whole)
    (sound : ∀ piece ∈ node.pieces, Sound piece) {drafts : List Draft} (rest : Ready origin escape level drafts suite) :
    Ready origin escape level (nodeDrafts escape level node ++ drafts) whole := by
  cases node with
  | leaf number line =>
      obtain ⟨before, read, front⟩ := Option.bind_eq_some_iff.mp found
      obtain ⟨steps, single, rfl⟩ := Option.map_eq_some_iff.mp front
      obtain rfl := whole?_eq_some single
      exact ready_leaf read (fun inserted member => sound _ (List.mem_map_of_mem member)) rest
  | statement number code =>
      obtain ⟨statements, read, front⟩ := Option.bind_eq_some_iff.mp found
      obtain ⟨steps, single, rfl⟩ := Option.map_eq_some_iff.mp front
      obtain rfl := whole?_eq_some single
      obtain ⟨positive, solid⟩ := sound (number, code) (.head _)
      obtain ⟨template, rfl⟩ := Int.eq_ofNat_of_zero_le positive.le
      have read := rest.1.statements solid read
      exact ready_lines (List.cons_ne_nil _ []) read
  | stray number sort =>
      cases found
      exact rest
  | control block =>
      obtain ⟨number, head, body, arms, stop⟩ := block
      simp only [Node.inFrontOf?, Option.bind_eq_bind, Option.bind_eq_some_iff] at found
      obtain ⟨behind, arms', inside, among, steps, single, clause, head', front⟩ := found
      obtain rfl := whole?_eq_some single
      rw [Node.pieces, List.forall_mem_cons, List.forall_mem_append] at sound
      obtain ⟨⟨positive, solid⟩, soundBody, soundArms⟩ := sound
      obtain ⟨template, rfl⟩ := Int.eq_ofNat_of_zero_le positive.le
      have arms' := reads_arms arms' soundArms rest.1
      have body' : Ready origin escape (level + 1) _ ⟨.nothing, steps⟩ := ready_nodes among soundBody
      have read := arms'.clause (solid_head solid) head' (orPass_ne_nil (bodyStop stop arms) _) front
        (reads_orPass _ body'.1)
      rw [← List.append_assoc, ← List.cons_append] at read
      exact ready_lines (List.cons_ne_nil _ _) read

theorem ready_nodes {nodes : List Node} {suite : Suite} (found : suiteOf? nodes = some suite)
    (sound : ∀ piece ∈ piecesAmong nodes, Sound piece) :
    Ready origin escape level (draftsAmong escape level nodes) suite := by
  cases nodes with
  | nil =>
      cases found
      exact ready_nil
  | cons node nodes =>
      obtain ⟨behind, rest, first⟩ := Option.bind_eq_some_iff.mp found
      rw [piecesAmong, List.forall_mem_append] at sound
      have rest : Ready origin escape level _ behind := ready_nodes rest sound.2
      exact ready_node first sound.1 rest

theorem reads_arms {arms : List Block} {suite whole : Suite} (found : armsInFrontOf? suite arms = some whole)
    (sound : ∀ piece ∈ piecesOfArms arms, Sound piece) {lines : List SuiteLine}
    (rest : Reads origin escape level lines suite) :
    Reads origin escape level (armLines escape level arms ++ lines) whole := by
  cases arms with
  | nil =>
      cases found
      exact rest
  | cons arm arms =>
      obtain ⟨number, head, body, _, stop⟩ := arm
      simp only [armsInFrontOf?, Option.bind_eq_bind, Option.bind_eq_some_iff] at found
      obtain ⟨behind, arms', inside, among, steps, single, clause, head', front⟩ := found
      obtain rfl := whole?_eq_some single
      rw [piecesOfArms, List.forall_mem_cons, List.forall_mem_append] at sound
      obtain ⟨⟨positive, solid⟩, soundBody, soundArms⟩ := sound
      obtain ⟨template, rfl⟩ := Int.eq_ofNat_of_zero_le positive.le
      have arms' := reads_arms arms' soundArms rest
      have body' : Ready origin escape (level + 1) _ ⟨.nothing, steps⟩ := ready_nodes among soundBody
      have read := arms'.clause (solid_head solid) head' (orPass_ne_nil stop _) front
        (reads_orPass _ body'.1)
      rwa [armLines, List.cons_append, List.append_assoc]

end

end Routine
end Stencil
