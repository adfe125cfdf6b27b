import Stencil.Proofs.Relocation
import Stencil.Script.Read

/-!
# Scripts of clauses

The lines of a suite are simple statements and clauses, one after the other; the first clauses of a suite may
continue a clause before them.  Lines of this form are read as the statements that their parts are read as.
-/

namespace Stencil.Script

/-- What the first clauses of a suite add to a clause before them. -/
inductive Tail (α : Type) where
  | nothing
  /-- A further condition, with what is done otherwise. -/
  | elif (body : List α)
  | otherwise (body : List α)

namespace Tail

variable {α : Type}

/-- What is done otherwise. -/
def body : Tail α → List α
  | nothing => []
  | elif body | otherwise body => body

/-- Whether a loop can be continued so. -/
def IsFinal : Tail α → Prop
  | elif _ => False
  | _ => True

end Tail

/-- The statements of the lines of a suite at an indentation, and what the first of the lines add to a clause
before them. -/
inductive Clauses : Nat → List LogicalLine → Tail Stmt → List Stmt → Prop where
  | nil (width : Nat) : Clauses width [] .nothing []
  | simple {width : Nat} {line : LogicalLine} {lines : List LogicalLine} {statements more : List Stmt}
      (indent : line.indent = ⟨width, width⟩) (head : readHead? line.tokens = none)
      (subject : readSubject? line.tokens = none) (read : readLine line.tokens = some statements)
      (rest : Clauses width lines .nothing more) :
      Clauses width (line :: lines) .nothing (statements ++ more)
  | branch {width inner : Nat} {line : LogicalLine} {lines inside : List LogicalLine} {test : Expr}
      {tail : Tail Stmt} {body more : List Stmt} (indent : line.indent = ⟨width, width⟩)
      (head : readHead? line.tokens = some (some (.branch test, []))) (wider : width < inner)
      (occupied : inside ≠ []) (suite : Clauses inner inside .nothing body)
      (rest : Clauses width lines tail more) :
      Clauses width (line :: (inside ++ lines)) .nothing (.branch line.start test body tail.body :: more)
  | loop {width inner : Nat} {line : LogicalLine} {lines inside : List LogicalLine} {test : Expr}
      {tail : Tail Stmt} {body more : List Stmt} (indent : line.indent = ⟨width, width⟩)
      (head : readHead? line.tokens = some (some (.loop test, []))) (wider : width < inner)
      (occupied : inside ≠ []) (suite : Clauses inner inside .nothing body)
      (final : tail.IsFinal) (rest : Clauses width lines tail more) :
      Clauses width (line :: (inside ++ lines)) .nothing (.loop line.start test body tail.body :: more)
  | each {width inner : Nat} {line : LogicalLine} {lines inside : List LogicalLine} {target : Target}
      {source : Expr} {tail : Tail Stmt} {body more : List Stmt} (indent : line.indent = ⟨width, width⟩)
      (head : readHead? line.tokens = some (some (.each target source, []))) (wider : width < inner)
      (occupied : inside ≠ []) (suite : Clauses inner inside .nothing body)
      (final : tail.IsFinal) (rest : Clauses width lines tail more) :
      Clauses width (line :: (inside ++ lines)) .nothing
        (.each line.start target source body tail.body :: more)
  | define {width inner : Nat} {line : LogicalLine} {lines inside : List LogicalLine} {name : Text}
      {parameters : List Parameter} {body more : List Stmt} (indent : line.indent = ⟨width, width⟩)
      (head : readHead? line.tokens = some (some (.define name parameters, []))) (wider : width < inner)
      (occupied : inside ≠ []) (suite : Clauses inner inside .nothing body)
      (rest : Clauses width lines .nothing more) :
      Clauses width (line :: (inside ++ lines)) .nothing (.define line.start name parameters body :: more)
  | elif {width inner : Nat} {line : LogicalLine} {lines inside : List LogicalLine} {test : Expr}
      {tokens : List Placed} {tail : Tail Stmt} {body more : List Stmt} (indent : line.indent = ⟨width, width⟩)
      (word : atWord "elif" line.tokens) (condition : readSingle line.tokens.tail = some (test, tokens))
      (colon : expectMark ":" tokens = some ((), [])) (wider : width < inner)
      (occupied : inside ≠ []) (suite : Clauses inner inside .nothing body)
      (rest : Clauses width lines tail more) :
      Clauses width (line :: (inside ++ lines)) (.elif [.branch line.start test body tail.body]) more
  | otherwise {width inner : Nat} {line : LogicalLine} {lines inside : List LogicalLine}
      {body more : List Stmt} (indent : line.indent = ⟨width, width⟩) (word : atWord "else" line.tokens)
      (colon : expectMark ":" line.tokens.tail = some ((), [])) (wider : width < inner)
      (occupied : inside ≠ []) (suite : Clauses inner inside .nothing body)
      (rest : Clauses width lines .nothing more) :
      Clauses width (line :: (inside ++ lines)) (.otherwise body) more

/-- Further statements behind clauses. -/
theorem Clauses.append {width : Nat} {first second : List LogicalLine} {tail : Tail Stmt}
    {before after : List Stmt} (clauses : Clauses width first tail before)
    (behind : Clauses width second .nothing after) : Clauses width (first ++ second) tail (before ++ after) := by
  induction clauses with
  | nil width => exact behind
  | simple indent head subject read rest ih =>
      rw [List.cons_append, List.append_assoc]
      exact .simple indent head subject read (ih behind)
  | branch indent head wider occupied suite rest _ ih =>
      rw [List.cons_append, List.append_assoc]
      exact .branch indent head wider occupied suite (ih behind)
  | loop indent head wider occupied suite final rest _ ih =>
      rw [List.cons_append, List.append_assoc]
      exact .loop indent head wider occupied suite final (ih behind)
  | each indent head wider occupied suite final rest _ ih =>
      rw [List.cons_append, List.append_assoc]
      exact .each indent head wider occupied suite final (ih behind)
  | define indent head wider occupied suite rest _ ih =>
      rw [List.cons_append, List.append_assoc]
      exact .define indent head wider occupied suite (ih behind)
  | elif indent word condition colon wider occupied suite rest _ ih =>
      rw [List.cons_append, List.append_assoc]
      exact .elif indent word condition colon wider occupied suite (ih behind)
  | otherwise indent word colon wider occupied suite rest _ ih =>
      rw [List.cons_append, List.append_assoc]
      exact .otherwise indent word colon wider occupied suite (ih behind)

/-! ## Reading clauses -/

/-- Whether lines cannot continue a clause at an indentation. -/
structure Apart (width : Nat) (lines : List LogicalLine) : Prop where
  elif : lineAt? ⟨width, width⟩ "elif" lines = none
  otherwise : lineAt? ⟨width, width⟩ "else" lines = none

/-- Whether lines stand behind the end of a suite at an indentation. -/
def Beyond (width : Nat) (lines : List LogicalLine) : Prop := ∀ line ∈ lines.head?, line.indent.wide < width

theorem Beyond.apart {width : Nat} {lines : List LogicalLine} (beyond : Beyond width lines) : Apart width lines := by
  cases lines with
  | nil => exact ⟨rfl, rfl⟩
  | cons line lines =>
      have other : line.indent ≠ ⟨width, width⟩ := by
        intro same
        have := beyond line rfl
        rw [same] at this
        exact Nat.lt_irrefl _ this
      constructor <;> exact if_neg fun both => other both.1

theorem apart_of_words {width : Nat} {line : LogicalLine} (elif : atWord "elif" line.tokens = false)
    (otherwise : atWord "else" line.tokens = false) (lines : List LogicalLine) : Apart width (line :: lines) := by
  constructor
  · exact if_neg fun both => by rw [elif] at both; cases both.2
  · exact if_neg fun both => by rw [otherwise] at both; cases both.2

theorem eq_of_atWord {word other : String} {tokens : List Placed} (found : atWord word tokens)
    (found' : atWord other tokens) : word.toList = other.toList := by
  cases tokens with
  | nil => cases found
  | cons placed tokens =>
      cases placed with
      | mk token _ _ =>
          cases token with
          | word text => exact (eq_of_beq found).symm.trans (eq_of_beq found')
          | _ => cases found

theorem atWord_of_atWord {word other : String} {tokens : List Placed} (found : atWord word tokens)
    (differ : word.toList ≠ other.toList) : atWord other tokens = false := by
  cases found' : atWord other tokens with
  | false => rfl
  | true => exact absurd (eq_of_atWord found found') differ

theorem words_of_head {tokens : List Placed} {found : Option (Found Head)} (head : readHead? tokens = some found) :
    atWord "elif" tokens = false ∧ atWord "else" tokens = false := by
  have silent {word : String} (differ : ∀ other ∈ ["if", "while", "for", "def", "try"],
      word.toList ≠ String.toList other) : atWord word tokens = false := by
    cases start : atWord word tokens with
    | false => rfl
    | true =>
        have apart (other : String) (inside : other ∈ ["if", "while", "for", "def", "try"]) :
            atWord other tokens = false := atWord_of_atWord start (differ other inside)
        simp [readHead?, apart] at head
  exact ⟨silent (by decide), silent (by decide)⟩

theorem words_of_line {tokens : List Placed} {statements : List Stmt} (read : readLine tokens = some statements) :
    atWord "elif" tokens = false ∧ atWord "else" tokens = false := by
  have silent {word : String} (keyword : isKeyword word)
      (differ : ∀ other ∈ ["pass", "break", "continue", "return", "raise", "None", "True", "False", "not"],
        word.toList ≠ String.toList other) : atWord word tokens = false := by
    cases start : atWord word tokens with
    | false => rfl
    | true =>
        have apart (other : String)
            (inside : other ∈ ["pass", "break", "continue", "return", "raise", "None", "True", "False", "not"]) :
            atWord other tokens = false := atWord_of_atWord start (differ other inside)
        have star : atMark "*" tokens = false := by
          cases tokens with
          | nil => rfl
          | cons placed tokens =>
              cases placed with
              | mk token _ _ => cases token <;> first | rfl | cases start
        have barren : Barren tokens := barren_word start keyword (by
          simp only [List.mem_cons, List.not_mem_nil, or_false, not_or]
          exact ⟨differ "None" (by simp), differ "True" (by simp), differ "False" (by simp), differ "not" (by simp)⟩)
        simp [readLine, readSimples, readSimple, apart, star, readValue, barren.exprs] at read
  exact ⟨silent (by decide) (by decide), silent (by decide) (by decide)⟩

namespace Clauses

theorem first {width : Nat} {lines : List LogicalLine} {tail : Tail Stmt} {statements : List Stmt}
    (clauses : Clauses width lines tail statements) : ∀ line ∈ lines.head?, line.indent = ⟨width, width⟩ := by
  cases clauses with
  | nil => exact fun _ inside => by cases inside
  | _ indent =>
      rintro _ ⟨⟩
      exact indent

theorem apart {width : Nat} {lines rest : List LogicalLine} {statements : List Stmt}
    (clauses : Clauses width lines .nothing statements) (beyond : Beyond width rest) :
    Apart width (lines ++ rest) := by
  cases clauses with
  | nil => exact beyond.apart
  | simple _ _ _ read => exact apart_of_words (words_of_line read).1 (words_of_line read).2 _
  | branch _ head => exact apart_of_words (words_of_head head).1 (words_of_head head).2 _
  | loop _ head => exact apart_of_words (words_of_head head).1 (words_of_head head).2 _
  | each _ head => exact apart_of_words (words_of_head head).1 (words_of_head head).2 _
  | define _ head => exact apart_of_words (words_of_head head).1 (words_of_head head).2 _

theorem beyond {width inner : Nat} {lines rest : List LogicalLine} {tail : Tail Stmt} {statements : List Stmt}
    (clauses : Clauses width lines tail statements) (beyond : Beyond width rest) (wider : width < inner) :
    Beyond inner (lines ++ rest) := by
  cases lines with
  | nil => exact fun line inside => (beyond line inside).trans wider
  | cons line lines =>
      rintro _ ⟨⟩
      rw [clauses.first line rfl]
      exact wider

end Clauses

theorem readBlock_beyond {width : Nat} {rest : List LogicalLine} (beyond : Beyond width rest) (steps : Nat) :
    readBlock ⟨width, width⟩ (steps + 1) rest = some ([], rest) := by
  cases rest with
  | nil => rfl
  | cons line rest => rw [readBlock, if_pos (beyond line rfl)]

theorem readBlock_line {width : Nat} {line : LogicalLine} (indent : line.indent = ⟨width, width⟩) (steps : Nat)
    (lines : List LogicalLine) : readBlock ⟨width, width⟩ (steps + 1) (line :: lines) =
      (readStatement steps line lines).bind fun found =>
        (readBlock ⟨width, width⟩ steps found.2).bind fun more => some (found.1 ++ more.1, more.2) := by
  rw [readBlock, indent, if_neg (Nat.lt_irrefl _), if_neg (Nat.lt_irrefl _)]
  rfl

theorem readElse_apart {width : Nat} {lines : List LogicalLine} (apart : Apart width lines) (steps : Nat) :
    readElse ⟨width, width⟩ (steps + 2) lines = some ([], lines) := by
  rw [readElse, apart.elif]
  simp only [readOtherwise, apart.otherwise]

theorem readOtherwise_apart {width : Nat} {lines : List LogicalLine} (apart : Apart width lines) (steps : Nat) :
    readOtherwise ⟨width, width⟩ (steps + 1) lines = some ([], lines) := by
  simp only [readOtherwise, apart.otherwise]

theorem readSuite_inside {width inner : Nat} {line : LogicalLine} {inside rest : List LogicalLine}
    {tail : Tail Stmt} {body : List Stmt} (indent : line.indent = ⟨width, width⟩) (wider : width < inner)
    (occupied : inside ≠ []) (suite : Clauses inner inside tail body) (steps : Nat) :
    readSuite line [] (steps + 1) (inside ++ rest) = readBlock ⟨inner, inner⟩ steps (inside ++ rest) := by
  cases inside with
  | nil => exact absurd rfl occupied
  | cons first inside =>
      have same := suite.first first rfl
      simp only [readSuite, List.cons_append, List.isEmpty_nil, if_true, same, indent, wider]

theorem lineAt?_word {indent : Indent} {word : String} {line : LogicalLine} (same : line.indent = indent)
    (found : atWord word line.tokens) (lines : List LogicalLine) :
    lineAt? indent word (line :: lines) = some (line, lines) := if_pos ⟨same, found⟩

/-- What reading lines comes to: what their first clauses add to a clause before them, and the statements of the
others. -/
structure Reads (width : Nat) (lines : List LogicalLine) (tail : Tail Stmt) (statements : List Stmt)
    (block : List LogicalLine) : Prop where
  whole : tail = .nothing → block = lines
  shorter : block.length ≤ lines.length
  statements (rest : List LogicalLine) (beyond : Beyond width rest) (steps : Nat)
    (enough : 4 * lines.length < steps) :
    readBlock ⟨width, width⟩ steps (block ++ rest) = some (statements, rest)
  elses (rest : List LogicalLine) (beyond : Beyond width rest) (steps : Nat)
    (enough : 4 * lines.length + 1 < steps) :
    readElse ⟨width, width⟩ steps (lines ++ rest) = some (tail.body, block ++ rest)
  final (last : tail.IsFinal) (rest : List LogicalLine) (beyond : Beyond width rest) (steps : Nat)
    (enough : 4 * lines.length < steps) :
    readOtherwise ⟨width, width⟩ steps (lines ++ rest) = some (tail.body, block ++ rest)

/-- Lines that continue no clause are read as statements only. -/
theorem Reads.ofStatements {width : Nat} {lines : List LogicalLine} {statements : List Stmt}
    (apart : ∀ {rest : List LogicalLine}, Beyond width rest → Apart width (lines ++ rest))
    (read : ∀ (rest : List LogicalLine), Beyond width rest → ∀ (steps : Nat), 4 * lines.length < steps →
      readBlock ⟨width, width⟩ steps (lines ++ rest) = some (statements, rest)) :
    Reads width lines .nothing statements lines where
  whole _ := rfl
  shorter := Nat.le_refl _
  statements := read
  elses rest beyond steps enough := by
    obtain ⟨fewer, rfl⟩ : ∃ fewer, steps = fewer + 2 := ⟨steps - 2, by omega⟩
    exact readElse_apart (apart beyond) fewer
  final _ rest beyond steps enough := by
    obtain ⟨fewer, rfl⟩ : ∃ fewer, steps = fewer + 1 := ⟨steps - 1, by omega⟩
    exact readOtherwise_apart (apart beyond) fewer

/-- A clause whose head and suite are read, and what is read of the lines behind them. -/
theorem readBlock_clause {width inner : Nat} {line : LogicalLine} {inside lines : List LogicalLine} {head : Head}
    {body : List Stmt} (indent : line.indent = ⟨width, width⟩)
    (found : readHead? line.tokens = some (some (head, []))) (wider : width < inner) (occupied : inside ≠ [])
    (suite : Clauses inner inside .nothing body) (read : Reads inner inside .nothing body inside)
    (beyond : Beyond inner lines) {steps : Nat} (enough : 4 * inside.length < steps)
    {statement : Stmt} {rest : List LogicalLine}
    (whole : match head with
      | .branch test => ∃ otherwise, readElse ⟨width, width⟩ (steps + 1) lines = some (otherwise, rest) ∧
          statement = .branch line.start test body otherwise
      | .loop test => ∃ otherwise, readOtherwise ⟨width, width⟩ (steps + 1) lines = some (otherwise, rest) ∧
          statement = .loop line.start test body otherwise
      | .each target source => ∃ otherwise,
          readOtherwise ⟨width, width⟩ (steps + 1) lines = some (otherwise, rest) ∧
          statement = .each line.start target source body otherwise
      | .define name parameters => rest = lines ∧ statement = .define line.start name parameters body
      | .attempt => False) :
    readBlock ⟨width, width⟩ (steps + 3) (line :: (inside ++ lines)) =
      (readBlock ⟨width, width⟩ (steps + 2) rest).bind fun more => some (statement :: more.1, more.2) := by
  have suite : readSuite line [] (steps + 1) (inside ++ lines) = some (body, lines) :=
    (readSuite_inside indent wider occupied suite steps).trans (read.statements lines beyond steps enough)
  rw [readBlock_line indent, readStatement, found]
  simp only [Option.bind_eq_bind, Option.bind_some, suite, indent]
  cases head with
  | branch test =>
      obtain ⟨otherwise, read, rfl⟩ := whole
      simp only [read, Option.bind_some, Option.pure_def]
      rfl
  | loop test =>
      obtain ⟨otherwise, read, rfl⟩ := whole
      simp only [read, Option.bind_some, Option.pure_def]
      rfl
  | each target source =>
      obtain ⟨otherwise, read, rfl⟩ := whole
      simp only [read, Option.bind_some, Option.pure_def]
      rfl
  | define name parameters =>
      obtain ⟨rfl, rfl⟩ := whole
      rfl
  | attempt => exact whole.elim

theorem Clauses.reads {width : Nat} {lines : List LogicalLine} {tail : Tail Stmt} {statements : List Stmt}
    (clauses : Clauses width lines tail statements) : ∃ block, Reads width lines tail statements block := by
  induction clauses with
  | nil width =>
      refine ⟨[], .ofStatements Beyond.apart fun rest beyond steps enough => ?_⟩
      obtain ⟨fewer, rfl⟩ : ∃ fewer, steps = fewer + 1 := ⟨steps - 1, by omega⟩
      exact readBlock_beyond beyond fewer
  | @simple width line lines statements more indent head subject read others ih =>
      obtain ⟨block, ih⟩ := ih
      obtain rfl := ih.whole rfl
      refine ⟨_, .ofStatements (Clauses.simple indent head subject read others).apart
        fun rest beyond steps enough => ?_⟩
      rw [List.length_cons] at enough
      obtain ⟨fewer, rfl⟩ : ∃ fewer, steps = fewer + 2 := ⟨steps - 2, by omega⟩
      rw [List.cons_append, readBlock_line indent, readStatement, head]
      simp only [subject, read, Option.bind_eq_bind, Option.bind_some, Option.pure_def]
      rw [ih.statements rest beyond (fewer + 1) (by omega)]
      rfl
  | @branch width inner line lines inside test tail body more indent head wider occupied suite others ih ih' =>
      obtain ⟨inside, ih⟩ := ih
      obtain rfl := ih.whole rfl
      obtain ⟨block, ih'⟩ := ih'
      refine ⟨_, .ofStatements (Clauses.branch indent head wider occupied suite others).apart
        fun rest beyond steps enough => ?_⟩
      rw [List.length_cons, List.length_append] at enough
      obtain ⟨fewer, rfl⟩ : ∃ fewer, steps = fewer + 3 := ⟨steps - 3, by omega⟩
      rw [List.cons_append, List.append_assoc, readBlock_clause indent head wider occupied suite ih
        (others.beyond beyond wider) (by omega) ⟨_, ih'.elses rest beyond _ (by omega), rfl⟩,
        ih'.statements rest beyond _ (by omega)]
      rfl
  | @loop width inner line lines inside test tail body more indent head wider occupied suite last others ih ih' =>
      obtain ⟨inside, ih⟩ := ih
      obtain rfl := ih.whole rfl
      obtain ⟨block, ih'⟩ := ih'
      refine ⟨_, .ofStatements (Clauses.loop indent head wider occupied suite last others).apart
        fun rest beyond steps enough => ?_⟩
      rw [List.length_cons, List.length_append] at enough
      obtain ⟨fewer, rfl⟩ : ∃ fewer, steps = fewer + 3 := ⟨steps - 3, by omega⟩
      rw [List.cons_append, List.append_assoc, readBlock_clause indent head wider occupied suite ih
        (others.beyond beyond wider) (by omega) ⟨_, ih'.final last rest beyond _ (by omega), rfl⟩,
        ih'.statements rest beyond _ (by omega)]
      rfl
  | @each width inner line lines inside target source tail body more indent head wider occupied suite last others ih
      ih' =>
      obtain ⟨inside, ih⟩ := ih
      obtain rfl := ih.whole rfl
      obtain ⟨block, ih'⟩ := ih'
      refine ⟨_, .ofStatements (Clauses.each indent head wider occupied suite last others).apart
        fun rest beyond steps enough => ?_⟩
      rw [List.length_cons, List.length_append] at enough
      obtain ⟨fewer, rfl⟩ : ∃ fewer, steps = fewer + 3 := ⟨steps - 3, by omega⟩
      rw [List.cons_append, List.append_assoc, readBlock_clause indent head wider occupied suite ih
        (others.beyond beyond wider) (by omega) ⟨_, ih'.final last rest beyond _ (by omega), rfl⟩,
        ih'.statements rest beyond _ (by omega)]
      rfl
  | @define width inner line lines inside name parameters body more indent head wider occupied suite others ih ih' =>
      obtain ⟨inside, ih⟩ := ih
      obtain rfl := ih.whole rfl
      obtain ⟨lines, ih'⟩ := ih'
      obtain rfl := ih'.whole rfl
      refine ⟨_, .ofStatements (Clauses.define indent head wider occupied suite others).apart
        fun rest beyond steps enough => ?_⟩
      rw [List.length_cons, List.length_append] at enough
      obtain ⟨fewer, rfl⟩ : ∃ fewer, steps = fewer + 3 := ⟨steps - 3, by omega⟩
      rw [List.cons_append, List.append_assoc, readBlock_clause indent head wider occupied suite ih
        (others.beyond beyond wider) (by omega) ⟨rfl, rfl⟩, ih'.statements rest beyond _ (by omega)]
      rfl
  | @elif width inner line lines inside test tokens tail body more indent word condition colon wider occupied suite
      others ih ih' =>
      obtain ⟨inside, ih⟩ := ih
      obtain rfl := ih.whole rfl
      obtain ⟨block, ih'⟩ := ih'
      refine ⟨block, nofun, ?_, fun rest beyond steps enough => ?_, fun rest beyond steps enough => ?_,
        fun last => last.elim⟩
      · have := ih'.shorter
        simp only [List.length_cons, List.length_append]
        omega
      · simp only [List.length_cons, List.length_append] at enough
        exact ih'.statements rest beyond steps (by omega)
      · simp only [List.length_cons, List.length_append] at enough
        obtain ⟨fewer, rfl⟩ : ∃ fewer, steps = fewer + 2 := ⟨steps - 2, by omega⟩
        rw [List.cons_append, readElse, lineAt?_word indent word]
        simp only [condition, colon, Option.bind_eq_bind, Option.bind_some, List.append_assoc,
          readSuite_inside indent wider occupied suite]
        rw [ih.statements (lines ++ rest) (others.beyond beyond wider) fewer (by omega)]
        simp only [Option.bind_some]
        rw [ih'.elses rest beyond (fewer + 1) (by omega)]
        rfl
  | @otherwise width inner line lines inside body more indent word colon wider occupied suite others ih ih' =>
      obtain ⟨inside, ih⟩ := ih
      obtain rfl := ih.whole rfl
      obtain ⟨lines, ih'⟩ := ih'
      obtain rfl := ih'.whole rfl
      have read (rest : List LogicalLine) (beyond : Beyond width rest) (steps : Nat)
          (enough : 4 * (line :: (inside ++ lines)).length < steps) :
          readOtherwise ⟨width, width⟩ steps (line :: (inside ++ lines) ++ rest) = some (body, lines ++ rest) := by
        simp only [List.length_cons, List.length_append] at enough
        obtain ⟨fewer, rfl⟩ : ∃ fewer, steps = fewer + 2 := ⟨steps - 2, by omega⟩
        rw [List.cons_append, readOtherwise, lineAt?_word indent word]
        simp only [colon, Option.bind_eq_bind, Option.bind_some, List.append_assoc,
          readSuite_inside indent wider occupied suite]
        exact ih.statements _ (others.beyond beyond wider) fewer (by omega)
      refine ⟨_, nofun, ?_, fun rest beyond steps enough => ?_, fun rest beyond steps enough => ?_, fun _ => read⟩
      · simp only [List.length_cons, List.length_append]
        omega
      · simp only [List.length_cons, List.length_append] at enough
        exact ih'.statements rest beyond steps (by omega)
      · obtain ⟨fewer, rfl⟩ : ∃ fewer, steps = fewer + 1 := ⟨steps - 1, by omega⟩
        have other : lineAt? ⟨width, width⟩ "elif" (line :: (inside ++ lines) ++ rest) = none :=
          if_neg fun both => by
            rw [atWord_of_atWord word (by decide)] at both
            cases both.2
        rw [readElse, other]
        exact read rest beyond fewer (by omega)

/-- A script of clauses is read as its statements. -/
theorem readLines_of_clauses {lines : List LogicalLine} {statements : List Stmt}
    (clauses : Clauses 0 lines .nothing statements) : readLines lines = some statements := by
  obtain ⟨lines, reads⟩ := clauses.reads
  obtain rfl := reads.whole rfl
  have read := reads.statements [] nofun (stepsForLines lines) (by rw [stepsForLines]; omega)
  rw [List.append_nil] at read
  rw [readLines, read]
  rfl

end Stencil.Script
