import Mathlib.Data.List.Forall2
import Mathlib.Data.Option.Basic
import Stencil.Proofs.Clauses
import Stencil.Proofs.SpokenStatements

/-!
# Reading recodings

Lines that are the same, apart from those that put out values, are read side by side: either neither list of lines is
read, or what is read are recodings of each other.
-/

namespace Stencil.Script

/-! ## Lines that belong together -/

/-- The words that continue a clause. -/
def continuingWords : List String := ["elif", "else", "except", "finally", "case"]

/-- Whether a line is one statement of its own. -/
structure StandsFor (line : LogicalLine) (statement : Stmt) : Prop where
  head : readHead? line.tokens = none
  subject : readSubject? line.tokens = none
  read : readLine line.tokens = some [statement]
  apart : ∀ word ∈ continuingWords, atWord word line.tokens = false

/-- Whether two lines are the same, or two statements that are recodings of each other. -/
inductive RecodedLine (reticence : Reticence) (conversion : Option Bool) : LogicalLine → LogicalLine → Prop where
  | same {line : LogicalLine} (allowed : Allowed reticence line.tokens) : RecodedLine reticence conversion line line
  | stands {line line' : LogicalLine} {statement statement' : Stmt} (indent : line'.indent = line.indent)
    (first : StandsFor line statement) (second : StandsFor line' statement')
    (recoded : Recoded reticence conversion statement statement') : RecodedLine reticence conversion line line'

theorem RecodedLine.indent {reticence : Reticence} {conversion : Option Bool} {line line' : LogicalLine}
    (recoded : RecodedLine reticence conversion line line') : line'.indent = line.indent := by
  cases recoded with
  | same => rfl
  | stands indent => exact indent

/-- Whether lines are a suite that ends where a line of its own stands that is indented as far as the suite is at least. -/
structure Ends (width : Nat) (lines : List LogicalLine) : Prop where
  last : ∃ line more, lines = line :: more ∧ line.indent.wide = width ∧
    ∀ word ∈ continuingWords, atWord word line.tokens = false

/-- Whether two lists of lines belong together up to where the same lines end both. -/
def Together (reticence : Reticence) (conversion : Option Bool) (width : Nat) (last lines lines' : List LogicalLine) : Prop :=
  ∃ suite suite', List.Forall₂ (RecodedLine reticence conversion) suite suite' ∧
    (∀ line ∈ suite, width ≤ line.indent.wide) ∧ lines = suite ++ last ∧ lines' = suite' ++ last

/-! ## Readings side by side -/

theorem rel_bind {α α' β β' : Type} {R : α → α' → Prop} {S : β → β' → Prop} {found : Option α} {found' : Option α'}
    {next : α → Option β} {next' : α' → Option β'} (first : Option.Rel R found found')
    (second : ∀ value value', R value value' → Option.Rel S (next value) (next' value')) :
    Option.Rel S (found.bind next) (found'.bind next') := by
  cases first with
  | none => exact .none
  | some alike => exact second _ _ alike

theorem rel_bind_same {α β β' : Type} {S : β → β' → Prop} {found : Option α} {next : α → Option β} {next' : α → Option β'}
    (second : ∀ value, found = some value → Option.Rel S (next value) (next' value)) :
    Option.Rel S (found.bind next) (found.bind next') := by
  cases found with
  | none => exact .none
  | some value => exact second value rfl

section Readings

variable {reticence : Reticence} {conversion : Option Bool} {width : Nat} {last : List LogicalLine}

/-- Whether two readings are of things that belong together, with lines behind them that belong together. -/
def Alongside {α : Type} (reticence : Reticence) (conversion : Option Bool) (width : Nat) (last : List LogicalLine)
    (R : α → α → Prop) : Option (Read α) → Option (Read α) → Prop :=
  Option.Rel fun found found' => R found.1 found'.1 ∧ Together reticence conversion width last found.2 found'.2

/-- Two lists of lines that belong together both are at their end, or both start with lines that belong together. -/
theorem Together.cases {lines lines' : List LogicalLine} (together : Together reticence conversion width last lines lines') :
    lines = last ∧ lines' = last ∨ ∃ line line' more more', lines = line :: more ∧ lines' = line' :: more' ∧
      RecodedLine reticence conversion line line' ∧ width ≤ line.indent.wide ∧
        Together reticence conversion width last more more' := by
  obtain ⟨suite, suite', each, wide, rfl, rfl⟩ := together
  cases each with
  | nil => exact .inl ⟨rfl, rfl⟩
  | cons recoded each =>
      obtain ⟨first, others⟩ := List.forall_mem_cons.mp wide
      exact .inr ⟨_, _, _, _, rfl, rfl, recoded, first, _, _, each, others, rfl, rfl⟩

variable (ends : Ends width last)
include ends

/-- A line that continues a clause is the same on both sides. -/
theorem Together.lineAt? {lines lines' : List LogicalLine} (together : Together reticence conversion width last lines lines')
    (indent : Indent) {word : String} (continuing : word ∈ continuingWords) :
    Option.Rel (fun found found' => found'.1 = found.1 ∧ Allowed reticence found.1.tokens ∧ atWord word found.1.tokens ∧
      width ≤ found.1.indent.wide ∧ Together reticence conversion width last found.2 found'.2)
      (lineAt? indent word lines) (lineAt? indent word lines') := by
  rcases together.cases with ⟨rfl, rfl⟩ | ⟨line, line', more, more', rfl, rfl, recoded, wide, behind⟩
  · obtain ⟨line, more, same, -, apart⟩ := ends.last
    have absent : Script.lineAt? indent word lines' = Option.none := by
      rw [same]
      exact if_neg fun both => by have word := both.2; rw [apart _ continuing] at word; cases word
    rw [absent]
    exact .none
  · cases recoded with
    | same allowed =>
        by_cases both : line.indent = indent ∧ atWord word line.tokens
        · rw [Script.lineAt?, Script.lineAt?, if_pos both, if_pos both]
          exact .some ⟨rfl, allowed, both.2, wide, behind⟩
        · rw [Script.lineAt?, Script.lineAt?, if_neg both, if_neg both]
          exact .none
    | stands indent' first second =>
        have absent : Script.lineAt? indent word (line :: more) = Option.none :=
          if_neg fun both => by have word := both.2; rw [first.apart _ continuing] at word; cases word
        have absent' : Script.lineAt? indent word (line' :: more') = Option.none :=
          if_neg fun both => by have word := both.2; rw [second.apart _ continuing] at word; cases word
        rw [absent, absent']
        exact .none

omit ends in
theorem Together.rest {α : Type} {R : α → α → Prop} {lines lines' : List LogicalLine}
    (together : Together reticence conversion width last lines lines') {found found' : α} (alike : R found found') :
    Alongside reticence conversion width last R (some (found, lines)) (some (found', lines')) :=
  .some ⟨alike, together⟩

end Readings

/-- The readers of lines, with a bound on their steps, read lines that belong together side by side. -/
structure ReadAlongside (reticence : Reticence) (conversion : Option Bool) (width : Nat) (last : List LogicalLine)
    (steps : Nat) : Prop where
  block : ∀ {lines lines' : List LogicalLine}, Together reticence conversion width last lines lines' → ∀ {indent : Indent},
    width < indent.wide → Alongside reticence conversion width last (RecodedBlock reticence conversion)
      (readBlock indent steps lines) (readBlock indent steps lines')
  suite : ∀ {lines lines' : List LogicalLine}, Together reticence conversion width last lines lines' →
    ∀ {head : LogicalLine} {beside : List Placed}, width ≤ head.indent.wide → Allowed reticence beside →
      Alongside reticence conversion width last (RecodedBlock reticence conversion) (readSuite head beside steps lines)
        (readSuite head beside steps lines')
  else' : ∀ {lines lines' : List LogicalLine}, Together reticence conversion width last lines lines' → ∀ indent : Indent,
    Alongside reticence conversion width last (RecodedBlock reticence conversion) (readElse indent steps lines)
      (readElse indent steps lines')
  otherwise : ∀ {lines lines' : List LogicalLine}, Together reticence conversion width last lines lines' →
    ∀ indent : Indent, Alongside reticence conversion width last (RecodedBlock reticence conversion)
      (readOtherwise indent steps lines) (readOtherwise indent steps lines')
  handlers : ∀ {lines lines' : List LogicalLine}, Together reticence conversion width last lines lines' →
    ∀ indent : Indent, Alongside reticence conversion width last (RecodedHandlers reticence conversion)
      (readHandlers indent steps lines) (readHandlers indent steps lines')
  cleanup : ∀ {lines lines' : List LogicalLine}, Together reticence conversion width last lines lines' →
    ∀ indent : Indent, Alongside reticence conversion width last (Option.Rel (RecodedBlock reticence conversion))
      (readCleanup indent steps lines) (readCleanup indent steps lines')
  arms : ∀ {lines lines' : List LogicalLine}, Together reticence conversion width last lines lines' → ∀ {indent : Indent},
    width < indent.wide → Alongside reticence conversion width last (RecodedArms reticence conversion)
      (readArms indent steps lines) (readArms indent steps lines')
  statement : ∀ {lines lines' : List LogicalLine}, Together reticence conversion width last lines lines' →
    ∀ {line line' : LogicalLine}, RecodedLine reticence conversion line line' → width ≤ line.indent.wide →
      Alongside reticence conversion width last (RecodedBlock reticence conversion) (readStatement steps line lines)
        (readStatement steps line' lines')

section Steps

variable {reticence : Reticence} {conversion : Option Bool} {width : Nat} {last lines lines' : List LogicalLine} {steps : Nat}
  (frank : ∀ name, ¬ reticence.unread name) (ends : Ends width last)
  (ih : ReadAlongside reticence conversion width last steps)
  (together : Together reticence conversion width last lines lines')
include ends ih together

theorem alongside_readBlock {indent : Indent} (inner : width < indent.wide) :
    Alongside reticence conversion width last (RecodedBlock reticence conversion) (readBlock indent (steps + 1) lines)
      (readBlock indent (steps + 1) lines') := by
  rcases together.cases with ⟨rfl, rfl⟩ | ⟨line, line', more, more', rfl, rfl, recoded, wide, together'⟩
  · obtain ⟨line, more, rfl, same, -⟩ := ends.last
    rw [readBlock, if_pos (same ▸ inner)]
    exact together.rest .nil
  · rw [readBlock, readBlock, recoded.indent]
    split
    · exact together.rest .nil
    split
    · exact .none
    · refine rel_bind (ih.statement together' recoded wide) fun found found' alike => ?_
      exact rel_bind (ih.block alike.2 inner) fun more more' alike' => alike'.2.rest (alike.1.append alike'.1)

include frank

theorem alongside_readSuite {head : LogicalLine} {beside : List Placed} (wide : width ≤ head.indent.wide)
    (allowed : Allowed reticence beside) :
    Alongside reticence conversion width last (RecodedBlock reticence conversion) (readSuite head beside (steps + 1) lines)
      (readSuite head beside (steps + 1) lines') := by
  unfold readSuite
  split
  · rcases together.cases with ⟨rfl, rfl⟩ | ⟨line, line', more, more', rfl, rfl, recoded, -, -⟩
    · obtain ⟨line, more, rfl, -, -⟩ := ends.last
      dsimp only
      split
      · rename_i inner
        exact ih.block together (wide.trans_lt inner)
      · exact .none
    · dsimp only
      rw [recoded.indent]
      split
      · rename_i inner
        exact ih.block together (wide.trans_lt inner)
      · exact .none
  · cases read : readLine beside with
    | none => exact .none
    | some statements =>
        exact together.rest (recodedBlock_self reticence conversion statements (sober_readLine frank allowed read))

omit frank in
theorem alongside_readOtherwise (indent : Indent) :
    Alongside reticence conversion width last (RecodedBlock reticence conversion) (readOtherwise indent (steps + 1) lines)
      (readOtherwise indent (steps + 1) lines') := by
  rw [readOtherwise, readOtherwise]
  have there := together.lineAt? ends indent (by decide : "else" ∈ continuingWords)
  generalize lineAt? indent "else" lines = found, lineAt? indent "else" lines' = found' at there ⊢
  cases there with
  | none => exact together.rest .nil
  | @some found found' alike =>
      obtain ⟨head, more⟩ := found
      obtain ⟨head', more'⟩ := found'
      obtain ⟨rfl, allowed, word, wide, together'⟩ := alike
      dsimp only at allowed word wide together' ⊢
      exact rel_bind_same fun colon read => ih.suite together' wide ((allowed.word word).expectedMark read (by decide))

theorem alongside_readElse (indent : Indent) :
    Alongside reticence conversion width last (RecodedBlock reticence conversion) (readElse indent (steps + 1) lines)
      (readElse indent (steps + 1) lines') := by
  rw [readElse, readElse]
  have there := together.lineAt? ends indent (by decide : "elif" ∈ continuingWords)
  generalize lineAt? indent "elif" lines = found, lineAt? indent "elif" lines' = found' at there ⊢
  cases there with
  | none => exact ih.otherwise together indent
  | @some found found' alike =>
      obtain ⟨head, more⟩ := found
      obtain ⟨head', more'⟩ := found'
      obtain ⟨rfl, allowed, word, wide, together'⟩ := alike
      dsimp only at allowed word wide together' ⊢
      refine rel_bind_same fun tested read => ?_
      obtain ⟨discreet, allowed⟩ := sober_readSingle frank (allowed.word word) read
      refine rel_bind_same fun behind colon => ?_
      have allowed := allowed.expectedMark colon (by decide)
      refine rel_bind (ih.suite together' wide allowed) fun body body' alike => ?_
      exact rel_bind (ih.else' alike.2 indent) fun other other' alike' =>
        alike'.2.rest (.cons (.branch head'.start discreet alike.1 alike'.1) .nil)

theorem alongside_readHandlers (indent : Indent) :
    Alongside reticence conversion width last (RecodedHandlers reticence conversion) (readHandlers indent (steps + 1) lines)
      (readHandlers indent (steps + 1) lines') := by
  rw [readHandlers, readHandlers]
  have there := together.lineAt? ends indent (by decide : "except" ∈ continuingWords)
  generalize lineAt? indent "except" lines = found, lineAt? indent "except" lines' = found' at there ⊢
  cases there with
  | none => exact together.rest .nil
  | @some found found' alike =>
      obtain ⟨head, more⟩ := found
      obtain ⟨head', more'⟩ := found'
      obtain ⟨rfl, allowed, word, wide, together'⟩ := alike
      dsimp only at allowed word wide together' ⊢
      refine rel_bind_same fun handled read => ?_
      obtain ⟨discreet, allowed⟩ := sober_readHandlerHead frank (allowed.word word) read
      refine rel_bind (ih.suite together' wide allowed) fun body body' alike => ?_
      exact rel_bind (ih.handlers alike.2 indent) fun others others' alike' =>
        alike'.2.rest (.cons head'.start discreet alike.1 alike'.1)

omit frank in
theorem alongside_readCleanup (indent : Indent) :
    Alongside reticence conversion width last (Option.Rel (RecodedBlock reticence conversion))
      (readCleanup indent (steps + 1) lines) (readCleanup indent (steps + 1) lines') := by
  rw [readCleanup, readCleanup]
  have there := together.lineAt? ends indent (by decide : "finally" ∈ continuingWords)
  generalize lineAt? indent "finally" lines = found, lineAt? indent "finally" lines' = found' at there ⊢
  cases there with
  | none => exact together.rest .none
  | @some found found' alike =>
      obtain ⟨head, more⟩ := found
      obtain ⟨head', more'⟩ := found'
      obtain ⟨rfl, allowed, word, wide, together'⟩ := alike
      dsimp only at allowed word wide together' ⊢
      refine rel_bind_same fun behind colon => ?_
      have allowed := (allowed.word word).expectedMark colon (by decide)
      exact rel_bind (ih.suite together' wide allowed) fun body body' alike => alike.2.rest (.some alike.1)

theorem alongside_readArms {indent : Indent} (inner : width < indent.wide) :
    Alongside reticence conversion width last (RecodedArms reticence conversion) (readArms indent (steps + 1) lines)
      (readArms indent (steps + 1) lines') := by
  rcases together.cases with ⟨rfl, rfl⟩ | ⟨line, line', more, more', rfl, rfl, recoded, wide, together'⟩
  · obtain ⟨line, more, rfl, same, -⟩ := ends.last
    rw [readArms, if_pos (same ▸ inner)]
    exact together.rest .nil
  · rw [readArms, readArms, recoded.indent]
    split
    · exact together.rest .nil
    cases recoded with
    | same allowed =>
        split
        · rename_i both
          refine rel_bind_same fun pattern read => ?_
          obtain ⟨discreet, allowed⟩ := sober_readPattern frank (allowed.word both.2) read
          refine rel_bind_same fun behind colon => ?_
          have allowed := allowed.expectedMark colon (by decide)
          refine rel_bind (ih.suite together' wide allowed) fun body body' alike => ?_
          exact rel_bind (ih.arms alike.2 inner) fun others others' alike' =>
            alike'.2.rest (.cons line.start discreet alike.1 alike'.1)
        · exact .none
    | stands indent' first second =>
        have apart : atWord "case" line.tokens = false := first.apart "case" (by decide)
        have apart' : atWord "case" line'.tokens = false := second.apart "case" (by decide)
        rw [apart, apart', if_neg (by simp), if_neg (by simp)]
        exact .none

theorem alongside_readStatement {line line' : LogicalLine} (recoded : RecodedLine reticence conversion line line')
    (wide : width ≤ line.indent.wide) :
    Alongside reticence conversion width last (RecodedBlock reticence conversion) (readStatement (steps + 1) line lines)
      (readStatement (steps + 1) line' lines') := by
  rw [readStatement, readStatement]
  dsimp only
  cases recoded with
  | stands indent first second recoded =>
      rw [first.head, first.subject, first.read, second.head, second.subject, second.read]
      exact together.rest (.cons recoded .nil)
  | same allowed =>
      cases read : readHead? line.tokens with
      | some result =>
          cases result with
          | none => exact .none
          | some found =>
              obtain ⟨head, tokens⟩ := found
              obtain ⟨discreet, allowed⟩ := sober_readHead? frank allowed read
              dsimp only [Option.bind_eq_bind, Option.bind_some]
              refine rel_bind (ih.suite together wide allowed) fun body body' alike => ?_
              obtain ⟨inside, together⟩ := alike
              cases head with
              | branch test =>
                  exact rel_bind (ih.else' together line.indent) fun other other' alike =>
                    alike.2.rest (.cons (.branch line.start discreet inside alike.1) .nil)
              | loop test =>
                  exact rel_bind (ih.otherwise together line.indent) fun other other' alike =>
                    alike.2.rest (.cons (.loop line.start discreet inside alike.1) .nil)
              | each target source =>
                  exact rel_bind (ih.otherwise together line.indent) fun other other' alike =>
                    alike.2.rest (.cons (.each line.start discreet inside alike.1) .nil)
              | define name parameters => exact together.rest (.cons (.define line.start discreet inside) .nil)
              | attempt =>
                  refine rel_bind (ih.handlers together line.indent) fun handlers handlers' alike => ?_
                  obtain ⟨handling, together⟩ := alike
                  have empty : handlers'.1.isEmpty = handlers.1.isEmpty := by
                    generalize handlers.1 = found, handlers'.1 = found' at handling ⊢
                    cases handling <;> rfl
                  have cleaning (other other' : Read (List Stmt)) (alike : RecodedBlock reticence conversion other.1 other'.1 ∧
                      Together reticence conversion width last other.2 other'.2) :
                      Alongside reticence conversion width last (RecodedBlock reticence conversion)
                        ((readCleanup line.indent steps other.2).bind fun cleanup =>
                          if (handlers.1.isEmpty && cleanup.1.isNone) = true then none
                          else some ([.attempt line.start body.1 handlers.1 other.1 (cleanup.1.getD [])], cleanup.2))
                        ((readCleanup line.indent steps other'.2).bind fun cleanup =>
                          if (handlers.1.isEmpty && cleanup.1.isNone) = true then none
                          else some ([.attempt line.start body'.1 handlers'.1 other'.1 (cleanup.1.getD [])], cleanup.2)) := by
                    refine rel_bind (ih.cleanup alike.2 line.indent) fun cleanup cleanup' alike' => ?_
                    obtain ⟨found, more⟩ := cleanup
                    obtain ⟨found', more'⟩ := cleanup'
                    obtain ⟨cleaned, together⟩ := alike'
                    dsimp only at cleaned together ⊢
                    cases cleaned with
                    | none =>
                        cases handlers.1.isEmpty with
                        | true => exact .none
                        | false => exact together.rest (.cons (.attempt line.start inside handling alike.1 .nil) .nil)
                    | some cleaned =>
                        rw [Option.isNone_some, Option.isNone_some, Bool.and_false]
                        exact together.rest (.cons (.attempt line.start inside handling alike.1 cleaned) .nil)
                  rw [empty]
                  split
                  · exact cleaning ([], handlers.2) ([], handlers'.2) ⟨.nil, together⟩
                  · exact rel_bind (ih.otherwise together line.indent) fun other other' alike => cleaning other other' alike
      | none =>
          dsimp only
          cases subject : readSubject? line.tokens with
          | some value =>
              have discreet := sober_readSubject? frank allowed subject
              dsimp only
              rcases together.cases with ⟨rfl, rfl⟩ | ⟨next, next', more, more', rfl, rfl, recoded, -, -⟩
              · obtain ⟨next, more, rfl, same, -⟩ := ends.last
                dsimp only
                rw [if_neg (by rw [same]; exact wide.not_gt)]
                exact .none
              · dsimp only
                rw [recoded.indent]
                split
                · rename_i inner
                  exact rel_bind (ih.arms together (wide.trans_lt inner)) fun arms arms' alike =>
                    alike.2.rest (.cons (.choose line.start discreet alike.1) .nil)
                · exact .none
          | none =>
              dsimp only
              cases read : readLine line.tokens with
              | none => exact .none
              | some statements =>
                  exact together.rest (recodedBlock_self reticence conversion statements (sober_readLine frank allowed read))

end Steps

theorem readAlongside {reticence : Reticence} {conversion : Option Bool} {width : Nat} {last : List LogicalLine}
    (frank : ∀ name, ¬ reticence.unread name) (ends : Ends width last) (steps : Nat) :
    ReadAlongside reticence conversion width last steps := by
  induction steps with
  | zero =>
      constructor
      all_goals intros; exact .none
  | succ steps ih => exact
      { block := alongside_readBlock ends ih
        suite := alongside_readSuite frank ends ih
        else' := alongside_readElse frank ends ih
        otherwise := alongside_readOtherwise ends ih
        handlers := alongside_readHandlers frank ends ih
        cleanup := alongside_readCleanup ends ih
        arms := alongside_readArms frank ends ih
        statement := alongside_readStatement frank ends ih }

end Stencil.Script
