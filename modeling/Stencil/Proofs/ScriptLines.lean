import Stencil.Proofs.LineReading
import Stencil.Text.Blank

/-!
# Lines of scripts

A line that is one logical line of its own is the same logical line among others, up to its number and its
indentation.  A script of such lines is read as these lines, one after the other.
-/

namespace Stencil.Script

/-- The token on a given line. -/
def Placed.at (line : Nat) (placed : Placed) : Placed := { placed with line := line }

namespace LexState

/-- A state of the reading of one line alone, as it is when the line has a given number and other lines and
tokens stand before it. -/
def among (done : List LogicalLine) (start : LogicalLine) (number : Nat) (state : LexState) : LexState where
  done := done
  current := state.current.map fun current =>
    ⟨start.indent, current.tokens.map (Placed.at number) ++ start.tokens, number, number⟩
  brackets := state.brackets.map fun found => { found with line := number }
  line := number

/-- Whether a state is still on the line of another one. -/
structure Follows (state next : LexState) : Prop where
  done : next.done = state.done
  line : next.line = state.line
  begun : next.current.isSome = state.current.isSome

theorem Follows.refl (state : LexState) : Follows state state := ⟨rfl, rfl, rfl⟩

theorem follows_push (token : Token) (line : Nat) (state : LexState) : Follows state (state.push token line) := by
  refine ⟨rfl, rfl, ?_⟩
  cases current : state.current <;> simp [push, current]

theorem among_push (token : Token) (line : Nat) (done : List LogicalLine) (start : LogicalLine) (number : Nat)
    (state : LexState) :
    (state.push token line).among done start number = (state.among done start number).push token number := by
  cases current : state.current <;> simp [among, push, current, Placed.at]

end LexState

/-- Whether a reader of a line that is begun takes the same from it whatever lines and tokens stand before it and
whatever lines follow. -/
def LineLocal (read : LexState → Text → Except Refusal (LexState × Text)) (line : Text) : Prop :=
  ∀ ⦃state next rest⦄, read state (line ++ ['\n']) = .ok (next, rest) →
    ∃ left, rest = left ++ ['\n'] ∧ left <:+ line ∧ state.Follows next ∧
      ∀ done start number more, read (state.among done start number) (line ++ '\n' :: more) =
        .ok (next.among done start number, left ++ '\n' :: more)


theorem readLiteral_place {place : Nat} {quote : Char} {text : Text} {found : Text × Text}
    (read : readLiteral place quote text = .ok found) (place' : Nat) : readLiteral place' quote text = .ok found := by
  have plain {text : Text} (read : readPlain place quote text = .ok found) :
      readPlain place' quote text = .ok found := by
    unfold readPlain at read ⊢
    split at read
    · exact read
    · cases read
  unfold readLiteral at read
  split at read
  · split at read
    · rename_i both
      unfold readTripled at read
      split at read
      · rename_i long
        rw [readLiteral, if_pos both, readTripled, long]
        exact read
      · cases read
    · rename_i apart
      rw [readLiteral, if_neg apart]
      exact plain read
  · rename_i few
    unfold readLiteral
    split
    · exact (few _ _ _ rfl).elim
    · exact plain read

theorem lineLocal_lexLiteral (kind : LiteralKind) {quote : Char} (feed : quote ≠ '\n') {line : Text}
    (clean : '\n' ∉ line) : LineLocal (lexLiteral kind quote) line := by
  intro state next rest result
  unfold lexLiteral at result
  split at result
  · cases result
  · rename_i inside rest' read
    obtain ⟨left, rfl, suffix, more⟩ := local_readLiteral state.line feed clean read
    have none : inside.count '\n' = 0 := by
      obtain ⟨before, after, same⟩ := eq_of_readLiteral read
      rw [← List.append_assoc, List.append_cancel_right_eq] at same
      rw [List.count_eq_zero]
      intro within
      exact clean (same ▸ by simp [within])
    rw [none] at result
    cases result
    refine ⟨left, rfl, suffix, LexState.follows_push .., fun done start number text => ?_⟩
    rw [lexLiteral, readLiteral_place (more text)]
    simp only [none]
    exact congrArg (fun next => Except.ok (next, left ++ '\n' :: text)) (LexState.among_push ..).symm

theorem lineLocal_lexName (word line : Text) : LineLocal (lexName word) line := by
  intro state next rest result
  unfold lexName at result ⊢
  cases token : wordToken word with
  | error message =>
      rw [token] at result
      cases result
  | ok found =>
      rw [token] at result
      cases result
      refine ⟨line, rfl, List.suffix_rfl, LexState.follows_push .., fun done start number text => ?_⟩
      rw [LexState.among_push]
      rfl

theorem LineLocal.of_eq {read read' : LexState → Text → Except Refusal (LexState × Text)} {line line' : Text}
    (inner : LineLocal read' line') (suffix : line' <:+ line)
    (same : ∀ state more, read state (line ++ '\n' :: more) = read' state (line' ++ '\n' :: more)) :
    LineLocal read line := by
  intro state next rest result
  rw [same] at result
  obtain ⟨left, rfl, suffix', follows, more⟩ := inner result
  exact ⟨left, rfl, suffix'.trans suffix, follows, fun done start number text => by rw [same, more]⟩

theorem LineLocal.ofToken {read : LexState → Text → Except Refusal (LexState × Text)} {line : Text}
    {token : Text → Except Text (Token × Text)} (inner : LocalAt token line)
    (same : ∀ state more, read state (line ++ '\n' :: more) = match token (line ++ '\n' :: more) with
      | .ok (found, rest) => .ok (state.push found state.line, rest)
      | .error message => .error (refuseForm message state.line)) : LineLocal read line := by
  intro state next rest result
  rw [same] at result
  cases step : token (line ++ ['\n']) with
  | error message =>
      rw [step] at result
      cases result
  | ok found =>
      rw [step] at result
      cases result
      obtain ⟨left, rest, suffix, more⟩ := inner step
      refine ⟨left, rest, suffix, LexState.follows_push .., fun done start number text => ?_⟩
      rw [same, more, LexState.among_push]
      rfl

/-- Reading a word, or the literal that it announces. -/
theorem lineLocal_lexWord {char : Char} (starts : mayContinueName char) {line : Text} (clean : '\n' ∉ line) :
    LineLocal (fun state text => lexWord state (char :: text)) line := by
  have suffix : line.dropWhile mayContinueName <:+ line := List.dropWhile_suffix _
  have clean' : '\n' ∉ line.dropWhile mayContinueName := fun feed => clean (suffix.subset feed)
  have word (more : Text) : (char :: (line ++ '\n' :: more)).takeWhile mayContinueName =
      (char :: line).takeWhile mayContinueName := takeWhile_line (by decide) (char :: line) more
  have rest (more : Text) : (char :: (line ++ '\n' :: more)).dropWhile mayContinueName =
      line.dropWhile mayContinueName ++ '\n' :: more := by
    rw [List.dropWhile_cons_of_pos starts, dropWhile_line (by decide)]
  have name := lineLocal_lexName ((char :: line).takeWhile mayContinueName) (line.dropWhile mayContinueName)
  cases behind : line.dropWhile mayContinueName with
  | nil =>
      rw [behind] at suffix name rest
      refine name.of_eq suffix fun state more => ?_
      simp only [lexWord, word, rest]
      rfl
  | cons next after =>
      rw [behind] at suffix clean' name rest
      by_cases quote : next = '\'' ∨ next = '"'
      · cases announced : literalKind? ((char :: line).takeWhile mayContinueName) with
        | none =>
            refine name.of_eq suffix fun state more => ?_
            simp [lexWord, word, rest, announced]
        | some kind =>
            have feed : next ≠ '\n' := by rcases quote with rfl | rfl <;> decide
            have clean : '\n' ∉ after := fun inside => clean' (.tail _ inside)
            refine (lineLocal_lexLiteral kind feed clean).of_eq ((List.suffix_cons ..).trans suffix)
              fun state more => ?_
            simp [lexWord, word, rest, announced, quote]
      · refine name.of_eq suffix fun state more => ?_
        simp [lexWord, word, rest, quote]


namespace LexState

theorem openBracket_among {char : Char} {state next : LexState} (opened : state.openBracket char = .ok next) :
    state.Follows next ∧ ∀ done start number,
      (state.among done start number).openBracket char = .ok (next.among done start number) := by
  unfold openBracket at opened
  split at opened
  · cases opened
  · rename_i few
    cases opened
    refine ⟨⟨(follows_push ..).done, (follows_push ..).line, (follows_push ..).begun⟩,
      fun done start number => ?_⟩
    have few' : ¬bracketLimit ≤ (state.among done start number).brackets.length := by
      simpa [among] using few
    rw [openBracket, if_neg few', among_push]
    rfl

theorem closeBracket_among {opener char : Char} {state next : LexState}
    (closed : state.closeBracket opener char = .ok next) :
    state.Follows next ∧ ∀ done start number,
      (state.among done start number).closeBracket opener char = .ok (next.among done start number) := by
  unfold closeBracket at closed
  split at closed
  · cases closed
  · rename_i found brackets same
    split at closed
    · rename_i fits
      cases closed
      refine ⟨⟨(follows_push ..).done, (follows_push ..).line, (follows_push ..).begun⟩,
        fun done start number => ?_⟩
      have top : (state.among done start number).brackets =
          { found with line := number } :: brackets.map fun found => { found with line := number } := by
        simp [among, same]
      simp only [closeBracket, top, fits, if_true]
      rw [among_push]
      rfl
    · cases closed

end LexState

theorem longMarks_clean : ∀ mark ∈ longMarks, '\n' ∉ mark ∧ mark ≠ [] := by decide

theorem find?_longMarks_line (line more : Text) :
    longMarks.find? (fun mark => Text.startsWith mark (line ++ '\n' :: more)) =
      longMarks.find? (fun mark => Text.startsWith mark line) := by
  have every (marks : List Text) (clean : ∀ mark ∈ marks, '\n' ∉ mark) :
      marks.find? (fun mark => Text.startsWith mark (line ++ '\n' :: more)) =
        marks.find? (fun mark => Text.startsWith mark line) := by
    induction marks with
    | nil => rfl
    | cons mark marks ih =>
        rw [List.find?_cons, List.find?_cons, startsWith_line (clean mark (.head _)),
          ih fun other inside => clean other (.tail _ inside)]
  exact every longMarks fun mark inside => (longMarks_clean mark inside).1

/-- Reading a mark. -/
theorem lineLocal_lexMark (char : Char) (line : Text) :
    LineLocal (fun state text => lexMark state char text) line := by
  intro state next rest result
  have marks (more : Text) : longMarks.find? (fun mark => Text.startsWith mark (char :: (line ++ '\n' :: more))) =
      longMarks.find? (fun mark => Text.startsWith mark (char :: line)) := find?_longMarks_line (char :: line) more
  simp only [lexMark, marks] at result ⊢
  cases long : longMarks.find? (fun mark => Text.startsWith mark (char :: line)) with
  | some mark =>
      have starts := List.find?_some long
      obtain ⟨left, same⟩ := Text.eq_of_startsWith starts
      have dropped (more : Text) : (char :: (line ++ '\n' :: more)).drop mark.length = left ++ '\n' :: more := by
        rw [← List.cons_append, same, List.append_assoc, List.drop_left]
      simp only [long, dropped] at result ⊢
      cases result
      refine ⟨left, rfl, ?_, LexState.follows_push .., fun done start number text => ?_⟩
      · obtain ⟨first, mark, rfl⟩ := List.exists_cons_of_ne_nil
          (longMarks_clean mark (List.mem_of_find?_eq_some long)).2
        exact ⟨mark, (List.cons.inj same).2.symm⟩
      · rw [LexState.among_push]
        rfl
  | none =>
      simp only [long] at result ⊢
      split at result
      · rename_i opener
        cases opened : state.openBracket char with
        | error refusal =>
            rw [opened] at result
            cases result
        | ok state' =>
            rw [opened] at result
            cases result
            obtain ⟨follows, among⟩ := LexState.openBracket_among opened
            refine ⟨line, rfl, List.suffix_rfl, follows, fun done start number text => ?_⟩
            rw [if_pos opener, among]
            rfl
      · rename_i plain
        simp only [if_neg plain]
        cases closer : openerOf? char with
        | some opener =>
            simp only [closer] at result ⊢
            cases closed : state.closeBracket opener char with
            | error refusal =>
                rw [closed] at result
                cases result
            | ok state' =>
                rw [closed] at result
                cases result
                obtain ⟨follows, among⟩ := LexState.closeBracket_among closed
                refine ⟨line, rfl, List.suffix_rfl, follows, fun done start number text => ?_⟩
                rw [among]
                rfl
        | none =>
            simp only [closer] at result ⊢
            split at result
            · rename_i printable
              cases result
              refine ⟨line, rfl, List.suffix_rfl, LexState.follows_push .., fun done start number text => ?_⟩
              rw [if_pos printable, LexState.among_push]
              rfl
            · cases result

/-- Reading a token. -/
theorem lineLocal_lexToken (char : Char) {line : Text} (clean : '\n' ∉ line) :
    LineLocal (fun state text => lexToken state char text) line := by
  by_cases quote : char = '\'' ∨ char = '"'
  · have feed : char ≠ '\n' := by rcases quote with rfl | rfl <;> decide
    refine (lineLocal_lexLiteral ⟨false, false, false⟩ feed clean).of_eq List.suffix_rfl fun state more => ?_
    simp [lexToken, quote]
  · cases number : char.isDigit || (char = '.' && atDigit (line ++ ['\n'])) with
    | true =>
        have starts : char.isDigit ∨ char = '.' := by
          simp only [Bool.or_eq_true, Bool.and_eq_true, decide_eq_true_eq] at number
          exact number.imp_right And.left
        have same (state : LexState) (more : Text) : lexToken state char (line ++ '\n' :: more) =
            match readNumber (char :: (line ++ '\n' :: more)) with
            | .ok (token, rest) => .ok (state.push token state.line, rest)
            | .error message => .error (refuseForm message state.line) := by
          simp only [lexToken, atDigit_line line more, number]
          simp [quote] <;> rfl
        exact .ofToken (local_readNumber starts clean) same
    | false =>
        by_cases starts : mayContinueName char
        · refine (lineLocal_lexWord starts clean).of_eq List.suffix_rfl fun state more => ?_
          simp only [lexToken, atDigit_line line more, number]
          simp [quote, starts]
        · refine (lineLocal_lexMark char line).of_eq List.suffix_rfl fun state more => ?_
          simp only [lexToken, atDigit_line line more, number]
          simp [quote, starts]

/-- Reading the next piece of a line that goes to the end of the line: only the break of the line is left. -/
def StepLocal (read : LexState → Text → LexStep) (line : Text) : Prop :=
  ∀ ⦃state next rest⦄, read state (line ++ ['\n']) = .goOn next rest →
    ∃ left, rest = left ++ ['\n'] ∧ left <:+ line ∧ state.Follows next ∧
      ∀ done start number more, read (state.among done start number) (line ++ '\n' :: more) =
        .goOn (next.among done start number) (left ++ '\n' :: more)

theorem LexStep.ofToken_goOn {state next : LexState} {rest : Text}
    {result : Except Refusal (LexState × Text)} (step : LexStep.ofToken state result = .goOn next rest) :
    result = .ok (next, rest) := by
  cases result with
  | error refusal => cases step
  | ok found =>
      cases step
      rfl

theorem dropWhile_feed {line : Text} (clean : '\n' ∉ line) (more : Text) :
    (line ++ '\n' :: more).dropWhile (· != '\n') = '\n' :: more := by
  rw [List.dropWhile_append_of_pos, List.dropWhile_cons_of_neg (by simp)]
  exact fun char inside => bne_iff_ne.mpr fun same => clean (same ▸ inside)

/-- Reading a piece of a line that does not end the line. -/
theorem lexWithin_local {char : Char} (plain : char ≠ '\n') {line : Text} (clean : '\n' ∉ line)
    (slash : char = '\\' → line ≠ []) : StepLocal (fun state text => lexWithin state char text) line := by
  intro state next rest result
  change lexWithin state char (line ++ ['\n']) = _ at result
  change ∃ left, _ ∧ _ ∧ _ ∧ ∀ done start number more,
    lexWithin (state.among done start number) char (line ++ '\n' :: more) = _
  unfold lexWithin at result ⊢
  simp only [if_neg plain] at result ⊢
  split at result
  · rename_i blank
    cases result
    refine ⟨line, rfl, List.suffix_rfl, .refl state, fun done start number more => ?_⟩
    rw [if_pos blank]
  rename_i dense
  split at result
  · rename_i hash
    cases result
    refine ⟨[], dropWhile_feed clean [], List.nil_suffix, .refl state, fun done start number more => ?_⟩
    rw [if_neg dense, if_pos hash, dropWhile_feed clean]
    rfl
  rename_i comment
  split at result
  · rename_i backslash
    cases line with
    | nil => exact absurd rfl (slash backslash)
    | cons second line =>
        split at result
        · rename_i same
          cases same
          exact absurd (.head _) clean
        · cases result
  rename_i backslash
  obtain ⟨left, same, suffix, follows, more⟩ := lineLocal_lexToken char clean (LexStep.ofToken_goOn result)
  refine ⟨left, same, suffix, follows, fun done start number text => ?_⟩
  rw [if_neg dense, if_neg comment, if_neg backslash]
  exact congrArg (LexStep.ofToken _) (more done start number text)


theorem lexFrom_cons (steps : Nat) {state : LexState} (begun : state.current.isSome) (char : Char) (text : Text) :
    lexFrom (steps + 1) state (char :: text) = match lexWithin state char text with
      | .goOn next rest => lexFrom steps next rest
      | .halt state ending => state.finish ending := by
  have going : state.current.isNone = false := Option.isNone_eq_false_iff.mpr begun
  rw [lexFrom, lexStep, going]
  rfl

/-- The readings that consist of one finished line. -/
def Reading.sole (line : LogicalLine) : Reading := ⟨[line], none, [], .complete⟩

theorem finish_ne_sole {state : LexState} (begun : state.current.isSome) (ending : Ending) (line : LogicalLine) :
    state.finish ending ≠ .sole line := by
  intro same
  have unfinished : state.readLine? = none := congrArg Reading.unfinished same
  rw [LexState.readLine?, Option.map_eq_none_iff] at unfinished
  rw [unfinished] at begun
  cases begun

theorem lexFrom_nil (steps : Nat) (state : LexState) : lexFrom steps state [] = state.finishAll := by
  cases steps <;> rfl

theorem lexWithin_feed (state : LexState) (text : Text) : lexWithin state '\n' text = .goOn state.breakLine text := by
  unfold lexWithin
  rfl

theorem eq_of_lexWithin_halt {state halted : LexState} {char : Char} {text : Text} {ending : Ending}
    (step : lexWithin state char text = .halt halted ending) : halted = state := by
  unfold lexWithin at step
  repeat' split at step
  all_goals try cases step
  · rfl
  · cases result : lexToken state char text with
    | ok found =>
        rw [result] at step
        cases step
    | error refusal =>
        rw [result] at step
        cases step
        rfl

/-- A line without open brackets ends among other lines as it ends alone. -/
theorem breakLine_among {state : LexState} (begun : state.current.isSome) (first : state.done = [])
    {found : LogicalLine} (alone : state.breakLine.finishAll = .sole found) (done : List LogicalLine)
    (start : LogicalLine) (number : Nat) :
    (state.among done start number).breakLine =
      ⟨⟨start.indent, start.tokens.reverse ++ found.tokens.map (Placed.at number), number, number⟩ :: done,
        none, [], number + 1⟩ := by
  obtain ⟨current, same⟩ := Option.isSome_iff_exists.mp begun
  cases brackets : state.brackets with
  | nil =>
      have line : found = { current with tokens := current.tokens.reverse, stop := state.line } := by
        simp [LexState.breakLine, brackets, LexState.readLine?, same, LexState.finishAll, LexState.finish, first,
          Reading.sole] at alone
        exact alone.symm
      simp [LexState.breakLine, LexState.among, brackets, LexState.readLine?, same, line]
  | cons bracket brackets' =>
      have open' : state.breakLine.current.isSome := by simp [LexState.breakLine, brackets, begun]
      exact absurd alone (finish_ne_sole open' _ found)

/-- What is left of a line that is begun is read among other lines as it is read alone. -/
theorem lexFrom_among {found : LogicalLine} (done : List LogicalLine) (start : LogicalLine) (number : Nat)
    (more : Text) {steps : Nat} {state : LexState} {line : Text} (clean : '\n' ∉ line)
    (begun : state.current.isSome) (first : state.done = [])
    (alone : lexFrom steps state (line ++ ['\n']) = .sole found) {steps' : Nat}
    (enough : line.length + more.length < steps') :
    ∃ steps'', more.length ≤ steps'' ∧
      lexFrom steps' (state.among done start number) (line ++ '\n' :: more) =
        lexFrom steps'' ⟨⟨start.indent, start.tokens.reverse ++ found.tokens.map (Placed.at number),
          number, number⟩ :: done, none, [], number + 1⟩ more := by
  induction steps generalizing state line steps' with
  | zero => exact absurd alone (finish_ne_sole begun _ found)
  | succ steps ih =>
      obtain ⟨steps', rfl⟩ : ∃ fewer, steps' = fewer + 1 := ⟨steps' - 1, by omega⟩
      have begun' : (state.among done start number).current.isSome := by simpa [LexState.among] using begun
      cases line with
      | nil =>
          rw [List.nil_append, lexFrom_cons steps begun, lexWithin_feed] at alone
          rw [List.nil_append, lexFrom_cons steps' begun', lexWithin_feed]
          refine ⟨steps', by simp only [List.length_nil] at enough; omega, ?_⟩
          rw [← breakLine_among begun first ((lexFrom_nil steps _).symm.trans alone)]
      | cons char line =>
          have plain : char ≠ '\n' := fun same => clean (same ▸ .head _)
          have clean' : '\n' ∉ line := fun inside => clean (.tail _ inside)
          rw [List.cons_append, lexFrom_cons steps begun] at alone
          rw [List.cons_append, lexFrom_cons steps' begun']
          by_cases slash : char = '\\' ∧ line = []
          · obtain ⟨rfl, rfl⟩ := slash
            have continued : lexWithin state '\\' ([] ++ ['\n']) = .goOn { state with line := state.line + 1 } [] := by
              unfold lexWithin
              rfl
            rw [continued] at alone
            have open' : ({ state with line := state.line + 1 } : LexState).current.isSome := begun
            exact absurd ((lexFrom_nil steps _).symm.trans alone) (finish_ne_sole open' _ found)
          · cases step : lexWithin state char (line ++ ['\n']) with
            | halt state' ending =>
                obtain rfl := eq_of_lexWithin_halt step
                rw [step] at alone
                exact absurd alone (finish_ne_sole begun ending found)
            | goOn next rest =>
                rw [step] at alone
                obtain ⟨left, rfl, suffix, follows, within⟩ := lexWithin_local plain clean'
                  (fun backslash empty => slash ⟨backslash, empty⟩) step
                have shorter := suffix.length_le
                have same := within done start number more
                change lexWithin _ char (line ++ '\n' :: more) = _ at same
                rw [same]
                exact ih (fun inside => clean' (suffix.subset inside)) (follows.begun.trans begun)
                  (follows.done.trans first) alone (by simp only [List.length_cons] at enough; omega)


/-! ## Whole scripts -/

/-- A text that stands for itself on a line of a script: nothing breaks it, and it starts with no blank. -/
structure Solid (text : Text) : Prop where
  feeds : '\n' ∉ text
  returns : '\r' ∉ text
  starts : ∀ char ∈ text.head?, isBlank char = false

theorem unifyBreaks_cons {char : Char} (plain : char ≠ '\r') (next : Char) (text : Text) :
    unifyBreaks (char :: next :: text) = char :: unifyBreaks (next :: text) := by
  rw [unifyBreaks, if_neg plain]
  · rintro _ rfl
    exact absurd rfl plain
  · intro same
    cases same

theorem unifyBreaks_line {text : Text} (clean : '\r' ∉ text) : unifyBreaks (text ++ ['\n']) = text ++ ['\n'] := by
  induction text with
  | nil => rfl
  | cons char text ih =>
      rw [List.mem_cons, not_or] at clean
      cases text with
      | nil => exact unifyBreaks_cons (Ne.symm clean.1) '\n' []
      | cons next text => exact (unifyBreaks_cons (Ne.symm clean.1) next _).trans (congrArg _ (ih clean.2))

theorem unifyBreaks_of_solid {text : Text} (solid : Solid text) (occupied : text ≠ []) :
    unifyBreaks text = text ++ ['\n'] := by
  obtain ⟨feeds, returns, -⟩ := solid
  induction text with
  | nil => exact absurd rfl occupied
  | cons char text ih =>
      rw [List.mem_cons, not_or] at feeds returns
      cases text with
      | nil => simp [unifyBreaks, Ne.symm feeds.1, Ne.symm returns.1]
      | cons next text =>
          rw [unifyBreaks_cons (Ne.symm returns.1), ih (List.cons_ne_nil _ _) feeds.2 returns.2]
          rfl

theorem measureIndent_spaces (width wide narrow passed : Nat) (text : Text) :
    measureIndent ⟨wide, narrow⟩ 0 passed (List.replicate width ' ' ++ text) =
      measureIndent ⟨wide + width, narrow + width⟩ 0 passed text := by
  induction width generalizing wide narrow with
  | zero => rfl
  | succ width ih =>
      rw [List.replicate_succ, List.cons_append, measureIndent, ih]
      simp only [Nat.add_comm, Nat.add_left_comm]

theorem measureIndent_dense {char : Char} (dense : isBlank char = false) (slash : char ≠ '\\') (indent : Indent)
    (text : Text) : measureIndent indent 0 0 (char :: text) = .ok (indent, char :: text, 0) := by
  have apart (blank : Char) (same : isBlank blank = true) : char ≠ blank := by
    rintro rfl
    rw [same] at dense
    cases dense
  have space := apart ' ' rfl
  have tab := apart '\t' rfl
  have feed := apart '\x0c' rfl
  unfold measureIndent
  split <;> simp_all

/-- The state in which a line has been begun that is indented with a number of spaces. -/
def LexState.begun (done : List LogicalLine) (number width : Nat) : LexState :=
  LexState.beginLine ⟨width, width⟩ ⟨done, none, [], number⟩

/-- A line of spaces and a text is begun where the text starts. -/
theorem lexFrom_start (steps : Nat) (done : List LogicalLine) (number width : Nat) {char : Char} (text : Text)
    (dense : isBlank char = false) (hash : char ≠ '#') (slash : char ≠ '\\') :
    lexFrom (steps + 1) ⟨done, none, [], number⟩ (List.replicate width ' ' ++ char :: text) =
      lexFrom (steps + 1) (.begun done number width) (char :: text) := by
  have measured : measureIndent ⟨0, 0⟩ 0 0 (List.replicate width ' ' ++ char :: text) =
      .ok (⟨width, width⟩, char :: text, 0) := by
    rw [measureIndent_spaces, Nat.zero_add, measureIndent_dense dense slash]
  have feed : char ≠ '\n' := by
    rintro rfl
    cases dense
  have started : lexStart ⟨done, none, [], number⟩ (List.replicate width ' ' ++ char :: text) =
      lexWithin (.begun done number width) char text := by
    unfold lexStart
    rw [measured]
    dsimp only
    split
    · rename_i same
      cases same
    · rename_i same
      exact absurd (List.cons.inj same).1 feed
    · rename_i same
      exact absurd (List.cons.inj same).1 hash
    · rename_i same
      obtain ⟨rfl, rfl⟩ := List.cons.inj same
      rfl
  rw [lexFrom_cons steps rfl, ← started]
  cases width with
  | zero => rfl
  | succ width => rfl

/-- A text alone is read from the beginning of its line on. -/
theorem lexFrom_of_sole {text : Text} (solid : Solid text) {line : LogicalLine}
    (alone : Reading.ofText text = .sole line) :
    ∃ char rest, text = char :: rest ∧ isBlank char = false ∧ char ≠ '#' ∧ char ≠ '\\' ∧ 
      lexFrom (text.length + 2) (.begun [] 1 0) (text ++ ['\n']) = .sole line := by
  cases text with
  | nil => cases alone
  | cons char text =>
      have dense : isBlank char = false := solid.starts char rfl
      have text' : Reading.ofText (char :: text) =
          lexFrom (text.length + 3) ⟨[], none, [], 1⟩ (char :: text ++ ['\n']) := by
        rw [Reading.ofText, unifyBreaks_of_solid solid (List.cons_ne_nil _ _)]
        simp
      rw [text'] at alone
      have hash : char ≠ '#' := by
        rintro rfl
        have comment : lexFrom (text.length + 3) ⟨[], none, [], 1⟩ ('#' :: (text ++ ['\n'])) =
            lexFrom (text.length + 2) ⟨[], none, [], 2⟩ ((text ++ ['\n']).dropWhile (· != '\n')).tail := rfl
        rw [dropWhile_feed (fun inside => solid.feeds (.tail _ inside))] at comment
        rw [List.cons_append, comment] at alone
        cases (lexFrom_nil _ _).symm.trans alone
      have slash : char ≠ '\\' := by
        rintro rfl
        cases text with
        | nil => cases (lexFrom_nil _ _).symm.trans alone
        | cons next text =>
            have plain : next ≠ '\n' := by
              rintro rfl
              exact solid.feeds (.tail _ (.head _))
            have stray : measureIndent ⟨0, 0⟩ 0 0 ('\\' :: next :: (text ++ ['\n'])) = .error 0 := by
              unfold measureIndent
              split <;> simp_all
            have halted : lexStart ⟨[], none, [], 1⟩ ('\\' :: next :: (text ++ ['\n'])) =
                .halt ⟨[], none, [], 1⟩ (.stuck (strayBackslash 1)) := by
              rw [lexStart, stray]
            simp only [List.cons_append, lexFrom, lexStep, Option.isNone_none, if_true, halted] at alone
            cases alone
      refine ⟨char, text, rfl, dense, hash, slash, ?_⟩
      have started := lexFrom_start (text.length + 2) [] 1 0 (text ++ ['\n']) dense hash slash
      rw [List.length_cons, ← alone]
      exact started.symm

/-- A text that starts with no mark of a comment and no backslash is read from the beginning of its line on. -/
theorem ofText_eq_lexFrom {text : Text} (solid : Solid text) (occupied : text ≠ [])
    (starts : ∀ char ∈ text.head?, char ≠ '#' ∧ char ≠ '\\') :
    Reading.ofText text = lexFrom (text.length + 2) (.begun [] 1 0) (text ++ ['\n']) := by
  cases text with
  | nil => exact absurd rfl occupied
  | cons char text =>
      rw [Reading.ofText, unifyBreaks_of_solid solid (List.cons_ne_nil _ _)]
      obtain ⟨hash, slash⟩ := starts char rfl
      have started := lexFrom_start (text.length + 2) [] 1 0 (text ++ ['\n']) (solid.starts char rfl) hash slash
      simp only [List.length_append, List.length_cons, List.length_nil]
      exact started

theorem Solid.append {first second : Text} (solid : Solid first) (occupied : first ≠ []) (feeds : '\n' ∉ second)
    (returns : '\r' ∉ second) : Solid (first ++ second) := by
  refine ⟨?_, ?_, ?_⟩
  · simp [solid.feeds, feeds]
  · simp [solid.returns, returns]
  · rw [List.head?_append_of_ne_nil _ occupied]
    exact solid.starts

/-- A line that is a logical line on its own is the same one among others, up to its number and its indentation. -/
theorem lexFrom_line {text : Text} (solid : Solid text) {line : LogicalLine}
    (alone : Reading.ofText text = .sole line) (done : List LogicalLine) (number width : Nat) (more : Text)
    {steps : Nat} (enough : text.length + more.length < steps) :
    ∃ steps', more.length ≤ steps' ∧
      lexFrom steps ⟨done, none, [], number⟩ (List.replicate width ' ' ++ (text ++ '\n' :: more)) =
        lexFrom steps' ⟨⟨⟨width, width⟩, line.tokens.map (Placed.at number), number, number⟩ :: done,
          none, [], number + 1⟩ more := by
  obtain ⟨char, rest, rfl, dense, hash, slash, begun⟩ := lexFrom_of_sole solid alone
  obtain ⟨steps, rfl⟩ : ∃ fewer, steps = fewer + 1 := ⟨steps - 1, by omega⟩
  rw [List.cons_append, lexFrom_start steps done number width _ dense hash slash]
  exact lexFrom_among done ⟨⟨width, width⟩, [], number, number⟩ number more solid.feeds rfl rfl begun enough

/-- A line of a script before it is written: its indentation and its text. -/
structure ScriptLine where
  width : Nat
  text : Text
  deriving DecidableEq, Repr

/-- A line as it is written. -/
def ScriptLine.written (line : ScriptLine) : Text := List.replicate line.width ' ' ++ line.text ++ ['\n']

/-- Lines that are logical lines of their own, as they are read from a number on. -/
inductive ReadAs : Nat → List ScriptLine → List LogicalLine → Prop where
  | nil (number : Nat) : ReadAs number [] []
  | cons {number width : Nat} {text : Text} {lines : List ScriptLine} {alone : LogicalLine}
      {found : List LogicalLine} (solid : Solid text) (sole : Reading.ofText text = .sole alone)
      (more : ReadAs (number + 1) lines found) :
      ReadAs number (⟨width, text⟩ :: lines)
        (⟨⟨width, width⟩, alone.tokens.map (Placed.at number), number, number⟩ :: found)

theorem lexFrom_lines {number : Nat} {lines : List ScriptLine} {found : List LogicalLine}
    (each : ReadAs number lines found) (done : List LogicalLine) {steps : Nat}
    (enough : (lines.flatMap ScriptLine.written).length ≤ steps) :
    lexFrom steps ⟨done, none, [], number⟩ (lines.flatMap ScriptLine.written) =
      ⟨done.reverse ++ found, none, [], .complete⟩ := by
  induction each generalizing done steps with
  | nil number => simp [lexFrom_nil, LexState.finishAll, LexState.finish, LexState.readLine?]
  | @cons number width text lines alone found solid sole more ih =>
      rw [List.flatMap_cons, ScriptLine.written] at enough ⊢
      simp only [List.append_assoc, List.singleton_append] at enough ⊢
      have enough' : text.length + (lines.flatMap ScriptLine.written).length < steps := by
        simp only [List.length_append, List.length_replicate, List.length_cons] at enough
        omega
      obtain ⟨steps', enough'', read⟩ := lexFrom_line solid sole done number width _ enough'
      rw [read, ih _ enough'']
      simp

theorem ReadAs.length {number : Nat} {lines : List ScriptLine} {found : List LogicalLine}
    (read : ReadAs number lines found) : found.length = lines.length := by
  induction read with
  | nil => rfl
  | cons _ _ _ ih => simp [ih]

theorem ReadAs.append {number : Nat} {first second : List ScriptLine} {found more : List LogicalLine}
    (read : ReadAs number first found) (read' : ReadAs (number + first.length) second more) :
    ReadAs number (first ++ second) (found ++ more) := by
  induction read with
  | nil => exact read'
  | cons solid sole _ ih =>
      refine .cons solid sole (ih ?_)
      simpa [Nat.add_assoc, Nat.add_comm 1] using read'

theorem ReadAs.returns {number : Nat} {lines : List ScriptLine} {found : List LogicalLine}
    (each : ReadAs number lines found) : '\r' ∉ lines.flatMap ScriptLine.written := by
  induction each with
  | nil => simp
  | cons solid _ _ ih => simp [ScriptLine.written, solid.returns, ih]

/-- A script of lines that are logical lines of their own is read as these lines. -/
theorem reading_of_lines {lines : List ScriptLine} {found : List LogicalLine} (each : ReadAs 1 lines found) :
    Reading.ofText (lines.flatMap ScriptLine.written) = ⟨found, none, [], .complete⟩ := by
  have unified : unifyBreaks (lines.flatMap ScriptLine.written) = lines.flatMap ScriptLine.written := by
    have returns := each.returns
    rcases lines.eq_nil_or_concat with rfl | ⟨before, last, rfl⟩
    · rfl
    · rw [List.concat_eq_append, List.flatMap_append, List.flatMap_singleton, ScriptLine.written,
        ← List.append_assoc] at returns ⊢
      exact unifyBreaks_line fun inside => returns (List.mem_append_left _ inside)
  rw [Reading.ofText, unified]
  exact lexFrom_lines each [] (Nat.le_succ _)

end Stencil.Script
