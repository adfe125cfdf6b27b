import Stencil.Proofs.ScriptLines
import Stencil.Script.ReadStmt

/-!
# Expressions and statements on a line

Where the tokens of a line stand decides only the lines that an expression or a statement carries, never how it is
read.
-/

namespace Stencil.Script

/-! ## Words that start no expression -/

/-- Whether no expression starts with the given tokens. -/
structure Barren (tokens : List Placed) : Prop where
  atom : ∀ steps, readAtom steps tokens = none
  minus : atMark "-" tokens = false
  not : atWord "not" tokens = false

namespace Barren

variable {tokens : List Placed} (barren : Barren tokens) (steps : Nat)
include barren

theorem factor : readFactor steps tokens = none := by
  cases steps with
  | zero => rfl
  | succ steps => simp [readFactor, barren.minus, barren.atom]

theorem product : readProduct steps tokens = none := by
  cases steps with
  | zero => rfl
  | succ steps => simp [readProduct, barren.factor]

theorem sum : readSum steps tokens = none := by
  cases steps with
  | zero => rfl
  | succ steps => simp [readSum, barren.product]

theorem comparison : readComparison steps tokens = none := by
  cases steps with
  | zero => rfl
  | succ steps => simp [readComparison, barren.sum]

theorem inversion : readNot steps tokens = none := by
  cases steps with
  | zero => rfl
  | succ steps => simp [readNot, barren.not, barren.comparison]

theorem conjunction : readAnd steps tokens = none := by
  cases steps with
  | zero => rfl
  | succ steps => simp [readAnd, barren.inversion]

theorem disjunction : readOr steps tokens = none := by
  cases steps with
  | zero => rfl
  | succ steps => simp [readOr, barren.conjunction]

theorem expr : readExpr steps tokens = none := by
  cases steps with
  | zero => rfl
  | succ steps => simp [readExpr, barren.disjunction]

theorem exprs : readExprs steps tokens = none := by
  cases steps with
  | zero => rfl
  | succ steps => simp [readExprs, barren.expr]

end Barren

theorem barren_nil : Barren [] := ⟨fun steps => by cases steps <;> rfl, rfl, rfl⟩

/-- A keyword that is no constant and no operator starts no expression. -/
theorem barren_word {word : String} {tokens : List Placed} (start : atWord word tokens) (keyword : isKeyword word)
    (other : word.toList ∉ ["None".toList, "True".toList, "False".toList, "not".toList]) : Barren tokens := by
  obtain ⟨line, depth, rest, rfl⟩ : ∃ line depth rest, tokens = ⟨.word word.toList, line, depth⟩ :: rest := by
    cases tokens with
    | nil => cases start
    | cons placed rest =>
        obtain ⟨token, line, depth⟩ := placed
        cases token with
        | word found => exact ⟨line, depth, rest, by rw [eq_of_beq start]⟩
        | _ => cases start
  simp only [List.mem_cons, List.not_mem_nil, or_false, not_or] at other
  refine ⟨fun steps => ?_, rfl, ?_⟩
  · cases steps with
    | zero => rfl
    | succ steps => simp only [readAtom, if_neg other.1, if_neg other.2.1, if_neg other.2.2.1, keyword, if_true]
  · exact beq_eq_false_iff_ne.mpr other.2.2.2

/-! ## Expressions -/

mutual

/-- The expression with every part on one line. -/
def Expr.at (line : Nat) : Expr → Expr
  | .constant value => .constant value
  | .name _ name => .name line name
  | .tuple items => .tuple (allAt line items)
  | .list items => .list (allAt line items)
  | .dict _ entries => .dict line (entriesAt line entries)
  | .attribute _ object name => .attribute line (object.at line) name
  | .item _ object index => .item line (object.at line) (index.at line)
  | .call _ function arguments => .call line (function.at line) (allAt line arguments)
  | .negate _ operand => .negate line (operand.at line)
  | .binary _ operation left right => .binary line operation (left.at line) (right.at line)
  | .compare _ comparison left right => .compare line comparison (left.at line) (right.at line)
  | .negation operand => .negation (operand.at line)
  | .both left right => .both (left.at line) (right.at line)
  | .either left right => .either (left.at line) (right.at line)
  | .choice test yes no => .choice (test.at line) (yes.at line) (no.at line)

/-- The expressions with every part on one line. -/
def allAt (line : Nat) : List Expr → List Expr
  | [] => []
  | expr :: exprs => expr.at line :: allAt line exprs

/-- The entries with every part on one line. -/
def entriesAt (line : Nat) : List (Expr × Expr) → List (Expr × Expr)
  | [] => []
  | (key, value) :: entries => (key.at line, value.at line) :: entriesAt line entries

end

/-- What was read, and the tokens after it, on one line. -/
def Found.at {α : Type} (move : α → α) (line : Nat) (found : Found α) : Found α :=
  (move found.1, found.2.map (Placed.at line))

section Tokens

variable (line : Nat) (tokens : List Placed)

@[simp] theorem token_at (placed : Placed) : (placed.at line).token = placed.token := rfl

@[simp] theorem atWord_at (word : String) : atWord word (tokens.map (Placed.at line)) = atWord word tokens := by
  cases tokens with
  | nil => rfl
  | cons placed tokens => cases placed with | mk token _ _ => cases token <;> rfl

@[simp] theorem atMark_at (mark : String) : atMark mark (tokens.map (Placed.at line)) = atMark mark tokens := by
  cases tokens with
  | nil => rfl
  | cons placed tokens => cases placed with | mk token _ _ => cases token <;> rfl

@[simp] theorem tail_at : (tokens.map (Placed.at line)).tail = tokens.tail.map (Placed.at line) := List.map_tail.symm

theorem expectWord_at (word : String) :
    expectWord word (tokens.map (Placed.at line)) = (expectWord word tokens).map (Found.at id line) := by
  simp only [expectWord, atWord_at, tail_at]
  split <;> rfl

theorem expectMark_at (mark : String) :
    expectMark mark (tokens.map (Placed.at line)) = (expectMark mark tokens).map (Found.at id line) := by
  simp only [expectMark, atMark_at, tail_at]
  split <;> rfl

theorem readName_at : readName (tokens.map (Placed.at line)) = (readName tokens).map (Found.at id line) := by
  cases tokens with
  | nil => rfl
  | cons placed tokens =>
      cases placed with
      | mk token _ _ =>
          cases token with
          | word word =>
              simp only [List.map_cons, Placed.at, readName]
              split <;> rfl
          | _ => rfl

theorem lineOf_at (occupied : tokens ≠ []) : lineOf (tokens.map (Placed.at line)) = line := by
  cases tokens with
  | nil => exact absurd rfl occupied
  | cons placed tokens => rfl

theorem comparison?_at : comparison? (tokens.map (Placed.at line)) =
    (comparison? tokens).map fun (comparison, rest) => (comparison, rest.map (Placed.at line)) := by
  simp only [comparison?, atMark_at, atWord_at, tail_at]
  repeat' split
  all_goals rfl

theorem sumOperation?_at : sumOperation? (tokens.map (Placed.at line)) = sumOperation? tokens := by
  simp only [sumOperation?, atMark_at]

theorem productOperation?_at : productOperation? (tokens.map (Placed.at line)) = productOperation? tokens := by
  simp only [productOperation?, atMark_at]

theorem readStrings_at : readStrings (tokens.map (Placed.at line)) =
    ((readStrings tokens).1, (readStrings tokens).2.map (Placed.at line)) := by
  induction tokens with
  | nil => rfl
  | cons placed tokens ih =>
      cases placed with
      | mk token _ _ =>
          cases token with
          | string value => simp only [List.map_cons, Placed.at, readStrings, ih]
          | _ => rfl

end Tokens

theorem bind_moved {α β : Type} {read read' : Option α} {move : α → α} {move' : β → β}
    {next next' : α → Option β} (first : read' = read.map move)
    (second : ∀ found, next' (move found) = (next found).map move') :
    read'.bind next' = (read.bind next).map move' := by
  rw [first]
  cases read with
  | none => rfl
  | some found => exact second found

/-- A reader of tokens that reads the same on every line. -/
def Anywhere {α : Type} (move : Nat → α → α) (read : List Placed → Option (Found α)) : Prop :=
  ∀ line tokens, read (tokens.map (Placed.at line)) = (read tokens).map (Found.at (move line) line)

/-- A reader of what follows an operand that reads the same on every line. -/
def TailAnywhere (read : Nat → Expr → List Placed → Option (Found Expr)) : Prop :=
  ∀ line first left tokens, read line (left.at line) (tokens.map (Placed.at line)) =
    (read first left tokens).map (Found.at (Expr.at line) line)

/-- The readers of expressions, with a bound on their steps, read the same on every line. -/
structure ReadAnywhere (steps : Nat) : Prop where
  expr : Anywhere Expr.at (readExpr steps)
  or : Anywhere Expr.at (readOr steps)
  and : Anywhere Expr.at (readAnd steps)
  not : Anywhere Expr.at (readNot steps)
  comparison : Anywhere Expr.at (readComparison steps)
  sum : Anywhere Expr.at (readSum steps)
  sumTail : TailAnywhere fun line left => readSumTail line left steps
  product : Anywhere Expr.at (readProduct steps)
  productTail : TailAnywhere fun line left => readProductTail line left steps
  factor : Anywhere Expr.at (readFactor steps)
  trailers : TailAnywhere fun line object => readTrailers line object steps
  items : ∀ closer, Anywhere allAt (readItems closer steps)
  entries : Anywhere entriesAt (readEntries steps)
  exprs : Anywhere Expr.at (readExprs steps)
  more : Anywhere allAt (readMore steps)
  atom : Anywhere Expr.at (readAtom steps)

theorem readExpr_anywhere {steps : Nat} (ih : ReadAnywhere steps) : Anywhere Expr.at (readExpr (steps + 1)) := by
  intro line tokens
  refine bind_moved (ih.or line tokens) fun (value, rest) => ?_
  simp only [Found.at, atWord_at, tail_at]
  split
  · refine bind_moved (ih.or line rest.tail) fun (test, rest) => ?_
    refine bind_moved (expectWord_at line rest "else") fun (_, rest) => ?_
    exact bind_moved (ih.expr line rest) fun (other, rest) => rfl
  · rfl

theorem readOr_anywhere {steps : Nat} (ih : ReadAnywhere steps) : Anywhere Expr.at (readOr (steps + 1)) := by
  intro line tokens
  refine bind_moved (ih.and line tokens) fun (left, rest) => ?_
  simp only [Found.at, atWord_at, tail_at]
  split
  · exact bind_moved (ih.or line rest.tail) fun (right, rest) => rfl
  · rfl

theorem readAnd_anywhere {steps : Nat} (ih : ReadAnywhere steps) : Anywhere Expr.at (readAnd (steps + 1)) := by
  intro line tokens
  refine bind_moved (ih.not line tokens) fun (left, rest) => ?_
  simp only [Found.at, atWord_at, tail_at]
  split
  · exact bind_moved (ih.and line rest.tail) fun (right, rest) => rfl
  · rfl

theorem readNot_anywhere {steps : Nat} (ih : ReadAnywhere steps) : Anywhere Expr.at (readNot (steps + 1)) := by
  intro line tokens
  simp only [readNot, atWord_at, tail_at]
  split
  · exact bind_moved (ih.not line tokens.tail) fun (operand, rest) => rfl
  · exact ih.comparison line tokens

theorem readComparison_anywhere {steps : Nat} (ih : ReadAnywhere steps) :
    Anywhere Expr.at (readComparison (steps + 1)) := by
  intro line tokens
  by_cases empty : tokens = []
  · simp [empty, readComparison, barren_nil.sum]
  · refine bind_moved (ih.sum line tokens) fun (left, rest) => ?_
    simp only [Found.at, comparison?_at]
    cases comparison? rest with
    | none => rfl
    | some found =>
        rw [lineOf_at line tokens empty]
        exact bind_moved (ih.sum line found.2) fun (right, rest) => rfl

theorem readSum_anywhere {steps : Nat} (ih : ReadAnywhere steps) : Anywhere Expr.at (readSum (steps + 1)) := by
  intro line tokens
  by_cases empty : tokens = []
  · simp [empty, readSum, barren_nil.product]
  · refine bind_moved (ih.product line tokens) fun (left, rest) => ?_
    rw [lineOf_at line tokens empty]
    exact ih.sumTail line (lineOf tokens) left rest

theorem readSumTail_anywhere {steps : Nat} (ih : ReadAnywhere steps) :
    TailAnywhere fun line left => readSumTail line left (steps + 1) := by
  intro line first left tokens
  simp only [readSumTail, sumOperation?_at, tail_at]
  cases sumOperation? tokens with
  | none => rfl
  | some operation =>
      refine bind_moved (ih.product line tokens.tail) fun (right, rest) => ?_
      exact ih.sumTail line first (.binary first operation left right) rest

theorem readProduct_anywhere {steps : Nat} (ih : ReadAnywhere steps) :
    Anywhere Expr.at (readProduct (steps + 1)) := by
  intro line tokens
  by_cases empty : tokens = []
  · simp [empty, readProduct, barren_nil.factor]
  · refine bind_moved (ih.factor line tokens) fun (left, rest) => ?_
    rw [lineOf_at line tokens empty]
    exact ih.productTail line (lineOf tokens) left rest

theorem readProductTail_anywhere {steps : Nat} (ih : ReadAnywhere steps) :
    TailAnywhere fun line left => readProductTail line left (steps + 1) := by
  intro line first left tokens
  simp only [readProductTail, productOperation?_at, tail_at]
  cases productOperation? tokens with
  | none => rfl
  | some operation =>
      refine bind_moved (ih.factor line tokens.tail) fun (right, rest) => ?_
      exact ih.productTail line first (.binary first operation left right) rest

theorem readFactor_anywhere {steps : Nat} (ih : ReadAnywhere steps) :
    Anywhere Expr.at (readFactor (steps + 1)) := by
  intro line tokens
  by_cases empty : tokens = []
  · simp [empty, barren_nil.factor]
  · simp only [readFactor, atMark_at, tail_at, lineOf_at line tokens empty]
    split
    · exact bind_moved (ih.factor line tokens.tail) fun (operand, rest) => rfl
    · refine bind_moved (ih.atom line tokens) fun (object, rest) => ?_
      exact ih.trailers line (lineOf tokens) object rest

theorem readTrailers_anywhere {steps : Nat} (ih : ReadAnywhere steps) :
    TailAnywhere fun line object => readTrailers line object (steps + 1) := by
  intro line first object tokens
  simp only [readTrailers, atMark_at, tail_at]
  split
  · by_cases empty : tokens.tail = []
    · simp [empty, readName]
    · rw [lineOf_at line _ empty]
      refine bind_moved (readName_at line tokens.tail) fun (name, rest) => ?_
      exact ih.trailers line first (.attribute (lineOf tokens.tail) object name) rest
  split
  · refine bind_moved (ih.exprs line tokens.tail) fun (index, rest) => ?_
    refine bind_moved (expectMark_at line rest "]") fun (_, rest) => ?_
    exact ih.trailers line first (.item first object index) rest
  split
  · refine bind_moved (ih.items ")" line tokens.tail) fun (arguments, rest) => ?_
    cases object <;> exact ih.trailers line first (.call _ _ arguments) rest
  · rfl

theorem readItems_anywhere {steps : Nat} (ih : ReadAnywhere steps) (closer : String) :
    Anywhere allAt (readItems closer (steps + 1)) := by
  intro line tokens
  simp only [readItems, atMark_at, tail_at]
  split
  · rfl
  · refine bind_moved (ih.expr line tokens) fun (item, rest) => ?_
    simp only [Found.at, atMark_at, tail_at]
    split
    · exact bind_moved (ih.items closer line rest.tail) fun (items, rest) => rfl
    · exact bind_moved (expectMark_at line rest closer) fun (_, rest) => rfl

theorem readEntries_anywhere {steps : Nat} (ih : ReadAnywhere steps) :
    Anywhere entriesAt (readEntries (steps + 1)) := by
  intro line tokens
  simp only [readEntries, atMark_at, tail_at]
  split
  · rfl
  · refine bind_moved (ih.expr line tokens) fun (key, rest) => ?_
    refine bind_moved (expectMark_at line rest ":") fun (_, rest) => ?_
    refine bind_moved (ih.expr line rest) fun (value, rest) => ?_
    simp only [Found.at, atMark_at, tail_at]
    split
    · exact bind_moved (ih.entries line rest.tail) fun (entries, rest) => rfl
    · exact bind_moved (expectMark_at line rest "\x7d") fun (_, rest) => rfl

theorem readExprs_anywhere {steps : Nat} (ih : ReadAnywhere steps) :
    Anywhere Expr.at (readExprs (steps + 1)) := by
  intro line tokens
  refine bind_moved (ih.expr line tokens) fun (first, rest) => ?_
  simp only [Found.at, atMark_at]
  split
  · exact bind_moved (ih.more line rest) fun (others, rest) => rfl
  · rfl

theorem readMore_anywhere {steps : Nat} (ih : ReadAnywhere steps) : Anywhere allAt (readMore (steps + 1)) := by
  intro line tokens
  simp only [readMore, atMark_at, tail_at, ih.expr line tokens.tail]
  split
  · cases readExpr steps tokens.tail with
    | none => rfl
    | some found => exact bind_moved (ih.more line found.2) fun (items, rest) => rfl
  · rfl

theorem readAtom_anywhere {steps : Nat} (ih : ReadAnywhere steps) : Anywhere Expr.at (readAtom (steps + 1)) := by
  intro line tokens
  cases tokens with
  | nil => rfl
  | cons placed rest =>
      obtain ⟨token, place, depth⟩ := placed
      cases token with
      | string value =>
          have strings := readStrings_at line (⟨.string value, place, depth⟩ :: rest)
          simp only [List.map_cons, Placed.at] at strings
          simp only [List.map_cons, Placed.at, readAtom, strings]
          rfl
      | word word =>
          simp only [List.map_cons, Placed.at, readAtom]
          repeat' split
          all_goals rfl
      | mark mark =>
          simp only [List.map_cons, Placed.at, readAtom, atMark_at, tail_at]
          split
          · split
            · rfl
            · refine bind_moved (ih.exprs line rest) fun found => ?_
              exact bind_moved (expectMark_at line found.2 ")") fun _ => rfl
          split
          · exact bind_moved (ih.items "]" line rest) fun _ => rfl
          split
          · exact bind_moved (ih.entries line rest) fun _ => rfl
          · rfl
      | _ => rfl

theorem readAnywhere (steps : Nat) : ReadAnywhere steps := by
  induction steps with
  | zero =>
      constructor
      all_goals first | exact fun _ _ => rfl | exact fun _ _ _ => rfl | exact fun _ _ _ _ => rfl
  | succ steps ih => exact
      { expr := readExpr_anywhere ih
        or := readOr_anywhere ih
        and := readAnd_anywhere ih
        not := readNot_anywhere ih
        comparison := readComparison_anywhere ih
        sum := readSum_anywhere ih
        sumTail := readSumTail_anywhere ih
        product := readProduct_anywhere ih
        productTail := readProductTail_anywhere ih
        factor := readFactor_anywhere ih
        trailers := readTrailers_anywhere ih
        items := readItems_anywhere ih
        entries := readEntries_anywhere ih
        exprs := readExprs_anywhere ih
        more := readMore_anywhere ih
        atom := readAtom_anywhere ih }

theorem stepsFor_at (line : Nat) (tokens : List Placed) : stepsFor (tokens.map (Placed.at line)) = stepsFor tokens := by
  simp [stepsFor]

theorem readValue_anywhere : Anywhere Expr.at readValue := by
  intro line tokens
  rw [readValue, stepsFor_at]
  exact (readAnywhere _).exprs line tokens

theorem readSingle_anywhere : Anywhere Expr.at readSingle := by
  intro line tokens
  rw [readSingle, stepsFor_at]
  exact (readAnywhere _).expr line tokens

mutual

/-- The target with every part on one line. -/
def Target.at (line : Nat) : Target → Target
  | .name name => .name name
  | .tuple items => .tuple (targetsAt line items)
  | .attribute _ object name => .attribute line (object.at line) name
  | .item _ object index => .item line (object.at line) (index.at line)

/-- The targets with every part on one line. -/
def targetsAt (line : Nat) : List Target → List Target
  | [] => []
  | target :: targets => target.at line :: targetsAt line targets

end

theorem targetsAt_append (line : Nat) (first second : List Target) :
    targetsAt line (first ++ second) = targetsAt line first ++ targetsAt line second := by
  induction first with
  | nil => rfl
  | cons target first ih => rw [List.cons_append, targetsAt, targetsAt, ih, List.cons_append]

theorem isEmpty_targetsAt (line : Nat) (targets : List Target) :
    (targetsAt line targets).isEmpty = targets.isEmpty := by
  cases targets <;> rfl

/-- A simple statement with every part on one line. -/
def Stmt.at (line : Nat) : Stmt → Stmt
  | .evaluate _ value => .evaluate line (value.at line)
  | .assign _ targets value => .assign line (targetsAt line targets) (value.at line)
  | .update _ target operation value => .update line (target.at line) operation (value.at line)
  | .spread _ => .spread line
  | .leaveLoop _ => .leaveLoop line
  | .nextRound _ => .nextRound line
  | .giveBack _ value => .giveBack line (value.map (Expr.at line))
  | .fail _ error => .fail line (error.map (Expr.at line))
  | other => other

mutual

theorem targetOf?_at (line : Nat) (value : Expr) :
    targetOf? (value.at line) = (targetOf? value).map (Target.at line) := by
  cases value with
  | tuple items =>
      rw [Expr.at, targetOf?, targetOf?, targetsOf?_at line items, Option.map_map, Option.map_map]
      rfl
  | list items =>
      rw [Expr.at, targetOf?, targetOf?, targetsOf?_at line items, Option.map_map, Option.map_map]
      rfl
  | _ => rfl

theorem targetsOf?_at (line : Nat) (items : List Expr) :
    targetOf?.targetsOf? (allAt line items) = (targetOf?.targetsOf? items).map (targetsAt line) := by
  cases items with
  | nil => rfl
  | cons item items =>
      refine bind_moved (targetOf?_at line item) fun target => ?_
      exact bind_moved (targetsOf?_at line items) fun targets => rfl

end

theorem singleTargetOf?_at (line : Nat) (value : Expr) :
    singleTargetOf? (value.at line) = (singleTargetOf? value).map (Target.at line) := by
  simp only [singleTargetOf?, targetOf?_at]
  cases targetOf? value with
  | none => rfl
  | some target => cases target <;> rfl

section Tokens

variable (line : Nat) (tokens : List Placed)

@[simp] theorem updateOperation?_at : updateOperation? (tokens.map (Placed.at line)) = updateOperation? tokens := by
  simp only [updateOperation?, atMark_at]

@[simp] theorem atEnd_at : atEnd (tokens.map (Placed.at line)) = atEnd tokens := by
  simp [atEnd, atMark_at]

end Tokens

theorem readSpread_anywhere : Anywhere Stmt.at readSpread := by
  intro line tokens
  by_cases empty : tokens = []
  · simp [empty, readSpread, barren_nil.sum]
  · simp only [readSpread, stepsFor_at, tail_at, lineOf_at line tokens empty]
    refine bind_moved ((readAnywhere _).sum line tokens.tail) fun (operand, rest) => ?_
    simp only [Found.at, atEnd_at]
    split <;> rfl

theorem readAssignment_at (line first : Nat) (targets : List Target) (value : Expr) (steps : Nat)
    (tokens : List Placed) :
    readAssignment line (targetsAt line targets) (value.at line) steps (tokens.map (Placed.at line)) =
      (readAssignment first targets value steps tokens).map (Found.at (Stmt.at line) line) := by
  induction steps generalizing targets value tokens with
  | zero => rfl
  | succ steps ih =>
      simp only [readAssignment, atMark_at, tail_at]
      split
      · exact readSpread_anywhere line tokens.tail
      split
      · refine bind_moved (targetOf?_at line value) fun target => ?_
        refine bind_moved (readValue_anywhere line tokens.tail) fun (next, rest) => ?_
        have more := ih (targets ++ [target]) next rest
        rw [targetsAt_append] at more
        exact more
      · rw [isEmpty_targetsAt]
        cases targets <;> rfl

theorem readSimple_anywhere : Anywhere Stmt.at readSimple := by
  intro line tokens
  by_cases empty : tokens = []
  · rw [empty]
    rfl
  · simp only [readSimple, atWord_at, atMark_at, atEnd_at, tail_at, lineOf_at line tokens empty]
    split
    · rfl
    split
    · rfl
    split
    · rfl
    split
    · split
      · rfl
      split
      · exact readSpread_anywhere line tokens.tail
      · exact bind_moved (readValue_anywhere line tokens.tail) fun (value, rest) => rfl
    split
    · split
      · rfl
      · exact bind_moved (readSingle_anywhere line tokens.tail) fun (error, rest) => rfl
    split
    · exact readSpread_anywhere line tokens
    · refine bind_moved (readValue_anywhere line tokens) fun (value, rest) => ?_
      simp only [Found.at, updateOperation?_at, atMark_at, tail_at, List.length_map]
      cases updateOperation? rest with
      | none => exact readAssignment_at line (lineOf tokens) [] value _ rest
      | some operation =>
          refine bind_moved (singleTargetOf?_at line value) fun target => ?_
          split
          · exact readSpread_anywhere line rest.tail
          · exact bind_moved (readValue_anywhere line rest.tail) fun (operand, rest) => rfl

theorem readSimples_at (line steps : Nat) (tokens : List Placed) :
    readSimples steps (tokens.map (Placed.at line)) = (readSimples steps tokens).map (List.map (Stmt.at line)) := by
  induction steps generalizing tokens with
  | zero => rfl
  | succ steps ih =>
      refine bind_moved (readSimple_anywhere line tokens) fun (statement, rest) => ?_
      simp only [Found.at, List.isEmpty_map, atMark_at, tail_at]
      split
      · rfl
      split
      · split
        · rfl
        · exact bind_moved (ih rest.tail) fun statements => rfl
      · rfl

theorem readLine_at (line : Nat) (tokens : List Placed) :
    readLine (tokens.map (Placed.at line)) = (readLine tokens).map (List.map (Stmt.at line)) := by
  rw [readLine, List.length_map]
  exact readSimples_at line _ tokens

/-! ## Heads -/

theorem readTargets_at (line steps : Nat) (tokens : List Placed) :
    readTargets steps (tokens.map (Placed.at line)) =
      (readTargets steps tokens).map (Found.at (fun found => (targetsAt line found.1, found.2)) line) := by
  induction steps generalizing tokens with
  | zero => rfl
  | succ steps ih =>
      rw [readTargets, stepsFor_at]
      refine bind_moved ((readAnywhere _).factor line tokens) fun (first, rest) => ?_
      refine bind_moved (targetOf?_at line first) fun target => ?_
      simp only [atMark_at, atWord_at, tail_at]
      split
      · split
        · rfl
        · exact bind_moved (ih rest.tail) fun ((targets, _), rest) => rfl
      · rfl

theorem readLoopTarget_anywhere : Anywhere Target.at readLoopTarget := by
  intro line tokens
  rw [readLoopTarget, List.length_map]
  refine bind_moved (readTargets_at line _ tokens) fun ((targets, comma), rest) => ?_
  match targets, comma with
  | [], _ => rfl
  | [target], true => rfl
  | [target], false => rfl
  | first :: second :: targets, _ => rfl

/-- The parameter on a given line. -/
def Parameter.at (line : Nat) (parameter : Parameter) : Parameter := { parameter with line := line }

theorem readParameters_at (line steps : Nat) (tokens : List Placed) :
    readParameters steps (tokens.map (Placed.at line)) =
      (readParameters steps tokens).map (Found.at (List.map (Parameter.at line)) line) := by
  induction steps generalizing tokens with
  | zero => rfl
  | succ steps ih =>
      by_cases empty : tokens = []
      · rw [empty]
        rfl
      · simp only [readParameters, atMark_at, tail_at, lineOf_at line tokens empty]
        split
        · rfl
        · refine bind_moved (readName_at line tokens) fun (name, rest) => ?_
          simp only [Found.at, atMark_at, tail_at]
          split
          · exact bind_moved (ih rest.tail) fun (parameters, rest) => rfl
          · exact bind_moved (expectMark_at line rest ")") fun (_, rest) => rfl

/-- The head with every part on one line. -/
def Head.at (line : Nat) : Head → Head
  | .branch test => .branch (test.at line)
  | .loop test => .loop (test.at line)
  | .each target source => .each (target.at line) (source.at line)
  | .define name parameters => .define name (parameters.map (Parameter.at line))
  | .attempt => .attempt

theorem readHead?_at (line : Nat) (tokens : List Placed) :
    readHead? (tokens.map (Placed.at line)) =
      (readHead? tokens).map (Option.map (Found.at (Head.at line) line)) := by
  have closed (head : Head) (rest : List Placed) :
      ((expectMark ":" (rest.map (Placed.at line))).bind fun found => some (head.at line, found.2)) =
        ((expectMark ":" rest).bind fun found => some (head, found.2)).map (Found.at (Head.at line) line) :=
    bind_moved (expectMark_at line rest ":") fun (_, rest) => rfl
  simp only [readHead?, atWord_at, tail_at]
  split
  · exact congrArg some <| bind_moved (readSingle_anywhere line tokens.tail) fun (test, rest) =>
      closed (.branch test) rest
  split
  · exact congrArg some <| bind_moved (readSingle_anywhere line tokens.tail) fun (test, rest) =>
      closed (.loop test) rest
  split
  · refine congrArg some <| bind_moved (readLoopTarget_anywhere line tokens.tail) fun (target, rest) => ?_
    refine bind_moved (expectWord_at line rest "in") fun (_, rest) => ?_
    exact bind_moved (readValue_anywhere line rest) fun (source, rest) => closed (.each target source) rest
  split
  · refine congrArg some <| bind_moved (readName_at line tokens.tail) fun (name, rest) => ?_
    refine bind_moved (expectMark_at line rest "(") fun (_, rest) => ?_
    simp only [Found.at, List.length_map]
    exact bind_moved (readParameters_at line _ rest) fun (parameters, rest) => closed (.define name parameters) rest
  split
  · exact congrArg some (closed .attempt tokens.tail)
  · rfl

theorem readSubject?_at (line : Nat) (tokens : List Placed) :
    readSubject? (tokens.map (Placed.at line)) = (readSubject? tokens).map (Expr.at line) := by
  simp only [readSubject?, atWord_at, tail_at]
  split
  · refine bind_moved (readValue_anywhere line tokens.tail) fun (subject, rest) => ?_
    refine bind_moved (expectMark_at line rest ":") fun (_, rest) => ?_
    simp only [Found.at, List.isEmpty_map]
    split <;> rfl
  · rfl

end Stencil.Script
