import Stencil.Proofs.Recoding
import Stencil.Script.ReadStmt

/-!
# The names that tokens speak of

Whatever is read from tokens mentions no name that the tokens do not speak of.  A word behind a point is the name of an
attribute and does not count.
-/

namespace Stencil.Script

/-! ## Tokens -/

/-- The names and words among tokens; `pointed` says whether a point stands in front of the first one. -/
def spoken (pointed : Bool) : List Placed → List Text
  | [] => []
  | placed :: tokens =>
    (match placed.token with
      | .word text | .name text => if pointed then [] else [text]
      | _ => []) ++ spoken (placed.token == .mark ['.']) tokens

/-- Whether tokens speak of no name that is hidden. -/
def Allowed (reticence : Reticence) (tokens : List Placed) : Prop := reticence.Spares (spoken false tokens)

section Allowed

variable {reticence : Reticence} {tokens rest : List Placed} {text : Text}

theorem spares_append {names more : List Text} (spares : reticence.Spares (names ++ more)) :
    reticence.Spares names ∧ reticence.Spares more :=
  List.forall_mem_append.mp spares

theorem Allowed.behind {placed : Placed} (allowed : Allowed reticence (placed :: tokens))
    (other : placed.token ≠ .mark ['.']) : Allowed reticence tokens := by
  have behind := (spares_append allowed).2
  rwa [beq_eq_false_iff_ne.mpr other] at behind

theorem Allowed.word {word : String} (allowed : Allowed reticence tokens) (start : atWord word tokens) :
    Allowed reticence tokens.tail := by
  cases tokens with
  | nil => exact allowed
  | cons placed tokens =>
      obtain ⟨token, line, depth⟩ := placed
      refine allowed.behind fun same => ?_
      obtain rfl : token = .mark ['.'] := same
      cases start

theorem Allowed.mark {mark : String} (allowed : Allowed reticence tokens) (start : atMark mark tokens)
    (other : mark.toList ≠ ['.']) : Allowed reticence tokens.tail := by
  cases tokens with
  | nil => exact allowed
  | cons placed tokens =>
      obtain ⟨token, line, depth⟩ := placed
      refine allowed.behind fun same => other ?_
      obtain rfl : token = .mark ['.'] := same
      exact (eq_of_beq start).symm

theorem Allowed.expectedWord {word : String} (allowed : Allowed reticence tokens) {found : Unit}
    (read : expectWord word tokens = some (found, rest)) : Allowed reticence rest := by
  unfold expectWord at read
  split at read
  · rename_i start
    cases read
    exact allowed.word start
  · cases read

theorem Allowed.expectedMark {mark : String} (allowed : Allowed reticence tokens) {found : Unit}
    (read : expectMark mark tokens = some (found, rest)) (other : mark.toList ≠ ['.']) : Allowed reticence rest := by
  unfold expectMark at read
  split at read
  · rename_i start
    cases read
    exact allowed.mark start other
  · cases read

/-- A name that is read is spoken of, unless a point stands in front of it. -/
theorem spoken_readName {pointed : Bool} (spares : reticence.Spares (spoken pointed tokens))
    (read : readName tokens = some (text, rest)) :
    (pointed = false → ¬ reticence.hidden text) ∧ Allowed reticence rest := by
  have split (spares : reticence.Spares ((if pointed then [] else [text]) ++ spoken false rest)) :
      (pointed = false → ¬ reticence.hidden text) ∧ Allowed reticence rest := by
    obtain ⟨first, behind⟩ := spares_append spares
    refine ⟨fun plain => ?_, behind⟩
    rw [plain] at first
    exact first text (List.mem_singleton_self text)
  unfold readName at read
  split at read
  · split at read
    · cases read
    · cases read
      exact split spares
  · cases read
    exact split spares
  · cases read

theorem Allowed.name (allowed : Allowed reticence tokens) (read : readName tokens = some (text, rest)) :
    ¬ reticence.hidden text ∧ Allowed reticence rest :=
  (spoken_readName allowed read).imp_left fun plain => plain rfl

/-- The name of an attribute does not count. -/
theorem Allowed.attribute (allowed : Allowed reticence tokens) (start : atMark "." tokens)
    (read : readName tokens.tail = some (text, rest)) : Allowed reticence rest := by
  cases tokens with
  | nil => cases start
  | cons placed tokens => exact (spoken_readName (spares_append allowed).2 read).2

theorem Allowed.comparison {comparison : Comparison} (allowed : Allowed reticence tokens)
    (read : comparison? tokens = some (comparison, rest)) : Allowed reticence rest := by
  unfold comparison? at read
  repeat' split at read
  all_goals cases read
  any_goals
    rename_i start
    exact allowed.mark start (by decide)
  any_goals
    rename_i start
    exact allowed.word start
  · rename_i both
    rw [Bool.and_eq_true] at both
    exact (allowed.word both.1).word both.2
  · rename_i first second
    exact (allowed.word first).word second
  · rename_i first _
    exact allowed.word first

theorem Allowed.sumOperation {operation : BinaryOp} (allowed : Allowed reticence tokens)
    (read : sumOperation? tokens = some operation) : Allowed reticence tokens.tail := by
  unfold sumOperation? at read
  split at read
  · rename_i start
    exact allowed.mark start (by decide)
  split at read
  · rename_i start
    exact allowed.mark start (by decide)
  · cases read

theorem Allowed.productOperation {operation : BinaryOp} (allowed : Allowed reticence tokens)
    (read : productOperation? tokens = some operation) : Allowed reticence tokens.tail := by
  unfold productOperation? at read
  split at read
  · rename_i start
    exact allowed.mark start (by decide)
  split at read
  · rename_i start
    exact allowed.mark start (by decide)
  split at read
  · rename_i start
    exact allowed.mark start (by decide)
  · cases read

theorem Allowed.strings (allowed : Allowed reticence tokens) : Allowed reticence (readStrings tokens).2 := by
  induction tokens with
  | nil => exact allowed
  | cons placed tokens ih =>
      obtain ⟨token, line, depth⟩ := placed
      cases token with
      | string value => exact ih (allowed.behind nofun)
      | _ => exact allowed

end Allowed

/-! ## Expressions -/

section Readers

variable {reticence : Reticence}

theorem discreet_nil : reticence.Discreet [] := List.forall_mem_nil _

theorem discreet_append {mentions more : List Mention} (first : reticence.Discreet mentions)
    (second : reticence.Discreet more) : reticence.Discreet (mentions ++ more) :=
  List.forall_mem_append.mpr ⟨first, second⟩

theorem discreet_cons {mention : Mention} {mentions : List Mention}
    (first : match mention with | .name name => ¬ reticence.hidden name | .attribute name => ¬ reticence.unread name)
    (rest : reticence.Discreet mentions) : reticence.Discreet (mention :: mentions) :=
  List.forall_mem_cons.mpr ⟨first, rest⟩

/-- Whether a reader finds nothing that mentions more than the tokens speak of, and leaves tokens behind a whole piece. -/
def Sober {α : Type} (reticence : Reticence) (mentions : α → List Mention) (read : List Placed → Option (Found α)) : Prop :=
  ∀ ⦃tokens found rest⦄, Allowed reticence tokens → read tokens = some (found, rest) →
    reticence.Discreet (mentions found) ∧ Allowed reticence rest

/-- A reader of what follows an operand. -/
def SoberBehind (reticence : Reticence) (read : Expr → List Placed → Option (Found Expr)) : Prop :=
  ∀ ⦃left⦄, reticence.Discreet left.mentions → Sober reticence Expr.mentions (read left)

/-- The readers of expressions, with a bound on their steps, find nothing that mentions more than the tokens speak of. -/
structure ReadSober (reticence : Reticence) (steps : Nat) : Prop where
  expr : Sober reticence Expr.mentions (readExpr steps)
  or : Sober reticence Expr.mentions (readOr steps)
  and : Sober reticence Expr.mentions (readAnd steps)
  not : Sober reticence Expr.mentions (readNot steps)
  comparison : Sober reticence Expr.mentions (readComparison steps)
  sum : Sober reticence Expr.mentions (readSum steps)
  sumTail : ∀ line, SoberBehind reticence fun left => readSumTail line left steps
  product : Sober reticence Expr.mentions (readProduct steps)
  productTail : ∀ line, SoberBehind reticence fun left => readProductTail line left steps
  factor : Sober reticence Expr.mentions (readFactor steps)
  trailers : ∀ line, SoberBehind reticence fun object => readTrailers line object steps
  items : ∀ closer : String, closer.toList ≠ ['.'] → Sober reticence mentionsAmong (readItems closer steps)
  entries : Sober reticence mentionsOfEntries (readEntries steps)
  exprs : Sober reticence Expr.mentions (readExprs steps)
  more : Sober reticence mentionsAmong (readMore steps)
  atom : Sober reticence Expr.mentions (readAtom steps)

variable {steps : Nat} (ih : ReadSober reticence steps)
include ih

theorem sober_readExpr : Sober reticence Expr.mentions (readExpr (steps + 1)) := by
  intro tokens found rest allowed read
  obtain ⟨⟨value, behind⟩, first, read⟩ := Option.bind_eq_some_iff.mp read
  obtain ⟨discreet, allowed⟩ := ih.or allowed first
  dsimp only at read
  split at read
  · rename_i start
    obtain ⟨⟨test, behind⟩, second, read⟩ := Option.bind_eq_some_iff.mp read
    obtain ⟨tested, allowed⟩ := ih.or (allowed.word start) second
    obtain ⟨⟨_, behind⟩, word, read⟩ := Option.bind_eq_some_iff.mp read
    obtain ⟨⟨other, behind⟩, third, read⟩ := Option.bind_eq_some_iff.mp read
    obtain ⟨otherwise, allowed⟩ := ih.expr (allowed.expectedWord word) third
    cases read
    exact ⟨discreet_append tested (discreet_append discreet otherwise), allowed⟩
  · cases read
    exact ⟨discreet, allowed⟩

theorem sober_readOr : Sober reticence Expr.mentions (readOr (steps + 1)) := by
  intro tokens found rest allowed read
  obtain ⟨⟨left, behind⟩, first, read⟩ := Option.bind_eq_some_iff.mp read
  obtain ⟨discreet, allowed⟩ := ih.and allowed first
  dsimp only at read
  split at read
  · rename_i start
    obtain ⟨⟨right, behind⟩, second, read⟩ := Option.bind_eq_some_iff.mp read
    obtain ⟨other, allowed⟩ := ih.or (allowed.word start) second
    cases read
    exact ⟨discreet_append discreet other, allowed⟩
  · cases read
    exact ⟨discreet, allowed⟩

theorem sober_readAnd : Sober reticence Expr.mentions (readAnd (steps + 1)) := by
  intro tokens found rest allowed read
  obtain ⟨⟨left, behind⟩, first, read⟩ := Option.bind_eq_some_iff.mp read
  obtain ⟨discreet, allowed⟩ := ih.not allowed first
  dsimp only at read
  split at read
  · rename_i start
    obtain ⟨⟨right, behind⟩, second, read⟩ := Option.bind_eq_some_iff.mp read
    obtain ⟨other, allowed⟩ := ih.and (allowed.word start) second
    cases read
    exact ⟨discreet_append discreet other, allowed⟩
  · cases read
    exact ⟨discreet, allowed⟩

theorem sober_readNot : Sober reticence Expr.mentions (readNot (steps + 1)) := by
  intro tokens found rest allowed read
  rw [readNot] at read
  split at read
  · rename_i start
    obtain ⟨⟨operand, behind⟩, first, read⟩ := Option.bind_eq_some_iff.mp read
    obtain ⟨discreet, allowed⟩ := ih.not (allowed.word start) first
    cases read
    exact ⟨discreet, allowed⟩
  · exact ih.comparison allowed read

theorem sober_readComparison : Sober reticence Expr.mentions (readComparison (steps + 1)) := by
  intro tokens found rest allowed read
  obtain ⟨⟨left, behind⟩, first, read⟩ := Option.bind_eq_some_iff.mp read
  obtain ⟨discreet, allowed⟩ := ih.sum allowed first
  dsimp only at read
  split at read
  · cases read
    exact ⟨discreet, allowed⟩
  · rename_i compared
    obtain ⟨⟨right, behind⟩, second, read⟩ := Option.bind_eq_some_iff.mp read
    obtain ⟨other, allowed⟩ := ih.sum (allowed.comparison compared) second
    cases read
    exact ⟨discreet_append discreet other, allowed⟩

theorem sober_readSum : Sober reticence Expr.mentions (readSum (steps + 1)) := by
  intro tokens found rest allowed read
  obtain ⟨⟨left, behind⟩, first, read⟩ := Option.bind_eq_some_iff.mp read
  obtain ⟨discreet, allowed⟩ := ih.product allowed first
  exact ih.sumTail _ discreet allowed read

theorem sober_readSumTail (line : Nat) : SoberBehind reticence fun left => readSumTail line left (steps + 1) := by
  intro left discreet tokens found rest allowed read
  dsimp only at read
  rw [readSumTail] at read
  split at read
  · cases read
    exact ⟨discreet, allowed⟩
  · rename_i operation summed
    obtain ⟨⟨right, behind⟩, second, read⟩ := Option.bind_eq_some_iff.mp read
    obtain ⟨other, allowed⟩ := ih.product (allowed.sumOperation summed) second
    refine ih.sumTail line ?_ allowed read
    exact discreet_append discreet other

theorem sober_readProduct : Sober reticence Expr.mentions (readProduct (steps + 1)) := by
  intro tokens found rest allowed read
  obtain ⟨⟨left, behind⟩, first, read⟩ := Option.bind_eq_some_iff.mp read
  obtain ⟨discreet, allowed⟩ := ih.factor allowed first
  exact ih.productTail _ discreet allowed read

theorem sober_readProductTail (line : Nat) :
    SoberBehind reticence fun left => readProductTail line left (steps + 1) := by
  intro left discreet tokens found rest allowed read
  dsimp only at read
  rw [readProductTail] at read
  split at read
  · cases read
    exact ⟨discreet, allowed⟩
  · rename_i operation multiplied
    obtain ⟨⟨right, behind⟩, second, read⟩ := Option.bind_eq_some_iff.mp read
    obtain ⟨other, allowed⟩ := ih.factor (allowed.productOperation multiplied) second
    refine ih.productTail line ?_ allowed read
    exact discreet_append discreet other

theorem sober_readFactor : Sober reticence Expr.mentions (readFactor (steps + 1)) := by
  intro tokens found rest allowed read
  rw [readFactor] at read
  split at read
  · rename_i start
    obtain ⟨⟨operand, behind⟩, first, read⟩ := Option.bind_eq_some_iff.mp read
    obtain ⟨discreet, allowed⟩ := ih.factor (allowed.mark start (by decide)) first
    cases read
    exact ⟨discreet, allowed⟩
  · obtain ⟨⟨object, behind⟩, first, read⟩ := Option.bind_eq_some_iff.mp read
    obtain ⟨discreet, allowed⟩ := ih.atom allowed first
    exact ih.trailers _ discreet allowed read

theorem sober_readTrailers (frank : ∀ name, ¬ reticence.unread name) (line : Nat) :
    SoberBehind reticence fun object => readTrailers line object (steps + 1) := by
  intro object discreet tokens found rest allowed read
  dsimp only at read
  unfold readTrailers at read
  split at read
  · rename_i start
    obtain ⟨⟨name, behind⟩, first, read⟩ := Option.bind_eq_some_iff.mp read
    refine ih.trailers line ?_ (allowed.attribute start first) read
    exact discreet_cons (frank name) discreet
  split at read
  · rename_i start
    obtain ⟨⟨index, behind⟩, first, read⟩ := Option.bind_eq_some_iff.mp read
    obtain ⟨inside, allowed⟩ := ih.exprs (allowed.mark start (by decide)) first
    obtain ⟨⟨_, behind⟩, closed, read⟩ := Option.bind_eq_some_iff.mp read
    refine ih.trailers line ?_ (allowed.expectedMark closed (by decide)) read
    exact discreet_append discreet inside
  split at read
  · rename_i start
    obtain ⟨⟨arguments, behind⟩, first, read⟩ := Option.bind_eq_some_iff.mp read
    obtain ⟨inside, allowed⟩ := ih.items ")" (by decide) (allowed.mark start (by decide)) first
    refine ih.trailers line ?_ allowed read
    exact discreet_append discreet inside
  · cases read
    exact ⟨discreet, allowed⟩

theorem sober_readItems (closer : String) (other : closer.toList ≠ ['.']) :
    Sober reticence mentionsAmong (readItems closer (steps + 1)) := by
  intro tokens found rest allowed read
  rw [readItems] at read
  split at read
  · rename_i start
    cases read
    exact ⟨discreet_nil, allowed.mark start other⟩
  · obtain ⟨⟨item, behind⟩, first, read⟩ := Option.bind_eq_some_iff.mp read
    obtain ⟨discreet, allowed⟩ := ih.expr allowed first
    dsimp only at read
    split at read
    · rename_i start
      obtain ⟨⟨items, behind⟩, second, read⟩ := Option.bind_eq_some_iff.mp read
      obtain ⟨others, allowed⟩ := ih.items closer other (allowed.mark start (by decide)) second
      cases read
      exact ⟨discreet_append discreet others, allowed⟩
    · obtain ⟨⟨_, behind⟩, closed, read⟩ := Option.bind_eq_some_iff.mp read
      cases read
      exact ⟨discreet_append discreet discreet_nil, allowed.expectedMark closed other⟩

theorem sober_readEntries : Sober reticence mentionsOfEntries (readEntries (steps + 1)) := by
  intro tokens found rest allowed read
  rw [readEntries] at read
  split at read
  · rename_i start
    cases read
    exact ⟨discreet_nil, allowed.mark start (by decide)⟩
  · obtain ⟨⟨key, behind⟩, first, read⟩ := Option.bind_eq_some_iff.mp read
    obtain ⟨keyed, allowed⟩ := ih.expr allowed first
    obtain ⟨⟨_, behind⟩, colon, read⟩ := Option.bind_eq_some_iff.mp read
    obtain ⟨⟨value, behind⟩, second, read⟩ := Option.bind_eq_some_iff.mp read
    obtain ⟨valued, allowed⟩ := ih.expr (allowed.expectedMark colon (by decide)) second
    dsimp only at read
    split at read
    · rename_i start
      obtain ⟨⟨entries, behind⟩, third, read⟩ := Option.bind_eq_some_iff.mp read
      obtain ⟨others, allowed⟩ := ih.entries (allowed.mark start (by decide)) third
      cases read
      exact ⟨discreet_append keyed (discreet_append valued others), allowed⟩
    · obtain ⟨⟨_, behind⟩, closed, read⟩ := Option.bind_eq_some_iff.mp read
      cases read
      exact ⟨discreet_append keyed (discreet_append valued discreet_nil), allowed.expectedMark closed (by decide)⟩

theorem sober_readExprs : Sober reticence Expr.mentions (readExprs (steps + 1)) := by
  intro tokens found rest allowed read
  obtain ⟨⟨first, behind⟩, head, read⟩ := Option.bind_eq_some_iff.mp read
  obtain ⟨discreet, allowed⟩ := ih.expr allowed head
  dsimp only at read
  split at read
  · obtain ⟨⟨others, behind⟩, second, read⟩ := Option.bind_eq_some_iff.mp read
    obtain ⟨more, allowed⟩ := ih.more allowed second
    cases read
    exact ⟨discreet_append discreet more, allowed⟩
  · cases read
    exact ⟨discreet, allowed⟩

theorem sober_readMore : Sober reticence mentionsAmong (readMore (steps + 1)) := by
  intro tokens found rest allowed read
  rw [readMore] at read
  split at read
  · rename_i start
    have behind := allowed.mark start (by decide)
    split at read
    · rename_i first
      obtain ⟨discreet, allowed⟩ := ih.expr behind first
      obtain ⟨⟨items, behind⟩, second, read⟩ := Option.bind_eq_some_iff.mp read
      obtain ⟨others, allowed⟩ := ih.more allowed second
      cases read
      exact ⟨discreet_append discreet others, allowed⟩
    · cases read
      exact ⟨discreet_nil, behind⟩
  · cases read
    exact ⟨discreet_nil, allowed⟩

theorem sober_readAtom : Sober reticence Expr.mentions (readAtom (steps + 1)) := by
  intro tokens found rest allowed read
  have named {token : Token} {line depth line' : Nat} {text : Text} {more : List Placed}
      (allowed : Allowed reticence (⟨token, line, depth⟩ :: more)) (kind : token = .word text ∨ token = .name text) :
      reticence.Discreet (Expr.name line' text).mentions ∧ Allowed reticence more := by
    rcases kind with rfl | rfl
    · obtain ⟨first, behind⟩ := spares_append allowed
      exact ⟨discreet_cons (first text (List.mem_singleton_self text)) discreet_nil, behind⟩
    · obtain ⟨first, behind⟩ := spares_append allowed
      exact ⟨discreet_cons (first text (List.mem_singleton_self text)) discreet_nil, behind⟩
  cases tokens with
  | nil => cases read
  | cons placed tokens =>
      obtain ⟨token, line, depth⟩ := placed
      cases token with
      | integer value =>
          cases read
          exact ⟨discreet_nil, allowed.behind nofun⟩
      | string value =>
          cases read
          exact ⟨discreet_nil, allowed.strings⟩
      | name text =>
          cases read
          exact named allowed (.inr rfl)
      | word word =>
          have behind : Allowed reticence tokens := allowed.behind nofun
          simp only [readAtom] at read
          split at read
          · cases read
            exact ⟨discreet_nil, behind⟩
          split at read
          · cases read
            exact ⟨discreet_nil, behind⟩
          split at read
          · cases read
            exact ⟨discreet_nil, behind⟩
          split at read
          · cases read
          · cases read
            exact named allowed (.inl rfl)
      | mark mark =>
          simp only [readAtom] at read
          split at read
          · rename_i same
            have behind : Allowed reticence tokens := allowed.behind fun point => by
              rw [same] at point
              cases point
            split at read
            · rename_i start
              cases read
              exact ⟨discreet_nil, behind.mark start (by decide)⟩
            · obtain ⟨⟨value, rest'⟩, first, read⟩ := Option.bind_eq_some_iff.mp read
              obtain ⟨discreet, allowed⟩ := ih.exprs behind first
              obtain ⟨⟨_, rest'⟩, closed, read⟩ := Option.bind_eq_some_iff.mp read
              cases read
              exact ⟨discreet, allowed.expectedMark closed (by decide)⟩
          split at read
          · rename_i same
            have behind : Allowed reticence tokens := allowed.behind fun point => by
              rw [same] at point
              cases point
            obtain ⟨⟨items, rest'⟩, first, read⟩ := Option.bind_eq_some_iff.mp read
            cases read
            exact ih.items "]" (by decide) behind first
          split at read
          · rename_i same
            have behind : Allowed reticence tokens := allowed.behind fun point => by
              rw [same] at point
              cases point
            obtain ⟨⟨entries, rest'⟩, first, read⟩ := Option.bind_eq_some_iff.mp read
            cases read
            exact ih.entries behind first
          · cases read
      | _ => cases read

end Readers

theorem readSober {reticence : Reticence} (frank : ∀ name, ¬ reticence.unread name) (steps : Nat) :
    ReadSober reticence steps := by
  induction steps with
  | zero =>
      constructor
      all_goals nofun
  | succ steps ih => exact
      { expr := sober_readExpr ih
        or := sober_readOr ih
        and := sober_readAnd ih
        not := sober_readNot ih
        comparison := sober_readComparison ih
        sum := sober_readSum ih
        sumTail := sober_readSumTail ih
        product := sober_readProduct ih
        productTail := sober_readProductTail ih
        factor := sober_readFactor ih
        trailers := sober_readTrailers ih frank
        items := sober_readItems ih
        entries := sober_readEntries ih
        exprs := sober_readExprs ih
        more := sober_readMore ih
        atom := sober_readAtom ih }

end Stencil.Script
