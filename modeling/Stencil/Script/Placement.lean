import Stencil.Script.Scope
import Stencil.Script.Token

/-!
# Statements in the wrong place

Some statements are well formed only inside of others.  The first misplaced statement in the order of the
text is reported, with some exceptions: two parameters of one name come before everything else, the suite for a
guarded body that does not fail comes before the handlers, and a handler for every error is looked at before its
body.  A statement that leaves a guarded body runs what is done in any case, so that suite is looked at where the
statement stands.
-/

namespace Stencil.Script

/-- The first of a list of parameters that has the name of one before it. -/
def repeated? (before : List Text) : List Parameter → Option Parameter
  | [] => none
  | parameter :: parameters =>
    if before.contains parameter.name then some parameter
    else repeated? (parameter.name :: before) parameters

mutual

/-- The first repeated parameter in a statement. -/
def Stmt.repeats? : Stmt → Option Refusal
  | .define _ _ parameters body =>
    match repeated? [] parameters with
    | some ⟨name, line⟩ =>
      some ⟨.form, "duplicate argument '" ++ name ++ "' in function definition", line⟩
    | none => repeatsInBlock? body
  | .branch _ _ body otherwise | .loop _ _ body otherwise | .each _ _ _ body otherwise =>
    (repeatsInBlock? body).or (repeatsInBlock? otherwise)
  | .attempt _ body handlers otherwise cleanup =>
    (repeatsInBlock? body).or ((repeatsInBlock? otherwise).or
      ((repeatsInHandlers? handlers).or (repeatsInBlock? cleanup)))
  | .choose _ _ arms => repeatsInArms? arms
  | _ => none

/-- The first repeated parameter in a list of statements. -/
def repeatsInBlock? : List Stmt → Option Refusal
  | [] => none
  | statement :: statements => statement.repeats?.or (repeatsInBlock? statements)

/-- The first repeated parameter in a list of handlers. -/
def repeatsInHandlers? : List Handler → Option Refusal
  | [] => none
  | .mk _ _ _ body :: handlers => (repeatsInBlock? body).or (repeatsInHandlers? handlers)

/-- The first repeated parameter in the arms of a choice. -/
def repeatsInArms? : List Arm → Option Refusal
  | [] => none
  | .mk _ _ body :: arms => (repeatsInBlock? body).or (repeatsInArms? arms)

end

/-- Where a statement stands. -/
structure Surroundings where
  /-- Whether a loop of the same body is around it. -/
  inLoop : Bool
  /-- How many loops and guarded bodies are around it. -/
  nested : Nat
  /-- What is misplaced in the suites that run when the loop around it, or the body, is left from here. -/
  leaving : Option Refusal
  /-- What is misplaced in the suites that run when the body is left from here without a value. -/
  ending : Option Refusal
  /-- What is misplaced in the suites that run when the body is left from here with a value. -/
  returning : Option Refusal

namespace Surroundings

/-- The start of a body. -/
def outermost : Surroundings := ⟨false, 0, none, none, none⟩

/-- How many loops and guarded bodies may be nested. -/
def nestingLimit : Nat := 20

/-- One loop or guarded body further in. -/
def deeper (around : Surroundings) : Surroundings := { around with nested := around.nested + 1 }

/-- The body of a loop. -/
def loop (around : Surroundings) : Surroundings :=
  { around with inLoop := true, nested := around.nested + 1, leaving := none }

/-- A body behind which a suite is run in any case: what is misplaced in the suite where it stands, and what is
misplaced in it one level further in, where it runs while a value or an error is held back. -/
def guarded (plain inner : Option Refusal) (around : Surroundings) : Surroundings :=
  { around with
    nested := around.nested + 1
    leaving := plain.or around.leaving
    ending := plain.or around.ending
    returning := inner.or around.returning }

/-- The refusal of a loop or guarded body that is nested too deep. -/
def tooDeep? (around : Surroundings) (line : Nat) : Option Refusal :=
  if nestingLimit ≤ around.nested then some ⟨.form, "too many statically nested blocks", line⟩ else none

end Surroundings

/-- The refusal of a pattern that every subject fits, with further arms behind it. -/
def Pattern.final? (line : Nat) : Pattern → Option Refusal
  | .constant _ => none
  | .anything => some ⟨.form, "wildcard makes remaining patterns unreachable", line⟩
  | .capture name => some ⟨.form, "name capture '" ++ name ++ "' makes remaining patterns unreachable", line⟩

/-- The refusal of a name that cannot be assigned to. -/
def reserved? (line : Nat) (name : Text) : Option Refusal :=
  if name = reservedName then some ⟨.form, "cannot assign to " ++ reservedName, line⟩ else none

mutual

/-- The refusal of a target that cannot be assigned to. -/
def Target.reserved? (line : Nat) : Target → Option Refusal
  | .name name | .attribute _ _ name => Script.reserved? line name
  | .item _ _ _ => none
  | .tuple items => reservedIn? line items

/-- The refusal of the first of a list of targets that cannot be assigned to. -/
def reservedIn? (line : Nat) : List Target → Option Refusal
  | [] => none
  | target :: targets => (target.reserved? line).or (reservedIn? line targets)

end

mutual

/-- The first misplaced statement in a statement. -/
def Stmt.misplaced? (around : Surroundings) : Stmt → Option Refusal
  | .assign line targets _ => reservedIn? line targets
  | .update line (.name name) _ _ => reserved? line name
  | .giveBack _ none | .giveBack _ (some (.constant _)) => around.ending
  | .giveBack _ (some _) => around.returning
  | .spread line => some ⟨.form, "can't use starred expression here", line⟩
  | .leaveLoop line =>
    around.leaving.or (if around.inLoop then none else some ⟨.form, "'break' outside loop", line⟩)
  | .nextRound line =>
    around.leaving.or
      (if around.inLoop then none else some ⟨.form, "'continue' not properly in loop", line⟩)
  | .branch _ _ body otherwise =>
    (misplacedInBlock? around body).or (misplacedInBlock? around otherwise)
  | .loop line _ body otherwise =>
    (around.tooDeep? line).or
      ((misplacedInBlock? around.loop body).or (misplacedInBlock? around otherwise))
  | .each line target _ body otherwise =>
    (around.tooDeep? line).or ((target.reserved? line).or
      ((misplacedInBlock? around.loop body).or (misplacedInBlock? around otherwise)))
  | .define line name parameters body =>
    (parameters.findSome? fun parameter => reserved? line parameter.name).or
      ((misplacedInBlock? .outermost body).or (reserved? line name))
  | .attempt line body handlers otherwise cleanup =>
    let plain := misplacedInBlock? around cleanup
    let inner := misplacedInBlock? around.deeper cleanup
    let outside := if cleanup.isEmpty then around else around.guarded plain inner
    let inside :=
      if handlers.isEmpty then misplacedInBlock? outside body
      else (outside.tooDeep? line).or ((misplacedInBlock? outside.deeper body).or
        ((misplacedInBlock? outside otherwise).or (misplacedInHandlers? outside.deeper handlers)))
    (if cleanup.isEmpty then none else around.tooDeep? line).or (inside.or (plain.or inner))
  | .choose _ _ arms => misplacedInArms? around arms
  | .update _ _ _ _ | .evaluate _ _ | .nothing | .fail _ _ => none

/-- The first misplaced statement in a list of statements. -/
def misplacedInBlock? (around : Surroundings) : List Stmt → Option Refusal
  | [] => none
  | statement :: statements =>
    (statement.misplaced? around).or (misplacedInBlock? around statements)

/-- The first misplaced statement in a list of handlers; the handler for every error must be the
last one. -/
def misplacedInHandlers? (around : Surroundings) : List Handler → Option Refusal
  | [] => none
  | .mk line kind binding body :: handlers =>
    if kind.isNone && !handlers.isEmpty then some ⟨.form, "default 'except:' must be last", line⟩
    else (around.tooDeep? line).or ((misplacedInBlock? around.deeper body).or
      ((if binding = some reservedName then some ⟨.form, "cannot delete " ++ reservedName, 0⟩ else none).or
        (misplacedInHandlers? around handlers)))

/-- The first misplaced statement in the arms of a choice; an arm for every subject must be the last one. -/
def misplacedInArms? (around : Surroundings) : List Arm → Option Refusal
  | [] => none
  | .mk line pattern body :: arms =>
    (if arms.isEmpty then none else pattern.final? line).or
      ((pattern.bound.findSome? (reserved? line)).or
        ((misplacedInBlock? around body).or (misplacedInArms? around arms)))

end

/-- What is misplaced in a script. -/
def misplacedIn? (statements : List Stmt) : Option Refusal :=
  (repeatsInBlock? statements).or (misplacedInBlock? .outermost statements)

end Stencil.Script
