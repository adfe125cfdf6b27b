import Stencil.Proofs.DirectRun
import Stencil.Proofs.Effects
import Stencil.Proofs.Relocation

/-!
# Scripts on other lines

The lines that expressions and plain statements carry decide nothing but the line that a failure is noted with: on
another line they do the same, and an error that leaves them has that other line at the head of its trace.
-/

namespace Stencil

open Effect Script

/-- The world in which the line that an error passed last is another one. -/
def World.repass (error : Nat) (line : TraceLine) (world : World) : World :=
  world.changeIncident error fun incident => { incident with trace := line :: incident.trace.tail }

/-- Whether the line that an error passed last is a given one. -/
def World.Passed (world : World) (error : Nat) (line : TraceLine) : Prop :=
  ∀ incident, world.incident? error = some incident → incident.trace.head? = some line

/-- Whether two outcomes are the same, except that an error passed another line last. -/
inductive Relined {α : Type} (one other : TraceLine) : Outcome α → Outcome α → Prop where
  | done {value : α} {world : World} : Relined one other (.done value world) (.done value world)
  | failed {error : Nat} {world : World} (last : world.Passed error one) :
      Relined one other (.failed error world) (.failed error (world.repass error other))
  | exhausted : Relined one other .exhausted .exhausted

/-- Whether one action ends like another one, except that an error that leaves it passed another line. -/
def Moved {α : Type} (one other : TraceLine) (action action' : Effect α) : Prop :=
  ∀ world, Relined one other (action world) (action' world)

namespace Moved

variable {α β : Type} {one other : TraceLine} {here : Activation} {call : Caller} (line line' : Nat)

theorem pure (value : α) : Moved one other (Pure.pure value) (Pure.pure value) := fun _ => .done

theorem bind {action action' : Effect α} {next next' : α → Effect β} (first : Moved one other action action')
    (second : ∀ value, Moved one other (next value) (next' value)) :
    Moved one other (action >>= next) (action' >>= next') := by
  intro world
  have relined := first world
  rw [bind_apply, bind_apply]
  generalize action world = outcome at relined ⊢
  generalize action' world = outcome' at relined ⊢
  cases relined with
  | done => exact second _ _
  | failed last => exact .failed last
  | exhausted => exact .exhausted

theorem of_done {action : Effect α} (ends : ∀ world, ∃ value after, action world = .done value after) :
    Moved one other action action := by
  intro world
  obtain ⟨value, after, ended⟩ := ends world
  rw [ended]
  exact .done

end Moved

theorem changeIncident_changeIncident (world : World) (error : Nat) (f g : Incident → Incident) :
    (world.changeIncident error f).changeIncident error g = world.changeIncident error (g ∘ f) := by
  have again := incident?_changeIncident world error f
  cases found : world.incident? error with
  | none =>
      have same (f : Incident → Incident) : world.changeIncident error f = world := by rw [World.changeIncident, found]
      rw [same, same, same]
  | some incident =>
      rw [found, Option.map_some] at again
      rw [World.changeIncident, again]
      simp only [World.changeIncident, found, Array.setIfInBounds_setIfInBounds, Function.comp_apply]

theorem moved_located {α : Type} {here : Activation} (line line' : Nat) (action : Effect α) :
    Moved ⟨here.file, line⟩ ⟨here.file, line'⟩ (located here line action) (located here line' action) := by
  intro world
  unfold located recover
  cases action world with
  | done value after => exact .done
  | exhausted => exact .exhausted
  | failed error after =>
      have same : after.changeIncident error (fun incident =>
            { incident with trace := ⟨here.file, line'⟩ :: incident.trace }) =
          (after.changeIncident error fun incident =>
            { incident with trace := ⟨here.file, line⟩ :: incident.trace }).repass error ⟨here.file, line'⟩ := by
        rw [World.repass, changeIncident_changeIncident]
        rfl
      show Relined _ _ (.failed error (after.changeIncident error _)) (.failed error (after.changeIncident error _))
      rw [same]
      refine .failed fun incident found => ?_
      rw [incident?_changeIncident] at found
      obtain ⟨_, _, rfl⟩ := Option.map_eq_some_iff.mp found
      rfl

/-! ## Expressions -/

mutual

theorem constant?_at (line : Nat) (expr : Expr) : (expr.at line).constant? = expr.constant? := by
  cases expr with
  | tuple items => rw [Expr.at, Expr.constant?, Expr.constant?, constants?_at line items]
  | _ => rfl

theorem constants?_at (line : Nat) (exprs : List Expr) : constants? (allAt line exprs) = constants? exprs := by
  cases exprs with
  | nil => rfl
  | cons expr exprs => rw [allAt, constants?, constants?, constant?_at line expr, constants?_at line exprs]

end

section Moves

variable {here : Activation} {call : Caller} (line line' : Nat)

theorem moved_holds {one other : TraceLine} (value : Value) : Moved one other (holds value) (holds value) :=
  .of_done fun world => ⟨world.truth value, world, rfl⟩

theorem newTuple_done (items : List Value) (world : World) :
    ∃ value after, newTuple items world = .done value after := by
  unfold newTuple
  split
  · exact ⟨_, _, rfl⟩
  · exact ⟨_, _, rfl⟩

mutual

theorem moved_evaluate : ∀ (expr : Expr),
    Moved ⟨here.file, line⟩ ⟨here.file, line'⟩ (evaluate call here (expr.at line)) (evaluate call here (expr.at line'))
  | .constant constant => .pure _
  | .name _ name => by
    rw [Expr.at, Expr.at, evaluate, evaluate]
    split
    · exact .pure _
    · exact moved_located line line' _
  | .tuple items => by
    rw [Expr.at, Expr.at, evaluate, evaluate, constants?_at, constants?_at]
    split
    · exact .pure _
    · exact (moved_evaluateAll items).bind fun values => .of_done (newTuple_done values)
  | .list items => by
    rw [Expr.at, Expr.at, evaluate, evaluate]
    exact (moved_evaluateAll items).bind fun values => .of_done fun _ => ⟨_, _, rfl⟩
  | .dict _ entries => by
    rw [Expr.at, Expr.at, evaluate, evaluate]
    exact (moved_evaluateEntries entries).bind fun _ => moved_located line line' _
  | .attribute _ object name => by
    rw [Expr.at, Expr.at, evaluate, evaluate]
    exact (moved_evaluate object).bind fun _ => moved_located line line' _
  | .item _ object index => by
    rw [Expr.at, Expr.at, evaluate, evaluate]
    exact (moved_evaluate object).bind fun _ => (moved_evaluate index).bind fun _ => moved_located line line' _
  | .call _ function arguments => by
    rw [Expr.at, Expr.at, evaluate, evaluate]
    exact (moved_evaluate function).bind fun _ => (moved_evaluateAll arguments).bind fun _ => moved_located line line' _
  | .negate _ operand => by
    rw [Expr.at, Expr.at, evaluate, evaluate]
    exact (moved_evaluate operand).bind fun _ => moved_located line line' _
  | .binary _ operation left right => by
    rw [Expr.at, Expr.at, evaluate, evaluate]
    exact (moved_evaluate left).bind fun _ => (moved_evaluate right).bind fun _ => moved_located line line' _
  | .compare _ comparison left right => by
    rw [Expr.at, Expr.at, evaluate, evaluate]
    exact (moved_evaluate left).bind fun _ => (moved_evaluate right).bind fun _ =>
      (moved_located line line' _).bind fun _ => .pure _
  | .negation operand => by
    rw [Expr.at, Expr.at, evaluate, evaluate]
    exact (moved_evaluate operand).bind fun _ => (moved_holds _).bind fun _ => .pure _
  | .both left right => by
    rw [Expr.at, Expr.at, evaluate, evaluate]
    refine (moved_evaluate left).bind fun _ => (moved_holds _).bind fun _ => ?_
    split
    · exact moved_evaluate right
    · exact .pure _
  | .either left right => by
    rw [Expr.at, Expr.at, evaluate, evaluate]
    refine (moved_evaluate left).bind fun _ => (moved_holds _).bind fun _ => ?_
    split
    · exact .pure _
    · exact moved_evaluate right
  | .choice test yes no => by
    rw [Expr.at, Expr.at, evaluate, evaluate]
    refine (moved_evaluate test).bind fun _ => (moved_holds _).bind fun _ => ?_
    split
    · exact moved_evaluate yes
    · exact moved_evaluate no

theorem moved_evaluateAll : ∀ (exprs : List Expr),
    Moved ⟨here.file, line⟩ ⟨here.file, line'⟩ (evaluateAll call here (allAt line exprs))
      (evaluateAll call here (allAt line' exprs))
  | [] => .pure _
  | expr :: exprs => by
    rw [allAt, allAt, evaluateAll, evaluateAll]
    exact (moved_evaluate expr).bind fun _ => (moved_evaluateAll exprs).bind fun _ => .pure _

theorem moved_evaluateEntries : ∀ (entries : List (Expr × Expr)),
    Moved ⟨here.file, line⟩ ⟨here.file, line'⟩ (evaluateEntries call here (entriesAt line entries))
      (evaluateEntries call here (entriesAt line' entries))
  | [] => .pure _
  | (key, content) :: entries => by
    rw [entriesAt, entriesAt, evaluateEntries, evaluateEntries]
    exact (moved_evaluate key).bind fun _ => (moved_evaluate content).bind fun _ =>
      (moved_evaluateEntries entries).bind fun _ => .pure _

end

/-! ## Statements -/

theorem length_targetsAt (line : Nat) (targets : List Target) : (targetsAt line targets).length = targets.length := by
  induction targets with
  | nil => rfl
  | cons target targets ih => rw [targetsAt, List.length_cons, List.length_cons, ih]

mutual

theorem moved_assign : ∀ (target : Target) (value : Value),
    Moved ⟨here.file, line⟩ ⟨here.file, line'⟩ (assign call here line (target.at line) value)
      (assign call here line' (target.at line') value)
  | .name name, value => .of_done fun _ => ⟨_, _, rfl⟩
  | .tuple items, value => by
    rw [Target.at, Target.at, assign, assign, length_targetsAt, length_targetsAt]
    exact (moved_located line line' _).bind fun values => moved_assignAll items values
  | .attribute _ object name, value => by
    rw [Target.at, Target.at, assign, assign]
    exact (moved_evaluate line line' object).bind fun _ => moved_located line line' _
  | .item _ object index, value => by
    rw [Target.at, Target.at, assign, assign]
    exact (moved_evaluate line line' object).bind fun _ => (moved_evaluate line line' index).bind fun _ =>
      moved_located line line' _

theorem moved_assignAll : ∀ (targets : List Target) (values : List Value),
    Moved ⟨here.file, line⟩ ⟨here.file, line'⟩ (assignAll call here line (targetsAt line targets) values)
      (assignAll call here line' (targetsAt line' targets) values)
  | [], _ => .pure _
  | _ :: _, [] => .pure _
  | target :: targets, value :: values => by
    rw [targetsAt, targetsAt, assignAll, assignAll]
    exact (moved_assign target value).bind fun _ => moved_assignAll targets values

end

theorem moved_assignEach (value : Value) : ∀ (targets : List Target),
    Moved ⟨here.file, line⟩ ⟨here.file, line'⟩ (assignEach call here line value (targetsAt line targets))
      (assignEach call here line' value (targetsAt line' targets))
  | [] => .pure _
  | target :: targets => (moved_assign line line' target value).bind fun _ => moved_assignEach value targets

theorem moved_update (operation : BinaryOp) (value : Expr) : ∀ (target : Target),
    Moved ⟨here.file, line⟩ ⟨here.file, line'⟩ (update call here line operation (value.at line) (target.at line))
      (update call here line' operation (value.at line') (target.at line'))
  | .tuple _ => .pure _
  | .name _ => (moved_located line line' _).bind fun _ => (moved_evaluate line line' value).bind fun _ =>
    (moved_located line line' _).bind fun _ => .of_done fun _ => ⟨_, _, rfl⟩
  | .attribute _ object _ => (moved_evaluate line line' object).bind fun _ =>
    (moved_located line line' _).bind fun _ => (moved_evaluate line line' value).bind fun _ =>
      (moved_located line line' _).bind fun _ => moved_located line line' _
  | .item _ object index => (moved_evaluate line line' object).bind fun _ =>
    (moved_evaluate line line' index).bind fun _ => (moved_located line line' _).bind fun _ =>
      (moved_evaluate line line' value).bind fun _ => (moved_located line line' _).bind fun _ =>
        moved_located line line' _

theorem moved_nextRound (target : Target) (iterator : Nat) :
    Moved ⟨here.file, line⟩ ⟨here.file, line'⟩ (nextRound call here line (target.at line) iterator)
      (nextRound call here line' (target.at line') iterator) := by
  refine (moved_located line line' _).bind fun found => ?_
  cases found with
  | none => exact .pure _
  | some value => exact (moved_assign line line' target value).bind fun _ => .pure _

theorem moved_run (steps : Nat) {statement : Stmt} (plain : statement.isPlain) :
    Moved ⟨here.file, line⟩ ⟨here.file, line'⟩ (run call steps here (statement.at line))
      (run call steps here (statement.at line')) := by
  cases statement with
  | evaluate place value =>
      rw [Stmt.at, Stmt.at, run, run]
      exact (moved_evaluate line line' value).bind fun _ => .pure _
  | assign place targets value =>
      rw [Stmt.at, Stmt.at, run, run]
      exact (moved_evaluate line line' value).bind fun _ =>
        (moved_assignEach line line' _ targets).bind fun _ => .pure _
  | update place target operation value =>
      rw [Stmt.at, Stmt.at, run, run]
      exact (moved_update line line' operation value target).bind fun _ => .pure _
  | nothing => exact .pure _
  | leaveLoop place => exact .pure _
  | nextRound place => exact .pure _
  | _ => cases plain

end Moves

end Stencil
