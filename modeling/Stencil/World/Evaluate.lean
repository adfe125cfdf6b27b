import Stencil.Script.Scope
import Stencil.World.Attribute
import Stencil.World.Incident
import Stencil.World.Lookup
import Stencil.World.Operate

/-!
# Running scripts

Expressions are evaluated and statements are run inside an activation.  How values are called is a parameter, so
that running a script recurs on the script alone; loops go on for at most a given number of rounds.
-/

namespace Stencil

/-- How a list of statements ends. -/
inductive Flow where
  /-- The next statement runs. -/
  | proceed
  /-- The innermost loop is left. -/
  | leave
  /-- The next round of the innermost loop begins. -/
  | again
  /-- The running call ends with a value. -/
  | finish (value : Value)
  deriving Repr

namespace Effect

/-- Note in an error that it passed a line of the running call. -/
def located {α : Type} (here : Activation) (line : Nat) (action : Effect α) : Effect α :=
  recover action fun error => do
    change (World.changeIncident error fun incident =>
      { incident with trace := ⟨here.file, line⟩ :: incident.trace })
    failWith error

/-- How an action ends: with a value or with the address of an error. -/
def attempted {α : Type} (action : Effect α) : Effect (Except Nat α) :=
  recover (do return .ok (← action)) fun error => return .error error

/-- End the way another action ended. -/
def resume {α : Type} : Except Nat α → Effect α
  | .ok value => return value
  | .error error => failWith error

/-- Do something while an error is being handled. -/
def handling {α : Type} (error : Nat) (action : Effect α) : Effect α := do
  let before := (← Effect.world).handled
  change fun world => { world with handled := error :: world.handled }
  let outcome ← attempted action
  change fun world => { world with handled := before }
  resume outcome

/-- Go on with an action's outcome after a cleanup, unless the cleanup ends otherwise. -/
def cleaned (cleanup action : Effect Flow) : Effect Flow := do
  let outcome ← attempted action
  let flow ← match outcome with
    | .ok _ => cleanup
    | .error error => handling error cleanup
  match flow with
  | .proceed => resume outcome
  | flow => return flow

/-- Raise the error again that is being handled. -/
def raiseAgain {α : Type} : Effect α := do
  match (← Effect.world).handled with
  | error :: _ => failWith error
  | [] => raiseText .runtime "No active exception to reraise"

/-- Repeat a body while a test holds, for at most so many rounds; a loop that the test ends goes on with
`otherwise`. -/
def rounds (test : Effect Bool) (body otherwise : Effect Flow) : (steps : Nat) → Effect Flow
  | 0 => exhausted
  | steps + 1 => do
    if ← test then
      match ← body with
      | .leave => return .proceed
      | .finish value => return .finish value
      | .proceed | .again => rounds test body otherwise steps
    else otherwise

/-- Raise a value. -/
def raiseValue {α : Type} (call : Caller) (value : Value) : Effect α := do
  let world ← Effect.world
  let refused : Effect α := raiseText .typing "exceptions must derive from BaseException"
  match value with
  | .kind errors => do failWith (← newError call errors [])
  | .object address => if (world.incident? address).isSome then failWith address else refused
  | _ => refused

/-- Whether an error is of a kind that a value stands for. -/
def isOfKind (error : Nat) (value : Value) : Effect Bool := do
  let world ← Effect.world
  let refused : Effect Bool := raiseText .typing
    "catching classes that do not inherit from BaseException is not allowed"
  match value with
  | .kind wanted => return (world.errorKind error).isA wanted
  | .tuple _ values =>
    let kinds := values.filterMap fun
      | .kind wanted => some wanted
      | _ => none
    if kinds.length < values.length then refused
    else return kinds.any fun wanted => (world.errorKind error).isA wanted
  | _ => refused

/-- Whether a value fits a pattern: truth values and the absent value by identity, others by equality. -/
def fits (value : Value) : Script.Pattern → Effect Bool
  | .anything | .capture _ => return true
  | .constant constant => do
    let wanted := Value.ofConstant constant
    match constant with
    | .none | .bool _ => return value.identical wanted
    | .int _ | .text _ => areEqual value wanted

/-- Entries with more behind them; a later value under the same key takes the place of an earlier one. -/
def putEntries (found : List (Value × Value)) :
    List (Value × Value) → Effect (List (Value × Value))
  | [] => return found
  | (key, value) :: entries => do
    let found ← decided ((← Effect.world).putKey? key value found)
    putEntries found entries

/-- A new dictionary. -/
def newDict (entries : List (Value × Value)) : Effect Value := do
  for entry in entries do
    checkKey entry.1
  return .object (← allocate (.dict (← putEntries [] entries)))

/-- Whether a value counts as true. -/
def holds (value : Value) : Effect Bool := do return (← Effect.world).truth value

end Effect

open Effect

namespace Script

mutual

/-- The value of an expression that is written down, and so is one and the same each time. -/
def Expr.constant? : Expr → Option Value
  | .constant value => some (.ofConstant value)
  | .tuple items => (constants? items).map (.tuple 0)
  | _ => none

/-- The values of expressions that are all written down. -/
def constants? : List Expr → Option (List Value)
  | [] => some []
  | expr :: exprs => do return (← expr.constant?) :: (← constants? exprs)

end

mutual

/-- The value of an expression. -/
def evaluate (call : Caller) (here : Activation) : Expr → Effect Value
  | .constant value => return .ofConstant value
  | .name line name =>
    if name = Script.reservedName then return .bool true else located here line (nameIn here name)
  | .tuple items => match constants? items with
    | some values => return .tuple 0 values
    | none => do newTuple (← evaluateAll call here items)
  | .list items => do newList (← evaluateAll call here items)
  | .dict line entries => do
    let entries ← evaluateEntries call here entries
    located here line (newDict entries)
  | .attribute line object name => do
    let object ← evaluate call here object
    located here line (attributeAt object name)
  | .item line object index => do
    let object ← evaluate call here object
    let index ← evaluate call here index
    located here line (itemAt object index)
  | .call line function arguments => do
    let function ← evaluate call here function
    let arguments ← evaluateAll call here arguments
    located here line (call function arguments)
  | .negate line operand => do
    let operand ← evaluate call here operand
    located here line (negative operand)
  | .binary line operation left right => do
    let left ← evaluate call here left
    let right ← evaluate call here right
    located here line (binary call operation left right)
  | .compare line comparison left right => do
    let left ← evaluate call here left
    let right ← evaluate call here right
    return .bool (← located here line (compared call comparison left right))
  | .negation operand => do
    let operand ← evaluate call here operand
    return .bool (!(← holds operand))
  | .both left right => do
    let left ← evaluate call here left
    if ← holds left then evaluate call here right else return left
  | .either left right => do
    let left ← evaluate call here left
    if ← holds left then return left else evaluate call here right
  | .choice test yes no => do
    let test ← evaluate call here test
    if ← holds test then evaluate call here yes else evaluate call here no

/-- The values of expressions, from left to right. -/
def evaluateAll (call : Caller) (here : Activation) : List Expr → Effect (List Value)
  | [] => return []
  | expr :: exprs => do
    let value ← evaluate call here expr
    return value :: (← evaluateAll call here exprs)

/-- The values of keys and contents, from left to right. -/
def evaluateEntries (call : Caller) (here : Activation) :
    List (Expr × Expr) → Effect (List (Value × Value))
  | [] => return []
  | (key, content) :: entries => do
    let key ← evaluate call here key
    let content ← evaluate call here content
    return (key, content) :: (← evaluateEntries call here entries)

end

mutual

/-- Assign a value to a target; `line` is where a value that does not fit is reported. -/
def assign (call : Caller) (here : Activation) (line : Nat) : Target → Value → Effect Unit
  | .name name, value => bindName here name value
  | .tuple items, value => do
    let values ← located here line (unpack call items.length value)
    assignAll call here line items values
  | .attribute line object name, value => do
    let object ← evaluate call here object
    located here line (putAttributeAt call object name value)
  | .item line object index, value => do
    let object ← evaluate call here object
    let index ← evaluate call here index
    located here line (putItemAt object index value)

/-- Assign values to as many targets. -/
def assignAll (call : Caller) (here : Activation) (line : Nat) :
    List Target → List Value → Effect Unit
  | target :: targets, value :: values => do
    assign call here line target value
    assignAll call here line targets values
  | _, _ => return ()

end

/-- Assign the same value to each of several targets. -/
def assignEach (call : Caller) (here : Activation) (line : Nat) (value : Value) :
    List Target → Effect Unit
  | [] => return ()
  | target :: targets => do
    assign call here line target value
    assignEach call here line value targets

/-- Replace what a target is bound to by the result of an operation on it. -/
def update (call : Caller) (here : Activation) (line : Nat) (operation : BinaryOp) (value : Expr) :
    Target → Effect Unit
  | .name name => do
    let old ← located here line (nameIn here name)
    let operand ← evaluate call here value
    bindName here name (← located here line (updated call operation old operand))
  | .attribute place object name => do
    let object ← evaluate call here object
    let old ← located here place (attributeAt object name)
    let operand ← evaluate call here value
    let new ← located here line (updated call operation old operand)
    located here place (putAttributeAt call object name new)
  | .item place object index => do
    let object ← evaluate call here object
    let index ← evaluate call here index
    let old ← located here place (itemAt object index)
    let operand ← evaluate call here value
    let new ← located here line (updated call operation old operand)
    located here place (putItemAt object index new)
  | .tuple _ => return ()

/-- Whether an iterator has a further value, which is then assigned to a target. -/
def nextRound (call : Caller) (here : Activation) (line : Nat) (target : Target) (iterator : Nat) :
    Effect Bool := do
  match ← located here line (advance call iterator) with
  | some value =>
    assign call here line target value
    return true
  | none => return false

mutual

/-- Run a statement. -/
def run (call : Caller) (steps : Nat) (here : Activation) : Stmt → Effect Flow
  | .evaluate _ value => do
    let _ ← evaluate call here value
    return .proceed
  | .assign line targets value => do
    let value ← evaluate call here value
    assignEach call here line value targets
    return .proceed
  | .update line target operation value => do
    update call here line operation value target
    return .proceed
  | .nothing | .spread _ => return .proceed
  | .leaveLoop _ => return .leave
  | .nextRound _ => return .again
  | .giveBack _ value => match value with
    | none => return .finish .none
    | some value => do return .finish (← evaluate call here value)
  | .fail line error => match error with
    | none => do
      if (← Effect.world).handled.isEmpty then located here line raiseAgain else raiseAgain
    | some error => do
      let error ← evaluate call here error
      located here line (raiseValue call error)
  | .branch _ test body otherwise => do
    let test ← evaluate call here test
    if ← holds test then runBlock call steps here body else runBlock call steps here otherwise
  | .loop _ test body otherwise =>
    rounds (do holds (← evaluate call here test)) (runBlock call steps here body)
      (runBlock call steps here otherwise) steps
  | .each line target source body otherwise => do
    let source ← evaluate call here source
    let iterator ← located here line (iterate source)
    rounds (nextRound call here line target iterator) (runBlock call steps here body)
      (runBlock call steps here otherwise) steps
  | .define _ name parameters body => do
    let qualified := here.name ++ ".<locals>." ++ name
    let function ← allocate (.function
      ⟨qualified, parameters.map Script.Parameter.name, body, here.scope, here.file, here.globals⟩ [])
    bindName here name (.object function)
    return .proceed
  | .attempt _ body handlers otherwise cleanup =>
    cleaned (runBlock call steps here cleanup) do
      match ← attempted (runBlock call steps here body) with
      | .ok .proceed => runBlock call steps here otherwise
      | .ok flow => return flow
      | .error error => handling error (runHandlers call steps here error handlers)
  | .choose _ subject arms => do
    let subject ← evaluate call here subject
    runArms call steps here subject arms

/-- Run statements one after the other. -/
def runBlock (call : Caller) (steps : Nat) (here : Activation) : List Stmt → Effect Flow
  | [] => return .proceed
  | statement :: statements => do
    match ← run call steps here statement with
    | .proceed => runBlock call steps here statements
    | flow => return flow

/-- Run the first handler that handles an error; without one the error goes on. -/
def runHandlers (call : Caller) (steps : Nat) (here : Activation) (error : Nat) :
    List Handler → Effect Flow
  | [] => failWith error
  | .mk line kind binding body :: handlers => do
    let handles ← match kind with
      | none => pure true
      | some kind => do
        let kind ← evaluate call here kind
        located here line (isOfKind error kind)
    if !handles then runHandlers call steps here error handlers
    else match binding with
      | none => runBlock call steps here body
      | some name => do
        bindName here name (.object error)
        let outcome ← attempted (runBlock call steps here body)
        unbindName here name
        resume outcome

/-- Run the first arm whose pattern a subject fits. -/
def runArms (call : Caller) (steps : Nat) (here : Activation) (subject : Value) :
    List Arm → Effect Flow
  | [] => return .proceed
  | .mk _ pattern body :: arms => do
    if ← fits subject pattern then
      pattern.bound.forM fun name => bindName here name subject
      runBlock call steps here body
    else runArms call steps here subject arms

end

end Script
end Stencil
