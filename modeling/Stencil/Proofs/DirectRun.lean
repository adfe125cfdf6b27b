import Stencil.Block.Basic
import Stencil.Proofs.Clauses
import Stencil.World.Evaluate

/-!
# Running block trees directly

A block tree is read as steps: every fragment, statement and head is read on its own, as a line of a script that
stands on its template line, and the clauses of a suite are put together as if they were written one after the
other.  Steps are run in the activation of a call; what they put out is a list of values, in order.
-/

namespace Stencil

open Script Effect

/-! ## Pieces of templates -/

/-- The tokens, on a given line, of a text that is one line of a script on its own. -/
def tokensAt? (line : Nat) (text : Text) : Option (List Placed) :=
  match Reading.ofText text with
  | ⟨[found], none, [], .complete⟩ => some (found.tokens.map (Placed.at line))
  | _ => none

/-- What was read, when no token is left. -/
def entire? {α : Type} : Option (Found α) → Option α
  | some (found, []) => some found
  | _ => none

/-- The expression of a fragment. -/
def fragmentAt? (line : Nat) (code : Text) : Option Expr := do
  entire? (readValue (← tokensAt? line code))

/-- Whether a statement is an assignment or an expression, does nothing, or goes on elsewhere in a loop. -/
def Script.Stmt.isPlain : Stmt → Bool
  | .evaluate _ _ | .assign _ _ _ | .update _ _ _ _ | .nothing | .leaveLoop _ | .nextRound _ => true
  | _ => false

/-- The plain statements of a directive. -/
def statementsAt? (line : Nat) (code : Text) : Option (List Stmt) := do
  let statements ← readLines [⟨⟨0, 0⟩, ← tokensAt? line code, line, line⟩]
  if statements.all Stmt.isPlain then return statements else none

/-- What the head of a block says. -/
inductive Clause where
  | branch (test : Expr)
  | loop (test : Expr)
  | each (target : Target) (source : Expr)
  /-- A further condition of the clause before it. -/
  | elif (test : Expr)
  /-- What is done otherwise. -/
  | otherwise

/-- Read the tokens of a head with its colon. -/
def clause? (tokens : List Placed) : Option Clause :=
  match readHead? tokens with
  | some (some (.branch test, [])) => some (.branch test)
  | some (some (.loop test, [])) => some (.loop test)
  | some (some (.each target source, [])) => some (.each target source)
  | some _ => none
  | none =>
    if atWord "elif" tokens then do
      let (test, rest) ← readSingle tokens.tail
      (entire? (expectMark ":" rest)).map fun _ => .elif test
    else if atWord "else" tokens then (entire? (expectMark ":" tokens.tail)).map fun _ => .otherwise
    else none

/-- The clause of a head. -/
def clauseAt? (line : Nat) (head : Text) : Option Clause := do clause? (← tokensAt? line (head ++ [':']))

/-! ## Names -/

namespace Script

mutual

/-- The names that an expression mentions. -/
def Expr.names : Expr → List Text
  | .constant _ => []
  | .name _ name => [name]
  | .tuple items | .list items => namesAmong items
  | .dict _ entries => namesOfEntries entries
  | .attribute _ object _ => object.names
  | .item _ object index => object.names ++ index.names
  | .call _ function arguments => function.names ++ namesAmong arguments
  | .negate _ operand | .negation operand => operand.names
  | .binary _ _ left right | .compare _ _ left right | .both left right | .either left right =>
    left.names ++ right.names
  | .choice test yes no => test.names ++ (yes.names ++ no.names)

/-- The names that expressions mention. -/
def namesAmong : List Expr → List Text
  | [] => []
  | expr :: exprs => expr.names ++ namesAmong exprs

/-- The names that keys and contents mention. -/
def namesOfEntries : List (Expr × Expr) → List Text
  | [] => []
  | (key, content) :: entries => key.names ++ (content.names ++ namesOfEntries entries)

end

mutual

/-- The names that a target mentions. -/
def Target.names : Target → List Text
  | .name name => [name]
  | .tuple items => namesOfTargets items
  | .attribute _ object _ => object.names
  | .item _ object index => object.names ++ index.names

/-- The names that targets mention. -/
def namesOfTargets : List Target → List Text
  | [] => []
  | target :: targets => target.names ++ namesOfTargets targets

end

/-- The names that a plain statement mentions. -/
def Stmt.names : Stmt → List Text
  | .evaluate _ value => value.names
  | .assign _ targets value => value.names ++ namesOfTargets targets
  | .update _ target _ value => target.names ++ value.names
  | _ => []

end Script

/-! ## Steps -/

/-- A step of a block tree. -/
inductive Step where
  /-- Put out a text. -/
  | text (content : Text)
  /-- Put out what the value of a fragment is converted to. -/
  | value (line : Nat) (code : Expr)
  | perform (statement : Stmt)
  | branch (test : Expr) (body otherwise : List Step)
  | loop (test : Expr) (body otherwise : List Step)
  | each (line : Nat) (target : Target) (source : Expr) (body otherwise : List Step)

mutual

/-- The names that a step mentions. -/
def Step.names : Step → List Text
  | .text _ => []
  | .value _ code => code.names
  | .perform statement => statement.names
  | .branch test body otherwise | .loop test body otherwise =>
    test.names ++ (namesInSteps body ++ namesInSteps otherwise)
  | .each _ target source body otherwise =>
    target.names ++ (source.names ++ (namesInSteps body ++ namesInSteps otherwise))

/-- The names that steps mention. -/
def namesInSteps : List Step → List Text
  | [] => []
  | step :: steps => step.names ++ namesInSteps steps

end

/-- A suite from some place on: what its first clauses add to a clause before them, and the steps behind. -/
structure Suite where
  tail : Tail Step
  steps : List Step

namespace Suite

/-- Nothing. -/
def empty : Suite := ⟨.nothing, []⟩

/-- The steps of a suite that continues no clause. -/
def whole? (suite : Suite) : Option (List Step) :=
  match suite.tail with
  | .nothing => some suite.steps
  | _ => none

/-- What a loop in front of a suite does when its test ends it. -/
def otherwise? (suite : Suite) : Option (List Step) :=
  match suite.tail with
  | .elif _ => none
  | tail => some tail.body

/-- A suite with steps in front. -/
def after? (steps : List Step) (suite : Suite) : Option Suite :=
  suite.whole?.map fun more => ⟨.nothing, steps ++ more⟩

/-- A suite with a clause and its body in front. -/
def afterClause? (line : Nat) (body : List Step) (suite : Suite) : Clause → Option Suite
  | .branch test => some ⟨.nothing, .branch test body suite.tail.body :: suite.steps⟩
  | .loop test => suite.otherwise?.map fun otherwise => ⟨.nothing, .loop test body otherwise :: suite.steps⟩
  | .each target source =>
    suite.otherwise?.map fun otherwise => ⟨.nothing, .each line target source body otherwise :: suite.steps⟩
  | .elif test => some ⟨.elif [.branch test body suite.tail.body], suite.steps⟩
  | .otherwise => suite.whole?.map fun more => ⟨.otherwise body, more⟩

end Suite

/-- The step of one part of a text line. -/
def stepOf? (line : Nat) : Part → Option Step
  | .literal content => some (.text content)
  | .fragment inserted => (fragmentAt? line inserted.code).map (.value line)

/-- The steps of an output line: its parts, and its terminator. -/
def stepsOf? (line : Line) : Option (List Step) := do
  let parts ← match line.form with
    | .text parts => parts.mapM (stepOf? line.number.toNat)
    | _ => some []
  return parts ++ [.text line.terminator]

mutual

/-- A suite with a node in front. -/
def Node.inFrontOf? (suite : Suite) : Node → Option Suite
  | .leaf _ line => do suite.after? (← stepsOf? line)
  | .statement number code => do suite.after? ((← statementsAt? number.toNat code).map .perform)
  | .stray _ _ => some suite
  | .control (.mk number head body arms _) => do
    let suite ← armsInFrontOf? suite arms
    suite.afterClause? number.toNat (← (← suiteOf? body).whole?) (← clauseAt? number.toNat head)

/-- The suite of a list of nodes. -/
def suiteOf? : List Node → Option Suite
  | [] => some .empty
  | node :: nodes => do node.inFrontOf? (← suiteOf? nodes)

/-- A suite with arms in front. -/
def armsInFrontOf? (suite : Suite) : List Block → Option Suite
  | [] => some suite
  | .mk number head body _ _ :: arms => do
    let suite ← armsInFrontOf? suite arms
    suite.afterClause? number.toNat (← (← suiteOf? body).whole?) (← clauseAt? number.toNat head)

end

/-- The steps of a block tree; absent when the tree says more than steps can express. -/
def Tree.steps? (tree : Tree) : Option (List Step) := do (← suiteOf? tree.body).whole?

/-! ## Running steps -/

/-- What running steps comes to: how it ends, and what was put out. -/
abbrev Yield := Flow × List Value

/-- What was put out before, with what comes next. -/
def Yield.behind (output : List Value) (yield : Yield) : Yield := (yield.1, output ++ yield.2)

/-- Repeat a body while a test holds, for at most so many rounds; a loop that the test ends goes on with
`otherwise`. -/
def repeated (test : Effect Bool) (body otherwise : Effect Yield) : (rounds : Nat) → Effect Yield
  | 0 => exhausted
  | rounds + 1 => do
    if ← test then
      match ← body with
      | (.leave, output) => return (.proceed, output)
      | (.finish value, output) => return (.finish value, output)
      | (.proceed, output) | (.again, output) =>
        return (← repeated test body otherwise rounds).behind output
    else otherwise

mutual

/-- Run a step; the values of fragments go through a converter. -/
def Step.run (call : Caller) (rounds : Nat) (here : Activation) (converter : Builtin) : Step → Effect Yield
  | .text content => return (.proceed, [.plain content])
  | .value line code => do
    let value ← evaluate call here code
    return (.proceed, [← located here line (call (.builtin converter) [value])])
  | .perform statement => do return (← Script.run call rounds here statement, [])
  | .branch test body otherwise => do
    let test ← evaluate call here test
    if ← holds test then runSteps call rounds here converter body
    else runSteps call rounds here converter otherwise
  | .loop test body otherwise =>
    repeated (do holds (← evaluate call here test)) (runSteps call rounds here converter body)
      (runSteps call rounds here converter otherwise) rounds
  | .each line target source body otherwise => do
    let source ← evaluate call here source
    let iterator ← located here line (iterate source)
    repeated (nextRound call here line target iterator) (runSteps call rounds here converter body)
      (runSteps call rounds here converter otherwise) rounds

/-- Run steps one after the other. -/
def runSteps (call : Caller) (rounds : Nat) (here : Activation) (converter : Builtin) :
    List Step → Effect Yield
  | [] => return (.proceed, [])
  | step :: steps => do
    match ← step.run call rounds here converter with
    | (.proceed, output) => return (← runSteps call rounds here converter steps).behind output
    | yield => return yield

end

/-- The text that values put out make together, when all of them are texts. -/
def outputOf? : List Value → Option Text
  | [] => some []
  | .text _ _ content :: values => (outputOf? values).map (content ++ ·)
  | _ => none

end Stencil
