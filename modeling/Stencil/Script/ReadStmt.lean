import Stencil.Script.ReadExpr

/-!
# Reading statements

A logical line holds simple statements or the head of a compound one.  The suite of a head is what follows its colon
on the same line, or else the lines that are indented further than the head.
-/

namespace Stencil.Script

/-- The target that an expression stands for, if it is one. -/
def targetOf? : Expr → Option Target
  | .name _ name => some (.name name)
  | .attribute line object name => some (.attribute line object name)
  | .item line object index => some (.item line object index)
  | .tuple items => (targetsOf? items).map .tuple
  | .list items => (targetsOf? items).map .tuple
  | _ => none
where
  /-- The targets that a list of expressions stands for. -/
  targetsOf? : List Expr → Option (List Target)
    | [] => some []
    | item :: items => do return (← targetOf? item) :: (← targetsOf? items)

/-- The target of one value that an expression stands for, if it is one. -/
def singleTargetOf? (value : Expr) : Option Target :=
  match targetOf? value with
  | some (.tuple _) => none
  | found => found

/-- The operation of an updating assignment at the next token. -/
def updateOperation? (tokens : List Placed) : Option BinaryOp :=
  if atMark "+=" tokens then some .add
  else if atMark "-=" tokens then some .subtract
  else if atMark "*=" tokens then some .multiply
  else if atMark "//=" tokens then some .floorDivide
  else if atMark "%=" tokens then some .modulo
  else none

/-- Whether a simple statement ends before the next token. -/
def atEnd (tokens : List Placed) : Bool := tokens.isEmpty || atMark ";" tokens

/-- Read a star with its operand, when no comma makes a tuple of it. -/
def readSpread (tokens : List Placed) : Option (Found Stmt) := do
  let (_, rest) ← readSum (stepsFor tokens) tokens.tail
  if atEnd rest then return (.spread (lineOf tokens), rest) else none

/-- Read the targets and the value after an equals sign; `value` is what stood before it. -/
def readAssignment (line : Nat) (targets : List Target) (value : Expr) :
    (steps : Nat) → List Placed → Option (Found Stmt)
  | 0, _ => none
  | steps + 1, tokens =>
    if atMark "=" tokens && atMark "*" tokens.tail then readSpread tokens.tail
    else if atMark "=" tokens then do
      let target ← targetOf? value
      let (next, rest) ← readValue tokens.tail
      readAssignment line (targets ++ [target]) next steps rest
    else
      some (if targets.isEmpty then .evaluate line value else .assign line targets value, tokens)

/-- Read one simple statement. -/
def readSimple (tokens : List Placed) : Option (Found Stmt) :=
  let line := lineOf tokens
  if atWord "pass" tokens then some (.nothing, tokens.tail)
  else if atWord "break" tokens then some (.leaveLoop line, tokens.tail)
  else if atWord "continue" tokens then some (.nextRound line, tokens.tail)
  else if atWord "return" tokens then
    if atEnd tokens.tail then some (.giveBack line none, tokens.tail)
    else if atMark "*" tokens.tail then readSpread tokens.tail
    else do
      let (value, rest) ← readValue tokens.tail
      return (.giveBack line (some value), rest)
  else if atWord "raise" tokens then
    if atEnd tokens.tail then some (.fail line none, tokens.tail)
    else do
      let (error, rest) ← readSingle tokens.tail
      return (.fail line (some error), rest)
  else if atMark "*" tokens then readSpread tokens
  else do
    let (value, rest) ← readValue tokens
    match updateOperation? rest with
    | some operation =>
      let target ← singleTargetOf? value
      if atMark "*" rest.tail then readSpread rest.tail
      else
        let (operand, rest) ← readValue rest.tail
        return (.update line target operation operand, rest)
    | none => readAssignment line [] value (rest.length + 1) rest

/-- Read simple statements up to the end of a logical line. -/
def readSimples : (steps : Nat) → List Placed → Option (List Stmt)
  | 0, _ => none
  | steps + 1, tokens => do
    let (statement, rest) ← readSimple tokens
    if rest.isEmpty then return [statement]
    else if atMark ";" rest then
      if rest.tail.isEmpty then return [statement]
      else return statement :: (← readSimples steps rest.tail)
    else none

/-- Read the simple statements of a whole logical line. -/
def readLine (tokens : List Placed) : Option (List Stmt) := readSimples (tokens.length + 1) tokens

/-- The head of a compound statement. -/
inductive Head where
  | branch (test : Expr)
  | loop (test : Expr)
  | each (target : Target) (source : Expr)
  | define (name : Text) (parameters : List Parameter)
  | attempt
  deriving Repr

/-- Read the parameters of a definition, up to the closing bracket. -/
def readParameters : (steps : Nat) → List Placed → Option (Found (List Parameter))
  | 0, _ => none
  | steps + 1, tokens =>
    if atMark ")" tokens then some ([], tokens.tail)
    else do
      let line := lineOf tokens
      let (name, rest) ← readName tokens
      if atMark "," rest then
        let (parameters, rest) ← readParameters steps rest.tail
        return (⟨name, line⟩ :: parameters, rest)
      else
        let (_, rest) ← expectMark ")" rest
        return ([⟨name, line⟩], rest)

/-- Read targets with commas between them, and whether there was any comma; a comma may stand before
the word that introduces the source of a loop. -/
def readTargets : (steps : Nat) → List Placed → Option (Found (List Target × Bool))
  | 0, _ => none
  | steps + 1, tokens => do
    let (first, rest) ← readFactor (stepsFor tokens) tokens
    let target ← targetOf? first
    if atMark "," rest then
      if atWord "in" rest.tail then return (([target], true), rest.tail)
      else
        let ((targets, _), rest) ← readTargets steps rest.tail
        return ((target :: targets, true), rest)
    else return (([target], false), rest)

/-- Read the target of a loop, which is a tuple when it has a comma. -/
def readLoopTarget (tokens : List Placed) : Option (Found Target) := do
  match ← readTargets (tokens.length + 1) tokens with
  | (([target], false), rest) => return (target, rest)
  | ((targets, _), rest) => return (.tuple targets, rest)

/-- Read the head of a compound statement with its colon, when the line starts with its word. -/
def readHead? (tokens : List Placed) : Option (Option (Found Head)) :=
  let rest := tokens.tail
  let closed (found : Found Head) : Option (Found Head) := do
    let (_, rest) ← expectMark ":" found.2
    return (found.1, rest)
  if atWord "if" tokens then some do
    let (test, rest) ← readSingle rest
    closed (.branch test, rest)
  else if atWord "while" tokens then some do
    let (test, rest) ← readSingle rest
    closed (.loop test, rest)
  else if atWord "for" tokens then some do
    let (target, rest) ← readLoopTarget rest
    let (_, rest) ← expectWord "in" rest
    let (source, rest) ← readValue rest
    closed (.each target source, rest)
  else if atWord "def" tokens then some do
    let (name, rest) ← readName rest
    let (_, rest) ← expectMark "(" rest
    let (parameters, rest) ← readParameters (rest.length + 1) rest
    closed (.define name parameters, rest)
  else if atWord "try" tokens then some (closed (.attempt, rest))
  else none

/-- Read the kind of errors that a handler is for and the name that an error is bound to, with the colon. -/
def readHandlerHead (tokens : List Placed) : Option (Found (Option Expr × Option Text)) :=
  if atMark ":" tokens then some ((none, none), tokens.tail)
  else do
    let (kind, rest) ← readSingle tokens
    let (binding, rest) ←
      if atWord "as" rest then (readName rest.tail).map fun (name, rest) => (some name, rest)
      else some (none, rest)
    let (_, rest) ← expectMark ":" rest
    return ((some kind, binding), rest)

/-- Read the subject of a choice, when the line is the head of one. -/
def readSubject? (tokens : List Placed) : Option Expr :=
  if atWord "match" tokens then do
    let (subject, rest) ← readValue tokens.tail
    let (_, rest) ← expectMark ":" rest
    if rest.isEmpty then return subject else none
  else none

/-- Read a pattern of a choice. -/
def readPattern (tokens : List Placed) : Option (Found Pattern) :=
  if atWord "_" tokens then some (.anything, tokens.tail)
  else do
    let (value, rest) ← readFactor (stepsFor tokens) tokens
    match value with
    | .constant constant => return (.constant constant, rest)
    | .name _ name => return (.capture name, rest)
    | .negate _ (.constant (.int number)) => return (.constant (.int (-number)), rest)
    | _ => none

/-- What was read, with the logical lines after it. -/
abbrev Read (α : Type) := α × List LogicalLine

/-- The first of the logical lines, if it is at an indentation and starts with a word. -/
def lineAt? (indent : Indent) (word : String) : List LogicalLine → Option (LogicalLine × List LogicalLine)
  | line :: lines =>
    if line.indent = indent ∧ atWord word line.tokens then some (line, lines) else none
  | [] => none

mutual

/-- Read the statements at an indentation, up to a line that is indented less. -/
def readBlock (indent : Indent) : (steps : Nat) → List LogicalLine → Option (Read (List Stmt))
  | 0, _ => none
  | _ + 1, [] => some ([], [])
  | steps + 1, line :: lines =>
    if line.indent.wide < indent.wide then some ([], line :: lines)
    else if indent.wide < line.indent.wide then none
    else do
      let (statements, rest) ← readStatement steps line lines
      let (more, rest) ← readBlock indent steps rest
      return (statements ++ more, rest)
termination_by structural steps _ => steps

/-- Read the suite of a head, with the tokens behind its colon on the same line. -/
def readSuite (head : LogicalLine) (beside : List Placed) :
    (steps : Nat) → List LogicalLine → Option (Read (List Stmt))
  | 0, _ => none
  | steps + 1, lines =>
    if beside.isEmpty then
      match lines with
      | [] => none
      | line :: _ =>
        if head.indent.wide < line.indent.wide then readBlock line.indent steps lines else none
    else (readLine beside).map fun statements => (statements, lines)
termination_by structural steps _ => steps

/-- Read the rest of a conditional after its first suite: further conditions, or the last suite. -/
def readElse (indent : Indent) : (steps : Nat) → List LogicalLine → Option (Read (List Stmt))
  | 0, _ => none
  | steps + 1, lines =>
    match lineAt? indent "elif" lines with
    | some (head, rest) => do
      let (test, tokens) ← readSingle head.tokens.tail
      let (_, tokens) ← expectMark ":" tokens
      let (body, rest) ← readSuite head tokens steps rest
      let (otherwise, rest) ← readElse indent steps rest
      return ([.branch head.start test body otherwise], rest)
    | none => readOtherwise indent steps lines
termination_by structural steps _ => steps

/-- Read the suite of an `else`, if there is one. -/
def readOtherwise (indent : Indent) : (steps : Nat) → List LogicalLine → Option (Read (List Stmt))
  | 0, _ => none
  | steps + 1, lines =>
    match lineAt? indent "else" lines with
    | some (head, rest) => do
      let (_, tokens) ← expectMark ":" head.tokens.tail
      readSuite head tokens steps rest
    | none => some ([], lines)
termination_by structural steps _ => steps

/-- Read the handlers after a guarded suite. -/
def readHandlers (indent : Indent) : (steps : Nat) → List LogicalLine → Option (Read (List Handler))
  | 0, _ => none
  | steps + 1, lines =>
    match lineAt? indent "except" lines with
    | some (head, rest) => do
      let ((kind, binding), tokens) ← readHandlerHead head.tokens.tail
      let (body, rest) ← readSuite head tokens steps rest
      let (handlers, rest) ← readHandlers indent steps rest
      return (.mk head.start kind binding body :: handlers, rest)
    | none => some ([], lines)
termination_by structural steps _ => steps

/-- Read the suite of a `finally`, if there is one. -/
def readCleanup (indent : Indent) : (steps : Nat) → List LogicalLine → Option (Read (Option (List Stmt)))
  | 0, _ => none
  | steps + 1, lines =>
    match lineAt? indent "finally" lines with
    | some (head, rest) => do
      let (_, tokens) ← expectMark ":" head.tokens.tail
      let (body, rest) ← readSuite head tokens steps rest
      return (some body, rest)
    | none => some (none, lines)
termination_by structural steps _ => steps

/-- Read the arms of a choice at an indentation. -/
def readArms (indent : Indent) : (steps : Nat) → List LogicalLine → Option (Read (List Arm))
  | 0, _ => none
  | _ + 1, [] => some ([], [])
  | steps + 1, line :: lines =>
    if line.indent.wide < indent.wide then some ([], line :: lines)
    else if line.indent.wide = indent.wide ∧ atWord "case" line.tokens then do
      let (pattern, tokens) ← readPattern line.tokens.tail
      let (_, tokens) ← expectMark ":" tokens
      let (body, rest) ← readSuite line tokens steps lines
      let (arms, rest) ← readArms indent steps rest
      return (.mk line.start pattern body :: arms, rest)
    else none
termination_by structural steps _ => steps

/-- Read the statements that start with a logical line. -/
def readStatement : (steps : Nat) → LogicalLine → List LogicalLine → Option (Read (List Stmt))
  | 0, _, _ => none
  | steps + 1, line, lines => do
    let start := line.start
    match readHead? line.tokens with
    | some result =>
      let (head, tokens) ← result
      let (body, rest) ← readSuite line tokens steps lines
      match head with
      | .branch test =>
        let (otherwise, rest) ← readElse line.indent steps rest
        return ([.branch start test body otherwise], rest)
      | .loop test =>
        let (otherwise, rest) ← readOtherwise line.indent steps rest
        return ([.loop start test body otherwise], rest)
      | .each target source =>
        let (otherwise, rest) ← readOtherwise line.indent steps rest
        return ([.each start target source body otherwise], rest)
      | .define name parameters => return ([.define start name parameters body], rest)
      | .attempt =>
        let (handlers, rest) ← readHandlers line.indent steps rest
        let (otherwise, rest) ←
          if handlers.isEmpty then some ([], rest) else readOtherwise line.indent steps rest
        let (cleanup, rest) ← readCleanup line.indent steps rest
        if handlers.isEmpty && cleanup.isNone then none
        else return ([.attempt start body handlers otherwise (cleanup.getD [])], rest)
    | none =>
      match readSubject? line.tokens with
      | some subject =>
        match lines with
        | next :: _ =>
          if line.indent.wide < next.indent.wide then
            let (arms, rest) ← readArms next.indent steps lines
            return ([.choose start subject arms], rest)
          else none
        | [] => none
      | none => return (← readLine line.tokens, lines)
termination_by structural steps _ _ => steps

end

end Stencil.Script
