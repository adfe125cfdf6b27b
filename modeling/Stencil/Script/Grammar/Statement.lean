import Stencil.Script.Grammar.Pattern
import Stencil.Script.Grammar.Target

/-!
# The grammar of statements

Simple statements stand on a line, compound ones have suites.  A head without its colon and a suite that is not
indented have messages of their own.
-/

namespace Stencil.Script.Grammar

open Probe

/-- The end of a line. -/
def lineEnd : Probe Unit := skip (symbol .newline)

/-- The message for a head without its colon. -/
def missingColon : Text := "expected ':'"

/-- A line that ends where its colon should stand. -/
def colonMistake {α : Type} : Probe α := do
  lineEnd
  refuseLast missingColon

/-- A head, which stands on a given line, with a suite that is not indented. -/
def suiteMistake {α : Type} (head : Text) (line : Nat) : Probe α := do
  let _ ← mark ":"
  lineEnd
  notAhead (symbol .indent)
  refuseIndent ("expected an indented block after " ++ head ++ " on line " ++ Text.ofNat line)

/-- The message part for a head that starts with a keyword. -/
def statementHead (keyword : String) : Text := "'" ++ (keyword : Text) ++ "' statement"

/-- The marks of assignments that update their target. -/
def updateMark : Probe Nat :=
  oneMark ["+=", "-=", "*=", "@=", "/=", "%=", "&=", "|=", "^=", "<<=", ">>=", "**=", "//="]

/-- Targets with equals signs behind them. -/
def assignedTarget (r : Lookup) : Probe Unit := do
  let _ ← starTargets r
  skip (mark "=")

/-- An annotation of something that cannot be annotated, or an assignment to something that is no target. -/
def assignmentMistake (r : Lookup) : Probe Unit :=
  firstOf
    [do
      let target ← r .annotationTarget
      let _ ← mark ":"
      let _ ← r .expression
      refuseAt target.line
        ("only single target (not " ++ target.form.describe ++ ") can be annotated"),
     do
      let first ← starNamedExpression r
      let _ ← mark ","
      let _ ← many (starNamedExpressions r)
      let _ ← mark ":"
      let _ ← r .expression
      refuseAt first.line "only single target (not tuple) can be annotated",
     do
      let target ← r .expression
      let _ ← mark ":"
      let _ ← r .expression
      refuseAt target.line "illegal target for annotation",
     do
      let _ ← many (assignedTarget r)
      let target ← starExpressions r
      let _ ← mark "="
      refuseTarget .assigning target,
     do
      let _ ← many (assignedTarget r)
      let target ← yieldExpression r
      let _ ← mark "="
      refuseAt target.line "assignment to yield expression not possible",
     do
      let target ← starExpressions r
      let _ ← updateMark
      let _ ← yieldOrExpressions r
      refuseAt target.line
        ("'" ++ target.form.describe ++ "' is an illegal expression for augmented assignment")]

/-- The annotation of a target, and the value that is assigned to it. -/
def annotated (r : Lookup) : Probe Unit := do
  let _ ← mark ":"
  let _ ← r .expression
  skip (maybe do
    let _ ← mark "="
    yieldOrExpressions r)

/-- An assignment. -/
def assignment (r : Lookup) : Probe Unit :=
  firstOf
    [do
      let _ ← name
      annotated r,
     do
      let _ ← firstOf
        [do
          let _ ← mark "("
          let target ← r .singleTarget
          let _ ← mark ")"
          return target,
         memberTarget r]
      annotated r,
     do
      let _ ← atLeastOne (assignedTarget r)
      let _ ← yieldOrExpressions r
      notAhead (mark "="),
     do
      let _ ← r .singleTarget
      let _ ← updateMark
      commit (skip (yieldOrExpressions r)),
     whenStrict (assignmentMistake r)]

/-- A dotted name. -/
def dottedName : Probe Unit := skip (separated (mark ".") name)

/-- Another name for what is imported. -/
def otherName : Probe Unit := skip (maybe do
  let _ ← word "as"
  name)

/-- The names that are imported from a module. -/
def importedNames : Probe Unit := skip (separated (mark ",") do
  let _ ← name
  otherName)

/-- What is imported from a module. -/
def importTargets : Probe Unit :=
  firstOf
    [do
      let _ ← mark "("
      importedNames
      let _ ← maybe (mark ",")
      skip (mark ")"),
     do
      importedNames
      notAhead (mark ","),
     skip (mark "*"),
     whenStrict do
      importedNames
      let _ ← mark ","
      lineEnd
      refuseLast "trailing comma not allowed without surrounding parentheses"]

/-- An import. -/
def importStatement : Probe Unit :=
  firstOf
    [do
      let _ ← word "import"
      skip (separated (mark ",") do
        dottedName
        otherName),
     do
      let _ ← word "from"
      let _ ← many (oneMark [".", "..."])
      dottedName
      let _ ← word "import"
      importTargets,
     do
      let _ ← word "from"
      let _ ← atLeastOne (oneMark [".", "..."])
      let _ ← word "import"
      importTargets]

/-- A statement that deletes something. -/
def deleteStatement (r : Lookup) : Probe Unit :=
  firstOf
    [do
      let _ ← word "del"
      deleteTargets r
      ahead (firstOf [skip (mark ";"), lineEnd]),
     whenStrict do
      let _ ← word "del"
      refuseTarget .deleting (← starExpressions r)]

/-- A statement that starts with a word. -/
def ledBy (keyword : String) (probe : Probe Unit) : Probe Unit := do
  let _ ← word keyword
  probe

/-- A list of names. -/
def nameList : Probe Unit := skip (separated (mark ",") name)

/-- A simple statement. -/
def simpleStatement (r : Lookup) : Probe Tree :=
  whole .other (firstOf
    [assignment r,
     skip (starExpressions r),
     ledBy "return" (skip (maybe (starExpressions r))),
     do
      ahead (oneWord ["import", "from"])
      importStatement,
     firstOf
      [ledBy "raise" do
        let _ ← r .expression
        skip (maybe do
          let _ ← word "from"
          r .expression),
       ledBy "raise" (pure ())],
     ledBy "pass" (pure ()),
     do
      ahead (word "del")
      deleteStatement r,
     do
      ahead (word "yield")
      skip (yieldExpression r),
     ledBy "assert" do
      let _ ← r .expression
      skip (maybe do
        let _ ← mark ","
        r .expression),
     ledBy "break" (pure ()),
     ledBy "continue" (pure ()),
     ledBy "global" nameList,
     ledBy "nonlocal" nameList])

/-- Simple statements on one line. -/
def simpleStatements (r : Lookup) : Probe Unit :=
  firstOf
    [do
      let _ ← r .simpleStatement
      notAhead (mark ";")
      lineEnd,
     do
      let _ ← separated (mark ";") (r .simpleStatement)
      let _ ← maybe (mark ";")
      lineEnd]

/-- The suite of a head. -/
def block (r : Lookup) : Probe Tree :=
  whole .other (firstOf
    [do
      lineEnd
      let _ ← symbol .indent
      let _ ← r .statements
      skip (symbol .dedent),
     simpleStatements r,
     whenStrict do
      lineEnd
      notAhead (symbol .indent)
      refuseIndent "expected an indented block"])

/-- The colon and the suite of a head. -/
def suite (r : Lookup) : Probe Unit := do
  let _ ← mark ":"
  skip (r .block)

/-- The suite of a head whose colon has to come next. -/
def demandedSuite (r : Lookup) : Probe Unit := do
  let _ ← demand ":"
  skip (r .block)

/-- The functions that are applied to a definition. -/
def decorators (r : Lookup) : Probe Unit :=
  skip (atLeastOne do
    let _ ← mark "@"
    let _ ← r .namedExpression
    lineEnd)

/-- The type of a definition's result. -/
def resultType (r : Lookup) : Probe Unit := skip (maybe do
  let _ ← mark "->"
  r .expression)

/-- A definition behind the word that may make it asynchronous. -/
def definition (r : Lookup) : Probe Unit := do
  let _ ← word "def"
  let _ ← name
  let _ ← demand "("
  let _ ← maybe (parameters r .named)
  let _ ← mark ")"
  resultType r
  demandedSuite r

/-- A definition of a function. -/
def functionDefinition (r : Lookup) : Probe Unit :=
  let plain := firstOf
    [whenStrict do
      let _ ← maybe (word "async")
      let line ← word "def"
      let _ ← name
      let _ ← mark "("
      let _ ← maybe (parameters r .named)
      let _ ← mark ")"
      resultType r
      suiteMistake "function definition" line,
     definition r,
     ledBy "async" (definition r)]
  firstOf
    [do
      decorators r
      plain,
     plain]

/-- The bases of a class. -/
def bases (r : Lookup) : Probe Unit := skip (maybe do
  let _ ← mark "("
  let _ ← maybe (r .arguments)
  mark ")")

/-- A definition of a class. -/
def classDefinition (r : Lookup) : Probe Unit :=
  let head : Probe Nat := do
    let line ← word "class"
    let _ ← name
    bases r
    return line
  let plain := firstOf
    [whenStrict (firstOf
      [do
        let _ ← head
        colonMistake,
       do
        suiteMistake "class definition" (← head)]),
     do
      let _ ← head
      suite r]
  firstOf
    [do
      decorators r
      plain,
     plain]

/-- The suite behind an `else`. -/
def elseBlock (r : Lookup) : Probe Unit :=
  firstOf
    [whenStrict do
      let line ← word "else"
      suiteMistake (statementHead "else") line,
     do
      let _ ← word "else"
      demandedSuite r]

/-- A conditional that starts with a given word. -/
def conditional (r : Lookup) (keyword : String) : Probe Unit :=
  let head : Probe Nat := do
    let line ← word keyword
    let _ ← r .namedExpression
    return line
  firstOf
    [whenStrict (firstOf
      [do
        let _ ← head
        colonMistake,
       do
        suiteMistake (statementHead keyword) (← head)]),
     do
      let _ ← head
      suite r
      skip (r .elifBranch),
     do
      let _ ← head
      suite r
      skip (maybe (elseBlock r))]

/-- A loop that goes on while a condition holds. -/
def whileLoop (r : Lookup) : Probe Unit :=
  let head : Probe Nat := do
    let line ← word "while"
    let _ ← r .namedExpression
    return line
  firstOf
    [whenStrict (firstOf
      [do
        let _ ← head
        colonMistake,
       do
        suiteMistake (statementHead "while") (← head)]),
     do
      let _ ← head
      suite r
      skip (maybe (elseBlock r))]

/-- A loop over the members of something. -/
def forLoop (r : Lookup) : Probe Unit :=
  let head : Probe Nat := do
    let _ ← maybe (word "async")
    let line ← word "for"
    let _ ← starTargets r
    let _ ← word "in"
    let _ ← starExpressions r
    return line
  let loop : Probe Unit := do
    let _ ← word "for"
    let _ ← starTargets r
    let _ ← word "in"
    commit do
      let _ ← starExpressions r
      suite r
      skip (maybe (elseBlock r))
  firstOf
    [whenStrict (firstOf
      [do
        let _ ← head
        colonMistake,
       do
        suiteMistake (statementHead "for") (← head)]),
     loop,
     do
      let _ ← word "async"
      loop,
     whenStrict (skip (loopTargetMistake r))]

/-- A resource, and the target that it is bound to. -/
def withItem (r : Lookup) : Probe Unit :=
  let enclosed : Probe Unit := ahead (oneMark [",", ")", ":"])
  firstOf
    [do
      let _ ← r .expression
      let _ ← word "as"
      let _ ← r .starTarget
      enclosed,
     whenStrict (firstOf
      [do
        let _ ← r .expression
        let _ ← word "as"
        let target ← r .expression
        enclosed
        refuseTarget .assigning target]),
     skip (r .expression)]

/-- A statement that holds resources. -/
def withStatement (r : Lookup) : Probe Unit :=
  let bound (resource : Probe Tree) : Probe Unit := do
    let _ ← resource
    skip (maybe do
      let _ ← word "as"
      r .starTarget)
  let head (inside : Probe Unit) : Probe Nat := do
    let _ ← maybe (word "async")
    let line ← word "with"
    inside
    return line
  let open' : Probe Unit := skip (separated (mark ",") (bound (r .expression)))
  let bracketed : Probe Unit := do
    let _ ← mark "("
    let _ ← separated (mark ",") (bound (expressions r))
    let _ ← maybe (mark ",")
    skip (mark ")")
  let plain : Probe Unit := firstOf
    [do
      let _ ← word "with"
      let _ ← mark "("
      let _ ← separated (mark ",") (withItem r)
      let _ ← maybe (mark ",")
      let _ ← mark ")"
      suite r,
     do
      let _ ← word "with"
      let _ ← separated (mark ",") (withItem r)
      suite r]
  firstOf
    [whenStrict (firstOf
      [do
        suiteMistake (statementHead "with") (← head open'),
       do
        suiteMistake (statementHead "with") (← head bracketed)]),
     plain,
     do
      let _ ← word "async"
      plain,
     whenStrict (firstOf
      [do
        let _ ← head open'
        colonMistake,
       do
        let _ ← head bracketed
        colonMistake])]

/-- The name that an error is bound to. -/
def errorName : Probe Unit := skip (maybe do
  let _ ← word "as"
  name)

/-- A handler without its colon, or without its kind of errors. -/
def handlerMistake (r : Lookup) : Probe Unit :=
  firstOf
    [do
      let _ ← word "except"
      let _ ← maybe (mark "*")
      let first ← r .expression
      let _ ← mark ","
      let _ ← expressions r
      errorName
      let _ ← mark ":"
      refuseAt first.line "multiple exception types must be parenthesized",
     do
      let _ ← word "except"
      let _ ← maybe (mark "*")
      let _ ← r .expression
      errorName
      colonMistake,
     do
      let _ ← word "except"
      colonMistake,
     do
      let _ ← word "except"
      let _ ← mark "*"
      firstOf [lineEnd, skip (mark ":")]
      refuseLast "expected one or more exception types"]

/-- A handler. -/
def handler (r : Lookup) : Probe Unit :=
  firstOf
    [whenStrict (firstOf
      [do
        let line ← word "except"
        let _ ← r .expression
        errorName
        suiteMistake (statementHead "except") line,
       do
        let line ← word "except"
        suiteMistake (statementHead "except") line]),
     do
      let _ ← word "except"
      let _ ← r .expression
      errorName
      suite r,
     do
      let _ ← word "except"
      suite r,
     whenStrict (handlerMistake r)]

/-- A handler for groups of errors. -/
def groupHandler (r : Lookup) : Probe Unit :=
  let head : Probe Nat := do
    let line ← word "except"
    let _ ← mark "*"
    let _ ← r .expression
    errorName
    return line
  firstOf
    [whenStrict do
      suiteMistake (statementHead "except*") (← head),
     do
      let _ ← head
      suite r,
     whenStrict (handlerMistake r)]

/-- The suite behind a `finally`. -/
def finallyBlock (r : Lookup) : Probe Unit :=
  firstOf
    [whenStrict do
      let line ← word "finally"
      suiteMistake (statementHead "finally") line,
     do
      let _ ← word "finally"
      demandedSuite r]

/-- A guarded suite whose handlers are missing or of two kinds. -/
def guardMistake (r : Lookup) : Probe Unit :=
  firstOf
    [do
      let line ← word "try"
      suiteMistake (statementHead "try") line,
     do
      let _ ← word "try"
      suite r
      notAhead (oneWord ["except", "finally"])
      refuseLast "expected 'except' or 'finally' block",
     do
      let _ ← word "try"
      let _ ← mark ":"
      let _ ← many (r .block)
      firstOf
        [do
          let _ ← atLeastOne (handler r)
          groupHandler r,
         do
          let _ ← atLeastOne (groupHandler r)
          handler r]
      let _ ← many (r .block)
      refuseLast "cannot have both 'except' and 'except*' on the same 'try'"]

/-- A guarded suite. -/
def guarded (r : Lookup) : Probe Unit :=
  let head : Probe Unit := do
    let _ ← word "try"
    demandedSuite r
  let rest : Probe Unit := do
    let _ ← maybe (elseBlock r)
    skip (maybe (finallyBlock r))
  firstOf
    [whenStrict (guardMistake r),
     do
      head
      finallyBlock r,
     do
      head
      let _ ← atLeastOne (handler r)
      rest,
     do
      head
      let _ ← atLeastOne (groupHandler r)
      rest]

/-- The condition of an arm. -/
def armCondition (r : Lookup) : Probe Unit := skip (maybe do
  let _ ← word "if"
  r .namedExpression)

/-- An arm of a choice. -/
def arm (r : Lookup) : Probe Unit :=
  let head : Probe Nat := do
    let line ← word "case"
    patterns r
    armCondition r
    return line
  firstOf
    [whenStrict (firstOf
      [do
        let _ ← head
        colonMistake,
       do
        suiteMistake (statementHead "case") (← head)]),
     do
      let _ ← head
      suite r]

/-- The subject of a choice. -/
def subject (r : Lookup) : Probe Unit :=
  firstOf
    [do
      let _ ← starNamedExpression r
      let _ ← mark ","
      skip (maybe (starNamedExpressions r)),
     skip (r .namedExpression)]

/-- A choice. -/
def choice (r : Lookup) : Probe Unit :=
  let head : Probe Nat := do
    let line ← word "match"
    subject r
    return line
  firstOf
    [do
      let _ ← head
      let _ ← mark ":"
      lineEnd
      let _ ← symbol .indent
      let _ ← atLeastOne (arm r)
      skip (symbol .dedent),
     whenStrict (firstOf
      [do
        let _ ← head
        colonMistake,
       do
        suiteMistake (statementHead "match") (← head)])]

/-- A compound statement. -/
def compoundStatement (r : Lookup) : Probe Unit :=
  let atStart (marks words : List String) (probe : Probe Unit) : Probe Unit := do
    ahead (firstOf [oneMark marks, oneWord words])
    probe
  firstOf
    [atStart ["@"] ["def", "async"] (functionDefinition r),
     atStart [] ["if"] (conditional r "if"),
     atStart ["@"] ["class"] (classDefinition r),
     atStart [] ["with", "async"] (withStatement r),
     atStart [] ["for", "async"] (forLoop r),
     atStart [] ["try"] (guarded r),
     atStart [] ["while"] (whileLoop r),
     choice r]

/-- Statements. -/
def statements (r : Lookup) : Probe Unit :=
  skip (atLeastOne (firstOf [compoundStatement r, simpleStatements r]))

/-- A whole script. -/
def script (r : Lookup) : Probe Unit := do
  let _ ← maybe (r .statements)
  skip (symbol .finish)

end Stencil.Script.Grammar
