import Stencil.Script.Grammar.Parameter

/-!
# The grammar of expressions

One probe for each form of expression, from the loosest operators to the tightest, and one for each mistake that
has a message of its own.
-/

namespace Stencil.Script.Grammar

open Probe

/-- The line and the text of one of several words. -/
def constantWord (words : List String) : Probe (Nat × Text) :=
  firstOf (words.map fun wanted => do return (← word wanted, wanted.toList))

/-- A constant with a name. -/
def constant : Probe Tree := do
  let (line, text) ← constantWord ["True", "False", "None"]
  return .node (.constant text) line []

/-- A number. -/
def number : Probe Tree := do
  let found ← entry
  match found.symbol with
  | .token (.vast digits) => refuseAt found.line (tooManyDigits digits)
  | .token (.integer _) | .token .fraction | .token .imaginary => return .node .literal found.line []
  | _ => miss

/-- Whether a symbol is a literal. -/
def isLiteral : Symbol → Bool
  | .token (.string _) | .token .bytes | .token .formatted | .token (.spoiled _ _) => true
  | _ => false

/-- What neighbouring literals make together, when those before them are of bytes or not. -/
def joinLiterals (bytes : Option Bool) (form : Form) : List Entry → Probe Form
  | [] => return form
  | found :: rest => do
    let (ofBytes, form) ← match found.symbol with
      | .token (.spoiled message _) => refuseLast message
      | .token .bytes => pure (true, form)
      | .token .formatted => pure (false, Form.formatted)
      | _ => pure (false, form)
    if bytes == some (!ofBytes) then refuseLast "cannot mix bytes and nonbytes literals"
    else joinLiterals (some ofBytes) form rest

/-- Neighbouring literals. -/
def strings : Probe Tree := do
  let line ← lineHere
  let found ← atLeastOne (entryThat isLiteral)
  return .node (← joinLiterals none .literal found) line []

/-- A word that starts like one that is a keyword only in some places. -/
def softKeyword : Probe Unit :=
  skip (entryThat fun found => match found with
    | .token (.word text) => !isKeyword text && softKeywords.any (Text.startsWith text)
    | _ => false)

/-- An expression that is followed by no assignment. -/
def unassigned (r : Lookup) : Probe Tree := do
  let value ← r .expression
  notAhead (mark ":=")
  return value

/-- An assignment inside of an expression. -/
def assignmentExpression (r : Lookup) : Probe Tree :=
  whole .assignment do
    let _ ← name
    let _ ← mark ":="
    r .expression

/-- An expression behind a star. -/
def starredExpression (r : Lookup) : Probe Tree :=
  firstOf
    [piece .starred do
      let _ ← mark "*"
      return [← r .expression],
     whenStrict do
      let _ ← mark "*"
      refuseLast "Invalid star expression"]

/-- An expression behind a star, or one that may be assigned to a name. -/
def starNamedExpression (r : Lookup) : Probe Tree :=
  firstOf
    [piece .starred do
      let _ ← mark "*"
      return [← r .bitwiseOr],
     r .namedExpression]

/-- Expressions with commas between them. -/
def starNamedExpressions (r : Lookup) : Probe (List Tree) := do
  let items ← separated (mark ",") (starNamedExpression r)
  let _ ← maybe (mark ",")
  return items

/-- An expression, or several with commas between them as a tuple. -/
def tupleOf (item : Probe Tree) : Probe Tree := do
  let line ← lineHere
  let first ← item
  let others ← many do
    let _ ← mark ","
    item
  let comma ← maybe (mark ",")
  return if others.isEmpty && comma.isNone then first else .node .tuple line (first :: others)

/-- Expressions, of which some may stand behind stars. -/
def starExpressions (r : Lookup) : Probe Tree := tupleOf (r .starExpression)

/-- Expressions. -/
def expressions (r : Lookup) : Probe Tree := tupleOf (r .expression)

/-- An expression that hands a value out. -/
def yieldExpression (r : Lookup) : Probe Tree :=
  whole .yielded (firstOf
    [do
      let _ ← word "yield"
      let _ ← word "from"
      skip (r .expression),
     do
      let _ ← word "yield"
      skip (maybe (starExpressions r))])

/-- An expression that hands a value out, or expressions. -/
def yieldOrExpressions (r : Lookup) : Probe Tree := firstOf [yieldExpression r, starExpressions r]

/-- The target of a loop that is none. -/
def loopTargetMistake (r : Lookup) : Probe Tree := do
  let _ ← maybe (word "async")
  let _ ← word "for"
  refuseTarget .looping (← starExpressions r)

/-- One loop of a comprehension behind its first word. -/
def comprehensionLoop (r : Lookup) : Probe Tree := do
  let _ ← word "for"
  let targets ← starTargets r
  let _ ← word "in"
  commit do
    let _ ← r .disjunction
    let _ ← many do
      let _ ← word "if"
      r .disjunction
    return targets

/-- The loops of a comprehension. -/
def comprehensionLoops (r : Lookup) : Probe Unit :=
  skip (atLeastOne (firstOf
    [do
      let _ ← word "async"
      comprehensionLoop r,
     comprehensionLoop r,
     whenStrict (loopTargetMistake r)]))

/-- The message for a comprehension whose first items need brackets. -/
def forgottenParentheses : Text := "did you forget parentheses around the comprehension target?"

/-- A comprehension over items that it cannot have. -/
def comprehensionMistake (r : Lookup) : Probe Tree :=
  firstOf
    [do
      let _ ← oneMark ["[", "(", "\x7b"]
      let item ← starredExpression r
      comprehensionLoops r
      refuseAt item.line "iterable unpacking cannot be used in comprehension",
     do
      let _ ← oneMark ["[", "\x7b"]
      let item ← starNamedExpression r
      let _ ← mark ","
      let _ ← starNamedExpressions r
      comprehensionLoops r
      refuseAt item.line forgottenParentheses,
     do
      let _ ← oneMark ["[", "\x7b"]
      let item ← starNamedExpression r
      let _ ← mark ","
      comprehensionLoops r
      refuseAt item.line forgottenParentheses]

/-- A generator between brackets. -/
def generator (r : Lookup) : Probe Tree :=
  firstOf
    [whole .generator do
      let _ ← mark "("
      let _ ← firstOf [assignmentExpression r, unassigned r]
      comprehensionLoops r
      mark ")",
     whenStrict (comprehensionMistake r)]

/-- A tuple between brackets. -/
def tuple (r : Lookup) : Probe Tree :=
  piece .tuple do
    let _ ← mark "("
    let items ← maybe do
      let first ← starNamedExpression r
      let _ ← mark ","
      let others ← maybe (starNamedExpressions r)
      return first :: others.getD []
    let _ ← mark ")"
    return items.getD []

/-- An expression between brackets. -/
def group (r : Lookup) : Probe Tree :=
  firstOf
    [do
      let _ ← mark "("
      let value ← firstOf [yieldExpression r, r .namedExpression]
      let _ ← mark ")"
      return value,
     whenStrict do
      let _ ← mark "("
      let value ← starredExpression r
      let _ ← mark ")"
      refuseAt value.line "cannot use starred expression here",
     whenStrict do
      let _ ← mark "("
      let line ← mark "**"
      let _ ← r .expression
      let _ ← mark ")"
      refuseAt line "cannot use double starred expression here"]

/-- A list. -/
def list (r : Lookup) : Probe Tree :=
  piece .list do
    let _ ← mark "["
    let items ← maybe (starNamedExpressions r)
    let _ ← mark "]"
    return items.getD []

/-- A list that is made by loops. -/
def listComprehension (r : Lookup) : Probe Tree :=
  firstOf
    [whole .listComprehension do
      let _ ← mark "["
      let _ ← r .namedExpression
      comprehensionLoops r
      mark "]",
     whenStrict (comprehensionMistake r)]

/-- An entry of a dictionary. -/
def dictEntry (r : Lookup) : Probe Unit := do
  let _ ← r .expression
  let _ ← mark ":"
  skip (r .expression)

/-- An entry of a dictionary, or a dictionary behind two stars. -/
def dictItem (r : Lookup) : Probe Unit :=
  firstOf
    [do
      let _ ← mark "**"
      skip (r .bitwiseOr),
     dictEntry r]

/-- An entry of a dictionary with a value that is none. -/
def dictValueMistake (r : Lookup) : List (Probe Unit) :=
  [do
    let _ ← r .expression
    let _ ← mark ":"
    let line ← mark "*"
    let _ ← r .bitwiseOr
    refuseAt line "cannot use a starred expression in a dictionary value",
   do
    let _ ← r .expression
    let line ← mark ":"
    ahead (oneMark ["\x7d", ","])
    refuseAt line "expression expected after dictionary key and ':'"]

/-- A key of a dictionary without a value. -/
def dictKeyMistake (r : Lookup) : Probe Unit := do
  let key ← r .expression
  notAhead (mark ":")
  refuseAt key.line "':' expected after dictionary key"

/-- The entries of a dictionary, of which one is none. -/
def dictMistake (r : Lookup) : Probe Unit :=
  firstOf
    ((do
      let _ ← separated (mark ",") (dictItem r)
      let _ ← mark ","
      firstOf (dictKeyMistake r :: dictValueMistake r)) :: dictValueMistake r)

/-- A dictionary. -/
def dict (r : Lookup) : Probe Tree :=
  whole .dict (firstOf
    [do
      let _ ← mark "\x7b"
      let _ ← maybe do
        let _ ← separated (mark ",") (dictItem r)
        maybe (mark ",")
      mark "\x7d",
     whenStrict do
      let _ ← mark "\x7b"
      dictMistake r
      mark "\x7d"])

/-- A set. -/
def set (r : Lookup) : Probe Tree :=
  whole .set do
    let _ ← mark "\x7b"
    let _ ← starNamedExpressions r
    mark "\x7d"

/-- A dictionary that is made by loops. -/
def dictComprehension (r : Lookup) : Probe Tree :=
  firstOf
    [whole .dictComprehension do
      let _ ← mark "\x7b"
      dictEntry r
      comprehensionLoops r
      mark "\x7d",
     whenStrict do
      let _ ← mark "\x7b"
      let line ← mark "**"
      let _ ← r .bitwiseOr
      comprehensionLoops r
      let _ ← mark "\x7d"
      refuseAt line "dict unpacking cannot be used in dict comprehension"]

/-- A set that is made by loops. -/
def setComprehension (r : Lookup) : Probe Tree :=
  firstOf
    [whole .setComprehension do
      let _ ← mark "\x7b"
      let _ ← r .namedExpression
      comprehensionLoops r
      mark "\x7d",
     whenStrict (comprehensionMistake r)]

/-- A name, a literal, or an expression between brackets. -/
def atom (r : Lookup) : Probe Tree :=
  firstOf
    [name,
     constant,
     do
      ahead (entryThat isLiteral)
      r .strings,
     number,
     do
      ahead (mark "(")
      firstOf [tuple r, group r, generator r],
     do
      ahead (mark "[")
      firstOf [list r, listComprehension r],
     do
      ahead (mark "\x7b")
      firstOf [dict r, set r, dictComprehension r, setComprehension r],
     whole .ellipsis (mark "...")]

/-- A slice, or an expression. -/
def slice (r : Lookup) : Probe Unit :=
  firstOf
    [do
      let _ ← maybe (r .expression)
      let _ ← mark ":"
      let _ ← maybe (r .expression)
      skip (maybe do
        let _ ← mark ":"
        maybe (r .expression)),
     skip (r .namedExpression)]

/-- What stands between the square brackets of a subscript. -/
def slices (r : Lookup) : Probe Unit :=
  firstOf
    [do
      slice r
      notAhead (mark ","),
     do
      let _ ← separated (mark ",") (firstOf [slice r, skip (starredExpression r)])
      skip (maybe (mark ","))]

/-- An attribute of what stands before. -/
def attributeTrailer (line : Nat) : Probe Tree := do
  let _ ← mark "."
  let _ ← name
  return .node .attribute line []

/-- A subscript of what stands before. -/
def subscriptTrailer (r : Lookup) (line : Nat) : Probe Tree := do
  let _ ← mark "["
  slices r
  let _ ← mark "]"
  return .node .subscript line []

/-- A call of what stands before with a generator alone. -/
def generatorTrailer (r : Lookup) (line : Nat) : Probe Tree := do
  let _ ← generator r
  return .node .call line []

/-- A call of what stands before. -/
def callTrailer (r : Lookup) (line : Nat) : Probe Tree := do
  let _ ← mark "("
  let _ ← maybe (r .arguments)
  let _ ← mark ")"
  return .node .call line []

/-- An atom with attributes, subscripts and calls. -/
def primary (r : Lookup) : Probe Tree := do
  let first ← atom r
  let line := first.line
  grow (fun _ => firstOf
    [attributeTrailer line, generatorTrailer r line, callTrailer r line, subscriptTrailer r line]) first

/-- What may follow an atom that is not a whole target. -/
def moreTarget : Probe Unit := ahead (oneMark ["(", "[", "."])

/-- An atom with attributes, subscripts and calls, behind which there is one more. -/
def targetPrimary (r : Lookup) : Probe Tree := do
  let before (probe : Probe Tree) : Probe Tree := do
    let found ← probe
    moreTarget
    return found
  let first ← before (atom r)
  let line := first.line
  grow (fun _ => firstOf
    [before (attributeTrailer line), before (subscriptTrailer r line), before (generatorTrailer r line),
     before (callTrailer r line)]) first

/-- Operands joined by operators of one level. -/
def joined (operators : List String) (operand : Probe Tree) : Probe Tree := do
  let line ← lineHere
  let first ← operand
  grow (fun _ => do
    let _ ← oneMark operators
    let _ ← operand
    return .node .operation line []) first

/-- Operands joined by a word. -/
def joinedByWord (operator : String) (operand : Probe Tree) : Probe Tree := do
  let line ← lineHere
  let first ← operand
  let others ← many do
    let _ ← word operator
    operand
  return if others.isEmpty then first else .node .operation line []

/-- A value that is waited for. -/
def awaited (r : Lookup) : Probe Tree :=
  firstOf
    [whole .awaited do
      let _ ← word "await"
      r .primary,
     r .primary]

/-- A value, which may be raised to a power. -/
def power (r : Lookup) : Probe Tree := do
  let line ← lineHere
  let base ← r .awaited
  let exponent ← maybe do
    let _ ← mark "**"
    r .factor
  return if exponent.isNone then base else .node .operation line []

/-- A factor, which may have signs in front. -/
def factor (r : Lookup) : Probe Tree :=
  firstOf
    [whole .operation do
      let _ ← oneMark ["+", "-", "~"]
      r .factor,
     power r]

/-- A comparison at the next symbols, and whether it tests for membership. -/
def comparisonOperator : Probe Bool :=
  firstOf
    [do
      let _ ← oneMark ["==", "!=", "<=", "<", ">=", ">"]
      return false,
     do
      let _ ← word "not"
      let _ ← word "in"
      return false,
     do
      let _ ← word "in"
      return true,
     do
      let _ ← word "is"
      let _ ← word "not"
      return false,
     do
      let _ ← word "is"
      return false]

/-- A comparison operator with its right side. -/
def comparedWith (r : Lookup) : Probe Bool := do
  let membership ← comparisonOperator
  let _ ← r .bitwiseOr
  return membership

/-- A value, or a comparison of values. -/
def comparison (r : Lookup) : Probe Tree := do
  let line ← lineHere
  let left ← r .bitwiseOr
  match ← many (comparedWith r) with
  | [] => return left
  | membership :: _ => return .node (if membership then .membership else .comparison) line [left]

/-- A comparison, which may be negated. -/
def inversion (r : Lookup) : Probe Tree :=
  firstOf
    [whole .operation do
      let _ ← word "not"
      r .inversion,
     comparison r]

/-- A function without a name. -/
def lambda (r : Lookup) : Probe Tree :=
  whole .lambda do
    let _ ← word "lambda"
    let _ ← maybe (parameters r .bare)
    let _ ← mark ":"
    r .expression

/-- An expression, apart from mistakes in it. -/
def plainExpression (r : Lookup) : Probe Tree :=
  firstOf
    [do
      let line ← lineHere
      let value ← r .disjunction
      firstOf
        [do
          let _ ← word "if"
          let _ ← r .disjunction
          let _ ← word "else"
          let _ ← r .expression
          return .node .conditional line [],
         pure value],
     lambda r]

/-- Whether an expression is a name that used to start statements. -/
def isFormerStatement (tree : Tree) : Bool :=
  tree.form == .name "print" || tree.form == .name "exec"

/-- Two expressions side by side, or a conditional expression without its second value. -/
def expressionMistake (r : Lookup) : Probe Tree :=
  firstOf
    [do
      notAhead (firstOf
        [do
          let _ ← name
          skip (entryThat isLiteral),
         softKeyword])
      let left ← r .disjunction
      let _ ← r .plainExpression
      let last ← lastEntry
      if isFormerStatement left || last.depth == 0 then decline
      else refuseAt left.line "invalid syntax. Perhaps you forgot a comma?",
     do
      let value ← r .disjunction
      let _ ← word "if"
      let _ ← r .disjunction
      notAhead (firstOf [word "else", mark ":"])
      refuseAt value.line "expected 'else' after 'if' expression"]

/-- A name that used to start statements, in front of expressions. -/
def formerStatement (r : Lookup) : Probe Tree := do
  let first ← name
  notAhead (mark "(")
  let _ ← starExpressions r
  match first.form with
  | .name text =>
    if isFormerStatement first then
      refuseAt first.line
        ("Missing parentheses in call to '" ++ text ++ "'. Did you mean " ++ text ++ "(...)?")
    else miss
  | _ => miss

/-- An expression. -/
def expression (r : Lookup) : Probe Tree :=
  firstOf
    [whenStrict (expressionMistake r), whenStrict (formerStatement r), plainExpression r]

/-- An expression, which may stand behind a star. -/
def starExpression (r : Lookup) : Probe Tree :=
  firstOf
    [piece .starred do
      let _ ← mark "*"
      return [← r .bitwiseOr],
     r .expression]

/-- The message for a single equals sign where two were meant. -/
def meantComparison : Text := "invalid syntax. Maybe you meant '==' or ':=' instead of '='?"

/-- An expression with an assignment in it that cannot stand there. -/
def comparedAssignment (r : Lookup) : Probe Tree :=
  firstOf
    [do
      let left ← r .expression
      let _ ← mark ":="
      let _ ← r .expression
      refuseAt left.line ("cannot use assignment expressions with " ++ left.form.describe),
     do
      let left ← name
      let _ ← mark "="
      let _ ← r .bitwiseOr
      notAhead (oneMark ["=", ":="])
      refuseAt left.line meantComparison,
     do
      notAhead (firstOf
        [skip (list r), skip (tuple r), skip (generator r), skip (oneWord ["True", "None", "False"])])
      let left ← r .bitwiseOr
      let _ ← mark "="
      let _ ← r .bitwiseOr
      notAhead (oneMark ["=", ":="])
      refuseAt left.line
        ("cannot assign to " ++ left.form.describe ++ " here. Maybe you meant '==' instead of '='?")]

/-- An expression that may be assigned to a name. -/
def namedExpression (r : Lookup) : Probe Tree :=
  firstOf [assignmentExpression r, whenStrict (r .comparedAssignment), unassigned r]

/-- An argument that is given by name in a way that it cannot be. -/
def keywordMistake (r : Lookup) : Probe Tree :=
  firstOf
    [do
      let (line, text) ← constantWord ["True", "False", "None"]
      let _ ← mark "="
      refuseAt line ("cannot assign to " ++ text),
     do
      let first ← name
      let _ ← mark "="
      let _ ← r .expression
      comprehensionLoops r
      refuseAt first.line meantComparison,
     do
      notAhead do
        let _ ← name
        mark "="
      let first ← r .expression
      let _ ← mark "="
      refuseAt first.line "expression cannot contain assignment, perhaps you meant \"==\"?"]

/-- An argument that is given by name. -/
def keywordArgument (r : Lookup) : Probe Tree :=
  whole .keyword do
    let _ ← name
    let _ ← mark "="
    r .expression

/-- An argument by name, or arguments behind a star. -/
def keywordOrStarred (r : Lookup) : Probe Tree :=
  firstOf [whenStrict (keywordMistake r), keywordArgument r, starredExpression r]

/-- An argument by name, or arguments behind two stars. -/
def keywordOrUnpacked (r : Lookup) : Probe Tree :=
  firstOf
    [whenStrict (keywordMistake r), keywordArgument r,
     whole .unpacking do
      let _ ← mark "**"
      r .expression]

/-- The arguments from the first that is given by name. -/
def keywordArguments (r : Lookup) : Probe (List Tree) :=
  firstOf
    [do
      let first ← separated (mark ",") (keywordOrStarred r)
      let _ ← mark ","
      return first ++ (← separated (mark ",") (keywordOrUnpacked r)),
     separated (mark ",") (keywordOrStarred r),
     separated (mark ",") (keywordOrUnpacked r)]

/-- An argument that is given by its position. -/
def positionalArgument (r : Lookup) : Probe Tree :=
  firstOf
    [starredExpression r,
     do
      let value ← firstOf [assignmentExpression r, unassigned r]
      notAhead (mark "=")
      return value]

/-- The arguments of a call. -/
def callArguments (r : Lookup) : Probe Tree :=
  piece .arguments (firstOf
    [do
      let first ← separated (mark ",") (positionalArgument r)
      let others ← maybe do
        let _ ← mark ","
        keywordArguments r
      return first ++ others.getD [],
     keywordArguments r])

/-- The arguments that are not given by name. -/
def positionalParts (arguments : Tree) : List Tree :=
  arguments.parts.filter fun part => part.form != .keyword && part.form != .unpacking

/-- The message for a generator between other arguments. -/
def bareGenerator : Text := "Generator expression must be parenthesized"

/-- Arguments in an order that they cannot have, or a generator between them. -/
def argumentsMistake (r : Lookup) : Probe Tree :=
  firstOf
    [do
      let found ← callArguments r
      let _ ← mark ","
      let _ ← mark "*"
      refuseAt found.line "iterable argument unpacking follows keyword argument unpacking",
     do
      let first ← r .expression
      comprehensionLoops r
      let _ ← mark ","
      let _ ← maybe (firstOf
        [skip (callArguments r),
         do
          let _ ← r .expression
          comprehensionLoops r])
      refuseAt first.line bareGenerator,
     do
      let first ← name
      let _ ← mark "="
      let _ ← r .expression
      comprehensionLoops r
      refuseAt first.line meantComparison,
     do
      let found ← callArguments r
      comprehensionLoops r
      match (positionalParts found).reverse with
      | last :: _ :: _ => refuseAt last.line bareGenerator
      | _ => decline,
     do
      let _ ← callArguments r
      let _ ← mark ","
      let last ← r .expression
      comprehensionLoops r
      refuseAt last.line bareGenerator,
     do
      let found ← callArguments r
      let _ ← mark ","
      let _ ← callArguments r
      if found.parts.any fun part => part.form == .unpacking then
        refuseLast "positional argument follows keyword argument unpacking"
      else refuseLast "positional argument follows keyword argument"]

/-- The arguments of a call, up to its closing bracket. -/
def arguments (r : Lookup) : Probe Tree :=
  firstOf
    [do
      let found ← callArguments r
      let _ ← maybe (mark ",")
      ahead (mark ")")
      return found,
     whenStrict (argumentsMistake r)]

end Stencil.Script.Grammar
