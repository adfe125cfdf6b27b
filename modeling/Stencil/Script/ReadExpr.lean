import Stencil.Script.Program
import Stencil.Script.Token

/-!
# Reading expressions

Expressions are read from the tokens of a logical line by recursive descent, from the loosest operators to the
tightest.  Reading stops at the first token that cannot go on; the step bound only has to exceed the
number of levels times the number of tokens.
-/

namespace Stencil.Script

/-- What was read, with the tokens after it. -/
abbrev Found (α : Type) := α × List Placed

/-- Whether the next token is a given word. -/
def atWord (word : String) (tokens : List Placed) : Bool :=
  match tokens with
  | ⟨.word found, _, _⟩ :: _ => found == word.toList
  | _ => false

/-- Whether the next token is a given mark. -/
def atMark (mark : String) (tokens : List Placed) : Bool :=
  match tokens with
  | ⟨.mark found, _, _⟩ :: _ => found == mark.toList
  | _ => false

/-- Pass over a given word. -/
def expectWord (word : String) (tokens : List Placed) : Option (Found Unit) :=
  if atWord word tokens then some ((), tokens.tail) else none

/-- Pass over a given mark. -/
def expectMark (mark : String) (tokens : List Placed) : Option (Found Unit) :=
  if atMark mark tokens then some ((), tokens.tail) else none

/-- Read a name. -/
def readName : List Placed → Option (Found Text)
  | ⟨.word word, _, _⟩ :: tokens => if isKeyword word then none else some (word, tokens)
  | ⟨.name name, _, _⟩ :: tokens => some (name, tokens)
  | _ => none

/-- The physical line of the next token. -/
def lineOf (tokens : List Placed) : Nat :=
  match tokens with
  | [] => 0
  | placed :: _ => placed.line

/-- The comparison at the next tokens, with the tokens after it. -/
def comparison? (tokens : List Placed) : Option (Comparison × List Placed) :=
  if atMark "==" tokens then some (.equal, tokens.tail)
  else if atMark "!=" tokens then some (.unequal, tokens.tail)
  else if atMark "<" tokens then some (.less, tokens.tail)
  else if atMark "<=" tokens then some (.lessEqual, tokens.tail)
  else if atMark ">" tokens then some (.greater, tokens.tail)
  else if atMark ">=" tokens then some (.greaterEqual, tokens.tail)
  else if atWord "in" tokens then some (.isIn, tokens.tail)
  else if atWord "not" tokens && atWord "in" tokens.tail then some (.notIn, tokens.tail.tail)
  else if atWord "is" tokens then
    if atWord "not" tokens.tail then some (.notSame, tokens.tail.tail) else some (.same, tokens.tail)
  else none

/-- The operation that combines summands at the next token. -/
def sumOperation? (tokens : List Placed) : Option BinaryOp :=
  if atMark "+" tokens then some .add else if atMark "-" tokens then some .subtract else none

/-- The operation that combines factors at the next token. -/
def productOperation? (tokens : List Placed) : Option BinaryOp :=
  if atMark "*" tokens then some .multiply
  else if atMark "//" tokens then some .floorDivide
  else if atMark "%" tokens then some .modulo
  else none

/-- Read neighbouring literals as one. -/
def readStrings : List Placed → Text × List Placed
  | ⟨.string value, _, _⟩ :: tokens =>
    let (more, rest) := readStrings tokens
    (value ++ more, rest)
  | tokens => ([], tokens)

mutual

/-- Read an expression. -/
def readExpr : (steps : Nat) → List Placed → Option (Found Expr)
  | 0, _ => none
  | steps + 1, tokens => do
    let (value, rest) ← readOr steps tokens
    if atWord "if" rest then
      let (test, rest) ← readOr steps rest.tail
      let (_, rest) ← expectWord "else" rest
      let (other, rest) ← readExpr steps rest
      return (.choice test value other, rest)
    else return (value, rest)

/-- Read operands joined by `or`. -/
def readOr : (steps : Nat) → List Placed → Option (Found Expr)
  | 0, _ => none
  | steps + 1, tokens => do
    let (left, rest) ← readAnd steps tokens
    if atWord "or" rest then
      let (right, rest) ← readOr steps rest.tail
      return (.either left right, rest)
    else return (left, rest)

/-- Read operands joined by `and`. -/
def readAnd : (steps : Nat) → List Placed → Option (Found Expr)
  | 0, _ => none
  | steps + 1, tokens => do
    let (left, rest) ← readNot steps tokens
    if atWord "and" rest then
      let (right, rest) ← readAnd steps rest.tail
      return (.both left right, rest)
    else return (left, rest)

/-- Read an operand of `and`, which may be negated. -/
def readNot : (steps : Nat) → List Placed → Option (Found Expr)
  | 0, _ => none
  | steps + 1, tokens =>
    if atWord "not" tokens then do
      let (operand, rest) ← readNot steps tokens.tail
      return (.negation operand, rest)
    else readComparison steps tokens

/-- Read a sum, or a comparison of two sums. -/
def readComparison : (steps : Nat) → List Placed → Option (Found Expr)
  | 0, _ => none
  | steps + 1, tokens => do
    let (left, rest) ← readSum steps tokens
    match comparison? rest with
    | none => return (left, rest)
    | some (comparison, rest) =>
      let (right, rest) ← readSum steps rest
      return (.compare (lineOf tokens) comparison left right, rest)

/-- Read a sum. -/
def readSum : (steps : Nat) → List Placed → Option (Found Expr)
  | 0, _ => none
  | steps + 1, tokens => do
    let (left, rest) ← readProduct steps tokens
    readSumTail (lineOf tokens) left steps rest

/-- Read the summands after the first ones. -/
def readSumTail (line : Nat) (left : Expr) : (steps : Nat) → List Placed → Option (Found Expr)
  | 0, _ => none
  | steps + 1, tokens =>
    match sumOperation? tokens with
    | none => some (left, tokens)
    | some operation => do
      let (right, rest) ← readProduct steps tokens.tail
      readSumTail line (.binary line operation left right) steps rest

/-- Read a product. -/
def readProduct : (steps : Nat) → List Placed → Option (Found Expr)
  | 0, _ => none
  | steps + 1, tokens => do
    let (left, rest) ← readFactor steps tokens
    readProductTail (lineOf tokens) left steps rest

/-- Read the factors after the first ones. -/
def readProductTail (line : Nat) (left : Expr) : (steps : Nat) → List Placed → Option (Found Expr)
  | 0, _ => none
  | steps + 1, tokens =>
    match productOperation? tokens with
    | none => some (left, tokens)
    | some operation => do
      let (right, rest) ← readFactor steps tokens.tail
      readProductTail line (.binary line operation left right) steps rest

/-- Read a factor, which may have a minus in front. -/
def readFactor : (steps : Nat) → List Placed → Option (Found Expr)
  | 0, _ => none
  | steps + 1, tokens =>
    if atMark "-" tokens then do
      let (operand, rest) ← readFactor steps tokens.tail
      return (.negate (lineOf tokens) operand, rest)
    else do
      let (object, rest) ← readAtom steps tokens
      readTrailers (lineOf tokens) object steps rest

/-- Read the attributes, subscripts and calls after an atom. -/
def readTrailers (line : Nat) (object : Expr) : (steps : Nat) → List Placed → Option (Found Expr)
  | 0, _ => none
  | steps + 1, tokens =>
    if atMark "." tokens then do
      let nameLine := lineOf tokens.tail
      let (name, rest) ← readName tokens.tail
      readTrailers line (.attribute nameLine object name) steps rest
    else if atMark "[" tokens then do
      let (index, rest) ← readExprs steps tokens.tail
      let (_, rest) ← expectMark "]" rest
      readTrailers line (.item line object index) steps rest
    else if atMark "(" tokens then do
      let (arguments, rest) ← readItems ")" steps tokens.tail
      let callLine := match object with
        | .attribute nameLine _ _ => nameLine
        | _ => line
      readTrailers line (.call callLine object arguments) steps rest
    else some (object, tokens)

/-- Read expressions with commas between them, up to a closing bracket. -/
def readItems (closer : String) : (steps : Nat) → List Placed → Option (Found (List Expr))
  | 0, _ => none
  | steps + 1, tokens =>
    if atMark closer tokens then some ([], tokens.tail)
    else do
      let (item, rest) ← readExpr steps tokens
      if atMark "," rest then
        let (items, rest) ← readItems closer steps rest.tail
        return (item :: items, rest)
      else
        let (_, rest) ← expectMark closer rest
        return ([item], rest)

/-- Read the entries of a dictionary, up to its closing brace. -/
def readEntries : (steps : Nat) → List Placed → Option (Found (List (Expr × Expr)))
  | 0, _ => none
  | steps + 1, tokens =>
    if atMark "\x7d" tokens then some ([], tokens.tail)
    else do
      let (key, rest) ← readExpr steps tokens
      let (_, rest) ← expectMark ":" rest
      let (value, rest) ← readExpr steps rest
      if atMark "," rest then
        let (entries, rest) ← readEntries steps rest.tail
        return ((key, value) :: entries, rest)
      else
        let (_, rest) ← expectMark "\x7d" rest
        return ([(key, value)], rest)

/-- Read an expression, or several with commas between them as a tuple. -/
def readExprs : (steps : Nat) → List Placed → Option (Found Expr)
  | 0, _ => none
  | steps + 1, tokens => do
    let (first, rest) ← readExpr steps tokens
    if atMark "," rest then
      let (others, rest) ← readMore steps rest
      return (.tuple (first :: others), rest)
    else return (first, rest)

/-- Read the expressions after the commas that follow; the last comma may stand alone. -/
def readMore : (steps : Nat) → List Placed → Option (Found (List Expr))
  | 0, _ => none
  | steps + 1, tokens =>
    if atMark "," tokens then
      match readExpr steps tokens.tail with
      | some (item, rest) => do
        let (items, rest) ← readMore steps rest
        return (item :: items, rest)
      | none => some ([], tokens.tail)
    else some ([], tokens)

/-- Read a name, a literal or a bracketed expression. -/
def readAtom : (steps : Nat) → List Placed → Option (Found Expr)
  | 0, _ => none
  | steps + 1, tokens =>
    match tokens with
    | ⟨.integer value, _, _⟩ :: rest => some (.constant (.int value), rest)
    | ⟨.string _, _, _⟩ :: _ =>
      let (value, rest) := readStrings tokens
      some (.constant (.text value), rest)
    | ⟨.word word, line, _⟩ :: rest =>
      if word = ("None" : Text) then some (.constant .none, rest)
      else if word = ("True" : Text) then some (.constant (.bool true), rest)
      else if word = ("False" : Text) then some (.constant (.bool false), rest)
      else if isKeyword word then none
      else some (.name line word, rest)
    | ⟨.name name, line, _⟩ :: rest => some (.name line name, rest)
    | ⟨.mark mark, line, _⟩ :: rest =>
      if mark = ("(" : Text) then
        if atMark ")" rest then some (.tuple [], rest.tail)
        else do
          let (value, rest) ← readExprs steps rest
          let (_, rest) ← expectMark ")" rest
          return (value, rest)
      else if mark = ("[" : Text) then do
        let (items, rest) ← readItems "]" steps rest
        return (.list items, rest)
      else if mark = ("\x7b" : Text) then do
        let (entries, rest) ← readEntries steps rest
        return (.dict line entries, rest)
      else none
    | _ => none

end

/-- Enough steps to read a list of tokens. -/
def stepsFor (tokens : List Placed) : Nat := 16 * (tokens.length + 1)

/-- Read an expression, or several with commas between them as a tuple. -/
def readValue (tokens : List Placed) : Option (Found Expr) := readExprs (stepsFor tokens) tokens

/-- Read an expression. -/
def readSingle (tokens : List Placed) : Option (Found Expr) := readExpr (stepsFor tokens) tokens

end Stencil.Script
