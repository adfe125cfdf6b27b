import Stencil.Script.Literal
import Stencil.Script.Numeral
import Stencil.Text.Identifier
import Stencil.Text.Normal
import Stencil.Text.Printable

/-!
# Reading the tokens of a script

Line feeds, carriage returns and the two together all end a physical line.  The end of a physical line ends a
logical line too, unless a bracket is open; lines without tokens are passed over.
-/

namespace Stencil.Script

/-- Write every line break as a line feed, and end the last line. -/
def unifyBreaks : Text → Text
  | [] => []
  | '\r' :: '\n' :: text => '\n' :: unifyBreaks text
  | [char] => if char = '\r' || char = '\n' then ['\n'] else [char, '\n']
  | char :: text => (if char = '\r' then '\n' else char) :: unifyBreaks text

/-- The marks of three characters, then of two. -/
def longMarks : List Text :=
  ["...", "**=", "//=", ">>=", "<<=", "!=", "%=", "&=", "**", "*=", "+=", "-=", "->", "//", "/=", ":=",
   "<<", "<=", "<>", "==", ">=", ">>", "@=", "^=", "|="]

/-- The bracket that a closing bracket closes. -/
def openerOf? : Char → Option Char
  | ')' => some '('
  | ']' => some '['
  | '}' => some '{'
  | _ => none

/-- Whether a character opens a bracket. -/
def isOpener (char : Char) : Bool := char == '(' || char == '[' || char == '{'

/-- How many brackets may be open at once. -/
def bracketLimit : Nat := 200

/-- A message about the form of a script. -/
def refuseForm (message : Text) (line : Nat) : Refusal := ⟨.form, message, line⟩

/-- The refusal of a backslash that does not end its line. -/
def strayBackslash (line : Nat) : Refusal :=
  refuseForm "unexpected character after line continuation character" line

/-- What has been read of a script. -/
structure LexState where
  /-- The finished logical lines, last first. -/
  done : List LogicalLine
  /-- The current logical line with its tokens last first, once it has begun. -/
  current : Option LogicalLine
  /-- The open brackets, innermost first. -/
  brackets : List OpenBracket
  /-- The current physical line. -/
  line : Nat

namespace LexState

/-- Add a token that starts on a given line. -/
def push (token : Token) (line : Nat) (state : LexState) : LexState :=
  { state with
    current := state.current.map fun current =>
      { current with tokens := ⟨token, line, state.brackets.length⟩ :: current.tokens } }

/-- Begin a logical line. -/
def beginLine (indent : Indent) (state : LexState) : LexState :=
  { state with current := some ⟨indent, [], state.line, state.line⟩ }

/-- The current logical line as far as it has been read. -/
def readLine? (state : LexState) : Option LogicalLine :=
  state.current.map fun current =>
    { current with tokens := current.tokens.reverse, stop := state.line }

/-- End a physical line, and the logical line too unless a bracket is open. -/
def breakLine (state : LexState) : LexState :=
  if state.brackets.isEmpty then
    { state with
      done := state.readLine?.toList ++ state.done
      current := none
      line := state.line + 1 }
  else { state with line := state.line + 1 }

/-- Open a bracket. -/
def openBracket (char : Char) (state : LexState) : Except Refusal LexState :=
  if bracketLimit ≤ state.brackets.length then
    .error (refuseForm "too many nested parentheses" state.line)
  else
    .ok ({ state with brackets := ⟨char, state.line⟩ :: state.brackets }.push (.mark [char]) state.line)

/-- Close the innermost bracket. -/
def closeBracket (opener char : Char) (state : LexState) : Except Refusal LexState :=
  match state.brackets with
  | [] => .error (refuseForm ("unmatched '" ++ [char] ++ "'") state.line)
  | found :: brackets =>
    if found.bracket = opener then
      .ok ({ state with brackets := brackets }.push (.mark [char]) state.line)
    else
      .error (refuseForm ("closing parenthesis '" ++ [char] ++ "' does not match opening parenthesis '"
        ++ [found.bracket] ++ "'"
        ++ (if found.line = state.line then [] else (" on line " : Text) ++ Text.ofNat found.line)) state.line)

/-- What has been read when the reading ends. -/
def finish (ending : Ending) (state : LexState) : Reading :=
  ⟨state.done.reverse, state.readLine?, state.brackets, ending⟩

/-- What has been read when no text is left. -/
def finishAll (state : LexState) : Reading :=
  state.finish (match state.brackets with
    | [] => .complete
    | found :: _ => .stuck (neverClosed found))

end LexState

/-- The name of a code point for an error message. -/
def codePointName (char : Char) : Text :=
  "U+" ++ (Quoted.hexadecimal 4 char.toNat).map Char.toUpper

/-- Why a character cannot stand outside of literals. -/
def strangeCharacter (char : Char) : Text :=
  if isPrintable char then
    "invalid character '" ++ [char] ++ "' (" ++ codePointName char ++ ")"
  else "invalid non-printable character " ++ codePointName char

/-- The first character of a text that cannot stand there in a name. -/
def misfit? : Text → Option Char
  | [] => none
  | char :: text => if startsName char then text.find? (!continuesName ·) else some char

/-- The token of a word. -/
def wordToken (word : Text) : Except Text Token :=
  if word.all fun char => char.toNat < 0x80 then .ok (.word word)
  else match misfit? word with
    | some char => .error (strangeCharacter char)
    | none => .ok (.name (normalName word))

/-- Read a literal behind its opening quote. -/
def lexLiteral (kind : LiteralKind) (quote : Char) (state : LexState) (text : Text) :
    Except Refusal (LexState × Text) :=
  match readLiteral state.line quote text with
  | .error message => .error (refuseForm message state.line)
  | .ok (inside, rest) =>
    .ok ({ state.push (kind.token inside) state.line with line := state.line + inside.count '\n' }, rest)

/-- Take a word as a token. -/
def lexName (word : Text) (state : LexState) (text : Text) : Except Refusal (LexState × Text) :=
  match wordToken word with
  | .ok token => .ok (state.push token state.line, text)
  | .error message => .error (refuseForm message state.line)

/-- Read a word, or the literal that it announces. -/
def lexWord (state : LexState) (text : Text) : Except Refusal (LexState × Text) :=
  let word := text.takeWhile mayContinueName
  let rest := text.dropWhile mayContinueName
  match rest with
  | char :: after =>
    if char = '\'' || char = '"' then
      match literalKind? word with
      | some kind => lexLiteral kind char state after
      | none => lexName word state rest
    else lexName word state rest
  | [] => lexName word state rest

/-- Read a mark. -/
def lexMark (state : LexState) (char : Char) (text : Text) : Except Refusal (LexState × Text) :=
  match longMarks.find? fun mark => Text.startsWith mark (char :: text) with
  | some mark => .ok (state.push (.mark mark) state.line, (char :: text).drop mark.length)
  | none =>
    if isOpener char then do .ok (← state.openBracket char, text)
    else match openerOf? char with
      | some opener => do .ok (← state.closeBracket opener char, text)
      | none =>
        if isPrintable char then .ok (state.push (.mark [char]) state.line, text)
        else .error (refuseForm (strangeCharacter char) state.line)

/-- Read the token at the start of a text that is not empty. -/
def lexToken (state : LexState) (char : Char) (text : Text) : Except Refusal (LexState × Text) :=
  if char = '\'' || char = '"' then lexLiteral ⟨false, false, false⟩ char state text
  else if char.isDigit || (char = '.' && atDigit text) then
    match readNumber (char :: text) with
    | .ok (token, rest) => .ok (state.push token state.line, rest)
    | .error message => .error (refuseForm message state.line)
  else if mayContinueName char then lexWord state (char :: text)
  else lexMark state char text

/-- The indentation of a line, what follows it, and how many line feeds were passed; or how many were passed
before a backslash that does not end its line.  A form feed starts the measure again, and the first backslash
fixes it. -/
def measureIndent (indent : Indent) (fixed passed : Nat) : Text → Except Nat (Indent × Text × Nat)
  | ' ' :: text => measureIndent ⟨indent.wide + 1, indent.narrow + 1⟩ fixed passed text
  | '\t' :: text => measureIndent ⟨(indent.wide / 8 + 1) * 8, indent.narrow + 1⟩ fixed passed text
  | '\x0c' :: text => measureIndent ⟨0, 0⟩ fixed passed text
  | '\\' :: '\n' :: text =>
    measureIndent indent (if fixed = 0 then indent.wide else fixed) (passed + 1) text
  | '\\' :: _ => .error passed
  | text => .ok (if fixed = 0 then indent else ⟨fixed, fixed⟩, text, passed)

/-- What one step of the reading leads to. -/
inductive LexStep where
  | goOn (state : LexState) (rest : Text)
  | halt (state : LexState) (ending : Ending)

/-- Go on after a token, or end the reading. -/
def LexStep.ofToken (state : LexState) : Except Refusal (LexState × Text) → LexStep
  | .ok (next, rest) => .goOn next rest
  | .error refusal => .halt state (.refused refusal)

/-- Read the next piece of a logical line that has begun: a blank, a comment, a line break or a token. -/
def lexWithin (state : LexState) (char : Char) (text : Text) : LexStep :=
  if char = '\n' then .goOn state.breakLine text
  else if char = ' ' || char = '\t' || char = '\x0c' then .goOn state text
  else if char = '#' then .goOn state (text.dropWhile (· != '\n'))
  else if char = '\\' then
    match text with
    | '\n' :: rest => .goOn { state with line := state.line + 1 } rest
    | _ => .halt state (.stuck (strayBackslash state.line))
  else .ofToken state (lexToken state char text)

/-- Read the indentation of a physical line, which begins a logical line unless it has no tokens. -/
def lexStart (state : LexState) (text : Text) : LexStep :=
  match measureIndent ⟨0, 0⟩ 0 0 text with
  | .error passed => .halt state (.stuck (strayBackslash (state.line + passed)))
  | .ok (indent, rest, passed) =>
    let state := { state with line := state.line + passed }
    match rest with
    | [] => .goOn state []
    | '\n' :: rest => .goOn { state with line := state.line + 1 } rest
    | '#' :: rest => .goOn { state with line := state.line + 1 } (rest.dropWhile (· != '\n')).tail
    | char :: text => lexWithin (state.beginLine indent) char text

/-- Read the next piece of a script. -/
def lexStep (state : LexState) (char : Char) (text : Text) : LexStep :=
  if state.current.isNone then lexStart state (char :: text) else lexWithin state char text

/-- Read a text; every step takes at least one character, so its length bounds the steps. -/
def lexFrom : (steps : Nat) → LexState → Text → Reading
  | 0, state, _ => state.finishAll
  | _, state, [] => state.finishAll
  | steps + 1, state, char :: text =>
    match lexStep state char text with
    | .goOn next rest => lexFrom steps next rest
    | .halt state ending => state.finish ending

/-- The logical lines of a script. -/
def Reading.ofText (script : Text) : Reading :=
  let text := unifyBreaks script
  lexFrom (text.length + 1) ⟨[], none, [], 1⟩ text

end Stencil.Script
