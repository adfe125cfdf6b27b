import Stencil.Script.Refusal

/-!
# Tokens of scripts

A script is read as logical lines.  A logical line is a sequence of tokens behind one indentation; it may cover
several physical lines when brackets are open at their ends.
-/

namespace Stencil.Script

/-- The tokens of a logical line. -/
inductive Token where
  /-- A keyword, or a name of plain letters and digits. -/
  | word (text : Text)
  /-- A name with other code points, in its normal form; it is never taken for a keyword. -/
  | name (text : Text)
  | integer (value : Nat)
  /-- A whole number with so many digits that its value is not computed. -/
  | vast (digits : Nat)
  /-- A number with a point or an exponent. -/
  | fraction
  | imaginary
  | string (value : Text)
  | bytes
  /-- A literal with expressions in it. -/
  | formatted
  /-- A literal that cannot be decoded, and whether it is one of bytes. -/
  | spoiled (message : Text) (bytes : Bool)
  /-- An operator, a bracket or another mark. -/
  | mark (text : Text)
  deriving DecidableEq, Repr

/-- A token with its place. -/
structure Placed where
  token : Token
  /-- The physical line on which it starts. -/
  line : Nat
  /-- How many brackets are open after it. -/
  depth : Nat
  deriving DecidableEq, Repr

/-- How far a line is indented, measured with wide tabs and with narrow ones. -/
structure Indent where
  /-- The width when a tab leads to the next multiple of eight. -/
  wide : Nat
  /-- The width when a tab counts as one blank. -/
  narrow : Nat
  deriving DecidableEq, Repr

/-- A logical line. -/
structure LogicalLine where
  indent : Indent
  tokens : List Placed
  /-- The physical line on which its first token stands. -/
  start : Nat
  /-- The physical line on which it ends. -/
  stop : Nat
  deriving DecidableEq, Repr

/-- A bracket that has been opened, and the physical line on which it stands. -/
structure OpenBracket where
  bracket : Char
  line : Nat
  deriving DecidableEq, Repr

/-- How the reading of the tokens ends. -/
inductive Ending where
  | complete
  /-- No further token can be read, which is to blame if one is needed. -/
  | stuck (refusal : Refusal)
  /-- The script is refused, whatever the tokens before may mean. -/
  | refused (refusal : Refusal)
  deriving DecidableEq, Repr

/-- A script as logical lines. -/
structure Reading where
  lines : List LogicalLine
  /-- The line in which the reading ended, if it ended inside of one. -/
  unfinished : Option LogicalLine
  /-- The brackets that are open where the reading ended, innermost first. -/
  unclosed : List OpenBracket
  ending : Ending
  deriving DecidableEq, Repr

/-- The words that cannot be used as names. -/
def keywords : List Text :=
  ["False".toList, "None".toList, "True".toList, "and".toList, "as".toList, "assert".toList,
   "async".toList, "await".toList, "break".toList, "class".toList, "continue".toList,
   "def".toList, "del".toList, "elif".toList, "else".toList, "except".toList, "finally".toList,
   "for".toList, "from".toList, "global".toList, "if".toList, "import".toList, "in".toList,
   "is".toList, "lambda".toList, "nonlocal".toList, "not".toList, "or".toList, "pass".toList,
   "raise".toList, "return".toList, "try".toList, "while".toList, "with".toList, "yield".toList]

/-- Whether a word is a keyword. -/
def isKeyword (word : Text) : Bool := keywords.contains word

/-- The words that are keywords only where they start certain lines. -/
def softKeywords : List Text := ["match", "case", "_"]

/-- The refusal of a bracket that is still open at the end. -/
def neverClosed (found : OpenBracket) : Refusal :=
  ⟨.form, "'" ++ [found.bracket] ++ "' was never closed", found.line⟩

end Stencil.Script
