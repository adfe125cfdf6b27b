import Stencil.Text.Blank
import Stencil.Text.Word

/-!
# Directives

The braces at the edges of a directive's statement give the template its block structure.  A closer is
a lone closing brace, an opener ends in an opening brace, and a line may close one block and open the next.
-/

namespace Stencil

/-- What a directive does to the block structure. -/
inductive Directive where
  /-- Nothing: the statement is empty or starts with a hash sign. -/
  | comment
  /-- Close the innermost block. -/
  | closer
  /-- Close the innermost block and open another one with this head. -/
  | reopener (head : Text)
  /-- A closing brace followed by text that opens no block. -/
  | malformed (rest : Text)
  /-- Open a block with this head. -/
  | opener (head : Text)
  /-- Stand for itself. -/
  | statement (code : Text)
  deriving DecidableEq, Repr

namespace Directive

/-- The head of an opener: the statement without its last brace, trimmed. -/
def headOf (statement : Text) : Text := Text.trim statement.dropLast

/-- Whether a statement ends in an opening brace. -/
def opens (statement : Text) : Bool := statement.getLast? = some '{'

/-- Read the statement of a directive line. -/
def ofStatement (statement : Text) : Directive :=
  match Text.trim statement with
  | [] => .comment
  | '#' :: _ => .comment
  | ['}'] => .closer
  | '}' :: rest =>
    let rest := Text.trim rest
    if opens rest then .reopener (headOf rest) else .malformed rest
  | code => if opens code then .opener (headOf code) else .statement code

/-- The words that continue the construct before them. -/
def continuationWords : List Text := ["else", "elif", "except", "finally", "case"]

/-- Whether a text starts with a word that ends there. -/
def startsWithWord (word text : Text) : Bool :=
  match Text.afterLead? word text with
  | none => false
  | some [] => true
  | some (char :: _) => !isWordChar char

/-- Whether a head continues the construct before it. -/
def isContinuation (head : Text) : Bool :=
  continuationWords.any fun word => startsWithWord word head

end Directive
end Stencil
