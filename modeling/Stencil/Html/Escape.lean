import Stencil.Text.Basic

/-!
# Escaping for markup

The five code points that markup gives a meaning to are replaced by entities.
-/

namespace Stencil.Html

/-- The entity of a code point that markup gives a meaning to. -/
def entity? : Char → Option Text
  | '&' => some ['&', 'a', 'm', 'p', ';']
  | '<' => some ['&', 'l', 't', ';']
  | '>' => some ['&', 'g', 't', ';']
  | '"' => some ['&', 'q', 'u', 'o', 't', ';']
  | '\'' => some ['&', '#', '3', '9', ';']
  | _ => none

/-- What stands for a code point in markup. -/
def escapeChar (char : Char) : Text := (entity? char).getD [char]

/-- Escape a text for markup. -/
def escape (text : Text) : Text := text.flatMap escapeChar

end Stencil.Html
