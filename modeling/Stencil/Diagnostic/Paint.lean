import Stencil.Text.Basic

/-!
# Coloured text

Diagnostics may be coloured with terminal escape sequences.  Painting wraps a text in such sequences, and
`stripPaint` removes every complete sequence from a text, whoever put it there.
-/

namespace Stencil

/-- The terminal attributes in use. -/
inductive Tint where
  | reset | bold | dim | red | green | yellow | cyan | brightRed | brightBlue
  deriving DecidableEq, Repr

namespace Tint

/-- The number of an attribute in an escape sequence. -/
def number : Tint → Text
  | reset => ['0'] | bold => ['1'] | dim => ['2']
  | red => ['3', '1'] | green => ['3', '2'] | yellow => ['3', '3'] | cyan => ['3', '6']
  | brightRed => ['9', '1'] | brightBlue => ['9', '4']

/-- The escape sequence that switches an attribute on. -/
def sequence (tint : Tint) : Text := '\x1b' :: '[' :: tint.number ++ ['m']

/-- The attribute with a given name. -/
def ofName? (name : Text) : Option Tint :=
  [(("reset" : Text), reset), ("bold", bold), ("dim", dim), ("red", red), ("green", green),
    ("yellow", yellow), ("cyan", cyan), ("bright_red", brightRed),
    ("bright_blue", brightBlue)].lookup name

end Tint

/-- Wrap a text in attributes, when colours are on and there is an attribute. -/
def paint (colours : Bool) (tints : List Tint) (text : Text) : Text :=
  if colours && !tints.isEmpty then tints.flatMap Tint.sequence ++ text ++ Tint.reset.sequence
  else text

namespace Paint

/-- An error code. -/
def code (colours : Bool) : Text → Text := paint colours [.brightRed, .bold]

/-- A place in a template. -/
def location (colours : Bool) : Text → Text := paint colours [.cyan]

/-- A line number. -/
def lineNumber (colours : Bool) : Text → Text := paint colours [.yellow]

/-- A line at fault. -/
def faultLine (colours : Bool) : Text → Text := paint colours [.brightRed]

/-- A piece of advice. -/
def hint (colours : Bool) : Text → Text := paint colours [.green]

/-- Text of little weight. -/
def faint (colours : Bool) : Text → Text := paint colours [.dim]

/-- A link to documentation. -/
def link (colours : Bool) : Text → Text := paint colours [.brightBlue]

/-- A message after its code, if it has one. -/
def header (colours : Bool) (errorCode : Option Text) (message : Text) : Text :=
  match errorCode with
  | some (char :: rest) => code colours (char :: rest) ++ ": " ++ message
  | _ => message

/-- A numbered template line; the one at fault is marked. -/
def sourceLine (colours : Bool) (number : Int) (content : Text) (atFault : Bool) : Text :=
  lineNumber colours ((if atFault then '>' else ' ') :: Text.padLeft 3 (Text.ofInt number)) ++ " | "
    ++ if atFault then faultLine colours content else faint colours content

end Paint

/-- Whether a code point lies between two others. -/
def Char.within (first last char : Char) : Bool := first ≤ char && char ≤ last

/-- What follows the end of a control sequence: parameters, intermediates and a final character. -/
def afterControl? (intermediate : Bool) : Text → Option Text
  | [] => none
  | char :: text =>
    if !intermediate && Char.within '0' '?' char then afterControl? false text
    else if Char.within ' ' '/' char then afterControl? true text
    else if Char.within '@' '~' char then some text
    else none

/-- What follows an escape sequence whose escape character has just been read. -/
def afterEscape? : Text → Option Text
  | [] => none
  | '[' :: text => afterControl? false text
  | char :: text => if Char.within '@' '_' char then some text else none

theorem length_of_afterControl? {intermediate : Bool} {text rest : Text}
    (found : afterControl? intermediate text = some rest) : rest.length < text.length := by
  induction text generalizing intermediate with
  | nil => simp [afterControl?] at found
  | cons char text step =>
    simp only [afterControl?] at found
    split at found
    · have := step found; simp; omega
    split at found
    · have := step found; simp; omega
    split at found
    · simp_all
    · simp at found

theorem length_of_afterEscape? {text rest : Text} (found : afterEscape? text = some rest) :
    rest.length < text.length := by
  unfold afterEscape? at found
  split at found
  · simp at found
  · have := length_of_afterControl? found; simp; omega
  · split at found <;> simp_all

/-- Remove every escape sequence, reading from the left. -/
def stripPaint : Text → Text
  | [] => []
  | char :: text =>
    if char = '\x1b' then
      match _found : afterEscape? text with
      | some rest => stripPaint rest
      | none => char :: stripPaint text
    else char :: stripPaint text
termination_by text => text.length
decreasing_by
  all_goals simp
  have := length_of_afterEscape? ‹_›
  omega

/-- Whether diagnostics are coloured: forced on, else refused, else as the output is a terminal. -/
def coloursWanted (force refuse : Option Text) (terminal : Bool) : Bool :=
  if force.any fun text => !text.isEmpty then true
  else if refuse.any fun text => !text.isEmpty then false
  else terminal

end Stencil
