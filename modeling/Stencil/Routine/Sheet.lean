import Stencil.Text.Basic

/-!
# Sheets

A sheet collects generated lines at a current indentation level and remembers for each of them the template
line that it comes from.
-/

namespace Stencil

/-- A generated line with the template line that it comes from. -/
structure GeneratedLine where
  text : Text
  origin : Int
  deriving DecidableEq, Repr

/-- The lines generated so far and the current indentation level. -/
structure Sheet where
  lines : List GeneratedLine
  level : Nat
  deriving DecidableEq, Repr

/-- The template line of a line of a list, counted from one. -/
def originAt (origins : List Int) (number : Int) : Option Int :=
  match number with
  | .ofNat (position + 1) => origins[position]?
  | _ => none

namespace Sheet

/-- Nothing written, at the outermost level. -/
def empty : Sheet := ⟨[], 0⟩

/-- Go one level in. -/
def indent (sheet : Sheet) : Sheet := { sheet with level := sheet.level + 1 }

/-- Go one level out, unless the level is the outermost one. -/
def dedent? (sheet : Sheet) : Option Sheet :=
  match sheet.level with
  | 0 => none
  | level + 1 => some { sheet with level := level }

/-- The indentation of a level: four spaces for each step, none for a negative level. -/
def indentation (level : Int) : Text := Text.spaces (4 * level)

/-- Write a line at a given level. -/
def writeAt (level : Int) (text : Text) (origin : Int) (sheet : Sheet) : Sheet :=
  { sheet with lines := sheet.lines ++ [⟨indentation level ++ text, origin⟩] }

/-- Write a line at the current level. -/
def write (text : Text) (origin : Int) (sheet : Sheet) : Sheet :=
  sheet.writeAt sheet.level text origin

/-- The template line of every written line. -/
def origins (sheet : Sheet) : List Int := sheet.lines.map GeneratedLine.origin

/-- The written text; every line ends in a line feed, and so does an empty sheet. -/
def toText (sheet : Sheet) : Text :=
  Text.join ['\n'] (sheet.lines.map GeneratedLine.text) ++ ['\n']

end Sheet
end Stencil
