import Stencil.Text.Basic
import Stencil.Text.Case.Table

/-!
# Letter case

Full case mapping: one code point may become several, and a capital sigma becomes the final form at the
end of a word.
-/

namespace Stencil

/-- Whether a code point is an upper-case one. -/
def isUpperCase (char : Char) : Bool := Case.upperRanges.holds char.toNat

namespace Case

/-- The image of a code point under a list of runs that start in ascending order. -/
def Runs.image? (code : Nat) : Runs → Option Nat
  | [] => none
  | (first, last, step, image) :: runs =>
    if code < first then none
    else if code ≤ last ∧ (code - first) % step = 0 then some (image + (code - first))
    else Runs.image? code runs

/-- The image of a code point under a case mapping; unlisted code points are their own image. -/
def image (runs : Runs) (expansions : Expansions) (char : Char) : Text :=
  match expansions.lookup char.toNat with
  | some codes => codes.map Char.ofNat
  | none => match runs.image? char.toNat with
    | some code => [Char.ofNat code]
    | none => [char]

/-- Whether the first code point that is not passed over has a case. -/
def meetsCased : Text → Bool
  | [] => false
  | char :: text =>
    if ignorableRanges.holds char.toNat then meetsCased text else casedRanges.holds char.toNat

/-- Lower-case image of a code point between the text before it, nearest first, and after it. -/
def lowerWithin (before : Text) (char : Char) (after : Text) : Text :=
  if char.toNat = 0x3A3 then
    [Char.ofNat (if meetsCased before && !meetsCased after then 0x3C2 else 0x3C3)]
  else image lowerRuns lowerExpansions char

/-- Map every code point to lower case; `before` is what precedes the text, nearest first. -/
def lowerFrom (before : Text) : Text → Text
  | [] => []
  | char :: text => lowerWithin before char text ++ lowerFrom (char :: before) text

/-- Map the first code point of every run of cased ones to title case and the others to lower
case; `before` is what precedes the text, nearest first. -/
def titleFrom (before : Text) : Text → Text
  | [] => []
  | char :: text =>
    let inside := match before with
      | [] => false
      | previous :: _ => casedRanges.holds previous.toNat
    (if inside then lowerWithin before char text else image titleRuns titleExpansions char)
      ++ titleFrom (char :: before) text

end Case

namespace Text

/-- The text in lower case. -/
def lower (text : Text) : Text := Case.lowerFrom [] text

/-- The text in upper case. -/
def upper (text : Text) : Text :=
  text.flatMap (Case.image Case.upperRuns Case.upperExpansions)

/-- The text with every word capitalised. -/
def title (text : Text) : Text := Case.titleFrom [] text

end Text
end Stencil
