/-!
# Text

Text is a list of code points.  Every position, column and length in the library is therefore a
position in such a list, and the operations here are plain list recursions.
-/

namespace Stencil

/-- A sequence of code points. -/
abbrev Text := List Char

instance : Coe String Text := ⟨String.toList⟩

namespace Text

/-- The decimal numeral of a natural number. -/
def ofNat (number : Nat) : Text := Nat.toDigits 10 number

/-- The decimal numeral of an integer, with a leading minus when it is negative. -/
def ofInt : Int → Text
  | .ofNat magnitude => ofNat magnitude
  | .negSucc below => '-' :: ofNat (below + 1)

/-- So many spaces; none for a negative count. -/
def spaces (count : Int) : Text := List.replicate count.toNat ' '

/-- Right-align in a field of the given width. -/
def padLeft (width : Nat) (text : Text) : Text :=
  List.replicate (width - text.length) ' ' ++ text

/-- Concatenate the pieces with a separator between neighbours. -/
def join (separator : Text) : List Text → Text
  | [] => []
  | [piece] => piece
  | piece :: pieces => piece ++ separator ++ join separator pieces

/-- What follows `lead`, when the text starts with it. -/
def afterLead? : (lead text : Text) → Option Text
  | [], text => some text
  | _ :: _, [] => none
  | wanted :: lead, found :: text => if wanted = found then afterLead? lead text else none

/-- Whether the text starts with `lead`. -/
def startsWith (lead text : Text) : Bool := (afterLead? lead text).isSome

/-- Whether `needle` occurs somewhere in the text. -/
def occursIn (needle : Text) : Text → Bool
  | [] => needle.isEmpty
  | char :: text => startsWith needle (char :: text) || occursIn needle text

/-- The pieces between the occurrences of a separator; there is always at least one piece. -/
def splitOn (separator : Char) : Text → List Text
  | [] => [[]]
  | char :: text =>
    if char = separator then [] :: splitOn separator text
    else match splitOn separator text with
      | [] => [[char]]
      | piece :: pieces => (char :: piece) :: pieces

/-- The text before the first occurrence of a separator, and the text after it. -/
def breakAt? (separator : Char) : Text → Option (Text × Text)
  | [] => none
  | char :: text =>
    if char = separator then some ([], text)
    else (breakAt? separator text).map fun (before, after) => (char :: before, after)

/-- Drop the longest tail whose code points all satisfy a test. -/
def dropTailWhile (test : Char → Bool) : Text → Text
  | [] => []
  | char :: text =>
    match dropTailWhile test text with
    | [] => if test char then [] else [char]
    | kept => char :: kept

/-- Replace every code point by a text. -/
def substitute (image : Char → Text) (text : Text) : Text := text.flatMap image

/-- Lexicographic order by code point. -/
def precedes : Text → Text → Bool
  | _, [] => false
  | [], _ :: _ => true
  | left :: lefts, right :: rights =>
    left.toNat < right.toNat || (left = right && precedes lefts rights)

/-- The last code point, if there is one. -/
def last? : Text → Option Char := List.getLast?

/-- Insert into a list that is sorted by code point, unless the text is already there. -/
def insertSorted (text : Text) : List Text → List Text
  | [] => [text]
  | head :: tail =>
    if text = head then head :: tail
    else if precedes text head then text :: head :: tail
    else head :: insertSorted text tail

/-- The distinct texts of a list, sorted by code point. -/
def sortDistinct (texts : List Text) : List Text := texts.foldr insertSorted []

end Text
end Stencil
