import Stencil.Text.Quoted

/-!
# Tables of code points

A table that relates code points to sequences of others is written as entries with blanks between them: a
hexadecimal numeral, or the first and the last of a range, then a colon and the image with points between its
members.
-/

namespace Stencil.Normal

/-- What a range of code points is related to. -/
structure Entry where
  first : Nat
  last : Nat
  /-- The image of the first code point of the range. -/
  image : List Nat
  deriving DecidableEq, Repr

namespace Entry

/-- An entry that is being read. -/
structure Draft where
  /-- The finished entries, last first. -/
  done : List Entry
  first : Option Nat
  last : Nat
  /-- The finished members of the image, last first. -/
  image : List Nat
  /-- The numeral being read. -/
  number : Nat

/-- Finish the entry that is being read. -/
def Draft.finish (draft : Draft) : List Entry :=
  ⟨draft.first.getD draft.last, draft.last, (draft.number :: draft.image).reverse⟩ :: draft.done

/-- Read one more character. -/
def Draft.step (draft : Draft) (char : Char) : Draft :=
  if char = '-' then { draft with first := some draft.number, number := 0 }
  else if char = ':' then { draft with last := draft.number, number := 0 }
  else if char = '.' then { draft with image := draft.number :: draft.image, number := 0 }
  else if char = ' ' then ⟨draft.finish, none, 0, [], 0⟩
  else { draft with number := draft.number * 16 + (Quoted.hexadecimalDigit? char).getD 0 }

/-- The entries of a written line of a table. -/
def readLine (line : String) : List Entry :=
  (line.toList.foldl Draft.step ⟨[], none, 0, [], 0⟩).finish.reverse

/-- The entries of a written table. -/
def readAll (lines : List String) : List Entry := lines.flatMap readLine

/-- The image of a code point under an entry: the last member moves along a range. -/
def imageOf (entry : Entry) (code : Nat) : List Nat :=
  match entry.image with
  | [only] => [only + (code - entry.first)]
  | image => image

end Entry
end Stencil.Normal
