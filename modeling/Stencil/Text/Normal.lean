import Stencil.Text.Basic
import Stencil.Text.Normal.Combining
import Stencil.Text.Normal.Composition
import Stencil.Text.Normal.Decomposition

/-!
# The normal form of names

Two spellings of a name are the same name when their normal forms agree.  To bring a name to its normal form,
every code point is taken apart as far as it goes, the marks behind each letter are sorted by their classes, and
what can be joined is joined again.
-/

namespace Stencil.Normal

/-- The first syllable that is joined from two or three letters. -/
def syllableBase : Nat := 0xAC00

/-- The number of syllables. -/
def syllableCount : Nat := 11172

/-- The letters of a syllable: a leading consonant, a vowel, and a trailing consonant unless it is the
zeroth one. -/
def lettersOf (syllable : Nat) : List Nat :=
  let index := syllable - syllableBase
  let trailing := index % 28
  [0x1100 + index / 588, 0x1161 + index % 588 / 28] ++ if trailing = 0 then [] else [0x11A7 + trailing]

/-- What a code point stands for. -/
def decompose (char : Char) : Text :=
  let code := char.toNat
  if syllableBase ≤ code ∧ code < syllableBase + syllableCount then (lettersOf code).map Char.ofNat
  else match decompositions.find? fun entry => entry.first ≤ code && code ≤ entry.last with
    | some entry => (entry.imageOf code).map Char.ofNat
    | none => [char]

/-- Put a mark in front of the marks that come after it; nothing moves past a code point of class
zero. -/
def insertMark (mark : Char) : Text → Text
  | [] => [mark]
  | char :: text =>
    if combiningClass char ≠ 0 ∧ combiningClass char < combiningClass mark then
      char :: insertMark mark text
    else mark :: char :: text

/-- Sort the marks behind each letter by their classes; equal classes keep their order. -/
def sortMarks (text : Text) : Text :=
  text.foldr (fun char sorted =>
    if combiningClass char = 0 then char :: sorted else insertMark char sorted) []

/-- The code point that two others are joined to. -/
def join? (left right : Char) : Option Char :=
  let first := left.toNat
  let second := right.toNat
  if 0x1100 ≤ first ∧ first < 0x1113 ∧ 0x1161 ≤ second ∧ second < 0x1176 then
    some (Char.ofNat (syllableBase + ((first - 0x1100) * 21 + (second - 0x1161)) * 28))
  else if syllableBase ≤ first ∧ first < syllableBase + syllableCount ∧ (first - syllableBase) % 28 = 0
      ∧ 0x11A7 < second ∧ second < 0x11C3 then
    some (Char.ofNat (first + (second - 0x11A7)))
  else (compositions.find? fun entry => entry.image == [first, second]).map fun entry =>
    Char.ofNat entry.first

/-- Join what can be joined: `passed` are the code points behind `starter` that stayed, and a mark of the
class of the one before it is out of reach. -/
def compose (starter : Char) (passed : Text) : Text → Text
  | [] => starter :: passed
  | char :: text =>
    let order := combiningClass char
    let inReach := match passed.getLast? with
      | none => true
      | some before => combiningClass before ≠ 0 && combiningClass before < order
    match if inReach then join? starter char else none with
    | some joined => compose joined passed text
    | none =>
      if order = 0 then starter :: passed ++ compose char [] text
      else compose starter (passed ++ [char]) text

end Stencil.Normal

namespace Stencil

/-- The normal form of a name. -/
def normalName (name : Text) : Text :=
  match Normal.sortMarks (name.flatMap Normal.decompose) with
  | [] => []
  | char :: text => Normal.compose char [] text

end Stencil
