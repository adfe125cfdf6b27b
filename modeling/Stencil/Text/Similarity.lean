import Stencil.Text.Basic

/-!
# Similarity of texts

Two texts are compared by repeatedly taking the longest common block and then looking left and right of
it; of equally long blocks the one that ends first in the left text, then in the right text, is taken.
With `matched` code points in all blocks, the similarity is `2 * matched / (length + length)`.  In a right
text of 200 or more code points the frequent ones cannot start a block, though they can extend one.
-/

namespace Stencil.Similarity

/-- Whether a code point occurs so often in a long text that no block starts from it. -/
def isPopular (text : Text) (char : Char) : Bool :=
  200 ≤ text.length && text.length / 100 + 1 < text.count char

/-- A common block: where it starts on either side, and its length. -/
structure CommonBlock where
  left : Nat
  right : Nat
  size : Nat

/-- Lengths of the common blocks that end at the current left position, one for each right
position, computed from the lengths for the previous left position. -/
def extendLengths (seed : Char → Bool) (char : Char) : (right : Text) → (previous : List Nat) → List Nat
  | [], _ => []
  | found :: right, previous =>
    (if found = char ∧ seed char then previous.headD 0 + 1 else 0)
      :: extendLengths seed char right previous.tail

/-- The first longest block among those that end at one left position. -/
def improve (leftEnd : Nat) (best : CommonBlock) : (rightEnd : Nat) → List Nat → CommonBlock
  | _, [] => best
  | rightEnd, size :: sizes =>
    improve leftEnd
      (if best.size < size then ⟨leftEnd - size, rightEnd - size, size⟩ else best)
      (rightEnd + 1) sizes

/-- The first longest block whose code points may all start one. -/
def longestSeeded (seed : Char → Bool) (right : Text) :
    (left : Text) → (position : Nat) → (lengths : List Nat) → CommonBlock → CommonBlock
  | [], _, _, best => best
  | char :: left, position, lengths, best =>
    let extended := extendLengths seed char right (0 :: lengths)
    longestSeeded seed right left (position + 1) extended (improve (position + 1) best 1 extended)

/-- The length of the longest common head of two texts. -/
def commonHead : Text → Text → Nat
  | left :: lefts, right :: rights => if left = right then commonHead lefts rights + 1 else 0
  | _, _ => 0

/-- Extend a block on both sides as far as the texts agree. -/
def CommonBlock.grow (block : CommonBlock) (left right : Text) : CommonBlock :=
  let back := commonHead (left.take block.left).reverse (right.take block.right).reverse
  let ahead := commonHead (left.drop (block.left + block.size)) (right.drop (block.right + block.size))
  ⟨block.left - back, block.right - back, block.size + back + ahead⟩

/-- The longest common block. -/
def longestBlock (seed : Char → Bool) (left right : Text) : CommonBlock :=
  (longestSeeded seed right left 0 [] ⟨0, 0, 0⟩).grow left right

/-- How many code points lie in common blocks; each block shortens the texts that are left, so the
length of the left text bounds the depth. -/
def matchedWithin (seed : Char → Bool) : (depth : Nat) → (left right : Text) → Nat
  | 0, _, _ => 0
  | depth + 1, left, right =>
    let block := longestBlock seed left right
    if block.size = 0 then 0
    else
      block.size
        + matchedWithin seed depth (left.take block.left) (right.take block.right)
        + matchedWithin seed depth (left.drop (block.left + block.size))
            (right.drop (block.right + block.size))

/-- How many code points of the two texts lie in common blocks. -/
def matched (left right : Text) : Nat :=
  matchedWithin (fun char => !isPopular right char) (left.length + 1) left right

/-- A similarity, as twice the matched count over the total length. -/
structure Score where
  matched : Nat
  total : Nat

/-- The similarity of two texts; two empty texts are alike. -/
def score (left right : Text) : Score :=
  if left.length + right.length = 0 then ⟨1, 1⟩
  else ⟨2 * matched left right, left.length + right.length⟩

/-- Whether a similarity is at least three fifths. -/
def Score.isClose (score : Score) : Bool := 3 * score.total ≤ 5 * score.matched

/-- Whether the first similarity is smaller. -/
def Score.less (first second : Score) : Bool :=
  first.matched * second.total < second.matched * first.total

/-- The candidate that is most similar to the wanted text, if it is close; of equally similar ones
the greatest by code point. -/
def closest? (wanted : Text) (candidates : List Text) : Option Text :=
  (candidates.foldl
    (fun best candidate =>
      let found := score candidate wanted
      if found.isClose then
        match best with
        | none => some (found, candidate)
        | some (bestScore, bestText) =>
          if bestScore.less found || (!found.less bestScore && Text.precedes bestText candidate)
          then some (found, candidate) else best
      else best)
    none).map Prod.snd

end Stencil.Similarity
