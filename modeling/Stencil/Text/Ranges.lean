/-!
# Ranges of code points

A character class is given by its ascending list of closed ranges.
-/

namespace Stencil

/-- Closed ranges of code points, in ascending order. -/
abbrev Ranges := List (Nat × Nat)

namespace Ranges

/-- Whether a code point lies in one of the ranges; the search stops at the first range that
starts beyond it. -/
def holds (code : Nat) : Ranges → Bool
  | [] => false
  | (first, last) :: ranges =>
    if code < first then false else if code ≤ last then true else holds code ranges

end Ranges
end Stencil
