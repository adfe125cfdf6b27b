import Stencil.Text.Basic

/-!
# Numerals

Written forms of whole numbers: decimal up to a limit on the digits, in other bases, and as decimal fractions with
a point or an exponent.  Fractions are written from the nearest number of 53 significant bits, and a number that lies
halfway between two written forms goes to the even one.
-/

namespace Stencil.Numeral

/-- The most digits that a decimal numeral has. -/
def digitLimit : Nat := 4300

/-- The smallest number with more digits than are written. -/
def limit : Nat := Nat.pow 10 digitLimit

/-- The decimal numeral of a number, unless it has too many digits. -/
def decimal? (number : Int) : Option Text :=
  if limit ≤ number.natAbs then none else some (Text.ofInt number)

/-- A quotient rounded to the nearest number, a half to the even one. -/
def halfEven (number divisor : Nat) : Nat :=
  let quotient := number / divisor
  let twice := 2 * (number % divisor)
  if twice > divisor ∨ (twice = divisor ∧ quotient % 2 = 1) then quotient + 1 else quotient

/-- How many significant bits fractions are written from. -/
def significantBits : Nat := 53

/-- The nearest number of 53 significant bits, unless the number is too large for one. -/
def nearest? (number : Nat) : Option Nat :=
  let bits := if number = 0 then 0 else number.log2 + 1
  if 1024 < bits then none
  else
    let excess := Nat.pow 2 (bits - significantBits)
    let rounded := halfEven number excess * excess
    if rounded < Nat.pow 2 1024 then some rounded else none

/-- How a fraction is laid out. -/
inductive Layout where
  /-- With a point. -/
  | fixed
  /-- With an exponent. -/
  | scientific
  /-- With a point if the exponent is small enough, else with an exponent. -/
  | general
  deriving DecidableEq, Repr

/-- The first so many digits of a number, rounded, and its decimal exponent. -/
def rounded (count number : Nat) : Text × Nat :=
  let digits := Text.ofNat number
  if number = 0 then (List.replicate count '0', 0)
  else if digits.length ≤ count then
    (digits ++ List.replicate (count - digits.length) '0', digits.length - 1)
  else
    let kept := Text.ofNat (halfEven number (Nat.pow 10 (digits.length - count)))
    if kept.length ≤ count then (kept, digits.length - 1) else (kept.take count, digits.length)

/-- Digits before a point and after it; the point is left out when nothing follows, unless it is kept. -/
def pointed (keep : Bool) (whole fraction : Text) : Text :=
  if fraction.isEmpty && !keep then whole else whole ++ '.' :: fraction

/-- The written form of an exponent, of at least two digits. -/
def exponent (power : Nat) : Text :=
  let digits := Text.ofNat power
  'e' :: '+' :: (List.replicate (2 - digits.length) '0' ++ digits)

/-- Without zeros at the end. -/
def trimmed (keep : Bool) (fraction : Text) : Text :=
  if keep then fraction else Text.dropTailWhile (· == '0') fraction

/-- The written form of a number as a fraction with so many digits, unless it is too large; `keep` keeps the
point and the zeros at the end. -/
def fraction? (layout : Layout) (keep : Bool) (precision number : Nat) : Option Text :=
  (nearest? number).map fun number =>
    match layout with
    | .fixed => pointed keep (Text.ofNat number) (List.replicate precision '0')
    | .scientific =>
      let (digits, power) := rounded (precision + 1) number
      pointed keep (digits.take 1) (digits.drop 1) ++ exponent power
    | .general =>
      let count := max precision 1
      let (digits, power) := rounded count number
      if power < count then
        pointed keep (digits.take (power + 1)) (trimmed keep (digits.drop (power + 1)))
      else pointed keep (digits.take 1) (trimmed keep (digits.drop 1)) ++ exponent power

end Stencil.Numeral
