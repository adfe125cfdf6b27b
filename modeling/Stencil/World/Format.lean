import Stencil.World.Iterate

/-!
# Filling values into a text

A percent sign in a text begins a place that a value is filled into.  The place says how the value is written, at
which width, with how many digits and with which signs; the values are taken in order, or from a mapping by name.
-/

namespace Stencil
namespace Format

/-- How a value is laid out in its place. -/
structure Style where
  /-- The value stands at the left of its field. -/
  left : Bool
  /-- Numbers that are not negative get a plus. -/
  plus : Bool
  /-- Numbers that are not negative get a blank. -/
  blank : Bool
  alternate : Bool
  /-- Numbers are filled up with zeros. -/
  zeros : Bool
  width : Option Nat
  precision : Option Nat
  deriving Repr

namespace Style

/-- Nothing special. -/
def standard : Style := ⟨false, false, false, false, false, none, none⟩

/-- Note a flag. -/
def flag? (style : Style) : Char → Option Style
  | '-' => some { style with left := true }
  | '+' => some { style with plus := true }
  | ' ' => some { style with blank := true }
  | '#' => some { style with alternate := true }
  | '0' => some { style with zeros := true }
  | _ => none

/-- Take the flags off a text. -/
def flags (style : Style) : Text → Style × Text
  | [] => (style, [])
  | char :: text =>
    match style.flag? char with
    | some style => style.flags text
    | none => (style, char :: text)

end Style

/-- Take the digits off a text. -/
def digits (text : Text) : Nat × Text :=
  (text.takeWhile Char.isDigit |>.foldl (fun value digit => value * 10 + (digit.toNat - '0'.toNat)) 0,
    text.dropWhile Char.isDigit)

/-- A key up to its closing parenthesis, and the text after it; parentheses in it are balanced. -/
def key? : (depth : Nat) → Text → Option (Text × Text)
  | _, [] => none
  | 0, ')' :: text => some ([], text)
  | depth + 1, ')' :: text => (key? depth text).map fun (key, rest) => (')' :: key, rest)
  | depth, '(' :: text => (key? (depth + 1) text).map fun (key, rest) => ('(' :: key, rest)
  | depth, char :: text => (key? depth text).map fun (key, rest) => (char :: key, rest)

/-- Whether a conversion writes a whole number in a base of its own. -/
def isBased (conversion : Char) : Bool := ['o', 'x', 'X'].contains conversion

/-- Whether a conversion writes numbers. -/
def isNumeric (conversion : Char) : Bool :=
  ['d', 'i', 'u', 'o', 'x', 'X', 'e', 'E', 'f', 'F', 'g', 'G'].contains conversion

/-- Whether a conversion writes any value as text. -/
def isTextual (conversion : Char) : Bool := ['s', 'r', 'a'].contains conversion

/-- The sign that is written before a number, and what is written after it. -/
def signed (style : Style) (text : Text) : Text × Text :=
  match text with
  | '-' :: rest => (['-'], rest)
  | _ =>
    if style.plus then (['+'], text) else if style.blank then ([' '], text) else ([], text)

/-- Lay out a written value in its place. -/
def lay (style : Style) (conversion : Char) (text : Text) : Text :=
  let text := match style.precision with
    | some most => if isTextual conversion then text.take most else text
    | none => text
  let (sign, text) := if isNumeric conversion then signed style text else ([], text)
  let (base, text) :=
    if style.alternate && isBased conversion then (text.take 2, text.drop 2) else ([], text)
  let missing := (style.width.getD 0) - (sign.length + base.length + text.length)
  if style.left then sign ++ base ++ text ++ List.replicate missing ' '
  else if style.zeros && isNumeric conversion then
    sign ++ base ++ List.replicate missing '0' ++ text
  else List.replicate missing ' ' ++ sign ++ base ++ text

/-- A number in a base of its own, with at least so many digits. -/
def based (style : Style) (conversion : Char) (number : Int) : Text :=
  let digits := Nat.toDigits (if conversion = 'o' then 8 else 16) number.natAbs
  let digits := List.replicate (style.precision.getD 0 - digits.length) '0' ++ digits
  let marked := if style.alternate then '0' :: (if conversion = 'o' then 'o' else 'x') :: digits
    else digits
  let written := if conversion = 'X' then marked.map Char.toUpper else marked
  if number < 0 then '-' :: written else written

/-- How the conversions of numbers to fractions lay them out. -/
def layoutOf? : Char → Option Numeral.Layout
  | 'e' | 'E' => some .scientific
  | 'f' | 'F' => some .fixed
  | 'g' | 'G' => some .general
  | _ => none

/-- A text without characters of more than seven bits. -/
def narrowed (text : Text) : Text :=
  text.flatMap fun char =>
    if char.toNat < 128 then [char]
    else if char.toNat ≤ 0xFF then '\\' :: 'x' :: Quoted.hexadecimal 2 char.toNat
    else if char.toNat ≤ 0xFFFF then '\\' :: 'u' :: Quoted.hexadecimal 4 char.toNat
    else '\\' :: 'U' :: Quoted.hexadecimal 8 char.toNat

/-- The values that are still to be filled in. -/
inductive Supply where
  | several (values : List Value)
  | single (value : Value)
  | spent
  deriving Repr

/-- Whether there are values that have not been filled in. -/
def Supply.isLeft : Supply → Bool
  | several values => !values.isEmpty
  | single _ => true
  | spent => false

/-- Where values are taken from. -/
structure Source where
  /-- What keys are looked up in. -/
  mapping : Option Value
  supply : Supply
  deriving Repr

end Format

namespace Effect

open Format

/-- The next value to be filled in. -/
def nextArgument : Supply → Effect (Value × Supply)
  | .several (value :: values) => return (value, .several values)
  | .single value => return (value, .spent)
  | .several [] | .spent => raiseText .typing "not enough arguments for format string"

/-- A count that is given as a value. -/
def countGiven (word : Text) (bound : Int) (supply : Supply) : Effect (Int × Supply) := do
  let (value, supply) ← nextArgument supply
  match value.toInt? with
  | none => raiseText .typing "* wants int"
  | some count =>
    if count < -bound ∨ bound ≤ count then
      raiseText .overflow ("Python int too large to convert to C " ++ word)
    else return (count, supply)

/-- Take the width off a text. -/
def widthIn (style : Style) (supply : Supply) (text : Text) : Effect (Style × Supply × Text) := do
  match text with
  | '*' :: text =>
    let (count, supply) ← countGiven "ssize_t" (Int.pow 2 63) supply
    if count < 0 then return ({ style with left := true, width := some count.natAbs }, supply, text)
    else return ({ style with width := some count.toNat }, supply, text)
  | char :: _ =>
    if char.isDigit then
      let (count, text) := digits text
      if Nat.pow 2 63 ≤ count then raiseText .value "width too big"
      else return ({ style with width := some count }, supply, text)
    else return (style, supply, text)
  | [] => return (style, supply, text)

/-- Take the precision off a text. -/
def precisionIn (style : Style) (supply : Supply) (text : Text) :
    Effect (Style × Supply × Text) := do
  match text with
  | '.' :: '*' :: text =>
    let (count, supply) ← countGiven "int" (Int.pow 2 31) supply
    return ({ style with precision := some count.toNat }, supply, text)
  | '.' :: text =>
    let (count, text) := digits text
    if Nat.pow 2 31 ≤ count then raiseText .value "precision too big"
    else return ({ style with precision := some count }, supply, text)
  | _ => return (style, supply, text)

/-- The written form of a number of a conversion. -/
def numberText (style : Style) (conversion : Char) (value : Value) : Effect Text := do
  match value.toInt?, layoutOf? conversion with
  | some number, some layout =>
    match Numeral.fraction? layout style.alternate (style.precision.getD 6) number.natAbs with
    | some text =>
      let text := if conversion.isUpper then text.map Char.toUpper else text
      return if number < 0 then '-' :: text else text
    | none => raiseText .overflow "int too large to convert to float"
  | some number, none =>
    if isBased conversion then return based style conversion number
    else match Numeral.decimal? number.natAbs with
      | some digits =>
        let digits := List.replicate (style.precision.getD 0 - digits.length) '0' ++ digits
        return if number < 0 then '-' :: digits else digits
      | none => raiseUnshowable .tooLong
  | none, some _ => raiseAbout value "must be real number, not " []
  | none, none => raiseAbout value (['%', conversion] ++ " format: "
      ++ (if isBased conversion then "an integer" else "a real number" : Text) ++ " is required, not ") []

/-- The character that a value stands for. -/
def characterText (value : Value) : Effect Text :=
  match value.toInt?, value with
  | some number, _ =>
    if 0 ≤ number ∧ number < 0x110000 then return [Char.ofNat number.toNat]
    else raiseText .overflow "%c arg not in range(0x110000)"
  | none, .text _ _ [char] => return [char]
  | none, _ => raiseText .typing "%c requires int or char"

/-- The written form of a value of a conversion; `place` is where the conversion stands. -/
def converted (call : Caller) (style : Style) (conversion : Char) (place : Nat) (value : Value) :
    Effect Text := do
  if conversion = 's' then return contentOf (← call (.builtin .text) [value])
  else if conversion = 'r' then shown value
  else if conversion = 'a' then return narrowed (← shown value)
  else if conversion = 'c' then characterText value
  else if isNumeric conversion then numberText style conversion value
  else
    let visible := if 31 ≤ conversion.toNat ∧ conversion.toNat < 126 then conversion else '?'
    raiseText .value ("unsupported format character '" ++ [visible] ++ "' (0x"
      ++ Nat.toDigits 16 conversion.toNat ++ ") at index " ++ Text.ofNat place)

/-- The widest field that is filled. -/
def widestField : Nat := Nat.pow 2 32

/-- Fill in a value after the flags of its place; `length` is the length of the whole text. -/
def fillStyled (call : Caller) (length : Nat) (style : Style) (supply : Supply) (text : Text) :
    Effect (Text × Supply × Text) := do
  let (style, supply, text) ← widthIn style supply text
  let (style, supply, text) ← precisionIn style supply text
  let text := match text with
    | char :: rest => if ['h', 'l', 'L'].contains char then rest else text
    | [] => []
  match text with
  | [] => raiseText .value "incomplete format"
  | conversion :: text =>
    let (value, supply) ← nextArgument supply
    let written ← converted call style conversion (length - text.length - 1) value
    if widestField < style.width.getD 0 then raise .memory []
    else return (lay style conversion written, supply, text)

/-- The error about values that were not filled in. -/
def raiseUnfilled {α : Type} : Effect α :=
  raiseText .typing "not all arguments converted during string formatting"

/-- Fill in the value of a place, of which the percent sign has been taken off. -/
def fillPlace (call : Caller) (item : Value → Value → Effect Value) (length : Nat) (source : Source)
    (text : Text) : Effect (Text × Source × Text) := do
  let (supply, text) ← match text with
    | '(' :: text => match source.mapping with
      | none => raiseText .typing "format requires a mapping"
      | some mapping => match key? 0 text with
        | none => raiseText .value "incomplete format key"
        | some (key, text) => do pure (Supply.single (← item mapping (← newText key)), text)
    | _ => pure (source.supply, text)
  let (style, text) := Style.standard.flags text
  let (written, supply, text) ← fillStyled call length style supply text
  if source.mapping.isSome && supply.isLeft then raiseUnfilled
  else return (written, ⟨source.mapping, supply⟩, text)

/-- Fill values into a text, of which at most `steps` characters are left. -/
def fillFrom (call : Caller) (item : Value → Value → Effect Value) (length : Nat) :
    (steps : Nat) → Source → (done : Text) → Text → Effect (Text × Source)
  | 0, source, done, _ => return (done.reverse, source)
  | steps + 1, source, done, text => do
    match text with
    | [] => return (done.reverse, source)
    | '%' :: '%' :: text => fillFrom call item length steps source ('%' :: done) text
    | '%' :: text =>
      let (written, source, text) ← fillPlace call item length source text
      fillFrom call item length steps source (written.reverse ++ done) text
    | char :: text => fillFrom call item length steps source (char :: done) text

/-- Fill values into a text: those of a tuple in order, or a single one, which keys can be looked up in when it
is a mapping or a sequence.  `item` looks keys up. -/
def filled (call : Caller) (item : Value → Value → Effect Value) (content : Text) (right : Value) :
    Effect Value := do
  let world ← Effect.world
  let supply := match right with
    | .tuple _ items => Supply.several items
    | _ => Supply.single right
  let mapping := match right with
    | .range _ _ _ _ => some right
    | .object _ =>
      if (world.itemsOf? right).isSome || (world.entriesOf? right).isSome then some right else none
    | _ => none
  let (text, source) ← fillFrom call item content.length (content.length + 1) ⟨mapping, supply⟩ []
    content
  if source.mapping.isNone && source.supply.isLeft then raiseUnfilled
  else newText text

end Effect
end Stencil
