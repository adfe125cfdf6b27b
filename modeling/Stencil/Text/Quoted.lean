import Stencil.Text.Basic
import Stencil.Text.Printable

/-!
# Quoted text

The written form of a text as a literal: between single quotes, or between double quotes when the text
has a single quote and no double one.  The quote in use and the backslash are escaped, and so is every
code point that cannot be printed; the shortest hexadecimal form that holds it is taken.
-/

namespace Stencil.Quoted

/-- The hexadecimal numeral of a number, padded with zeros to the given width. -/
def hexadecimal (width number : Nat) : Text :=
  let digits := Nat.toDigits 16 number
  List.replicate (width - digits.length) '0' ++ digits

/-- The written form of one code point between the given quotes. -/
def encodeChar (quote char : Char) : Text :=
  if char = quote ∨ char = '\\' then ['\\', char]
  else if char = '\t' then ['\\', 't']
  else if char = '\n' then ['\\', 'n']
  else if char = '\r' then ['\\', 'r']
  else if ' ' ≤ char ∧ char < '\x7f' then [char]
  else if isPrintable char then [char]
  else if char.toNat ≤ 0xFF then '\\' :: 'x' :: hexadecimal 2 char.toNat
  else if char.toNat ≤ 0xFFFF then '\\' :: 'u' :: hexadecimal 4 char.toNat
  else '\\' :: 'U' :: hexadecimal 8 char.toNat

/-- The quote that a text is written with. -/
def quoteFor (text : Text) : Char :=
  if text.contains '\'' && !text.contains '"' then '"' else '\''

/-- The written form of a text. -/
def encode (text : Text) : Text :=
  let quote := quoteFor text
  quote :: text.flatMap (encodeChar quote) ++ [quote]

/-- The written form of a list of texts, in square brackets. -/
def encodeList (texts : List Text) : Text :=
  '[' :: Text.join [',', ' '] (texts.map encode) ++ [']']

/-- The value of a hexadecimal digit. -/
def hexadecimalDigit? (char : Char) : Option Nat :=
  if '0' ≤ char ∧ char ≤ '9' then some (char.toNat - '0'.toNat)
  else if 'a' ≤ char ∧ char ≤ 'f' then some (char.toNat - 'a'.toNat + 10)
  else if 'A' ≤ char ∧ char ≤ 'F' then some (char.toNat - 'A'.toNat + 10)
  else none

/-- The value of a sequence of hexadecimal digits. -/
def hexadecimalValue? (digits : Text) : Option Nat :=
  digits.foldlM (fun value digit => (hexadecimalDigit? digit).map (value * 16 + ·)) 0

/-- The code point that a sequence of hexadecimal digits names. -/
def namedChar? (digits : Text) : Option Char := (hexadecimalValue? digits).map Char.ofNat

/-- The code point that a backslash with one more character stands for. -/
def simpleEscape? : Char → Option Char
  | '\\' => some '\\'
  | '\'' => some '\''
  | '"' => some '"'
  | 'n' => some '\n'
  | 't' => some '\t'
  | 'r' => some '\r'
  | 'a' => some '\x07'
  | 'b' => some '\x08'
  | 'f' => some '\x0c'
  | 'v' => some '\x0b'
  | _ => none

/-- Whether a character is an octal digit. -/
def isOctal (char : Char) : Bool := '0' ≤ char && char < '8'

/-- The code point that a sequence of octal digits stands for. -/
def octalChar (digits : Text) : Char :=
  Char.ofNat (digits.foldl (fun value digit => value * 8 + (digit.toNat - '0'.toNat)) 0)

/-- The text that the inside of a literal stands for; absent when the digits of a hexadecimal escape are
missing, or when a code point is given by its name.  A backslash before a line feed joins two lines, and one
before a character that needs no escape stands for itself. -/
def decode? : Text → Option Text
  | [] => some []
  | '\\' :: 'x' :: a :: b :: rest => do return (← namedChar? [a, b]) :: (← decode? rest)
  | '\\' :: 'u' :: a :: b :: c :: d :: rest => do
    return (← namedChar? [a, b, c, d]) :: (← decode? rest)
  | '\\' :: 'U' :: a :: b :: c :: d :: e :: f :: g :: h :: rest => do
    return (← namedChar? [a, b, c, d, e, f, g, h]) :: (← decode? rest)
  | '\\' :: '\n' :: rest => decode? rest
  | '\\' :: char :: rest =>
    if char = 'x' ∨ char = 'u' ∨ char = 'U' ∨ char = 'N' then none
    else if isOctal char then
      match rest with
      | second :: third :: others =>
        if isOctal second then
          if isOctal third then (decode? others).map (octalChar [char, second, third] :: ·)
          else (decode? (third :: others)).map (octalChar [char, second] :: ·)
        else (decode? (second :: third :: others)).map (octalChar [char] :: ·)
      | [second] =>
        if isOctal second then some [octalChar [char, second]]
        else some [octalChar [char], second]
      | [] => some [octalChar [char]]
    else match simpleEscape? char with
      | some meant => (decode? rest).map (meant :: ·)
      | none => (decode? rest).map ('\\' :: char :: ·)
  | char :: rest => (decode? rest).map (char :: ·)

/-- An escape that stands for nothing. -/
structure BadEscape where
  reason : Text
  /-- The inside of the literal before it. -/
  before : Text
  /-- How many characters it has. -/
  length : Nat
  deriving DecidableEq, Repr

/-- The hexadecimal escape of so many digits at the start of a text, when it stands for nothing. -/
def badHexadecimal? (reason : Text) (count : Nat) (before text : Text) : Option BadEscape :=
  let digits := (text.take count).takeWhile fun char => (hexadecimalDigit? char).isSome
  if digits.length < count then some ⟨reason, before, 2 + digits.length⟩
  else if 0x10FFFF < (hexadecimalValue? digits).getD 0 then
    some ⟨"illegal Unicode character", before, 2 + count⟩
  else none

/-- The escape by name at the start of a text; no names are known. -/
def badName (before text : Text) : BadEscape :=
  match text with
  | '{' :: name =>
    let inside := name.takeWhile (· != '}')
    if inside.length = name.length then ⟨"malformed \\N character escape", before, 3 + inside.length⟩
    else if inside.isEmpty then ⟨"malformed \\N character escape", before, 3⟩
    else ⟨"unknown Unicode character name", before, 4 + inside.length⟩
  | _ => ⟨"malformed \\N character escape", before, 2⟩

/-- The first escape that stands for nothing, when `before` has been passed. -/
def badEscape? (before : Text) : Text → Option BadEscape
  | [] => none
  | '\\' :: char :: rest =>
    let bad :=
      if char = 'x' then badHexadecimal? "truncated \\xXX escape" 2 before rest
      else if char = 'u' then badHexadecimal? "truncated \\uXXXX escape" 4 before rest
      else if char = 'U' then badHexadecimal? "truncated \\UXXXXXXXX escape" 8 before rest
      else if char = 'N' then some (badName before rest)
      else none
    bad.or (badEscape? (before ++ ['\\', char]) rest)
  | char :: rest => badEscape? (before ++ [char]) rest

end Stencil.Quoted
