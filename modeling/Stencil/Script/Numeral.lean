import Stencil.Script.Token
import Stencil.Text.Quoted

/-!
# Reading numbers

A number is decimal, with an optional fraction and exponent, or hexadecimal, octal or binary after a zero and a
letter.  Single underscores may stand between digits.  A name cannot follow a number directly, although some
keywords can.
-/

namespace Stencil.Script

/-- Whether a name may go on with a character, as far as that is decided before its code point is looked
up. -/
def mayContinueName (char : Char) : Bool :=
  char.isAlphanum || char == '_' || 0x80 ≤ char.toNat

/-- Keywords that may follow a number without a blank, when they end there. -/
def wordsAfterNumber : List Text := ["and", "else", "for", "or", "not"]

/-- Starts of words that may follow a number without a blank. -/
def startsAfterNumber : List Text := ["if", "in", "is"]

/-- Whether a number may end before a text. -/
def mayEndNumber (text : Text) : Bool :=
  match text with
  | [] => true
  | char :: _ =>
    !(char.isAlphanum || char == '_') || wordsAfterNumber.contains (text.takeWhile mayContinueName)
      || startsAfterNumber.any fun word => Text.startsWith word text

/-- Read digits with single underscores between them, and what follows them; an underscore without a digit
behind it is a fault, which is given by what follows it. -/
def readDigits (isDigit : Char → Bool) : Text → Except Text (Text × Text)
  | [] => .ok ([], [])
  | '_' :: text =>
    match text with
    | [] => .error []
    | char :: rest =>
      if isDigit char then readDigits isDigit (char :: rest) else .error (char :: rest)
  | char :: text =>
    if isDigit char then
      match readDigits isDigit text with
      | .ok (digits, rest) => .ok (char :: digits, rest)
      | .error rest => .error rest
    else .ok ([], char :: text)

/-- The message for a number of some kind that is written wrong. -/
def invalidNumeral (kind : String) : Text := "invalid " ++ (kind : Text) ++ " literal"

/-- The message for a digit that does not belong to a number of some kind. -/
def invalidDigit (kind : String) (digit : Char) : Text :=
  "invalid digit '" ++ [digit] ++ "' in " ++ (kind : Text) ++ " literal"

/-- Refuse a number at a text that goes on with a digit or with something else. -/
def refuseDigits {α : Type} (kind : String) (text : Text) : Except Text α :=
  match text with
  | char :: _ => .error (if char.isDigit then invalidDigit kind char else invalidNumeral kind)
  | [] => .error (invalidNumeral kind)

/-- Whether a text goes on with a digit. -/
def atDigit : Text → Bool
  | char :: _ => char.isDigit
  | [] => false

/-- Finish a number to a base that is a power of two, whose digits have been read up to a text. -/
def endBased (kind : String) (base : Nat) (digits text : Text) : Except Text (Token × Text) :=
  if digits.isEmpty || atDigit text then refuseDigits kind text
  else if mayEndNumber text then
    let value := digits.foldl (fun value digit =>
      value * base + (Quoted.hexadecimalDigit? digit).getD 0) 0
    .ok (.integer value, text)
  else .error (invalidNumeral kind)

/-- Read a number to a base that is a power of two, after its zero and letter. -/
def readBased (kind : String) (base : Nat) (isDigit : Char → Bool) (text : Text) :
    Except Text (Token × Text) :=
  match readDigits isDigit text with
  | .error rest => refuseDigits kind rest
  | .ok (digits, rest) => endBased kind base digits rest

/-- How many digits a whole number may have. -/
def digitLimit : Nat := 4300

/-- The whole number that a sequence of decimal digits stands for. -/
def wholeNumber (digits : Text) : Token :=
  if digitLimit < digits.length then .vast digits.length
  else .integer (digits.foldl (fun value digit => value * 10 + (digit.toNat - '0'.toNat)) 0)

/-- The message for a whole number with too many digits. -/
def tooManyDigits (digits : Nat) : Text :=
  "Exceeds the limit (4300 digits) for integer string conversion: value has " ++ Text.ofNat digits
    ++ " digits; use sys.set_int_max_str_digits() to increase the limit"
    ++ " - Consider hexadecimal for huge integer literals to avoid decimal conversion limits."

/-- Finish a number that has been read up to a text. -/
def endNumber (token : Token) (kind : String) (text : Text) : Except Text (Token × Text) :=
  if mayEndNumber text then .ok (token, text) else .error (invalidNumeral kind)

/-- Finish a number that a letter may turn into an imaginary one. -/
def endDecimal (token : Token) : Text → Except Text (Token × Text)
  | 'j' :: text | 'J' :: text => endNumber .imaginary "imaginary" text
  | text => endNumber token "decimal" text

/-- Read the digits of an exponent. -/
def readExponent (text : Text) : Except Text (Token × Text) :=
  if atDigit text then
    match readDigits Char.isDigit text with
    | .ok (_, rest) => endDecimal .fraction rest
    | .error _ => .error (invalidNumeral "decimal")
  else .error (invalidNumeral "decimal")

/-- Read the exponent of a number, if there is one; a letter that no exponent follows may start a
keyword. -/
def readScale (token : Token) (text : Text) : Except Text (Token × Text) :=
  match text with
  | 'e' :: rest | 'E' :: rest =>
    match rest with
    | '+' :: digits | '-' :: digits => readExponent digits
    | digits => if atDigit digits then readExponent digits else endNumber token "decimal" text
  | _ => endDecimal token text

/-- Read the digits behind a decimal point. -/
def readFraction (text : Text) : Except Text (Token × Text) :=
  if atDigit text then
    match readDigits Char.isDigit text with
    | .ok (_, rest) => readScale .fraction rest
    | .error _ => .error (invalidNumeral "decimal")
  else readScale .fraction text

/-- The message for a decimal number that starts with a zero. -/
def leadingZeros : Text :=
  "leading zeros in decimal integer literals are not permitted; use an 0o prefix for octal integers"

/-- Whether a text goes on with a letter of an exponent or of an imaginary number. -/
def atScale : Text → Bool
  | char :: _ => [ 'e', 'E', 'j', 'J' ].contains char
  | [] => false

/-- Finish a decimal number whose whole digits have been read up to a text. -/
def endWhole (digits text : Text) : Except Text (Token × Text) :=
  match text with
  | '.' :: after => readFraction after
  | _ =>
    if digits.head? = some '0' && digits.any (· != '0') && !atScale text then .error leadingZeros
    else readScale (wholeNumber digits) text

/-- Read a number that starts with a decimal digit. -/
def readDecimal (text : Text) : Except Text (Token × Text) :=
  match readDigits Char.isDigit text with
  | .error _ => .error (invalidNumeral "decimal")
  | .ok (digits, rest) => endWhole digits rest

/-- Read a number, and what follows it. -/
def readNumber (text : Text) : Except Text (Token × Text) :=
  match text with
  | '0' :: 'x' :: rest | '0' :: 'X' :: rest =>
    match readBased "hexadecimal" 16 (fun char => (Quoted.hexadecimalDigit? char).isSome) rest with
    | .ok found => .ok found
    | .error _ => .error (invalidNumeral "hexadecimal")
  | '0' :: 'o' :: rest | '0' :: 'O' :: rest => readBased "octal" 8 (fun char => '0' ≤ char && char < '8') rest
  | '0' :: 'b' :: rest | '0' :: 'B' :: rest => readBased "binary" 2 (fun char => char == '0' || char == '1') rest
  | '.' :: rest => readFraction rest
  | _ => readDecimal text

end Stencil.Script
