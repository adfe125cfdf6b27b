import Stencil.Script.Token
import Stencil.Text.Quoted

/-!
# Reading literals

A literal stands between two quotes on one line, or between two triples of quotes on any number of lines.
Letters in front of it say what becomes of its inside.
-/

namespace Stencil.Script

/-- What becomes of the inside of a literal. -/
structure LiteralKind where
  /-- Backslashes stand for themselves. -/
  raw : Bool
  bytes : Bool
  formatted : Bool
  deriving DecidableEq, Repr

/-- The kind of literal that letters in front of a quote announce. -/
def literalKind? (letters : Text) : Option LiteralKind :=
  let small := String.ofList (letters.map Char.toLower)
  if small = "" || small = "u" then some ⟨false, false, false⟩
  else if small = "r" then some ⟨true, false, false⟩
  else if small = "b" then some ⟨false, true, false⟩
  else if small = "f" then some ⟨false, false, true⟩
  else if small = "br" || small = "rb" then some ⟨true, true, false⟩
  else if small = "fr" || small = "rf" then some ⟨true, false, true⟩
  else none

/-- The inside of a literal after its opening quote, and what follows its closing quote; or how many
line feeds were passed when the line ended before the quote came. -/
def readShort (quote : Char) : Text → Except Nat (Text × Text)
  | [] => .error 0
  | '\n' :: _ => .error 0
  | '\\' :: char :: text =>
    match readShort quote text with
    | .error passed => .error (if char = '\n' then passed + 1 else passed)
    | .ok (inside, rest) => .ok ('\\' :: char :: inside, rest)
  | char :: text =>
    if char = quote then .ok ([], text)
    else match readShort quote text with
      | .error passed => .error passed
      | .ok (inside, rest) => .ok (char :: inside, rest)

/-- The inside of a literal between tripled quotes, and what follows it. -/
def readLong (quote : Char) : Text → Option (Text × Text)
  | [] => none
  | '\\' :: char :: text =>
    (readLong quote text).map fun (inside, rest) => ('\\' :: char :: inside, rest)
  | char :: text =>
    if char = quote ∧ Text.startsWith [quote, quote] text then some ([], text.drop 2)
    else (readLong quote text).map fun (inside, rest) => (char :: inside, rest)

/-- How many places a character takes when the place of an escape is given; only plain characters take
one. -/
def places (text : Text) : Nat :=
  match text with
  | [] => 0
  | '\\' :: char :: rest => (if char.toNat < 0x80 then 2 else 16) + places rest
  | char :: rest => (if char.toNat < 0x80 then 1 else 10) + places rest

/-- The message for a text with an escape that stands for nothing. -/
def badTextEscape (bad : Quoted.BadEscape) : Text :=
  let first := places bad.before
  "(unicode error) 'unicodeescape' codec can't decode bytes in position " ++ Text.ofNat first ++ ['-']
    ++ Text.ofNat (first + bad.length - 1) ++ ": " ++ bad.reason

/-- The first escape of bytes that stands for nothing, when so many characters have been passed. -/
def badByteEscape? (passed : Nat) : Text → Option Nat
  | [] => none
  | '\\' :: char :: rest =>
    if char = 'x' && ((rest.take 2).takeWhile fun char => (Quoted.hexadecimalDigit? char).isSome).length < 2 then
      some passed
    else badByteEscape? (passed + 2) rest
  | _ :: rest => badByteEscape? (passed + 1) rest

/-- The token of a literal with a given inside. -/
def LiteralKind.token (kind : LiteralKind) (inside : Text) : Token :=
  if kind.formatted then .formatted
  else if kind.bytes then
    if inside.any fun char => 0x80 ≤ char.toNat then
      .spoiled "bytes can only contain ASCII literal characters" true
    else match if kind.raw then none else badByteEscape? 0 inside with
      | some place => .spoiled ("(value error) invalid \\x escape at position " ++ Text.ofNat place) true
      | none => .bytes
  else if kind.raw then .string inside
  else match Quoted.decode? inside with
    | some value => .string value
    | none => match Quoted.badEscape? [] inside with
      | some bad => .spoiled (badTextEscape bad) false
      | none => .string inside

/-- Read a literal that ends on its line, which has a given number. -/
def readPlain (line : Nat) (quote : Char) (text : Text) : Except Text (Text × Text) :=
  match readShort quote text with
  | .ok found => .ok found
  | .error passed => .error ("unterminated string literal (detected at line "
      ++ Text.ofNat (line + passed) ++ ")")

/-- Read a literal between tripled quotes that starts on a given line. -/
def readTripled (line : Nat) (quote : Char) (text : Text) : Except Text (Text × Text) :=
  match readLong quote text with
  | some found => .ok found
  | none => .error ("unterminated triple-quoted string literal (detected at line "
      ++ Text.ofNat (line + text.count '\n' - 1) ++ ")")

/-- Read a literal behind its opening quote, which stands on a given line: its inside, and what follows it;
or why it does not end. -/
def readLiteral (line : Nat) (quote : Char) (text : Text) : Except Text (Text × Text) :=
  match text with
  | second :: third :: after =>
    if second = quote ∧ third = quote then readTripled line quote after else readPlain line quote text
  | _ => readPlain line quote text

end Stencil.Script
