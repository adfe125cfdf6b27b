import Stencil.Text.Quoted

/-!
# Decoding files

Bytes become text in one of four encodings.  A failure names the bytes at fault, where they stand and what is
wrong with them.
-/

namespace Stencil

/-- The known encodings. -/
inductive Encoding where
  | utf8
  /-- The same, with an optional mark at the beginning. -/
  | utf8Marked
  | ascii
  | latin1
  deriving DecidableEq, Repr

namespace Encoding

/-- The encoding with a given name. -/
def ofName? (name : Text) : Option Encoding :=
  [(("utf-8" : Text), utf8), ("utf8", utf8), ("utf-8-sig", utf8Marked), ("ascii", ascii),
    ("us-ascii", ascii), ("latin-1", latin1), ("latin1", latin1), ("iso-8859-1", latin1)].lookup name

/-- What can be wrong with a sequence of bytes. -/
inductive Mistake where
  | startByte
  | continuationByte
  | endOfData
  | beyondRange
  deriving DecidableEq, Repr

/-- The description of a mistake. -/
def Mistake.message : Mistake → Text
  | startByte => "invalid start byte"
  | continuationByte => "invalid continuation byte"
  | endOfData => "unexpected end of data"
  | beyondRange => "ordinal not in range(128)"

/-- A failure to decode. -/
structure Failure where
  /-- The name of the encoding. -/
  codec : Text
  /-- The first byte at fault. -/
  byte : UInt8
  /-- Its position. -/
  position : Nat
  /-- How many bytes are at fault. -/
  count : Nat
  mistake : Mistake
  deriving DecidableEq, Repr

/-- The description of a failure. -/
def Failure.message (failure : Failure) : Text :=
  "'" ++ failure.codec ++ "' codec can't decode "
    ++ (if failure.count = 1 then
        ("byte 0x" : Text) ++ Quoted.hexadecimal 2 failure.byte.toNat ++ " in position "
          ++ Text.ofNat failure.position
      else
        ("bytes in position " : Text) ++ Text.ofNat failure.position ++ "-"
          ++ Text.ofNat (failure.position + failure.count - 1))
    ++ ": " ++ failure.mistake.message

/-- How many bytes a sequence takes, by its first byte. -/
def sequenceLength? (first : Nat) : Option Nat :=
  if first < 0x80 then some 1
  else if 0xC2 ≤ first ∧ first ≤ 0xDF then some 2
  else if 0xE0 ≤ first ∧ first ≤ 0xEF then some 3
  else if 0xF0 ≤ first ∧ first ≤ 0xF4 then some 4
  else none

/-- Whether a byte may follow the first byte of a sequence. -/
def followsFirst (first second : Nat) : Bool :=
  0x80 ≤ second && second ≤ 0xBF
    && !(first == 0xE0 && second < 0xA0) && !(first == 0xED && 0xA0 ≤ second)
    && !(first == 0xF0 && second < 0x90) && !(first == 0xF4 && 0x90 ≤ second)

/-- Whether a byte may stand later in a sequence. -/
def isContinuation (byte : Nat) : Bool := 0x80 ≤ byte && byte ≤ 0xBF

/-- How many of the bytes after the first one belong to the sequence. -/
def goodBytes (first : Nat) : (wanted : Nat) → (following : List UInt8) → Nat
  | wanted, following =>
    match following.take wanted with
    | [] => 0
    | second :: rest =>
      if followsFirst first second.toNat then
        1 + (rest.takeWhile fun byte => isContinuation byte.toNat).length
      else 0

/-- The code point of a sequence of bytes that is well formed. -/
def codePoint (first : Nat) (following : List UInt8) : Char :=
  let lead := match following.length with
    | 0 => first
    | 1 => first % 0x20
    | 2 => first % 0x10
    | _ => first % 0x08
  Char.ofNat (following.foldl (fun value byte => value * 0x40 + byte.toNat % 0x40) lead)

/-- Decode a sequence of bytes from a position on; a step takes at least one byte, so their number
bounds the steps. -/
def decodeUtf8From : (steps position : Nat) → List UInt8 → Except Failure Text
  | 0, _, _ => .ok []
  | _ + 1, _, [] => .ok []
  | steps + 1, position, first :: rest =>
    let fault (count : Nat) (mistake : Mistake) : Except Failure Text :=
      .error ⟨"utf-8", first, position, count, mistake⟩
    match sequenceLength? first.toNat with
    | none => fault 1 .startByte
    | some length =>
      let wanted := length - 1
      let good := goodBytes first.toNat wanted rest
      if good = wanted then
        (decodeUtf8From steps (position + length) (rest.drop wanted)).map
          (codePoint first.toNat (rest.take wanted) :: ·)
      else if rest.length = good then fault (good + 1) .endOfData
      else fault (good + 1) .continuationByte

/-- Decode bytes that are all below 128. -/
def decodeAsciiFrom : (position : Nat) → List UInt8 → Except Failure Text
  | _, [] => .ok []
  | position, byte :: rest =>
    if byte.toNat < 0x80 then
      (decodeAsciiFrom (position + 1) rest).map (Char.ofNat byte.toNat :: ·)
    else .error ⟨"ascii", byte, position, 1, .beyondRange⟩

/-- The bytes without a mark at the beginning; what is only the beginning of a mark is nothing. -/
def dropMark : List UInt8 → List UInt8
  | 0xEF :: 0xBB :: 0xBF :: rest => rest
  | [0xEF, 0xBB] => []
  | [0xEF] => []
  | bytes => bytes

/-- Decode a file. -/
def decode (encoding : Encoding) (bytes : List UInt8) : Except Failure Text :=
  match encoding with
  | utf8 => decodeUtf8From bytes.length 0 bytes
  | utf8Marked => decodeUtf8From bytes.length 0 (dropMark bytes)
  | ascii => decodeAsciiFrom 0 bytes
  | latin1 => .ok (bytes.map fun byte => Char.ofNat byte.toNat)

end Encoding
end Stencil
