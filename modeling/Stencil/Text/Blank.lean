import Stencil.Text.Basic

/-!
# Blank code points and trimming

The blank code points are the ones with the Unicode property `White_Space` together with the four
separators U+001C to U+001F.  Trimming removes them from the ends of a text.
-/

namespace Stencil

/-- Whether a code point is blank. -/
def isBlank (char : Char) : Bool :=
  let code := char.toNat
  (0x9 ≤ code && code ≤ 0xD) || (0x1C ≤ code && code ≤ 0x20) || code == 0x85 || code == 0xA0
    || code == 0x1680 || (0x2000 ≤ code && code ≤ 0x200A) || code == 0x2028 || code == 0x2029
    || code == 0x202F || code == 0x205F || code == 0x3000

namespace Text

/-- The text without its leading blanks. -/
def trimStart (text : Text) : Text := text.dropWhile isBlank

/-- The text without its trailing blanks. -/
def trimEnd (text : Text) : Text := dropTailWhile isBlank text

/-- The text without the blanks at either end. -/
def trim (text : Text) : Text := trimEnd (trimStart text)

end Text
end Stencil
