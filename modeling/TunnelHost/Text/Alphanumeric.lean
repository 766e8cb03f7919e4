import TunnelHost.Text.CodeRange
import TunnelHost.Text.LetterTable

/-!
# Letters and digits in a wide sense

- `isAlphabetic`: whether a character is a letter.
- `isAlphanumeric`: whether a character is a letter or stands for a number, as `½` and `²` do.
-/

namespace TunnelHost.Text

/-- Membership in `Alphabetic`. ASCII needs no table. -/
def isAlphabetic (c : Char) : Bool :=
  if c.toNat < 0x80 then c.isAlpha else inRanges alphabeticRanges c.toNat

/-- Membership in `Alphabetic` or in the general category N. -/
def isAlphanumeric (c : Char) : Bool :=
  if c.toNat < 0x80 then c.isAlphanum
  else inRanges alphabeticRanges c.toNat || inRanges numericRanges c.toNat

end TunnelHost.Text
