import TunnelHost.Text.CodeRange
import TunnelHost.Text.HiddenTable
import TunnelHost.Text.Numeral

/-!
# Quoted texts

A text between double quotes, for people to read in a description of a value. What would end the
quotes, move the line or not show is written as an escape.

- `escapeChar`: a character as it stands between quotes.
- `quoted`: a text between quotes.
-/

namespace TunnelHost.Text

/-- An escape by code point. -/
def codeEscape (c : Char) : List Char :=
  ['\\', 'u', '\x7b'] ++ Numeral.digits 16 c.toNat ++ ['\x7d']

/-- A character as it stands between quotes. -/
def escapeChar (c : Char) : List Char :=
  if c = '"' || c = '\\' then ['\\', c]
  else if c = '\n' then ['\\', 'n']
  else if c = '\x0d' then ['\\', 'r']
  else if c = '\t' then ['\\', 't']
  else if c = '\x00' then ['\\', '0']
  else if c.toNat < 0x20 || c.toNat = 0x7f then codeEscape c
  else if c.toNat < 0x80 then [c]
  else if inRanges joiningRanges c.toNat || inRanges hiddenRanges c.toNat then codeEscape c
  else [c]

/-- A text between double quotes. -/
def quoted (s : String) : String :=
  String.ofList ('"' :: s.toList.flatMap escapeChar ++ ['"'])

end TunnelHost.Text
