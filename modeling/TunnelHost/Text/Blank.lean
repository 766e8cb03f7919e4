/-!
# Blanks

The characters that may surround a value without being part of it: Unicode's `White_Space`
property. A key on standard input, an entry of an address list and the text of an override
are all read after the blanks at both ends are gone.

- `isBlank`: the property itself, as a table of its twenty-five characters.
- `trimChars`, `trim`: a text without its leading and trailing blanks.
-/

namespace TunnelHost.Text

/-- Membership in `White_Space`. Zero-width characters such as U+200B and U+FEFF are not in it. -/
def isBlank (c : Char) : Bool :=
  let n := c.toNat
  (9 ≤ n && n ≤ 13) || n == 0x20 || n == 0x85 || n == 0xa0 || n == 0x1680
    || (0x2000 ≤ n && n ≤ 0x200a) || n == 0x2028 || n == 0x2029 || n == 0x202f
    || n == 0x205f || n == 0x3000

/-- Drops the blanks at the end: those after which only blanks follow. -/
def dropBlankEnd : List Char → List Char
  | [] => []
  | c :: cs =>
    match dropBlankEnd cs with
    | [] => if isBlank c then [] else [c]
    | rest => c :: rest

/-- Drops the blanks at both ends. -/
def trimChars (cs : List Char) : List Char :=
  dropBlankEnd (cs.dropWhile isBlank)

/-- A text without the blanks at its two ends. -/
def trim (s : String) : String :=
  String.ofList (trimChars s.toList)

end TunnelHost.Text
