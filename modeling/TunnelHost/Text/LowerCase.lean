import TunnelHost.Text.CaseTable
import TunnelHost.Text.CodeRange

/-!
# Lower case

The lower-case form of a text by Unicode's full mapping. Two characters need more than a table: a
capital I with a dot above becomes two characters, and a capital sigma has a form of its own at the
end of a word.

- `lowerChar`: the lower-case form of a character on its own.
- `endsWord`: whether a sigma stands at the end of a word.
- `lower`: the lower-case form of a text.
-/

namespace TunnelHost.Text

/-- A letter that has case. -/
def isCased (c : Char) : Bool := inRanges casedRanges c.toNat

/-- A character that does not interrupt a word. -/
def isIgnorable (c : Char) : Bool := inRanges ignorableRanges c.toNat

/-- The capital letter I with a dot above. -/
def dottedCapitalI : Char := Char.ofNat 0x130

/-- The capital letter sigma. -/
def capitalSigma : Char := Char.ofNat 0x3a3

/-- The small letter sigma inside a word. -/
def smallSigma : Char := Char.ofNat 0x3c3

/-- The small letter sigma at the end of a word. -/
def finalSigma : Char := Char.ofNat 0x3c2

/-- The lower-case form of a character on its own. ASCII needs no table. -/
def lowerChar (c : Char) : List Char :=
  if c.toNat < 128 then [c.toLower]
  else if c = dottedCapitalI then ['i', Char.ofNat 0x307]
  else
    match lowerRanges.find? (·.contains c.toNat) with
    | some r => [Char.ofNat (c.toNat + r.distance).toNat]
    | none => [c]

/-- Whether the nearest character that could interrupt a word is a letter with case. -/
def meetsCased (cs : List Char) : Bool :=
  match cs.dropWhile isIgnorable with
  | c :: _ => isCased c
  | [] => false

/-- A sigma ends its word if a letter comes before it and none after it; `before` is reversed. -/
def endsWord (before after : List Char) : Bool :=
  meetsCased before && !meetsCased after

/-- The lower-case form of characters that follow `before`, which is reversed. -/
def lowerFrom (before : List Char) : List Char → List Char
  | [] => []
  | c :: cs =>
    let here :=
      if c = capitalSigma then [if endsWord before cs then finalSigma else smallSigma]
      else lowerChar c
    here ++ lowerFrom (c :: before) cs

/-- The lower-case form of a text. -/
def lower (s : String) : String :=
  String.ofList (lowerFrom [] s.toList)

end TunnelHost.Text
