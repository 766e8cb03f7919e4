import TunnelHost.Text.Numeral

/-!
# JSON values and their texts

Values that the library writes. A member list keeps its order, so one value has one text per layout.

- `Value`: a JSON value; its numbers are integers.
- `escapeChar`, `quote`: a string between quotes.
- `Layout`: on one line, or a member to a line.
- `Value.write`, `Value.compact`, `Value.pretty`: the text of a value.
-/

namespace TunnelHost.Json

/-- A JSON value. -/
inductive Value where
  | null
  | boolean (value : Bool)
  | integer (value : Int)
  | string (value : String)
  | list (items : List Value)
  | object (members : List (String × Value))

/-! ## Strings -/

/-- A character as it stands between quotes: the quote, the backslash and control characters are
escaped, by a letter where there is one. -/
def escapeChar (c : Char) : List Char :=
  if c = '"' || c = '\\' then ['\\', c]
  else if c = '\x08' then ['\\', 'b']
  else if c = '\x0c' then ['\\', 'f']
  else if c = '\n' then ['\\', 'n']
  else if c = '\x0d' then ['\\', 'r']
  else if c = '\t' then ['\\', 't']
  else if c.toNat < 0x20 then
    ['\\', 'u', '0', '0', Numeral.digitChar (c.toNat / 16), Numeral.digitChar (c.toNat % 16)]
  else [c]

/-- A string between quotes. -/
def quote (s : String) : List Char :=
  '"' :: s.toList.flatMap escapeChar ++ ['"']

/-! ## Layouts -/

/-- How the parts of a value are set apart. -/
inductive Layout where
  /-- Everything on one line, without blanks. -/
  | compact
  /-- A member or element to a line, indented by two blanks for each container around it. -/
  | lines
  deriving DecidableEq, Repr

/-- The start of a line at a depth. -/
def Layout.startLine (depth : Nat) : Layout → List Char
  | .compact => []
  | .lines => '\n' :: List.replicate (2 * depth) ' '

/-- What stands between a key and its value. -/
def Layout.separator : Layout → List Char
  | .compact => [':']
  | .lines => [':', ' ']

mutual

/-- The text of a value inside `depth` containers. -/
def Value.write (layout : Layout) (depth : Nat) : Value → List Char
  | .null => ['n', 'u', 'l', 'l']
  | .boolean true => ['t', 'r', 'u', 'e']
  | .boolean false => ['f', 'a', 'l', 's', 'e']
  | .integer n => (Numeral.decimalInt n).toList
  | .string s => quote s
  | .list [] => ['[', ']']
  | .list (item :: items) =>
    '[' :: layout.startLine (depth + 1) ++ item.write layout (depth + 1)
      ++ writeItems layout (depth + 1) items ++ layout.startLine depth ++ [']']
  | .object [] => ['\x7b', '\x7d']
  | .object ((key, value) :: members) =>
    '\x7b' :: layout.startLine (depth + 1) ++ quote key ++ layout.separator
      ++ value.write layout (depth + 1) ++ writeMembers layout (depth + 1) members
      ++ layout.startLine depth ++ ['\x7d']

/-- The texts of further elements, each after its comma. -/
def writeItems (layout : Layout) (depth : Nat) : List Value → List Char
  | [] => []
  | item :: items =>
    ',' :: layout.startLine depth ++ item.write layout depth ++ writeItems layout depth items

/-- The texts of further members, each after its comma. -/
def writeMembers (layout : Layout) (depth : Nat) : List (String × Value) → List Char
  | [] => []
  | (key, value) :: members =>
    ',' :: layout.startLine depth ++ quote key ++ layout.separator ++ value.write layout depth
      ++ writeMembers layout depth members

end

/-- The text of a value on one line. -/
def Value.compact (v : Value) : String := String.ofList (v.write .compact 0)

/-- The text of a value over several lines. -/
def Value.pretty (v : Value) : String := String.ofList (v.write .lines 0)

/-- A string if there is one, and null otherwise. -/
def Value.ofString? : Option String → Value
  | some s => .string s
  | none => .null

end TunnelHost.Json
