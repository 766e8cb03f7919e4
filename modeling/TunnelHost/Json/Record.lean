import TunnelHost.Json.Skip

/-!
# Records in JSON

Reading values of known kinds, and records whose members are known by name. A record is written as
an object, with its members in any order and others between them, or as a list of its members in
declared order. A member that is left out keeps the value of the record's initial form; one that is
required must be there; none may be there twice.

- `wrongType`: the fault of a value of another kind, which is read to its end where it has a text.
- `natural`, `integer`, `boolean`, `text`, `optional`, `unit`: values of the simple kinds.
- `Field`, `Shape`: a member of a record, and a record.
- `Shape.read`: a record from either form.
- `read`: a whole text.
-/

namespace TunnelHost.Json

/-! ## Simple kinds -/

/-- The fault of a value that is not of the wanted kind. A scalar is read to its end first, and a
fault in it is told instead; a list or an object is not entered. -/
def wrongType (wanted : String) (cs : List Char) : Fault :=
  let scalar (found : Found) : Except Fault (List Char) → Fault
    | .ok rest => .before (.wrongType found wanted) rest
    | .error fault => fault
  let numeric : Except Fault (Number × List Char) → Fault
    | .ok (n, rest) => .before (.wrongType n.found wanted) rest
    | .error fault => fault
  match cs with
  | 'n' :: rest => scalar .null (word ['u', 'l', 'l'] rest)
  | 't' :: rest => scalar (.boolean true) (word ['r', 'u', 'e'] rest)
  | 'f' :: rest => scalar (.boolean false) (word ['a', 'l', 's', 'e'] rest)
  | '-' :: rest => numeric (number false rest)
  | '"' :: rest =>
    match string rest with
    | .ok (s, rest) => .before (.wrongType (.string (String.ofList s)) wanted) rest
    | .error fault => fault
  | '[' :: _ => .before (.wrongType .sequence wanted) cs
  | '{' :: _ => .before (.wrongType .map wanted) cs
  | c :: _ =>
    if (Numeral.digitValue? 10 c).isSome then numeric (number true cs)
    else .after .expectedValue cs
  | [] => .before .endInValue []

/-- Reads a number and converts it; `none` means that it is out of range. -/
def numeric {α : Type} (wanted : String) (convert : Number → Option α) : Reader α := fun cs =>
  let finish : Number × List Char → Except Fault (α × List Char) := fun (n, rest) =>
    match convert n with
    | some a => .ok (a, rest)
    | none =>
      match n with
      | .floating _ => .error (.before (.wrongType n.found wanted) rest)
      | _ => .error (.before (.wrongValue n.found wanted) rest)
  match blanks cs with
  | '-' :: rest => do finish (← number false rest)
  | other =>
    match other.head? with
    | some c =>
      if (Numeral.digitValue? 10 c).isSome then do finish (← number true other)
      else .error (wrongType wanted other)
    | none => .error (.before .endInValue [])

/-- Reads a natural number below a limit. -/
def natural (wanted : String) (limit : Nat) : Reader Nat :=
  numeric wanted fun
    | .natural n => if n < limit then some n else none
    | _ => none

/-- Reads an integer of 64 bits. -/
def integer64 : Reader Int :=
  numeric "i64" fun
    | .natural n => if n < Nat.pow 2 63 then some n else none
    | .negative n => some n
    | .floating _ => none

/-- Reads a truth value. -/
def boolean : Reader Bool := fun cs =>
  match blanks cs with
  | 't' :: rest => do .ok (true, ← word ['r', 'u', 'e'] rest)
  | 'f' :: rest => do .ok (false, ← word ['a', 'l', 's', 'e'] rest)
  | other => .error (wrongType "a boolean" other)

/-- Reads a string; `wanted` says what for. -/
def stringFor (wanted : String) : Reader String := fun cs =>
  match blanks cs with
  | '"' :: rest => do
    let (s, rest) ← string rest
    .ok (String.ofList s, rest)
  | other => .error (wrongType wanted other)

/-- Reads a string. -/
def text : Reader String := stringFor "a string"

/-- Reads `null` as absence and anything else as a value. -/
def optional {α : Type} (r : Reader α) : Reader (Option α) := fun cs =>
  match blanks cs with
  | 'n' :: rest => do .ok (none, ← word ['u', 'l', 'l'] rest)
  | other => do
    let (a, rest) ← r other
    .ok (some a, rest)

/-- Reads `null`. -/
def unit : Reader Unit := fun cs =>
  match blanks cs with
  | 'n' :: rest => do .ok ((), ← word ['u', 'l', 'l'] rest)
  | other => .error (wrongType "unit" other)

/-! ## Records -/

/-- A member of a record: its name, whether it may be left out, and how it is read into it. -/
structure Field (τ : Type) where
  name : String
  required : Bool
  read : τ → Reader τ

namespace Field

variable {τ α : Type}

/-- A member with a reader for its value and a way to put the value into the record. -/
def of (required : Bool) (name : String) (r : Reader α) (put : τ → α → τ) : Field τ where
  name
  required
  read record := fun cs => do
    let (a, rest) ← r cs
    .ok (put record a, rest)

/-- A member that may be left out. -/
def optional (name : String) (r : Reader α) (put : τ → α → τ) : Field τ := .of false name r put

/-- A member that must be there. -/
def mandatory (name : String) (r : Reader α) (put : τ → α → τ) : Field τ := .of true name r put

end Field

/-- A record: what it is called, its members in declared order, and its form before any is read. -/
structure Shape (τ : Type) where
  title : String
  fields : List (Field τ)
  initial : τ

namespace Shape

variable {τ : Type}

/-- What a message calls the record. -/
def wanted (s : Shape τ) : String := "struct " ++ s.title

/-- What a message calls the list form of the record. -/
def wantedLength (s : Shape τ) : String :=
  s.wanted ++ " with " ++ Numeral.decimal s.fields.length ++ " elements"

/-- The number of bytes unread once the object's end has been passed, if it is next. A fault of the
object as a whole is told there. -/
def unreadAfterEnd (cs : List Char) : Nat :=
  match blanks cs with
  | '}' :: rest => Text.byteCount rest
  | other => Text.byteCount other

/-- Reads up to the first character of the next key, its opening quote included; `none` at the end
of the object. -/
def nextKey (first : Bool) (cs : List Char) : Except Fault (Option (List Char)) :=
  match blanks cs with
  | [] => .error (.before .endInObject [])
  | '}' :: _ => .ok none
  | c :: rest =>
    if first then
      if c = '"' then .ok (some rest) else .error (.after .keyMustBeString (c :: rest))
    else if c = ',' then
      match blanks rest with
      | '"' :: key => .ok (some key)
      | '}' :: other => .error (.after .trailingComma ('}' :: other))
      | [] => .error (.before .endInValue [])
      | other => .error (.after .keyMustBeString other)
    else .error (.after .expectedObjectCommaOrEnd (c :: rest))

/-- The first required member that was not read. -/
def missing? (s : Shape τ) (seen : List String) : Option String :=
  (s.fields.find? fun f => f.required && !seen.contains f.name).map (·.name)

/-- Reads members up to the end of the object. Each takes at least one character, so a `fuel` of
the text's length and one more is enough. -/
def members (s : Shape τ) : (fuel : Nat) → (first : Bool) → (seen : List String) → τ → Reader τ
  | 0, _, _, _, _ => .error (.before .endInObject [])
  | fuel + 1, first, seen, value, cs => do
    match ← nextKey first cs with
    | none =>
      match s.missing? seen with
      | some name => .error ⟨.missingField name, unreadAfterEnd cs⟩
      | none => .ok (value, (blanks cs).drop 1)
    | some cs =>
      let (key, cs) ← string cs
      match s.fields.find? (·.name == String.ofList key) with
      | some field =>
        if seen.contains field.name then .error ⟨.duplicateField field.name, unreadAfterEnd cs⟩
        else
          let (value, cs) ← field.read value (← colon cs)
          members s fuel false (field.name :: seen) value cs
      | none => members s fuel false seen value (← skipValue (← colon cs))

/-- Reads the end of the list form. -/
def endOfList (cs : List Char) : Except Fault (List Char) :=
  match blanks cs with
  | ']' :: rest => .ok rest
  | ',' :: rest =>
    match blanks rest with
    | ']' :: other => .error (.after .trailingComma (']' :: other))
    | other => .error (.after .trailingCharacters other)
  | [] => .error (.before .endInList [])
  | other => .error (.after .trailingCharacters other)

/-- Reads the list form from the member with number `index` on. -/
def elements (s : Shape τ) : List (Field τ) → (index : Nat) → τ → Reader τ
  | [], _, value, cs => do .ok (value, ← endOfList cs)
  | field :: fields, index, value, cs =>
    match blanks cs with
    | [] => .error (.before .endInList [])
    | ']' :: rest =>
      match (field :: fields).findIdx? (·.required) with
      | some i => .error (.before (.wrongLength (index + i) s.wantedLength) rest)
      | none => .ok (value, rest)
    | c :: rest =>
      if index = 0 then do
        let (value, cs) ← field.read value (c :: rest)
        elements s fields (index + 1) value cs
      else if c = ',' then
        match blanks rest with
        | ']' :: other => .error (.after .trailingComma (']' :: other))
        | [] => .error (.before .endInValue [])
        | other => do
          let (value, cs) ← field.read value other
          elements s fields (index + 1) value cs
      else .error (.after .expectedListCommaOrEnd (c :: rest))

/-- Reads a record in either form. -/
def read (s : Shape τ) : Reader τ := fun cs =>
  match blanks cs with
  | '{' :: rest => s.members (rest.length + 1) true [] s.initial rest
  | '[' :: rest => s.elements s.fields 0 s.initial rest
  | other => .error (wrongType s.wanted other)

end Shape

/-- Reads a whole text: one value and nothing after it. -/
def read {α : Type} (r : Reader α) (s : String) : Except Fault α := do
  let (a, rest) ← r s.toList
  match blanks rest with
  | [] => .ok a
  | other => .error (.after .trailingCharacters other)

end TunnelHost.Json
