import TunnelHost.Config.Override
import TunnelHost.Log.Filter
import TunnelHost.Log.Pattern
import TunnelHost.Text.ByteOffset
import TunnelHost.Text.Pieces

/-!
# Directives

The rules of a filter can be written down as directives, set apart by commas:

    origin[span{field=value}]=level

where no part is needed, but one of them is. Either the origin or the level may stand alone. There
are no spans here, and no values are looked at, so that a directive with a span or a value is only
looked over.

Where the parts meet is looked for in the directive without the blanks around it, and counted in
bytes; the parts themselves are then counted off with the blanks. A blank in front therefore shifts
all of them.

- `Directive.level?`: a level by its text.
- `Directive.read`: the rule of a directive, if it has one.
- `Filter.ofText`: the rules of a text, and complaints about what is no directive.
-/

namespace TunnelHost

namespace Directive

/-- Why a text is no directive. -/
inductive Fault where
  | malformed
  | unknownLevel
  | badPattern (fault : Pattern.Fault)
  deriving DecidableEq, Repr

/-- The fault in words. -/
def Fault.message : Fault → String
  | .malformed => "invalid filter directive"
  | .unknownLevel =>
    "error parsing level filter: expected one of \"off\", \"error\", \"warn\", \"info\", "
      ++ "\"debug\", \"trace\", or a number 0-5"
  | .badPattern fault => "invalid field filter: " ++ fault.message

/-! ## Levels -/

/-- The level of a text: its name, ASCII letters in any case, or its rank, zero and `off` being
none. -/
def level? (cs : List Char) : Option (Option Level) :=
  match numeral? (Nat.pow 2 64) cs with
  | some 0 => some none
  | some n => (Level.all.find? (·.rank == n)).map some
  | none =>
    let name := String.ofList (cs.map Char.toLower)
    if name = "off" then some none else (Level.all.find? (·.name == name)).map some

/-- The level behind an equals sign. None at all means that everything is told. -/
def levelAfter (cs : List Char) : Except Fault (Option Level) :=
  match cs with
  | [] => .ok (some .trace)
  | _ =>
    match level? cs with
    | some least => .ok least
    | none => .error .unknownLevel

/-! ## Fields -/

/-- Whether a text is digits, at least one, with a point among them or around them. -/
def isDecimal (cs : List Char) : Bool :=
  let (whole, rest) := Numeral.leadingDigits 10 cs
  match rest with
  | [] => !whole.isEmpty
  | '.' :: rest =>
    match Numeral.leadingDigits 10 rest with
    | (part, []) => !whole.isEmpty || !part.isEmpty
    | _ => false
  | _ => false

/-- Whether a text is a whole number, with or without a sign. -/
def isExponent (cs : List Char) : Bool :=
  let digits := match cs with
    | '+' :: rest => rest
    | '-' :: rest => rest
    | _ => cs
  !digits.isEmpty && digits.all Char.isDigit

/-- Whether a text without a sign is a number, perhaps one that is not finite. -/
def isUnsigned (cs : List Char) : Bool :=
  if ["inf", "infinity", "nan"].contains (String.ofList (cs.map Char.toLower)) then true
  else
    let isMark (c : Char) : Bool := c == 'e' || c == 'E'
    match cs.dropWhile fun c => !isMark c with
    | [] => isDecimal cs
    | _ :: exponent => isDecimal (cs.takeWhile fun c => !isMark c) && isExponent exponent

/-- Looks over the value of a field: a number or a pattern. All numbers but those behind a plus sign
are patterns too. -/
def checkValue (cs : List Char) : Except Fault Unit :=
  match cs with
  | '+' :: rest =>
    if isUnsigned rest then .ok () else (Pattern.check cs).mapError .badPattern
  | _ => (Pattern.check cs).mapError .badPattern

/-- The name of a field, if it is bound to no value. What stands behind the value is not looked
at. -/
def readField (cs : List Char) : Except Fault (Option String) :=
  match Text.pieces '=' cs with
  | [name] => .ok (some (String.ofList name))
  | _ :: value :: _ => (checkValue value).map fun _ => none
  | [] => .error .malformed

/-! ## Directives -/

/-- Whether a character may start a directive without a bracket. -/
def isStart (c : Char) : Bool := c == '-' || c == ':' || c == '_' || Text.isAlphanumeric c

/-- The part of a directive that takes `size` bytes from the offset `start` on. -/
def part (whole : List Char) (start size : Nat) : Except Fault (List Char) :=
  match Text.bytesFrom? start size whole with
  | some cs => .ok cs
  | none => .error .malformed

/-- The level of a directive, from the offset `start` on. -/
def levelFrom (whole : List Char) (start : Nat) : Except Fault (Option Level) :=
  match Text.dropBytes? start whole with
  | some cs => levelAfter cs
  | none => .error .malformed

/-- The level of a directive whose span ends before the offset `start`, where `rest` is seen. -/
def levelBehindSpan (whole : List Char) (start : Nat) :
    (rest : List Char) → Except Fault (Option Level)
  | [] => .ok (some .trace)
  | '=' :: _ => levelFrom whole (start + 1)
  | _ => .error .malformed

/-- Reads a directive from its span on, which starts at the offset `start`, where `rest` is seen. -/
def readSpan (whole : List Char) (origin : String) (start : Nat) (rest : List Char) :
    Except Fault (Option Filter.Rule) := do
  let isEnd (c : Char) : Bool := c == ']' || c == '\x7b'
  let size := Text.byteCount (rest.takeWhile fun c => !isEnd c)
  match rest.dropWhile fun c => !isEnd c with
  | ']' :: rest =>
    let _ ← part whole start size
    let _ ← levelBehindSpan whole (start + size + 1) rest
    return none
  | _ :: rest =>
    let span ← part whole start size
    let start := start + size + 1
    let size := Text.byteCount (rest.takeWhile (· != '\x7d'))
    match rest.dropWhile (· != '\x7d') with
    | _ :: after =>
      if size = 0 then throw .malformed
      let field ← readField (← part whole start size)
      match after with
      | ']' :: after =>
        let least ← levelBehindSpan whole (start + size + 2) after
        return if span.isEmpty then field.map fun name => ⟨origin, some name, least⟩ else none
      | _ => throw .malformed
    | [] => throw .malformed
  | [] => throw .malformed

/-- The rule of a directive. One that is bound to a span or a value has none. -/
def read (whole : List Char) : Except Fault (Option Filter.Rule) :=
  match Text.trimChars whole with
  | [] => .error .malformed
  | '[' :: rest => readSpan whole "" 1 rest
  | c :: rest => do
    if !isStart c then throw .malformed
    let isEnd (c : Char) : Bool := c == '=' || c == '['
    let size := Text.byteCount ((c :: rest).takeWhile fun c => !isEnd c)
    match (c :: rest).dropWhile fun c => !isEnd c with
    | [] =>
      match level? whole with
      | some least => return some ⟨"", none, least⟩
      | none => return some ⟨String.ofList whole, none, some .trace⟩
    | '=' :: _ =>
      let origin ← part whole 0 size
      let least ← levelFrom whole (size + 1)
      return some ⟨String.ofList origin, none, least⟩
    | _ :: rest =>
      let origin ← part whole 0 size
      readSpan whole (String.ofList origin) (size + 1) rest

end Directive

namespace Filter

/-- Adds the rule of a directive, or complains about it. -/
def addDirective (state : Filter × List String) (cs : List Char) : Filter × List String :=
  match Directive.read cs with
  | .ok (some r) => (state.1.add r, state.2)
  | .ok none => state
  | .error fault =>
    (state.1, state.2 ++ ["ignoring \x60" ++ String.ofList cs ++ "\x60: " ++ fault.message])

/-- The rules of a text, of those for the same events the last, and a complaint about each piece
that is no directive. Empty pieces are passed over. -/
def ofText (s : String) : Filter × List String :=
  ((Text.pieces ',' s.toList).filter fun piece => !piece.isEmpty).foldl addDirective ({}, [])

end Filter

end TunnelHost
