import TunnelHost.Text.ByteOffset
import TunnelHost.Text.Numeral
import TunnelHost.Text.Quoted

/-!
# Faults in JSON texts

Why a JSON text could not be read, and where. A fault remembers how many bytes of the text were
still unread when it was noticed, so that reading needs no running position; line and column are
worked out once, when the fault is told.

- `Found`: what stood where something else was wanted.
- `Cause`: the reason. `Cause.message` is its wording.
- `Fault`: a reason and the number of unread bytes.
- `Fault.describe`: reason and position in words.
-/

namespace TunnelHost.Json

/-- The value that stood where another kind was wanted. -/
inductive Found where
  | null
  | boolean (value : Bool)
  | integer (value : Int)
  /-- A number that is no integer of 64 bits, by its shortest decimal text. -/
  | floating (text : String)
  | string (value : String)
  | sequence
  | map
  deriving DecidableEq, Repr

/-- The value in words. -/
def Found.message : Found → String
  | .null => "null"
  | .boolean true => "boolean \x60true\x60"
  | .boolean false => "boolean \x60false\x60"
  | .integer value => "integer \x60" ++ Numeral.decimalInt value ++ "\x60"
  | .floating text => "floating point \x60" ++ text ++ "\x60"
  | .string value => "string " ++ Text.quoted value
  | .sequence => "sequence"
  | .map => "map"

/-- Why a text could not be read. -/
inductive Cause where
  | endInValue
  | endInObject
  | endInList
  | endInString
  | expectedValue
  | expectedWord
  | expectedColon
  | expectedObjectCommaOrEnd
  | expectedListCommaOrEnd
  | keyMustBeString
  | trailingComma
  | trailingCharacters
  | invalidNumber
  | numberOutOfRange
  | invalidEscape
  | loneSurrogate
  | endOfEscape
  | controlCharacter
  /-- A value of the wrong kind. -/
  | wrongType (found : Found) (wanted : String)
  /-- A value of the right kind, out of range. -/
  | wrongValue (found : Found) (wanted : String)
  /-- A list with too few elements for a record. -/
  | wrongLength (length : Nat) (wanted : String)
  /-- A name that is none of two known ones. -/
  | unknownVariant (name first second : String)
  | missingField (name : String)
  | duplicateField (name : String)
  /-- A string that is not the text of an address and port. -/
  | notAnEndpoint
  deriving DecidableEq, Repr

/-- A name between backquotes. -/
def backquoted (name : String) : String := "\x60" ++ name ++ "\x60"

/-- The reason in words. -/
def Cause.message : Cause → String
  | .endInValue => "EOF while parsing a value"
  | .endInObject => "EOF while parsing an object"
  | .endInList => "EOF while parsing a list"
  | .endInString => "EOF while parsing a string"
  | .expectedValue => "expected value"
  | .expectedWord => "expected ident"
  | .expectedColon => "expected " ++ backquoted ":"
  | .expectedObjectCommaOrEnd => "expected " ++ backquoted "," ++ " or " ++ backquoted "\x7d"
  | .expectedListCommaOrEnd => "expected " ++ backquoted "," ++ " or " ++ backquoted "]"
  | .keyMustBeString => "key must be a string"
  | .trailingComma => "trailing comma"
  | .trailingCharacters => "trailing characters"
  | .invalidNumber => "invalid number"
  | .numberOutOfRange => "number out of range"
  | .invalidEscape => "invalid escape"
  | .loneSurrogate => "lone leading surrogate in hex escape"
  | .endOfEscape => "unexpected end of hex escape"
  | .controlCharacter =>
    "control character (\\u0000-\\u001F) found while parsing a string"
  | .wrongType found wanted => "invalid type: " ++ found.message ++ ", expected " ++ wanted
  | .wrongValue found wanted => "invalid value: " ++ found.message ++ ", expected " ++ wanted
  | .wrongLength length wanted =>
    "invalid length " ++ Numeral.decimal length ++ ", expected " ++ wanted
  | .unknownVariant name first second =>
    "unknown variant " ++ backquoted name ++ ", expected " ++ backquoted first ++ " or "
      ++ backquoted second
  | .missingField name => "missing field " ++ backquoted name
  | .duplicateField name => "duplicate field " ++ backquoted name
  | .notAnEndpoint => "invalid socket address syntax"

/-- A reason and the number of bytes that were unread when it was noticed. -/
structure Fault where
  cause : Cause
  unread : Nat
  deriving DecidableEq, Repr

/-- A fault noticed before `rest`. -/
def Fault.before (cause : Cause) (rest : List Char) : Fault := ⟨cause, Text.byteCount rest⟩

/-- A fault of the next byte of `rest`, which counts as read; of the end of the text if `rest` is
empty. -/
def Fault.after (cause : Cause) (rest : List Char) : Fault := ⟨cause, Text.byteCount rest - 1⟩

/-- Line and column after some bytes: one more than the line feeds among them, and the number of
bytes after the last line feed. -/
def position (bytes : List UInt8) : Nat × Nat :=
  bytes.foldl (fun (p : Nat × Nat) b => if b = 10 then (p.1 + 1, 0) else (p.1, p.2 + 1)) (1, 0)

/-- The fault of a text in words, with its position. -/
def Fault.describe (fault : Fault) (text : String) : String :=
  let bytes := text.toUTF8.toList
  let (line, column) := position (bytes.take (bytes.length - fault.unread))
  fault.cause.message ++ " at line " ++ Numeral.decimal line ++ " column "
    ++ Numeral.decimal column

end TunnelHost.Json
