import TunnelHost.Config.Basic
import TunnelHost.Json.Record

/-!
# Reading configurations

A configuration is a JSON object of three sections, each of which may be left out, as may each
member of a section. A default stands in for what is left out.

- `readPolicy`: a policy by its name, or as an object with the name as its only key.
- `BufferSection.shape`, `SessionSection.shape`, `LogSection.shape`, `Config.shape`: the records.
- `Config.ofJson`: the configuration of a text, checked.
-/

namespace TunnelHost

open Json (Fault Reader)

/-- Reads the name of a policy after its opening quote. -/
def readPolicyName : Reader IndexPolicy := fun cs => do
  let (name, rest) ← Json.string cs
  let name := String.ofList name
  match IndexPolicy.ofName? name with
  | some policy => .ok (policy, rest)
  | none =>
    .error (.before (.unknownVariant name IndexPolicy.any.name IndexPolicy.positiveOnly.name) rest)

/-- Reads the name of a policy where an object has its key. -/
def readPolicyKey : Reader IndexPolicy := fun cs =>
  match Json.blanks cs with
  | '"' :: rest => readPolicyName rest
  | '\x7d' :: rest => .error (.after .expectedValue ('\x7d' :: rest))
  | [] => .error (.before .endInObject [])
  | other => .error (.after .keyMustBeString other)

/-- Reads a policy: its name, or an object whose only key is the name and whose value is null. -/
def readPolicy : Reader IndexPolicy := fun cs =>
  match Json.blanks cs with
  | '"' :: rest => readPolicyName rest
  | '\x7b' :: rest => do
    let (policy, rest) ← readPolicyKey rest
    let (_, rest) ← Json.unit (← Json.colon rest)
    match Json.blanks rest with
    | '\x7d' :: rest => .ok (policy, rest)
    | [] => .error (.before .endInObject [])
    | other => .error (.before .expectedValue other)
  | [] => .error (.before .endInValue [])
  | other => .error (.after .expectedValue other)

/-- Reads a word of 64 bits. -/
def readWord64 : Reader UInt64 := fun cs => do
  let (n, rest) ← Json.natural "usize" (Nat.pow 2 64) cs
  .ok (UInt64.ofNat n, rest)

/-- Reads a word of 16 bits. -/
def readWord16 : Reader UInt16 := fun cs => do
  let (n, rest) ← Json.natural "u16" (Nat.pow 2 16) cs
  .ok (UInt16.ofNat n, rest)

/-- The section on output buffers. -/
def BufferSection.shape : Json.Shape BufferSection where
  title := "BufferConfig"
  fields := [.optional "capacity" readWord64 fun s n => { s with capacity := n }]
  initial := {}

/-- The section on the creation of sessions. -/
def SessionSection.shape : Json.Shape SessionSection where
  title := "SessionConfig"
  fields :=
    [.optional "index_policy" readPolicy fun s policy => { s with policy },
      .optional "default_keep_alive" readWord16 fun s n => { s with keepAlive := n }]
  initial := {}

/-- The section on logging. -/
def LogSection.shape : Json.Shape LogSection where
  title := "LogConfig"
  fields :=
    [.optional "level" Json.text fun s level => { s with level },
      .optional "format" Json.text fun s format => { s with format },
      .optional "target" Json.boolean fun s target => { s with target }]
  initial := {}

namespace Config

/-- A configuration. -/
def shape : Json.Shape Config where
  title := "BridgeConfig"
  fields :=
    [.optional "buffer" BufferSection.shape.read fun c buffer => { c with buffer },
      .optional "session" SessionSection.shape.read fun c session => { c with session },
      .optional "log" LogSection.shape.read fun c log => { c with log }]
  initial := {}

/-- The configuration of a text, not yet checked. -/
def ofJsonUnchecked (s : String) : Except Fault Config := Json.read shape.read s

/-- The configuration of a text, checked. -/
def ofJson (s : String) : Except ConfigError Config := do
  let c ← (ofJsonUnchecked s).mapError fun fault => .unreadable (fault.describe s)
  c.validate
  return c

end Config

end TunnelHost
