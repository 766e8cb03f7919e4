import TunnelHost.Config.Policy
import TunnelHost.Log.Event
import TunnelHost.Text.Quoted

/-!
# Configurations

What a host settles before it creates a bridge: the size of the output buffers, how sessions are
created, and how events are logged.

- `Config`: the record, in three sections, with its defaults.
- `Breach`: a rule that a configuration can break.
- `Config.check`: the first broken rule.
- `ConfigError`: why a configuration cannot be had.
-/

namespace TunnelHost

/-- The least capacity of an output buffer: the length of the largest handshake message. -/
def leastCapacity : Nat := 148

/-- The largest capacity of an output buffer: the longest datagram. -/
def mostCapacity : Nat := 65535

/-- The section on output buffers. -/
structure BufferSection where
  /-- Capacity of each session's output buffer, in bytes. -/
  capacity : UInt64 := 2000
  deriving DecidableEq, Repr

/-- The section on the creation of sessions. -/
structure SessionSection where
  /-- Which peer indices are admitted. -/
  policy : IndexPolicy := .any
  /-- Seconds between keep-alive messages where a peer does not say. -/
  keepAlive : UInt16 := 25
  deriving DecidableEq, Repr

/-- The section on logging. -/
structure LogSection where
  /-- The least severe events that are logged. -/
  level : String := "info"
  /-- The form of a logged line. -/
  format : String := "text"
  /-- Whether a line names the part of the program that it comes from. -/
  target : Bool := true
  deriving DecidableEq, Repr

/-- A configuration. -/
structure Config where
  buffer : BufferSection := {}
  session : SessionSection := {}
  log : LogSection := {}
  deriving DecidableEq, Repr

/-- A rule that a configuration, a policy or an address list breaks. -/
inductive Breach where
  | capacityTooSmall (capacity : UInt64)
  | capacityTooLarge (capacity : UInt64)
  | keepAliveZero
  | unknownLevel (folded : String)
  | unknownFormat (format : String)
  | unknownPolicy (folded : String)
  | badNetwork (entry : String)
  deriving DecidableEq, Repr

/-- The breach in words. -/
def Breach.message : Breach → String
  | .capacityTooSmall capacity =>
    "buffer.capacity must be at least " ++ Numeral.decimal leastCapacity ++ " bytes, got "
      ++ Numeral.decimal capacity.toNat
  | .capacityTooLarge capacity =>
    "buffer.capacity must be at most " ++ Numeral.decimal mostCapacity ++ " bytes, got "
      ++ Numeral.decimal capacity.toNat
  | .keepAliveZero => "session.default_keep_alive must be greater than 0"
  | .unknownLevel folded => "Unknown log level '" ++ folded ++ "'"
  | .unknownFormat format => "Unknown log format '" ++ format ++ "', expected json or text"
  | .unknownPolicy folded =>
    "Unknown index policy '" ++ folded ++ "', expected " ++ IndexPolicy.any.name ++ " or "
      ++ IndexPolicy.positiveOnly.name
  | .badNetwork entry => "Invalid allowed IP '" ++ entry ++ "'"

/-- The policy of a text, or the breach that it names none. -/
def IndexPolicy.ofText (s : String) : Except Breach IndexPolicy :=
  match ofText? s with
  | some policy => .ok policy
  | none => .error (.unknownPolicy (fold s))

/-- Checks the capacity. -/
def BufferSection.check (s : BufferSection) : Except Breach Unit :=
  if s.capacity.toNat < leastCapacity then .error (.capacityTooSmall s.capacity)
  else if mostCapacity < s.capacity.toNat then .error (.capacityTooLarge s.capacity)
  else .ok ()

/-- Checks the default keep-alive interval. -/
def SessionSection.check (s : SessionSection) : Except Breach Unit :=
  if s.keepAlive = 0 then .error .keepAliveZero else .ok ()

/-- The names of the levels, most talkative first. -/
def levelNames : List String := Level.all.map Level.name

/-- The forms of a logged line. -/
def formatNames : List String := ["json", "text"]

/-- Checks the level, in which case does not matter, and then the format, in which it does. -/
def LogSection.check (s : LogSection) : Except Breach Unit :=
  let folded := Text.lower s.level
  if !levelNames.contains folded then .error (.unknownLevel folded)
  else if !formatNames.contains s.format then .error (.unknownFormat s.format)
  else .ok ()

/-- Finds the first broken rule, section by section. -/
def Config.check (c : Config) : Except Breach Unit := do
  c.buffer.check
  c.session.check
  c.log.check

/-- Why a configuration cannot be had. -/
inductive ConfigError where
  | fileNotFound (path : String)
  /-- The text is no configuration; `reason` says where and why. -/
  | unreadable (reason : String)
  /-- A rule is broken. -/
  | invalid (reason : String)
  /-- An override cannot be read. -/
  | override (name reason : String)
  /-- The system could not read or write a file. -/
  | system (reason : String)
  deriving DecidableEq, Repr

/-- The error in words. -/
def ConfigError.message : ConfigError → String
  | .fileNotFound path => "Configuration file not found: " ++ path
  | .unreadable reason => "Failed to parse configuration: " ++ reason
  | .invalid reason => "Configuration validation failed: " ++ reason
  | .override name reason => "Environment variable error: " ++ name ++ ": " ++ reason
  | .system reason => "I/O error reading configuration: " ++ reason

/-- The error of a broken rule. -/
def ConfigError.ofBreach (b : Breach) : ConfigError := .invalid b.message

/-- Checks a configuration. -/
def Config.validate (c : Config) : Except ConfigError Unit := c.check.mapError .ofBreach

/-- The configuration in words, for descriptions of what holds one. -/
def Config.describe (c : Config) : String :=
  let policy := match c.session.policy with
    | .any => "AnyI32"
    | .positiveOnly => "PositiveOnly"
  "BridgeConfig \x7b buffer: BufferConfig \x7b capacity: " ++ Numeral.decimal c.buffer.capacity.toNat
    ++ " \x7d, session: SessionConfig \x7b index_policy: " ++ policy
    ++ ", default_keep_alive: " ++ Numeral.decimal c.session.keepAlive.toNat
    ++ " \x7d, log: LogConfig \x7b level: " ++ Text.quoted c.log.level
    ++ ", format: " ++ Text.quoted c.log.format
    ++ ", target: " ++ (if c.log.target then "true" else "false") ++ " \x7d \x7d"

end TunnelHost
