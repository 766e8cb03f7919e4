import TunnelHost.Json.Value

/-!
# Events

What parts of the program report while they work. An event has a level, the part that it comes from,
a message, and perhaps some numbers by name. It has two written forms: a line, and a JSON object.

- `Level`: how severe an event is.
- `Event`: an event.
- `Event.line`, `Event.toJson`: the two written forms. Either can leave the origin out.
-/

namespace TunnelHost

/-- How severe an event is, the least severe first. -/
inductive Level where
  | trace
  | debug
  | info
  | warn
  | error
  deriving DecidableEq, Repr

namespace Level

/-- All levels, the most talkative first. -/
def all : List Level := [.trace, .debug, .info, .warn, .error]

/-- The name of a level in a setting. -/
def name : Level → String
  | trace => "trace"
  | debug => "debug"
  | info => "info"
  | warn => "warn"
  | error => "error"

/-- The name of a level in an event. -/
def label : Level → String
  | trace => "TRACE"
  | debug => "DEBUG"
  | info => "INFO"
  | warn => "WARN"
  | error => "ERROR"

/-- The place of a level among all, counted from the most severe, which is the first. -/
def rank : Level → Nat
  | error => 1
  | warn => 2
  | info => 3
  | debug => 4
  | trace => 5

end Level

/-- Something that a part of the program reports. -/
structure Event where
  level : Level
  /-- The part of the program, as a path of names. -/
  origin : String
  message : String
  /-- Numbers that go with the message. -/
  numbers : List (String × Nat) := []
  deriving DecidableEq, Repr

namespace Event

/-- The names of the fields: that of the message and those of the numbers. -/
def fields (e : Event) : List String := "message" :: e.numbers.map (·.1)

/-- The message with its numbers behind it. -/
def body (e : Event) : String :=
  e.numbers.foldl (fun s n => s ++ " " ++ n.1 ++ "=" ++ Numeral.decimal n.2) e.message

/-- The event as a line. -/
def line (withOrigin : Bool) (e : Event) : String :=
  e.level.label ++ " " ++ (if withOrigin then e.origin ++ ": " else "") ++ e.body

/-- The event as a JSON value. -/
def toJson (withOrigin : Bool) (e : Event) : Json.Value :=
  let origin := if withOrigin then [("target", Json.Value.string e.origin)] else []
  .object
    (("level", .string e.level.label)
      :: ("fields", .object
          (("message", .string e.message) :: e.numbers.map fun n => (n.1, .integer n.2)))
      :: origin)

end Event

end TunnelHost
