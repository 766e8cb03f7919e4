import TunnelHost.Engine

/-!
# The scripted engine

An engine that replays outcomes it was given beforehand, whatever it is asked to do, and records
what it was asked. It serves to examine the host's side.

- `Scripted.Outcome`: an outcome to be replayed.
- `Scripted.State`: the outcomes not yet replayed and what was recorded.
- `Scripted.play`: replaying one outcome.
- `Scripted.engine`: the engine.
-/

namespace TunnelHost.Scripted

/-- An outcome to be replayed. -/
structure Outcome where
  /-- The tag to report, whether it is in the contract or not. -/
  tag : UInt32
  /-- The octets to write, as far as they fit. -/
  payload : List UInt8
  /-- The size to report, if not the number of octets to write. -/
  size : Option Nat := none
  deriving DecidableEq, Repr

namespace Outcome

/-- The outcome of a status. -/
def ofStatus (status : Status) (payload : List UInt8) : Outcome := ⟨status.tag, payload, none⟩

/-- Nothing to do. -/
def done : Outcome := ofStatus .done []

/-- A refusal. -/
def failed : Outcome := ofStatus .failed []

/-- Octets for the network that are claimed but not written. -/
def overflow (size : Nat) : Outcome := ⟨Status.toNetwork.tag, [], some size⟩

/-- What is reported. -/
def report (o : Outcome) : Report := ⟨o.tag, o.size.getD o.payload.length⟩

end Outcome

/-- A request as it is recorded: its name and the octets it brought along. -/
abbrev Call := String × List UInt8

/-- The state that the tunnels of an engine share. -/
structure State where
  /-- Outcomes not yet replayed, the next one first. -/
  script : List Outcome := []
  /-- The arguments of every creation, refused ones included. -/
  created : List TunnelArguments := []
  /-- Requests since the record was last cleared. -/
  calls : List Call := []
  /-- Number of tunnels taken back. -/
  freed : Nat := 0
  /-- Number of requests whose buffer was not zeroed. -/
  dirty : Nat := 0
  /-- Whether creations are refused. -/
  refusing : Bool := false
  /-- Number of tunnels created. -/
  issued : Nat := 0

namespace State

/-- Adds an outcome to be replayed after all others. -/
def push (o : Outcome) (s : State) : State := { s with script := s.script ++ [o] }

/-- Forgets the recorded requests. -/
def clearCalls (s : State) : State := { s with calls := [] }

/-- The next outcome and the state without it; nothing to do if there is none. -/
def next (s : State) : Outcome × State :=
  match s.script with
  | [] => (.done, s)
  | o :: rest => (o, { s with script := rest })

/-- Records a request and whether its buffer was zeroed. -/
def record (r : Request UInt8) (buffer : List UInt8) (s : State) : State :=
  { s with
    calls := s.calls ++ [(r.name, r.input)]
    dirty := if buffer.any (· != 0) then s.dirty + 1 else s.dirty }

end State

/-- The event of an outcome that is replayed. -/
def event (r : Request UInt8) (o : Outcome) : Event where
  level := .trace
  origin := "scripted"
  message := "scripted " ++ r.name ++ " -> tag " ++ Numeral.decimal o.tag.toNat

/-- Replays an outcome for a request. The handle is only a number and does not matter. -/
def play {capacity : Nat} (r : Request UInt8) (handle : Nat) (buffer : Buffer UInt8 capacity)
    (s : State) : Reply State Nat UInt8 capacity :=
  let (o, s) := (s.record r buffer.contents).next
  { state := s
    handle
    buffer := buffer.overwrite o.payload
    report := some o.report
    events := [event r o] }

/-- Records a creation, and numbers the tunnel unless creations are refused. -/
def create (args : TunnelArguments) (s : State) : State × Option Nat :=
  let s := { s with created := s.created ++ [args] }
  if s.refusing then (s, none)
  else ({ s with issued := s.issued + 1 }, some (s.issued + 1))

/-- The scripted engine. -/
def engine : Engine UInt8 where
  name := "scripted"
  typeName := "wg_bridge::engine::scripted::ScriptedEngine"
  zero := 0
  byte? := some
  State := State
  Handle := Nat
  initial := {}
  create := create
  run := fun _ r handle buffer s => play r handle buffer s
  stats := fun _ => {}
  release := fun _ s => { s with freed := s.freed + 1 }
  line := Event.body
  sharedSink := false

end TunnelHost.Scripted
