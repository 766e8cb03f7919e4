import TunnelHost.CommandLine.Outcome
import TunnelHost.Host.Report
import TunnelHost.Noise.Engine

/-!
# Self-test

Two sessions with keys of their own shake hands and exchange a packet, without a network between
them. Every datagram that one puts out is what the other takes in next.

- `Stage`, `stages`: what is done, by whom, and what is expected of it.
- `Fault`: why a test is not passed.
- `SelfTest.run`: the test, with the events on the way.
-/

namespace TunnelHost.CommandLine.SelfTest

open Noise (Octet)

/-- The session that something is done by. -/
inductive Party where
  | initiator
  | responder
  deriving DecidableEq, Repr

/-- A step of the test. -/
structure Stage where
  name : String
  party : Party
  /-- What is asked for, given the octets put out by the stage before. -/
  request : List Octet → Request Octet
  expected : Status

/-- The packet that is sent: a header of the fourth version, and nothing behind it. -/
def probe : List Octet :=
  [0x45, 0, 0, 20, 0, 0, 0, 0, 64, 0, 0, 0, 10, 0, 0, 1, 10, 0, 0, 2].map Octet.plain

/-- The steps of the test: a handshake, its confirmation, and a packet. -/
def stages : List Stage :=
  [⟨"initiation", .initiator, fun _ => .handshake, .toNetwork⟩,
    ⟨"response", .responder, .read, .toNetwork⟩,
    ⟨"keepalive", .initiator, .read, .toNetwork⟩,
    ⟨"confirm", .responder, .read, .done⟩,
    ⟨"encapsulate", .initiator, fun _ => .write probe, .toNetwork⟩,
    ⟨"decapsulate", .responder, .read, .toTunnel4⟩]

/-- Why a test is not passed. -/
inductive Fault where
  /-- A session could not be created. -/
  | creation (e : HostError)
  /-- A stage came to another status than expected. -/
  | unexpected (stage : String) (expected got : Status)
  /-- The packet was changed on its way. -/
  | altered
  /-- The engine reported something outside the contract. -/
  | violation (v : Violation)
  /-- The engine crashed. -/
  | crash
  deriving DecidableEq, Repr

/-- The failure of a fault. -/
def Fault.failure : Fault → Failure
  | .creation e => .ofHost e
  | .unexpected stage expected got =>
    ⟨stage ++ ": expected " ++ expected.name ++ ", got " ++ got.name, []⟩
  | .altered => ⟨"decapsulated packet differs from the original", []⟩
  | .violation v => ⟨v.message, []⟩
  | .crash => ⟨"engine crashed", []⟩

/-! ## Events -/

/-- An event of the test itself. -/
def event (level : Level) (message : String) : Event :=
  { level, origin := "wg_bridge", message }

/-- An envelope as it is told, in the form of its JSON text. The octets themselves are left out, and
their number stands in place of them: most are outputs of a cipher, of which no bytes are known
here. The text is part of what the test tells on its way and of nothing else. -/
def envelopeText (e : Envelope Octet) : String :=
  let data := match e.data? with
    | some data => ",\"data\":<" ++ Numeral.decimal data.length ++ " bytes>"
    | none => ""
  "\x7b\"type\":\"" ++ e.status.name ++ "\"" ++ data ++ "\x7d"

/-- What a tunnel has counted, as it is told. -/
def statsText (s : TunnelStats) : String :=
  "TunnelStats \x7b tx_bytes: " ++ Numeral.decimal s.sent ++ ", rx_bytes: "
    ++ Numeral.decimal s.received ++ ", .. \x7d"

/-! ## The test -/

/-- The sessions while the test goes on: the octets put out last, how many stages are done, and the
events so far. -/
structure Progress where
  initiator : Session Noise.engine
  responder : Session Noise.engine
  output : List Octet := []
  clock : Nat := 0
  events : List Event := []

namespace Progress

/-- The session of a party. -/
def session (p : Progress) : Party → Session Noise.engine
  | .initiator => p.initiator
  | .responder => p.responder

/-- The state with another session of a party. -/
def setSession (p : Progress) (s : Session Noise.engine) : Party → Progress
  | .initiator => { p with initiator := s }
  | .responder => { p with responder := s }

/-- The state with further events. -/
def tell (p : Progress) (events : List Event) : Progress := { p with events := p.events ++ events }

/-- Performs a stage. -/
def perform (p : Progress) (stage : Stage) : Progress × Option Fault :=
  let s := p.session stage.party
  let request := stage.request p.output
  let turn := s.perform p.clock request Noise.engine.initial
  let p := (p.setSession turn.session stage.party).tell
    (turn.events ++ s.served request turn.result)
  match turn.result with
  | .error (.violation v) => (p, some (.violation v))
  | .error .crash => (p, some .crash)
  | .ok e =>
    let p := p.tell [event .info (stage.name ++ ": " ++ envelopeText e)]
    if e.status ≠ stage.expected then
      (p, some (.unexpected stage.name stage.expected e.status))
    else ({ p with output := e.data?.getD [], clock := p.clock + 1 }, none)

/-- Performs stages up to the first that fails. -/
def performAll (p : Progress) : List Stage → Progress × Option Fault
  | [] => (p, none)
  | stage :: rest =>
    match p.perform stage with
    | (p, none) => p.performAll rest
    | (p, some fault) => (p, some fault)

/-- Ends a test: sessions that have passed are closed, others only given back. -/
def finish (p : Progress) (fault : Option Fault) : List Event × Option Fault :=
  match fault with
  | some fault => (p.events ++ [Noise.engine.released, Noise.engine.released], some fault)
  | none =>
    if p.output ≠ probe then
      (p.events ++ [Noise.engine.released, Noise.engine.released], some .altered)
    else
      let stats := event .debug ("initiator stats: " ++ statsText p.initiator.stats)
      (p.events ++ [stats] ++ p.initiator.closed ++ p.responder.closed, none)

end Progress

/-- What a session of the test is created from. -/
def inputOf (own peer : Key) (index : Int) : SessionInput :=
  { privateKey := own.toText, publicKey := peer.publicKey.toText, presharedKey := ""
    keepAlive := 25, index }

/-- Runs the test between sessions of a bridge with two private keys. -/
def run (host : Host Noise.engine) (bridge : Bridge) (first second : Key) :
    List Event × Option Fault :=
  match host.createSession bridge (inputOf first second 1) with
  | (_, .error e) => ([], some (.creation e))
  | (host, .ok initiator) =>
    match host.createSession bridge (inputOf second first 2) with
    | (_, .error e) => ([initiator.created, Noise.engine.released], some (.creation e))
    | (_, .ok responder) =>
      let start : Progress :=
        { initiator, responder, events := [initiator.created, responder.created] }
      let (p, fault) := start.performAll stages
      p.finish fault

end TunnelHost.CommandLine.SelfTest
