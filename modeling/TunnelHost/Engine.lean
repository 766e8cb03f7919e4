import TunnelHost.Log.Event
import TunnelHost.Outcome

/-!
# Engines

An engine does the work of the tunnels behind sessions. It is given one request at a time, with a
zeroed buffer for its output, and reports what it did. Nothing that it reports is trusted.

- `TunnelArguments`: what a tunnel is created from.
- `Request`: what a tunnel is asked to do.
- `TunnelStats`: what a tunnel counts.
- `Reply`: what a request leads to.
- `Engine`: the interface.
-/

namespace TunnelHost

/-- What a tunnel is created from. The keys are texts, as the host gave them. -/
structure TunnelArguments where
  privateKey : String
  publicKey : String
  presharedKey : Option String
  /-- Seconds between keep-alive messages. -/
  keepAlive : UInt16
  /-- The peer index as a word. -/
  index : UInt32
  deriving DecidableEq, Repr

/-- What a tunnel is asked to do. -/
inductive Request (β : Type) where
  /-- Wrap a packet for the peer. -/
  | write (packet : List β)
  /-- Unwrap a datagram from the network. -/
  | read (datagram : List β)
  /-- See to whatever is due. -/
  | tick
  /-- Start a handshake. -/
  | handshake
  deriving DecidableEq, Repr

namespace Request

variable {β : Type}

/-- The name of a request. -/
def name : Request β → String
  | .write _ => "write"
  | .read _ => "read"
  | .tick => "tick"
  | .handshake => "force_handshake"

/-- The octets that a request brings along. -/
def input : Request β → List β
  | .write packet => packet
  | .read datagram => datagram
  | .tick => []
  | .handshake => []

end Request

/-- What a tunnel counts. -/
structure TunnelStats where
  /-- Whether a handshake has led to the session in use. -/
  handshakeKnown : Bool := false
  /-- Octets of packets sent. -/
  sent : Nat := 0
  /-- Octets of packets received. -/
  received : Nat := 0
  /-- The estimated share of messages that were lost. -/
  loss : Float32 := 0
  /-- Whether a round trip has been timed. -/
  roundTripKnown : Bool := false

/-- What a request leads to: the engine and the tunnel after it, the buffer, what is reported (or
nothing, if the engine crashed), and the events on the way. -/
structure Reply (σ η β : Type) (capacity : Nat) where
  state : σ
  handle : η
  buffer : Buffer β capacity
  report : Option Report
  events : List Event

/-- An engine over octets of type `β`. It has a state of its own, which all its tunnels share, and a
handle for each tunnel. Requests carry the moment at which they are made; an engine may make use of
it where two events must be told apart. -/
structure Engine (β : Type) where
  /-- The name under which the engine is described. -/
  name : String
  /-- How an error names the type of the engine. -/
  typeName : String
  /-- The octet of an empty buffer. -/
  zero : β
  /-- The byte that an octet is, if it can be told. -/
  byte? : β → Option UInt8
  State : Type
  Handle : Type
  /-- The state of a new engine. -/
  initial : State
  /-- Creates a tunnel, unless the engine refuses. -/
  create : TunnelArguments → State → State × Option Handle
  /-- Serves a request. The buffer cannot change its capacity. -/
  run : {capacity : Nat} → (moment : Nat) → Request β → Handle → Buffer β capacity → State →
    Reply State Handle β capacity
  /-- Reports what a tunnel has counted. -/
  stats : Handle → TunnelStats
  /-- Takes back a tunnel. -/
  release : Handle → State → State
  /-- An event as a line for a log sink. -/
  line : Event → String
  /-- Whether a log sink serves all engines of the kind at once. -/
  sharedSink : Bool

end TunnelHost
