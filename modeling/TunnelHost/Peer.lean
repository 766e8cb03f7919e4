import TunnelHost.Address.AllowedList
import TunnelHost.PeerDefinition
import TunnelHost.Session

/-!
# Peers

A peer is a session together with the peer's endpoint and the networks it may use. Every envelope
becomes a route, which says what is to be done with its octets.

- `Route`, `DropReason`: what is to be done.
- `Route.of`: the route of an envelope.
- `isInitiation`: whether a datagram looks like the start of a handshake.
- `Peer.describe`: a peer in words.
- `Peer.perform`: a request by way of a peer.
-/

namespace TunnelHost

/-- Why octets go nowhere. -/
inductive DropReason where
  /-- There is something for the network, and no endpoint is known. -/
  | noEndpoint
  /-- A packet of the sixth version. -/
  | version6
  /-- The engine refused its input. -/
  | engineFailed
  deriving DecidableEq, Repr

/-- The reason in words. -/
def DropReason.message : DropReason → String
  | .noEndpoint => "no endpoint"
  | .version6 => "IPv6 not supported"
  | .engineFailed => "engine error"

/-- What is to be done with the octets of an envelope. -/
inductive Route (β : Type) where
  | nothing
  /-- Send them to an endpoint. -/
  | toNetwork (endpoint : Endpoint) (data : List β)
  /-- Deliver them to the local IPv4 stack. -/
  | toIpv4 (data : List β)
  | dropped (reason : DropReason)
  deriving DecidableEq

/-- The route of an envelope, given the endpoint as far as it is known. -/
def Route.of {β : Type} (endpoint : Option Endpoint) : Envelope β → Route β
  | .done => .nothing
  | .toNetwork data =>
    match endpoint with
    | some endpoint => .toNetwork endpoint data
    | none => .dropped .noEndpoint
  | .failed => .dropped .engineFailed
  | .toTunnel4 data => .toIpv4 data
  | .toTunnel6 _ => .dropped .version6

/-- The longest datagram that cannot be the start of a handshake. -/
def initiationBound : Nat := 90

/-- Whether a datagram looks like the start of a handshake: it is long enough, and its first word
says so. -/
def isInitiation {β : Type} (byte? : β → Option UInt8) (datagram : List β) : Bool :=
  initiationBound < datagram.length
    && (datagram.take 4).map byte? == [some 1, some 0, some 0, some 0]

/-- A session with the networks its peer may use, and where the peer is. -/
structure Peer {β : Type} (E : Engine β) where
  session : Session E
  allowed : List Network
  endpoint : Option Endpoint

namespace Peer

variable {β : Type} {E : Engine β}

/-- The keep-alive interval of a definition: its own, or that of the family, or that of a default
configuration if there is no family. -/
def keepAliveOf (definition : PeerDefinition) (family : Option SessionFamily) : UInt16 :=
  match definition.keepAlive with
  | some n => n
  | none =>
    match family with
    | some f => f.config.session.keepAlive
    | none => ({} : SessionSection).keepAlive

/-- What the session of a definition is created from. -/
def inputOf (definition : PeerDefinition) (family : Option SessionFamily) : SessionInput where
  privateKey := definition.privateKey
  publicKey := definition.publicKey
  presharedKey := definition.presharedKey.getD ""
  keepAlive := (keepAliveOf definition family).toNat
  index := definition.index.toInt

/-- An endpoint in words, as far as it is known. -/
def describeEndpoint : Option Endpoint → String
  | none => "None"
  | some endpoint => "Some(" ++ endpoint.text ++ ")"

/-- The peer in words, given how a network is put into words. -/
def describe (networkText : Network → String) (p : Peer E) : String :=
  "Peer \x7b session: " ++ p.session.describe
    ++ ", allowed_ips: [" ++ String.intercalate ", " (p.allowed.map networkText)
    ++ "], endpoint: " ++ describeEndpoint p.endpoint ++ " \x7d"

/-- Whether an address is in one of the networks that the peer may use. -/
def admits (p : Peer E) (ip : Ip) : Bool := AllowedList.admits p.allowed ip

/-- The route of an envelope by way of the peer. -/
def route (p : Peer E) (envelope : Envelope β) : Route β := .of p.endpoint envelope

/-- The peer with another session; everything else stays. -/
def withSession (p : Peer E) (session : Session E) : Peer E := { p with session }

/-- The peer at another endpoint. -/
def setEndpoint (p : Peer E) (endpoint : Endpoint) : Peer E := { p with endpoint := some endpoint }

/-- Whether a datagram moves the endpoint to where it came from: it has to look like the start of a
handshake, and the engine has to take it. A forged start cannot divert what is sent. -/
def moves (datagram : List β) (envelope : Envelope β) : Bool :=
  envelope.status != .failed && isInitiation E.byte? datagram

/-- The endpoint after a datagram was taken in. -/
def endpointAfter (p : Peer E) (datagram : List β) (source : Option Endpoint)
    (result : Except CallError (Envelope β)) : Option Endpoint :=
  match result, source with
  | .ok envelope, some source => if moves (E := E) datagram envelope then some source else p.endpoint
  | _, _ => p.endpoint

end Peer

/-- What a request by way of a peer leads to: the peer and the engine's state after it, the route,
if the result was in the contract, with whether the engine took its input, and the events on the
way. -/
structure PeerTurn {β : Type} (E : Engine β) where
  peer : Peer E
  state : E.State
  result : Except CallError (Route β × Bool)
  events : List Event

namespace Peer

variable {β : Type} {E : Engine β}

/-- Serves a request by way of a peer. `source` is where a datagram came from, if that is known; an
endpoint that moves is the one that the reply goes to. -/
def perform (p : Peer E) (moment : Nat) (request : Request β) (source : Option Endpoint)
    (state : E.State) : PeerTurn E :=
  let turn := p.session.perform moment request state
  let endpoint := match request with
    | .read datagram => p.endpointAfter datagram source turn.result
    | _ => p.endpoint
  { peer := { p with session := turn.session, endpoint }
    state := turn.state
    result := turn.result.map fun envelope =>
      (.of endpoint envelope, envelope.status != .failed)
    events := turn.events }

end Peer

end TunnelHost
