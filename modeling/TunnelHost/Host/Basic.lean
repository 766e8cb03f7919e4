import TunnelHost.Error
import TunnelHost.Log.Switchboard
import TunnelHost.Peer

/-!
# Hosts

Everything that a host has in hand, by name: engines, bridges, sessions and peers. A bridge ties an
engine to a registry of its own, in which it keeps the session family that sessions are created
from.

- `Bridge`, `Host`: the state.
- `Host.addBridge`, `Host.createSession`, `Host.definePeer`, `Host.wrapSession`: creation.
- `Host.call`, `Host.callPeer`: requests.
- `Host.dropBridge`, `Host.dropSession`, `Host.dropPeer`, `Host.unwrapPeer`: the ends of things.
- `Host.setLog`, `Host.forward`: logging.
-/

namespace TunnelHost

/-- The key under which a registry holds its session family. -/
def familyKey : String := "WireguardTunnel"

/-- An engine tied to a registry, in a context of the host. -/
structure Bridge where
  engine : Nat
  registry : Nat
  context : ContextId
  deriving DecidableEq

/-- A list of things by name with one of them put in place of any of its name. -/
def putNamed {α : Type} (name : String) (a : α) (items : List (String × α)) : List (String × α) :=
  (name, a) :: items.filter fun e => e.1 != name

/-- A list of things by name without those of a name. -/
def dropNamed {α : Type} (name : String) (items : List (String × α)) : List (String × α) :=
  items.filter fun e => e.1 != name

/-- Everything that a host has in hand. -/
structure Host {β : Type} (E : Engine β) where
  /-- The states of the engines, by number. -/
  engines : List E.State := []
  /-- The numbers of engines, by name. -/
  engineNames : List (String × Nat) := []
  board : Switchboard := {}
  bridges : List (String × Bridge) := []
  sessions : List (String × Session E) := []
  peers : List (String × Peer E) := []
  /-- Registries that belong to no bridge, by name. -/
  loose : List (String × Nat) := []
  nextSession : Nat := 1
  nextContext : Nat := 1
  /-- How many steps have been made. -/
  clock : Nat := 0

namespace Host

variable {β : Type} {E : Engine β}

/-! ## Engines -/

/-- The state of an engine. -/
def engineState (h : Host E) (id : Nat) : E.State := h.engines.getD id E.initial

/-- The host with another state of an engine. -/
def setEngine (h : Host E) (id : Nat) (state : E.State) : Host E :=
  { h with engines := h.engines.set id state }

/-- Adds an engine, under a name that may have stood for another. -/
def addEngine (h : Host E) (name : String) : Nat × Host E :=
  (h.engines.length,
    { h with
      engines := h.engines ++ [E.initial]
      engineNames := putNamed name h.engines.length h.engineNames })

/-- The engine of a name, added if there is none. -/
def engineFor (h : Host E) (name : String) : Nat × Host E :=
  match h.engineNames.lookup name with
  | some id => (id, h)
  | none => h.addEngine name

/-- Whether the lines of an engine are forwarded: it was given a sink, or one of its kind was and
they share it. -/
def isWired (h : Host E) (engine : Nat) : Bool :=
  h.board.wired.contains engine || (E.sharedSink && !h.board.wired.isEmpty)

/-- Forwards the events of an engine. -/
def deliver (h : Host E) (engine : Nat) (events : List Event) : Host E :=
  if h.isWired engine then { h with board := h.board.forwardAll (events.map E.line) } else h

/-! ## Bridges -/

/-- How an error names the type of a session family. -/
def familyTypeName (E : Engine β) : String :=
  "wg_bridge::tunnel::session::SessionClass<" ++ E.typeName ++ ">"

/-- The session family that a bridge's registry holds. -/
def family (h : Host E) (b : Bridge) : Except RegistryError (Handle SessionFamily) :=
  match h.board.registry? b.registry with
  | none => .error (.notFound familyKey)
  | some r => r.getAs familyKey (familyTypeName E) Content.family?

/-- The host without a bridge; its registry goes with it. -/
def forgetBridge (h : Host E) (name : String) : Host E × Bool :=
  match h.bridges.lookup name with
  | none => (h, false)
  | some b =>
    ({ h with
        bridges := dropNamed name h.bridges
        board := h.board.dropRegistry b.registry }, true)

/-- Adds a bridge to an engine, with a session family of its own. -/
def addBridge (h : Host E) (name : String) (engine : Nat) (config : Config) :
    Except HostError (Bridge × Host E) := do
  config.validate.mapError .config
  let context : ContextId := ⟨h.nextContext⟩
  let (registry, board) := h.board.addRegistry
  let board := board.store registry familyKey (.family ⟨engine, config⟩) context
  let bridge : Bridge := ⟨engine, registry, context⟩
  let (h, _) := { h with board, nextContext := h.nextContext + 1 }.forgetBridge name
  return (bridge, { h with bridges := putNamed name bridge h.bridges })

/-- The bridge in words. -/
def describeBridge (h : Host E) (b : Bridge) : String :=
  "Bridge \x7b engine: " ++ Text.quoted E.name ++ ", context: " ++ b.context.describe
    ++ ", registry: " ++ ((h.board.registry? b.registry).getD .empty).describe ++ " \x7d"

/-! ## Sessions -/

/-- Gives the tunnel of a session back to its engine. -/
def release (h : Host E) (s : Session E) : Host E :=
  h.setEngine s.family.value.engine
    (E.release s.tunnel (h.engineState s.family.value.engine))

/-- Drops a session; tells whether there was one. -/
def dropSession (h : Host E) (name : String) : Host E × Bool :=
  match h.sessions.lookup name with
  | none => (h, false)
  | some s => ({ h with sessions := dropNamed name h.sessions }.release s, true)

/-- Puts a session under a name. One that was there is released. -/
def putSession (h : Host E) (name : String) (s : Session E) : Host E :=
  let (h, _) := h.dropSession name
  { h with sessions := putNamed name s h.sessions }

/-- Creates a session by way of a bridge: by the family that its registry holds, from arguments that
pass all checks, if the engine does not refuse. Only a session that is created uses an id. -/
def createSession (h : Host E) (b : Bridge) (input : SessionInput) :
    Host E × Except HostError (Session E) :=
  match h.family b with
  | .error e => (h, .error (.registry e))
  | .ok family =>
    match input.check family.value.config.session.policy with
    | .error e => (h, .error (.session e))
    | .ok arguments =>
      let engine := family.value.engine
      match Session.create? h.nextSession family arguments (h.engineState engine) with
      | (state, none) => (h.setEngine engine state, .error (.session .creationFailed))
      | (state, some s) =>
        ({ h.setEngine engine state with nextSession := h.nextSession + 1 }, .ok s)

/-- Whether a session was created from the family that a bridge's registry holds now. -/
def owns (h : Host E) (b : Bridge) (s : Session E) : Bool :=
  match h.family b with
  | .ok family => family.serial == s.family.serial
  | .error _ => false

/-- Has a session serve a request. -/
def call (h : Host E) (name : String) (s : Session E) (request : Request β) :
    Host E × Except CallError (Envelope β) :=
  let engine := s.family.value.engine
  let turn := s.perform h.clock request (h.engineState engine)
  let h := { h with sessions := putNamed name turn.session h.sessions }.setEngine engine turn.state
  (h.deliver engine turn.events, turn.result)

/-! ## Peers -/

/-- Drops a peer with its session; tells whether there was one. -/
def dropPeer (h : Host E) (name : String) : Host E × Bool :=
  match h.peers.lookup name with
  | none => (h, false)
  | some p => ({ h with peers := dropNamed name h.peers }.release p.session, true)

/-- Puts a peer under a name. One that was there is dropped. -/
def putPeer (h : Host E) (name : String) (p : Peer E) : Host E :=
  let (h, _) := h.dropPeer name
  { h with peers := putNamed name p h.peers }

/-- Makes a peer of a session, which is given away: if the list of networks is bad, it is
released. -/
def wrapSession (h : Host E) (session name allowed : String) (endpoint : Option Endpoint)
    (s : Session E) : Host E × Except ConfigError Unit :=
  let h := { h with sessions := dropNamed session h.sessions }
  match AllowedList.ofText allowed with
  | .error breach => (h.release s, .error (.ofBreach breach))
  | .ok networks => (h.putPeer name ⟨s, networks, endpoint⟩, .ok ())

/-- Creates a peer and its session from a definition, networks first. -/
def definePeer (h : Host E) (name : String) (b : Bridge) (definition : PeerDefinition) :
    Host E × Except HostError (Peer E) :=
  match AllowedList.ofText definition.allowed with
  | .error breach => (h, .error (.config (.ofBreach breach)))
  | .ok networks =>
    let family := (h.family b).toOption.map (·.value)
    match h.createSession b (Peer.inputOf definition family) with
    | (h, .error e) => (h, .error e)
    | (h, .ok s) =>
      let p : Peer E := ⟨s, networks, definition.endpoint⟩
      (h.putPeer name p, .ok p)

/-- Takes the session out of a peer. -/
def unwrapPeer (h : Host E) (name session : String) (p : Peer E) : Host E :=
  { h with peers := dropNamed name h.peers }.putSession session p.session

/-- Has a peer serve a request. -/
def callPeer (h : Host E) (name : String) (p : Peer E) (request : Request β)
    (source : Option Endpoint) : Host E × Peer E × Except CallError (Route β × Bool) :=
  let engine := p.session.family.value.engine
  let turn := p.perform h.clock request source (h.engineState engine)
  let h := { h with peers := putNamed name turn.peer h.peers }.setEngine engine turn.state
  (h.deliver engine turn.events, turn.peer, turn.result)

/-! ## Logging -/

/-- The context of registries that belong to no bridge. -/
def looseContext : ContextId := ⟨99⟩

/-- The loose registry of a name, added if there is none. -/
def looseFor (h : Host E) (name : String) : Nat × Host E :=
  match h.loose.lookup name with
  | some id => (id, h)
  | none =>
    let (id, board) := h.board.addRegistry
    (id, { h with board, loose := putNamed name id h.loose })

/-- Registers a handler in a registry and gives a sink to an engine. -/
def setLog (h : Host E) (registry : Nat) (context : ContextId) (engine : Nat) (handler : Handler) :
    Host E :=
  { h with board := h.board.register registry context (some engine) handler }

/-- Drops a loose registry; tells whether there was one. -/
def dropLoose (h : Host E) (name : String) : Host E × Bool :=
  match h.loose.lookup name with
  | none => (h, false)
  | some id =>
    ({ h with loose := dropNamed name h.loose, board := h.board.dropRegistry id }, true)

/-- Delivers a line that did not come from an engine. -/
def forward (h : Host E) (line : String) : Host E := { h with board := h.board.forward line }

end Host

end TunnelHost
