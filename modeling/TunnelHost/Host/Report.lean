import TunnelHost.Host.Step

/-!
# What a host reports

While it works, a host tells of it by events of its own, for whoever watches the program. The lines
of engines are another matter: they go to handlers.

- `Bridge.created`, `Session.created`, `Session.served`, `Session.closed`, `Peer.routed`: the events
  of the parts.
- `Switchboard.registered`, `Switchboard.settled`: those of registrations, and of what handlers do.
- `Host.reports`: those of a step.
-/

namespace TunnelHost

variable {β : Type} {E : Engine β}

/-! ## Bridges and sessions -/

/-- The event of a new bridge. -/
def Bridge.created (E : Engine β) (context : ContextId) (c : Config) : Event where
  level := .info
  origin := "wg_bridge::bridge"
  message := "Bridge " ++ context.text ++ " initialized: engine=" ++ E.name ++ ", buffer="
    ++ Numeral.decimal c.buffer.capacity.toNat ++ " bytes, index policy=" ++ c.session.policy.name

/-- The event of a tunnel that is given back. -/
def Engine.released (E : Engine β) : Event where
  level := .debug
  origin := "wg_bridge::tunnel::handle"
  message := "Released " ++ E.name ++ " tunnel handle"

namespace Session

/-- An event of sessions. -/
def event (level : Level) (message : String) : Event where
  level
  origin := "wg_bridge::tunnel::session"
  message

/-- The event of a new session. -/
def created (s : Session E) : Event :=
  event .debug
    ("Created tunnel session " ++ Numeral.decimal s.id
      ++ " (index " ++ Numeral.decimal s.arguments.index.toNat
      ++ ", keep-alive " ++ Numeral.decimal s.arguments.keepAlive.toNat
      ++ "s, psk " ++ (if s.arguments.presharedKey.isSome then "true" else "false") ++ ")")

/-- The event of an engine that refuses. -/
def refused (E : Engine β) (index : UInt32) : Event :=
  event .warn
    (E.name ++ " engine refused to create tunnel (index " ++ Numeral.decimal index.toNat ++ ")")

/-- The event of a request that was served, or that led outside the contract. -/
def served (s : Session E) (request : Request β) : Except CallError (Envelope β) → List Event
  | .ok e =>
    [event .trace
      ("Session " ++ Numeral.decimal s.id ++ " " ++ request.name ++ ": " ++ e.status.name ++ " ("
        ++ Numeral.decimal e.length ++ " bytes)")]
  | .error (.violation v) =>
    [event .warn ("Session " ++ Numeral.decimal s.id ++ " " ++ request.name ++ ": " ++ v.message)]
  | .error .crash => []

/-- The events of a session that is closed. -/
def closed (s : Session E) : List Event :=
  [event .debug ("Closing tunnel session " ++ Numeral.decimal s.id), E.released]

end Session

/-! ## Peers -/

namespace Peer

/-- An event of peers. -/
def event (level : Level) (message : String) : Event where
  level
  origin := "wg_bridge::peer::routing"
  message

/-- The event of a peer that was made of a definition. -/
def ready (networks : List Network) (endpoint : Option Endpoint) : Event :=
  event .info
    ("Peer ready: " ++ Numeral.decimal networks.length ++ " allowed IPs, endpoint "
      ++ describeEndpoint endpoint)

/-- The event of an endpoint that moves, if it does. -/
def moved (before : Option Endpoint) : Option Endpoint → List Event
  | none => []
  | some now =>
    if before = some now then []
    else [event .debug
      ("Peer endpoint updated: " ++ describeEndpoint before ++ " -> " ++ now.text)]

/-- The event of an envelope that goes nowhere. -/
def routed (p : Peer E) : Envelope β → List Event
  | .toTunnel6 _ =>
    [event .warn ("Dropping IPv6 packet from peer session " ++ Numeral.decimal p.session.id)]
  | .failed => [event .warn ("Engine error on peer session " ++ Numeral.decimal p.session.id)]
  | _ => []

/-- The events of a request by way of a peer, after those of its session. -/
def served (p : Peer E) (request : Request β) (source : Option Endpoint)
    (result : Except CallError (Envelope β)) : List Event :=
  match result with
  | .error _ => []
  | .ok e =>
    match request with
    | .read datagram =>
      moved p.endpoint (p.endpointAfter datagram source result) ++ p.routed e
    | _ => p.routed e

end Peer

/-! ## Registries and handlers -/

namespace Switchboard

/-- The event of something that has to make way in a registry, if something is there. -/
def replaced (b : Switchboard) (id : Nat) (key : String) : List Event :=
  ((b.registry? id).bind (·.find? key)).toList.map fun r =>
    { level := .debug, origin := "wg_bridge::registry"
      message := "Replacing reference " ++ key ++ " (" ++ r.context.text ++ ")" }

/-- The events of a registration. -/
def registered (b : Switchboard) (id : Nat) (context : ContextId) : List Event :=
  b.replaced id handlerKey ++
    [{ level := .debug, origin := "wg_bridge::logging"
       message := "Engine log handler registered for " ++ context.text
        ++ " (sink installed: true)" }]

/-- The events of what is pending, as it is settled. -/
def settled : (fuel : Nat) → List (Nat × ContextId × Reaction) → Switchboard → List Event
  | 0, _, _ => []
  | _ + 1, [], _ => []
  | fuel + 1, (id, context, .install h none) :: rest, b =>
    b.registered id context ++ settled fuel rest (b.register id context none h)
  | fuel + 1, (_, _, .install h (some t)) :: rest, b =>
    b.registered t.registry t.context
      ++ settled fuel rest (b.register t.registry t.context (some t.engine) h)
  | fuel + 1, (id, _, .clear) :: rest, b => settled fuel rest (b.clear id).1
  | fuel + 1, (_, _, .forward line) :: rest, b =>
    match b.receiver? with
    | none => settled fuel rest b
    | some (id, context, h) =>
      settled fuel (h.reactions.map (id, context, ·) ++ rest) ((b.note h.label line).spend id)

/-- The events of a line that is delivered. -/
def forwarded (b : Switchboard) (line : String) : List Event :=
  settled (b.weight + 2) [(0, ⟨0⟩, .forward line)] b

/-- The events of several lines. -/
def forwardedAll (b : Switchboard) : List String → List Event
  | [] => []
  | line :: rest => b.forwarded line ++ (b.forward line).forwardedAll rest

end Switchboard

/-! ## Steps -/

namespace Host

/-- The event of a tunnel that makes way for another, if one of the name is there. -/
def released {α : Type} (E : Engine β) (items : List (String × α)) (name : String) : List Event :=
  (items.lookup name).toList.map fun _ => E.released

/-- The event of an attempt to create a session. -/
def attempted (h : Host E) (b : Bridge) (input : SessionInput) : List Event :=
  match h.family b with
  | .error _ => []
  | .ok family =>
    match input.check family.value.config.session.policy with
    | .error _ => []
    | .ok arguments =>
      let state := h.engineState family.value.engine
      match (Session.create? h.nextSession family arguments state).2 with
      | none => [Session.refused E arguments.index]
      | some s => [s.created]

/-- The events of what an engine logs, if it is forwarded. -/
def delivered (h : Host E) (engine : Nat) (events : List Event) : List Event :=
  if h.isWired engine then h.board.forwardedAll (events.map E.line) else []

/-- The events of a request. -/
def called (h : Host E) (s : Session E) (request : Request β) : List Event :=
  let engine := s.family.value.engine
  let turn := s.perform h.clock request (h.engineState engine)
  h.delivered engine turn.events ++ s.served request turn.result

/-- The events of something that is stored under a key of a bridge. -/
def stored (h : Host E) (b : Bridge) (key : String) : List Event := h.board.replaced b.registry key

/-- The events of a step, with the clock already advanced. -/
def told (h : Host E) : Step β → List Event
  | .addBridge _ _ config =>
    match config.validate with
    | .error _ => []
    | .ok () => [Bridge.created E ⟨h.nextContext⟩ config]
  | .addSession name bridge input =>
    (h.bridges.lookup bridge).toList.flatMap fun b =>
      h.attempted b input ++
        match (h.createSession b input).2 with
        | .error _ => []
        | .ok _ => released E h.sessions name
  | .call name request => (h.sessions.lookup name).toList.flatMap fun s => h.called s request
  | .close name => (h.sessions.lookup name).toList.flatMap fun s => s.closed
  | .wrapSession name session allowed _ =>
    (h.sessions.lookup session).toList.flatMap fun _ =>
      match AllowedList.ofText allowed with
      | .error _ => [E.released]
      | .ok _ => released E h.peers name
  | .definePeer name bridge definition =>
    (h.bridges.lookup bridge).toList.flatMap fun b =>
      match AllowedList.ofText definition.allowed with
      | .error _ => []
      | .ok networks =>
        let input := Peer.inputOf definition ((h.family b).toOption.map (·.value))
        h.attempted b input ++
          match (h.createSession b input).2 with
          | .error _ => []
          | .ok _ => Peer.ready networks definition.endpoint :: released E h.peers name
  | .dropPeer name => released E h.peers name
  | .unwrapPeer name session =>
    (h.peers.lookup name).toList.flatMap fun _ => released E h.sessions session
  | .callPeer name request source =>
    (h.peers.lookup name).toList.flatMap fun p =>
      h.called p.session request
        ++ p.served request source (p.session.perform h.clock request
          (h.engineState p.session.family.value.engine)).result
  | .route name report output =>
    (h.peers.lookup name).toList.flatMap fun p =>
      match classify report output with
      | .error _ => []
      | .ok e => p.routed e
  | .storeWord bridge key => (h.bridges.lookup bridge).toList.flatMap fun b => h.stored b key
  | .adopt bridge other =>
    (h.bridges.lookup bridge).toList.flatMap fun b =>
      (h.bridges.lookup other).toList.flatMap fun o =>
        match h.family o with
        | .error _ => []
        | .ok _ => h.stored b familyKey
  | .setLog bridge loose _ =>
    (h.bridges.lookup bridge).toList.flatMap fun b =>
      match loose with
      | none => h.board.registered b.registry b.context
      | some name =>
        let (id, h) := h.looseFor name
        h.board.registered id looseContext
  | .forward line => h.board.forwarded line
  | _ => []

/-- The events of a step. -/
def reports (h : Host E) (s : Step β) : List Event := { h with clock := h.clock + 1 }.told s

end Host

end TunnelHost
