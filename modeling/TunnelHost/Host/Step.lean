import TunnelHost.Host.Basic

/-!
# Steps of a host

What a host program may do, one thing at a time, and what it learns from it.

- `Step`: the things that may be done. Objects go by name; one that is missing is answered as such.
- `Answer`: what is learned.
- `Host.step`: a step.
- `Host.run`: several steps.
-/

namespace TunnelHost

/-- Where a handler is registered: in a bridge's registry or in a loose one. -/
inductive LogPlace where
  | bridge (name : String)
  | loose (name : String)
  deriving DecidableEq, Repr

/-- What a host program may do. -/
inductive Step (β : Type) where
  | addEngine (name : String)
  | addBridge (name engine : String) (config : Config)
  | dropBridge (name : String)
  | addSession (name bridge : String) (input : SessionInput)
  | describe (session : String)
  | call (session : String) (request : Request β)
  | stats (name : String)
  | owns (bridge session : String)
  | close (session : String)
  | wrapSession (peer session allowed : String) (endpoint : Option Endpoint)
  | definePeer (peer bridge : String) (definition : PeerDefinition)
  | dropPeer (peer : String)
  | unwrapPeer (peer session : String)
  | setEndpoint (peer : String) (endpoint : Endpoint)
  | admits (peer : String) (ip : Ip)
  | callPeer (peer : String) (request : Request β) (source : Option Endpoint)
  | route (peer : String) (report : Report) (output : List β)
  | removeKey (bridge key : String)
  | hasKey (bridge key : String)
  | keys (bridge : String)
  | storeWord (bridge key : String)
  | adopt (bridge other : String)
  | family (bridge : String)
  | setLog (bridge : String) (loose : Option String) (handler : Handler)
  | clearLog (place : LogPlace)
  | dropLoose (name : String)
  | forward (line : String)

/-- What is learned of a session. -/
structure SessionView where
  id : Nat
  arguments : TunnelArguments
  capacity : Nat
  text : String
  deriving DecidableEq

/-- What is learned of a session. -/
def Session.view {β : Type} {E : Engine β} (s : Session E) : SessionView :=
  ⟨s.id, s.arguments, s.capacity, s.describe⟩

/-- What is learned from a step. -/
inductive Answer (β : Type) where
  /-- The step is done, and there is nothing to tell. -/
  | done
  | flag (value : Bool)
  | names (names : List String)
  | text (s : String)
  | bridge (context : ContextId) (text family engine : String)
  | session (view : SessionView)
  | peer (view : SessionView) (allowed : List Network) (endpoint : Option Endpoint)
  | envelope (e : Envelope β)
  | stats (s : TunnelStats)
  | endpoints (now : Endpoint) (before : Option Endpoint)
  | route (r : Route β)
  /-- A datagram was taken in by a peer: whether the engine took it, and the endpoint after it. -/
  | received (accepted : Bool) (endpoint : Option Endpoint) (r : Route β)
  /-- A name stands for nothing. -/
  | missing
  | hostError (e : HostError)
  | configError (e : ConfigError)
  | registryError (e : RegistryError)
  | violation (v : Violation)
  /-- The engine broke its contract while a peer took in a datagram. -/
  | peerViolation (v : Violation) (endpoint : Option Endpoint)
  /-- The engine crashed. -/
  | crash

namespace Host

variable {β : Type} {E : Engine β}

/-- Looks a thing up, and goes on with it if it is there. -/
def withNamed {α : Type} (h : Host E) (items : List (String × α)) (name : String)
    (f : α → Host E × Answer β) : Host E × Answer β :=
  match items.lookup name with
  | some a => f a
  | none => (h, .missing)

/-- The key-value registry of a bridge, as far as it can be looked into. -/
def registryOf (h : Host E) (b : Bridge) : Registry Content :=
  (h.board.registry? b.registry).getD .empty

/-- What is learned from the result of a request. -/
def envelopeAnswer : Except CallError (Envelope β) → Answer β
  | .ok e => .envelope e
  | .error (.violation v) => .violation v
  | .error .crash => .crash

/-- What is learned from a request by way of a peer; of a datagram, the endpoint too. -/
def peerAnswer (request : Request β) (p : Peer E) :
    Except CallError (Route β × Bool) → Answer β
  | .ok (r, accepted) =>
    match request with
    | .read _ => .received accepted p.endpoint r
    | _ => .route r
  | .error (.violation v) =>
    match request with
    | .read _ => .peerViolation v p.endpoint
    | _ => .violation v
  | .error .crash => .crash

/-- A step, with the clock already advanced. -/
def act (h : Host E) : Step β → Host E × Answer β
  | .addEngine name => ((h.addEngine name).2, .done)
  | .addBridge name engine config =>
    let (id, h) := h.engineFor engine
    match h.addBridge name id config with
    | .error e => (h, .hostError e)
    | .ok (b, h) =>
      (h, .bridge b.context (h.describeBridge b)
        ((⟨id, config⟩ : SessionFamily).describe E) E.name)
  | .dropBridge name => let (h, there) := h.forgetBridge name; (h, .flag there)
  | .addSession name bridge input =>
    h.withNamed h.bridges bridge fun b =>
      match h.createSession b input with
      | (h, .error e) => (h, .hostError e)
      | (h, .ok s) => (h.putSession name s, .session s.view)
  | .describe name => h.withNamed h.sessions name fun s => (h, .session s.view)
  | .call name request =>
    h.withNamed h.sessions name fun s =>
      let (h, result) := h.call name s request
      (h, envelopeAnswer result)
  | .stats name =>
    match h.sessions.lookup name with
    | some s => (h, .stats s.stats)
    | none => h.withNamed h.peers name fun p => (h, .stats p.session.stats)
  | .owns bridge name =>
    h.withNamed h.bridges bridge fun b =>
      h.withNamed h.sessions name fun s => (h, .flag (h.owns b s))
  | .close name =>
    match h.dropSession name with
    | (h, true) => (h, .done)
    | (h, false) => (h, .missing)
  | .wrapSession name session allowed endpoint =>
    h.withNamed h.sessions session fun s =>
      match h.wrapSession session name allowed endpoint s with
      | (h, .ok ()) => (h, .done)
      | (h, .error e) => (h, .configError e)
  | .definePeer name bridge definition =>
    h.withNamed h.bridges bridge fun b =>
      match h.definePeer name b definition with
      | (h, .ok p) => (h, .peer p.session.view p.allowed p.endpoint)
      | (h, .error e) => (h, .hostError e)
  | .dropPeer name => let (h, there) := h.dropPeer name; (h, .flag there)
  | .unwrapPeer name session =>
    h.withNamed h.peers name fun p =>
      (h.unwrapPeer name session p, .done)
  | .setEndpoint name endpoint =>
    h.withNamed h.peers name fun p =>
      ({ h with peers := putNamed name (p.setEndpoint endpoint) h.peers },
        .endpoints endpoint p.endpoint)
  | .admits name ip => h.withNamed h.peers name fun p => (h, .flag (p.admits ip))
  | .callPeer name request source =>
    h.withNamed h.peers name fun p =>
      let (h, p, result) := h.callPeer name p request source
      (h, peerAnswer request p result)
  | .route name report output =>
    h.withNamed h.peers name fun p =>
      match classify report output with
      | .ok e => (h, .route (p.route e))
      | .error v => (h, .violation v)
  | .removeKey bridge key =>
    h.withNamed h.bridges bridge fun b =>
      let (board, there) := h.board.remove b.registry key
      ({ h with board }, .flag there)
  | .hasKey bridge key =>
    h.withNamed h.bridges bridge fun b => (h, .flag ((h.registryOf b).contains key))
  | .keys bridge => h.withNamed h.bridges bridge fun b => (h, .names (h.registryOf b).keys)
  | .storeWord bridge key =>
    h.withNamed h.bridges bridge fun b =>
      ({ h with board := h.board.store b.registry key (.word 0) b.context }, .done)
  | .adopt bridge other =>
    h.withNamed h.bridges bridge fun b =>
      h.withNamed h.bridges other fun o =>
        match (h.registryOf o).getAs familyKey (familyTypeName E) Content.family? with
        | .error e => (h, .registryError e)
        | .ok f =>
          let shared : Reference Content := ⟨⟨f.serial, .family f.value⟩, b.context⟩
          ({ h with board := h.board.share b.registry familyKey shared }, .done)
  | .family bridge =>
    h.withNamed h.bridges bridge fun b =>
      match h.family b with
      | .error e => (h, .registryError e)
      | .ok f => (h, .text (f.value.describe E))
  | .setLog bridge loose handler =>
    h.withNamed h.bridges bridge fun b =>
      match loose with
      | none => (h.setLog b.registry b.context b.engine handler, .flag true)
      | some name =>
        let (id, h) := h.looseFor name
        (h.setLog id looseContext b.engine handler, .flag true)
  | .clearLog (.bridge name) =>
    h.withNamed h.bridges name fun b =>
      let (board, there) := h.board.clear b.registry
      ({ h with board }, .flag there)
  | .clearLog (.loose name) =>
    h.withNamed h.loose name fun id =>
      let (board, there) := h.board.clear id
      ({ h with board }, .flag there)
  | .dropLoose name => let (h, there) := h.dropLoose name; (h, .flag there)
  | .forward line => (h.forward line, .done)

/-- A step. Each has a moment of its own. -/
def step (h : Host E) (s : Step β) : Host E × Answer β :=
  { h with clock := h.clock + 1 }.act s

/-- Several steps, with all answers. -/
def run (h : Host E) : List (Step β) → Host E × List (Answer β)
  | [] => (h, [])
  | s :: rest =>
    let (h, a) := h.step s
    let (h, as) := h.run rest
    (h, a :: as)

end Host

end TunnelHost
