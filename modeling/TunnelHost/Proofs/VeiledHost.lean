import TunnelHost.Proofs.HostMotions
import TunnelHost.Proofs.Veil

/-!
# Hosts behind a veil

What is done with a veiled host is the same as what is done with the host, veiled afterwards,
provided that the engine does not look into secrets. Nothing of what is reported changes at all.

- `mapNamed`: things by name, each put in place of another.
- `Engine.Veil`: an engine that does not look into secrets, with what hides them in its states.
- `Host.veiled`: a host without secrets.
- `Host.act_veiled`, `Host.step_veiled`: the veil commutes with steps.
- `Host.told_veiled`, `Host.reports_veiled`: it does not change what is reported.
-/

namespace TunnelHost

variable {β : Type} {E : Engine β}

/-! ## Things by name -/

section Named

variable {α γ : Type}

/-- Things by name, each put in place of another. -/
def mapNamed (f : α → γ) (items : List (String × α)) : List (String × γ) :=
  items.map fun e => (e.1, f e.2)

theorem lookup_mapNamed (f : α → γ) (items : List (String × α)) (name : String) :
    (mapNamed f items).lookup name = (items.lookup name).map f := by
  induction items with
  | nil => rfl
  | cons e rest ih =>
    rw [mapNamed, List.map_cons, lookup_cons_eq, lookup_cons_eq]
    split
    · rfl
    · exact ih

theorem dropNamed_mapNamed (f : α → γ) (items : List (String × α)) (name : String) :
    dropNamed name (mapNamed f items) = mapNamed f (dropNamed name items) := List.filter_map

theorem putNamed_mapNamed (f : α → γ) (items : List (String × α)) (name : String) (a : α) :
    putNamed name (f a) (mapNamed f items) = mapNamed f (putNamed name a items) :=
  congrArg ((name, f a) :: ·) (dropNamed_mapNamed f items name)

/-- What is the same of all things is the same of all things by name. -/
theorem mapNamed_mapNamed {δ : Type} {f : α → γ} {g : γ → δ} {k : α → δ}
    (hk : ∀ a, g (f a) = k a) (items : List (String × α)) :
    mapNamed g (mapNamed f items) = mapNamed k items := by
  rw [mapNamed, mapNamed, List.map_map, mapNamed]
  exact List.map_congr_left fun e _ => congrArg (e.1, ·) (hk e.2)

end Named

/-! ## Engines and sessions -/

/-- An engine that does not look into secrets: what it does with a state whose secrets are hidden is
what it does with the state, hidden afterwards. -/
structure Engine.Veil (E : Engine β) where
  hide : E.State → E.State
  initial : hide E.initial = E.initial
  create : ∀ a state,
    E.create a.veiled (hide state) = (hide (E.create a state).1, (E.create a state).2)
  run : ∀ {capacity : Nat} moment request tunnel (buffer : Buffer β capacity) state,
    E.run moment request tunnel buffer (hide state)
      = { E.run moment request tunnel buffer state with
          state := hide (E.run moment request tunnel buffer state).state }
  release : ∀ tunnel state, E.release tunnel (hide state) = hide (E.release tunnel state)

variable (v : E.Veil)

/-- A session is created of stand-ins as it is of secrets. -/
theorem Session.create?_veiled (id : Nat) (family : Handle SessionFamily) (a : TunnelArguments)
    (state : E.State) :
    Session.create? id family a.veiled (v.hide state)
      = (v.hide (Session.create? id family a state).1,
          (Session.create? id family a state).2.map Session.veiled) := by
  simp only [create?, v.create]
  cases (E.create a state).2 <;> rfl

/-- What a request leads to, without secrets. -/
def Turn.veiled (turn : Turn E) : Turn E :=
  { turn with session := turn.session.veiled, state := v.hide turn.state }

/-- What a request by way of a peer leads to, without secrets. -/
def PeerTurn.veiled (turn : PeerTurn E) : PeerTurn E :=
  { turn with peer := turn.peer.veiled, state := v.hide turn.state }

/-- A session serves a request as it would without the veil. -/
theorem Session.perform_veiled (s : Session E) (moment : Nat) (request : Request β)
    (state : E.State) :
    s.veiled.perform moment request (v.hide state)
      = (s.perform moment request state).veiled v := by
  rw [perform, show s.veiled.output = s.output from rfl,
    show s.veiled.tunnel = s.tunnel from rfl, v.run]
  rfl

/-- So does a peer. -/
theorem Peer.perform_veiled (p : Peer E) (moment : Nat) (request : Request β)
    (source : Option Endpoint) (state : E.State) :
    p.veiled.perform moment request source (v.hide state)
      = (p.perform moment request source state).veiled v := by
  unfold perform
  rw [show p.veiled.session = p.session.veiled from rfl, Session.perform_veiled]
  rfl

namespace Host

variable (h : Host E)

/-- A host with something else for the arguments of sessions and for the states of engines. -/
def mapArguments (f : TunnelArguments → TunnelArguments) (hide : E.State → E.State) : Host E :=
  { h with
    engines := h.engines.map hide
    sessions := mapNamed (Session.mapArguments f) h.sessions
    peers := mapNamed (Peer.mapArguments f) h.peers }

/-- A host without secrets. -/
def veiled : Host E := h.mapArguments TunnelArguments.veiled v.hide

/-- The engines of a veiled host are veiled. -/
theorem engineState_veiled (id : Nat) :
    (h.veiled v).engineState id = v.hide (h.engineState id) := by
  rw [engineState, veiled, mapArguments, engineState, List.getD_eq_getElem?_getD,
    List.getD_eq_getElem?_getD, List.getElem?_map]
  cases h.engines[id]? with
  | none => exact v.initial.symm
  | some state => rfl

theorem setEngine_veiled (id : Nat) (state : E.State) :
    (h.veiled v).setEngine id (v.hide state) = (h.setEngine id state).veiled v := by
  rw [setEngine, veiled, mapArguments, setEngine, veiled, mapArguments, ← List.map_set]

theorem addEngine_veiled (name : String) :
    (h.veiled v).addEngine name = ((h.addEngine name).1, (h.addEngine name).2.veiled v) := by
  simp only [addEngine, veiled, mapArguments, List.map_append, List.map_cons, List.map_nil,
    List.length_map, v.initial]

theorem engineFor_veiled (name : String) :
    (h.veiled v).engineFor name = ((h.engineFor name).1, (h.engineFor name).2.veiled v) := by
  rw [engineFor, engineFor, show (h.veiled v).engineNames = h.engineNames from rfl]
  cases h.engineNames.lookup name with
  | some id => rfl
  | none => exact addEngine_veiled v h name

theorem deliver_veiled (engine : Nat) (events : List Event) :
    (h.veiled v).deliver engine events = (h.deliver engine events).veiled v := by
  rw [deliver, deliver, show (h.veiled v).isWired engine = h.isWired engine from rfl]
  split <;> rfl

/-! ## Bridges and registries -/

theorem forgetBridge_veiled (name : String) :
    (h.veiled v).forgetBridge name
      = ((h.forgetBridge name).1.veiled v, (h.forgetBridge name).2) := by
  rw [forgetBridge, forgetBridge, show (h.veiled v).bridges = h.bridges from rfl]
  cases h.bridges.lookup name <;> rfl

theorem withBridge_veiled (name : String) (engine : Nat) (config : Config) :
    (h.veiled v).withBridge name engine config = (h.withBridge name engine config).veiled v := by
  rw [withBridge, show (h.veiled v).withRegistry engine config
    = (h.withRegistry engine config).veiled v from rfl, forgetBridge_veiled]
  rfl

theorem addBridge_veiled (name : String) (engine : Nat) (config : Config) :
    (h.veiled v).addBridge name engine config
      = (h.addBridge name engine config).map fun r => (r.1, r.2.veiled v) := by
  cases hvalidate : config.validate with
  | error e =>
    rw [addBridge_of_error hvalidate, addBridge_of_error hvalidate]
    rfl
  | ok u =>
    rw [addBridge_of_validate hvalidate, addBridge_of_validate hvalidate, withBridge_veiled]
    rfl

theorem looseFor_veiled (name : String) :
    (h.veiled v).looseFor name = ((h.looseFor name).1, (h.looseFor name).2.veiled v) := by
  rw [looseFor, looseFor, show (h.veiled v).loose = h.loose from rfl]
  cases h.loose.lookup name <;> rfl

theorem dropLoose_veiled (name : String) :
    (h.veiled v).dropLoose name = ((h.dropLoose name).1.veiled v, (h.dropLoose name).2) := by
  rw [dropLoose, dropLoose, show (h.veiled v).loose = h.loose from rfl]
  cases h.loose.lookup name <;> rfl

/-! ## Sessions -/

theorem lookup_sessions_veiled (name : String) :
    (h.veiled v).sessions.lookup name = (h.sessions.lookup name).map Session.veiled :=
  lookup_mapNamed _ _ _

theorem lookup_peers_veiled (name : String) :
    (h.veiled v).peers.lookup name = (h.peers.lookup name).map Peer.veiled :=
  lookup_mapNamed _ _ _

theorem release_veiled (s : Session E) :
    (h.veiled v).release s.veiled = (h.release s).veiled v := by
  rw [release, show s.veiled.family = s.family from rfl, engineState_veiled,
    show s.veiled.tunnel = s.tunnel from rfl, v.release, setEngine_veiled]
  rfl

variable {h} in
theorem withoutSession_veiled {h' : Host E} (heq : h' = h.veiled v) (name : String) :
    { h' with sessions := dropNamed name h'.sessions }
      = veiled v { h with sessions := dropNamed name h.sessions } := by
  rw [heq, show (h.veiled v).sessions = mapNamed Session.veiled h.sessions from rfl,
    dropNamed_mapNamed]
  rfl

variable {h} in
theorem withSession_veiled {h' : Host E} (heq : h' = h.veiled v) (name : String) (s : Session E) :
    { h' with sessions := putNamed name s.veiled h'.sessions }
      = veiled v { h with sessions := putNamed name s h.sessions } := by
  rw [heq, show (h.veiled v).sessions = mapNamed Session.veiled h.sessions from rfl,
    putNamed_mapNamed]
  rfl

variable {h} in
theorem withoutPeer_veiled {h' : Host E} (heq : h' = h.veiled v) (name : String) :
    { h' with peers := dropNamed name h'.peers }
      = veiled v { h with peers := dropNamed name h.peers } := by
  rw [heq, show (h.veiled v).peers = mapNamed Peer.veiled h.peers from rfl, dropNamed_mapNamed]
  rfl

variable {h} in
theorem withPeer_veiled {h' : Host E} (heq : h' = h.veiled v) (name : String) (p : Peer E) :
    { h' with peers := putNamed name p.veiled h'.peers }
      = veiled v { h with peers := putNamed name p h.peers } := by
  rw [heq, show (h.veiled v).peers = mapNamed Peer.veiled h.peers from rfl, putNamed_mapNamed]
  rfl

theorem dropSession_veiled (name : String) :
    (h.veiled v).dropSession name
      = ((h.dropSession name).1.veiled v, (h.dropSession name).2) := by
  rw [dropSession, dropSession, lookup_sessions_veiled]
  cases h.sessions.lookup name with
  | none => rfl
  | some s =>
    dsimp only [Option.map_some]
    rw [withoutSession_veiled v rfl, release_veiled]

theorem putSession_veiled (name : String) (s : Session E) :
    (h.veiled v).putSession name s.veiled = (h.putSession name s).veiled v := by
  rw [putSession, dropSession_veiled, putSession]
  exact withSession_veiled v rfl name s

theorem dropPeer_veiled (name : String) :
    (h.veiled v).dropPeer name = ((h.dropPeer name).1.veiled v, (h.dropPeer name).2) := by
  rw [dropPeer, dropPeer, lookup_peers_veiled]
  cases h.peers.lookup name with
  | none => rfl
  | some p =>
    dsimp only [Option.map_some]
    rw [withoutPeer_veiled v rfl, show p.veiled.session = p.session.veiled from rfl, release_veiled]

theorem putPeer_veiled (name : String) (p : Peer E) :
    (h.veiled v).putPeer name p.veiled = (h.putPeer name p).veiled v := by
  rw [putPeer, dropPeer_veiled, putPeer]
  exact withPeer_veiled v rfl name p

/-- A creation comes to the same, with a veiled session. -/
theorem createSession_veiled (b : Bridge) (input : SessionInput) :
    (h.veiled v).createSession b input.veiled
      = ((h.createSession b input).1.veiled v,
          (h.createSession b input).2.map Session.veiled) := by
  rw [createSession, createSession, show (h.veiled v).family b = h.family b from rfl]
  cases h.family b with
  | error e => rfl
  | ok family =>
    dsimp only
    -- the checks pass the same arguments on, with stand-ins for the secrets
    rw [SessionInput.check_veiled]
    cases input.check family.value.config.session.policy with
    | error e => rfl
    | ok a =>
      dsimp only [Except.map]
      rw [engineState_veiled, show (h.veiled v).nextSession = h.nextSession from rfl,
        Session.create?_veiled]
      cases Session.create? h.nextSession family a (h.engineState family.value.engine) with
      | mk state result =>
        cases result with
        | none =>
          dsimp only [Option.map_none]
          rw [setEngine_veiled]
        | some s =>
          dsimp only [Option.map_some]
          rw [setEngine_veiled]
          rfl

/-- A request comes to the same, with a veiled session. -/
theorem perform_engineState_veiled (s : Session E) (request : Request β) :
    s.veiled.perform (h.veiled v).clock request
        ((h.veiled v).engineState s.veiled.family.value.engine)
      = (s.perform h.clock request (h.engineState s.family.value.engine)).veiled v := by
  rw [engineState_veiled]
  exact Session.perform_veiled v s h.clock request _

theorem call_veiled (name : String) (s : Session E) (request : Request β) :
    (h.veiled v).call name s.veiled request
      = ((h.call name s request).1.veiled v, (h.call name s request).2) := by
  rw [call, perform_engineState_veiled]
  dsimp only [Turn.veiled]
  rw [withSession_veiled v rfl, setEngine_veiled, deliver_veiled]
  rfl

/-! ## Peers -/

theorem wrapSession_veiled (session name allowed : String) (endpoint : Option Endpoint)
    (s : Session E) :
    (h.veiled v).wrapSession session name allowed endpoint s.veiled
      = ((h.wrapSession session name allowed endpoint s).1.veiled v,
          (h.wrapSession session name allowed endpoint s).2) := by
  simp only [wrapSession]
  rw [withoutSession_veiled v rfl]
  cases AllowedList.ofText allowed with
  | error breach =>
    dsimp only
    rw [release_veiled]
  | ok networks => exact congrArg (·, _) (putPeer_veiled v _ name ⟨s, networks, endpoint⟩)

/-- A definition comes to the same, with a veiled peer. -/
theorem definePeer_veiled (name : String) (b : Bridge) (definition : PeerDefinition) :
    (h.veiled v).definePeer name b definition.veiled
      = ((h.definePeer name b definition).1.veiled v,
          (h.definePeer name b definition).2.map Peer.veiled) := by
  rw [definePeer, definePeer, show definition.veiled.allowed = definition.allowed from rfl]
  cases AllowedList.ofText definition.allowed with
  | error breach => rfl
  | ok networks =>
    dsimp only
    rw [show (h.veiled v).family b = h.family b from rfl, Peer.inputOf_veiled,
      createSession_veiled]
    generalize h.createSession b (Peer.inputOf definition _) = created
    obtain ⟨h₁, result⟩ := created
    cases result with
    | error e => rfl
    | ok s =>
      dsimp only [Except.map]
      rw [← putPeer_veiled]
      rfl

theorem unwrapPeer_veiled (name session : String) (p : Peer E) :
    (h.veiled v).unwrapPeer name session p.veiled = (h.unwrapPeer name session p).veiled v := by
  rw [unwrapPeer, withoutPeer_veiled v rfl, unwrapPeer]
  exact putSession_veiled v _ session p.session

theorem callPeer_veiled (name : String) (p : Peer E) (request : Request β)
    (source : Option Endpoint) :
    (h.veiled v).callPeer name p.veiled request source
      = ((h.callPeer name p request source).1.veiled v,
          (h.callPeer name p request source).2.1.veiled,
          (h.callPeer name p request source).2.2) := by
  have hturn : p.veiled.perform (h.veiled v).clock request source
      ((h.veiled v).engineState p.veiled.session.family.value.engine)
      = (p.perform h.clock request source
          (h.engineState p.session.family.value.engine)).veiled v := by
    rw [engineState_veiled]
    exact Peer.perform_veiled v p h.clock request source _
  rw [callPeer, hturn]
  dsimp only [PeerTurn.veiled]
  rw [withPeer_veiled v rfl, setEngine_veiled, deliver_veiled]
  rfl

/-! ## Steps -/

/-- What comes of something that is looked up, with a veil before or after. -/
theorem withNamed_veiled {α : Type} (items : List (String × α)) (name : String) (veil : α → α)
    {f f' : α → Host E × Answer β}
    (hf : ∀ a, f' (veil a) = ((f a).1.veiled v, (f a).2.veiled)) :
    (h.veiled v).withNamed (mapNamed veil items) name f'
      = ((h.withNamed items name f).1.veiled v, (h.withNamed items name f).2.veiled) := by
  rw [withNamed, lookup_mapNamed, withNamed]
  cases items.lookup name with
  | none => rfl
  | some a => exact hf a

/-- What comes of something without secrets that is looked up. -/
theorem withNamed_bare {α : Type} (items : List (String × α)) (name : String)
    {f f' : α → Host E × Answer β}
    (hf : ∀ a, f' a = ((f a).1.veiled v, (f a).2.veiled)) :
    (h.veiled v).withNamed items name f'
      = ((h.withNamed items name f).1.veiled v, (h.withNamed items name f).2.veiled) := by
  rw [withNamed, withNamed]
  cases items.lookup name with
  | none => rfl
  | some a => exact hf a

/-- **The veil commutes with steps**, with the clock already advanced. -/
theorem act_veiled (s : Step β) :
    (h.veiled v).act s.veiled = ((h.act s).1.veiled v, (h.act s).2.veiled) := by
  cases s with
  | addEngine name =>
    simp only [Step.veiled, act, addEngine_veiled]
    rfl
  | addBridge name engine config =>
    simp only [Step.veiled, act, engineFor_veiled, addBridge_veiled]
    cases (h.engineFor engine).2.addBridge name (h.engineFor engine).1 config <;> rfl
  | dropBridge name =>
    simp only [Step.veiled, act, forgetBridge_veiled]
    rfl
  | addSession name bridge input =>
    refine withNamed_bare v h h.bridges bridge fun b => ?_
    rw [createSession_veiled]
    obtain ⟨h₁, result⟩ := h.createSession b input
    cases result with
    | error e => rfl
    | ok s =>
      dsimp only [Except.map]
      rw [putSession_veiled, Session.view_veiled]
      rfl
  | describe name =>
    refine withNamed_veiled v h h.sessions name Session.veiled fun s => ?_
    rw [Session.view_veiled]
    rfl
  | call name request =>
    refine withNamed_veiled v h h.sessions name Session.veiled fun s => ?_
    rw [call_veiled]
    obtain ⟨h₁, result⟩ := h.call name s request
    rcases result with ⟨_ | _⟩ | e <;> rfl
  | stats name =>
    -- a step that brings no secrets is its own veil
    show (h.veiled v).act (.stats name) = _
    rw [act, act, lookup_sessions_veiled]
    cases h.sessions.lookup name with
    | some s => rfl
    | none => exact withNamed_veiled v h h.peers name Peer.veiled fun p => rfl
  | owns bridge name =>
    refine withNamed_bare v h h.bridges bridge fun b => ?_
    exact withNamed_veiled v h h.sessions name Session.veiled fun s => rfl
  | close name =>
    show (h.veiled v).act (.close name) = _
    rw [act, act, dropSession_veiled]
    obtain ⟨h₁, there⟩ := h.dropSession name
    cases there <;> rfl
  | wrapSession name session allowed endpoint =>
    refine withNamed_veiled v h h.sessions session Session.veiled fun s => ?_
    rw [wrapSession_veiled]
    obtain ⟨h₁, result⟩ := h.wrapSession session name allowed endpoint s
    cases result <;> rfl
  | definePeer name bridge definition =>
    refine withNamed_bare v h h.bridges bridge fun b => ?_
    rw [definePeer_veiled]
    obtain ⟨h₁, result⟩ := h.definePeer name b definition
    cases result with
    | error e => rfl
    | ok p =>
      dsimp only [Except.map]
      rw [show p.veiled.session = p.session.veiled from rfl, Session.view_veiled]
      rfl
  | dropPeer name =>
    simp only [Step.veiled, act, dropPeer_veiled]
    rfl
  | unwrapPeer name session =>
    refine withNamed_veiled v h h.peers name Peer.veiled fun p => ?_
    rw [unwrapPeer_veiled]
    rfl
  | setEndpoint name endpoint =>
    refine withNamed_veiled v h h.peers name Peer.veiled fun p => ?_
    exact congrArg (·, _) (withPeer_veiled v rfl name (p.setEndpoint endpoint))
  | admits name ip => exact withNamed_veiled v h h.peers name Peer.veiled fun p => rfl
  | callPeer name request source =>
    refine withNamed_veiled v h h.peers name Peer.veiled fun p => ?_
    rw [callPeer_veiled]
    obtain ⟨h₁, p₁, result⟩ := h.callPeer name p request source
    rcases result with ⟨_ | _⟩ | ⟨r, accepted⟩ <;> cases request <;> rfl
  | route name report output =>
    refine withNamed_veiled v h h.peers name Peer.veiled fun p => ?_
    cases classify report output <;> rfl
  -- registries keep no secrets
  | removeKey bridge key => exact withNamed_bare v h h.bridges bridge fun b => rfl
  | hasKey bridge key => exact withNamed_bare v h h.bridges bridge fun b => rfl
  | keys bridge => exact withNamed_bare v h h.bridges bridge fun b => rfl
  | storeWord bridge key => exact withNamed_bare v h h.bridges bridge fun b => rfl
  | adopt bridge other =>
    refine withNamed_bare v h h.bridges bridge fun b => ?_
    refine withNamed_bare v h h.bridges other fun o => ?_
    rw [show (h.veiled v).registryOf o = h.registryOf o from rfl]
    cases (h.registryOf o).getAs familyKey (familyTypeName E) Content.family? <;> rfl
  | family bridge =>
    refine withNamed_bare v h h.bridges bridge fun b => ?_
    rw [show (h.veiled v).family b = h.family b from rfl]
    cases h.family b <;> rfl
  | setLog bridge loose x =>
    refine withNamed_bare v h h.bridges bridge fun b => ?_
    cases loose with
    | none => rfl
    | some name =>
      dsimp only
      rw [looseFor_veiled]
      rfl
  | clearLog place =>
    cases place with
    | bridge name => exact withNamed_bare v h h.bridges name fun b => rfl
    | loose name => exact withNamed_bare v h h.loose name fun id => rfl
  | dropLoose name =>
    simp only [Step.veiled, act, dropLoose_veiled]
    rfl
  | forward line => rfl

/-- **A veiled step of a veiled host tells the same**, apart from the secrets themselves. -/
theorem step_veiled (s : Step β) :
    (h.veiled v).step s.veiled = ((h.step s).1.veiled v, (h.step s).2.veiled) :=
  act_veiled v { h with clock := h.clock + 1 } s

/-! ## Reports -/

theorem released_mapNamed {α : Type} (veil : α → α) (items : List (String × α)) (name : String) :
    released E (mapNamed veil items) name = released E items name := by
  rw [released, lookup_mapNamed, released]
  cases items.lookup name <;> rfl

theorem attempted_veiled (b : Bridge) (input : SessionInput) :
    (h.veiled v).attempted b input.veiled = h.attempted b input := by
  rw [attempted, attempted, show (h.veiled v).family b = h.family b from rfl]
  cases h.family b with
  | error e => rfl
  | ok family =>
    dsimp only
    rw [SessionInput.check_veiled]
    cases input.check family.value.config.session.policy with
    | error e => rfl
    | ok a =>
      dsimp only [Except.map]
      rw [engineState_veiled, show (h.veiled v).nextSession = h.nextSession from rfl,
        Session.create?_veiled]
      cases (Session.create? h.nextSession family a (h.engineState family.value.engine)).2 with
      | none => rfl
      | some s =>
        exact congrArg (fun e => [e]) s.created_veiled

/-- What is looked up reports what it would without the veil. -/
theorem flatMap_lookup_mapNamed {α : Type} (veil : α → α) (items : List (String × α))
    (name : String) {f f' : α → List Event} (hf : ∀ a, f' (veil a) = f a) :
    ((mapNamed veil items).lookup name).toList.flatMap f'
      = (items.lookup name).toList.flatMap f := by
  rw [lookup_mapNamed]
  cases items.lookup name with
  | none => rfl
  | some a =>
    simp only [Option.map_some, Option.toList_some, List.flatMap_cons, List.flatMap_nil, hf]

theorem called_veiled (s : Session E) (request : Request β) :
    (h.veiled v).called s.veiled request = h.called s request := by
  rw [called, perform_engineState_veiled]
  rfl

/-- **A veil changes nothing of what is reported**, with the clock already advanced. -/
theorem told_veiled (s : Step β) : (h.veiled v).told s.veiled = h.told s := by
  -- steps that log something are gone through, the others are the same by definition
  cases s with
  | addSession name bridge input =>
    refine List.flatMap_congr fun b _ => ?_
    rw [attempted_veiled, createSession_veiled]
    cases (h.createSession b input).2 with
    | error e => rfl
    | ok s => exact congrArg (_ ++ ·) (released_mapNamed Session.veiled h.sessions name)
  | definePeer name bridge definition =>
    refine List.flatMap_congr fun b _ => ?_
    dsimp only
    rw [show definition.veiled.allowed = definition.allowed from rfl]
    cases AllowedList.ofText definition.allowed with
    | error breach => rfl
    | ok networks =>
      dsimp only
      rw [show (h.veiled v).family b = h.family b from rfl, Peer.inputOf_veiled,
        attempted_veiled, createSession_veiled]
      cases (h.createSession b (Peer.inputOf definition _)).2 with
      | error e => rfl
      | ok s =>
        have hreleased := released_mapNamed (E := E) Peer.veiled h.peers name
        exact congrArg (_ ++ _ :: ·) hreleased
  | call name request =>
    exact flatMap_lookup_mapNamed _ _ _ fun s => called_veiled v h s request
  | close name => exact flatMap_lookup_mapNamed _ _ _ fun s => rfl
  | wrapSession name session allowed endpoint =>
    refine flatMap_lookup_mapNamed _ _ _ fun s => ?_
    cases AllowedList.ofText allowed with
    | error breach => rfl
    | ok networks => exact released_mapNamed Peer.veiled h.peers name
  | dropPeer name => exact released_mapNamed Peer.veiled h.peers name
  | unwrapPeer name session =>
    refine flatMap_lookup_mapNamed _ _ _ fun p => ?_
    exact released_mapNamed Session.veiled h.sessions session
  | callPeer name request source =>
    refine flatMap_lookup_mapNamed Peer.veiled h.peers name fun p => ?_
    rw [show p.veiled.session = p.session.veiled from rfl, called_veiled,
      perform_engineState_veiled]
    rfl
  | route name report output => exact flatMap_lookup_mapNamed _ _ _ fun p => rfl
  | setLog bridge loose x =>
    refine List.flatMap_congr fun b _ => ?_
    cases loose with
    | none => rfl
    | some name =>
      dsimp only
      rw [looseFor_veiled]
      rfl
  | _ => rfl

/-- Nothing that is logged tells a secret. -/
theorem reports_veiled (s : Step β) : (h.veiled v).reports s.veiled = h.reports s :=
  told_veiled v { h with clock := h.clock + 1 } s

end Host

end TunnelHost
