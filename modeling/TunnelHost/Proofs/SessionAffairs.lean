import Mathlib.Data.Multiset.MapFold
import TunnelHost.Proofs.HostOwners

/-!
# What happens between sessions and engines

Names come and go, sessions pass from one name to another, into peers and out of them. None of this
is anything to the engines. What is comes down to five affairs: an engine is added, an engine
refuses a session or creates one, a session serves a request, and a session ends, which gives its
tunnel back to its engine. Every step of a host is made of these, and a session is never lost on the
way: one that is there stays, or its end is among the affairs of the step.

- `Stock`: what is left of a host if names and registries are forgotten; `Host.stock`.
- `Affair`, `Turns`, `Passes`: one affair, and several.
- `Host.Tidy`: no name stands twice.
- `Host.follows_act`: what a step is made of; one lemma for each operation.
-/

namespace TunnelHost

variable {β : Type} {E : Engine β}

/-! ## Stocks -/

/-- The states of the engines, and the sessions that there are. -/
structure Stock (E : Engine β) where
  engines : List E.State
  live : Multiset (Session E)

/-- What may happen between sessions and engines. -/
inductive Affair (E : Engine β) where
  /-- An engine is added. -/
  | arrives
  /-- An engine is asked for a tunnel, and refuses. -/
  | refuses (engine : Nat) (arguments : TunnelArguments)
  /-- An engine is asked for a tunnel, and a session begins. -/
  | begins (s : Session E)
  | serves (s : Session E) (moment : Nat) (request : Request β)
  /-- A session ends, and its tunnel is given back. -/
  | ends (s : Session E)

/-- What an affair does to a stock: the engine in question is called once, and nobody else is
concerned. -/
inductive Turns : Stock E → Affair E → Stock E → Prop
  | arrives (engines : List E.State) (live : Multiset (Session E)) :
      Turns ⟨engines, live⟩ .arrives ⟨engines ++ [E.initial], live⟩
  | refuses {engines : List E.State} (live : Multiset (Session E)) {engine : Nat}
      {a : TunnelArguments} {state state' : E.State} (hengine : engines[engine]? = some state)
      (hcreate : E.create a state = (state', none)) :
      Turns ⟨engines, live⟩ (.refuses engine a) ⟨engines.set engine state', live⟩
  | begins {engines : List E.State} (live : Multiset (Session E)) {s : Session E}
      {state state' : E.State} (hengine : engines[s.family.value.engine]? = some state)
      (hcreate : E.create s.arguments state = (state', some s.tunnel)) :
      Turns ⟨engines, live⟩ (.begins s) ⟨engines.set s.family.value.engine state', s ::ₘ live⟩
  | serves {engines : List E.State} (live : Multiset (Session E)) {s : Session E} (moment : Nat)
      (request : Request β) {state : E.State}
      (hengine : engines[s.family.value.engine]? = some state) :
      Turns ⟨engines, s ::ₘ live⟩ (.serves s moment request)
        ⟨engines.set s.family.value.engine (s.perform moment request state).state,
          (s.perform moment request state).session ::ₘ live⟩
  | ends {engines : List E.State} (live : Multiset (Session E)) {s : Session E} {state : E.State}
      (hengine : engines[s.family.value.engine]? = some state) :
      Turns ⟨engines, s ::ₘ live⟩ (.ends s)
        ⟨engines.set s.family.value.engine (E.release s.tunnel state), live⟩

/-- What several affairs do, one after the other. -/
inductive Passes : Stock E → List (Affair E) → Stock E → Prop
  | nil (stock : Stock E) : Passes stock [] stock
  | cons {stock next last : Stock E} {affair : Affair E} {rest : List (Affair E)}
      (hturns : Turns stock affair next) (hrest : Passes next rest last) :
      Passes stock (affair :: rest) last

namespace Stock

variable {stock : Stock E} {id other : Nat} {state state' : E.State}

/-- The state of an engine. -/
def engineState (stock : Stock E) (id : Nat) : E.State := stock.engines.getD id E.initial

/-- A stock with another state of an engine. -/
def setEngine (stock : Stock E) (id : Nat) (state : E.State) : Stock E :=
  ⟨stock.engines.set id state, stock.live⟩

theorem engineState_of_getElem? (h : stock.engines[id]? = some state) :
    stock.engineState id = state := by
  rw [engineState, List.getD_eq_getElem?_getD, h, Option.getD_some]

theorem engineState_setEngine_self (h : stock.engines[id]? = some state) :
    (stock.setEngine id state').engineState id = state' :=
  engineState_of_getElem? (List.getElem?_set_self (List.getElem?_eq_some_iff.mp h).1)

theorem engineState_setEngine_of_ne (h : other ≠ id) :
    (stock.setEngine other state').engineState id = stock.engineState id := by
  rw [engineState, engineState, setEngine, List.getD_eq_getElem?_getD,
    List.getD_eq_getElem?_getD, List.getElem?_set_ne h]

/-- An engine that is added is in the state in which one counts that is not there. -/
theorem engineState_arrives (engines : List E.State) (live : Multiset (Session E)) (id : Nat) :
    Stock.engineState ⟨engines ++ [E.initial], live⟩ id
      = Stock.engineState ⟨engines, live⟩ id := by
  rw [engineState, engineState, List.getD_eq_getElem?_getD, List.getD_eq_getElem?_getD]
  rcases Nat.lt_trichotomy id engines.length with hlt | heq | hgt
  · rw [List.getElem?_append_left hlt]
  · rw [heq, List.getElem?_append_right (Nat.le_refl _), Nat.sub_self,
      List.getElem?_eq_none (Nat.le_refl _)]
    rfl
  · rw [List.getElem?_eq_none (by rw [List.length_append]; exact hgt),
      List.getElem?_eq_none (Nat.le_of_lt hgt)]

end Stock

/-- A stock with one session more, which has no name at the moment. -/
def Stock.add (stock : Stock E) (s : Session E) : Stock E := ⟨stock.engines, s ::ₘ stock.live⟩

/-- Affairs of others are nothing to a session. -/
theorem Turns.add {stock next : Stock E} {affair : Affair E} (h : Turns stock affair next)
    (s : Session E) : Turns (stock.add s) affair (next.add s) := by
  cases h with
  | arrives => exact .arrives _ _
  | refuses _ hengine hcreate => exact .refuses _ hengine hcreate
  | @begins engines live t _ _ hengine hcreate =>
    show Turns ⟨engines, s ::ₘ live⟩ (.begins t) ⟨_, s ::ₘ t ::ₘ live⟩
    rw [Multiset.cons_swap]
    exact .begins _ hengine hcreate
  | @serves engines live t moment request _ hengine =>
    show Turns ⟨engines, s ::ₘ t ::ₘ live⟩ _ ⟨_, s ::ₘ _ ::ₘ live⟩
    rw [Multiset.cons_swap s, Multiset.cons_swap s]
    exact .serves _ moment request hengine
  | @ends engines live t _ hengine =>
    show Turns ⟨engines, s ::ₘ t ::ₘ live⟩ (.ends t) ⟨_, s ::ₘ live⟩
    rw [Multiset.cons_swap]
    exact .ends _ hengine

/-- Affairs may pass one after the other. -/
theorem Passes.append {stock next last : Stock E} {affairs more : List (Affair E)}
    (h : Passes stock affairs next) (h' : Passes next more last) :
    Passes stock (affairs ++ more) last := by
  induction h with
  | nil => exact h'
  | cons hturns _ ih => exact .cons hturns (ih h')

/-- Some affairs, and no others, lead from a stock to another. -/
def Stock.Leads (stock next : Stock E) : Prop := ∃ affairs, Passes stock affairs next

namespace Stock.Leads

variable {stock next last : Stock E}

theorem refl (stock : Stock E) : stock.Leads stock := ⟨[], .nil stock⟩

theorem one {affair : Affair E} (h : Turns stock affair next) : stock.Leads next :=
  ⟨[affair], .cons h (.nil next)⟩

theorem trans (h : stock.Leads next) (h' : next.Leads last) : stock.Leads last := by
  obtain ⟨affairs, hpasses⟩ := h
  obtain ⟨more, hmore⟩ := h'
  exact ⟨affairs ++ more, hpasses.append hmore⟩

/-- A session that is not concerned may be there all the while. -/
theorem add (h : stock.Leads next) (s : Session E) : (stock.add s).Leads (next.add s) := by
  obtain ⟨affairs, hpasses⟩ := h
  refine ⟨affairs, ?_⟩
  induction hpasses with
  | nil => exact .nil _
  | cons hturns _ ih => exact .cons (hturns.add s) ih

end Stock.Leads

/-! ## Stocks of hosts -/

/-- The things of a list by name, in no order. -/
def things {α : Type} (items : List (String × α)) : Multiset α := ↑(items.map (·.2))

/-- What stands under a name is one of the things, and the others are what is left without it. -/
theorem things_of_lookup {α : Type} {items : List (String × α)} {name : String} {a : α}
    (hnames : (items.map (·.1)).Nodup) (h : items.lookup name = some a) :
    things items = a ::ₘ things (dropNamed name items) :=
  Multiset.coe_eq_coe.mpr ((Host.perm_dropNamed hnames h).map (·.2))

theorem dropNamed_dropNamed {α : Type} (name : String) (items : List (String × α)) :
    dropNamed name (dropNamed name items) = dropNamed name items :=
  Host.dropNamed_of_not_mem (Host.not_mem_dropNamed name items)

/-- Steps that do not bear on sessions: they look things up, or have to do with bridges, registries
and handlers. -/
def Step.besideSessions : Step β → Bool
  | .dropBridge _ => true
  | .owns _ _ => true
  | .removeKey _ _ => true
  | .hasKey _ _ => true
  | .keys _ => true
  | .storeWord _ _ => true
  | .adopt _ _ => true
  | .family _ => true
  | .setLog _ _ _ => true
  | .clearLog _ => true
  | .dropLoose _ => true
  | .forward _ => true
  | _ => false

namespace Host

variable {h h' : Host E} {s : Session E} {p : Peer E} {name : String}

/-- What is left of a host if names and registries are forgotten. -/
def stock (h : Host E) : Stock E :=
  ⟨h.engines, things h.sessions + (things h.peers).map Peer.session⟩

/-- No name stands for two sessions or for two peers, and every session has its engine. -/
structure Tidy (h : Host E) : Prop where
  keeps : h.Keeps fun _ => True
  sessions : (h.sessions.map (·.1)).Nodup
  peers : (h.peers.map (·.1)).Nodup

theorem kept_true : Session.Kept (fun _ : Session E => True) :=
  ⟨fun _ _ _ _ _ _ _ _ => trivial, fun _ _ _ _ _ _ => trivial⟩

theorem tidy_empty : ({} : Host E).Tidy := ⟨keeps_empty, List.nodup_nil, List.nodup_nil⟩

/-- Engines, sessions and peers are as they were. -/
structure SameSessions (h h' : Host E) : Prop where
  engines : h'.engines = h.engines
  sessions : h'.sessions = h.sessions
  peers : h'.peers = h.peers

theorem SameSessions.stock (hs : SameSessions h h') : h'.stock = h.stock := by
  rw [Host.stock, Host.stock, hs.engines, hs.sessions, hs.peers]

@[simp] theorem stock_deliver (h : Host E) (engine : Nat) (events : List Event) :
    (h.deliver engine events).stock = h.stock := by
  rw [deliver]
  split <;> rfl

/-- An engine that is not there has no state to be put into. -/
theorem setEngine_of_length_le {id : Nat} (hid : h.engines.length ≤ id) (state : E.State) :
    h.setEngine id state = h := by
  rw [setEngine, List.set_eq_of_length_le hid]

theorem engines_getElem? {engine : Nat} (hengine : engine < h.engines.length) :
    h.engines[engine]? = some (h.engineState engine) := by
  rw [engineState, List.getD_eq_getElem?_getD, List.getElem?_eq_getElem hengine, Option.getD_some]

/-! ## Names taken and given -/

/-- A session whose name is taken away. -/
theorem stock_of_session (ht : h.Tidy) (hs : h.sessions.lookup name = some s) :
    h.stock = Stock.add { h with sessions := dropNamed name h.sessions }.stock s := by
  rw [stock, things_of_lookup ht.sessions hs, Multiset.cons_add]
  rfl

theorem stock_of_peer (ht : h.Tidy) (hp : h.peers.lookup name = some p) :
    h.stock = Stock.add { h with peers := dropNamed name h.peers }.stock p.session := by
  rw [stock, things_of_lookup ht.peers hp, Multiset.map_cons, Multiset.add_cons]
  rfl

/-- A session that is given a name. -/
theorem stock_named_session (h : Host E) (name : String) (s : Session E) :
    { h with sessions := putNamed name s h.sessions }.stock
      = Stock.add { h with sessions := dropNamed name h.sessions }.stock s :=
  congrArg (Stock.mk h.engines) (Multiset.cons_add s (things (dropNamed name h.sessions)) _)

theorem stock_named_peer (h : Host E) (name : String) (p : Peer E) :
    { h with peers := putNamed name p h.peers }.stock
      = Stock.add { h with peers := dropNamed name h.peers }.stock p.session := by
  refine congrArg (Stock.mk h.engines) ?_
  show _ + (p ::ₘ things (dropNamed name h.peers)).map Peer.session = _
  rw [Multiset.map_cons, Multiset.add_cons]
  rfl

theorem Tidy.withoutSession (ht : h.Tidy) (name : String) :
    { h with sessions := dropNamed name h.sessions }.Tidy :=
  ⟨ht.keeps.dropSession_named name, nodup_dropNamed ht.sessions name, ht.peers⟩

theorem Tidy.withoutPeer (ht : h.Tidy) (name : String) :
    { h with peers := dropNamed name h.peers }.Tidy :=
  ⟨ht.keeps.dropPeer_named name, ht.sessions, nodup_dropNamed ht.peers name⟩

/-! ## Ends -/

/-- A session that is released ends. -/
theorem leads_release (h : Host E) (hs : s.family.value.engine < h.engines.length) :
    (h.stock.add s).Leads (h.release s).stock :=
  .one (.ends h.stock.live (engines_getElem? hs))

/-- Dropping a session ends it, if there is one. -/
theorem leads_dropSession (ht : h.Tidy) (name : String) :
    h.stock.Leads (h.dropSession name).1.stock := by
  rw [dropSession]
  cases hs : h.sessions.lookup name with
  | none => exact .refl _
  | some s =>
    rw [stock_of_session ht hs]
    exact leads_release _ (ht.keeps.sessions _ (mem_of_lookup hs)).sound.engine

theorem leads_dropPeer (ht : h.Tidy) (name : String) :
    h.stock.Leads (h.dropPeer name).1.stock := by
  rw [dropPeer]
  cases hp : h.peers.lookup name with
  | none => exact .refl _
  | some p =>
    rw [stock_of_peer ht hp]
    exact leads_release _ (ht.keeps.peers _ (mem_of_lookup hp)).sound.engine

theorem sessions_dropSession (h : Host E) (name : String) :
    (h.dropSession name).1.sessions = dropNamed name h.sessions := by
  rw [dropSession]
  cases hs : h.sessions.lookup name with
  | none => exact (dropNamed_of_not_mem (not_mem_of_lookup hs)).symm
  | some s => rfl

theorem peers_dropPeer (h : Host E) (name : String) :
    (h.dropPeer name).1.peers = dropNamed name h.peers := by
  rw [dropPeer]
  cases hp : h.peers.lookup name with
  | none => exact (dropNamed_of_not_mem (not_mem_of_lookup hp)).symm
  | some p => rfl

theorem peers_dropSession (h : Host E) (name : String) :
    (h.dropSession name).1.peers = h.peers := by
  rw [dropSession]
  split <;> rfl

theorem sessions_dropPeer (h : Host E) (name : String) :
    (h.dropPeer name).1.sessions = h.sessions := by
  rw [dropPeer]
  split <;> rfl

/-- A session takes a name. One that had it ends. -/
theorem leads_putSession (ht : h.Tidy) (name : String) (s : Session E) :
    (h.stock.add s).Leads (h.putSession name s).stock := by
  have hstock : (h.putSession name s).stock = (h.dropSession name).1.stock.add s := by
    rw [putSession]
    refine (stock_named_session (h.dropSession name).1 name s).trans ?_
    rw [sessions_dropSession, dropNamed_dropNamed, ← sessions_dropSession]
  rw [hstock]
  exact (leads_dropSession ht name).add s

/-- A peer that takes the name of another ends the session of that. -/
theorem leads_putPeer (ht : h.Tidy) (name : String) (p : Peer E) :
    (h.stock.add p.session).Leads (h.putPeer name p).stock := by
  have hstock : (h.putPeer name p).stock = (h.dropPeer name).1.stock.add p.session := by
    rw [putPeer]
    refine (stock_named_peer (h.dropPeer name).1 name p).trans ?_
    rw [peers_dropPeer, dropNamed_dropNamed, ← peers_dropPeer]
  rw [hstock]
  exact (leads_dropPeer ht name).add p.session

/-! ## What an operation leads to -/

/-- Affairs lead from a stock to that of a host, in which no name stands twice. -/
structure Follows (stock : Stock E) (h' : Host E) : Prop where
  leads : stock.Leads h'.stock
  sessions : (h'.sessions.map (·.1)).Nodup
  peers : (h'.peers.map (·.1)).Nodup

theorem Follows.after {stock next : Stock E} (hleads : stock.Leads next) (hf : Follows next h') :
    Follows stock h' :=
  ⟨hleads.trans hf.leads, hf.sessions, hf.peers⟩

/-- What does not concern sessions may come after. -/
theorem Follows.same {stock : Stock E} (hf : Follows stock h) (hs : SameSessions h h') :
    Follows stock h' where
  leads := by
    rw [hs.stock]
    exact hf.leads
  sessions := by
    rw [hs.sessions]
    exact hf.sessions
  peers := by
    rw [hs.peers]
    exact hf.peers

/-- Nothing happens. -/
theorem Tidy.follows (ht : h.Tidy) : Follows h.stock h := ⟨.refl _, ht.sessions, ht.peers⟩

/-- Dropping a session is an affair of its engine. -/
theorem follows_dropSession (ht : h.Tidy) (name : String) :
    Follows h.stock (h.dropSession name).1 where
  leads := leads_dropSession ht name
  sessions := by
    rw [sessions_dropSession]
    exact nodup_dropNamed ht.sessions name
  peers := by
    rw [peers_dropSession]
    exact ht.peers

theorem follows_dropPeer (ht : h.Tidy) (name : String) :
    Follows h.stock (h.dropPeer name).1 where
  leads := leads_dropPeer ht name
  sessions := by
    rw [sessions_dropPeer]
    exact ht.sessions
  peers := by
    rw [peers_dropPeer]
    exact nodup_dropNamed ht.peers name

/-- A session that takes a name ends the one that had it. -/
theorem follows_putSession (ht : h.Tidy) (name : String) (s : Session E) :
    Follows (h.stock.add s) (h.putSession name s) where
  leads := leads_putSession ht name s
  sessions := nodup_putNamed (follows_dropSession ht name).sessions name s
  peers := (follows_dropSession ht name).peers

theorem follows_putPeer (ht : h.Tidy) (name : String) (p : Peer E) :
    Follows (h.stock.add p.session) (h.putPeer name p) where
  leads := leads_putPeer ht name p
  sessions := (follows_dropPeer ht name).sessions
  peers := nodup_putNamed (follows_dropPeer ht name).peers name p

theorem follows_unwrapPeer (ht : h.Tidy) (hp : h.peers.lookup name = some p) (session : String) :
    Follows h.stock (h.unwrapPeer name session p) := by
  rw [stock_of_peer ht hp]
  exact follows_putSession (ht.withoutPeer name) session p.session

/-- A session becomes that of a peer, or ends if the networks cannot be read. -/
theorem follows_wrapSession (ht : h.Tidy) {session : String}
    (hs : h.sessions.lookup session = some s) (name allowed : String)
    (endpoint : Option Endpoint) :
    Follows h.stock (h.wrapSession session name allowed endpoint s).1 := by
  have htidy := ht.withoutSession session
  rw [stock_of_session ht hs, wrapSession]
  cases AllowedList.ofText allowed with
  | error breach =>
    have hengine := (ht.keeps.sessions _ (mem_of_lookup hs)).sound.engine
    exact ⟨leads_release _ hengine, htidy.sessions, htidy.peers⟩
  | ok networks => exact follows_putPeer htidy name ⟨s, networks, endpoint⟩

/-- What an attempt to create a session leads to: a session without a name, or none. -/
theorem follows_createSession (ht : h.Tidy) (b : Bridge) (input : SessionInput) :
    (∀ h' e, h.createSession b input = (h', .error e) → Follows h.stock h')
      ∧ ∀ h' s, h.createSession b input = (h', .ok s) →
          h'.Tidy ∧ h.stock.Leads (h'.stock.add s) := by
  refine ⟨fun h' e heq => ?_, fun h' s heq => ?_⟩
  · have hcreates := createSession_eq_iff.mp heq
    cases hcreates with
    | absent => exact ht.follows
    | foreign => exact ht.follows
    | invalid => exact ht.follows
    | refused family hfamily hchecks a ha state hengine =>
      -- a family that is offered is sound, so its engine is there
      have hsound := (ht.keeps.sound_of_offers hfamily).engine
      exact ⟨.one (.refuses h.stock.live (engines_getElem? hsound) hengine), ht.sessions, ht.peers⟩
  · have hkeeps : h'.Keeps fun _ => True := by
      have hcreated := (ht.keeps.createSession kept_true b input).1
      rwa [heq] at hcreated
    have hcreates := createSession_eq_iff.mp heq
    cases hcreates with
    | created family hfamily hchecks a ha state tunnel hengine =>
      have hsound := (ht.keeps.sound_of_offers hfamily).engine
      let s : Session E :=
        { id := h.nextSession, arguments := a, family, tunnel, output := .zeroed E.zero _ }
      have hbegins : Turns h.stock (.begins s)
          ⟨h.engines.set family.value.engine state, s ::ₘ h.stock.live⟩ :=
        .begins h.stock.live (engines_getElem? hsound) hengine
      exact ⟨⟨hkeeps, ht.sessions, ht.peers⟩, .one hbegins⟩

/-- A definition that is accepted begins a session, and ends the one of the peer that had the name.
-/
theorem follows_definePeer (ht : h.Tidy) (name : String) (b : Bridge)
    (definition : PeerDefinition) : Follows h.stock (h.definePeer name b definition).1 := by
  rw [definePeer]
  cases AllowedList.ofText definition.allowed with
  | error breach => exact ht.follows
  | ok networks =>
    obtain ⟨hrefused, hcreated⟩ := follows_createSession ht b
      (Peer.inputOf definition ((h.family b).toOption.map (·.value)))
    dsimp only
    split
    next h' e heq => exact hrefused h' e heq
    next h' s heq =>
      obtain ⟨htidy, hleads⟩ := hcreated h' s heq
      exact .after hleads (follows_putPeer htidy name ⟨s, networks, definition.endpoint⟩)

/-- Events are no affair of sessions. -/
theorem Follows.deliver {stock : Stock E} (hf : Follows stock h') (engine : Nat)
    (events : List Event) : Follows stock (h'.deliver engine events) where
  leads := by
    rw [stock_deliver]
    exact hf.leads
  sessions := by
    rw [sessions_deliver]
    exact hf.sessions
  peers := by
    rw [peers_deliver]
    exact hf.peers

/-- A session stays under its name while it serves a request. -/
theorem follows_call (ht : h.Tidy) (hs : h.sessions.lookup name = some s) (request : Request β) :
    Follows h.stock (h.call name s request).1 := by
  let engine := s.family.value.engine
  have hengine := (ht.keeps.sessions _ (mem_of_lookup hs)).sound.engine
  let turn := s.perform h.clock request (h.engineState engine)
  let k : Host E :=
    { h with sessions := putNamed name turn.session h.sessions }.setEngine engine turn.state
  have hstock : k.stock = _ := congrArg (Stock.setEngine · engine turn.state)
    (stock_named_session h name turn.session)
  have hserved : Follows h.stock k := by
    refine ⟨?_, nodup_putNamed ht.sessions name turn.session, ht.peers⟩
    rw [stock_of_session ht hs, hstock]
    exact .one (.serves _ h.clock request (engines_getElem? hengine))
  exact hserved.deliver engine turn.events

/-- So does the session of a peer. -/
theorem follows_callPeer (ht : h.Tidy) (hp : h.peers.lookup name = some p) (request : Request β)
    (source : Option Endpoint) : Follows h.stock (h.callPeer name p request source).1 := by
  let engine := p.session.family.value.engine
  have hengine := (ht.keeps.peers _ (mem_of_lookup hp)).sound.engine
  let turn := p.perform h.clock request source (h.engineState engine)
  let k : Host E := { h with peers := putNamed name turn.peer h.peers }.setEngine engine turn.state
  have hstock : k.stock = _ := congrArg (Stock.setEngine · engine turn.state)
    (stock_named_peer h name turn.peer)
  have hserved : Follows h.stock k := by
    refine ⟨?_, ht.sessions, nodup_putNamed ht.peers name turn.peer⟩
    rw [stock_of_peer ht hp, hstock]
    exact .one (.serves _ h.clock request (engines_getElem? hengine))
  exact hserved.deliver engine turn.events

/-! ## Steps -/

theorem sameSessions_forgetBridge (h : Host E) (name : String) :
    SameSessions h (h.forgetBridge name).1 := by
  rw [forgetBridge]
  split <;> exact ⟨rfl, rfl, rfl⟩

theorem sameSessions_withBridge (h : Host E) (name : String) (engine : Nat) (config : Config) :
    SameSessions h (h.withBridge name engine config) :=
  have hforgotten := sameSessions_forgetBridge (h.withRegistry engine config) name
  ⟨hforgotten.engines, hforgotten.sessions, hforgotten.peers⟩

/-- A new bridge concerns no session. -/
theorem sameSessions_addBridge {engine : Nat} {config : Config} {b : Bridge}
    (hadd : h.addBridge name engine config = .ok (b, h')) : SameSessions h h' := by
  cases hvalidate : config.validate with
  | error e =>
    rw [addBridge, hvalidate] at hadd
    cases hadd
  | ok =>
    rw [addBridge_of_validate hvalidate] at hadd
    cases hadd
    exact sameSessions_withBridge h name engine config

theorem sameSessions_looseFor (h : Host E) (name : String) :
    SameSessions h (h.looseFor name).2 := by
  rw [looseFor]
  split <;> exact ⟨rfl, rfl, rfl⟩

theorem sameSessions_withNamed {α : Type} {items : List (String × α)} {f : α → Host E × Answer β}
    (hf : ∀ a, SameSessions h (f a).1) : SameSessions h (h.withNamed items name f).1 := by
  rw [withNamed]
  split
  · exact hf _
  · exact ⟨rfl, rfl, rfl⟩

/-- **Bridges and registries are nothing to sessions.** -/
theorem sameSessions_act {step : Step β} (hstep : step.besideSessions = true) :
    SameSessions h (h.act step).1 := by
  cases step with
  | dropBridge name => exact sameSessions_forgetBridge h name
  | owns bridge name =>
    exact sameSessions_withNamed fun b => sameSessions_withNamed fun s => ⟨rfl, rfl, rfl⟩
  | removeKey bridge key => exact sameSessions_withNamed fun b => ⟨rfl, rfl, rfl⟩
  | hasKey bridge key => exact sameSessions_withNamed fun b => ⟨rfl, rfl, rfl⟩
  | keys bridge => exact sameSessions_withNamed fun b => ⟨rfl, rfl, rfl⟩
  | storeWord bridge key => exact sameSessions_withNamed fun b => ⟨rfl, rfl, rfl⟩
  | adopt bridge other =>
    refine sameSessions_withNamed fun b => sameSessions_withNamed fun o => ?_
    split <;> exact ⟨rfl, rfl, rfl⟩
  | family bridge =>
    refine sameSessions_withNamed fun b => ?_
    split <;> exact ⟨rfl, rfl, rfl⟩
  | setLog bridge loose handler =>
    refine sameSessions_withNamed fun b => ?_
    cases loose with
    | none => exact ⟨rfl, rfl, rfl⟩
    | some name =>
      have hloose := sameSessions_looseFor h name
      exact ⟨hloose.engines, hloose.sessions, hloose.peers⟩
  | clearLog place =>
    cases place with
    | bridge name => exact sameSessions_withNamed fun b => ⟨rfl, rfl, rfl⟩
    | loose name => exact sameSessions_withNamed fun id => ⟨rfl, rfl, rfl⟩
  | dropLoose name =>
    rw [act]
    show SameSessions h (h.dropLoose name).1
    rw [Host.dropLoose]
    split <;> exact ⟨rfl, rfl, rfl⟩
  | forward line => exact ⟨rfl, rfl, rfl⟩
  -- all other steps may concern sessions
  | _ => cases hstep

/-- Steps beside the sessions concern none. -/
theorem sameSessions_step (h : Host E) {step : Step β} (hstep : step.besideSessions = true) :
    SameSessions h (h.step step).1 :=
  have hsame : SameSessions { h with clock := h.clock + 1 } (h.step step).1 :=
    sameSessions_act hstep
  ⟨hsame.engines, hsame.sessions, hsame.peers⟩

/-- An engine may arrive when it is looked up. -/
theorem follows_engineFor (ht : h.Tidy) (name : String) :
    Follows h.stock (h.engineFor name).2 := by
  rw [engineFor]
  cases h.engineNames.lookup name with
  | some id => exact ht.follows
  | none => exact ⟨.one (.arrives h.engines h.stock.live), ht.sessions, ht.peers⟩

/-- Acting on something by its name leads to affairs if acting on it does. -/
theorem follows_withNamed {α : Type} (ht : h.Tidy) {items : List (String × α)}
    {f : α → Host E × Answer β} (hf : ∀ a, items.lookup name = some a → Follows h.stock (f a).1) :
    Follows h.stock (h.withNamed items name f).1 := by
  rw [withNamed]
  split
  next a ha => exact hf a ha
  · exact ht.follows

/-- **What a step is made of.** -/
theorem follows_act (ht : h.Tidy) (step : Step β) : Follows h.stock (h.act step).1 := by
  by_cases hstep : step.besideSessions = true
  · exact ht.follows.same (sameSessions_act hstep)
  -- the steps beside the sessions are done with, the others are gone through
  cases step with
  | addEngine name => exact ⟨.one (.arrives h.engines h.stock.live), ht.sessions, ht.peers⟩
  | addBridge name engine config =>
    have hengine := follows_engineFor ht engine
    rw [act]
    dsimp only
    split
    · exact hengine
    next b h' hadd => exact hengine.same (sameSessions_addBridge hadd)
  | addSession name bridge input =>
    refine follows_withNamed ht fun b hb => ?_
    obtain ⟨hrefused, hcreated⟩ := follows_createSession ht b input
    split
    next h' e heq => exact hrefused h' e heq
    next h' s heq =>
      obtain ⟨htidy, hleads⟩ := hcreated h' s heq
      exact .after hleads (follows_putSession htidy name s)
  | describe name => exact follows_withNamed ht fun s hs => ht.follows
  | call name request => exact follows_withNamed ht fun s hs => follows_call ht hs request
  | stats name =>
    rw [act]
    split
    · exact ht.follows
    · exact follows_withNamed ht fun p hp => ht.follows
  | close name =>
    have hdropped := follows_dropSession ht name
    rw [act]
    split <;> next h' heq => rwa [heq] at hdropped
  | wrapSession name session allowed endpoint =>
    refine follows_withNamed ht fun s hs => ?_
    have hwrapped := follows_wrapSession ht hs name allowed endpoint
    split <;> next heq => rwa [heq] at hwrapped
  | definePeer name bridge definition =>
    refine follows_withNamed ht fun b hb => ?_
    have hdefined := follows_definePeer ht name b definition
    split <;> next heq => rwa [heq] at hdefined
  | dropPeer name => exact follows_dropPeer ht name
  | unwrapPeer name session =>
    exact follows_withNamed ht fun p hp => follows_unwrapPeer ht hp session
  | setEndpoint name endpoint =>
    refine follows_withNamed ht fun p hp => ⟨?_, ht.sessions, nodup_putNamed ht.peers name _⟩
    rw [stock_named_peer, stock_of_peer ht hp]
    exact .refl _
  | admits name ip => exact follows_withNamed ht fun p hp => ht.follows
  | callPeer name request source =>
    exact follows_withNamed ht fun p hp => follows_callPeer ht hp request source
  | route name report output =>
    refine follows_withNamed ht fun p hp => ?_
    split <;> exact ht.follows
  | _ => exact absurd rfl hstep

/-- **Every step is made up of affairs.** -/
theorem follows_step (ht : h.Tidy) (step : Step β) : Follows h.stock (h.step step).1 := by
  have hlater : Tidy { h with clock := h.clock + 1 } :=
    ⟨ht.keeps.frame rfl rfl rfl rfl rfl, ht.sessions, ht.peers⟩
  exact follows_act hlater step

theorem Tidy.step (ht : h.Tidy) (step : Step β) : (h.step step).1.Tidy :=
  have hfollows := follows_step ht step
  ⟨keeps_step ht.keeps kept_true step, hfollows.sessions, hfollows.peers⟩

end Host

end TunnelHost
