import TunnelHost.Proofs.FamilySlots
import TunnelHost.Proofs.SessionAffairs

/-!
# Sessions and bridges that come into being

A session keeps its id and its family for as long as it lives, wherever it stands. New ones come by
two steps only, each with the next id and from the family that its bridge offers at that moment; a
new bridge takes the next context and holds a family of its own. Whatever fails takes no number.

- `Session.mark`, `Host.All`: what stays of a session, and what is true of all of them.
- `Host.births`, `Host.foundings`, `Host.news`: what a step brings into being, read off its answer.
- `Host.Tracks`: most steps bring nothing into being.
- `Host.Advances`, `Host.advances_step`: the steps that do, with the numbers they take.
-/

namespace TunnelHost

variable {β : Type} {E : Engine β}

/-- What stays of a session while it serves requests: its id, and the family it was created from. -/
def Session.mark (s : Session E) : Nat × Handle SessionFamily := (s.id, s.family)

/-- A session has come into being: the id that was told, the bridge that it was created by way of,
and the family that this bridge offered. -/
structure Birth where
  id : Nat
  bridge : Bridge
  family : Handle SessionFamily

/-- A bridge has come into being: the context that was told, and the family that it holds. -/
structure Founding where
  context : ContextId
  bridge : Bridge
  family : Handle SessionFamily

/-- The session that has come into being, as far as it stays. -/
def Birth.mark (x : Birth) : Nat × Handle SessionFamily := (x.id, x.family)

/-- What has come into being, in order: the ids and contexts that answers told of, and what they
stand for. -/
structure News where
  ids : List Nat := []
  births : List Birth := []
  contexts : List ContextId := []
  foundings : List Founding := []

/-- News, and what came later. -/
def News.append (news later : News) : News :=
  ⟨news.ids ++ later.ids, news.births ++ later.births, news.contexts ++ later.contexts,
    news.foundings ++ later.foundings⟩

/-- What there is to tell of one new bridge. -/
def Founding.news (g : Founding) : News := { contexts := [g.context], foundings := [g] }

/-- The ids of sessions that a step is told to have created. -/
def Step.toldIds : Step β → Answer β → List Nat
  | .addSession _ _ _, .session view => [view.id]
  | .definePeer _ _ _, .peer view _ _ => [view.id]
  | _, _ => []

/-- The contexts of bridges that a step is told to have created. -/
def Step.toldContexts : Step β → Answer β → List ContextId
  | .addBridge _ _ _, .bridge context _ _ _ => [context]
  | _, _ => []

namespace Host

variable {h h' h'' : Host E} {Q : Nat × Handle SessionFamily → Prop}

/-- A session stands under a name of its own, or in a peer. -/
def Live (h : Host E) (s : Session E) : Prop :=
  (∃ name, (name, s) ∈ h.sessions) ∨ ∃ name p, (name, p) ∈ h.peers ∧ p.session = s

/-- Something is true of all sessions. -/
structure All (Q : Nat × Handle SessionFamily → Prop) (h : Host E) : Prop where
  sessions : ∀ e ∈ h.sessions, Q e.2.mark
  peers : ∀ e ∈ h.peers, Q e.2.session.mark

theorem All.of_live {s : Session E} (ha : h.All Q) (hs : h.Live s) : Q s.mark := by
  rcases hs with ⟨name, hs⟩ | ⟨name, p, hp, rfl⟩
  · exact ha.sessions _ hs
  · exact ha.peers _ hp

theorem All.imp {P : Nat × Handle SessionFamily → Prop} (ha : h.All Q) (hP : ∀ m, Q m → P m) :
    h.All P :=
  ⟨fun e he => hP _ (ha.sessions e he), fun e he => hP _ (ha.peers e he)⟩

/-- A bridge stands under a name. -/
def HasBridge (h : Host E) (b : Bridge) : Prop := ∃ name, (name, b) ∈ h.bridges

/-- The bridge of a name with the family that it offers. -/
def origin (h : Host E) (bridge : String) : Option (Bridge × Handle SessionFamily) :=
  (h.bridges.lookup bridge).bind fun b => (h.family b).toOption.map fun f => (b, f)

/-- The sessions that a step brings into being, one if its answer tells of one. -/
def births (h : Host E) (s : Step β) : List Birth :=
  match s, (h.step s).2 with
  | .addSession _ bridge _, .session view =>
    (h.origin bridge).toList.map fun o => ⟨view.id, o.1, o.2⟩
  | .definePeer _ bridge _, .peer view _ _ =>
    (h.origin bridge).toList.map fun o => ⟨view.id, o.1, o.2⟩
  | _, _ => []

/-- The bridges that a step brings into being, one if its answer tells of one. -/
def foundings (h : Host E) (s : Step β) : List Founding :=
  match s, (h.step s).2 with
  | .addBridge name _ _, .bridge context _ _ _ =>
    ((h.step s).1.origin name).toList.map fun o => ⟨context, o.1, o.2⟩
  | _, _ => []

/-- What a step brings into being. -/
def news (h : Host E) (s : Step β) : News where
  ids := s.toldIds (h.step s).2
  births := h.births s
  contexts := s.toldContexts (h.step s).2
  foundings := h.foundings s

/-- A session comes from the bridge of the name, with the family that it offers then. -/
theorem origin_eq_some_iff {bridge : String} {b : Bridge} {f : Handle SessionFamily} :
    h.origin bridge = some (b, f) ↔ h.bridges.lookup bridge = some b ∧ h.family b = .ok f := by
  rw [origin, Option.bind_eq_some_iff]
  constructor
  · rintro ⟨b', hb, hf⟩
    cases hfamily : h.family b' with
    | error e =>
      rw [hfamily] at hf
      cases hf
    | ok f' =>
      rw [hfamily] at hf
      cases hf
      exact ⟨hb, hfamily⟩
  · rintro ⟨hb, hf⟩
    refine ⟨b, hb, ?_⟩
    rw [hf]
    rfl

/-! ## Steps that bring nothing into being -/

/-- Sessions and bridges stay what they are or go, and no number is taken. -/
structure Tracks (h h' : Host E) : Prop where
  all : ∀ Q : Nat × Handle SessionFamily → Prop, h.All Q → h'.All Q
  bridges : ∀ b, h'.HasBridge b → h.HasBridge b
  nextSession : h'.nextSession = h.nextSession
  nextContext : h'.nextContext = h.nextContext

theorem Tracks.refl (h : Host E) : Tracks h h := ⟨fun _ ha => ha, fun _ hb => hb, rfl, rfl⟩

theorem Tracks.trans (ht : Tracks h h') (ht' : Tracks h' h'') : Tracks h h'' where
  all := fun Q ha => ht'.all Q (ht.all Q ha)
  bridges := fun b hb => ht.bridges b (ht'.bridges b hb)
  nextSession := ht'.nextSession.trans ht.nextSession
  nextContext := ht'.nextContext.trans ht.nextContext

/-- Sessions, peers and bridges are left as they are. -/
theorem tracks_of_same (hsessions : h'.sessions = h.sessions) (hpeers : h'.peers = h.peers)
    (hbridges : h'.bridges = h.bridges) (hnext : h'.nextSession = h.nextSession)
    (hcontext : h'.nextContext = h.nextContext) : Tracks h h' where
  all := fun _ ha => ⟨hsessions ▸ ha.sessions, hpeers ▸ ha.peers⟩
  bridges := fun _ hb => by rwa [HasBridge, hbridges] at hb
  nextSession := hnext
  nextContext := hcontext

theorem tracks_withBoard (h : Host E) (board : Switchboard) : Tracks h { h with board := board } :=
  tracks_of_same rfl rfl rfl rfl rfl

theorem All.namedSession (ha : h.All Q) (name : String) {s : Session E} (hs : Q s.mark) :
    { h with sessions := putNamed name s h.sessions }.All Q :=
  ⟨forall_putNamed (R := fun s : Session E => Q s.mark) ha.sessions name hs, ha.peers⟩

theorem All.namedPeer (ha : h.All Q) (name : String) {p : Peer E} (hp : Q p.session.mark) :
    { h with peers := putNamed name p h.peers }.All Q :=
  ⟨ha.sessions, forall_putNamed (R := fun p : Peer E => Q p.session.mark) ha.peers name hp⟩

theorem tracks_withoutSession (h : Host E) (name : String) :
    Tracks h { h with sessions := dropNamed name h.sessions } :=
  ⟨fun Q ha => ⟨forall_dropNamed (R := fun s : Session E => Q s.mark) ha.sessions name, ha.peers⟩,
    fun _ hb => hb, rfl, rfl⟩

theorem tracks_withoutPeer (h : Host E) (name : String) :
    Tracks h { h with peers := dropNamed name h.peers } :=
  ⟨fun Q ha => ⟨ha.sessions,
    forall_dropNamed (R := fun p : Peer E => Q p.session.mark) ha.peers name⟩,
    fun _ hb => hb, rfl, rfl⟩

theorem tracks_setEngine (h : Host E) (id : Nat) (state : E.State) :
    Tracks h (h.setEngine id state) := tracks_of_same rfl rfl rfl rfl rfl

theorem tracks_deliver (h : Host E) (engine : Nat) (events : List Event) :
    Tracks h (h.deliver engine events) := by
  rw [deliver]
  split <;> exact tracks_of_same rfl rfl rfl rfl rfl

theorem tracks_engineFor (h : Host E) (name : String) : Tracks h (h.engineFor name).2 := by
  rw [engineFor]
  split <;> exact tracks_of_same rfl rfl rfl rfl rfl

/-- Forgetting a bridge leaves its sessions as they are. -/
theorem tracks_forgetBridge (h : Host E) (name : String) :
    Tracks h (h.forgetBridge name).1 := by
  rw [forgetBridge]
  split
  · exact .refl h
  · refine ⟨fun _ ha => ⟨ha.sessions, ha.peers⟩, ?_, rfl, rfl⟩
    rintro b ⟨other, hb⟩
    exact ⟨other, (List.mem_filter.mp hb).1⟩

theorem tracks_looseFor (h : Host E) (name : String) : Tracks h (h.looseFor name).2 := by
  rw [looseFor]
  split <;> exact tracks_of_same rfl rfl rfl rfl rfl

theorem tracks_dropLoose (h : Host E) (name : String) : Tracks h (h.dropLoose name).1 := by
  rw [dropLoose]
  split <;> exact tracks_of_same rfl rfl rfl rfl rfl

theorem tracks_dropSession (h : Host E) (name : String) : Tracks h (h.dropSession name).1 := by
  rw [dropSession]
  split
  · exact .refl h
  · exact (tracks_withoutSession h name).trans (tracks_setEngine _ _ _)

theorem tracks_dropPeer (h : Host E) (name : String) : Tracks h (h.dropPeer name).1 := by
  rw [dropPeer]
  split
  · exact .refl h
  · exact (tracks_withoutPeer h name).trans (tracks_setEngine _ _ _)

theorem All.putSession (ha : h.All Q) (name : String) {s : Session E} (hs : Q s.mark) :
    (h.putSession name s).All Q :=
  ((tracks_dropSession h name).all Q ha).namedSession name hs

theorem All.putPeer (ha : h.All Q) (name : String) {p : Peer E} (hp : Q p.session.mark) :
    (h.putPeer name p).All Q :=
  ((tracks_dropPeer h name).all Q ha).namedPeer name hp

/-- Acting on something by its name tracks if acting on it does. -/
theorem tracks_withNamed {α : Type} {items : List (String × α)} {name : String}
    {f : α → Host E × Answer β} (hf : ∀ a, items.lookup name = some a → Tracks h (f a).1) :
    Tracks h (h.withNamed items name f).1 := by
  rw [withNamed]
  split
  next a ha => exact hf a ha
  · exact .refl h

/-- A request leaves the id and the family of its session alone. -/
theorem tracks_call (h : Host E) {name : String} {s : Session E}
    (hs : h.sessions.lookup name = some s) (request : Request β) :
    Tracks h (h.call name s request).1 := by
  let turn := s.perform h.clock request (h.engineState s.family.value.engine)
  have hserved : Tracks h { h with sessions := putNamed name turn.session h.sessions } :=
    ⟨fun Q ha => ha.namedSession name (ha.sessions _ (mem_of_lookup hs)), fun _ hb => hb, rfl, rfl⟩
  exact (hserved.trans (tracks_setEngine _ _ _)).trans (tracks_deliver _ _ _)

theorem tracks_callPeer (h : Host E) {name : String} {p : Peer E}
    (hp : h.peers.lookup name = some p) (request : Request β) (source : Option Endpoint) :
    Tracks h (h.callPeer name p request source).1 := by
  let turn := p.perform h.clock request source (h.engineState p.session.family.value.engine)
  have hserved : Tracks h { h with peers := putNamed name turn.peer h.peers } :=
    ⟨fun Q ha => ha.namedPeer name (ha.peers _ (mem_of_lookup hp)), fun _ hb => hb, rfl, rfl⟩
  exact (hserved.trans (tracks_setEngine _ _ _)).trans (tracks_deliver _ _ _)

/-- A session that becomes that of a peer keeps its id and its family. -/
theorem tracks_wrapSession (h : Host E) {session : String} {s : Session E}
    (hs : h.sessions.lookup session = some s) (name allowed : String)
    (endpoint : Option Endpoint) :
    Tracks h (h.wrapSession session name allowed endpoint s).1 := by
  have hdropped := tracks_withoutSession h session
  rw [wrapSession]
  split
  · exact hdropped.trans (tracks_setEngine _ _ _)
  next networks _ =>
    have htracks := hdropped.trans (tracks_dropPeer _ name)
    exact ⟨fun Q ha => (hdropped.all Q ha).putPeer name (ha.sessions _ (mem_of_lookup hs)),
      htracks.bridges, htracks.nextSession, htracks.nextContext⟩

theorem tracks_unwrapPeer (h : Host E) {name : String} {p : Peer E}
    (hp : h.peers.lookup name = some p) (session : String) :
    Tracks h (h.unwrapPeer name session p) := by
  have hdropped := tracks_withoutPeer h name
  have htracks := hdropped.trans (tracks_dropSession _ session)
  exact ⟨fun Q ha => (hdropped.all Q ha).putSession session (ha.peers _ (mem_of_lookup hp)),
    htracks.bridges, htracks.nextSession, htracks.nextContext⟩

end Host

/-- Steps that may bring something into being. -/
def Step.creates : Step β → Bool
  | .addBridge _ _ _ => true
  | .addSession _ _ _ => true
  | .definePeer _ _ _ => true
  | _ => false

namespace Host

variable {h h' : Host E}

/-- A step that creates nothing tracks. -/
theorem tracks_act (h : Host E) {s : Step β} (hs : s.creates = false) :
    Tracks h (h.act s).1 := by
  -- the steps that create come first, and are ruled out
  cases s with
  | addBridge name engine config => cases hs
  | addSession name bridge input => cases hs
  | definePeer name bridge definition => cases hs
  | addEngine name => exact tracks_of_same rfl rfl rfl rfl rfl
  | dropBridge name => exact tracks_forgetBridge h name
  | describe name => exact tracks_withNamed fun s hs => .refl h
  | call name request => exact tracks_withNamed fun s hs => tracks_call h hs request
  | stats name =>
    rw [act]
    split
    · exact .refl h
    · exact tracks_withNamed fun p hp => .refl h
  | owns bridge name => exact tracks_withNamed fun b hb => tracks_withNamed fun s hs => .refl h
  | close name =>
    have hdropped := tracks_dropSession h name
    rw [act]
    split <;> next heq => rwa [heq] at hdropped
  | wrapSession name session allowed endpoint =>
    refine tracks_withNamed fun s hs => ?_
    have hwrapped := tracks_wrapSession h hs name allowed endpoint
    split <;> next heq => rwa [heq] at hwrapped
  | dropPeer name => exact tracks_dropPeer h name
  | unwrapPeer name session => exact tracks_withNamed fun p hp => tracks_unwrapPeer h hp session
  | setEndpoint name endpoint =>
    refine tracks_withNamed fun p hp => ⟨fun Q ha => ?_, fun _ hb => hb, rfl, rfl⟩
    exact ha.namedPeer name (p := p.setEndpoint endpoint) (ha.peers _ (mem_of_lookup hp))
  | admits name ip => exact tracks_withNamed fun p hp => .refl h
  | callPeer name request source =>
    exact tracks_withNamed fun p hp => tracks_callPeer h hp request source
  | route name report output =>
    refine tracks_withNamed fun p hp => ?_
    split <;> exact .refl h
  | removeKey bridge key => exact tracks_withNamed fun b hb => tracks_of_same rfl rfl rfl rfl rfl
  | hasKey bridge key => exact tracks_withNamed fun b hb => .refl h
  | keys bridge => exact tracks_withNamed fun b hb => .refl h
  | storeWord bridge key => exact tracks_withNamed fun b hb => tracks_of_same rfl rfl rfl rfl rfl
  | adopt bridge other =>
    refine tracks_withNamed fun b hb => tracks_withNamed fun o ho => ?_
    split <;> exact tracks_of_same rfl rfl rfl rfl rfl
  | family bridge =>
    refine tracks_withNamed fun b hb => ?_
    split <;> exact .refl h
  | setLog bridge loose x =>
    refine tracks_withNamed fun b hb => ?_
    cases loose with
    | none => exact tracks_of_same rfl rfl rfl rfl rfl
    | some name => exact (tracks_looseFor h name).trans (tracks_of_same rfl rfl rfl rfl rfl)
  | clearLog place =>
    cases place with
    | bridge name => exact tracks_withNamed fun b hb => tracks_of_same rfl rfl rfl rfl rfl
    | loose name => exact tracks_withNamed fun id hid => tracks_of_same rfl rfl rfl rfl rfl
  | dropLoose name => exact tracks_dropLoose h name
  | forward line => exact tracks_of_same rfl rfl rfl rfl rfl

/-- **Steps that create nothing track sessions and bridges.** -/
theorem tracks_step (h : Host E) {s : Step β} (hs : s.creates = false) :
    Tracks h (h.step s).1 := by
  have hclock : Tracks h { h with clock := h.clock + 1 } := tracks_of_same rfl rfl rfl rfl rfl
  exact hclock.trans (tracks_act _ hs)

/-! ## What a step brings into being -/

/-- A bridge is new: its registry and its family have numbers that nothing had before, and its
registry holds its family. -/
structure Founded (h h' : Host E) (g : Founding) : Prop where
  context : g.bridge.context = g.context
  registry : g.bridge.registry = h.board.nextRegistry
  serial : g.family.serial = h.board.nextSerial
  nextRegistry : h.board.nextRegistry < h'.board.nextRegistry
  nextSerial : h.board.nextSerial < h'.board.nextSerial
  holds : h'.board.slot g.bridge.registry = some ⟨g.family.serial, .family g.family.value⟩

/-- Sessions and bridges stay what they are or go, and new ones come: sessions with the next ids,
each from the family that its bridge offers, and bridges with the next contexts. -/
structure Advances (h h' : Host E) (news : News) : Prop where
  all : ∀ Q : Nat × Handle SessionFamily → Prop, h.All Q → (∀ x ∈ news.births, Q x.mark) →
    h'.All Q
  ids : news.ids = List.range' h.nextSession news.ids.length
  nextSession : h'.nextSession = h.nextSession + news.ids.length
  births : news.births.map (·.id) = news.ids
  offered : ∀ x ∈ news.births, h.HasBridge x.bridge ∧ h.family x.bridge = .ok x.family
  bridges : ∀ b, h'.HasBridge b → h.HasBridge b ∨ ∃ g ∈ news.foundings, g.bridge = b
  contexts : news.contexts.map (·.number) = List.range' h.nextContext news.contexts.length
  nextContext : h'.nextContext = h.nextContext + news.contexts.length
  foundings : news.foundings.map (·.context) = news.contexts
  founded : ∀ g ∈ news.foundings, Founded h h' g

/-- Where nothing comes into being there is no news. -/
theorem Tracks.advances (ht : Tracks h h') : Advances h h' {} where
  all := fun Q ha _ => ht.all Q ha
  ids := rfl
  nextSession := ht.nextSession
  births := rfl
  offered := nofun
  bridges := fun b hb => .inl (ht.bridges b hb)
  contexts := rfl
  nextContext := ht.nextContext
  foundings := rfl
  founded := nofun

/-! ## Sessions -/

/-- An attempt that fails takes no id. -/
theorem tracks_createSession {b : Bridge} {input : SessionInput} {e : HostError}
    (heq : h.createSession b input = (h', .error e)) : Tracks h h' := by
  have hcreates := createSession_eq_iff.mp heq
  cases hcreates with
  | absent => exact .refl h
  | foreign => exact .refl h
  | invalid => exact .refl h
  | refused family hfamily hchecks a ha state hengine => exact tracks_setEngine h _ state

/-- An attempt that succeeds takes the next id. Nobody has the session yet. -/
theorem createSession_born {b : Bridge} {input : SessionInput} {s : Session E}
    (heq : h.createSession b input = (h', .ok s)) :
    s.id = h.nextSession ∧ h.family b = .ok s.family
      ∧ Tracks { h with nextSession := h.nextSession + 1 } h' := by
  have hcreates := createSession_eq_iff.mp heq
  cases hcreates with
  | created family hfamily hchecks a ha state tunnel hengine =>
    exact ⟨rfl, family_of_offers hfamily, tracks_of_same rfl rfl rfl rfl rfl⟩

/-- A session that has been created by way of a bridge is put somewhere. -/
theorem advances_one {b : Bridge} {s : Session E} (hb : h.HasBridge b)
    (hid : s.id = h.nextSession) (hfamily : h.family b = .ok s.family)
    (hnext : h'.nextSession = h.nextSession + 1) (hcontext : h'.nextContext = h.nextContext)
    (hbridges : ∀ b, h'.HasBridge b → h.HasBridge b)
    (hall : ∀ Q : Nat × Handle SessionFamily → Prop, h.All Q → Q s.mark → h'.All Q) :
    Advances h h' ⟨[s.id], [⟨s.id, b, s.family⟩], [], []⟩ where
  all := fun Q ha hQ => hall Q ha (hQ _ List.mem_cons_self)
  ids := congrArg (fun id => [id]) hid
  nextSession := hnext
  births := rfl
  offered := by
    intro x hx
    rw [List.mem_singleton.mp hx]
    exact ⟨hb, hfamily⟩
  bridges := fun b hb => .inl (hbridges b hb)
  contexts := rfl
  nextContext := hcontext
  foundings := rfl
  founded := nofun

/-- A creation tells of the session that it makes, if it makes one. -/
theorem advances_addSession (h : Host E) (name bridge : String) (input : SessionInput) :
    Advances h (h.step (.addSession name bridge input)).1
      (h.news (.addSession name bridge input)) := by
  have hclock : Tracks h { h with clock := h.clock + 1 } := tracks_of_same rfl rfl rfl rfl rfl
  simp only [news, births, foundings, Step.toldContexts, step, act, withNamed]
  cases hb : h.bridges.lookup bridge with
  | none => exact hclock.advances
  | some b =>
    dsimp only
    cases heq : createSession { h with clock := h.clock + 1 } b input with
    | mk h₁ result =>
      cases result with
      | error e => exact (hclock.trans (tracks_createSession heq)).advances
      | ok s =>
        obtain ⟨hid, hfamily, hcreated⟩ := createSession_born heq
        have horigin : h.origin bridge = some (b, s.family) := origin_eq_some_iff.mpr ⟨hb, hfamily⟩
        -- the session is created first, and then takes the place of the old one of its name
        have hput := hcreated.trans (tracks_dropSession h₁ name)
        dsimp only
        rw [horigin]
        refine advances_one ⟨bridge, mem_of_lookup hb⟩ hid hfamily hput.nextSession
          hput.nextContext hput.bridges ?_
        exact fun Q ha hQ => (hcreated.all Q ⟨ha.sessions, ha.peers⟩).putSession name hQ

/-- So does the definition of a peer. -/
theorem advances_definePeer (h : Host E) (name bridge : String) (definition : PeerDefinition) :
    Advances h (h.step (.definePeer name bridge definition)).1
      (h.news (.definePeer name bridge definition)) := by
  have hclock : Tracks h { h with clock := h.clock + 1 } := tracks_of_same rfl rfl rfl rfl rfl
  simp only [news, births, foundings, Step.toldContexts, step, act, withNamed]
  cases hb : h.bridges.lookup bridge with
  | none => exact hclock.advances
  | some b =>
    dsimp only [definePeer]
    cases AllowedList.ofText definition.allowed with
    | error breach => exact hclock.advances
    | ok networks =>
      dsimp only
      -- what the session is created from does not matter here
      generalize Peer.inputOf definition _ = input
      cases heq : createSession { h with clock := h.clock + 1 } b input with
      | mk h₁ result =>
        cases result with
        | error e => exact (hclock.trans (tracks_createSession heq)).advances
        | ok s =>
          obtain ⟨hid, hfamily, hcreated⟩ := createSession_born heq
          have horigin : h.origin bridge = some (b, s.family) :=
            origin_eq_some_iff.mpr ⟨hb, hfamily⟩
          have hput := hcreated.trans (tracks_dropPeer h₁ name)
          dsimp only
          rw [horigin]
          refine advances_one ⟨bridge, mem_of_lookup hb⟩ hid hfamily hput.nextSession
            hput.nextContext hput.bridges ?_
          exact fun Q ha hQ => (hcreated.all Q ⟨ha.sessions, ha.peers⟩).putPeer name hQ

/-! ## Bridges -/

/-- The registry of a new bridge holds the family that was made for it. A bridge that makes way
takes its own registry along. -/
theorem slot_withBridge (ho : h.Owned) (hd : h.board.Distinct) (name : String) (engine : Nat)
    (config : Config) :
    (h.withBridge name engine config).board.slot h.board.nextRegistry
      = some ⟨h.board.nextSerial, .family ⟨engine, config⟩⟩ := by
  have hnew : h.board.nextRegistry ∈ (h.withRegistry engine config).board.ids := by
    rw [ids_withRegistry]
    exact List.mem_append_right _ List.mem_cons_self
  have hstored : (h.withRegistry engine config).board.slot h.board.nextRegistry
      = some ⟨h.board.nextSerial, .family ⟨engine, config⟩⟩ := Switchboard.slot_put_self hnew
  have hbridges : (h.withRegistry engine config).bridges = h.bridges := rfl
  rw [withBridge, forgetBridge, hbridges]
  cases hb : h.bridges.lookup name with
  | none => exact hstored
  | some b =>
    have howner : b.registry ∈ h.owners :=
      List.mem_append_left _ (List.mem_map.mpr ⟨(name, b), mem_of_lookup hb, rfl⟩)
    -- the registry that goes is the one of the old bridge, which is another
    have hdrop : Motion.drop b.registry ≠ .drop h.board.nextRegistry := by
      intro heq
      rw [Motion.drop.inj heq] at howner
      exact not_mem_owners ho hd howner
    have hkept := Switchboard.slot_move_of_untouched (b := (h.withRegistry engine config).board)
      (m := .drop b.registry) (r := h.board.nextRegistry) id hdrop
    exact hkept.trans hstored

/-- A new bridge holds a family with a number of its own, in a registry of its own. -/
theorem founded_withBridge (ho : h.Owned) (hd : h.board.Distinct) (name : String) (engine : Nat)
    (config : Config) :
    Founded h (h.withBridge name engine config)
      ⟨⟨h.nextContext⟩, ⟨engine, h.board.nextRegistry, ⟨h.nextContext⟩⟩,
        ⟨h.board.nextSerial, ⟨engine, config⟩⟩⟩ := by
  have hnumbers : (h.withBridge name engine config).board.nextRegistry = h.board.nextRegistry + 1
      ∧ (h.withBridge name engine config).board.nextSerial = h.board.nextSerial + 1 := by
    rw [withBridge, forgetBridge]
    split <;> exact ⟨rfl, rfl⟩
  refine ⟨rfl, rfl, rfl, ?_, ?_, slot_withBridge ho hd name engine config⟩
  · rw [hnumbers.1]
    exact Nat.lt_succ_self _
  · rw [hnumbers.2]
    exact Nat.lt_succ_self _

/-- A new bridge is all that comes into being with it. -/
theorem advances_withBridge (ho : h.Owned) (hd : h.board.Distinct) (name : String) (engine : Nat)
    (config : Config) :
    Advances h (h.withBridge name engine config)
      (Founding.news ⟨⟨h.nextContext⟩, ⟨engine, h.board.nextRegistry, ⟨h.nextContext⟩⟩,
        ⟨h.board.nextSerial, ⟨engine, config⟩⟩⟩) := by
  have hforgotten := tracks_forgetBridge (h.withRegistry engine config) name
  refine ⟨fun Q ha _ => ?_, rfl, hforgotten.nextSession, rfl, nofun, ?_, rfl,
    hforgotten.nextContext, rfl, ?_⟩
  · have hkept := hforgotten.all Q ⟨ha.sessions, ha.peers⟩
    exact ⟨hkept.sessions, hkept.peers⟩
  · rintro b ⟨other, hb⟩
    rcases List.mem_cons.mp hb with heq | hb
    · cases heq
      exact .inr ⟨_, List.mem_cons_self, rfl⟩
    · exact .inl (hforgotten.bridges b ⟨other, (List.mem_filter.mp hb).1⟩)
  · intro g hg
    rw [List.mem_singleton.mp hg]
    exact founded_withBridge ho hd name engine config

/-- A bridge is founded if its configuration passes the check, and otherwise there is none. -/
theorem news_of_addBridge (ho : h.Owned) (hd : h.board.Distinct) (name engine : String)
    (config : Config) :
    (∃ e, config.validate = .error e ∧ h.news (.addBridge name engine config) = {}
        ∧ Tracks h (h.step (.addBridge name engine config)).1)
      ∨ ∃ g : Founding, config.validate = .ok () ∧ h.news (.addBridge name engine config) = g.news
        ∧ Advances h (h.step (.addBridge name engine config)).1 g.news := by
  have hclock : Tracks h { h with clock := h.clock + 1 } := tracks_of_same rfl rfl rfl rfl rfl
  have hengine := hclock.trans (tracks_engineFor _ engine)
  have hadvanced : SameLog h { h with clock := h.clock + 1 } := ⟨rfl, rfl, rfl⟩
  have hlog := hadvanced.trans (sameLog_engineFor { h with clock := h.clock + 1 } engine)
  simp only [news, births, foundings, Step.toldIds, step, act]
  -- the engine may be a new one, which no bridge or session is about
  generalize engineFor { h with clock := h.clock + 1 } engine = found at hengine hlog
  obtain ⟨id, h₁⟩ := found
  cases hvalidate : config.validate with
  | error e =>
    rw [addBridge_of_error hvalidate]
    exact .inl ⟨e, rfl, rfl, hengine⟩
  | ok u =>
    have hd₁ : h₁.board.Distinct := hlog.board ▸ hd
    have ho₁ := ho.sameLog hlog
    have hadded := advances_withBridge ho₁ hd₁ name id config
    have horigin : (h₁.withBridge name id config).origin name
        = some (⟨id, h₁.board.nextRegistry, ⟨h₁.nextContext⟩⟩,
            ⟨h₁.board.nextSerial, ⟨id, config⟩⟩) := by
      refine origin_eq_some_iff.mpr ⟨lookup_putNamed name _ _, ?_⟩
      exact family_eq_ok_iff_slot.mpr (slot_withBridge ho₁ hd₁ name id config)
    rw [addBridge_of_validate hvalidate]
    dsimp only
    rw [horigin]
    refine .inr ⟨_, rfl, rfl, fun Q ha hQ => hadded.all Q (hengine.all Q ha) hQ, rfl,
      hadded.nextSession.trans hengine.nextSession, rfl,
      fun x hx => absurd hx List.not_mem_nil, fun b hb => ?_, ?_,
      hadded.nextContext.trans (congrArg (· + 1) hengine.nextContext), rfl, ?_⟩
    · exact (hadded.bridges b hb).imp_left (hengine.bridges b)
    · exact congrArg (fun n => [n]) hengine.nextContext
    · intro g hg
      have hg' := hadded.founded g hg
      exact ⟨hg'.context, hlog.board ▸ hg'.registry, hlog.board ▸ hg'.serial,
        hlog.board ▸ hg'.nextRegistry, hlog.board ▸ hg'.nextSerial, hg'.holds⟩

/-- A step brings at most one bridge into being. -/
theorem foundings_cases (ho : h.Owned) (hd : h.board.Distinct) (s : Step β) :
    h.foundings s = [] ∨ ∃ g, h.foundings s = [g] := by
  cases s with
  | addBridge name engine config =>
    rcases news_of_addBridge ho hd name engine config with ⟨e, -, hnews, -⟩ | ⟨g, -, hnews, -⟩
    · exact .inl (congrArg News.foundings hnews)
    · exact .inr ⟨g, congrArg News.foundings hnews⟩
  | _ => exact .inl rfl

/-- **Sessions and bridges come with the next numbers**, and nothing else takes one. -/
theorem advances_step (ho : h.Owned) (hd : h.board.Distinct) (s : Step β) :
    Advances h (h.step s).1 (h.news s) := by
  -- three kinds of step bring something new, and of the others one lemma speaks
  by_cases hs : s.creates = false
  · have hnews : h.news s = {} := by
      cases s <;> first | rfl | cases hs
    rw [hnews]
    exact (tracks_step h hs).advances
  cases s with
  | addBridge name engine config =>
    rcases news_of_addBridge ho hd name engine config with
      ⟨e, -, hnews, htracks⟩ | ⟨g, -, hnews, hadvances⟩
    · rw [hnews]
      exact htracks.advances
    · rw [hnews]
      exact hadvances
  | addSession name bridge input => exact advances_addSession h name bridge input
  | definePeer name bridge definition => exact advances_definePeer h name bridge definition
  | _ => exact absurd rfl hs

end Host

end TunnelHost
