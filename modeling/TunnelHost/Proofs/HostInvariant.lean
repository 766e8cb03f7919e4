import TunnelHost.Proofs.RegistryContents
import TunnelHost.Proofs.Results
import TunnelHost.Proofs.SessionCreation

/-!
# What is true of all sessions of a host

A host comes to its sessions in two ways only: they are created, from a family whose configuration
was checked when its bridge was added, and they serve requests. Names, registries, peers and
logging only move them around. So what is true of new sessions and kept by requests is true of
every session that a host ever has, on its own or in a peer, with any engine.

- `SessionFamily.Sound`: the configuration was checked, and the engine is there.
- `Session.Kept`: true of new sessions, and kept by requests.
- `Host.Keeps`: the invariant of hosts; one lemma for each of their operations.
- `Host.keeps_act`, `Host.keeps_run`: one step, and many.
- `Host.after`, `Host.keeps_after`: every host that steps lead to.
-/

namespace TunnelHost

/-- A family whose configuration was checked, over one of so many engines. -/
structure SessionFamily.Sound (engines : Nat) (f : SessionFamily) : Prop where
  checked : f.config.check = .ok ()
  engine : f.engine < engines

theorem SessionFamily.Sound.mono {m n : Nat} {f : SessionFamily} (h : f.Sound m) (hmn : m ≤ n) :
    f.Sound n :=
  ⟨h.checked, Nat.lt_of_lt_of_le h.engine hmn⟩

/-- Only sound families are stored. Anything else may be. -/
def Content.Sound (engines : Nat) : Content → Prop
  | .family f => f.Sound engines
  | .handler _ => True
  | .word _ => True

theorem Content.Sound.mono {m n : Nat} {c : Content} (h : c.Sound m) (hmn : m ≤ n) : c.Sound n := by
  cases c with
  | family f => exact SessionFamily.Sound.mono h hmn
  | handler x => exact trivial
  | word n => exact trivial

theorem Config.validate_eq_ok_iff {c : Config} : c.validate = .ok () ↔ c.check = .ok () := by
  unfold validate
  exact mapError_eq_ok_iff

namespace Session

variable {β : Type} {E : Engine β}

/-- Something is true of new sessions and kept by requests, with configurations that were checked.
-/
structure Kept (P : Session E → Prop) : Prop where
  create : ∀ (id : Nat) (family : Handle SessionFamily) (a : TunnelArguments)
    (state state' : E.State) (tunnel : E.Handle), family.value.config.check = .ok () →
      E.create a state = (state', some tunnel) →
      P { id, arguments := a, family, tunnel, output := .zeroed E.zero _ }
  perform : ∀ (s : Session E) (moment : Nat) (request : Request β) (state : E.State),
    s.family.value.config.check = .ok () → P s → P (s.perform moment request state).session

/-- A session of a sound family, of which something is true. -/
structure Holds (P : Session E → Prop) (engines : Nat) (s : Session E) : Prop where
  sound : s.family.value.Sound engines
  holds : P s

theorem Holds.mono {P : Session E → Prop} {m n : Nat} {s : Session E} (h : s.Holds P m)
    (hmn : m ≤ n) : s.Holds P n :=
  ⟨h.sound.mono hmn, h.holds⟩

/-- A request keeps what is kept by requests, and leaves the family as it is. -/
theorem Holds.perform {P : Session E → Prop} {n : Nat} {s : Session E} (h : s.Holds P n)
    (hP : Kept P) (moment : Nat) (request : Request β) (state : E.State) :
    (s.perform moment request state).session.Holds P n :=
  ⟨h.sound, hP.perform s moment request state h.sound.checked h.holds⟩

end Session

/-! ## Things by name -/

section Named

variable {α : Type} {R : α → Prop} {items : List (String × α)}

theorem forall_dropNamed (h : ∀ e ∈ items, R e.2) (name : String) :
    ∀ e ∈ dropNamed name items, R e.2 := by
  intro e he
  exact h e (List.mem_filter.mp he).1

theorem forall_putNamed (h : ∀ e ∈ items, R e.2) (name : String) {a : α} (ha : R a) :
    ∀ e ∈ putNamed name a items, R e.2 := by
  intro e he
  rcases List.mem_cons.mp he with rfl | he
  · exact ha
  · exact forall_dropNamed h name e he

end Named

namespace Host

variable {β : Type} {E : Engine β} {P : Session E → Prop} {h : Host E}

/-- The invariant of hosts. -/
structure Keeps (P : Session E → Prop) (h : Host E) : Prop where
  names : ∀ e ∈ h.engineNames, e.2 < h.engines.length
  stored : h.board.Holds (Content.Sound h.engines.length)
  sessions : ∀ e ∈ h.sessions, e.2.Holds P h.engines.length
  peers : ∀ e ∈ h.peers, e.2.session.Holds P h.engines.length

theorem keeps_empty : ({} : Host E).Keeps P := by
  refine ⟨?_, ?_, ?_, ?_⟩ <;> · intro e he; cases he

/-- Nothing else matters: bridges, loose registries, sinks, ids and the clock may change. -/
theorem Keeps.frame {h' : Host E} (hk : h.Keeps P) (hengines : h'.engines = h.engines)
    (hnames : h'.engineNames = h.engineNames) (hboard : h'.board = h.board)
    (hsessions : h'.sessions = h.sessions) (hpeers : h'.peers = h.peers) : h'.Keeps P where
  names := by
    rw [hnames, hengines]
    exact hk.names
  stored := by
    rw [hboard, hengines]
    exact hk.stored
  sessions := by
    rw [hsessions, hengines]
    exact hk.sessions
  peers := by
    rw [hpeers, hengines]
    exact hk.peers

/-! ## Boards and engines -/

/-- A board of sound content may take the place of the board. -/
theorem Keeps.withBoard (hk : h.Keeps P) {board : Switchboard}
    (hboard : board.Holds (Content.Sound h.engines.length)) : { h with board }.Keeps P where
  names := hk.names
  stored := hboard
  sessions := hk.sessions
  peers := hk.peers

theorem Keeps.setEngine (hk : h.Keeps P) (id : Nat) (state : E.State) :
    (h.setEngine id state).Keeps P := by
  have hlength : (h.setEngine id state).engines.length = h.engines.length := List.length_set
  refine ⟨?_, ?_, ?_, ?_⟩
  all_goals rw [hlength]
  · exact hk.names
  · exact hk.stored
  · exact hk.sessions
  · exact hk.peers

/-- Another engine makes no family less sound. -/
theorem Keeps.addEngine (hk : h.Keeps P) (name : String) : (h.addEngine name).2.Keeps P := by
  have hlength : (h.addEngine name).2.engines.length = h.engines.length + 1 := by
    simp [Host.addEngine]
  -- the numbers of the engines that were there stay good
  have hle : h.engines.length ≤ h.engines.length + 1 := Nat.le_succ _
  refine ⟨?_, ?_, ?_, ?_⟩
  all_goals rw [hlength]
  · exact forall_putNamed (R := (· < h.engines.length + 1))
      (fun e he => Nat.lt_of_lt_of_le (hk.names e he) hle) name (Nat.lt_succ_self _)
  · exact hk.stored.mono fun c hc => hc.mono hle
  · exact fun e he => (hk.sessions e he).mono hle
  · exact fun e he => (hk.peers e he).mono hle

/-- The engine of a name is there. -/
theorem Keeps.engineFor (hk : h.Keeps P) (name : String) :
    (h.engineFor name).2.Keeps P
      ∧ (h.engineFor name).1 < (h.engineFor name).2.engines.length := by
  unfold Host.engineFor
  cases hlookup : h.engineNames.lookup name with
  | some id => exact ⟨hk, hk.names _ (mem_of_lookup hlookup)⟩
  | none =>
    refine ⟨hk.addEngine name, ?_⟩
    show h.engines.length < (h.engines ++ [E.initial]).length
    simp

theorem Keeps.deliver (hk : h.Keeps P) (engine : Nat) (events : List Event) :
    (h.deliver engine events).Keeps P := by
  unfold Host.deliver
  split
  · exact hk.withBoard (Switchboard.holds_forwardAll (fun _ => trivial) hk.stored _)
  · exact hk

/-! ## Bridges -/

theorem Keeps.forgetBridge (hk : h.Keeps P) (name : String) : (h.forgetBridge name).1.Keeps P := by
  unfold Host.forgetBridge
  split
  · exact hk
  next b hb =>
    have hboard := hk.withBoard (Switchboard.holds_dropRegistry hk.stored b.registry)
    exact hboard.frame rfl rfl rfl rfl rfl

/-- The configuration is checked, so the family that is stored is sound. -/
theorem Keeps.addBridge (hk : h.Keeps P) {name : String} {engine : Nat} {config : Config}
    {b : Bridge} {h' : Host E} (hengine : engine < h.engines.length)
    (hadd : h.addBridge name engine config = .ok (b, h')) : h'.Keeps P := by
  unfold Host.addBridge at hadd
  cases hvalidate : config.validate with
  | error e =>
    -- no bridge without a checked configuration
    rw [hvalidate] at hadd
    cases hadd
  | ok =>
    have hsound : SessionFamily.Sound h.engines.length ⟨engine, config⟩ :=
      ⟨Config.validate_eq_ok_iff.mp hvalidate, hengine⟩
    rw [hvalidate] at hadd
    cases hadd
    have hboard := hk.withBoard
      (Switchboard.holds_store (Switchboard.holds_addRegistry hk.stored) h.board.nextRegistry
        familyKey (c := .family ⟨engine, config⟩) hsound ⟨h.nextContext⟩)
    have hcontext : Keeps P { h with
        board := h.board.addRegistry.2.store h.board.nextRegistry familyKey
          (.family ⟨engine, config⟩) ⟨h.nextContext⟩
        nextContext := h.nextContext + 1 } := hboard.frame rfl rfl rfl rfl rfl
    exact (hcontext.forgetBridge name).frame rfl rfl rfl rfl rfl

/-- The registry of a bridge holds sound families only. -/
theorem Keeps.registryOf (hk : h.Keeps P) (b : Bridge) :
    (h.registryOf b).Holds (Content.Sound h.engines.length) := by
  unfold Host.registryOf
  cases hregistry : h.board.registry? b.registry with
  | none => exact Registry.holds_empty
  | some r => exact hk.stored.of_registry? hregistry

/-- A family that a bridge offers is sound. -/
theorem Keeps.sound_of_offers (hk : h.Keeps P) {b : Bridge} {family : Handle SessionFamily}
    (hoffers : h.Offers b family) : family.value.Sound h.engines.length := by
  obtain ⟨context, hfind⟩ := hoffers
  exact (hk.registryOf b).of_find? hfind

/-! ## Sessions -/

theorem Keeps.putSession_named (hk : h.Keeps P) (name : String) {s : Session E}
    (hs : s.Holds P h.engines.length) :
    { h with sessions := putNamed name s h.sessions }.Keeps P where
  names := hk.names
  stored := hk.stored
  sessions := forall_putNamed (R := Session.Holds P h.engines.length) hk.sessions name hs
  peers := hk.peers

theorem Keeps.dropSession_named (hk : h.Keeps P) (name : String) :
    { h with sessions := dropNamed name h.sessions }.Keeps P where
  names := hk.names
  stored := hk.stored
  sessions := forall_dropNamed (R := Session.Holds P h.engines.length) hk.sessions name
  peers := hk.peers

theorem Keeps.release (hk : h.Keeps P) (s : Session E) : (h.release s).Keeps P :=
  hk.setEngine _ _

theorem Keeps.dropSession (hk : h.Keeps P) (name : String) : (h.dropSession name).1.Keeps P := by
  unfold Host.dropSession
  split
  · exact hk
  · exact (hk.dropSession_named name).release _

@[simp] theorem length_engines_setEngine (h : Host E) (id : Nat) (state : E.State) :
    (h.setEngine id state).engines.length = h.engines.length := List.length_set

@[simp] theorem length_engines_release (h : Host E) (s : Session E) :
    (h.release s).engines.length = h.engines.length := List.length_set

@[simp] theorem length_engines_dropSession (h : Host E) (name : String) :
    (h.dropSession name).1.engines.length = h.engines.length := by
  unfold Host.dropSession
  split
  · rfl
  · exact length_engines_release _ _

@[simp] theorem length_engines_dropPeer (h : Host E) (name : String) :
    (h.dropPeer name).1.engines.length = h.engines.length := by
  unfold Host.dropPeer
  split
  · rfl
  · exact length_engines_release _ _

theorem Keeps.putSession (hk : h.Keeps P) (name : String) {s : Session E}
    (hs : s.Holds P h.engines.length) : (h.putSession name s).Keeps P := by
  refine (hk.dropSession name).putSession_named name ?_
  rw [length_engines_dropSession]
  exact hs

/-- An attempt to create a session keeps the invariant, and what it creates satisfies it. -/
theorem Keeps.createSession (hk : h.Keeps P) (hP : Session.Kept P) (b : Bridge)
    (input : SessionInput) :
    (h.createSession b input).1.Keeps P
      ∧ ∀ s, (h.createSession b input).2 = .ok s →
          s.Holds P (h.createSession b input).1.engines.length := by
  have hcreates : Creates h b input (h.createSession b input).1 (h.createSession b input).2 :=
    createSession_eq_iff.mp rfl
  generalize (h.createSession b input).1 = h' at hcreates
  generalize (h.createSession b input).2 = result at hcreates
  cases hcreates with
  | absent => exact ⟨hk, nofun⟩
  | foreign => exact ⟨hk, nofun⟩
  | invalid => exact ⟨hk, nofun⟩
  | refused family hfamily hchecks a ha state hengine => exact ⟨hk.setEngine _ _, nofun⟩
  | created family hfamily hchecks a ha state tunnel hengine =>
    -- the family was found in a registry, so its configuration was checked
    refine ⟨(hk.setEngine _ state).frame rfl rfl rfl rfl rfl, ?_⟩
    intro s hs
    cases hs
    have hsound : family.value.Sound h.engines.length := hk.sound_of_offers hfamily
    show Session.Holds P (h.setEngine _ state).engines.length _
    rw [length_engines_setEngine]
    exact ⟨hsound, hP.create _ family a _ state tunnel hsound.checked hengine⟩

/-- A request changes one session, the state of its engine, and what handlers are told. -/
theorem Keeps.call (hk : h.Keeps P) (hP : Session.Kept P) (name : String) {s : Session E}
    (hs : s.Holds P h.engines.length) (request : Request β) :
    (h.call name s request).1.Keeps P := by
  have hturn := hs.perform hP h.clock request (h.engineState s.family.value.engine)
  exact ((hk.putSession_named name hturn).setEngine _ _).deliver _ _

/-! ## Peers -/

theorem Keeps.putPeer_named (hk : h.Keeps P) (name : String) {p : Peer E}
    (hp : p.session.Holds P h.engines.length) :
    { h with peers := putNamed name p h.peers }.Keeps P where
  names := hk.names
  stored := hk.stored
  sessions := hk.sessions
  peers := forall_putNamed (R := fun p : Peer E => p.session.Holds P h.engines.length)
    hk.peers name hp

theorem Keeps.dropPeer_named (hk : h.Keeps P) (name : String) :
    { h with peers := dropNamed name h.peers }.Keeps P where
  names := hk.names
  stored := hk.stored
  sessions := hk.sessions
  peers := forall_dropNamed (R := fun p : Peer E => p.session.Holds P h.engines.length)
    hk.peers name

theorem Keeps.dropPeer (hk : h.Keeps P) (name : String) : (h.dropPeer name).1.Keeps P := by
  unfold Host.dropPeer
  split
  · exact hk
  · exact (hk.dropPeer_named name).release _

theorem Keeps.putPeer (hk : h.Keeps P) (name : String) {p : Peer E}
    (hp : p.session.Holds P h.engines.length) : (h.putPeer name p).Keeps P := by
  refine (hk.dropPeer name).putPeer_named name ?_
  rw [length_engines_dropPeer]
  exact hp

/-- A session keeps what is true of it when it becomes that of a peer. -/
theorem Keeps.wrapSession (hk : h.Keeps P) (session name allowed : String)
    (endpoint : Option Endpoint) {s : Session E} (hs : s.Holds P h.engines.length) :
    (h.wrapSession session name allowed endpoint s).1.Keeps P := by
  have hdropped := hk.dropSession_named session
  unfold Host.wrapSession
  split
  · exact hdropped.release s
  · exact hdropped.putPeer name hs

/-- A peer that is defined has a session that was newly created. -/
theorem Keeps.definePeer (hk : h.Keeps P) (hP : Session.Kept P) (name : String) (b : Bridge)
    (definition : PeerDefinition) : (h.definePeer name b definition).1.Keeps P := by
  unfold Host.definePeer
  split
  · exact hk
  · obtain ⟨hkeeps, hs⟩ := hk.createSession hP b
      (Peer.inputOf definition ((h.family b).toOption.map (·.value)))
    dsimp only
    split
    next h' e heq =>
      rw [heq] at hkeeps
      exact hkeeps
    next h' s heq =>
      rw [heq] at hkeeps hs
      exact hkeeps.putPeer name (hs s rfl)

theorem Keeps.unwrapPeer (hk : h.Keeps P) (name session : String) {p : Peer E}
    (hp : p.session.Holds P h.engines.length) : (h.unwrapPeer name session p).Keeps P :=
  (hk.dropPeer_named name).putSession session hp

theorem Keeps.callPeer (hk : h.Keeps P) (hP : Session.Kept P) (name : String) {p : Peer E}
    (hp : p.session.Holds P h.engines.length) (request : Request β) (source : Option Endpoint) :
    (h.callPeer name p request source).1.Keeps P := by
  have hturn := hp.perform hP h.clock request (h.engineState p.session.family.value.engine)
  exact ((hk.putPeer_named name hturn).setEngine _ _).deliver _ _

/-! ## Logging -/

theorem Keeps.looseFor (hk : h.Keeps P) (name : String) : (h.looseFor name).2.Keeps P := by
  unfold Host.looseFor
  split
  · exact hk
  · have hboard := hk.withBoard (Switchboard.holds_addRegistry hk.stored)
    exact hboard.frame rfl rfl rfl rfl rfl

theorem Keeps.setLog (hk : h.Keeps P) (registry : Nat) (context : ContextId) (engine : Nat)
    (handler : Handler) : (h.setLog registry context engine handler).Keeps P := by
  have hboard := hk.withBoard
    (Switchboard.holds_register (fun _ => trivial) hk.stored registry context (some engine) handler)
  exact hboard.frame rfl rfl rfl rfl rfl

/-- A registry takes nothing with it that the invariant is about. -/
theorem Keeps.dropLoose (hk : h.Keeps P) (name : String) : (h.dropLoose name).1.Keeps P := by
  unfold Host.dropLoose
  split
  · exact hk
  next id hid =>
    have hboard := hk.withBoard (Switchboard.holds_dropRegistry hk.stored id)
    exact hboard.frame rfl rfl rfl rfl rfl

/-! ## Steps -/

/-- Acting on something by its name keeps the invariant if acting on it does. -/
theorem keeps_withNamed {α : Type} (hk : h.Keeps P) {items : List (String × α)} {name : String}
    {f : α → Host E × Answer β} (hf : ∀ a, items.lookup name = some a → (f a).1.Keeps P) :
    (h.withNamed items name f).1.Keeps P := by
  unfold withNamed
  split
  next a ha => exact hf a ha
  · exact hk

/-- **A step keeps the invariant**, whatever the engine does. -/
theorem keeps_act (hk : h.Keeps P) (hP : Session.Kept P) (step : Step β) :
    (h.act step).1.Keeps P := by
  -- most steps look something up first and change nothing if it is missing, which is
  -- `keeps_withNamed`; what is found satisfies the invariant already
  cases step with
  | addEngine name => exact hk.addEngine name
  | addBridge name engine config =>
    obtain ⟨hkeeps, hengine⟩ := hk.engineFor engine
    rw [act]
    dsimp only
    split
    · exact hkeeps
    next b h' hadd => exact hkeeps.addBridge hengine hadd
  | dropBridge name => exact hk.forgetBridge name
  | addSession name bridge input =>
    refine keeps_withNamed hk fun b hb => ?_
    obtain ⟨hkeeps, hs⟩ := hk.createSession hP b input
    split
    next h' e heq =>
      rw [heq] at hkeeps
      exact hkeeps
    next h' s heq =>
      rw [heq] at hkeeps hs
      exact hkeeps.putSession name (hs s rfl)
  | describe name => exact keeps_withNamed hk fun s hs => hk
  | call name request =>
    exact keeps_withNamed hk fun s hs => hk.call hP name (hk.sessions _ (mem_of_lookup hs)) request
  | stats name =>
    rw [act]
    split
    · exact hk
    · exact keeps_withNamed hk fun p hp => hk
  | owns bridge name =>
    exact keeps_withNamed hk fun b hb => keeps_withNamed hk fun s hs => hk
  | close name =>
    have hdropped := hk.dropSession name
    rw [act]
    split
    next h' heq =>
      rw [heq] at hdropped
      exact hdropped
    next h' heq =>
      rw [heq] at hdropped
      exact hdropped
  | wrapSession name session allowed endpoint =>
    refine keeps_withNamed hk fun s hs => ?_
    have hwrapped := hk.wrapSession session name allowed endpoint
      (hk.sessions _ (mem_of_lookup hs))
    split
    next h' heq =>
      rw [heq] at hwrapped
      exact hwrapped
    next h' e heq =>
      rw [heq] at hwrapped
      exact hwrapped
  | definePeer name bridge definition =>
    refine keeps_withNamed hk fun b hb => ?_
    have hdefined := hk.definePeer hP name b definition
    split
    next h' p heq =>
      rw [heq] at hdefined
      exact hdefined
    next h' e heq =>
      rw [heq] at hdefined
      exact hdefined
  | dropPeer name => exact hk.dropPeer name
  | unwrapPeer name session =>
    exact keeps_withNamed hk fun p hp =>
      hk.unwrapPeer name session (hk.peers _ (mem_of_lookup hp))
  | setEndpoint name endpoint =>
    exact keeps_withNamed hk fun p hp =>
      hk.putPeer_named name (p := { p with endpoint := some endpoint })
        (hk.peers _ (mem_of_lookup hp))
  | admits name ip => exact keeps_withNamed hk fun p hp => hk
  | callPeer name request source =>
    exact keeps_withNamed hk fun p hp =>
      hk.callPeer hP name (hk.peers _ (mem_of_lookup hp)) request source
  | route name report output =>
    refine keeps_withNamed hk fun p hp => ?_
    split <;> exact hk
  | removeKey bridge key =>
    exact keeps_withNamed hk fun b hb => hk.withBoard (Switchboard.holds_remove hk.stored _ key)
  | hasKey bridge key => exact keeps_withNamed hk fun b hb => hk
  | keys bridge => exact keeps_withNamed hk fun b hb => hk
  | storeWord bridge key =>
    exact keeps_withNamed hk fun b hb =>
      hk.withBoard (Switchboard.holds_store hk.stored _ key (c := .word 0) trivial _)
  | adopt bridge other =>
    refine keeps_withNamed hk fun b hb => keeps_withNamed hk fun o ho => ?_
    split
    · exact hk
    next f hf =>
      -- what is shared is the family of the other bridge
      rw [← family_eq_getAs] at hf
      exact hk.withBoard
        (Switchboard.holds_share hk.stored _ familyKey
          (hk.sound_of_offers (family_eq_ok_iff.mp hf)))
  | family bridge =>
    refine keeps_withNamed hk fun b hb => ?_
    split <;> exact hk
  | setLog bridge loose handler =>
    refine keeps_withNamed hk fun b hb => ?_
    cases loose with
    | none => exact hk.setLog _ _ _ handler
    | some name => exact (hk.looseFor name).setLog _ _ _ handler
  | clearLog place =>
    cases place with
    | bridge name =>
      exact keeps_withNamed hk fun b hb =>
        hk.withBoard (Switchboard.holds_remove hk.stored _ handlerKey)
    | loose name =>
      exact keeps_withNamed hk fun id hid =>
        hk.withBoard (Switchboard.holds_remove hk.stored _ handlerKey)
  | dropLoose name => exact hk.dropLoose name
  | forward line =>
    exact hk.withBoard (Switchboard.holds_forward (fun _ => trivial) hk.stored line)

/-- **Every step keeps the invariant**, if creations and requests do. -/
theorem keeps_step (hk : h.Keeps P) (hP : Session.Kept P) (step : Step β) :
    (h.step step).1.Keeps P := by
  have hclock : Keeps P { h with clock := h.clock + 1 } := hk.frame rfl rfl rfl rfl rfl
  exact keeps_act hclock hP step

/-- **Steps keep the invariant**, in any order. -/
theorem keeps_run (hk : h.Keeps P) (hP : Session.Kept P) (steps : List (Step β)) :
    (h.run steps).1.Keeps P := by
  induction steps generalizing h with
  | nil => exact hk
  | cons step rest ih => exact ih (keeps_step hk hP step)

/-- The host that steps lead to, from one that has nothing in hand. -/
def after (E : Engine β) (steps : List (Step β)) : Host E := (({} : Host E).run steps).1

/-- **Every run keeps the invariant** as well. -/
theorem keeps_after (hP : Session.Kept P) (steps : List (Step β)) : (after E steps).Keeps P :=
  keeps_run keeps_empty hP steps

end Host

end TunnelHost
