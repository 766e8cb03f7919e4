import TunnelHost.Proofs.HostCalls
import TunnelHost.Proofs.LogUnfolding

/-!
# What a host asks of its board

Whatever is done with a host bears on where lines go by a few motions only, which `Host.orders`
lists: registries come and go with the bridges and names that own them, things are stored and
removed, handlers are registered, and lines are delivered, those of engines if they were given a
sink. Most steps ask for nothing.

- `Deed`, `Host.perform`, `Host.led`: what may be done with a host, `Host.led_map_step`: steps.
- `Host.orders`, `Host.asks`: the motions that it asks for.
- `Host.SameLog`: what most steps leave as it is.
- `Host.Effect`, `Host.effect_perform`: all that a deed can do.
- `Host.Effect.exists_unfolds`: what is asked for happens, with everything that it causes.
-/

namespace TunnelHost

/-- What may be done with a host: its steps, and what else a program can do to a registry that it
has in hand, with any engine. -/
inductive Deed (β : Type) where
  | step (s : Step β)
  | register (registry : Nat) (context : ContextId) (engine : Nat) (handler : Handler)
  | store (registry : Nat) (key : String) (content : Content) (context : ContextId)
      (other : content.handler? = none)
  | remove (registry : Nat) (key : String)

namespace Host

variable {β : Type} {E : Engine β} {h h' : Host E}

/-- Does a deed. -/
def perform (h : Host E) : Deed β → Host E
  | .step s => (h.step s).1
  | .register r context engine x => h.setLog r context engine x
  | .store r key content context _ => { h with board := h.board.store r key content context }
  | .remove r key => { h with board := (h.board.remove r key).1 }

/-- The host that deeds lead to. -/
def led (E : Engine β) (deeds : List (Deed β)) : Host E := deeds.foldl perform {}

theorem led_append_singleton (deeds : List (Deed β)) (d : Deed β) :
    led E (deeds ++ [d]) = (led E deeds).perform d := List.foldl_append

/-- Steps in a row are deeds. -/
theorem led_map_step (steps : List (Step β)) : led E (steps.map .step) = after E steps := by
  have hrun : ∀ h : Host E, (steps.map Deed.step).foldl perform h = (h.run steps).1 := by
    induction steps with
    | nil => exact fun h => rfl
    | cons s rest ih => exact fun h => ih (h.step s).1
  exact hrun {}

/-! ## What deeds ask for -/

/-- The lines that a request leads to. -/
def lines (h : Host E) (s : Session E) (request : Request β) : List Motion :=
  if h.isWired s.family.value.engine then
    (h.turnOf s request).events.map fun e => .forward (E.line e)
  else []

/-- What another bridge asks for: a registry that holds a session family, and an end to the bridge
that had its name. -/
def bridgeOrders (h : Host E) (name : String) (engine : Nat) (config : Config) : List Motion :=
  .add
    :: .store h.board.nextRegistry familyKey (.family ⟨engine, config⟩) ⟨h.nextContext⟩ rfl
    :: (h.bridges.lookup name).toList.map fun b => .drop b.registry

/-- What the registration in a registry of a name asks for; the registry may be new. -/
def looseOrders (h : Host E) (name : String) (engine : Nat) (x : Handler) : List Motion :=
  match h.loose.lookup name with
  | some r => [.register r looseContext (some engine) x]
  | none => [.add, .register h.board.nextRegistry looseContext (some engine) x]

/-- What a step asks for. -/
def orders (h : Host E) : Step β → List Motion
  | .addBridge name engine config =>
    match config.validate with
    | .error _ => []
    | .ok _ => h.bridgeOrders name (h.engineFor engine).1 config
  | .dropBridge name => (h.bridges.lookup name).toList.map fun b => .drop b.registry
  | .call name request => (h.sessions.lookup name).toList.flatMap fun s => h.lines s request
  | .callPeer name request _ =>
    (h.peers.lookup name).toList.flatMap fun p => h.lines p.session request
  | .removeKey bridge key =>
    (h.bridges.lookup bridge).toList.flatMap fun b => [.remove b.registry key]
  | .storeWord bridge key =>
    (h.bridges.lookup bridge).toList.flatMap fun b =>
      [.store b.registry key (.word 0) b.context rfl]
  | .adopt bridge other =>
    (h.bridges.lookup bridge).toList.flatMap fun b =>
      (h.bridges.lookup other).toList.flatMap fun o =>
        match (h.registryOf o).getAs familyKey (familyTypeName E) Content.family? with
        | .error _ => []
        | .ok f => [.share b.registry familyKey ⟨⟨f.serial, .family f.value⟩, b.context⟩ rfl]
  | .setLog bridge loose x =>
    match h.bridges.lookup bridge with
    | none => []
    | some b =>
      match loose with
      | none => [.register b.registry b.context (some b.engine) x]
      | some name => h.looseOrders name b.engine x
  | .clearLog (.bridge name) =>
    (h.bridges.lookup name).toList.flatMap fun b => [.remove b.registry handlerKey]
  | .clearLog (.loose name) =>
    (h.loose.lookup name).toList.flatMap fun r => [.remove r handlerKey]
  | .dropLoose name => (h.loose.lookup name).toList.map fun r => .drop r
  | .forward line => [.forward line]
  | _ => []

/-- What a deed asks for. -/
def asks (h : Host E) : Deed β → List Motion
  | .step s => h.orders s
  | .register r context engine x => [.register r context (some engine) x]
  | .store r key content context other => [.store r key content context other]
  | .remove r key => [.remove r key]

variable {h'' : Host E} {name : String}

/-! ## What most steps leave as it is -/

/-- The board, bridges and names of registries are as they were. -/
structure SameLog (h h' : Host E) : Prop where
  board : h'.board = h.board
  bridges : h'.bridges = h.bridges
  loose : h'.loose = h.loose

theorem SameLog.refl (h : Host E) : SameLog h h := ⟨rfl, rfl, rfl⟩

theorem SameLog.trans (hs : SameLog h h') (hs' : SameLog h' h'') : SameLog h h'' where
  board := hs'.board.trans hs.board
  bridges := hs'.bridges.trans hs.bridges
  loose := hs'.loose.trans hs.loose

/-- The host of a result, once the result is known. -/
theorem SameLog.of_eq {α : Type} {result : Host E × α} {a : α} (hs : SameLog h result.1)
    (heq : result = (h', a)) : SameLog h h' := by
  rw [heq] at hs
  exact hs

/-- Looking an engine up, or starting it, has nothing to do with the board. -/
theorem sameLog_engineFor (h : Host E) (name : String) : SameLog h (h.engineFor name).2 := by
  rw [engineFor]
  split <;> exact ⟨rfl, rfl, rfl⟩

/-- Forgetting a bridge comes to the same for hosts with the same board. -/
theorem sameLog_forgetBridge (hs : SameLog h h') (name : String) :
    SameLog (h.forgetBridge name).1 (h'.forgetBridge name).1 := by
  rw [forgetBridge, forgetBridge, hs.bridges]
  cases h.bridges.lookup name with
  | none => exact hs
  | some b =>
    exact ⟨congrArg (Switchboard.dropRegistry · b.registry) hs.board, rfl, hs.loose⟩

theorem sameLog_dropLoose (hs : SameLog h h') (name : String) :
    SameLog (h.dropLoose name).1 (h'.dropLoose name).1 := by
  rw [dropLoose, dropLoose, hs.loose]
  cases h.loose.lookup name with
  | none => exact hs
  | some r => exact ⟨congrArg (Switchboard.dropRegistry · r) hs.board, hs.bridges, rfl⟩

theorem sameLog_dropSession (h : Host E) (name : String) : SameLog h (h.dropSession name).1 := by
  rw [dropSession]
  split <;> exact ⟨rfl, rfl, rfl⟩

theorem sameLog_putSession (h : Host E) (name : String) (s : Session E) :
    SameLog h (h.putSession name s) :=
  (sameLog_dropSession h name).trans ⟨rfl, rfl, rfl⟩

theorem sameLog_dropPeer (h : Host E) (name : String) : SameLog h (h.dropPeer name).1 := by
  rw [dropPeer]
  split <;> exact ⟨rfl, rfl, rfl⟩

theorem sameLog_putPeer (h : Host E) (name : String) (p : Peer E) :
    SameLog h (h.putPeer name p) :=
  (sameLog_dropPeer h name).trans ⟨rfl, rfl, rfl⟩

/-- A creation reads the board, and leaves it as it is. -/
theorem sameLog_createSession (h : Host E) (b : Bridge) (input : SessionInput) :
    SameLog h (h.createSession b input).1 := by
  rw [createSession]
  split
  · exact .refl h
  · split
    · exact .refl h
    · dsimp only
      split <;> exact ⟨rfl, rfl, rfl⟩

theorem sameLog_wrapSession (h : Host E) (session name allowed : String)
    (endpoint : Option Endpoint) (s : Session E) :
    SameLog h (h.wrapSession session name allowed endpoint s).1 := by
  have hdropped : SameLog h { h with sessions := dropNamed session h.sessions } :=
    ⟨rfl, rfl, rfl⟩
  rw [wrapSession]
  split
  · exact ⟨rfl, rfl, rfl⟩
  · exact hdropped.trans (sameLog_putPeer _ name _)

theorem sameLog_definePeer (h : Host E) (name : String) (b : Bridge)
    (definition : PeerDefinition) : SameLog h (h.definePeer name b definition).1 := by
  rw [definePeer]
  split
  · exact .refl h
  · have hcreated := sameLog_createSession h b
      (Peer.inputOf definition ((h.family b).toOption.map (·.value)))
    dsimp only
    split
    next heq => exact hcreated.of_eq heq
    next heq => exact (hcreated.of_eq heq).trans (sameLog_putPeer _ name _)

/-! ## What a deed can do -/

/-- The host with another registry, which holds a session family and has no owner yet. -/
def withRegistry (h : Host E) (engine : Nat) (config : Config) : Host E :=
  { h with
    board := h.board.addRegistry.2.store h.board.nextRegistry familyKey (.family ⟨engine, config⟩)
      ⟨h.nextContext⟩
    nextContext := h.nextContext + 1 }

/-- The host with another bridge, in place of one of its name. -/
def withBridge (h : Host E) (name : String) (engine : Nat) (config : Config) : Host E :=
  let forgotten := ((h.withRegistry engine config).forgetBridge name).1
  { forgotten with
    bridges := putNamed name ⟨engine, h.board.nextRegistry, ⟨h.nextContext⟩⟩ forgotten.bridges }

/-- A usable configuration makes a bridge with a registry and a context of its own. -/
theorem addBridge_of_validate {engine : Nat} {config : Config}
    (hvalidate : config.validate = .ok ()) : h.addBridge name engine config
      = .ok (⟨engine, h.board.nextRegistry, ⟨h.nextContext⟩⟩, h.withBridge name engine config) := by
  rw [addBridge, hvalidate]
  rfl

/-- Any other is refused with the rule that it breaks. -/
theorem addBridge_of_error {engine : Nat} {config : Config} {e : ConfigError}
    (hinvalid : config.validate = .error e) :
    h.addBridge name engine config = .error (.config e) := by
  rw [addBridge, hinvalid]
  rfl

theorem sameLog_withBridge (hs : SameLog h h') (hcontext : h'.nextContext = h.nextContext)
    (name : String) (engine : Nat) (config : Config) :
    SameLog (h.withBridge name engine config) (h'.withBridge name engine config) := by
  have hadded : SameLog (h.withRegistry engine config) (h'.withRegistry engine config) := by
    refine ⟨?_, hs.bridges, hs.loose⟩
    rw [withRegistry, withRegistry, hs.board, hcontext]
  have hforgotten := sameLog_forgetBridge hadded name
  refine ⟨hforgotten.board, ?_, hforgotten.loose⟩
  rw [withBridge, withBridge, hforgotten.bridges, hs.board, hcontext]

/-- What may come of a deed that asks for some motions. Nothing else does. -/
inductive Effect (h : Host E) : List Motion → Host E → Prop where
  | nothing {h' : Host E} : SameLog h h' → Effect h [] h'
  /-- What a registry holds has changed. -/
  | contents {h' : Host E} {m : Motion} : (∃ r key, m = .remove r key)
        ∨ (∃ r key c context other, m = .store r key c context other)
        ∨ (∃ r key c other, m = .share r key c other) →
      SameLog { h with board := h.board.move m } h' → Effect h [m] h'
  | lines {h' : Host E} (lines : List String) :
      SameLog { h with board := h.board.forwardAll lines } h' →
      Effect h (lines.map .forward) h'
  | registers {h' : Host E} (r : Nat) (context : ContextId) (engine : Nat) (x : Handler) :
      SameLog (h.setLog r context engine x) h' →
      Effect h [.register r context (some engine) x] h'
  /-- A handler is registered in a registry that gets its name by it. -/
  | registersNew {h' : Host E} (name : String) (engine : Nat) (x : Handler) :
      h.loose.lookup name = none →
      SameLog ((h.looseFor name).2.setLog h.board.nextRegistry looseContext engine x) h' →
      Effect h [.add, .register h.board.nextRegistry looseContext (some engine) x] h'
  | losesBridge {h' : Host E} (name : String) (b : Bridge) : h.bridges.lookup name = some b →
      SameLog (h.forgetBridge name).1 h' → Effect h [.drop b.registry] h'
  | losesName {h' : Host E} (name : String) (r : Nat) : h.loose.lookup name = some r →
      SameLog (h.dropLoose name).1 h' → Effect h [.drop r] h'
  /-- A bridge is added; one of its name makes way for it. -/
  | gainsBridge {h' : Host E} (name : String) (engine : Nat) (config : Config) :
      SameLog (h.withBridge name engine config) h' →
      Effect h (h.bridgeOrders name engine config) h'

/-- Acting on something by its name does what the acting does, and nothing if the name is unknown.
-/
theorem effect_withNamed {α : Type} {items : List (String × α)} {f : α → Host E × Answer β}
    {motions : α → List Motion} (hmissing : SameLog h h')
    (hf : ∀ a, Effect h (motions a) (f a).1) :
    Effect h ((items.lookup name).toList.flatMap motions) (h'.withNamed items name f).1 := by
  rw [withNamed]
  cases items.lookup name with
  | none => exact .nothing hmissing
  | some a =>
    show Effect h (motions a ++ []) (f a).1
    rw [List.append_nil]
    exact hf a

theorem sameLog_withNamed {α : Type} {items : List (String × α)} {f : α → Host E × Answer β}
    (hmissing : SameLog h h') (hf : ∀ a, SameLog h (f a).1) :
    SameLog h (h'.withNamed items name f).1 := by
  rw [withNamed]
  split
  · exact hf _
  · exact hmissing

/-- The events of an engine are forwarded if it was given a sink. -/
theorem effect_deliver (hs : SameLog h h') (engine : Nat) (events : List Event) :
    Effect h (if h.isWired engine then events.map fun e => .forward (E.line e) else [])
      (h'.deliver engine events) := by
  have hwired : h'.isWired engine = h.isWired engine := by
    rw [isWired, hs.board]
    rfl
  rw [deliver, hwired]
  split
  · have hlines : (events.map fun e => Motion.forward (E.line e))
        = (events.map E.line).map .forward := by
      rw [List.map_map]
      rfl
    rw [hlines]
    refine .lines (events.map E.line) ⟨?_, hs.bridges, hs.loose⟩
    show h'.board.forwardAll _ = _
    rw [hs.board]
  · exact .nothing hs

theorem effect_forgetBridge (hs : SameLog h h') (name : String) :
    Effect h ((h.bridges.lookup name).toList.map fun b => .drop b.registry)
      (h'.forgetBridge name).1 := by
  have hforgotten := sameLog_forgetBridge hs name
  cases hb : h.bridges.lookup name with
  | none =>
    have hnone : (h.forgetBridge name).1 = h := by
      rw [forgetBridge, hb]
    rw [hnone] at hforgotten
    exact .nothing hforgotten
  | some b => exact .losesBridge name b hb hforgotten

theorem effect_dropLoose (hs : SameLog h h') (name : String) :
    Effect h ((h.loose.lookup name).toList.map fun r => .drop r) (h'.dropLoose name).1 := by
  have hdropped := sameLog_dropLoose hs name
  cases hr : h.loose.lookup name with
  | none =>
    have hnone : (h.dropLoose name).1 = h := by
      rw [dropLoose, hr]
    rw [hnone] at hdropped
    exact .nothing hdropped
  | some r => exact .losesName name r hr hdropped

/-- A request of a session does what its lines do. -/
theorem effect_call (h : Host E) (name : String) (s : Session E) (request : Request β) :
    Effect h (h.lines s request) (call { h with clock := h.clock + 1 } name s request).1 := by
  let turn := h.turnOf s request
  have hserved : SameLog h (setEngine { h with
      clock := h.clock + 1
      sessions := putNamed name turn.session h.sessions } s.family.value.engine turn.state) :=
    ⟨rfl, rfl, rfl⟩
  exact effect_deliver hserved s.family.value.engine turn.events

/-- A request that a peer makes does what the lines of its session do. -/
theorem effect_callPeer (h : Host E) (name : String) (p : Peer E) (request : Request β)
    (source : Option Endpoint) :
    Effect h (h.lines p.session request)
      (callPeer { h with clock := h.clock + 1 } name p request source).1 := by
  let engine := p.session.family.value.engine
  let turn := p.perform (h.clock + 1) request source (h.engineState engine)
  have hserved : SameLog h (setEngine { h with
      clock := h.clock + 1
      peers := putNamed name turn.peer h.peers } engine turn.state) :=
    ⟨rfl, rfl, rfl⟩
  exact effect_deliver hserved engine turn.events

/-- A bridge comes with a registry and a family in it, and takes the place of one of its name. -/
theorem effect_addBridge (h : Host E) (name engine : String) (config : Config) :
    Effect h (h.orders (.addBridge name engine config))
      (h.step (.addBridge name engine config)).1 := by
  have hclock : SameLog h { h with clock := h.clock + 1 } := ⟨rfl, rfl, rfl⟩
  have hengine := hclock.trans (sameLog_engineFor { h with clock := h.clock + 1 } engine)
  rw [step, act, orders]
  dsimp only
  cases hvalidate : config.validate with
  | error e =>
    rw [addBridge, hvalidate]
    exact .nothing hengine
  | ok u =>
    rw [addBridge_of_validate hvalidate]
    -- an engine that is made for the bridge takes no context, and its number is the same
    have hcontext : (engineFor { h with clock := h.clock + 1 } engine).2.nextContext
        = h.nextContext := by
      rw [engineFor]
      split <;> rfl
    have hnumber : (engineFor { h with clock := h.clock + 1 } engine).1
        = (h.engineFor engine).1 := by
      rw [engineFor, engineFor]
      cases h.engineNames.lookup engine <;> rfl
    rw [hnumber]
    exact .gainsBridge name _ config (sameLog_withBridge hengine hcontext name _ config)

/-- A bridge that takes over the family of another shares it. -/
theorem effect_adopt (h : Host E) (bridge other : String) :
    Effect h (h.orders (.adopt bridge other)) (h.step (.adopt bridge other)).1 := by
  have hclock : SameLog h { h with clock := h.clock + 1 } := ⟨rfl, rfl, rfl⟩
  refine effect_withNamed hclock fun b => effect_withNamed hclock fun o => ?_
  have hregistry : registryOf { h with clock := h.clock + 1 } o = h.registryOf o := rfl
  rw [hregistry]
  cases (h.registryOf o).getAs familyKey (familyTypeName E) Content.family? with
  | error e => exact .nothing hclock
  | ok f => exact .contents (.inr (.inr ⟨_, _, _, _, rfl⟩)) ⟨rfl, rfl, rfl⟩

/-- A registration in a registry of its own may come with the registry. -/
theorem effect_setLog_loose (h : Host E) (name : String) (engine : Nat) (x : Handler) :
    Effect h (h.looseOrders name engine x)
      (setLog (looseFor { h with clock := h.clock + 1 } name).2
        (looseFor { h with clock := h.clock + 1 } name).1 looseContext engine x) := by
  rw [looseOrders]
  -- a loose registry is made at the first registration under its name
  cases hlookup : h.loose.lookup name with
  | some r =>
    have hfound : looseFor { h with clock := h.clock + 1 } name
        = (r, { h with clock := h.clock + 1 }) := by
      rw [looseFor, hlookup]
    rw [hfound]
    exact .registers r looseContext engine x ⟨rfl, rfl, rfl⟩
  | none =>
    have hadded : looseFor { h with clock := h.clock + 1 } name
        = (h.board.nextRegistry, { (h.looseFor name).2 with clock := h.clock + 1 }) := by
      rw [looseFor, looseFor, hlookup]
      rfl
    rw [hadded]
    exact .registersNew name engine x hlookup ⟨rfl, rfl, rfl⟩

/-- A registration does what it asks for, whatever registry it is made in. -/
theorem effect_setLog (h : Host E) (bridge : String) (loose : Option String) (x : Handler) :
    Effect h (h.orders (.setLog bridge loose x)) (h.step (.setLog bridge loose x)).1 := by
  rw [step, act, withNamed, orders]
  cases h.bridges.lookup bridge with
  | none => exact .nothing ⟨rfl, rfl, rfl⟩
  | some b =>
    cases loose with
    | none => exact .registers b.registry b.context b.engine x ⟨rfl, rfl, rfl⟩
    | some name => exact effect_setLog_loose h name b.engine x

/-- **What a step does is what it asks for.** -/
theorem effect_step (h : Host E) (s : Step β) :
    Effect h (h.orders s) (h.step s).1 := by
  have hclock : SameLog h { h with clock := h.clock + 1 } := ⟨rfl, rfl, rfl⟩
  -- first the steps that the board takes part in, then those that leave it as it is
  cases s with
  | addBridge name engine config => exact effect_addBridge h name engine config
  | dropBridge name => exact effect_forgetBridge hclock name
  | call name request =>
    exact effect_withNamed hclock fun s => effect_call h name s request
  | callPeer name request source =>
    exact effect_withNamed hclock fun p => effect_callPeer h name p request source
  | removeKey bridge key =>
    refine effect_withNamed hclock fun b => .contents (.inl ⟨_, _, rfl⟩) ?_
    exact ⟨rfl, rfl, rfl⟩
  | storeWord bridge key =>
    refine effect_withNamed hclock fun b => .contents (.inr (.inl ⟨_, _, _, _, _, rfl⟩)) ?_
    exact ⟨rfl, rfl, rfl⟩
  | adopt bridge other => exact effect_adopt h bridge other
  | setLog bridge loose x => exact effect_setLog h bridge loose x
  | clearLog place =>
    cases place with
    | bridge name =>
      refine effect_withNamed hclock fun b => .contents (.inl ⟨_, _, rfl⟩) ?_
      exact ⟨rfl, rfl, rfl⟩
    | loose name =>
      refine effect_withNamed hclock fun r => .contents (.inl ⟨_, _, rfl⟩) ?_
      exact ⟨rfl, rfl, rfl⟩
  | dropLoose name => exact effect_dropLoose hclock name
  | forward line => exact .lines [line] ⟨rfl, rfl, rfl⟩
  | addEngine name => exact .nothing ⟨rfl, rfl, rfl⟩
  | addSession name bridge input =>
    refine .nothing (sameLog_withNamed hclock fun b => ?_)
    have hcreated := hclock.trans
      (sameLog_createSession { h with clock := h.clock + 1 } b input)
    split
    next heq => exact hcreated.of_eq heq
    next heq => exact (hcreated.of_eq heq).trans (sameLog_putSession _ name _)
  | wrapSession name session allowed endpoint =>
    refine .nothing (sameLog_withNamed hclock fun s => ?_)
    have hwrapped := hclock.trans
      (sameLog_wrapSession { h with clock := h.clock + 1 } session name allowed endpoint s)
    split
    next heq => exact hwrapped.of_eq heq
    next heq => exact hwrapped.of_eq heq
  | definePeer name bridge definition =>
    refine .nothing (sameLog_withNamed hclock fun b => ?_)
    have hdefined := hclock.trans
      (sameLog_definePeer { h with clock := h.clock + 1 } name b definition)
    split
    next heq => exact hdefined.of_eq heq
    next heq => exact hdefined.of_eq heq
  | close name =>
    have hdropped := hclock.trans (sameLog_dropSession { h with clock := h.clock + 1 } name)
    rw [step, act]
    split
    next heq => exact .nothing (hdropped.of_eq heq)
    next heq => exact .nothing (hdropped.of_eq heq)
  | dropPeer name => exact .nothing (hclock.trans (sameLog_dropPeer _ name))
  | unwrapPeer name session =>
    refine .nothing (sameLog_withNamed hclock fun p => ?_)
    have htaken : SameLog h
        { h with clock := h.clock + 1, peers := dropNamed name h.peers } := ⟨rfl, rfl, rfl⟩
    exact htaken.trans (sameLog_putSession _ session p.session)
  | setEndpoint name endpoint =>
    exact .nothing (sameLog_withNamed hclock fun p => ⟨rfl, rfl, rfl⟩)
  | stats name =>
    rw [step, act]
    split
    · exact .nothing hclock
    · exact .nothing (sameLog_withNamed hclock fun p => hclock)
  | owns bridge name =>
    exact .nothing (sameLog_withNamed hclock fun b => sameLog_withNamed hclock fun s => hclock)
  | route name report output =>
    refine .nothing (sameLog_withNamed hclock fun p => ?_)
    split <;> exact hclock
  | family bridge =>
    refine .nothing (sameLog_withNamed hclock fun b => ?_)
    split <;> exact hclock
  | describe name => exact .nothing (sameLog_withNamed hclock fun s => hclock)
  | admits name ip => exact .nothing (sameLog_withNamed hclock fun p => hclock)
  | hasKey bridge key => exact .nothing (sameLog_withNamed hclock fun b => hclock)
  | keys bridge => exact .nothing (sameLog_withNamed hclock fun b => hclock)

/-- **Every deed does what it asks for**, and what comes of that, to the board. -/
theorem effect_perform (h : Host E) (d : Deed β) :
    Effect h (h.asks d) (h.perform d) := by
  cases d with
  | step s => exact effect_step h s
  | register r context engine x => exact .registers r context engine x (.refl _)
  | store r key content context other =>
    exact .contents (.inr (.inl ⟨_, _, _, _, other, rfl⟩)) (.refl _)
  | remove r key => exact .contents (.inl ⟨_, _, rfl⟩) (.refl _)

/-! ## The board -/

theorem board_withBridge (h : Host E) (name : String) (engine : Nat) (config : Config) :
    (h.withBridge name engine config).board
      = (h.bridgeOrders name engine config).foldl Switchboard.move h.board := by
  have hbridges : (h.withRegistry engine config).bridges = h.bridges := rfl
  rw [withBridge, forgetBridge, hbridges, bridgeOrders]
  cases h.bridges.lookup name <;> rfl

/-- A new bridge forwards no line. -/
theorem isForward_bridgeOrders (h : Host E) (name : String) (engine : Nat) (config : Config) :
    ∀ m ∈ h.bridgeOrders name engine config, m.isForward = false := by
  rw [bridgeOrders]
  cases h.bridges.lookup name <;> simp [Motion.isForward]

/-- What is asked for calls no handler and is done, or it is lines, which are delivered. -/
theorem Effect.silent_or_lines {ms : List Motion} (he : Effect h ms h') :
    ((∀ m ∈ ms, m.isForward = false) ∧ h'.board = ms.foldl Switchboard.move h.board)
      ∨ ∃ lines : List String, ms = lines.map .forward ∧ h'.board = h.board.forwardAll lines := by
  -- lines alone can make handlers act, so all other motions come to what they are
  cases he with
  | nothing hs => exact .inl ⟨nofun, hs.board⟩
  | contents hm hs =>
    refine .inl ⟨fun m hm' => ?_, hs.board⟩
    rw [List.mem_singleton.mp hm']
    rcases hm with ⟨_, _, rfl⟩ | ⟨_, _, _, _, _, rfl⟩ | ⟨_, _, _, _, rfl⟩ <;> rfl
  | lines lines hs => exact .inr ⟨lines, rfl, hs.board⟩
  | registers r context engine x hs =>
    exact .inl ⟨by simp [Motion.isForward], hs.board⟩
  | registersNew name engine x hnone hs =>
    refine .inl ⟨by simp [Motion.isForward], hs.board.trans ?_⟩
    rw [looseFor, hnone]
    rfl
  | losesBridge name b hb hs =>
    refine .inl ⟨by simp [Motion.isForward], hs.board.trans ?_⟩
    rw [forgetBridge, hb]
    rfl
  | losesName name r hr hs =>
    refine .inl ⟨by simp [Motion.isForward], hs.board.trans ?_⟩
    rw [dropLoose, hr]
    rfl
  | gainsBridge name engine config hs =>
    exact .inl ⟨isForward_bridgeOrders h name engine config,
      hs.board.trans (board_withBridge h name engine config)⟩

/-- **The board of a host is that of its history.** -/
theorem Effect.exists_unfolds {past ms : List Motion}
    (he : Effect h ms h') (hpast : h.board = replay past) :
    ∃ history, Unfolds past ms history ∧ h'.board = replay history := by
  rcases he.silent_or_lines with ⟨hsilent, hboard⟩ | ⟨lines, rfl, hboard⟩
  · refine ⟨past ++ ms, .of_silent hsilent, ?_⟩
    rw [hboard, hpast, replay, replay, List.foldl_append]
  · rw [hboard, hpast]
    exact exists_unfolds_forwardAll past lines

end Host

end TunnelHost
