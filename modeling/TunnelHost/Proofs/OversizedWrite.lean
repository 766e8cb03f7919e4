import TunnelHost.Proofs.EngineContract
import TunnelHost.Proofs.SessionSteps

/-!
# Packets that are too long

A packet that would not fit the buffer once it is sealed is refused before the tunnel sees it.
Nothing is queued for later, no handshake is started and nothing is counted, so that whatever is
asked afterwards, of this session or of another, is answered as if the packet had never been
written.

- `Holder.refusal`: how a refusal is answered.
- `Session.Rebuffs`: a session refuses a packet, and has an empty buffer to show for it.
- `Host.step_write_of_rebuffs`: such a packet is nothing to the host.
- `Noise.Device.rebuffs_of_lt`: packets that are too long.
- `Noise.Device.write_refused_or_handed`: nothing is left of them, whatever the device is.
- `Noise.oversized_write_void`: the same of the protocol engine.
-/

namespace TunnelHost

/-- How a request is answered that the engine refuses. -/
def Holder.refusal {β : Type} : Holder → Answer β
  | session _ => .envelope .failed
  | peer _ => .route (.dropped .engineFailed)

/-- A session refuses a packet. Neither its tunnel nor the engine is another after it, and no event
tells of it. -/
def Session.Rebuffs {β : Type} {E : Engine β} (s : Session E) (moment : Nat) (packet : List β)
    (state : E.State) : Prop :=
  s.perform moment (.write packet) state = ⟨s.rinsed, state, .ok .failed, []⟩

namespace Host

variable {β : Type} {E : Engine β} {h : Host E} {s : Session E} {packet : List β}

/-- An engine that is put into the state that it is in. -/
theorem setEngine_engineState (h : Host E) (id : Nat) : h.setEngine id (h.engineState id) = h := by
  have hset : h.engines.set id (h.engineState id) = h.engines := by
    refine List.ext_getElem? fun i => ?_
    rw [List.getElem?_set, engineState, List.getD_eq_getElem?_getD]
    split
    next hi =>
      subst hi
      split
      next hlt => rw [List.getElem?_eq_getElem hlt, Option.getD_some]
      next hge => rw [List.getElem?_eq_none (Nat.le_of_not_lt hge)]
    · rfl
  rw [setEngine, hset]

theorem Alike.delivered {h' : Host E} (ha : Alike h h') (engine : Nat) (events : List Event) :
    Alike h (h'.deliver engine events) := by
  rw [Host.deliver]
  split <;> exact ⟨ha.time, ha.engines, ha.sessions, ha.peers⟩

variable {name : String}

/-- The session is put back where it stood, and its engine into the state that it was in. -/
theorem call_of_rebuffs (hs : h.sessions.lookup name = some s)
    (hrebuffs : s.Rebuffs h.clock packet (h.engineState s.family.value.engine)) :
    (h.call name s (.write packet)).2 = .ok .failed
      ∧ Alike h (h.call name s (.write packet)).1 := by
  have hkept : Alike h { h with sessions := putNamed name s.rinsed h.sessions } :=
    ⟨.inr rfl, rfl, .putNamed_of_lookup hs rfl, .refl _ _⟩
  rw [call, hrebuffs]
  refine ⟨rfl, Alike.delivered ?_ _ _⟩
  have hengine := setEngine_engineState { h with sessions := putNamed name s.rinsed h.sessions }
    s.family.value.engine
  exact hengine.symm ▸ hkept

/-- A packet that the session refuses is dropped, and the host is like before. -/
theorem callPeer_of_rebuffs {p : Peer E} (hp : h.peers.lookup name = some p)
    (hrebuffs : p.session.Rebuffs h.clock packet (h.engineState p.session.family.value.engine))
    (source : Option Endpoint) :
    (h.callPeer name p (.write packet) source).2.2 = .ok (.dropped .engineFailed, false)
      ∧ Alike h (h.callPeer name p (.write packet) source).1 := by
  have hkept : Alike h { h with peers := putNamed name p.rinsed h.peers } :=
    ⟨.inr rfl, rfl, .refl _ _, .putNamed_of_lookup hp rfl⟩
  -- the session rebuffs, and the peer passes this on as a drop
  have hturn : p.perform h.clock (.write packet) source
      (h.engineState p.session.family.value.engine) = ⟨p.rinsed,
        h.engineState p.session.family.value.engine, .ok (.dropped .engineFailed, false), []⟩ := by
    unfold Peer.perform
    rw [hrebuffs]
    rfl
  rw [callPeer, hturn]
  refine ⟨rfl, Alike.delivered ?_ _ _⟩
  have hengine := setEngine_engineState { h with peers := putNamed name p.rinsed h.peers }
    p.session.family.value.engine
  exact hengine.symm ▸ hkept

/-- A packet that a session refuses is answered as a refusal, and is nothing to sessions. -/
theorem step_write_of_rebuffs {holder : Holder} (hs : h.sessionAt holder = some s)
    (hrebuffs : s.Rebuffs (h.clock + 1) packet (h.engineState s.family.value.engine))
    (source : Option Endpoint) :
    (h.step (holder.call (.write packet) source)).2 = holder.refusal
      ∧ Alike { h with clock := h.clock + 1 } (h.step (holder.call (.write packet) source)).1 := by
  let later : Host E := { h with clock := h.clock + 1 }
  cases holder with
  | session name =>
    have hlookup : later.sessions.lookup name = some s := hs
    obtain ⟨hresult, halike⟩ := later.call_of_rebuffs hlookup hrebuffs
    rw [step, Holder.call, act, withNamed, hlookup]
    exact ⟨congrArg envelopeAnswer hresult, halike⟩
  | peer name =>
    obtain ⟨p, hp, rfl⟩ := Option.map_eq_some_iff.mp hs
    have hlookup : later.peers.lookup name = some p := hp
    obtain ⟨hresult, halike⟩ := later.callPeer_of_rebuffs hlookup hrebuffs source
    rw [step, Holder.call, act, withNamed, hlookup]
    exact ⟨congrArg (peerAnswer (.write packet) p.rinsed) hresult, halike⟩

end Host

namespace Noise

namespace Device

variable {β : Type} {D : Device β}

/-- The guard stands before everything else that a write does. -/
theorem run_of_lt (D : Device β) {capacity : Nat} {packet : List β}
    (hlong : capacity < packet.length + dataOverhead) (moment : Nat) (t : D.Tunnel)
    (buffer : Buffer β capacity) (state : D.engine.State) :
    D.engine.run moment (.write packet) t buffer state
      = ⟨state, t, buffer, some (.of .failed 0), []⟩ := by
  have hrefused : D.perform moment t buffer (.write packet) = ⟨t, buffer, some .failed, []⟩ :=
    if_pos hlong
  exact congrArg Performed.reply hrefused

/-- **A packet without room for its overhead is refused before the tunnel sees it.** -/
theorem rebuffs_of_lt {s : Session D.engine} {packet : List β}
    (hlong : s.capacity < packet.length + dataOverhead) (moment : Nat) (state : D.engine.State) :
    s.Rebuffs moment packet state := by
  have hreply := D.run_of_lt hlong moment s.tunnel (.zeroed D.zero s.capacity) state
  have hjudge : Session.judge (some (.of .failed 0)) (List.replicate s.capacity D.zero)
      = .ok .failed := Session.judge_of .failed (Nat.zero_le _)
  refine (s.perform_of_replyTo moment (.write packet) state hreply).trans ?_
  exact congrArg (Turn.mk s.rinsed state · []) hjudge

/-- **Nothing is left of a packet that is too long**, whatever the device is. A packet that would
fit is handed to the device as it is. -/
theorem write_refused_or_handed (h : Host D.engine) {holder : Holder} {s : Session D.engine}
    (hs : h.sessionAt holder = some s) (packet : List β) (source : Option Endpoint) :
    let written := h.step (holder.call (.write packet) source)
    let spared : Host D.engine := { h with clock := h.clock + 1 }
    let result := (h.turnOf s (.write packet)).result
    (s.capacity < packet.length + 32 →
      result = .ok .failed ∧ written.2 = holder.refusal
        ∧ written.1.sessionAt holder = some s.rinsed
        ∧ ∀ later : List (TunnelHost.Step β), (∀ step ∈ later, step.onSessions = true) →
            (written.1.run later).2 = (spared.run later).2)
    ∧ (packet.length + 32 ≤ s.capacity →
      let handed := D.encapsulate (h.clock + 1) packet (tunnel s) (.zeroed D.zero s.capacity)
      result = Session.judge handed.settle.2 handed.settle.1.contents
        ∧ ∃ s', written.1.sessionAt holder = some s' ∧ tunnel s' = handed.tunnel) := by
  intro written spared result
  have hafter : written.1.sessionAt holder = some (h.turnOf s (.write packet)).session :=
    Host.sessionAt_step_call (.write packet) source hs
  refine ⟨fun hlong => ?_, fun hfits => ?_⟩
  · have hrebuffs := rebuffs_of_lt hlong (h.clock + 1) (h.engineState s.family.value.engine)
    obtain ⟨hanswer, halike⟩ := Host.step_write_of_rebuffs hs hrebuffs source
    have hturn : h.turnOf s (.write packet) = _ := hrebuffs
    rw [hturn] at hafter
    exact ⟨congrArg Turn.result hturn, hanswer, hafter, fun later hlater => halike.run hlater⟩
  · -- the guard lets it pass, and the device does the rest
    have hhanded : D.perform (h.clock + 1) (tunnel s) (.zeroed D.zero s.capacity) (.write packet)
        = D.encapsulate (h.clock + 1) packet (tunnel s) _ := if_neg (Nat.not_lt.mpr hfits)
    rw [← hhanded]
    exact ⟨Session.perform_result s _ _ _, _, hafter, Session.perform_tunnel s _ _ _⟩

end Device

/-- **Nothing is left of a packet that is too long.** Of any host, with whatever timers: a packet
that would not fit the buffer of a session once it is sealed is refused, and the session that stands
there afterwards is the one that stood there before, with an empty buffer. Whatever is done with
sessions and peers from then on, the other end of the tunnel included, is answered as if it were
done at the same moments without the packet. A packet that would fit is handed to the tunnel as it
is. -/
theorem oversized_write_void (h : Host (timed timers)) (holder : Holder)
    (s : Session (timed timers)) (hs : h.sessionAt holder = some s) (packet : List Octet)
    (source : Option Endpoint) :
    let written := h.step (holder.call (.write packet) source)
    let spared : Host (timed timers) := { h with clock := h.clock + 1 }
    let result := (h.turnOf s (.write packet)).result
    (s.capacity < packet.length + 32 →
      result = .ok .failed ∧ written.2 = holder.refusal
        ∧ written.1.sessionAt holder = some s.rinsed
        ∧ ∀ later : List (TunnelHost.Step Octet), (∀ step ∈ later, step.onSessions = true) →
            (written.1.run later).2 = (spared.run later).2)
    ∧ (packet.length + 32 ≤ s.capacity →
      let handed := (tunnelOf s).encapsulate (h.clock + 1) packet (.zeroed (.plain 0) s.capacity)
      result = Session.judge (handed.placement.map fun p => .of p.status p.length)
          handed.buffer.contents
        ∧ ∃ s', written.1.sessionAt holder = some s' ∧ tunnelOf s' = handed.tunnel) := by
  intro written spared result
  obtain ⟨hrefused, hhanded⟩ := Device.write_refused_or_handed h hs packet source
  refine ⟨hrefused, fun hfits => ?_⟩
  obtain ⟨hresult, hafter⟩ := hhanded hfits
  intro handed
  -- the packet is put out at the front already, so settling moves nothing
  have hfronted : handed.Fronted := (tunnelOf s).fronted_encapsulate (h.clock + 1) _ packet
  rw [← handed.settle_report, ← hfronted.settle_buffer]
  exact ⟨hresult, hafter⟩

/-- A packet of 117 octets, one more than fits, written to the session that awaits data messages. -/
theorem oversized_write_void_sample :
    let host := Host.after (timed .idle) sampleRun
    let packet := List.replicate 117 (Octet.plain 69)
    let written := host.step (.call "c" (.write packet))
    let spared : Host (timed .idle) := { host with clock := host.clock + 1 }
    host.sessionAt (.session "c") = some sampleSession ∧ sampleSession.capacity < packet.length + 32
      ∧ written.2 = .envelope .failed
      ∧ (written.1.run [.call "c" .tick, .call "a" .handshake, .stats "c"]).2
        = (spared.run [.call "c" .tick, .call "a" .handshake, .stats "c"]).2 := by
  intro host packet written spared
  have hlong : sampleSession.capacity < packet.length + 32 := by
    rw [capacity_sampleSession, List.length_replicate]
    decide
  obtain ⟨-, hanswer, -, hlater⟩ := (oversized_write_void host (.session "c") sampleSession
    sessionAt_sampleRun packet none).1 hlong
  refine ⟨sessionAt_sampleRun, hlong, hanswer, hlater _ ?_⟩
  intro step hstep
  simp only [List.mem_cons, List.not_mem_nil, or_false] at hstep
  rcases hstep with rfl | rfl | rfl <;> rfl

end Noise

end TunnelHost
