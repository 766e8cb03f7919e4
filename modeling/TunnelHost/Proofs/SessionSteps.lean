import TunnelHost.Proofs.FreshOutput
import TunnelHost.Proofs.HostInvariant

/-!
# What steps on sessions depend on

Many steps of a host ask something of sessions and peers only. What they answer and what they do
to sessions and engines is settled by the engines, the sessions and the peers; bridges, registries
and handlers do not come into it, nor does what earlier requests have left in the output buffers.

- `Session.rinsed`: a session without what is left in its buffer.
- `Engine.Timeless`: an engine that does not look at the moment.
- `Step.onSessions`: the steps that ask something of sessions and peers only.
- `Host.SameNamed`, `Host.Alike`: hosts that are the same to such steps.
- `Host.Alike.step`, `Host.Alike.run`: one step, and many, give the same answers.
-/

namespace TunnelHost

/-- An engine that does not look at the moment at which a request is made. -/
def Engine.Timeless {β : Type} (E : Engine β) : Prop :=
  ∀ {capacity : Nat} (moment moment' : Nat) (request : Request β) (tunnel : E.Handle)
    (buffer : Buffer β capacity) (state : E.State),
    E.run moment' request tunnel buffer state = E.run moment request tunnel buffer state

/-! ## Sessions -/

namespace Session

variable {β : Type} {E : Engine β} {s s' : Session E}

/-- The session with nothing left in its buffer. -/
def rinsed (s : Session E) : Session E := { s with output := .zeroed E.zero _ }

/-- A request does not depend on what is left in the buffer. -/
theorem perform_rinsed (s : Session E) (moment : Nat) (request : Request β) (state : E.State) :
    s.rinsed.perform moment request state = s.perform moment request state := by
  rw [perform, perform, Buffer.blank_eq_zeroed, Buffer.blank_eq_zeroed]
  rfl

/-- What is told without a look at the buffer is the same for sessions that only differ there. -/
theorem congr_of_rinsed_eq {γ : Type} (f : Session E → γ) (hf : ∀ s, f s.rinsed = f s)
    (h : s'.rinsed = s.rinsed) : f s' = f s := by
  rw [← hf s', h, hf s]

/-- Requests do not depend on what is left in the buffer. -/
theorem perform_eq_of_rinsed_eq (h : s'.rinsed = s.rinsed) (moment : Nat) (request : Request β)
    (state : E.State) : s'.perform moment request state = s.perform moment request state := by
  rw [← perform_rinsed s', h, perform_rinsed]

/-- With an engine that has no clock, the moment does not matter. -/
theorem perform_of_timeless (h : E.Timeless) (s : Session E) (moment moment' : Nat)
    (request : Request β) (state : E.State) :
    s.perform moment' request state = s.perform moment request state := by
  rw [perform, perform, h moment moment']

end Session

namespace Peer

variable {β : Type} {E : Engine β}

/-- The peer with nothing left in the buffer of its session. -/
def rinsed (p : Peer E) : Peer E := p.withSession p.session.rinsed

theorem congr_of_rinsed_eq {γ : Type} {p p' : Peer E} (f : Peer E → γ)
    (hf : ∀ p, f p.rinsed = f p) (h : p'.rinsed = p.rinsed) : f p' = f p := by
  rw [← hf p', h, hf p]

end Peer

/-! ## Things by name -/

section Named

variable {α γ : Type} {f : α → γ} {items items' : List (String × α)} {a a' : α} {name : String}

/-- Lists by name in which each name stands for the same, as far as `f` can tell. Their order does
not matter. -/
def SameNamed (f : α → γ) (items items' : List (String × α)) : Prop :=
  ∀ name, (items'.lookup name).map f = (items.lookup name).map f

namespace SameNamed

theorem refl (f : α → γ) (items : List (String × α)) : SameNamed f items items := fun _ => rfl

theorem dropNamed (h : SameNamed f items items') (name : String) :
    SameNamed f (TunnelHost.dropNamed name items) (TunnelHost.dropNamed name items') := by
  intro other
  rw [TunnelHost.dropNamed, TunnelHost.dropNamed, lookup_filter_ne, lookup_filter_ne]
  split
  · rfl
  · exact h other

/-- Lists stay the same by name when the same is put under a name in both. -/
theorem putNamed (h : SameNamed f items items') (name : String) (ha : f a' = f a) :
    SameNamed f (TunnelHost.putNamed name a items) (TunnelHost.putNamed name a' items') := by
  intro other
  rw [TunnelHost.putNamed, TunnelHost.putNamed, lookup_cons_eq, lookup_cons_eq]
  split
  · exact congrArg some ha
  · exact h.dropNamed name other

/-- To put a thing where it stood, or one that looks the same, changes nothing. -/
theorem putNamed_of_lookup (ha : items.lookup name = some a) (hf : f a' = f a) :
    SameNamed f items (TunnelHost.putNamed name a' items) := by
  intro other
  rw [TunnelHost.putNamed, lookup_cons_eq]
  split
  next hother =>
    rw [hother, ha]
    exact congrArg some hf
  next hother => rw [lookup_filter_ne, if_neg hother]

/-- A name stands for nothing in either list, or for things that look the same. -/
theorem lookup (h : SameNamed f items items') (name : String) :
    (items.lookup name = none ∧ items'.lookup name = none)
      ∨ ∃ a a', items.lookup name = some a ∧ items'.lookup name = some a' ∧ f a' = f a := by
  have hlookup := h name
  cases ha : items.lookup name with
  | none =>
    rw [ha, Option.map_none, Option.map_eq_none_iff] at hlookup
    exact .inl ⟨rfl, hlookup⟩
  | some a =>
    rw [ha, Option.map_some, Option.map_eq_some_iff] at hlookup
    obtain ⟨a', ha', hf⟩ := hlookup
    exact .inr ⟨a, a', rfl, ha', hf⟩

end SameNamed

end Named

/-! ## Hosts -/

/-- Whether a step asks something of sessions and peers only. -/
def Step.onSessions {β : Type} : Step β → Bool
  | .describe _ => true
  | .call _ _ => true
  | .stats _ => true
  | .close _ => true
  | .wrapSession _ _ _ _ => true
  | .dropPeer _ => true
  | .unwrapPeer _ _ => true
  | .setEndpoint _ _ => true
  | .admits _ _ => true
  | .callPeer _ _ _ => true
  | .route _ _ _ => true
  | _ => false

namespace Host

variable {β : Type} {E : Engine β} {h h' : Host E} {s s' : Session E} {p p' : Peer E}

/-- Hosts with the same engines, and with the same sessions and peers but for what is left in their
buffers. It is the same time for both, unless the engine does not look at it. -/
structure Alike (h h' : Host E) : Prop where
  time : E.Timeless ∨ h'.clock = h.clock
  engines : h'.engines = h.engines
  sessions : SameNamed Session.rinsed h.sessions h'.sessions
  peers : SameNamed Peer.rinsed h.peers h'.peers

/-- Results of a step with hosts that are alike and the same answer. -/
structure Matches (result result' : Host E × Answer β) : Prop where
  alike : Alike result.1 result'.1
  answer : result'.2 = result.2

theorem Alike.advance (ha : Alike h h') :
    Alike { h with clock := h.clock + 1 } { h' with clock := h'.clock + 1 } :=
  ⟨ha.time.imp_right (congrArg (· + 1)), ha.engines, ha.sessions, ha.peers⟩

theorem Alike.engineState (ha : Alike h h') (engine : Nat) :
    h'.engineState engine = h.engineState engine := by
  rw [Host.engineState, Host.engineState, ha.engines]

theorem Alike.setEngine (ha : Alike h h') (engine : Nat) (state : E.State) :
    Alike (h.setEngine engine state) (h'.setEngine engine state) :=
  ⟨ha.time, congrArg (·.set engine state) ha.engines, ha.sessions, ha.peers⟩

/-- What handlers are told is nothing to sessions. -/
theorem Alike.deliver (ha : Alike h h') (engine : Nat) (events : List Event) :
    Alike (h.deliver engine events) (h'.deliver engine events) := by
  rw [Host.deliver, Host.deliver]
  split <;> split <;> exact ⟨ha.time, ha.engines, ha.sessions, ha.peers⟩

theorem Alike.putNamed_session (ha : Alike h h') (name : String) (hs : s'.rinsed = s.rinsed) :
    Alike { h with sessions := putNamed name s h.sessions }
      { h' with sessions := putNamed name s' h'.sessions } where
  time := ha.time
  engines := ha.engines
  sessions := ha.sessions.putNamed name hs
  peers := ha.peers

theorem Alike.dropNamed_session (ha : Alike h h') (name : String) :
    Alike { h with sessions := dropNamed name h.sessions }
      { h' with sessions := dropNamed name h'.sessions } where
  time := ha.time
  engines := ha.engines
  sessions := ha.sessions.dropNamed name
  peers := ha.peers

theorem Alike.putNamed_peer (ha : Alike h h') (name : String) (hp : p'.rinsed = p.rinsed) :
    Alike { h with peers := putNamed name p h.peers }
      { h' with peers := putNamed name p' h'.peers } where
  time := ha.time
  engines := ha.engines
  sessions := ha.sessions
  peers := ha.peers.putNamed name hp

theorem Alike.dropNamed_peer (ha : Alike h h') (name : String) :
    Alike { h with peers := dropNamed name h.peers }
      { h' with peers := dropNamed name h'.peers } where
  time := ha.time
  engines := ha.engines
  sessions := ha.sessions
  peers := ha.peers.dropNamed name

/-! ## Ends and changes of place -/

theorem Alike.release (ha : Alike h h') (hs : s'.rinsed = s.rinsed) :
    Alike (h.release s) (h'.release s') := by
  have hfamily : s'.family = s.family := Session.congr_of_rinsed_eq _ (fun _ => rfl) hs
  have htunnel : s'.tunnel = s.tunnel := Session.congr_of_rinsed_eq _ (fun _ => rfl) hs
  rw [Host.release, Host.release, hfamily, htunnel, ha.engineState]
  exact ha.setEngine _ _

/-- Dropping a session leaves hosts alike, and tells the same. -/
theorem Alike.dropSession (ha : Alike h h') (name : String) :
    Alike (h.dropSession name).1 (h'.dropSession name).1
      ∧ (h'.dropSession name).2 = (h.dropSession name).2 := by
  rw [Host.dropSession, Host.dropSession]
  rcases ha.sessions.lookup name with ⟨hnone, hnone'⟩ | ⟨s, s', hs, hs', hrinsed⟩
  · rw [hnone, hnone']
    exact ⟨ha, rfl⟩
  · rw [hs, hs']
    exact ⟨(ha.dropNamed_session name).release hrinsed, rfl⟩

theorem Alike.putSession (ha : Alike h h') (name : String) (hs : s'.rinsed = s.rinsed) :
    Alike (h.putSession name s) (h'.putSession name s') :=
  (ha.dropSession name).1.putNamed_session name hs

theorem Alike.dropPeer (ha : Alike h h') (name : String) :
    Alike (h.dropPeer name).1 (h'.dropPeer name).1
      ∧ (h'.dropPeer name).2 = (h.dropPeer name).2 := by
  rw [Host.dropPeer, Host.dropPeer]
  rcases ha.peers.lookup name with ⟨hnone, hnone'⟩ | ⟨p, p', hp, hp', hrinsed⟩
  · rw [hnone, hnone']
    exact ⟨ha, rfl⟩
  · rw [hp, hp']
    exact ⟨(ha.dropNamed_peer name).release (congrArg Peer.session hrinsed), rfl⟩

theorem Alike.putPeer (ha : Alike h h') (name : String) (hp : p'.rinsed = p.rinsed) :
    Alike (h.putPeer name p) (h'.putPeer name p') :=
  (ha.dropPeer name).1.putNamed_peer name hp

theorem Alike.wrapSession (ha : Alike h h') (session name allowed : String)
    (endpoint : Option Endpoint) (hs : s'.rinsed = s.rinsed) :
    Alike (h.wrapSession session name allowed endpoint s).1
        (h'.wrapSession session name allowed endpoint s').1
      ∧ (h'.wrapSession session name allowed endpoint s').2
        = (h.wrapSession session name allowed endpoint s).2 := by
  rw [Host.wrapSession, Host.wrapSession]
  have hdropped := ha.dropNamed_session session
  cases AllowedList.ofText allowed with
  | error breach => exact ⟨hdropped.release hs, rfl⟩
  | ok networks =>
    have hpeer : Peer.rinsed ⟨s', networks, endpoint⟩ = Peer.rinsed ⟨s, networks, endpoint⟩ :=
      congrArg (fun s => (⟨s, networks, endpoint⟩ : Peer E)) hs
    exact ⟨hdropped.putPeer name hpeer, rfl⟩

/-! ## Requests -/

/-- A request leads to the same, and leaves the same session behind. -/
theorem Alike.perform (ha : Alike h h') (hs : s'.rinsed = s.rinsed) (request : Request β) :
    s'.perform h'.clock request (h'.engineState s'.family.value.engine)
      = s.perform h.clock request (h.engineState s.family.value.engine) := by
  have hfamily : s'.family = s.family := Session.congr_of_rinsed_eq _ (fun _ => rfl) hs
  rw [Session.perform_eq_of_rinsed_eq hs, hfamily, ha.engineState]
  rcases ha.time with htimeless | hclock
  · exact Session.perform_of_timeless htimeless s _ _ request _
  · rw [hclock]

theorem Alike.call (ha : Alike h h') (name : String) (hs : s'.rinsed = s.rinsed)
    (request : Request β) :
    Alike (h.call name s request).1 (h'.call name s' request).1
      ∧ (h'.call name s' request).2 = (h.call name s request).2 := by
  have hfamily : s'.family = s.family := Session.congr_of_rinsed_eq _ (fun _ => rfl) hs
  rw [Host.call, Host.call, ha.perform hs, hfamily]
  exact ⟨((ha.putNamed_session name rfl).setEngine _ _).deliver _ _, rfl⟩

/-- A request that a peer makes leaves hosts alike, and tells the same. -/
theorem Alike.callPeer (ha : Alike h h') (name : String) (hp : p'.rinsed = p.rinsed)
    (request : Request β) (source : Option Endpoint) :
    Alike (h.callPeer name p request source).1 (h'.callPeer name p' request source).1
      ∧ (h'.callPeer name p' request source).2 = (h.callPeer name p request source).2 := by
  have hsession : p'.session.rinsed = p.session.rinsed := congrArg Peer.session hp
  have hfamily : p'.session.family = p.session.family :=
    Session.congr_of_rinsed_eq _ (fun _ => rfl) hsession
  -- a peer adds to the turn of its session what depends on its endpoint only
  have hturn : p'.perform h'.clock request source (h'.engineState p'.session.family.value.engine)
      = p.perform h.clock request source (h.engineState p.session.family.value.engine) := by
    have hallowed : p'.allowed = p.allowed := Peer.congr_of_rinsed_eq _ (fun _ => rfl) hp
    have hendpoint : p'.endpoint = p.endpoint := Peer.congr_of_rinsed_eq _ (fun _ => rfl) hp
    cases p
    cases p'
    cases hallowed
    cases hendpoint
    show Peer.perform _ _ _ _ _ = Peer.perform _ _ _ _ _
    unfold Peer.perform
    rw [ha.perform hsession]
    rfl
  rw [Host.callPeer, Host.callPeer, hturn, hfamily]
  exact ⟨((ha.putNamed_peer name rfl).setEngine _ _).deliver _ _, rfl⟩

/-! ## Steps -/

/-- Acting on something by its name matches if acting on it does. -/
theorem matches_withNamed {α γ : Type} {f : α → γ} {items items' : List (String × α)}
    {g g' : α → Host E × Answer β} (ha : Alike h h') (hitems : SameNamed f items items')
    (name : String) (hg : ∀ a a', f a' = f a → Matches (g a) (g' a')) :
    Matches (h.withNamed items name g) (h'.withNamed items' name g') := by
  rw [withNamed, withNamed]
  rcases hitems.lookup name with ⟨hnone, hnone'⟩ | ⟨a, a', hl, hl', hf⟩
  · rw [hnone, hnone']
    exact ⟨ha, rfl⟩
  · rw [hl, hl']
    exact hg a a' hf

/-- **Steps on sessions match** in hosts that are alike: they lead to hosts that are alike, and tell
the same. -/
theorem Alike.act (ha : Alike h h') {step : Step β} (hstep : step.onSessions = true) :
    Matches (h.act step) (h'.act step) := by
  cases step with
  | describe name =>
    refine matches_withNamed ha ha.sessions name fun s s' hs => ⟨ha, ?_⟩
    exact congrArg Answer.session (Session.congr_of_rinsed_eq Session.view (fun _ => rfl) hs)
  | call name request =>
    refine matches_withNamed ha ha.sessions name fun s s' hs => ?_
    obtain ⟨halike, hresult⟩ := ha.call name hs request
    exact ⟨halike, congrArg envelopeAnswer hresult⟩
  | stats name =>
    rw [Host.act, Host.act]
    rcases ha.sessions.lookup name with ⟨hnone, hnone'⟩ | ⟨s, s', hl, hl', hs⟩
    · rw [hnone, hnone']
      refine matches_withNamed ha ha.peers name fun p p' hp => ⟨ha, ?_⟩
      exact Peer.congr_of_rinsed_eq (fun p => Answer.stats p.session.stats) (fun _ => rfl) hp
    · rw [hl, hl']
      exact ⟨ha, congrArg Answer.stats (Session.congr_of_rinsed_eq Session.stats (fun _ => rfl) hs)⟩
  | close name =>
    obtain ⟨halike, hthere⟩ := ha.dropSession name
    rw [Host.act, Host.act]
    -- the answer is told by the flag, which is the same in both
    generalize h.dropSession name = result at halike hthere
    generalize h'.dropSession name = result' at halike hthere
    obtain ⟨k, there⟩ := result
    obtain ⟨k', there'⟩ := result'
    cases hthere
    cases there <;> exact ⟨halike, rfl⟩
  | wrapSession name session allowed endpoint =>
    refine matches_withNamed ha ha.sessions session fun s s' hs => ?_
    obtain ⟨halike, hresult⟩ := ha.wrapSession session name allowed endpoint hs
    generalize h.wrapSession session name allowed endpoint s = result at halike hresult
    generalize h'.wrapSession session name allowed endpoint s' = result' at halike hresult
    obtain ⟨k, outcome⟩ := result
    obtain ⟨k', outcome'⟩ := result'
    cases hresult
    cases outcome <;> exact ⟨halike, rfl⟩
  | dropPeer name =>
    obtain ⟨halike, hthere⟩ := ha.dropPeer name
    exact ⟨halike, congrArg Answer.flag hthere⟩
  | unwrapPeer name session =>
    refine matches_withNamed ha ha.peers name fun p p' hp => ⟨?_, rfl⟩
    exact (ha.dropNamed_peer name).putSession session (congrArg Peer.session hp)
  | setEndpoint name endpoint =>
    refine matches_withNamed ha ha.peers name fun p p' hp => ⟨?_, ?_⟩
    · exact ha.putNamed_peer name (congrArg (·.setEndpoint endpoint) hp)
    · exact Peer.congr_of_rinsed_eq (fun p => Answer.endpoints endpoint p.endpoint)
        (fun _ => rfl) hp
  | admits name ip =>
    refine matches_withNamed ha ha.peers name fun p p' hp => ⟨ha, ?_⟩
    exact Peer.congr_of_rinsed_eq (fun p => Answer.flag (p.admits ip)) (fun _ => rfl) hp
  | callPeer name request source =>
    refine matches_withNamed ha ha.peers name fun p p' hp => ?_
    obtain ⟨halike, hresult⟩ := ha.callPeer name hp request source
    exact ⟨halike, congrArg (fun r : Peer E × _ => peerAnswer request r.1 r.2) hresult⟩
  | route name report output =>
    refine matches_withNamed ha ha.peers name fun p p' hp => ?_
    have hroute : p'.route = p.route := Peer.congr_of_rinsed_eq Peer.route (fun _ => rfl) hp
    cases classify report output with
    | ok e => exact ⟨ha, congrArg Answer.route (congrFun hroute e)⟩
    | error v => exact ⟨ha, rfl⟩
  | _ => cases hstep

/-- **A step on sessions depends on sessions only.** -/
theorem Alike.step (ha : Alike h h') {step : Step β} (hstep : step.onSessions = true) :
    Matches (h.step step) (h'.step step) := ha.advance.act hstep

/-- The answers of steps: that of the first, and those of the rest after it. -/
theorem answers_cons (h : Host E) (step : Step β) (rest : List (Step β)) :
    (h.run (step :: rest)).2 = (h.step step).2 :: ((h.step step).1.run rest).2 := rfl

/-- Steps on sessions give the same answers, however many there are. -/
theorem Alike.run (ha : Alike h h') {steps : List (Step β)}
    (hsteps : ∀ step ∈ steps, step.onSessions = true) : (h'.run steps).2 = (h.run steps).2 := by
  induction steps generalizing h h' with
  | nil => rfl
  | cons step rest ih =>
    have hfirst := ha.step (hsteps step List.mem_cons_self)
    have hrest := ih hfirst.alike fun step' hmem => hsteps step' (List.mem_cons_of_mem step hmem)
    rw [answers_cons, answers_cons, hfirst.answer, hrest]

end Host

end TunnelHost
