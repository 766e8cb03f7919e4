import TunnelHost.Proofs.HostInvariant

/-!
# Requests by way of a host

A session stands under a name of its own or in a peer. Either way a request that is made of it by a
step of the host is a request of the session, served with the state of its engine: the step crashes
exactly if the session's request does, and the session that stands there afterwards is the one that
served it.

- `Holder`: where a session stands, with `Host.sessionAt` and `Holder.call`.
- `Host.step_call_eq_crash_iff`, `Host.sessionAt_step_call`: a request as a step.
- `Host.Keeps.sessionAt`: the invariant, for the session that stands somewhere.
-/

namespace TunnelHost

/-- Where a session stands. -/
inductive Holder where
  | session (name : String)
  | peer (name : String)
  deriving DecidableEq, Repr

/-- The step that makes a request of the session that stands there. A datagram's source is made
use of by peers only. -/
def Holder.call {β : Type} (request : Request β) (source : Option Endpoint) : Holder → Step β
  | session name => .call name request
  | peer name => .callPeer name request source

namespace Host

variable {β : Type} {E : Engine β} {h : Host E} {s : Session E}

/-- The session that stands somewhere. -/
def sessionAt (h : Host E) : Holder → Option (Session E)
  | .session name => h.sessions.lookup name
  | .peer name => (h.peers.lookup name).map (·.session)

/-- The invariant holds of a session wherever it stands. -/
theorem Keeps.sessionAt {P : Session E → Prop} (hk : h.Keeps P) {holder : Holder}
    (hs : h.sessionAt holder = some s) : s.Holds P h.engines.length := by
  cases holder with
  | session name => exact hk.sessions _ (mem_of_lookup hs)
  | peer name =>
    obtain ⟨p, hp, rfl⟩ := Option.map_eq_some_iff.mp hs
    exact hk.peers _ (mem_of_lookup hp)

/-! ## Answers -/

theorem envelopeAnswer_eq_crash_iff {result : Except CallError (Envelope β)} :
    envelopeAnswer result = .crash ↔ result = .error .crash := by
  rcases result with (v | _) | e <;> simp [envelopeAnswer]

theorem peerAnswer_eq_crash_iff {request : Request β} {p : Peer E}
    {result : Except CallError (Route β × Bool)} :
    peerAnswer request p result = .crash ↔ result = .error .crash := by
  rcases result with (v | _) | ⟨r, accepted⟩ <;> cases request <;> simp [peerAnswer]

/-! ## Steps -/

@[simp] theorem sessions_deliver (h : Host E) (engine : Nat) (events : List Event) :
    (h.deliver engine events).sessions = h.sessions := by
  unfold deliver
  split <;> rfl

@[simp] theorem peers_deliver (h : Host E) (engine : Nat) (events : List Event) :
    (h.deliver engine events).peers = h.peers := by
  unfold deliver
  split <;> rfl

theorem lookup_putNamed {α : Type} (name : String) (a : α) (items : List (String × α)) :
    (putNamed name a items).lookup name = some a := List.lookup_cons_self

variable (request : Request β) (source : Option Endpoint)

/-- The request that a step makes of a session: it is a moment later by then. -/
def turnOf (h : Host E) (s : Session E) (request : Request β) : Turn E :=
  s.perform (h.clock + 1) request (h.engineState s.family.value.engine)

/-- A step crashes if the request does that it makes of a session. -/
theorem step_call_eq_crash_iff {holder : Holder} (hs : h.sessionAt holder = some s) :
    (h.step (holder.call request source)).2 = .crash
      ↔ (h.turnOf s request).result = .error .crash := by
  cases holder with
  | session name =>
    have hlookup : h.sessions.lookup name = some s := hs
    rw [step, Holder.call, act, withNamed, hlookup]
    exact envelopeAnswer_eq_crash_iff
  | peer name =>
    obtain ⟨p, hp, rfl⟩ := Option.map_eq_some_iff.mp hs
    have hlookup : h.peers.lookup name = some p := hp
    rw [step, Holder.call, act, withNamed, hlookup]
    exact peerAnswer_eq_crash_iff.trans map_eq_error_iff

/-- Where a session stood that was called, the session stands that served the call. -/
theorem sessionAt_step_call {holder : Holder} (hs : h.sessionAt holder = some s) :
    (h.step (holder.call request source)).1.sessionAt holder
      = some (h.turnOf s request).session := by
  cases holder with
  | session name =>
    have hlookup : h.sessions.lookup name = some s := hs
    rw [step, Holder.call, act, withNamed, hlookup]
    -- what handlers are told changes no session
    show (Host.sessions (deliver _ _ _)).lookup name = _
    rw [sessions_deliver]
    exact lookup_putNamed name _ _
  | peer name =>
    obtain ⟨p, hp, rfl⟩ := Option.map_eq_some_iff.mp hs
    have hlookup : h.peers.lookup name = some p := hp
    rw [step, Holder.call, act, withNamed, hlookup]
    show ((Host.peers (deliver _ _ _)).lookup name).map _ = _
    rw [peers_deliver]
    exact congrArg (Option.map _) (lookup_putNamed name _ _)

end Host

end TunnelHost
