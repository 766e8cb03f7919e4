import TunnelHost.Proofs.EndpointMoves

/-!
# Where the octets of an envelope go

A peer turns what its session gives into a route. Nothing is lost or altered on the way: the octets
of a route are those of the envelope, what is meant for the network goes to the endpoint that is
known once the request has been served, and what is meant for the tunnel stays on this side.

- `Route.Suits`: what a route has to be, by the status and the octets of an envelope.
- `Route.suits_iff`: there is one such route, the one that the program takes.
- `Peer.reported_of_result`: the engine has reported what is sent, and what is delivered.
- `Peer.perform_suits`: every request by way of a peer, next to the same request without one.
-/

namespace TunnelHost

/-! ## Routes of envelopes -/

namespace Route

variable {β : Type} {endpoint : Option Endpoint} {e : Envelope β} {route : Route β}

/-- What the route of an envelope has to be, given the endpoint as far as it is known. Octets that
are sent or delivered are the envelope's own. -/
structure Suits (endpoint : Option Endpoint) (e : Envelope β) (route : Route β) : Prop where
  nothing : route = .nothing ↔ e.status = .done
  toNetwork : ∀ a data, route = .toNetwork a data ↔
    e.status = .toNetwork ∧ endpoint = some a ∧ e.data? = some data
  noEndpoint : route = .dropped .noEndpoint ↔ e.status = .toNetwork ∧ endpoint = none
  toIpv4 : ∀ data, route = .toIpv4 data ↔ e.status = .toTunnel4 ∧ e.data? = some data
  version6 : route = .dropped .version6 ↔ e.status = .toTunnel6
  engineFailed : route = .dropped .engineFailed ↔ e.status = .failed

theorem suits_of (endpoint : Option Endpoint) (e : Envelope β) :
    Suits endpoint e (.of endpoint e) := by
  constructor
  all_goals
    cases e <;> cases endpoint <;> simp [Route.of, Envelope.status, Envelope.data?]

/-- The envelope and the endpoint settle the route. -/
theorem suits_iff : Suits endpoint e route ↔ route = .of endpoint e := by
  constructor
  · intro h
    -- each status has a route of its own, and the network has one for each endpoint
    cases e with
    | done => exact h.nothing.mpr rfl
    | toNetwork data =>
      cases endpoint with
      | none => exact h.noEndpoint.mpr ⟨rfl, rfl⟩
      | some a => exact (h.toNetwork a data).mpr ⟨rfl, rfl, rfl⟩
    | failed => exact h.engineFailed.mpr rfl
    | toTunnel4 data => exact (h.toIpv4 data).mpr ⟨rfl, rfl⟩
    | toTunnel6 data => exact h.version6.mpr rfl
  · rintro rfl
    exact suits_of endpoint e

end Route

/-! ## Requests by way of a peer -/

namespace Peer

variable {β : Type} {E : Engine β}

section Perform

variable (p : Peer E) (moment : Nat) (request : Request β) (source : Option Endpoint)
  (state : E.State)

/-- The engine's reply to a request that it serves for a peer. -/
def replyTo : Reply E.State E.Handle β p.session.capacity :=
  Session.replyTo E p.session.capacity moment request p.session.tunnel state

/-- A peer's result is a route that suits what its bare session would have got, told with whether
the engine accepted its input. -/
theorem perform_eq_ok_iff_suits {route : Route β} {accepted : Bool} :
    (p.perform moment request source state).result = .ok (route, accepted)
      ↔ ∃ e, (p.session.perform moment request state).result = .ok e
          ∧ route.Suits (p.perform moment request source state).peer.endpoint e
          ∧ accepted = (e.status != .failed) := by
  simp only [Route.suits_iff]
  exact perform_result_eq_ok_iff p moment request source state

variable {p moment request source state}

/-- An envelope with octets comes from a report of its tag, and has as many octets as are
reported, from the front of the buffer. -/
theorem reported_of_result {e : Envelope β} {data : List β}
    (hresult : (p.session.perform moment request state).result = .ok e)
    (hdata : e.data? = some data) :
    ∃ size, (p.replyTo moment request state).report = some ⟨e.status.tag, size⟩
      ∧ size ≤ p.session.capacity
      ∧ data = (p.replyTo moment request state).buffer.contents.take size := by
  rw [Session.perform_result] at hresult
  obtain ⟨tag, size, hreport, -, hsize, htag, henvelope⟩ :=
    ((judged_judge (p.replyTo moment request state)).ok e).mp hresult
  refine ⟨size, ?_, hsize, ?_⟩
  · rw [htag]
    exact hreport
  · -- octets are there, so the tag is one of those that carry some
    rw [hdata] at henvelope
    split at henvelope
    · exact Option.some.inj henvelope
    · cases henvelope

/-- A datagram that starts a handshake is answered where it came from. -/
theorem answer_goes_to_source {datagram : List β} {a : Endpoint} {data : List β}
    (hrequest : request = .read datagram) (hsource : source = some a)
    (hstart : StartsHandshake E.byte? datagram) :
    (p.perform moment request source state).result = .ok (.toNetwork a data, true)
      ↔ (p.session.perform moment request state).result = .ok (.toNetwork data) := by
  subst hrequest hsource
  rw [perform_eq_ok_iff_suits]
  constructor
  · rintro ⟨e, hresult, hsuits, -⟩
    obtain ⟨hstatus, -, hdata⟩ := (hsuits.toNetwork a data).mp rfl
    have he : e = .toNetwork data := Envelope.ext_status_data hstatus hdata
    rw [← he]
    exact hresult
  · intro hresult
    -- the same read teaches the endpoint, so the answer goes to where it came from
    have haccepts := (exists_perform_result_iff p moment (.read datagram) state).mp
      ⟨_, hresult, by simp [Envelope.status]⟩
    have hendpoint : (p.perform moment (.read datagram) (some a) state).peer.endpoint = some a :=
      endpoint_act_of_moves (d := .serve moment state (.read datagram) (some a))
        (.learned hstart haccepts)
    refine ⟨_, hresult, ?_, rfl⟩
    rw [hendpoint]
    exact Route.suits_of (some a) (.toNetwork data)

end Perform

/-- **A peer sends and delivers what its session gives, and nothing else.** Next to the same
request to the bare session: tunnel, engine and events are the same, and so is an error. An
envelope becomes the route that suits it and the endpoint as it is known after the request, so that
the reply to a handshake which the engine takes goes to where that came from. What is sent the
engine has reported as output for the network, and what is delivered as a packet for the local
stack. -/
theorem perform_suits (p : Peer E) (moment : Nat) (request : Request β) (source : Option Endpoint)
    (state : E.State) :
    let bare := p.session.perform moment request state
    let turn := p.perform moment request source state
    let reply := p.replyTo moment request state
    (turn.peer.session = bare.session ∧ turn.state = bare.state ∧ turn.events = bare.events)
    ∧ (∀ route accepted, turn.result = .ok (route, accepted) ↔
        ∃ e, bare.result = .ok e ∧ route.Suits turn.peer.endpoint e
          ∧ accepted = (e.status != .failed))
    ∧ (∀ e, turn.result = .error e ↔ bare.result = .error e)
    ∧ (∀ datagram a data, request = .read datagram → source = some a →
        StartsHandshake E.byte? datagram →
        (turn.result = .ok (.toNetwork a data, true) ↔ bare.result = .ok (.toNetwork data)))
    ∧ (∀ a data accepted, turn.result = .ok (.toNetwork a data, accepted) →
        ∃ size, reply.report = some ⟨1, size⟩ ∧ size ≤ p.session.capacity
          ∧ data = reply.buffer.contents.take size)
    ∧ ∀ data accepted, turn.result = .ok (.toIpv4 data, accepted) →
        ∃ size, reply.report = some ⟨4, size⟩ ∧ size ≤ p.session.capacity
          ∧ data = reply.buffer.contents.take size := by
  intro bare turn reply
  refine ⟨⟨rfl, rfl, rfl⟩, ?_, ?_, ?_, ?_, ?_⟩
  · intro route accepted
    exact perform_eq_ok_iff_suits p moment request source state
  · intro e
    exact perform_result_eq_error_iff p moment request source state
  · intro datagram a data hrequest hsource hstart
    exact answer_goes_to_source hrequest hsource hstart
  · intro a data accepted hturn
    obtain ⟨e, hresult, hsuits, -⟩ :=
      (perform_eq_ok_iff_suits p moment request source state).mp hturn
    -- the route tells the status, and the status the tag that was reported
    obtain ⟨hstatus, -, hdata⟩ := (hsuits.toNetwork a data).mp rfl
    have hreported := reported_of_result hresult hdata
    rw [hstatus] at hreported
    exact hreported
  · intro data accepted hturn
    obtain ⟨e, hresult, hsuits, -⟩ :=
      (perform_eq_ok_iff_suits p moment request source state).mp hturn
    obtain ⟨hstatus, hdata⟩ := (hsuits.toIpv4 data).mp rfl
    have hreported := reported_of_result hresult hdata
    rw [hstatus] at hreported
    exact hreported

end Peer

end TunnelHost
