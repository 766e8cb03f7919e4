import TunnelHost.Proofs.Classification
import TunnelHost.Scripted

/-!
# Requests and what was in the buffer before them

A session keeps one output buffer for all its requests. The buffer is emptied before each of them,
so that nothing which an earlier request left in it can come out of a later one: what a request
leads to is settled by the tunnel, the engine's state and the capacity.

- `Session.Reaches`: the sessions that requests lead to.
- `Session.serve`: the results of one request after the other.
- `Session.serve_eq_of_same_tunnel`: results do not depend on the contents of the buffer.
- `Session.perform_of_reaches`: what a request gets and gives, whatever came before it.
-/

namespace TunnelHost

namespace Session

variable {β : Type} {E : Engine β}

/-- Sessions that requests lead to. The engine may be in any state at any of them, since it may
serve other sessions in between. -/
inductive Reaches : Session E → Session E → Prop
  | refl (s : Session E) : Reaches s s
  | perform {s t : Session E} (h : Reaches s t) (moment : Nat) (request : Request β)
      (state : E.State) : Reaches s (t.perform moment request state).session

/-- The results of requests that are served one after the other, each at its moment. -/
def serve (s : Session E) (state : E.State) :
    List (Nat × Request β) → List (Except CallError (Envelope β))
  | [] => []
  | (moment, request) :: rest =>
    let turn := s.perform moment request state
    turn.result :: turn.session.serve turn.state rest

/-- The engine's reply to a request of a tunnel, given a buffer of zeros. -/
def replyTo (E : Engine β) (capacity moment : Nat) (request : Request β) (tunnel : E.Handle)
    (state : E.State) : Reply E.State E.Handle β capacity :=
  E.run moment request tunnel (.zeroed E.zero capacity) state

/-! ## One request -/

section Perform

variable (s : Session E) (moment : Nat) (request : Request β) (state : E.State)

/-- A request leaves the engine in the state of its reply, to a buffer of zeros. -/
theorem perform_state :
    (s.perform moment request state).state
      = (replyTo E s.capacity moment request s.tunnel state).state := by
  rw [perform, Buffer.blank_eq_zeroed]
  rfl

theorem perform_tunnel :
    (s.perform moment request state).session.tunnel
      = (replyTo E s.capacity moment request s.tunnel state).handle := by
  rw [perform, Buffer.blank_eq_zeroed]
  rfl

/-- The result is what is judged of the reply, and of nothing that stood in the buffer before. -/
theorem perform_result :
    (s.perform moment request state).result
      = judge (replyTo E s.capacity moment request s.tunnel state).report
          (replyTo E s.capacity moment request s.tunnel state).buffer.contents := by
  rw [perform, Buffer.blank_eq_zeroed]
  rfl

/-- The whole turn of a request, by the reply to it. -/
theorem perform_of_replyTo {reply : Reply E.State E.Handle β s.capacity}
    (hreply : replyTo E s.capacity moment request s.tunnel state = reply) :
    s.perform moment request state
      = ⟨{ s with tunnel := reply.handle, output := reply.buffer }, reply.state,
          judge reply.report reply.buffer.contents, reply.events⟩ := by
  rw [perform, Buffer.blank_eq_zeroed]
  subst hreply
  rfl

@[simp] theorem perform_capacity :
    (s.perform moment request state).session.capacity = s.capacity := rfl

end Perform

/-! ## Many requests -/

/-- The capacity of a session is fixed. -/
theorem capacity_of_reaches {s t : Session E} (h : Reaches s t) : t.capacity = s.capacity := by
  induction h with
  | refl => rfl
  | perform _ moment request state ih =>
    rw [perform_capacity]
    exact ih

/-- Two sessions with one capacity and one tunnel have the same results, whatever requests have left
in the buffer of either, and whether these failed or not. -/
theorem serve_eq_of_same_tunnel {s t : Session E} (hcapacity : s.capacity = t.capacity)
    (htunnel : s.tunnel = t.tunnel) (state : E.State) (requests : List (Nat × Request β)) :
    s.serve state requests = t.serve state requests := by
  -- one request leads both sessions to one tunnel and one state, and the rest follows from these
  induction requests generalizing s t state with
  | nil => rfl
  | cons head rest ih =>
    obtain ⟨moment, request⟩ := head
    have hresult : (s.perform moment request state).result
        = (t.perform moment request state).result := by
      rw [perform_result, perform_result, hcapacity, htunnel]
    have hstate : (s.perform moment request state).state
        = (t.perform moment request state).state := by
      rw [perform_state, perform_state, hcapacity, htunnel]
    have hnext : (s.perform moment request state).session.tunnel
        = (t.perform moment request state).session.tunnel := by
      rw [perform_tunnel, perform_tunnel, hcapacity, htunnel]
    show _ :: _ = _ :: _
    rw [hresult, hstate, ih (by exact hcapacity) hnext]

/-- **A request sees nothing of those before it.** Whatever requests a session has served, the
engine is handed as many octets as the session's capacity has always been, all zero. The result is
the one that the reply to this request calls for, with octets from the buffer as this reply left
it, and both it and all later results are those of any other session with the same tunnel and
capacity. -/
theorem perform_of_reaches {s t : Session E} (hst : Reaches s t) (moment : Nat)
    (request : Request β) (state : E.State) :
    t.capacity = s.capacity ∧
    ∃ handed : Buffer β s.capacity,
      handed.contents = List.replicate s.capacity E.zero ∧
      (let reply := E.run moment request t.tunnel handed state
       let turn := t.perform moment request state
       turn.state = reply.state ∧ turn.session.tunnel = reply.handle ∧
        Judged reply turn.result) ∧
      ∀ u : Session E, u.capacity = s.capacity → u.tunnel = t.tunnel →
        ∀ later, u.serve state ((moment, request) :: later)
          = t.serve state ((moment, request) :: later) := by
  have hcapacity := capacity_of_reaches hst
  refine ⟨hcapacity, .zeroed E.zero s.capacity, Buffer.contents_zeroed _ _, ?_, ?_⟩
  · rw [← hcapacity]
    refine ⟨perform_state t moment request state, perform_tunnel t moment request state, ?_⟩
    rw [perform_result]
    exact judged_judge _
  · intro u hu htunnel later
    exact serve_eq_of_same_tunnel (hu.trans hcapacity.symm) htunnel state _

/-- A session of the scripted engine, with a buffer of the least capacity. -/
def scriptedSample : Session Scripted.engine where
  id := 1
  arguments := ⟨"", "", none, 25, 0⟩
  family := ⟨1, ⟨0, { buffer := { capacity := 148 } }⟩⟩
  tunnel := (1 : Nat)
  output := .zeroed 0 _

/-- Two requests: the first leaves octets in the buffer and breaks the contract, the second claims
more octets than are written for it. -/
def scriptedSampleState : Scripted.State where
  script := [⟨9, [255, 255, 255, 255], none⟩, ⟨1, [7, 7], some 4⟩]

/-- After a request that failed with octets left in the buffer, one that claims more than it writes
gets zeros for the rest. -/
theorem perform_of_reaches_failed :
    let first := scriptedSample.perform 0 .tick scriptedSampleState
    let second := first.session.perform 1 .tick first.state
    Reaches scriptedSample first.session ∧
      first.result = .error (.violation (.unknownTag 9)) ∧
      first.session.output.contents.take 4 = [255, 255, 255, 255] ∧
      second.result = .ok (.toNetwork [7, 7, 0, 0]) := by
  intro first second
  have hreaches : Reaches scriptedSample first.session :=
    Reaches.perform (Reaches.refl scriptedSample) 0 .tick scriptedSampleState
  obtain ⟨-, handed, hzero, ⟨-, -, hjudged⟩, -⟩ :=
    perform_of_reaches hreaches 1 .tick first.state
  have hhanded : handed = .zeroed (0 : UInt8) 148 := Buffer.ext_contents hzero
  subst hhanded
  refine ⟨hreaches, rfl, by decide, ?_⟩
  exact (hjudged.ok _).mpr ⟨1, 4, rfl, by decide, by decide, rfl, by decide⟩

end Session

end TunnelHost
