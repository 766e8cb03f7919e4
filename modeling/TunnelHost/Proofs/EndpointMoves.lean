import TunnelHost.Proofs.FreshOutput
import TunnelHost.Proofs.HostCalls

/-!
# Where a peer is

A peer's endpoint is told by the host, or learned from the start of a handshake that the engine
takes. Nothing else moves it: whatever is done with a peer, and whatever its engine does, the
endpoint is that of the most recent move.

- `Peer.Deed`, `Peer.after`: what may be done with a peer, once and in a row.
- `StartsHandshake`, `Peer.Moves`: the deeds that move the endpoint, told by the datagram, its
  source and the engine's report.
- `Peer.endpoint_act_of_moves`, `Peer.endpoint_act_of_not_moves`: one deed.
- `Peer.endpoint_after`: all deeds.
- `Host.exists_deeds_of_run`: steps of a host that ask something of a peer are deeds.
-/

namespace TunnelHost

/-! ## Datagrams that start a handshake -/

/-- A datagram that starts a handshake: it is longer than 90 octets, and the first four are the
bytes of the number one. -/
def StartsHandshake {β : Type} (byte? : β → Option UInt8) (datagram : List β) : Prop :=
  90 < datagram.length ∧ [some 1, some 0, some 0, some 0] <+: datagram.map byte?

/-- The test of a datagram looks at its length and at the first four octets. -/
theorem isInitiation_iff {β : Type} {byte? : β → Option UInt8} {datagram : List β} :
    isInitiation byte? datagram = true ↔ StartsHandshake byte? datagram := by
  have hfront : (datagram.take 4).map byte? = [some 1, some 0, some 0, some 0]
      ↔ [some 1, some 0, some 0, some 0] <+: datagram.map byte? := by
    rw [List.prefix_iff_eq_take, List.map_take]
    exact eq_comm
  rw [isInitiation, Bool.and_eq_true, decide_eq_true_iff, beq_iff_eq, hfront]
  exact Iff.rfl

/-! ## Reports by which an engine takes its input -/

/-- The tags of the outcomes that are no failure. -/
def Status.acceptedTags : List UInt32 := [0, 1, 4, 6]

theorem Status.tag_mem_acceptedTags_iff (s : Status) : s.tag ∈ acceptedTags ↔ s ≠ .failed := by
  cases s <;> decide

/-- The engine keeps to the contract, and takes its input. -/
def Report.Accepts (report : Option Report) (capacity : Nat) : Prop :=
  ∃ tag size, report = some ⟨tag, size⟩ ∧ tag ∈ Status.acceptedTags ∧ size ≤ capacity

/-- An envelope without a failure comes of a report that accepts, and of no other. -/
theorem Session.exists_judge_eq_ok_iff {β : Type} {report : Option Report} {output : List β} :
    (∃ e, judge report output = .ok e ∧ e.status ≠ .failed)
      ↔ Report.Accepts report output.length := by
  constructor
  · rintro ⟨e, hjudge, hstatus⟩
    cases report with
    | none => cases hjudge
    | some report =>
      obtain ⟨hsize, htag, -⟩ := classify_eq_ok_iff.mp (judge_some_eq_ok_iff.mp hjudge)
      refine ⟨report.tag, report.size, rfl, ?_, hsize⟩
      rw [← htag]
      exact (Status.tag_mem_acceptedTags_iff _).mpr hstatus
  · rintro ⟨tag, size, rfl, htag, hsize⟩
    have hknown : tag ∈ Status.knownTags := by
      simp only [Status.acceptedTags, List.mem_cons, List.not_mem_nil, or_false] at htag
      rcases htag with rfl | rfl | rfl | rfl <;> decide
    obtain ⟨s, rfl⟩ := Status.exists_tag_eq hknown
    refine ⟨.enclose (output.take size) s, ?_, ?_⟩
    · refine judge_some_eq_ok_iff.mpr (classify_eq_ok_iff.mpr ⟨hsize, ?_, ?_⟩)
      · rw [Envelope.status_enclose]
      · simp only [Envelope.data?_enclose, Status.carriesData_iff]
    · rw [Envelope.status_enclose]
      exact (Status.tag_mem_acceptedTags_iff s).mp htag

/-- An envelope tells of a failure exactly if the engine reports one. -/
theorem Session.status_eq_failed_iff {β : Type} {report : Option Report} {output : List β}
    {e : Envelope β} (h : judge report output = .ok e) :
    e.status = .failed ↔ ∃ size, report = some ⟨2, size⟩ := by
  cases report with
  | none => cases h
  | some report =>
    obtain ⟨-, htag, -⟩ := classify_eq_ok_iff.mp (judge_some_eq_ok_iff.mp h)
    obtain ⟨tag, size⟩ := report
    cases e <;> simp_all [Envelope.status, Status.tag, eq_comm]

namespace Peer

variable {β : Type} {E : Engine β}

/-! ## Deeds -/

/-- What may be done with a peer. A request is made at a moment, with the engine in a state that
other tunnels may have brought it to. -/
inductive Deed (E : Engine β) where
  | serve (moment : Nat) (state : E.State) (request : Request β) (source : Option Endpoint)
  | setEndpoint (endpoint : Endpoint)

/-- The peer after a deed. -/
def act (p : Peer E) : Deed E → Peer E
  | .serve moment state request source => (p.perform moment request source state).peer
  | .setEndpoint endpoint => p.setEndpoint endpoint

/-- The peer after deeds, done one after the other. -/
def after (p : Peer E) (deeds : List (Deed E)) : Peer E := deeds.foldl act p

theorem after_append (p : Peer E) (before later : List (Deed E)) :
    p.after (before ++ later) = (p.after before).after later := List.foldl_append

/-- What the engine reports of a request that it serves for a peer. -/
def reportTo (p : Peer E) (moment : Nat) (request : Request β) (state : E.State) : Option Report :=
  (Session.replyTo E p.session.capacity moment request p.session.tunnel state).report

/-- The deeds that move the endpoint of a peer, and where to. -/
inductive Moves (p : Peer E) : Deed E → Endpoint → Prop
  /-- The host tells where the peer is. -/
  | told (endpoint : Endpoint) : Moves p (.setEndpoint endpoint) endpoint
  /-- A datagram from somewhere starts a handshake, and the engine takes it. -/
  | learned {moment : Nat} {state : E.State} {datagram : List β} {source : Endpoint}
      (hstart : StartsHandshake E.byte? datagram)
      (haccepts : Report.Accepts (p.reportTo moment (.read datagram) state) p.session.capacity) :
      Moves p (.serve moment state (.read datagram) (some source)) source

/-! ## One deed -/

section Perform

variable (p : Peer E) (moment : Nat) (request : Request β) (source : Option Endpoint)
  (state : E.State)

/-- What a request gives is what its session makes of the engine's report; whether it was taken
goes with it. -/
theorem perform_result_eq_ok_iff {route : Route β} {accepted : Bool} :
    (p.perform moment request source state).result = .ok (route, accepted)
      ↔ ∃ e, (p.session.perform moment request state).result = .ok e
          ∧ route = .of (p.perform moment request source state).peer.endpoint e
          ∧ accepted = (e.status != .failed) := by
  have hresult : (p.perform moment request source state).result
      = (p.session.perform moment request state).result.map fun e =>
          (.of (p.perform moment request source state).peer.endpoint e, e.status != .failed) := rfl
  rw [hresult]
  cases (p.session.perform moment request state).result with
  | error e => simp [Except.map]
  | ok e => simp [Except.map, eq_comm]

/-- A peer fails where its session does. -/
theorem perform_result_eq_error_iff {e : CallError} :
    (p.perform moment request source state).result = .error e
      ↔ (p.session.perform moment request state).result = .error e :=
  map_eq_error_iff

/-- A session's request has an envelope that is no failure exactly if the engine takes its input. -/
theorem exists_perform_result_iff :
    (∃ e, (p.session.perform moment request state).result = .ok e ∧ e.status ≠ .failed)
      ↔ Report.Accepts (p.reportTo moment request state) p.session.capacity := by
  rw [Session.perform_result, Session.exists_judge_eq_ok_iff, Buffer.length_contents]
  exact Iff.rfl

end Perform

/-- A deed that moves the endpoint to a place leaves it there. -/
theorem endpoint_act_of_moves {p : Peer E} {d : Deed E} {a : Endpoint} (h : Moves p d a) :
    (p.act d).endpoint = some a := by
  cases h with
  | told => rfl
  | @learned moment state datagram source hstart haccepts =>
    obtain ⟨e, hresult, hstatus⟩ :=
      (exists_perform_result_iff p moment (.read datagram) state).mpr haccepts
    have hmoves : moves (E := E) datagram e = true := by
      rw [moves, Bool.and_eq_true, bne_iff_ne]
      exact ⟨hstatus, isInitiation_iff.mpr hstart⟩
    show p.endpointAfter datagram (some a) _ = some a
    rw [hresult, endpointAfter, if_pos hmoves]

/-- A deed that moves it nowhere leaves it where it is. -/
theorem endpoint_act_of_not_moves {p : Peer E} {d : Deed E} (h : ∀ a, ¬ Moves p d a) :
    (p.act d).endpoint = p.endpoint := by
  cases d with
  | setEndpoint endpoint => exact absurd (Moves.told endpoint) (h endpoint)
  | serve moment state request source =>
    cases request with
    | write packet => rfl
    | tick => rfl
    | handshake => rfl
    | read datagram =>
      show p.endpointAfter datagram source _ = p.endpoint
      cases source with
      | none => cases (p.session.perform moment (.read datagram) state).result <;> rfl
      | some source =>
        cases hresult : (p.session.perform moment (.read datagram) state).result with
        | error e => rfl
        | ok e =>
          rw [endpointAfter]
          -- a move of the endpoint by a read is one of the cases of `Moves`
          refine if_neg fun hmoves => h source ?_
          rw [moves, Bool.and_eq_true, bne_iff_ne] at hmoves
          exact .learned (isInitiation_iff.mp hmoves.2)
            ((exists_perform_result_iff p moment (.read datagram) state).mp
              ⟨e, hresult, hmoves.1⟩)

/-! ## All deeds -/

/-- None of the deeds moves the endpoint. -/
def Still (p : Peer E) (deeds : List (Deed E)) : Prop :=
  ∀ before d later, deeds = before ++ d :: later → ∀ a, ¬ Moves (p.after before) d a

/-- The most recent of the deeds that move the endpoint moves it there. -/
def LastMove (p : Peer E) (deeds : List (Deed E)) (a : Endpoint) : Prop :=
  ∃ before d later, deeds = before ++ d :: later ∧ Moves (p.after before) d a
    ∧ Still (p.after (before ++ [d])) later

theorem still_nil (p : Peer E) : Still p [] := by
  intro before d later h
  exact absurd h.symm (by simp)

/-- Deeds move nothing if the first moves nothing, nor do the others after it. -/
theorem still_cons_iff {p : Peer E} {d : Deed E} {deeds : List (Deed E)} :
    Still p (d :: deeds) ↔ (∀ a, ¬ Moves p d a) ∧ Still (p.act d) deeds := by
  constructor
  · intro h
    refine ⟨h [] d deeds rfl, ?_⟩
    rintro before d' later rfl
    exact h (d :: before) d' later rfl
  · rintro ⟨hfirst, hrest⟩ before d' later heq
    cases before with
    | nil =>
      cases heq
      exact hfirst
    | cons d'' before =>
      cases heq
      exact hrest before d' later rfl

/-- While nothing moves it, the endpoint stays. -/
theorem endpoint_after_of_still {p : Peer E} {deeds : List (Deed E)} (h : Still p deeds) :
    (p.after deeds).endpoint = p.endpoint := by
  induction deeds generalizing p with
  | nil => rfl
  | cons d rest ih =>
    obtain ⟨hfirst, hrest⟩ := still_cons_iff.mp h
    calc (p.after (d :: rest)).endpoint
        = ((p.act d).after rest).endpoint := rfl
      _ = (p.act d).endpoint := ih hrest
      _ = p.endpoint := endpoint_act_of_not_moves hfirst

/-- The endpoint is where the last move brought it. -/
theorem endpoint_after_of_lastMove {p : Peer E} {deeds : List (Deed E)} {a : Endpoint}
    (h : LastMove p deeds a) : (p.after deeds).endpoint = some a := by
  obtain ⟨before, d, later, rfl, hmoves, hstill⟩ := h
  have hsplit : p.after (before ++ d :: later) = (p.after (before ++ [d])).after later := by
    rw [← after_append, List.append_assoc]
    rfl
  rw [hsplit, endpoint_after_of_still hstill, after_append]
  exact endpoint_act_of_moves hmoves

/-- Where there are moves, one of them is the most recent. -/
theorem still_or_lastMove (p : Peer E) (deeds : List (Deed E)) :
    Still p deeds ∨ ∃ a, LastMove p deeds a := by
  induction deeds generalizing p with
  | nil => exact .inl (still_nil p)
  | cons d rest ih =>
    rcases ih (p.act d) with hstill | ⟨a, before, d', later, rfl, hmoves, hstill⟩
    · by_cases hfirst : ∃ a, Moves p d a
      · obtain ⟨a, hmoves⟩ := hfirst
        exact .inr ⟨a, [], d, rest, rfl, hmoves, hstill⟩
      · exact .inl (still_cons_iff.mpr ⟨not_exists.mp hfirst, hstill⟩)
    · exact .inr ⟨a, d :: before, d', later, rfl, hmoves, hstill⟩

/-- A request that leaves the endpoint of a peer alone: it brings no datagram, or one whose source
is not known, or one that starts no handshake, or its result is that the engine broke the contract,
or that it refused its input. -/
def LeavesAlone (E : Engine β) (request : Request β) (source : Option Endpoint)
    (result : Except CallError (Route β × Bool)) : Prop :=
  (∀ datagram, request = .read datagram → ¬ StartsHandshake E.byte? datagram)
    ∨ source = none ∨ (∃ e, result = .error e) ∨ ∃ route, result = .ok (route, false)

/-- A request that leaves the endpoint alone moves it nowhere. -/
theorem not_moves_of_leavesAlone {p : Peer E} {moment : Nat} {state : E.State}
    {request : Request β} {source : Option Endpoint}
    (h : LeavesAlone E request source (p.perform moment request source state).result)
    (a : Endpoint) : ¬ Moves p (.serve moment state request source) a := by
  intro hmoves
  cases hmoves with
  | @learned _ _ datagram _ hstart haccepts =>
    obtain ⟨e, hresult, hstatus⟩ :=
      (exists_perform_result_iff p moment (.read datagram) state).mpr haccepts
    -- each way to leave the endpoint alone denies one premise of a move
    rcases h with hother | hsource | ⟨e', herror⟩ | ⟨route, hrefused⟩
    · exact hother datagram rfl hstart
    · cases hsource
    · rw [perform_result_eq_error_iff, hresult] at herror
      cases herror
    · obtain ⟨e', hresult', -, haccepted⟩ :=
        (perform_result_eq_ok_iff p moment _ _ state).mp hrefused
      rw [hresult] at hresult'
      cases hresult'
      exact hstatus (by simpa using haccepted)

/-- **The endpoint is that of the most recent move.** Whatever was done with a peer, its endpoint is
where the most recent deed that moves it has moved it, and the one it began with if there was none.
Whatever is asked of it next, the endpoint stays unless a datagram with a known source starts a
handshake and the engine takes it; and whether the engine has taken its input is told truly. -/
theorem endpoint_after (p : Peer E) (deeds : List (Deed E)) :
    (∀ endpoint, (p.after deeds).endpoint = endpoint
      ↔ (∃ a, endpoint = some a ∧ LastMove p deeds a) ∨ endpoint = p.endpoint ∧ Still p deeds)
    ∧ ∀ moment request source state,
      let q := p.after deeds
      let turn := q.perform moment request source state
      (LeavesAlone E request source turn.result → turn.peer.endpoint = q.endpoint)
      ∧ ∀ route accepted, turn.result = .ok (route, accepted) →
          (accepted = false ↔ ∃ size, q.reportTo moment request state = some ⟨2, size⟩) := by
  refine ⟨?_, ?_⟩
  · rintro endpoint
    constructor
    · rintro rfl
      -- either no deed moves the endpoint or one of them is the last to do so
      rcases still_or_lastMove p deeds with hstill | ⟨a, hlast⟩
      · exact .inr ⟨endpoint_after_of_still hstill, hstill⟩
      · exact .inl ⟨a, endpoint_after_of_lastMove hlast, hlast⟩
    · rintro (⟨a, rfl, hlast⟩ | ⟨rfl, hstill⟩)
      · exact endpoint_after_of_lastMove hlast
      · exact endpoint_after_of_still hstill
  · intro moment request source state q turn
    refine ⟨fun h => ?_, ?_⟩
    · exact endpoint_act_of_not_moves (d := .serve moment state request source)
        (not_moves_of_leavesAlone h)
    · intro route accepted hresult
      obtain ⟨e, hok, -, rfl⟩ := (perform_result_eq_ok_iff q moment _ _ state).mp hresult
      rw [Session.perform_result] at hok
      rw [bne_eq_false_iff_eq, Session.status_eq_failed_iff hok]
      exact Iff.rfl

/-- The step of a host that does a deed with the peer of a name. -/
def Deed.step (name : String) : Deed E → Step β
  | .serve _ _ request source => .callPeer name request source
  | .setEndpoint endpoint => .setEndpoint name endpoint

end Peer

namespace Host

variable {β : Type} {E : Engine β} {h : Host E} {p : Peer E} {name : String}

/-! ## Deeds as steps of a host -/

/-- A step does its deed with the peer, at the moment and with the engine that the host has. -/
theorem exists_deed_of_step (hp : h.peers.lookup name = some p) (order : Peer.Deed E) :
    ∃ d : Peer.Deed E, d.step name = order.step name
      ∧ (h.step (order.step name)).1.peers.lookup name = some (p.act d) := by
  cases order with
  | serve moment state request source =>
    refine ⟨.serve (h.clock + 1) (h.engineState p.session.family.value.engine) request source,
      rfl, ?_⟩
    rw [step, Peer.Deed.step, act, withNamed, hp]
    -- what handlers are told changes no peer
    show (Host.peers (deliver _ _ _)).lookup name = _
    rw [peers_deliver]
    exact lookup_putNamed name _ _
  | setEndpoint endpoint =>
    refine ⟨.setEndpoint endpoint, rfl, ?_⟩
    rw [step, Peer.Deed.step, act, withNamed, hp]
    exact lookup_putNamed name _ _

/-- Whatever a host asks of a peer in a row, it does deeds with it. -/
theorem exists_deeds_of_run (hp : h.peers.lookup name = some p) (orders : List (Peer.Deed E)) :
    ∃ deeds : List (Peer.Deed E), deeds.map (·.step name) = orders.map (·.step name)
      ∧ (h.run (orders.map (·.step name))).1.peers.lookup name = some (p.after deeds) := by
  induction orders generalizing h p with
  | nil => exact ⟨[], rfl, hp⟩
  | cons order rest ih =>
    obtain ⟨d, hstep, hlookup⟩ := exists_deed_of_step hp order
    obtain ⟨deeds, hsteps, hrun⟩ := ih hlookup
    refine ⟨d :: deeds, ?_, hrun⟩
    rw [List.map_cons, List.map_cons, hstep, hsteps]

end Host

end TunnelHost
