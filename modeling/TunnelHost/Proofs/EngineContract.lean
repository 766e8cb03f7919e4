import TunnelHost.Proofs.CrashSafety
import TunnelHost.Proofs.DeviceAnswers

/-!
# The protocol engine keeps its contract

Nothing that an engine reports is trusted. The protocol engine gives no cause for that: it creates a
tunnel from whatever passes the checks of a session, because both sides read key texts alike, and
what it reports of a request that it lives through is an outcome of the contract with no more octets
than the buffer holds, and with none where none are carried.

- `Performed.Fronted`: what an operation puts out stands at the front of the buffer.
- `Tunnel.fronted_encapsulate` and its kin: one lemma for each operation.
- `proper`: the operations are those of a proper device.
- `operation`, `perform_result`: requests of sessions as operations of tunnels.
- `keeps_contract`: the contract.
-/

namespace TunnelHost

namespace Noise

/-! ## Output -/

/-- What an operation puts out stands at the front of the buffer and fits it, and there is none
where the outcome carries none. -/
def Performed.Fronted {τ β : Type} {capacity : Nat} (p : Performed τ β capacity) : Prop :=
  ∀ q, p.placement = some q →
    q.offset = 0 ∧ q.length ≤ capacity ∧ (q.status.carriesData = false → q.length = 0)

/-- What stands at the front stands in the buffer. -/
theorem Performed.Fronted.contained {τ β : Type} {capacity : Nat} {p : Performed τ β capacity}
    (h : p.Fronted) : p.Contained := by
  intro q hq
  obtain ⟨hoffset, hlength, hcarries⟩ := h q hq
  rw [hoffset, Nat.zero_add]
  exact ⟨hlength, hcarries⟩

/-- What is put out stands at the front already, so nothing is moved. -/
theorem Performed.Fronted.settle_buffer {τ β : Type} {capacity : Nat}
    {p : Performed τ β capacity} (h : p.Fronted) : p.settle.1 = p.buffer := by
  cases hp : p.placement with
  | none => rw [settle, hp]
  | some q =>
    rw [settle, hp]
    show (q.settle p.buffer).1 = _
    rw [Placement.settle, if_neg (by simp [(h q hp).1])]

/-- A packet that its own header tells about is handed on as one. -/
theorem carriesData_of_headerOf? {packet : List Octet} {status : Status} {length : Nat}
    (h : Tunnel.headerOf? packet = some (status, length)) : status.carriesData = true := by
  unfold Tunnel.headerOf? at h
  simp only [Option.bind_eq_bind, Option.bind_eq_some_iff] at h
  obtain ⟨_, -, _, -, h⟩ := h
  split at h
  · obtain ⟨_, -, hpair⟩ := Option.bind_eq_some_iff.mp h
    cases hpair
    rfl
  · split at h
    · obtain ⟨_, -, hpair⟩ := Option.bind_eq_some_iff.mp h
      cases hpair
      rfl
    · cases h

namespace Transport

/-- A packet that is taken out of a message is shorter than the message by the authentication tag.
-/
theorem length_of_unwrap? {t t' : Transport} {receiver : UInt32} {counter : Nat}
    {body packet : List Octet} (h : t.unwrap? receiver counter body = some (packet, t')) :
    body.length = packet.length + tagLength := by
  unfold unwrap? at h
  split at h
  · cases h
  · split at h
    next packet' hopen =>
      cases h
      exact Sealing.length_of_open? hopen
    · cases h

end Transport

namespace Tunnel

variable {capacity : Nat} (t : Tunnel) (moment : Nat) (buffer : Buffer Octet capacity)
  (events : List Event)

theorem fronted_fail : (t.fail buffer events).Fronted := by
  rintro p ⟨⟩
  exact ⟨rfl, Nat.zero_le _, fun _ => rfl⟩

theorem fronted_finish : (t.finish buffer events).Fronted := by
  rintro p ⟨⟩
  exact ⟨rfl, Nat.zero_le _, fun _ => rfl⟩

theorem fronted_crash : (t.crash buffer events).Fronted := nofun

/-- Octets that fit are put out at the front. -/
theorem fronted_emit {status : Status} {octets : List Octet} (hstatus : status.carriesData = true)
    (hfit : octets.length ≤ capacity) : (t.emit buffer status octets events).Fronted := by
  rintro p ⟨⟩
  refine ⟨rfl, hfit, fun hnone => ?_⟩
  rw [Placement.front, hstatus] at hnone
  cases hnone

/-- A handshake message is put out at the front, if at all. -/
theorem fronted_initiate (forced : Bool) : (t.initiate moment forced buffer).Fronted := by
  unfold initiate
  split
  · exact t.fronted_finish buffer []
  · split
    · exact t.fronted_fail buffer []
    next hfit =>
      refine fronted_emit _ buffer _ rfl ?_
      rw [Initiation.length_octets]
      omega

/-- So is a sealed packet. -/
theorem fronted_encapsulate (packet : List Octet) :
    (t.encapsulate moment packet buffer).Fronted := by
  unfold encapsulate
  split
  · exact fronted_initiate _ moment buffer false
  next s hslot =>
    split
    · exact t.fronted_crash buffer []
    next hfit =>
      refine fronted_emit _ buffer _ rfl ?_
      rw [length_dataOctets]
      omega

theorem fronted_flush : (t.flush moment buffer).Fronted := by
  unfold flush
  split
  · exact t.fronted_finish buffer []
  next packet queue hqueue =>
    dsimp only
    split
    · exact fronted_finish _ _ _
    · exact fronted_encapsulate _ moment buffer packet

/-- The answer to an initiation is put out at the front, if at all. -/
theorem fronted_receiveInitiation (octets : List Octet) :
    (t.receiveInitiation moment octets buffer).Fronted := by
  unfold receiveInitiation
  split
  · exact t.fronted_fail buffer []
  · split
    · exact t.fronted_fail buffer []
    · dsimp only [loaded]
      split
      · exact fronted_fail _ buffer _
      · split
        · exact fronted_fail _ buffer _
        · split
          · exact fronted_fail _ buffer _
          next hfit =>
            refine fronted_emit _ buffer _ rfl ?_
            rw [Response.length_octets]
            omega

theorem fronted_receiveResponse (octets : List Octet) :
    (t.receiveResponse octets buffer).Fronted := by
  unfold receiveResponse
  split
  · exact t.fronted_fail buffer []
  · split
    · exact t.fronted_fail buffer []
    · dsimp only [loaded]
      split
      · exact fronted_fail _ buffer _
      · split
        · exact fronted_fail _ buffer _
        · split
          · exact fronted_crash _ buffer _
          next hfit =>
            refine fronted_emit _ buffer _ rfl ?_
            rw [Transport.wrap, length_dataOctets, List.length_nil, Nat.zero_add]
            omega

/-- What is handed on is no longer than what was received. -/
theorem fronted_deliver {packet : List Octet} (hpacket : packet.length ≤ capacity) :
    (t.deliver packet buffer events).Fronted := by
  unfold deliver
  split
  · exact t.fronted_finish buffer events
  · split
    · exact t.fronted_fail buffer events
    next status length hheader =>
      split
      · exact t.fronted_fail buffer events
      · refine fronted_emit _ buffer _ (carriesData_of_headerOf? hheader) ?_
        exact Nat.le_trans (List.length_take_le' _ _) hpacket

/-- An opened packet stands at the front, however much longer the message was. -/
theorem fronted_receiveData (receiver : UInt32) (counter : Nat) (body : List Octet) :
    (t.receiveData receiver counter body buffer).Fronted := by
  unfold receiveData
  split
  · exact t.fronted_fail buffer []
  · split
    · exact t.fronted_crash buffer []
    next hfit =>
      split
      · exact t.fronted_fail buffer []
      next packet s hunwrap =>
        have hlength := Transport.length_of_unwrap? hunwrap
        exact fronted_deliver _ buffer _ (by omega)

/-- Whatever a datagram is, what comes of it stands at the front. -/
theorem fronted_decapsulate (datagram : List Octet) :
    (t.decapsulate moment datagram buffer).Fronted := by
  unfold decapsulate
  split
  · exact t.fronted_flush moment buffer
  · split
    · exact t.fronted_fail buffer []
    · exact t.fronted_receiveInitiation moment buffer datagram
    · exact t.fronted_receiveResponse buffer datagram
    · exact t.fronted_fail buffer _
    · exact t.fronted_receiveData buffer _ _ _

theorem fronted_tick (due : Due) : (t.tick moment due buffer).Fronted := by
  unfold tick
  cases due.duty with
  | nothing => exact fronted_finish _ buffer []
  | keepAlive => exact fronted_encapsulate _ moment buffer []
  | handshake => exact fronted_initiate _ moment buffer true
  | expiry => exact fronted_fail _ buffer []

end Tunnel

/-- **The operations of tunnels are those of a proper device**, whatever the timers find due. -/
theorem proper (timers : Timers) : (device timers).Proper where
  make _ _ _ _ _ := Option.some_ne_none _
  encapsulate := (Tunnel.fronted_encapsulate _ _ _ _).contained
  decapsulate := (Tunnel.fronted_decapsulate _ _ _ _).contained
  tick := (Tunnel.fronted_tick _ _ _ _).contained
  initiate := (Tunnel.fronted_initiate _ _ _ true).contained

/-- **Every request puts its octets at the front of the buffer**, and within it. -/
theorem fronted_perform (timers : Timers) {capacity : Nat} (moment : Nat) (t : Tunnel)
    (buffer : Buffer Octet capacity) (request : Request Octet) :
    ((device timers).perform moment t buffer request).Fronted := by
  cases request with
  | write packet =>
    show Performed.Fronted (if capacity < packet.length + dataOverhead then _ else _)
    split
    · exact Tunnel.fronted_fail t buffer []
    · exact Tunnel.fronted_encapsulate t moment buffer packet
  | read datagram => exact Tunnel.fronted_decapsulate t moment buffer datagram
  | tick => exact Tunnel.fronted_tick t moment buffer _
  | handshake => exact Tunnel.fronted_initiate t moment buffer true

/-! ## Sessions -/

section Sessions

variable {timers : Timers} (s : Session (timed timers)) (moment : Nat) (request : Request Octet)
  (state : (timed timers).State)

/-- The operation of its tunnel that a request of a session is. -/
def operation : Step s.capacity :=
  (device timers).perform moment (tunnelOf s) (.zeroed (.plain 0) s.capacity) request

theorem tunnelOf_perform :
    tunnelOf (s.perform moment request state).session = (operation s moment request).tunnel :=
  Session.perform_tunnel s moment request state

/-- What a session makes of a request is what the operation calls for. -/
theorem perform_result :
    (s.perform moment request state).result
      = Session.judge ((operation s moment request).placement.map fun p => .of p.status p.length)
          (operation s moment request).buffer.contents := by
  let reply := Session.replyTo (timed timers) s.capacity moment request s.tunnel state
  have hreport : reply.report
      = (operation s moment request).placement.map fun p => .of p.status p.length :=
    (operation s moment request).settle_report
  have hbuffer : reply.buffer = (operation s moment request).buffer :=
    (fronted_perform timers moment (tunnelOf s) _ request).settle_buffer
  rw [Session.perform_result, hreport, hbuffer]

variable {s} {moment} {request} {t : Tunnel} {buffer : Buffer Octet s.capacity}
  {octets : List Octet} {events : List Event}

/-- What an operation puts out is what the session hands on. -/
theorem perform_result_emit {status : Status}
    (hemit : operation s moment request = t.emit buffer status octets events)
    (hfits : octets.length ≤ s.capacity) :
    (s.perform moment request state).result = .ok (.enclose octets status) := by
  have hlength := (buffer.overwrite octets).length_contents
  have htake : (buffer.overwrite octets).contents.take octets.length = octets := by
    show (octets.take s.capacity ++ buffer.contents.drop octets.length).take octets.length = octets
    rw [List.take_of_length_le hfits, List.take_left]
  rw [perform_result, hemit]
  show Session.judge (some (.of status octets.length)) (buffer.overwrite octets).contents = _
  rw [Session.judge_of status (by omega), htake]

/-- An operation that finishes is an envelope of that outcome, without octets. -/
theorem perform_result_finish
    (hfinish : operation s moment request = t.finish buffer events) :
    (s.perform moment request state).result = .ok .done := by
  rw [perform_result, hfinish]
  exact Session.judge_of .done (Nat.zero_le _)

theorem perform_result_fail (hfail : operation s moment request = t.fail buffer events) :
    (s.perform moment request state).result = .ok .failed := by
  rw [perform_result, hfail]
  exact Session.judge_of .failed (Nat.zero_le _)

end Sessions

/-- **The protocol engine keeps its contract.** Whatever its timers find due, it refuses no session
that passes the checks, by way of a bridge or not; asked for any tunnel, it refuses exactly the
arguments of which a key text does not decode to 32 bytes, a pre-shared one included that is there
and empty. A request crashes it, or is answered by an envelope: the tag that it reports is one of
the five, the size is at most the capacity of the session, and zero for the two outcomes that carry
nothing. -/
theorem keeps_contract (timers : Timers) :
    (∀ (h : Host (timed timers)) b input,
        (h.createSession b input).2 ≠ .error (.session .creationFailed))
    ∧ (∀ (input : SessionInput) policy args state, input.check policy = .ok args →
        ∃ tunnel, ((timed timers).create args state).2 = some tunnel)
    ∧ (∀ args state, ((timed timers).create args state).2 = none ↔
        ¬ Key.Decodes args.privateKey ∨ ¬ Key.Decodes args.publicKey
          ∨ ∃ s, args.presharedKey = some s ∧ ¬ Key.Decodes s)
    ∧ (∀ privateKey publicKey keepAlive index state,
        ((timed timers).create ⟨privateKey, publicKey, some "", keepAlive, index⟩ state).2 = none)
    ∧ ∀ (s : Session (timed timers)) moment request state,
        let reply := Session.replyTo (timed timers) s.capacity moment request s.tunnel state
        let result := (s.perform moment request state).result
        (reply.report = none ∧ result = .error .crash)
          ∨ ∃ tag size e, reply.report = some ⟨tag, size⟩ ∧ tag ∈ [0, 1, 2, 4, 6]
              ∧ size ≤ s.capacity ∧ (tag = 0 ∨ tag = 2 → size = 0)
              ∧ result = .ok e ∧ e.status.tag = tag :=
  (proper timers).answers

end Noise

end TunnelHost
