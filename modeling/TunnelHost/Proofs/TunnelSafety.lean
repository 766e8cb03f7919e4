import TunnelHost.Noise.Engine
import TunnelHost.Proofs.DeviceContract

/-!
# When a tunnel crashes

A tunnel crashes if it seals a packet that does not fit the buffer, or receives a data message for a
session whose body does not. The first cannot happen as long as every packet that waits fits once it
is sealed, and nothing waits but what was written, and signs of life. The second is left: the body
of a data message is not looked at by anyone else, and the check sum only after it.

- `Tunnel.survives_encapsulate` and its kin: one lemma for each operation that is lived through.
- `Tunnel.Bursts`: a datagram is a data message for a session, and its body does not fit.
- `contract`: the operations keep the contract of devices, with any timers.
-/

namespace TunnelHost.Noise

/-- The body of a data message is what stands behind its header. -/
theorem Packet.length_of_ofOctets?_data {octets body : List Octet} {receiver : UInt32}
    {counter : Nat} (h : Packet.ofOctets? octets = some (.data receiver counter body)) :
    octets.length = headerLength + body.length := by
  have hheader : headerLength ≤ dataOverhead := by decide
  unfold ofOctets? at h
  split at h
  · cases h
  · split at h
    -- no other kind of datagram is a data message
    · split at h
      · cases hword : word? octets 4 <;> simp [hword] at h
      · cases h
    · split at h
      · cases hsender : word? octets 4 <;> cases hreceiver : word? octets 8 <;>
          simp [hsender, hreceiver] at h
      · cases h
    · split at h
      · cases hword : word? octets 4 <;> simp [hword] at h
      · cases h
    · split at h
      next hlong =>
        simp only [Option.bind_eq_bind, Option.bind_eq_some_iff, Option.some.injEq,
          Packet.data.injEq] at h
        obtain ⟨_, -, _, -, -, -, rfl⟩ := h
        rw [List.length_drop]
        omega
      · cases h
    · cases h

namespace Tunnel

variable {capacity : Nat} {t t' : Tunnel}

/-! ## Results -/

section Results

variable (t) (buffer : Buffer Octet capacity) (events : List Event)

theorem survives_fail : (t.fail buffer events).Survives queue t.queue :=
  ⟨Option.some_ne_none _, List.Subset.refl _⟩

theorem survives_finish : (t.finish buffer events).Survives queue t.queue :=
  ⟨Option.some_ne_none _, List.Subset.refl _⟩

theorem survives_emit (status : Status) (octets : List Octet) :
    (t.emit buffer status octets events).Survives queue t.queue :=
  ⟨Option.some_ne_none _, List.Subset.refl _⟩

end Results

/-! ## What waits -/

/-- Using a session puts nothing in the queue. -/
theorem queue_use_subset (t : Tunnel) (index : UInt32) : (t.use index).1.queue ⊆ t.queue := by
  simp only [use, apply_ite Prod.fst, apply_ite Tunnel.queue, ite_self]
  exact List.Subset.refl _

/-- Nothing waits after a packet is queued but this packet and those before it. -/
theorem queue_enqueue_subset (t : Tunnel) (packet : List Octet) :
    (t.enqueue packet).queue ⊆ packet :: t.queue := by
  unfold enqueue
  split
  · exact List.append_subset.mpr ⟨List.subset_cons_self _ _, by simp⟩
  · exact List.subset_cons_self _ _

theorem queue_requeue_subset (t : Tunnel) (packet : List Octet) :
    (t.requeue packet).queue ⊆ packet :: t.queue := by
  unfold requeue
  split
  · exact List.Subset.refl _
  · exact List.subset_cons_self _ _

/-! ## Sending -/

section Sending

variable (t) (moment : Nat) (buffer : Buffer Octet capacity)

/-- Starting a handshake does not crash: an initiation fits every buffer or fails. -/
theorem survives_initiate (forced : Bool) :
    (t.initiate moment forced buffer).Survives queue t.queue := by
  unfold initiate
  split
  · exact survives_finish t buffer []
  · split
    · exact survives_fail t buffer []
    · exact survives_emit _ buffer _ _ _

/-- A packet that fits is sent by the session in use, or waits. -/
theorem survives_encapsulate {packet : List Octet}
    (hpacket : packet.length + dataOverhead ≤ capacity) :
    (t.encapsulate moment packet buffer).Survives queue (packet :: t.queue) := by
  unfold encapsulate
  split
  · exact (survives_initiate _ moment buffer false).mono (queue_enqueue_subset t packet)
  · rw [if_neg (by omega)]
    exact (survives_emit _ buffer [] _ _).mono (List.subset_cons_self _ _)

/-- A packet is taken from those that wait, and fits because it waited. -/
theorem survives_flush (h : ∀ packet ∈ t.queue, packet.length + dataOverhead ≤ capacity) :
    (t.flush moment buffer).Survives queue t.queue := by
  unfold flush
  cases hqueue : t.queue with
  | nil =>
    have hfinished := survives_finish t buffer []
    rwa [hqueue] at hfinished
  | cons packet waiting =>
    have hpacket : packet.length + dataOverhead ≤ capacity :=
      h packet (hqueue ▸ List.mem_cons_self)
    have hsent := survives_encapsulate { t with queue := waiting } moment buffer hpacket
    dsimp only
    split
    · -- it was not sent, and goes on waiting, as it could before
      have hwaits : packet :: _ ⊆ packet :: waiting :=
        List.cons_subset.mpr ⟨List.mem_cons_self, hsent.waits⟩
      exact (survives_finish _ _ _).mono
        (List.Subset.trans (queue_requeue_subset _ packet) hwaits)
    · exact hsent

end Sending

/-! ## Receiving -/

section Receiving

variable (t) (moment : Nat) (buffer : Buffer Octet capacity)

/-- Answering a handshake does not crash either. -/
theorem survives_receiveInitiation (octets : List Octet) :
    (t.receiveInitiation moment octets buffer).Survives queue t.queue := by
  unfold receiveInitiation
  split
  · exact survives_fail t buffer []
  · split
    · exact survives_fail t buffer []
    · dsimp only [loaded]
      split
      · exact survives_fail _ buffer []
      · split
        · exact survives_fail _ buffer _
        · split
          · exact survives_fail _ buffer _
          · exact survives_emit _ buffer _ _ _

/-- The empty message that follows a response fits every buffer that holds an overhead. -/
theorem survives_receiveResponse (hcapacity : dataOverhead ≤ capacity) (octets : List Octet) :
    (t.receiveResponse octets buffer).Survives queue t.queue := by
  unfold receiveResponse
  split
  · exact survives_fail t buffer []
  · split
    · exact survives_fail t buffer []
    · dsimp only [loaded]
      split
      · exact survives_fail _ buffer []
      · split
        · exact survives_fail _ buffer _
        · rw [if_neg (by omega)]
          exact (survives_emit _ buffer _ _ _).mono (queue_use_subset _ _)

/-- Handing a packet on does not crash, whatever its header tells. -/
theorem survives_deliver (packet : List Octet) (events : List Event) :
    (t.deliver packet buffer events).Survives queue t.queue := by
  unfold deliver
  split
  · exact survives_finish t buffer events
  · split
    · exact survives_fail t buffer events
    · split
      · exact survives_fail t buffer events
      · exact survives_emit _ buffer events _ _

/-- A data message is safe without a session for it, and with a body that fits. -/
theorem survives_receiveData {receiver : UInt32} {counter : Nat} {body : List Octet}
    (hbody : t.slot receiver = none ∨ body.length ≤ capacity) :
    (t.receiveData receiver counter body buffer).Survives queue t.queue := by
  unfold receiveData
  split
  · exact survives_fail t buffer []
  next s hslot =>
    -- the length is looked at first, before the index, the counter and the check sum
    have hfit : ¬ capacity < body.length := by
      rcases hbody with hnone | hfit
      · rw [hslot] at hnone
        cases hnone
      · omega
    rw [if_neg hfit]
    split
    · exact survives_fail t buffer []
    · exact (survives_deliver _ buffer _ _).mono (queue_use_subset _ _)

/-- A datagram is a data message whose receiver's place holds a session, and its body does not fit.
Nothing else is asked of it; it may be forged. -/
def Bursts (t : Tunnel) (capacity : Nat) (datagram : List Octet) : Prop :=
  ∃ receiver counter body, Packet.ofOctets? datagram = some (.data receiver counter body)
    ∧ t.slot receiver ≠ none ∧ capacity < body.length

/-- Reading a datagram crashes in one case only, that of a data message whose body is longer than
the buffer. -/
theorem survives_decapsulate (hcapacity : dataOverhead ≤ capacity)
    (h : ∀ packet ∈ t.queue, packet.length + dataOverhead ≤ capacity) {datagram : List Octet}
    (hburst : ¬ t.Bursts capacity datagram) :
    (t.decapsulate moment datagram buffer).Survives queue t.queue := by
  unfold decapsulate
  split
  · exact survives_flush t moment buffer h
  · split
    · exact survives_fail t buffer []
    · exact survives_receiveInitiation t moment buffer datagram
    · exact survives_receiveResponse t buffer hcapacity datagram
    · exact survives_fail t buffer _
    -- only a body for a live slot that outgrows the buffer can crash
    next receiver counter body hpacket =>
      refine survives_receiveData t buffer ?_
      by_cases hslot : t.slot receiver = none
      · exact .inl hslot
      · refine .inr (Nat.le_of_not_lt fun hbody => ?_)
        exact hburst ⟨receiver, counter, body, hpacket, hslot, hbody⟩

variable {t}

/-- A datagram that bursts the buffer crashes the tunnel, whatever else it holds. -/
theorem decapsulate_of_bursts {datagram : List Octet} (hburst : t.Bursts capacity datagram) :
    t.decapsulate moment datagram buffer = t.crash buffer [] := by
  obtain ⟨receiver, counter, body, hpacket, hslot, hbody⟩ := hburst
  have hnonempty : ¬ datagram.isEmpty = true := by
    intro hempty
    rw [List.isEmpty_iff.mp hempty] at hpacket
    cases hpacket
  obtain ⟨s, hs⟩ := Option.ne_none_iff_exists'.mp hslot
  rw [decapsulate, if_neg hnonempty, hpacket]
  dsimp only
  rw [receiveData, hs]
  dsimp only
  rw [if_pos hbody]

/-- A datagram that bursts a buffer is longer than all of it behind the header. -/
theorem length_of_bursts {datagram : List Octet} (h : t.Bursts capacity datagram) :
    capacity + headerLength < datagram.length := by
  obtain ⟨receiver, counter, body, hpacket, -, hbody⟩ := h
  have hlength := Packet.length_of_ofOctets?_data hpacket
  omega

end Receiving

/-! ## Time -/

/-- A sign of life has no content, and what is dropped need not fit. -/
theorem survives_tick (t : Tunnel) (hcapacity : dataOverhead ≤ capacity) (moment : Nat) (due : Due)
    (buffer : Buffer Octet capacity) :
    (t.tick moment due buffer).Survives queue ([] :: t.queue) := by
  unfold tick
  cases due.duty with
  | nothing => exact (survives_finish _ buffer []).mono (List.subset_cons_self _ _)
  | keepAlive =>
    refine survives_encapsulate _ moment buffer ?_
    rw [List.length_nil, Nat.zero_add]
    exact hcapacity
  | handshake => exact (survives_initiate _ moment buffer true).mono (List.subset_cons_self _ _)
  | expiry => exact (survives_fail _ buffer []).mono (List.nil_subset _)

end Tunnel

/-- **The operations of tunnels keep the contract of devices**, whatever the timers find due. -/
def contract (timers : Timers) : (device timers).Contract where
  waiting := Tunnel.queue
  Bursts := Tunnel.Bursts
  made := by
    rintro privateKey peer preshared keepAlive index t ⟨⟩
    rfl
  encapsulate hpacket := Tunnel.survives_encapsulate _ _ _ hpacket
  decapsulate hcapacity h hburst := Tunnel.survives_decapsulate _ _ _ hcapacity h hburst
  bursting := by
    intro capacity moment datagram t buffer hburst
    have hcrash : (device timers).decapsulate moment datagram t buffer = _ :=
      Tunnel.decapsulate_of_bursts moment buffer hburst
    rw [hcrash]
    exact ⟨rfl, List.Subset.refl _⟩
  overlong := Tunnel.length_of_bursts
  tick hcapacity := Tunnel.survives_tick _ hcapacity _ _ _
  initiate := Tunnel.survives_initiate _ _ _ true

end TunnelHost.Noise
