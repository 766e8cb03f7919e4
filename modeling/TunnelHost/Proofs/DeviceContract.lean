import TunnelHost.Noise.Device
import TunnelHost.Proofs.Classification
import TunnelHost.Proofs.HostCalls

/-!
# What a device has to do, and when its engine crashes

A device crashes rather than fail if a packet is to be sealed that does not fit the buffer, and it
may keep a packet waiting and seal it later. The engine refuses packets that would not fit. That is
enough for any device that keeps a short contract, which says what may wait in a tunnel after an
operation and when an operation crashes. What is left are datagrams, which nobody looks at before
the device does.

- `Performed.Survives`: an operation does not crash, and nothing waits after it but what may.
- `Device.Contract`: the contract.
- `Device.Contract.kept_queueFits`: what waits fits, in every host there can be.
- `Device.Contract.turn_crash_iff`, `Device.Contract.step_read_eq_crash_iff`: what crashes.
- `Device.Contract.crash_of_read`, `Device.Contract.calls_survive`: hosts that steps have led to,
  and calls one after the other.
-/

namespace TunnelHost

/-- A configuration that was checked has a capacity within bounds. -/
theorem Config.capacity_of_check {c : Config} (h : c.check = .ok ()) :
    leastCapacity ≤ c.buffer.capacity.toNat ∧ c.buffer.capacity.toNat ≤ mostCapacity := by
  obtain ⟨_, hbuffer, -⟩ := bind_eq_ok_iff.mp h
  unfold BufferSection.check at hbuffer
  split at hbuffer
  · cases hbuffer
  · split at hbuffer
    · cases hbuffer
    · omega

/-- Calls of one session, each with the source of its datagram. -/
def callsOf {β : Type} (holder : Holder) (calls : List (Request β × Option Endpoint)) :
    List (Step β) :=
  calls.map fun c => holder.call c.1 c.2

namespace Noise

/-! ## The contract -/

/-- An operation does not crash, and what waits in the tunnel after it is among what is allowed. -/
structure Performed.Survives {τ β : Type} {capacity : Nat} (p : Performed τ β capacity)
    (waiting : τ → List (List β)) (allowed : List (List β)) : Prop where
  placed : p.placement ≠ none
  waits : waiting p.tunnel ⊆ allowed

theorem Performed.Survives.mono {τ β : Type} {capacity : Nat} {p : Performed τ β capacity}
    {waiting : τ → List (List β)} {allowed allowed' : List (List β)} (h : p.Survives waiting allowed)
    (hallowed : allowed ⊆ allowed') : p.Survives waiting allowed' :=
  ⟨h.placed, List.Subset.trans h.waits hallowed⟩

/-- What is relied on in a device. A packet may have to wait in a tunnel until a session stands, and
is sealed into the buffer of whatever operation comes then. -/
structure Device.Contract {β : Type} (D : Device β) where
  /-- The packets that wait in a tunnel. -/
  waiting : D.Tunnel → List (List β)
  /-- A datagram is a data message for a session of the tunnel, and its body is longer than a buffer
  of the capacity. -/
  Bursts : D.Tunnel → Nat → List β → Prop
  /-- Nothing waits in a new tunnel. -/
  made : ∀ {privateKey peer preshared keepAlive index t},
    D.make privateKey peer preshared keepAlive index = some t → waiting t = []
  /-- A packet that fits the buffer is sent, or waits. -/
  encapsulate : ∀ {capacity moment packet t} {buffer : Buffer β capacity},
    packet.length + dataOverhead ≤ capacity →
    (D.encapsulate moment packet t buffer).Survives waiting (packet :: waiting t)
  /-- A datagram that bursts no buffer is received; by it something that waits may be sent. -/
  decapsulate : ∀ {capacity moment datagram t} {buffer : Buffer β capacity},
    dataOverhead ≤ capacity → (∀ packet ∈ waiting t, packet.length + dataOverhead ≤ capacity) →
    ¬ Bursts t capacity datagram →
    (D.decapsulate moment datagram t buffer).Survives waiting (waiting t)
  /-- A datagram that bursts the buffer is what the device crashes at. -/
  bursting : ∀ {capacity moment datagram t} {buffer : Buffer β capacity},
    Bursts t capacity datagram →
    (D.decapsulate moment datagram t buffer).placement = none
      ∧ waiting (D.decapsulate moment datagram t buffer).tunnel ⊆ waiting t
  /-- The body of a data message stands behind its header. -/
  overlong : ∀ {capacity datagram t}, Bursts t capacity datagram →
    capacity + headerLength < datagram.length
  /-- A sign of life is a packet without content. -/
  tick : ∀ {capacity moment t} {buffer : Buffer β capacity}, dataOverhead ≤ capacity →
    (D.tick moment t buffer).Survives waiting ([] :: waiting t)
  initiate : ∀ {capacity moment t} {buffer : Buffer β capacity},
    (D.initiate moment t buffer).Survives waiting (waiting t)

namespace Device

variable {β : Type} {D : Device β}

/-- The tunnel of a session. -/
def tunnel (s : Session D.engine) : D.Tunnel := s.tunnel

/-- A tunnel is made from keys. -/
theorem exists_make_of_create {args : TunnelArguments} {t : D.Tunnel}
    (h : D.create args = some t) : ∃ privateKey peer preshared,
      D.make privateKey peer preshared args.keepAlive args.index = some t := by
  simp only [create, Option.bind_eq_bind, Option.bind_eq_some_iff] at h
  obtain ⟨privateKey, -, peer, -, h⟩ := h
  split at h
  · exact ⟨privateKey, peer, none, h⟩
  · obtain ⟨preshared, -, h⟩ := Option.bind_eq_some_iff.mp h
    exact ⟨privateKey, peer, some preshared, h⟩

/-- Nothing is reported of an operation that places nothing. -/
theorem settle_eq_none_iff {τ : Type} {capacity : Nat} {p : Performed τ β capacity} :
    p.settle.2 = none ↔ p.placement = none := by
  cases hp : p.placement <;> simp [Performed.settle, hp]

namespace Contract

variable (C : D.Contract) {capacity : Nat} {t : D.Tunnel}

/-- Every packet that waits for a session fits a buffer once it is sealed. -/
def Fits (t : D.Tunnel) (capacity : Nat) : Prop :=
  ∀ packet ∈ C.waiting t, packet.length + dataOverhead ≤ capacity

variable {C}

theorem fits_of_subset {allowed : List (List β)} (hwaiting : C.waiting t ⊆ allowed)
    (hallowed : ∀ packet ∈ allowed, packet.length + dataOverhead ≤ capacity) : C.Fits t capacity :=
  fun packet hpacket => hallowed packet (hwaiting hpacket)

/-- Nothing waits in a new tunnel, so it fits any buffer. -/
theorem fits_create {args : TunnelArguments} (h : D.create args = some t) (capacity : Nat) :
    C.Fits t capacity := by
  obtain ⟨_, _, _, hmake⟩ := exists_make_of_create h
  intro packet hpacket
  rw [C.made hmake] at hpacket
  cases hpacket

/-! ## Requests -/

section Requests

variable (moment : Nat) (buffer : Buffer β capacity)

/-- A request that receives no datagram which bursts the buffer is lived through, and what waits
after it fits. -/
theorem perform_survives (h : C.Fits t capacity) (hcapacity : dataOverhead ≤ capacity)
    {request : Request β} (hburst : ¬ ∃ d, request = .read d ∧ C.Bursts t capacity d) :
    (D.perform moment t buffer request).placement ≠ none
      ∧ C.Fits (D.perform moment t buffer request).tunnel capacity := by
  cases request with
  | write packet =>
    rw [perform]
    split
    · exact ⟨Option.some_ne_none _, h⟩
    next hfits =>
      have hpacket : packet.length + dataOverhead ≤ capacity := Nat.le_of_not_lt hfits
      have hsurvives : (D.encapsulate moment packet t buffer).Survives C.waiting
          (packet :: C.waiting t) := C.encapsulate hpacket
      exact ⟨hsurvives.placed,
        fits_of_subset hsurvives.waits (List.forall_mem_cons.mpr ⟨hpacket, h⟩)⟩
  | read datagram =>
    have hsurvives : (D.decapsulate moment datagram t buffer).Survives C.waiting (C.waiting t) :=
      C.decapsulate hcapacity h fun hd => hburst ⟨datagram, rfl, hd⟩
    exact ⟨hsurvives.placed, fits_of_subset hsurvives.waits h⟩
  | tick =>
    have hsurvives : (D.tick moment t buffer).Survives C.waiting ([] :: C.waiting t) :=
      C.tick hcapacity
    -- a sign of life is an empty packet, and fits any buffer with room for the overhead
    have hempty : ([] : List β).length + dataOverhead ≤ capacity := by
      rw [List.length_nil, Nat.zero_add]
      exact hcapacity
    exact ⟨hsurvives.placed, fits_of_subset hsurvives.waits (List.forall_mem_cons.mpr ⟨hempty, h⟩)⟩
  | handshake =>
    have hsurvives : (D.initiate moment t buffer).Survives C.waiting (C.waiting t) := C.initiate
    exact ⟨hsurvives.placed, fits_of_subset hsurvives.waits h⟩

/-- Requests keep it that what waits fits, those included at which the device crashes. -/
theorem fits_perform (h : C.Fits t capacity) (hcapacity : dataOverhead ≤ capacity)
    (request : Request β) : C.Fits (D.perform moment t buffer request).tunnel capacity := by
  by_cases hburst : ∃ d, request = .read d ∧ C.Bursts t capacity d
  · obtain ⟨d, rfl, hd⟩ := hburst
    exact fits_of_subset (C.bursting hd).2 h
  · exact (perform_survives moment buffer h hcapacity hburst).2

/-- A request crashes if it is the reading of a message that bursts the buffer, and not otherwise.
-/
theorem perform_crash_iff (h : C.Fits t capacity) (hcapacity : dataOverhead ≤ capacity)
    (request : Request β) :
    (D.perform moment t buffer request).placement = none
      ↔ ∃ d, request = .read d ∧ C.Bursts t capacity d := by
  constructor
  · intro hnone
    by_cases hburst : ∃ d, request = .read d ∧ C.Bursts t capacity d
    · exact hburst
    · exact absurd hnone (perform_survives moment buffer h hcapacity hburst).1
  · rintro ⟨d, rfl, hd⟩
    exact (C.bursting hd).1

end Requests

/-! ## Sessions -/

/-- What waits in a session's tunnel fits its buffer once it is sealed. -/
def QueueFits (C : D.Contract) (s : Session D.engine) : Prop := C.Fits (tunnel s) s.capacity

/-- A buffer of a checked configuration has room for what a data message adds to its content. -/
theorem dataOverhead_le_capacity {s : Session D.engine}
    (hchecked : s.family.value.config.check = .ok ()) : dataOverhead ≤ s.capacity := by
  have hleast : leastCapacity ≤ s.capacity := (Config.capacity_of_check hchecked).1
  have hoverhead : dataOverhead ≤ leastCapacity := by decide
  omega

/-- New sessions have nothing that waits, and requests keep it that what waits fits. -/
theorem kept_queueFits (C : D.Contract) : Session.Kept C.QueueFits where
  create _ _ _ _ _ _ _ hcreate := fits_create (congrArg Prod.snd hcreate) _
  perform _ moment request _ hchecked hfits :=
    fits_perform moment _ hfits (dataOverhead_le_capacity hchecked) request

/-- Requests crash exactly if they receive a datagram that bursts the buffer. -/
theorem turn_crash_iff {h : Host D.engine} {engines : Nat} {s : Session D.engine}
    (hs : s.Holds C.QueueFits engines) (request : Request β) :
    (h.turnOf s request).result = .error .crash
      ↔ ∃ d, request = .read d ∧ C.Bursts (tunnel s) s.capacity d := by
  rw [Host.turnOf, Session.perform, Session.judge_eq_crash_iff]
  exact settle_eq_none_iff.trans
    (perform_crash_iff _ _ hs.holds (dataOverhead_le_capacity hs.sound.checked) request)

/-- The same of a host: a reading ends in a crash if the datagram bursts the buffer of the session.
-/
theorem step_read_eq_crash_iff {h : Host D.engine} {holder : Holder} {s : Session D.engine}
    (hk : h.Keeps C.QueueFits) (hs : h.sessionAt holder = some s) (datagram : List β)
    (source : Option Endpoint) :
    (h.step (holder.call (.read datagram) source)).2 = .crash
      ↔ C.Bursts (tunnel s) s.capacity datagram := by
  rw [Host.step_call_eq_crash_iff _ source hs, turn_crash_iff (hk.sessionAt hs)]
  constructor
  · rintro ⟨d, hd, hburst⟩
    cases hd
    exact hburst
  · intro hburst
    exact ⟨datagram, rfl, hburst⟩

/-- A call without an overlong datagram does not crash. -/
theorem step_call_ne_crash {h : Host D.engine} {holder : Holder} {s : Session D.engine}
    (hk : h.Keeps C.QueueFits) (hs : h.sessionAt holder = some s) {request : Request β}
    (hrequest : ∀ d, request = .read d → d.length ≤ s.capacity + headerLength)
    (source : Option Endpoint) : (h.step (holder.call request source)).2 ≠ .crash := by
  intro hcrash
  rw [Host.step_call_eq_crash_iff _ source hs, turn_crash_iff (hk.sessionAt hs)] at hcrash
  obtain ⟨d, hd, hburst⟩ := hcrash
  exact Nat.not_lt.mpr (hrequest d hd) (C.overlong hburst)

/-- Calls one after the other: each finds the session that the one before it left, with its
capacity. -/
theorem run_callsOf {h : Host D.engine} {holder : Holder} {s : Session D.engine}
    (hk : h.Keeps C.QueueFits) (hs : h.sessionAt holder = some s)
    (calls : List (Request β × Option Endpoint))
    (hcalls : ∀ c ∈ calls, ∀ d, c.1 = .read d → d.length ≤ s.capacity + headerLength) :
    (∀ a ∈ (h.run (callsOf holder calls)).2, a ≠ .crash)
      ∧ ∃ s', (h.run (callsOf holder calls)).1.sessionAt holder = some s'
        ∧ s'.capacity = s.capacity := by
  -- the host and the session change with every call; the capacity is what the bound on later
  -- datagrams is taken from, and stays
  induction calls generalizing h s with
  | nil => exact ⟨nofun, s, hs, rfl⟩
  | cons c rest ih =>
    have hnext := Host.sessionAt_step_call c.1 c.2 hs
    have hkept := Host.keeps_step hk C.kept_queueFits (holder.call c.1 c.2)
    have hcall := step_call_ne_crash hk hs (hcalls c List.mem_cons_self) c.2
    obtain ⟨hrest, s', hs', hcapacity⟩ := ih hkept hnext
      fun c' hc' => hcalls c' (List.mem_cons_of_mem c hc')
    refine ⟨?_, s', hs', hcapacity⟩
    intro a ha
    rcases List.mem_cons.mp ha with rfl | ha
    · exact hcall
    · exact hrest a ha

/-! ## Hosts -/

/-- **What crashes a host**, with any device that keeps the contract: a datagram that bursts the
buffer of the session or peer that it is handed to, and that buffer holds between 148 and 65535
octets. -/
theorem crash_of_read (C : D.Contract) (before : List (TunnelHost.Step β)) {holder : Holder}
    {s : Session D.engine} (hs : (Host.after D.engine before).sessionAt holder = some s)
    (datagram : List β) (source : Option Endpoint) :
    (((Host.after D.engine before).step (holder.call (.read datagram) source)).2 = .crash
      ↔ C.Bursts (tunnel s) s.capacity datagram) ∧ 148 ≤ s.capacity ∧ s.capacity ≤ 65535 := by
  have hk := Host.keeps_after C.kept_queueFits before
  exact ⟨step_read_eq_crash_iff hk hs datagram source,
    Config.capacity_of_check (hk.sessionAt hs).sound.checked⟩

/-- **Nothing else does**, with any device that keeps the contract: calls of a session or peer are
lived through, in any order, as long as no datagram is longer than the header of a data message and
the buffer together, and what waits in the tunnel after them fits the buffer once it is sealed. -/
theorem calls_survive (C : D.Contract) (before : List (TunnelHost.Step β)) {holder : Holder}
    {s : Session D.engine} (hs : (Host.after D.engine before).sessionAt holder = some s)
    (calls : List (Request β × Option Endpoint))
    (hcalls : ∀ c ∈ calls, ∀ d, c.1 = .read d → d.length ≤ s.capacity + 16) :
    (∀ a ∈ ((Host.after D.engine before).run (callsOf holder calls)).2, a ≠ .crash)
      ∧ ∃ s', ((Host.after D.engine before).run (callsOf holder calls)).1.sessionAt holder = some s'
          ∧ s'.capacity = s.capacity
          ∧ ∀ packet ∈ C.waiting (tunnel s'), packet.length + 32 ≤ s.capacity := by
  have hk := Host.keeps_after C.kept_queueFits before
  -- the invariant holds after the calls too, and says of the session left then what it said before
  obtain ⟨hsafe, s', hs', hcapacity⟩ := run_callsOf hk hs calls hcalls
  have hafter := (Host.keeps_run hk C.kept_queueFits (callsOf holder calls)).sessionAt hs'
  refine ⟨hsafe, s', hs', hcapacity, ?_⟩
  intro packet hpacket
  have hfits : packet.length + dataOverhead ≤ s'.capacity := hafter.holds packet hpacket
  rw [hcapacity] at hfits
  exact hfits

end Contract

end Device

end Noise

end TunnelHost
