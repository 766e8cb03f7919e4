import Mathlib.Data.List.Forall2
import TunnelHost.Proofs.EngineContract

/-!
# Packets through a tunnel

One end seals packets under a key, with a counter that rises by one from each to the next; the other
end holds the same key, and has accepted all counters below some number and none from there on. So
the next message is opened and its packet handed on, cut to the length that its own header tells,
and a message that was opened before is refused.

- `IsIpv4`, `IsIpv6`, `HandedOn`: packets, and what is handed on of them.
- `Tunnel.Sends`, `Tunnel.Receives`: an end that seals, and one that opens.
- `Feeding`: datagrams handed over in order, with repeats, and the answers that they get.
- `message`, `messages`: the datagrams of packets.
- `write_of_sends`, `read_of_attends`, `read_of_spent`: one request.
- `serve_writes`, `serve_feeding`: many.
- `stream`: from one session to another.
-/

namespace TunnelHost.Noise

/-! ## Packets -/

/-- A packet of the fourth version, with the length that its header tells. -/
structure IsIpv4 (packet : List Octet) (length : Nat) : Prop where
  least : 20 ≤ packet.length
  version : ∃ first : UInt8, packet[0]? = some (.plain first) ∧ first.toNat / 16 = 4
  total : ∃ high low : UInt8, packet[2]? = some (.plain high) ∧ packet[3]? = some (.plain low)
    ∧ length = 256 * high.toNat + low.toNat
  fits : length ≤ packet.length

/-- A packet of the sixth version. Its header tells the length of what follows the header. -/
structure IsIpv6 (packet : List Octet) (length : Nat) : Prop where
  least : 40 ≤ packet.length
  version : ∃ first : UInt8, packet[0]? = some (.plain first) ∧ first.toNat / 16 = 6
  total : ∃ high low : UInt8, packet[4]? = some (.plain high) ∧ packet[5]? = some (.plain low)
    ∧ length = 40 + (256 * high.toNat + low.toNat)
  fits : length ≤ packet.length

/-- What is handed on of a packet: as many octets as its header tells. -/
inductive HandedOn (packet : List Octet) : Envelope Octet → Prop
  | four {length : Nat} (h : IsIpv4 packet length) :
      HandedOn packet (.toTunnel4 (packet.take length))
  | six {length : Nat} (h : IsIpv6 packet length) :
      HandedOn packet (.toTunnel6 (packet.take length))

/-- Two plain octets are read as a number, the high one first. -/
theorem take_two {packet : List Octet} {place : Nat} {high low : UInt8}
    (hhigh : packet[place]? = some (.plain high)) (hlow : packet[place + 1]? = some (.plain low)) :
    readBigEndian? ((packet.drop place).take 2) = some (256 * high.toNat + low.toNat) := by
  obtain ⟨hplace, hhigh⟩ := List.getElem?_eq_some_iff.mp hhigh
  obtain ⟨hnext, hlow⟩ := List.getElem?_eq_some_iff.mp hlow
  rw [List.drop_eq_getElem_cons hplace, List.drop_eq_getElem_cons hnext, hhigh, hlow]
  show some (low.toNat + 256 * (high.toNat + 256 * 0)) = _
  rw [Nat.mul_zero, Nat.add_zero, Nat.add_comm]

/-- What is handed on is what the header of the packet tells of. -/
theorem HandedOn.header {packet : List Octet} {e : Envelope Octet} (h : HandedOn packet e) :
    ∃ status length, Tunnel.headerOf? packet = some (status, length) ∧ length ≤ packet.length
      ∧ e = .enclose (packet.take length) status := by
  cases h with
  | @four length h =>
    obtain ⟨first, hfirst, hversion⟩ := h.version
    obtain ⟨high, low, hhigh, hlow, rfl⟩ := h.total
    refine ⟨.toTunnel4, _, ?_, h.fits, rfl⟩
    rw [Tunnel.headerOf?, List.head?_eq_getElem?, hfirst]
    -- the version and the least length decide which header is read
    show (if first.toNat / 16 = 4 && 20 ≤ packet.length then _ else _) = _
    rw [if_pos (by simp [hversion, h.least]), take_two hhigh hlow]
    rfl
  | @six length h =>
    obtain ⟨first, hfirst, hversion⟩ := h.version
    obtain ⟨high, low, hhigh, hlow, rfl⟩ := h.total
    refine ⟨.toTunnel6, _, ?_, h.fits, rfl⟩
    rw [Tunnel.headerOf?, List.head?_eq_getElem?, hfirst]
    show (if first.toNat / 16 = 4 && 20 ≤ packet.length then _ else _) = _
    rw [if_neg (by simp [hversion]), if_pos (by simp [hversion, h.least]), take_two hhigh hlow,
      Nat.add_comm 40]
    rfl

/-- An empty packet is not handed on. -/
theorem HandedOn.ne_nil {packet : List Octet} {e : Envelope Octet} (h : HandedOn packet e) :
    packet ≠ [] := by
  rintro rfl
  cases h with
  | four h => exact absurd h.least (by decide)
  | six h => exact absurd h.least (by decide)

/-! ## Both ends -/

/-- A window that has accepted the counters below a number, and no other. -/
structure Window.Exact (w : Window) (count : Nat) : Prop where
  next : w.next = count
  seen : ∀ counter < count, counter ∈ w.seen

namespace Window

variable {w : Window} {count counter : Nat}

theorem Exact.accepts (hw : w.Exact count) : w.accepts count = true := by
  rw [Window.accepts, hw.next, decide_eq_true (Nat.le_refl count), Bool.true_or]

/-- A counter that came before is not. -/
theorem Exact.not_accepts (hw : w.Exact count) (hcounter : counter < count) :
    w.accepts counter = false := by
  have hseen : w.seen.contains counter = true :=
    List.contains_iff_mem.mpr (hw.seen counter hcounter)
  rw [Window.accepts, hw.next, hseen, decide_eq_false (Nat.not_le.mpr hcounter), Bool.false_or,
    Bool.not_true, Bool.and_false]

/-- The next counter, once marked, leaves the window exact. -/
theorem Exact.mark (hw : w.Exact count) : (w.mark count).Exact (count + 1) where
  next := by
    show max w.next (count + 1) = count + 1
    rw [hw.next, Nat.max_eq_right (Nat.le_succ count)]
  seen := by
    intro counter hcounter
    rcases Nat.lt_succ_iff_lt_or_eq.mp hcounter with hlt | rfl
    · exact List.mem_cons_of_mem _ (hw.seen counter hlt)
    · exact List.mem_cons_self

end Window

/-- The data message of a packet. -/
def message (key : TransportKey) (receiver : UInt32) (counter : Nat) (packet : List Octet) :
    List Octet :=
  dataOctets receiver ⟨key, counter, packet.length⟩ packet

/-- The data messages of packets, sealed one after the other. -/
def messages (key : TransportKey) (receiver : UInt32) : Nat → List (List Octet) → List (List Octet)
  | _, [] => []
  | counter, packet :: rest =>
    message key receiver counter packet :: messages key receiver (counter + 1) rest

namespace Tunnel

variable {capacity : Nat} {t : Tunnel} {key : TransportKey} {receiver : UInt32} {counter next : Nat}
  {packet : List Octet}

/-- The session in use seals under a key, for a receiver, with this counter next. -/
def Sends (t : Tunnel) (key : TransportKey) (receiver : UInt32) (counter : Nat) : Prop :=
  ∃ s, t.slot t.current = some s ∧ s.sendingKey = key ∧ s.peerIndex = receiver
    ∧ s.counter = counter

/-- The session of an index opens what was sealed under a key, and has accepted the counters below
some number. -/
def Receives (t : Tunnel) (key : TransportKey) (receiver : UInt32) (next : Nat) : Prop :=
  ∃ s, t.slot receiver = some s ∧ s.receivingKey = key ∧ s.localIndex = receiver
    ∧ s.window.Exact next

theorem slot_setSlot_self (t : Tunnel) (index : UInt32) (s : Transport) :
    (t.setSlot index s).slot index = some s := by
  show (t.slots.set (place index) (some s))[place index] = some s
  exact Vector.getElem_set_self _

theorem slot_use (t : Tunnel) (index other : UInt32) :
    (t.use index).1.slot other = t.slot other := by
  have hslots : (t.use index).1.slots = t.slots := by
    simp only [use, apply_ite Prod.fst, apply_ite Tunnel.slots, ite_self]
  exact congrArg (·[place other]) hslots

theorem handshake_use (t : Tunnel) (index : UInt32) :
    (t.use index).1.handshake = t.handshake := by
  simp only [use, apply_ite Prod.fst, apply_ite Tunnel.handshake, ite_self]

/-- A packet is sealed with the next counter. -/
theorem encapsulate_of_sends (h : t.Sends key receiver counter)
    (hfits : packet.length + dataOverhead ≤ capacity) (moment : Nat)
    (buffer : Buffer Octet capacity) :
    ∃ t' : Tunnel, t.encapsulate moment packet buffer
        = t'.emit buffer .toNetwork (message key receiver counter packet) []
      ∧ t'.Sends key receiver (counter + 1) := by
  obtain ⟨s, hslot, rfl, rfl, rfl⟩ := h
  refine ⟨{ t.setSlot t.current { s with counter := s.counter + 1 } with
    sent := t.sent + packet.length }, ?_, ?_⟩
  · rw [encapsulate, hslot]
    dsimp only
    rw [if_neg (Nat.not_lt.mpr hfits)]
    rfl
  · exact ⟨{ s with counter := s.counter + 1 }, slot_setSlot_self t t.current _, rfl, rfl, rfl⟩

/-- The next message is opened. -/
theorem receiveData_next (h : t.Receives key receiver next)
    (hfits : packet.length + tagLength ≤ capacity) (buffer : Buffer Octet capacity) :
    ∃ (t' : Tunnel) (events : List Event),
      t.receiveData receiver next (Sealing.octets ⟨key, next, packet.length⟩ packet) buffer
        = t'.deliver packet buffer events
      ∧ t'.Receives key receiver (next + 1) ∧ t'.handshake = t.handshake := by
  obtain ⟨s, hslot, rfl, hindex, hwindow⟩ := h
  let s' : Transport := { s with window := s.window.mark next }
  -- the window accepts the next counter, and the key opens what was sealed under it
  have hunwrap : s.unwrap? receiver next
      (Sealing.octets ⟨s.receivingKey, next, packet.length⟩ packet) = some (packet, s') := by
    rw [Transport.unwrap?, if_neg (by simp [hindex, hwindow.accepts]), Sealing.open?_octets]
  refine ⟨((t.setSlot receiver s').use receiver).1, ((t.setSlot receiver s').use receiver).2,
    ?_, ⟨s', ?_, rfl, hindex, hwindow.mark⟩, handshake_use _ _⟩
  · rw [receiveData, hslot]
    dsimp only
    rw [if_neg (by rw [Sealing.length_octets]; exact Nat.not_lt.mpr hfits), hunwrap]
  · rw [slot_use]
    exact slot_setSlot_self t receiver s'

/-- A message that was opened before is refused. -/
theorem receiveData_again (h : t.Receives key receiver next) (hcounter : counter < next)
    (hfits : packet.length + tagLength ≤ capacity) (buffer : Buffer Octet capacity) :
    t.receiveData receiver counter (Sealing.octets ⟨key, counter, packet.length⟩ packet) buffer
      = t.fail buffer [] := by
  obtain ⟨s, hslot, rfl, hindex, hwindow⟩ := h
  have hunwrap : s.unwrap? receiver counter
      (Sealing.octets ⟨s.receivingKey, counter, packet.length⟩ packet) = none := by
    rw [Transport.unwrap?, if_pos (by simp [hwindow.not_accepts hcounter])]
  rw [receiveData, hslot]
  dsimp only
  rw [if_neg (by rw [Sealing.length_octets]; exact Nat.not_lt.mpr hfits), hunwrap]

/-- A packet is handed on, cut to the length that its header tells. -/
theorem deliver_of_handedOn {e : Envelope Octet} (h : HandedOn packet e) (t : Tunnel)
    (buffer : Buffer Octet capacity) (events : List Event) :
    ∃ (t' : Tunnel) (status : Status) (length : Nat),
      t.deliver packet buffer events = t'.emit buffer status (packet.take length) events
      ∧ e = .enclose (packet.take length) status
      ∧ t'.slots = t.slots ∧ t'.handshake = t.handshake := by
  obtain ⟨status, length, hheader, hfits, he⟩ := h.header
  refine ⟨{ t with received := t.received + length }, status, length, ?_, he, rfl, rfl⟩
  rw [deliver, if_neg (by simpa using h.ne_nil), hheader]
  dsimp only
  rw [if_neg (Nat.not_lt.mpr hfits)]

/-- A data message reaches the session of its receiver, as long as its counter fits its octets. -/
theorem decapsulate_message (hcounter : counter < 2 ^ 64) (t : Tunnel) (moment : Nat)
    (packet : List Octet) (buffer : Buffer Octet capacity) :
    t.decapsulate moment (message key receiver counter packet) buffer
      = t.receiveData receiver counter
          (Sealing.octets ⟨key, counter, packet.length⟩ packet) buffer := by
  have hnonempty : ¬ (message key receiver counter packet).isEmpty = true := by
    rw [List.isEmpty_iff, ← List.length_eq_zero_iff, message, length_dataOctets, dataOverhead]
    exact Nat.succ_ne_zero _
  have hpacket : Packet.ofOctets? (message key receiver counter packet) = _ :=
    Packet.ofOctets?_data receiver (by exact hcounter) packet
  rw [decapsulate, if_neg hnonempty, hpacket]

/-- An initiation is told by its first octets. -/
theorem decapsulate_of_initiation (t : Tunnel) (moment : Nat) (m : Initiation)
    (buffer : Buffer Octet capacity) :
    t.decapsulate moment m.octets buffer = t.receiveInitiation moment m.octets buffer := by
  have hnonempty : ¬ m.octets.isEmpty = true := by
    rw [List.isEmpty_iff, ← List.length_eq_zero_iff, m.length_octets]
    decide
  rw [decapsulate, if_neg hnonempty, Packet.ofOctets?_initiation]

/-- An initiation that was taken in before is refused. -/
theorem decapsulate_initiation_again {m : Initiation}
    (hnewest : t.handshake.newest = some m.moment) (moment : Nat)
    (buffer : Buffer Octet capacity) :
    ∃ (t' : Tunnel) (events : List Event),
      t.decapsulate moment m.octets buffer = t'.fail buffer events
      ∧ t'.slots = t.slots ∧ t'.handshake = t.handshake := by
  have hadmitted : t.handshake.admit? m = none := by
    rw [Handshake.admit?, hnewest]
    simp
  rw [decapsulate_of_initiation, receiveInitiation, Initiation.ofOctets?_octets]
  dsimp only [loaded]
  split
  · exact ⟨_, _, rfl, rfl, rfl⟩
  · split
    · exact ⟨_, _, rfl, rfl, rfl⟩
    · rw [hadmitted]
      exact ⟨_, _, rfl, rfl, rfl⟩

/-- The end that answered an initiation, and opens what comes by the session that this led to. -/
structure Attends (t : Tunnel) (m : Initiation) (key : TransportKey) (receiver : UInt32)
    (count : Nat) : Prop where
  newest : t.handshake.newest = some m.moment
  receives : t.Receives key receiver count

theorem Attends.of_eq {t' : Tunnel} {m : Initiation} (h : t.Attends m key receiver next)
    (hslots : t'.slots = t.slots) (hhandshake : t'.handshake = t.handshake) :
    t'.Attends m key receiver next := by
  obtain ⟨hnewest, s, hslot, hs⟩ := h
  refine ⟨hhandshake ▸ hnewest, s, ?_, hs⟩
  rw [← hslot, slot, slot, hslots]

end Tunnel

/-- Datagrams that were taken in before: the initiation, and the messages of counters that were
accepted. -/
inductive Spent (capacity : Nat) (m : Initiation) (key : TransportKey) (receiver : UInt32)
    (count : Nat) : List Octet → Prop
  | initiation : Spent capacity m key receiver count m.octets
  | message {counter : Nat} {packet : List Octet} (hcounter : counter < count)
      (hfits : packet.length + tagLength ≤ capacity) :
      Spent capacity m key receiver count (message key receiver counter packet)

/-- What is spent stays spent. -/
theorem Spent.mono {capacity count more : Nat} {m : Initiation} {key : TransportKey}
    {receiver : UInt32} {datagram : List Octet}
    (h : Spent capacity m key receiver count datagram) (hmore : count ≤ more) :
    Spent capacity m key receiver more datagram := by
  cases h with
  | initiation => exact .initiation
  | message hcounter hfits => exact .message (Nat.lt_of_lt_of_le hcounter hmore) hfits

/-! ## Requests -/

section Requests

variable {timers : Timers} {s : Session (timed timers)} {m : Initiation} {key : TransportKey}
  {receiver : UInt32} {counter count : Nat} {packet datagram : List Octet} {e : Envelope Octet}

/-- A packet that is written becomes a message. -/
theorem write_of_sends (h : (tunnelOf s).Sends key receiver counter)
    (hfits : packet.length + dataOverhead ≤ s.capacity) (moment : Nat)
    (state : (timed timers).State) :
    (s.perform moment (.write packet) state).result
        = .ok (.toNetwork (message key receiver counter packet))
      ∧ (tunnelOf (s.perform moment (.write packet) state).session).Sends key receiver
          (counter + 1) := by
  obtain ⟨t', hsealed, hsends⟩ := Tunnel.encapsulate_of_sends h hfits moment
    (.zeroed (.plain 0) s.capacity)
  have hoperation : operation s moment (.write packet) = _ :=
    (if_neg (Nat.not_lt.mpr hfits)).trans hsealed
  refine ⟨perform_result_emit state hoperation ?_, ?_⟩
  · rw [message, length_dataOctets]
    exact hfits
  · rw [tunnelOf_perform, hoperation]
    exact hsends

/-- The next message that is read is opened, and its packet handed on. -/
theorem read_of_attends (h : (tunnelOf s).Attends m key receiver count) (hcount : count < 2 ^ 64)
    (he : HandedOn packet e) (hfits : packet.length + tagLength ≤ s.capacity) (moment : Nat)
    (state : (timed timers).State) :
    let turn := s.perform moment (.read (message key receiver count packet)) state
    turn.result = .ok e ∧ (tunnelOf turn.session).Attends m key receiver (count + 1) := by
  intro turn
  obtain ⟨t', events, hopened, hreceives, hhandshake⟩ := Tunnel.receiveData_next h.receives hfits
    (.zeroed (.plain 0) s.capacity)
  obtain ⟨t'', status, length, hdelivered, rfl, hslots, hsame⟩ :=
    Tunnel.deliver_of_handedOn he t' (.zeroed (.plain 0) s.capacity) events
  have hoperation : operation s moment (.read (message key receiver count packet)) = _ :=
    (Tunnel.decapsulate_message hcount _ _ _ _).trans (hopened.trans hdelivered)
  have hattends : t'.Attends m key receiver (count + 1) :=
    ⟨hhandshake ▸ h.newest, hreceives⟩
  refine ⟨perform_result_emit state hoperation ?_, ?_⟩
  · have hlength := List.length_take_le' length packet
    omega
  · rw [tunnelOf_perform, hoperation]
    exact hattends.of_eq hslots hsame

/-- What was taken in before is refused. -/
theorem read_of_spent (h : (tunnelOf s).Attends m key receiver count) (hcount : count ≤ 2 ^ 64)
    (hspent : Spent s.capacity m key receiver count datagram) (moment : Nat)
    (state : (timed timers).State) :
    let turn := s.perform moment (.read datagram) state
    turn.result = .ok .failed ∧ (tunnelOf turn.session).Attends m key receiver count := by
  intro turn
  have hfailed : ∃ (t' : Tunnel) (events : List Event),
      operation s moment (.read datagram) = t'.fail (.zeroed (.plain 0) s.capacity) events
        ∧ t'.slots = (tunnelOf s).slots ∧ t'.handshake = (tunnelOf s).handshake := by
    -- what is spent is refused for its moment or for its counter, and leaves the slots alone
    cases hspent with
    | initiation => exact Tunnel.decapsulate_initiation_again h.newest moment _
    | message hcounter hfits =>
      refine ⟨tunnelOf s, [], ?_, rfl, rfl⟩
      exact (Tunnel.decapsulate_message (Nat.lt_of_lt_of_le hcounter hcount) _ _ _ _).trans
        (Tunnel.receiveData_again h.receives hcounter hfits _)
  obtain ⟨t', events, hoperation, hslots, hhandshake⟩ := hfailed
  refine ⟨perform_result_fail state hoperation, ?_⟩
  rw [tunnelOf_perform, hoperation]
  exact h.of_eq hslots hhandshake

end Requests

/-! ## Streams -/

/-- Datagrams that are handed over in order, with any that were handed over before again in between,
and the answers to them: each of those that were pending is answered as it has to be, and each of
the others is refused. -/
inductive Feeding : (fed : List (List Octet)) → (pending : List (List Octet × Envelope Octet)) →
    (feeds : List (List Octet)) → (answers : List (Envelope Octet)) → Prop
  | nil (fed : List (List Octet)) : Feeding fed [] [] []
  | next {fed feeds : List (List Octet)} {pending : List (List Octet × Envelope Octet)}
      {answers : List (Envelope Octet)} (datagram : List Octet) (e : Envelope Octet)
      (hrest : Feeding (datagram :: fed) pending feeds answers) :
      Feeding fed ((datagram, e) :: pending) (datagram :: feeds) (e :: answers)
  | again {fed feeds : List (List Octet)} {pending : List (List Octet × Envelope Octet)}
      {answers : List (Envelope Octet)} {datagram : List Octet} (hfed : datagram ∈ fed)
      (hrest : Feeding fed pending feeds answers) :
      Feeding fed pending (datagram :: feeds) (.failed :: answers)

/-- What is handed on is no refusal. -/
theorem ne_failed_of_handedOn {packets : List (List Octet)} {deliveries : List (Envelope Octet)}
    (h : List.Forall₂ HandedOn packets deliveries) : ∀ e ∈ deliveries, e ≠ .failed := by
  induction h with
  | nil => nofun
  | cons he _ ih =>
    intro e hmem
    rcases List.mem_cons.mp hmem with rfl | hmem
    · cases he <;> nofun
    · exact ih e hmem

/-- Apart from the refusals, each of those that were pending is answered once, in order. -/
theorem Feeding.filter_ne_failed {fed feeds : List (List Octet)}
    {pending : List (List Octet × Envelope Octet)} {answers : List (Envelope Octet)}
    (h : Feeding fed pending feeds answers) (hpending : ∀ p ∈ pending, p.2 ≠ .failed) :
    answers.filter (· ≠ .failed) = pending.map Prod.snd := by
  induction h with
  | nil => rfl
  | next datagram e _ ih =>
    have he : e ≠ .failed := hpending (datagram, e) List.mem_cons_self
    rw [List.filter_cons_of_pos (by simpa using he), List.map_cons,
      ih fun p hp => hpending p (List.mem_cons_of_mem _ hp)]
  | again _ _ ih => rw [List.filter_cons_of_neg (by simp), ih hpending]

@[simp] theorem length_messages (key : TransportKey) (receiver : UInt32) (counter : Nat)
    (packets : List (List Octet)) :
    (messages key receiver counter packets).length = packets.length := by
  induction packets generalizing counter with
  | nil => rfl
  | cons packet rest ih => exact congrArg (· + 1) (ih (counter + 1))

/-- Every message is as much longer than its packet. -/
theorem map_length_messages (key : TransportKey) (receiver : UInt32) (counter : Nat)
    (packets : List (List Octet)) :
    (messages key receiver counter packets).map List.length
      = packets.map fun packet => packet.length + dataOverhead := by
  induction packets generalizing counter with
  | nil => rfl
  | cons packet rest ih =>
    exact congrArg₂ List.cons (length_dataOctets _ _ _) (ih (counter + 1))

section Streams

variable {timers : Timers} {s : Session (timed timers)} {m : Initiation} {key : TransportKey}
  {receiver : UInt32} {counter count : Nat}

/-- Packets that are written become messages with one counter after the other. -/
theorem serve_writes (h : (tunnelOf s).Sends key receiver counter)
    (writes : List (Nat × List Octet))
    (hfits : ∀ w ∈ writes, w.2.length + dataOverhead ≤ s.capacity)
    (state : (timed timers).State) :
    s.serve state (writes.map fun w => (w.1, .write w.2))
      = (messages key receiver counter (writes.map (·.2))).map fun d => .ok (.toNetwork d) := by
  induction writes generalizing s counter state with
  | nil => rfl
  | cons w rest ih =>
    obtain ⟨hresult, hsends⟩ := write_of_sends h (hfits w List.mem_cons_self) w.1 state
    have hrest := ih hsends (fun w' hw' => hfits w' (List.mem_cons_of_mem w hw'))
      (s.perform w.1 (.write w.2) state).state
    show _ :: _ = _ :: _
    rw [hresult, hrest]

/-- Messages that are read in order are opened one after the other, and repeats are refused. -/
theorem serve_feeding {packets fed : List (List Octet)} {deliveries answers : List (Envelope Octet)}
    {feeds : List (Nat × List Octet)} (h : (tunnelOf s).Attends m key receiver count)
    (hfeeding : Feeding fed ((messages key receiver count packets).zip deliveries)
      (feeds.map (·.2)) answers)
    (hhanded : List.Forall₂ HandedOn packets deliveries)
    (hfits : ∀ packet ∈ packets, packet.length + tagLength ≤ s.capacity)
    (hcount : count + packets.length ≤ 2 ^ 64)
    (hspent : ∀ d ∈ fed, Spent s.capacity m key receiver count d) (state : (timed timers).State) :
    s.serve state (feeds.map fun f => (f.1, .read f.2)) = answers.map .ok := by
  -- along what is handed over; the packets that are left and the counter change with each that is
  -- opened, and the session with every request
  generalize hpending : (messages key receiver count packets).zip deliveries = pending at hfeeding
  generalize hdatagrams : feeds.map (·.2) = datagrams at hfeeding
  induction hfeeding generalizing s count packets deliveries feeds state with
  | nil =>
    rw [List.map_eq_nil_iff.mp hdatagrams]
    rfl
  | @next fed rest pending answers datagram e _ ih =>
    obtain ⟨f, feeds, rfl, rfl, hrest⟩ := List.map_eq_cons_iff.mp hdatagrams
    cases hhanded with
    | nil => cases hpending
    | @cons packet _ packets deliveries he hhanded =>
      obtain ⟨hhead, hpendings⟩ := List.cons.inj hpending
      obtain ⟨hdatagram, rfl⟩ := Prod.mk.inj hhead
      rw [List.length_cons] at hcount
      have hfit := hfits packet List.mem_cons_self
      obtain ⟨hresult, hattends⟩ := read_of_attends h (by omega) he hfit f.1 state
      rw [hdatagram] at hresult hattends
      have hopened : ∀ d ∈ f.2 :: fed, Spent s.capacity m key receiver (count + 1) d := by
        intro d hd
        rcases List.mem_cons.mp hd with rfl | hd
        · exact hdatagram ▸ .message (Nat.lt_succ_self count) hfit
        · exact (hspent d hd).mono (Nat.le_succ count)
      have hlater := ih hattends hhanded
        (fun packet' hmem => hfits packet' (List.mem_cons_of_mem packet hmem)) (by omega) hopened
        (s.perform f.1 (.read f.2) state).state hpendings hrest
      show _ :: _ = _ :: _
      rw [hresult, hlater]
  | @again fed rest pending answers datagram hfed _ ih =>
    obtain ⟨f, feeds, rfl, rfl, hrest⟩ := List.map_eq_cons_iff.mp hdatagrams
    obtain ⟨hresult, hattends⟩ := read_of_spent h (by omega) (hspent _ hfed) f.1 state
    have hlater := ih hattends hhanded hfits hcount hspent
      (s.perform f.1 (.read f.2) state).state hpending hrest
    show _ :: _ = _ :: _
    rw [hresult, hlater]

/-- What one session seals, another opens, if it has opened everything with a lower counter. -/
theorem stream {u : Session (timed timers)} {fed : List (List Octet)}
    {writes : List (Nat × List Octet)} {deliveries : List (Envelope Octet)}
    (hsends : (tunnelOf s).Sends key receiver counter)
    (hattends : (tunnelOf u).Attends m key receiver counter)
    (hspent : ∀ d ∈ fed, Spent u.capacity m key receiver counter d)
    (hhanded : List.Forall₂ (fun w e => HandedOn w.2 e) writes deliveries)
    (hfits : ∀ w ∈ writes,
      w.2.length + dataOverhead ≤ s.capacity ∧ w.2.length + tagLength ≤ u.capacity)
    (state : (timed timers).State) :
    ∃ datagrams : List (List Octet),
      s.serve state (writes.map fun w => (w.1, .write w.2))
          = datagrams.map (fun d => .ok (.toNetwork d))
      ∧ datagrams.map List.length = writes.map (fun w => w.2.length + dataOverhead)
      ∧ (counter + writes.length ≤ 2 ^ 64 →
          ∀ (feeds : List (Nat × List Octet)) (answers : List (Envelope Octet)),
            Feeding fed (datagrams.zip deliveries) (feeds.map (·.2)) answers →
              u.serve state (feeds.map fun f => (f.1, .read f.2)) = answers.map .ok
                ∧ answers.filter (· ≠ .failed) = deliveries) := by
  -- what is handed on depends on the packets alone, not on when they are written
  have hpackets : List.Forall₂ HandedOn (writes.map (·.2)) deliveries :=
    List.forall₂_map_left_iff.mpr hhanded
  refine ⟨messages key receiver counter (writes.map (·.2)),
    serve_writes hsends writes (fun w hw => (hfits w hw).1) state, ?_, ?_⟩
  · rw [map_length_messages, List.map_map]
    rfl
  intro hcounter feeds answers hfeeding
  refine ⟨serve_feeding hattends hfeeding hpackets ?_ ?_ hspent state, ?_⟩
  · intro packet hpacket
    obtain ⟨w, hw, rfl⟩ := List.mem_map.mp hpacket
    exact (hfits w hw).2
  · rw [List.length_map]
    exact hcounter
  · have hlength : deliveries.length
        ≤ (messages key receiver counter (writes.map (·.2))).length := by
      rw [length_messages]
      exact Nat.le_of_eq hpackets.length_eq.symm
    rw [hfeeding.filter_ne_failed fun p hp => ne_failed_of_handedOn hpackets p.2
      (List.of_mem_zip hp).2]
    exact List.map_snd_zip hlength

end Streams

end TunnelHost.Noise
