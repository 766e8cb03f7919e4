import TunnelHost.Proofs.PacketStream

/-!
# From one end to the other

Two new sessions with keys that match crosswise come to a transport session by three datagrams: an
initiation, the response to it, and an empty message by which the second end learns that the session
stands. From then on every packet that the first end writes arrives at the second, once.

- `Fresh`, `Crosswise`: new sessions, and arguments that match.
- `Tunnel.Unused`, `Tunnel.Awaits`: an end before a handshake, and one that has started it.
- `handshake_of_unused`, `read_initiation`, `read_response`, `read_empty`: the handshake, step by
  step.
- `handshake_of_crosswise`: the handshake as a whole.
- `end_to_end`: the handshake, and the packets after it.
-/

namespace TunnelHost.Noise

/-! ## New sessions -/

/-- A session that was created with a checked configuration, and asked for nothing yet. -/
def Fresh {timers : Timers} (s : Session (timed timers)) : Prop :=
  ∃ id family arguments state, family.value.config.check = .ok ()
    ∧ (Session.create? id family arguments state).2 = some s

/-- The public key of either side is that of the private key of the other, and both share the same
key in advance, or none. -/
structure Crosswise (a b : TunnelArguments) : Prop where
  keys : ∃ ours theirs : Key, a.privateKey = ours.toText ∧ a.publicKey = theirs.publicKey.toText
    ∧ b.privateKey = theirs.toText ∧ b.publicKey = ours.publicKey.toText
  presharedKey : a.presharedKey = b.presharedKey

/-- An end that has neither sent nor received anything. -/
structure Tunnel.Unused (t : Tunnel) (own peer preshared : Key) : Prop where
  own : t.handshake.own = own
  peer : t.handshake.peer = peer
  preshared : t.handshake.preshared = preshared
  newest : t.handshake.newest = none
  load : t.load = 0
  slots : ∀ index, t.slot index = none

/-- A new tunnel is unused. -/
theorem Tunnel.unused_new (privateKey peer : Key) (preshared : Option Key) (index : UInt32) :
    (Tunnel.new privateKey peer preshared index).Unused privateKey.publicKey peer
      (preshared.getD .zero) where
  own := rfl
  peer := rfl
  preshared := rfl
  newest := rfl
  load := rfl
  slots _ := Vector.getElem_replicate _

/-- A tunnel is created with the keys of its key texts. -/
theorem unused_of_create {timers : Timers} {args : TunnelArguments} {privateKey peer : Key}
    {t : Tunnel} (hprivate : args.privateKey = privateKey.toText)
    (hpeer : args.publicKey = peer.toText) (hcreate : (device timers).create args = some t) :
    t.Unused privateKey.publicKey peer
      ((args.presharedKey.bind Key.ofText?).getD .zero) := by
  rw [Device.create, hprivate, hpeer, Key.ofText?_toText, Key.ofText?_toText] at hcreate
  -- a preshared key that is left out is the zero key of the protocol
  cases hpreshared : args.presharedKey with
  | none =>
    rw [hpreshared] at hcreate
    cases hcreate
    exact Tunnel.unused_new privateKey peer none args.index
  | some s =>
    rw [hpreshared] at hcreate
    obtain ⟨preshared, hs, ht⟩ : ∃ preshared, Key.ofText? s = some preshared
        ∧ some (Tunnel.new privateKey peer (some preshared) args.index) = some t :=
      Option.bind_eq_some_iff.mp hcreate
    rw [← Option.some.inj ht, Option.bind_some, hs]
    exact Tunnel.unused_new privateKey peer (some preshared) args.index

section Sessions

variable {timers : Timers} {a b s : Session (timed timers)}

/-- The tunnel of a fresh session is the one that the device made of the session's arguments. -/
theorem Fresh.create_eq (h : Fresh s) :
    (device timers).create s.arguments = some (tunnelOf s) := by
  obtain ⟨id, family, arguments, state, -, hcreate⟩ := h
  obtain ⟨tunnel, htunnel, rfl⟩ := Option.map_eq_some_iff.mp hcreate
  exact htunnel

/-- The buffer of a fresh session holds the longest message of a handshake. -/
theorem Fresh.initiationLength_le (h : Fresh s) : initiationLength ≤ s.capacity := by
  obtain ⟨id, family, arguments, state, hchecked, hcreate⟩ := h
  obtain ⟨tunnel, htunnel, rfl⟩ := Option.map_eq_some_iff.mp hcreate
  exact (Config.capacity_of_check hchecked).1

/-- Two new ends with keys that match. -/
theorem unused_of_crosswise (ha : Fresh a) (hb : Fresh b)
    (hkeys : Crosswise a.arguments b.arguments) :
    ∃ own peer preshared, (tunnelOf a).Unused own peer preshared
      ∧ (tunnelOf b).Unused peer own preshared := by
  obtain ⟨ours, theirs, hprivate, hpublic, hprivate', hpublic'⟩ := hkeys.keys
  have hnear := unused_of_create hprivate hpublic ha.create_eq
  have hfar := unused_of_create hprivate' hpublic' hb.create_eq
  rw [← hkeys.presharedKey] at hfar
  exact ⟨_, _, _, hnear, hfar⟩

end Sessions

/-! ## Handshakes of tunnels -/

namespace Tunnel

variable {capacity : Nat} {t : Tunnel} {own peer preshared : Key} {m : Initiation} {r : Response}

/-- An end that has started a handshake, and has no transport session yet. -/
structure Awaits (t : Tunnel) (m : Initiation) (preshared : Key) : Prop where
  current : t.handshake.current = .sent m
  own : t.handshake.own = m.initiator
  preshared : t.handshake.preshared = preshared
  load : t.load = 0
  slots : ∀ index, t.slot index = none

theorem not_overloaded (hload : t.load = 0) : ¬ decide (loadLimit ≤ t.load) = true := by
  rw [hload]
  decide

/-- A handshake that is asked for is started. -/
theorem initiate_of_unused (h : t.Unused own peer preshared) (hfits : initiationLength ≤ capacity)
    (moment : Nat) (buffer : Buffer Octet capacity) :
    ∃ (t' : Tunnel) (m : Initiation) (events : List Event),
      t.initiate moment true buffer = t'.emit buffer .toNetwork m.octets events
      ∧ m.initiator = own ∧ m.recipient = peer ∧ t'.Awaits m preshared := by
  rw [initiate, if_neg (by simp), if_neg (Nat.not_lt.mpr hfits)]
  exact ⟨_, _, _, rfl, h.own, h.peer, rfl, h.own.symm ▸ rfl, h.preshared, h.load, h.slots⟩

/-- An initiation that comes from the peer is answered, and what the response leads to is what data
messages are then opened by. -/
theorem decapsulate_initiation (h : t.Unused own peer preshared) (hinitiator : m.initiator = peer)
    (hrecipient : m.recipient = own) (hfits : responseLength ≤ capacity) (moment : Nat)
    (buffer : Buffer Octet capacity) :
    ∃ (t' : Tunnel) (r : Response) (events : List Event),
      t.decapsulate moment m.octets buffer = t'.emit buffer .toNetwork r.octets events
      ∧ r.answered = m ∧ r.preshared = preshared
      ∧ t'.Attends m ⟨r, .initiator⟩ r.sender 0 := by
  let admitted : Handshake :=
    { t.handshake with newest := some m.moment, current := .received m,
                       previous := t.handshake.current }
  let answer := (admitted.respond moment m).1
  let session := Transport.ofResponder answer t.ticks
  -- a tunnel that has heard nothing has no newest moment to compare with
  have hadmitted : t.handshake.admit? m = some admitted := by
    rw [Handshake.admit?, h.newest]
    exact if_pos (by simp [hinitiator, h.peer])
  rw [decapsulate_of_initiation, receiveInitiation, Initiation.ofOctets?_octets]
  dsimp only [loaded]
  -- meant for us, not overloaded, admitted, and room for the answer: the checks in their order
  rw [if_neg (not_not.mpr (hrecipient.trans h.own.symm)), if_neg (not_overloaded h.load), hadmitted]
  dsimp only
  rw [if_neg (Nat.not_lt.mpr hfits)]
  refine ⟨_, answer, _, rfl, rfl, h.preshared, rfl, session, ?_, rfl, rfl, rfl,
    fun _ hlt => absurd hlt (Nat.not_lt_zero _)⟩
  exact slot_setSlot_self _ _ session

/-- A session is taken into use if the one in use is not younger. -/
theorem current_use {index : UInt32} {new : Transport} (hnew : t.slot index = some new)
    (hold : ∀ old, t.slot t.current = some old → old.age ≤ new.age) :
    (t.use index).1.current = index := by
  by_cases hcurrent : t.current = index
  · rw [use, if_neg (by simp [hcurrent])]
    exact hcurrent
  · rw [use, if_pos]
    rw [hnew]
    cases hslot : t.slot t.current with
    | none => simp [hcurrent]
    | some old => simp [hcurrent, hold old hslot]

/-- The first session of an end is taken into use. -/
theorem current_use_setSlot (hslots : ∀ index, t.slot index = none) (index : UInt32)
    (s : Transport) : ((t.setSlot index s).use index).1.current = index := by
  have hnew := slot_setSlot_self t index s
  refine current_use hnew fun old hold => ?_
  by_cases hplace : place t.current = place index
  · have hsame : some old = some s := hold.symm.trans ((congrArg (_[·]) hplace).trans hnew)
    exact (Option.some.inj hsame) ▸ Nat.le_refl _
  · have hslot : (t.setSlot index s).slot t.current = t.slot t.current :=
      Vector.getElem_set_ne (place index).isLt (place t.current).isLt
        fun h => hplace (Fin.ext h.symm)
    rw [hslots t.current] at hslot
    cases hold.symm.trans hslot

/-- A response is told by its first octets, so it is handed to the end that awaits one. -/
theorem decapsulate_of_response (t : Tunnel) (moment : Nat) (r : Response)
    (buffer : Buffer Octet capacity) :
    t.decapsulate moment r.octets buffer = t.receiveResponse r.octets buffer := by
  have hnonempty : ¬ r.octets.isEmpty = true := by
    rw [List.isEmpty_iff, ← List.length_eq_zero_iff, r.length_octets]
    decide
  rw [decapsulate, if_neg hnonempty, Packet.ofOctets?_response]

/-- The response to the initiation in hand is answered by an empty message, and packets are sent
from then on. -/
theorem decapsulate_response (h : t.Awaits r.answered r.preshared)
    (hfits : dataOverhead ≤ capacity) (moment : Nat) (buffer : Buffer Octet capacity) :
    ∃ (t' : Tunnel) (events : List Event),
      t.decapsulate moment r.octets buffer
        = t'.emit buffer .toNetwork (message ⟨r, .initiator⟩ r.sender 0 []) events
      ∧ t'.Sends ⟨r, .initiator⟩ r.sender 1 := by
  -- the handshake is completed, and the session that comes of it seals the confirmation
  let completed : Handshake :=
    { t.handshake with current := .nothing, roundTripKnown := true }
  let session := (Transport.ofInitiator r t.ticks).wrap []
  let before : Tunnel := { t with load := t.load + 1, handshake := completed }
  let joined := (before.setSlot r.answered.sender session.2).use r.answered.sender
  have hcomplete : t.handshake.complete? r = some completed := by
    rw [Handshake.complete?, h.current]
    dsimp only
    rw [if_pos (by simp [Handshake.awaits]), if_pos (by simp [h.preshared])]
  have hslots : ∀ index, before.slot index = none := h.slots
  have hcurrent : joined.1.current = r.answered.sender := current_use_setSlot hslots _ session.2
  rw [decapsulate_of_response, receiveResponse, Response.ofOctets?_octets]
  dsimp only [loaded]
  rw [if_neg (not_not.mpr h.own.symm), if_neg (not_overloaded h.load), hcomplete]
  dsimp only
  rw [if_neg (Nat.not_lt.mpr hfits)]
  refine ⟨joined.1, _, rfl, session.2, ?_, rfl, rfl, rfl⟩
  rw [hcurrent, slot_use]
  exact slot_setSlot_self _ _ session.2

/-- An empty message is nothing but a sign of life. -/
theorem decapsulate_empty {key : TransportKey} {receiver : UInt32} {count : Nat}
    (h : t.Attends m key receiver count) (hcount : count < 2 ^ 64) (hfits : tagLength ≤ capacity)
    (moment : Nat) (buffer : Buffer Octet capacity) :
    ∃ (t' : Tunnel) (events : List Event),
      t.decapsulate moment (message key receiver count []) buffer = t'.finish buffer events
      ∧ t'.Attends m key receiver (count + 1) := by
  have hempty : ([] : List Octet).length + tagLength ≤ capacity := by simpa using hfits
  obtain ⟨t', events, hopened, hreceives, hhandshake⟩ := receiveData_next h.receives hempty buffer
  exact ⟨t', events, (decapsulate_message hcount t moment [] buffer).trans hopened,
    hhandshake ▸ h.newest, hreceives⟩

end Tunnel

/-! ## Handshakes of sessions -/

section Requests

variable {timers : Timers} {s : Session (timed timers)} {own peer preshared : Key} {m : Initiation}
  {r : Response} (moment : Nat) (state : (timed timers).State)

/-- A handshake that is asked for is started. -/
theorem handshake_of_unused (h : (tunnelOf s).Unused own peer preshared)
    (hfits : initiationLength ≤ s.capacity) :
    let turn := s.perform moment .handshake state
    ∃ m : Initiation, turn.result = .ok (.toNetwork m.octets) ∧ m.initiator = own
      ∧ m.recipient = peer ∧ (tunnelOf turn.session).Awaits m preshared := by
  intro turn
  obtain ⟨t', m, events, hinitiate, hinitiator, hrecipient, hawaits⟩ :=
    Tunnel.initiate_of_unused h hfits moment (.zeroed (.plain 0) s.capacity)
  have hoperation : operation s moment .handshake = _ := hinitiate
  refine ⟨m, perform_result_emit state hoperation ?_, hinitiator, hrecipient, ?_⟩
  · rw [m.length_octets]
    exact hfits
  · rw [tunnelOf_perform, hoperation]
    exact hawaits

/-- The other end answers the initiation, and opens data messages by the session that this leads
to. -/
theorem read_initiation (h : (tunnelOf s).Unused own peer preshared)
    (hinitiator : m.initiator = peer) (hrecipient : m.recipient = own)
    (hfits : responseLength ≤ s.capacity) :
    let turn := s.perform moment (.read m.octets) state
    ∃ r : Response, turn.result = .ok (.toNetwork r.octets) ∧ r.answered = m
      ∧ r.preshared = preshared
      ∧ (tunnelOf turn.session).Attends m ⟨r, .initiator⟩ r.sender 0 := by
  intro turn
  obtain ⟨t', r, events, hrespond, hanswered, hpreshared, hattends⟩ :=
    Tunnel.decapsulate_initiation h hinitiator hrecipient hfits moment
      (.zeroed (.plain 0) s.capacity)
  have hoperation : operation s moment (.read m.octets) = _ := hrespond
  refine ⟨r, perform_result_emit state hoperation ?_, hanswered, hpreshared, ?_⟩
  · rw [r.length_octets]
    exact hfits
  · rw [tunnelOf_perform, hoperation]
    exact hattends

/-- The end that started the handshake answers the response by an empty message, and sends packets
from then on. -/
theorem read_response (h : (tunnelOf s).Awaits r.answered r.preshared)
    (hfits : dataOverhead ≤ s.capacity) :
    let turn := s.perform moment (.read r.octets) state
    turn.result = .ok (.toNetwork (message ⟨r, .initiator⟩ r.sender 0 []))
      ∧ (tunnelOf turn.session).Sends ⟨r, .initiator⟩ r.sender 1 := by
  intro turn
  obtain ⟨t', events, hconfirm, hsends⟩ :=
    Tunnel.decapsulate_response h hfits moment (.zeroed (.plain 0) s.capacity)
  have hoperation : operation s moment (.read r.octets) = _ := hconfirm
  refine ⟨perform_result_emit state hoperation ?_, ?_⟩
  · rw [message, length_dataOctets, List.length_nil, Nat.zero_add]
    exact hfits
  · rw [tunnelOf_perform, hoperation]
    exact hsends

/-- An empty message leads to nothing more, but its counter is used up. -/
theorem read_empty {key : TransportKey} {receiver : UInt32} {count : Nat}
    (h : (tunnelOf s).Attends m key receiver count) (hcount : count < 2 ^ 64)
    (hfits : tagLength ≤ s.capacity) :
    let turn := s.perform moment (.read (message key receiver count [])) state
    turn.result = .ok .done ∧ (tunnelOf turn.session).Attends m key receiver (count + 1) := by
  intro turn
  obtain ⟨t', events, hopened, hattends⟩ :=
    Tunnel.decapsulate_empty h hcount hfits moment (.zeroed (.plain 0) s.capacity)
  have hoperation : operation s moment (.read (message key receiver count [])) = _ := hopened
  refine ⟨perform_result_finish state hoperation, ?_⟩
  rw [tunnelOf_perform, hoperation]
  exact hattends

end Requests

/-! ## From one end to the other -/

/-- By the three datagrams of a handshake, the first end comes to seal under a key, and the second
to open what was sealed under it. -/
theorem handshake_of_crosswise {timers : Timers} {a b : Session (timed timers)} (ha : Fresh a)
    (hb : Fresh b) (hkeys : Crosswise a.arguments b.arguments) (m₁ m₂ m₃ m₄ : Nat)
    (state : (timed timers).State) :
    let initiating := a.perform m₁ .handshake state
    ∃ r : Response,
      let confirmation := message ⟨r, .initiator⟩ r.sender 0 []
      let answering := b.perform m₂ (.read r.answered.octets) state
      let confirming := initiating.session.perform m₃ (.read r.octets) state
      let settling := answering.session.perform m₄ (.read confirmation) state
      initiating.result = .ok (.toNetwork r.answered.octets)
      ∧ answering.result = .ok (.toNetwork r.octets)
      ∧ confirming.result = .ok (.toNetwork confirmation)
      ∧ settling.result = .ok .done
      ∧ (tunnelOf confirming.session).Sends ⟨r, .initiator⟩ r.sender 1
      ∧ (tunnelOf settling.session).Attends r.answered ⟨r, .initiator⟩ r.sender 1 := by
  -- whatever belongs to a handshake fits the least buffer
  have hlengths : dataOverhead ≤ initiationLength ∧ responseLength ≤ initiationLength
      ∧ tagLength ≤ initiationLength := by decide
  have hlarge := ha.initiationLength_le
  have hlarge' := hb.initiationLength_le
  obtain ⟨own, peer, preshared, hunused, hunused'⟩ := unused_of_crosswise ha hb hkeys
  obtain ⟨m, hinitiating, hinitiator, hrecipient, hawaits⟩ :=
    handshake_of_unused m₁ state hunused hlarge
  obtain ⟨r, hanswering, rfl, rfl, hattends⟩ :=
    read_initiation m₂ state hunused' hinitiator hrecipient (Nat.le_trans hlengths.2.1 hlarge')
  obtain ⟨hconfirming, hsends⟩ :=
    read_response m₃ state hawaits (Nat.le_trans hlengths.1 hlarge)
  obtain ⟨hsettling, hsettled⟩ :=
    read_empty m₄ state hattends (by decide) (Nat.le_trans hlengths.2.2 hlarge')
  exact ⟨r, hinitiating, hanswering, hconfirming, hsettling, hsends, hsettled⟩

/-- **What one end writes arrives at the other, once.** Of two new sessions with keys that match
crosswise, whatever their timers: the first is asked for a handshake, and each datagram is handed to
the other side. There are three, of 148, 92 and 32 octets, and the last leads to nothing more. From
then on, let packets be written that fit the buffers of both once they are sealed, and that are no
shorter than their headers tell. Each becomes a datagram of 32 octets more. Where these are handed
over in order, and any that were handed over before again in between, each packet is handed on once,
cut to the length that its header tells, and each repeat is refused, with nothing to show for it.
That goes on until the counter on the wire, which has eight octets, would start anew. -/
theorem end_to_end {timers : Timers} (a b : Session (timed timers)) (ha : Fresh a) (hb : Fresh b)
    (hkeys : Crosswise a.arguments b.arguments) (m₁ m₂ m₃ m₄ : Nat)
    (state : (timed timers).State) :
    let initiating := a.perform m₁ .handshake state
    ∃ initiation response confirmation : List Octet,
      let answering := b.perform m₂ (.read initiation) state
      let confirming := initiating.session.perform m₃ (.read response) state
      let settling := answering.session.perform m₄ (.read confirmation) state
      (initiating.result = .ok (.toNetwork initiation) ∧ initiation.length = 148)
      ∧ (answering.result = .ok (.toNetwork response) ∧ response.length = 92)
      ∧ (confirming.result = .ok (.toNetwork confirmation) ∧ confirmation.length = 32)
      ∧ settling.result = .ok .done
      ∧ ∀ (writes : List (Nat × List Octet)) (deliveries : List (Envelope Octet)),
        List.Forall₂ (fun w e => HandedOn w.2 e) writes deliveries →
        (∀ w ∈ writes, w.2.length + 32 ≤ a.capacity ∧ w.2.length + 16 ≤ b.capacity) →
        ∃ datagrams : List (List Octet),
          confirming.session.serve state (writes.map fun w => (w.1, .write w.2))
              = datagrams.map (fun d => .ok (.toNetwork d))
          ∧ datagrams.map List.length = writes.map (fun w => w.2.length + 32)
          ∧ (writes.length < 2 ^ 64 →
              ∀ (feeds : List (Nat × List Octet)) (answers : List (Envelope Octet)),
                Feeding [confirmation, initiation] (datagrams.zip deliveries) (feeds.map (·.2))
                    answers →
                  settling.session.serve state (feeds.map fun f => (f.1, .read f.2))
                      = answers.map .ok
                    ∧ answers.filter (· ≠ .failed) = deliveries) := by
  obtain ⟨r, hinitiating, hanswering, hconfirming, hsettling, hsends, hattends⟩ :=
    handshake_of_crosswise ha hb hkeys m₁ m₂ m₃ m₄ state
  refine ⟨r.answered.octets, r.octets, message ⟨r, .initiator⟩ r.sender 0 [],
    ⟨hinitiating, r.answered.length_octets⟩, ⟨hanswering, r.length_octets⟩,
    ⟨hconfirming, length_dataOctets _ _ _⟩, hsettling, ?_⟩
  intro writes deliveries hhanded hfits
  -- the second end has used up the counter of the empty message, and remembers the initiation
  have hspent : ∀ d ∈ [message ⟨r, .initiator⟩ r.sender 0 [], r.answered.octets],
      Spent b.capacity r.answered ⟨r, .initiator⟩ r.sender 1 d := by
    intro d hd
    simp only [List.mem_cons, List.not_mem_nil, or_false] at hd
    rcases hd with rfl | rfl
    · refine .message Nat.zero_lt_one ?_
      rw [List.length_nil, Nat.zero_add]
      exact Nat.le_trans (by decide) hb.initiationLength_le
    · exact .initiation
  obtain ⟨datagrams, hwrites, hlengths, hreads⟩ := stream hsends hattends
    (by simp only [Session.perform_capacity]; exact hspent) hhanded
    (by simp only [Session.perform_capacity]; exact hfits) state
  exact ⟨datagrams, hwrites, hlengths, fun hmany => hreads (by omega)⟩

/-! ### A packet and repeats -/

/-- The configuration of two sample sessions, with buffers of the least capacity. -/
def sampleFamily : Handle SessionFamily := ⟨1, ⟨0, { buffer := { capacity := 148 } }⟩⟩

/-- The session that starts the handshake. -/
def sampleNear : Session (timed .idle) :=
  (Session.create? (E := timed .idle) 1 sampleFamily
    { privateKey := "BRAbJjE8R1JdaHN+iZSfqrXAy9bh7PcCDRgjLjlET1o="
      publicKey := "yb35g17ryfpD/SA9B4ovqyegIUZpzu1DW+DcWbYeHws="
      presharedKey := none, keepAlive := 25, index := 1 } ()).2.get (by decide +kernel)

/-- The session that answers it. -/
def sampleFar : Session (timed .idle) :=
  (Session.create? (E := timed .idle) 2 sampleFamily
    { privateKey := "KjVAS1ZhbHeCjZijrrnEz9rl8PsGERwnMj1IU15pdH8="
      publicKey := "FO4OB/NOOhcDDG7s9m03BegNHhU/egyls0XoPOnWJkM="
      presharedKey := none, keepAlive := 25, index := 2 } ()).2.get (by decide +kernel)

theorem fresh_sampleNear : Fresh sampleNear :=
  ⟨_, _, _, (), by decide, (Option.some_get _).symm⟩

theorem fresh_sampleFar : Fresh sampleFar :=
  ⟨_, _, _, (), by decide, (Option.some_get _).symm⟩

theorem crosswise_samples : Crosswise sampleNear.arguments sampleFar.arguments where
  keys := ⟨(Key.ofText? sampleNear.arguments.privateKey).get (by decide +kernel),
    (Key.ofText? sampleFar.arguments.privateKey).get (by decide +kernel), by decide +kernel,
    by decide +kernel, by decide +kernel, by decide +kernel⟩
  presharedKey := by decide +kernel

/-- A packet of 22 octets, whose header tells of 21. -/
def samplePacket : List Octet :=
  [.plain 69, .plain 0, .plain 0, .plain 21] ++ List.replicate 18 (.plain 7)

theorem isIpv4_samplePacket : IsIpv4 samplePacket 21 where
  least := by decide
  version := ⟨69, rfl, by decide⟩
  total := ⟨0, 21, rfl, rfl, by decide⟩
  fits := by decide

/-- A packet between the two, with all that came before it handed over again. -/
theorem end_to_end_sample :
    let initiating := sampleNear.perform 1 .handshake ()
    Fresh sampleNear ∧ Fresh sampleFar ∧ Crosswise sampleNear.arguments sampleFar.arguments
      ∧ ∃ initiation response confirmation datagram : List Octet,
        let answering := sampleFar.perform 2 (.read initiation) ()
        let confirming := initiating.session.perform 3 (.read response) ()
        let settling := answering.session.perform 4 (.read confirmation) ()
        settling.result = .ok .done
        ∧ confirming.session.serve () [(5, .write samplePacket)] = [.ok (.toNetwork datagram)]
        ∧ datagram.length = 54
        ∧ settling.session.serve () [(6, .read initiation), (7, .read datagram),
            (8, .read datagram), (9, .read confirmation)]
          = [.ok .failed, .ok (.toTunnel4 (samplePacket.take 21)), .ok .failed, .ok .failed] := by
  intro initiating
  obtain ⟨initiation, response, confirmation, -, -, -, hsettling, hstream⟩ :=
    end_to_end sampleNear sampleFar fresh_sampleNear fresh_sampleFar crosswise_samples 1 2 3 4 ()
  obtain ⟨datagrams, hwrites, hlengths, hreads⟩ := hstream [(5, samplePacket)]
    [.toTunnel4 (samplePacket.take 21)] (.cons (.four isIpv4_samplePacket) .nil) (by decide +kernel)
  obtain ⟨datagram, rest, rfl, hlength, hrest⟩ := List.map_eq_cons_iff.mp hlengths
  obtain rfl := List.map_eq_nil_iff.mp hrest
  -- what is fed twice, or was fed before, fails; the one packet is handed on once
  have hfeeding : Feeding [confirmation, initiation]
      [(datagram, .toTunnel4 (samplePacket.take 21))]
      [initiation, datagram, datagram, confirmation]
      [.failed, .toTunnel4 (samplePacket.take 21), .failed, .failed] :=
    .again (by simp) (.next _ _ (.again (by simp) (.again (by simp) (.nil _))))
  have hserved := (hreads (by decide) [(6, initiation), (7, datagram), (8, datagram),
    (9, confirmation)] _ hfeeding).1
  exact ⟨fresh_sampleNear, fresh_sampleFar, crosswise_samples, initiation, response, confirmation,
    datagram, hsettling, hwrites, hlength, hserved⟩

end TunnelHost.Noise
