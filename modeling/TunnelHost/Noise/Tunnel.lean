import TunnelHost.Noise.Device
import TunnelHost.Noise.Handshake
import TunnelHost.Noise.Window

/-!
# Tunnels

One end of a tunnel: its handshakes, the transport sessions they led to, and the packets that wait
for one. Everything put out is written to the front of a buffer.

A tunnel crashes rather than fail in two cases: a sealed packet that does not fit the buffer, and a
data message for a session whose body is longer than the buffer. Callers have to keep away from
both.

- `Transport`: a transport session, with `Transport.wrap` and `Transport.unwrap?`.
- `Tunnel`: the state of one end.
- `Step`: what an operation leads to.
- `Tunnel.encapsulate`, `Tunnel.decapsulate`, `Tunnel.initiate`: sending, receiving, and the start
  of a handshake.
- `Duty`, `Due`, `Tunnel.tick`: what may come due, and a look at the time.
-/

namespace TunnelHost.Noise

/-! ## Transport sessions -/

/-- A transport session. -/
structure Transport where
  /-- The index under which this end receives. -/
  localIndex : UInt32
  /-- The index under which the peer receives. -/
  peerIndex : UInt32
  /-- The handshake that led to the session. -/
  handshake : Response
  /-- The side of the handshake that this end was. -/
  side : Side
  /-- How often time had been looked at when the session was made. -/
  age : Nat
  /-- The counter of the next message to be sent. -/
  counter : Nat := 0
  /-- The counters of the messages received. -/
  window : Window := {}
  deriving DecidableEq

namespace Transport

/-- The session of the end that answered. -/
def ofResponder (m : Response) (age : Nat) : Transport :=
  { localIndex := m.sender, peerIndex := m.answered.sender, handshake := m, side := .responder, age }

/-- The session of the end that was answered. -/
def ofInitiator (m : Response) (age : Nat) : Transport :=
  { localIndex := m.answered.sender, peerIndex := m.sender, handshake := m, side := .initiator, age }

/-- The key of the messages that this end sends. -/
def sendingKey (t : Transport) : TransportKey := ⟨t.handshake, t.side⟩

/-- The key of the messages that this end receives. -/
def receivingKey (t : Transport) : TransportKey := ⟨t.handshake, t.side.other⟩

/-- The data message of a packet. -/
def wrap (t : Transport) (packet : List Octet) : List Octet × Transport :=
  (dataOctets t.peerIndex ⟨t.sendingKey, t.counter, packet.length⟩ packet,
    { t with counter := t.counter + 1 })

/-- The packet of a data message: its index has to be the session's, its counter new, and its body
unchanged. -/
def unwrap? (t : Transport) (receiver : UInt32) (counter : Nat) (body : List Octet) :
    Option (List Octet × Transport) :=
  if receiver ≠ t.localIndex || !t.window.accepts counter then none
  else
    match Sealing.open? t.receivingKey counter body with
    | some packet => some (packet, { t with window := t.window.mark counter })
    | none => none

end Transport

/-! ## Tunnels -/

/-- The number of places for transport sessions. -/
def slotCount : Nat := 8

/-- The largest number of waiting packets. -/
def queueLimit : Nat := 256

/-- The number of handshake messages that are looked into. -/
def loadLimit : Nat := 10

/-- One end of a tunnel. -/
structure Tunnel where
  handshake : Handshake
  /-- The transport sessions. A session's place is its index modulo their number. -/
  slots : Vector (Option Transport) slotCount := Vector.replicate slotCount none
  /-- The index of the session in use; its place may be empty. -/
  current : UInt32 := 0
  /-- Packets that wait for a session, the first to be sent first. -/
  queue : List (List Octet) := []
  /-- Octets of the packets sent. -/
  sent : Nat := 0
  /-- Octets of the packets received. -/
  received : Nat := 0
  /-- The number of handshake messages looked into. -/
  load : Nat := 0
  /-- How often time was looked at. -/
  ticks : Nat := 0

/-- What is to be done once the time was looked at. -/
inductive Duty where
  | nothing
  /-- An empty message by the session in use, as a sign of life. -/
  | keepAlive
  /-- A new handshake. -/
  | handshake
  /-- The end of all sessions. What waits for one is dropped with them. -/
  | expiry
  deriving DecidableEq, Repr

/-- What a look at the time may find due. -/
structure Due where
  /-- Whether the handshake messages that are looked into are counted anew. -/
  relief : Bool := false
  /-- The places whose sessions have come to their end. -/
  ended : List (Fin slotCount) := []
  duty : Duty := .nothing
  deriving DecidableEq, Repr

/-- What an operation leads to. -/
abbrev Step (capacity : Nat) : Type := Performed Tunnel Octet capacity

/-- An event of a tunnel. -/
def event (message : String) (numbers : List (String × Nat)) : Event :=
  { level := .debug, origin := "boringtun::noise", message, numbers }

namespace Tunnel

variable {capacity : Nat}

/-- The end of a tunnel with a private key, the peer's public key, perhaps a key shared in advance,
and a peer index, of which the highest byte is lost. -/
def new (privateKey peer : Key) (preshared : Option Key) (index : UInt32) : Tunnel where
  handshake :=
    { own := privateKey.publicKey
      peer
      preshared := preshared.getD .zero
      lastIndex := UInt32.ofNat (index.toNat * 256) }

/-- The place of an index. -/
def place (index : UInt32) : Fin slotCount := ⟨index.toNat % slotCount, Nat.mod_lt _ (by decide)⟩

/-- The session at the place of an index. -/
def slot (t : Tunnel) (index : UInt32) : Option Transport := t.slots[place index]

/-- Puts a session at the place of an index. -/
def setSlot (t : Tunnel) (index : UInt32) (s : Transport) : Tunnel :=
  { t with slots := t.slots.set (place index) (some s) }

/-! ### Results -/

/-- An operation that fails. -/
def fail (t : Tunnel) (buffer : Buffer Octet capacity) (events : List Event) : Step capacity :=
  ⟨t, buffer, some .failed, events⟩

/-- An operation that puts nothing out. -/
def finish (t : Tunnel) (buffer : Buffer Octet capacity) (events : List Event) : Step capacity :=
  ⟨t, buffer, some .done, events⟩

/-- An operation that puts octets out. -/
def emit (t : Tunnel) (buffer : Buffer Octet capacity) (status : Status) (octets : List Octet)
    (events : List Event) : Step capacity :=
  ⟨t, buffer.overwrite octets, some (.front status octets.length), events⟩

/-- An operation that crashes. -/
def crash (t : Tunnel) (buffer : Buffer Octet capacity) (events : List Event) : Step capacity :=
  ⟨t, buffer, none, events⟩

/-! ### Sending -/

/-- Adds a packet to those that wait; there is a limit to their number. -/
def enqueue (t : Tunnel) (packet : List Octet) : Tunnel :=
  if t.queue.length < queueLimit then { t with queue := t.queue ++ [packet] } else t

/-- Puts a packet back in front of those that wait. -/
def requeue (t : Tunnel) (packet : List Octet) : Tunnel :=
  if t.queue.length < queueLimit then { t with queue := packet :: t.queue } else t

/-- Starts a handshake. Unless forced, it does so only if none is in hand. -/
def initiate (t : Tunnel) (moment : Nat) (forced : Bool) (buffer : Buffer Octet capacity) :
    Step capacity :=
  if t.handshake.inProgress && !forced then t.finish buffer []
  else if capacity < initiationLength then t.fail buffer []
  else
    let (message, handshake) := t.handshake.initiate moment
    { t with handshake }.emit buffer .toNetwork message.octets
      [event "Sending handshake_initiation" []]

/-- Sends a packet by the session in use. Without one, the packet has to wait, and a handshake is
started. -/
def encapsulate (t : Tunnel) (moment : Nat) (packet : List Octet) (buffer : Buffer Octet capacity) :
    Step capacity :=
  match t.slot t.current with
  | none => (t.enqueue packet).initiate moment false buffer
  | some s =>
    if capacity < packet.length + dataOverhead then t.crash buffer []
    else
      let (octets, s) := s.wrap packet
      { t.setSlot t.current s with sent := t.sent + packet.length }.emit buffer .toNetwork octets []

/-- Sends a packet that waits. If that fails, it goes on waiting. -/
def flush (t : Tunnel) (moment : Nat) (buffer : Buffer Octet capacity) : Step capacity :=
  match t.queue with
  | [] => t.finish buffer []
  | packet :: queue =>
    let step := { t with queue }.encapsulate moment packet buffer
    if step.placement = some .failed then
      (step.tunnel.requeue packet).finish step.buffer step.events
    else step

/-! ### Receiving -/

/-- Takes a session into use. One at an occupied place gives way only to one that is not older. -/
def use (t : Tunnel) (index : UInt32) : Tunnel × List Event :=
  let yields := match t.slot t.current, t.slot index with
    | some old, some new => old.age ≤ new.age
    | some _, none => false
    | none, _ => true
  if t.current ≠ index && yields then
    ({ t with current := index },
      [event "New session" [("session", index.toNat)]])
  else (t, [])

/-- Notes a handshake message that is for this end, and tells whether there were too many before
it. -/
def loaded (t : Tunnel) : Tunnel × Bool := ({ t with load := t.load + 1 }, loadLimit ≤ t.load)

/-- Receives an initiation and answers it. If the answer does not fit the buffer, the handshake
stays in hand. -/
def receiveInitiation (t : Tunnel) (moment : Nat) (octets : List Octet)
    (buffer : Buffer Octet capacity) : Step capacity :=
  match Initiation.ofOctets? octets with
  | none => t.fail buffer []
  | some m =>
    if m.recipient ≠ t.handshake.own then t.fail buffer []
    else
      let (t, overloaded) := t.loaded
      if overloaded then t.fail buffer []
      else
        let received := event "Received handshake_initiation" [("remote_idx", m.sender.toNat)]
        match t.handshake.admit? m with
        | none => t.fail buffer [received]
        | some handshake =>
          if capacity < responseLength then { t with handshake }.fail buffer [received]
          else
            let (answer, handshake) := handshake.respond moment m
            let s := Transport.ofResponder answer t.ticks
            ({ t with handshake }.setSlot s.localIndex s).emit buffer .toNetwork answer.octets
              [received, event "Sending handshake_response" [("local_idx", s.localIndex.toNat)]]

/-- Receives a response, takes the session into use and sends an empty message by it, from which the
peer learns that the session stands. -/
def receiveResponse (t : Tunnel) (octets : List Octet) (buffer : Buffer Octet capacity) :
    Step capacity :=
  match Response.ofOctets? octets with
  | none => t.fail buffer []
  | some m =>
    if m.answered.initiator ≠ t.handshake.own then t.fail buffer []
    else
      let (t, overloaded) := t.loaded
      if overloaded then t.fail buffer []
      else
        let received := event "Received handshake_response"
          [("local_idx", m.answered.sender.toNat), ("remote_idx", m.sender.toNat)]
        match t.handshake.complete? m with
        | none => t.fail buffer [received]
        | some handshake =>
          let t := { t with handshake }
          if capacity < dataOverhead then t.crash buffer [received]
          else
            let (message, s) := (Transport.ofInitiator m t.ticks).wrap []
            let (t, events) := (t.setSlot s.localIndex s).use s.localIndex
            t.emit buffer .toNetwork message ([received] ++ events ++ [event "Sending keepalive" []])

/-- The family of a packet and its length, by its own header. -/
def headerOf? (packet : List Octet) : Option (Status × Nat) := do
  let first ← (← packet.head?).byte?
  if first.toNat / 16 = 4 && 20 ≤ packet.length then
    let length ← readBigEndian? ((packet.drop 2).take 2)
    some (.toTunnel4, length)
  else if first.toNat / 16 = 6 && 40 ≤ packet.length then
    let length ← readBigEndian? ((packet.drop 4).take 2)
    some (.toTunnel6, length + 40)
  else none

/-- Hands a received packet on, cut to the length in its header. An empty one is only a sign of
life. -/
def deliver (t : Tunnel) (packet : List Octet) (buffer : Buffer Octet capacity)
    (events : List Event) : Step capacity :=
  if packet.isEmpty then t.finish buffer events
  else
    match headerOf? packet with
    | none => t.fail buffer events
    | some (status, length) =>
      if packet.length < length then t.fail buffer events
      else
        { t with received := t.received + length }.emit buffer status (packet.take length) events

/-- Receives a data message. -/
def receiveData (t : Tunnel) (receiver : UInt32) (counter : Nat) (body : List Octet)
    (buffer : Buffer Octet capacity) : Step capacity :=
  match t.slot receiver with
  | none => t.fail buffer []
  | some s =>
    if capacity < body.length then t.crash buffer []
    else
      match s.unwrap? receiver counter body with
      | none => t.fail buffer []
      | some (packet, s) =>
        let (t, events) := (t.setSlot receiver s).use receiver
        t.deliver packet buffer events

/-- Receives a datagram. An empty one stands for the wish to send what waits.

Every cookie reply fails. A genuine one, which the peer has sealed for the last message of a
handshake, would be taken in and its cookie kept for the next one. That is left out: a tunnel of this
kind answers no message with a cookie, because it is not told the address that the cookie would be
made for, and so never gets one from its like. -/
def decapsulate (t : Tunnel) (moment : Nat) (octets : List Octet) (buffer : Buffer Octet capacity) :
    Step capacity :=
  if octets.isEmpty then t.flush moment buffer
  else
    match Packet.ofOctets? octets with
    | none => t.fail buffer []
    | some (.initiation _) => t.receiveInitiation moment octets buffer
    | some (.response _ _) => t.receiveResponse octets buffer
    | some (.cookie receiver) =>
      t.fail buffer [event "Received cookie_reply" [("local_idx", receiver.toNat)]]
    | some (.data receiver counter body) => t.receiveData receiver counter body buffer

/-! ### Time and numbers -/

/-- The tunnel without the sessions at some places. -/
def clearSlots (t : Tunnel) (places : List (Fin slotCount)) : Tunnel :=
  { t with slots := places.foldl (fun slots (i : Fin slotCount) => slots.set i none) t.slots }

/-- Looks at the time, and does what is due. Sessions made later count as newer. -/
def tick (t : Tunnel) (moment : Nat) (due : Due) (buffer : Buffer Octet capacity) : Step capacity :=
  let t := { t.clearSlots due.ended with
    ticks := t.ticks + 1
    load := if due.relief then 0 else t.load }
  match due.duty with
  | .nothing => t.finish buffer []
  | .keepAlive => t.encapsulate moment [] buffer
  | .handshake => t.initiate moment true buffer
  | .expiry =>
    { t with
      handshake := { t.handshake with current := .nothing, previous := .nothing }
      slots := Vector.replicate slotCount none
      queue := [] }.fail buffer []

/-- The estimated share of lost messages: the mean over the sessions, from the one in use backwards,
each with a third of the weight of the one before. -/
def loss (t : Tunnel) : Float32 :=
  let order := (List.range slotCount).map fun i => UInt32.ofNat (t.current.toNat + slotCount - i)
  let (weighted, total, _) := order.foldl
    (fun (acc : Float32 × Float32 × Float32) index =>
      match t.slot index with
      | none => acc
      | some s =>
        let (weighted, total, weight) := acc
        (weighted + s.window.loss * weight, total + weight, weight / 3))
    ((0, 0, 9) : Float32 × Float32 × Float32)
  if total == 0 then 0 else weighted / total

end Tunnel

end TunnelHost.Noise
