import TunnelHost.Noise.Message

/-!
# Handshakes

A handshake takes two messages and gives both sides the keys of a transport session. One side may
have several in hand: the current one, and the one before it, which can still be answered.

- `Handshake`: keys, indices and what is in hand.
- `Handshake.initiate`: the first message.
- `Handshake.admit?`, `Handshake.respond`: receiving the first message and answering it.
- `Handshake.complete?`: receiving the answer.
-/

namespace TunnelHost.Noise

/-- A handshake in hand. -/
inductive InHand where
  | nothing
  /-- An initiation was sent and not yet answered. -/
  | sent (message : Initiation)
  /-- An initiation was received and not yet answered. -/
  | received (message : Initiation)
  deriving DecidableEq

/-- The handshakes of a tunnel. -/
structure Handshake where
  /-- The tunnel's own public key. -/
  own : Key
  /-- The public key of the peer. -/
  peer : Key
  /-- The key shared in advance, all zeros if there is none. -/
  preshared : Key
  /-- The index used last. -/
  lastIndex : UInt32
  /-- The handshake in hand. -/
  current : InHand := .nothing
  /-- The handshake that was in hand before. -/
  previous : InHand := .nothing
  /-- When the newest initiation that was received was made. -/
  newest : Option Nat := none
  /-- Whether a round trip has been timed. -/
  roundTripKnown : Bool := false

namespace Handshake

/-- The index after an index: the lowest byte counts, and starts anew after 255. -/
def nextIndex (index : UInt32) : UInt32 :=
  UInt32.ofNat (index.toNat / 256 * 256 + (index.toNat + 1) % 256)

/-- Whether a handshake is in hand. -/
def inProgress (h : Handshake) : Bool := h.current != .nothing

/-- Makes an initiation. -/
def initiate (h : Handshake) (moment : Nat) : Initiation × Handshake :=
  let index := nextIndex h.lastIndex
  let message : Initiation := ⟨moment, index, h.own, h.peer⟩
  (message, { h with lastIndex := index, current := .sent message, previous := h.current })

/-- Takes in an initiation, which must come from the peer and be newer than all before. -/
def admit? (h : Handshake) (m : Initiation) : Option Handshake :=
  let isNewer := match h.newest with
    | none => true
    | some moment => moment < m.moment
  if m.initiator = h.peer && isNewer then
    some { h with newest := some m.moment, current := .received m, previous := h.current }
  else none

/-- Answers an initiation. -/
def respond (h : Handshake) (moment : Nat) (m : Initiation) : Response × Handshake :=
  let index := nextIndex h.lastIndex
  (⟨moment, index, m, h.preshared⟩, { h with lastIndex := index, current := .nothing })

/-- Whether a response is to the initiation in hand, going by its index alone. -/
def awaits (m : Response) : InHand → Bool
  | .sent i => i.sender == m.answered.sender
  | _ => false

/-- Takes in a response. Its index decides whether it is to the current initiation or else to the
one before it; it must have been made for that one, and with the same key shared in advance. -/
def complete? (h : Handshake) (m : Response) : Option Handshake :=
  let answers (inHand : InHand) := inHand = .sent m.answered && m.preshared = h.preshared
  if awaits m h.current then
    if answers h.current then some { h with current := .nothing, roundTripKnown := true }
    else none
  else if awaits m h.previous && answers h.previous then
    some { h with previous := .nothing, roundTripKnown := true }
  else none

end Handshake

end TunnelHost.Noise
