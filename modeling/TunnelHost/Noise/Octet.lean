import TunnelHost.Key

/-!
# Octets on the wire

What a datagram is made of, without any cryptography. An octet that a cipher or a hash would put out
is kept as a symbol: it says which message it belongs to and at which place. Two symbols are equal
only if everything that goes into them is equal, so comparing them does the work of a check sum, and
nobody can make one without the message.

- `Initiation`, `Response`: the two handshake messages, by what goes into them.
- `TransportKey`: the key of one direction of a transport session.
- `Octet`: a plain byte, a symbol, or a symbol with one bit turned.
- `Octet.flip`: turning the lowest bit.
- `littleEndian`, `readLittleEndian?`: numbers in plain bytes.
-/

namespace TunnelHost.Noise

/-- The first message of a handshake. -/
structure Initiation where
  /-- When it was made. Later ones are newer. -/
  moment : Nat
  /-- The index that its sender expects an answer under. -/
  sender : UInt32
  /-- The public key of its sender. -/
  initiator : Key
  /-- The public key of the one it is for. -/
  recipient : Key
  deriving DecidableEq

/-- The second message of a handshake. -/
structure Response where
  moment : Nat
  /-- The index that its sender expects messages under. -/
  sender : UInt32
  /-- The initiation that it answers. -/
  answered : Initiation
  /-- The key that both sides share in advance, all zeros if there is none. -/
  preshared : Key
  deriving DecidableEq

/-- The two sides of a handshake. -/
inductive Side where
  | initiator
  | responder
  deriving DecidableEq, Repr

/-- The other side. -/
def Side.other : Side → Side
  | .initiator => .responder
  | .responder => .initiator

/-- The key of one direction of a transport session: the handshake that it comes from, which its
response sums up, and the side that seals with it. -/
structure TransportKey where
  handshake : Response
  sealer : Side
  deriving DecidableEq

/-- What a sealed message is: under which key, with which counter, and how long its content. -/
structure Sealing where
  key : TransportKey
  counter : Nat
  length : Nat
  deriving DecidableEq

/-- An octet of a datagram. -/
inductive Octet where
  | plain (byte : UInt8)
  /-- A place in an initiation. -/
  | initiation (message : Initiation) (place : Nat)
  /-- A place in a response. -/
  | response (message : Response) (place : Nat)
  /-- A place in a sealed message, with the octet that is sealed there. -/
  | sealed (sealing : Sealing) (place : Nat) (content : Octet)
  /-- A place in the check sum of a sealed message. -/
  | tag (sealing : Sealing) (place : Nat)
  /-- A symbol whose lowest bit was turned. -/
  | flipped (symbol : Octet)
  deriving DecidableEq

namespace Octet

/-- Turns the lowest bit. Doing it twice restores the octet. -/
def flip : Octet → Octet
  | .plain byte => .plain (byte ^^^ 1)
  | .flipped symbol => symbol
  | symbol => .flipped symbol

/-- The byte of a plain octet. -/
def byte? : Octet → Option UInt8
  | .plain byte => some byte
  | _ => none

/-- The content of an octet of a sealed message. -/
def content? : Octet → Option Octet
  | .sealed _ _ content => some content
  | _ => none

end Octet

/-- The lowest `count` bytes of a number, least significant first. -/
def littleEndian (count n : Nat) : List Octet :=
  (Curve25519.toBytes count n).map .plain

/-- The number of plain bytes, least significant first. -/
def readLittleEndian? : List Octet → Option Nat
  | [] => some 0
  | o :: rest => do
    let byte ← o.byte?
    let n ← readLittleEndian? rest
    some (byte.toNat + 256 * n)

/-- The number of plain bytes, most significant first. -/
def readBigEndian? (octets : List Octet) : Option Nat := readLittleEndian? octets.reverse

end TunnelHost.Noise
