import TunnelHost.Noise.Octet

/-!
# Messages

The four kinds of datagrams, told apart by their first word and their length, and the octets of
those that the library sends.

- `Packet`: a datagram by kind, with the numbers that stand in it unprotected.
- `Initiation.octets`, `Response.octets`: a handshake message on the wire.
- `Initiation.ofOctets?`, `Response.ofOctets?`: the message of unchanged octets. The last sixteen
  belong to a check that is not used, and do not matter.
- `Sealing.octets`, `Sealing.open?`: a sealed content on the wire, and the content back.
- `dataOctets`: a data message.
-/

namespace TunnelHost.Noise

/-- Length of an initiation. -/
def initiationLength : Nat := 148

/-- Length of a response. -/
def responseLength : Nat := 92

/-- Length of a cookie message. -/
def cookieLength : Nat := 64

/-- Length of the header of a data message. -/
def headerLength : Nat := 16

/-- Length of the check sum of a data message. -/
def tagLength : Nat := 16

/-- What a data message adds to its content. -/
def dataOverhead : Nat := headerLength + tagLength

/-- Length of the end of a handshake message that does not matter. -/
def unusedLength : Nat := 16

/-- A datagram by kind. -/
inductive Packet where
  | initiation (sender : UInt32)
  | response (sender receiver : UInt32)
  | cookie (receiver : UInt32)
  | data (receiver : UInt32) (counter : Nat) (body : List Octet)
  deriving DecidableEq

/-- The word at a place of a datagram. -/
def word? (octets : List Octet) (place : Nat) : Option UInt32 :=
  (readLittleEndian? ((octets.drop place).take 4)).map UInt32.ofNat

/-- The kind of a datagram, `none` if it is of none. -/
def Packet.ofOctets? (octets : List Octet) : Option Packet :=
  if octets.length < 4 then none
  else
    match readLittleEndian? (octets.take 4) with
    | some 1 =>
      if octets.length = initiationLength then (word? octets 4).map .initiation else none
    | some 2 =>
      if octets.length = responseLength then do
        let sender ← word? octets 4
        let receiver ← word? octets 8
        some (.response sender receiver)
      else none
    | some 3 =>
      if octets.length = cookieLength then (word? octets 4).map .cookie else none
    | some 4 =>
      if dataOverhead ≤ octets.length then do
        let receiver ← word? octets 4
        let counter ← readLittleEndian? ((octets.drop 8).take 8)
        some (.data receiver counter (octets.drop headerLength))
      else none
    | _ => none

/-! ## Handshake messages -/

/-- The octets of an initiation that matter. -/
def Initiation.core (m : Initiation) : List Octet :=
  littleEndian 4 1 ++ littleEndian 4 m.sender.toNat
    ++ (List.range' 8 (initiationLength - unusedLength - 8)).map (.initiation m)

/-- An initiation on the wire. -/
def Initiation.octets (m : Initiation) : List Octet := m.core ++ littleEndian unusedLength 0

/-- The initiation of a datagram, if what matters of it is unchanged. -/
def Initiation.ofOctets? (octets : List Octet) : Option Initiation :=
  match octets[8]? with
  | some (Octet.initiation m _) =>
    if octets.take (initiationLength - unusedLength) = m.core then some m else none
  | _ => none

/-- The octets of a response that matter. -/
def Response.core (m : Response) : List Octet :=
  littleEndian 4 2 ++ littleEndian 4 m.sender.toNat ++ littleEndian 4 m.answered.sender.toNat
    ++ (List.range' 12 (responseLength - unusedLength - 12)).map (.response m)

/-- A response on the wire. -/
def Response.octets (m : Response) : List Octet := m.core ++ littleEndian unusedLength 0

/-- The response of a datagram, if what matters of it is unchanged. -/
def Response.ofOctets? (octets : List Octet) : Option Response :=
  match octets[12]? with
  | some (Octet.response m _) =>
    if octets.take (responseLength - unusedLength) = m.core then some m else none
  | _ => none

/-! ## Sealed contents -/

namespace Sealing

/-- The octets of a content, each at its place. -/
def contentOctets (s : Sealing) (content : List Octet) : List Octet :=
  content.mapIdx (.sealed s)

/-- The check sum. -/
def tagOctets (s : Sealing) : List Octet := (List.range tagLength).map (.tag s)

/-- A content on the wire. -/
def octets (s : Sealing) (content : List Octet) : List Octet :=
  s.contentOctets content ++ s.tagOctets

/-- The content of a sealed message, if it is unchanged and was sealed with this key and counter. -/
def open? (key : TransportKey) (counter : Nat) (body : List Octet) : Option (List Octet) :=
  let length := body.length - tagLength
  match (body.take length).mapM Octet.content? with
  | some content => if body = octets ⟨key, counter, length⟩ content then some content else none
  | none => none

end Sealing

/-- A data message on the wire. -/
def dataOctets (receiver : UInt32) (s : Sealing) (content : List Octet) : List Octet :=
  littleEndian 4 4 ++ littleEndian 4 receiver.toNat ++ littleEndian 8 s.counter
    ++ s.octets content

end TunnelHost.Noise
