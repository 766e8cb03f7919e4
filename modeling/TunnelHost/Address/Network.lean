import TunnelHost.Address.Reader

/-!
# Networks

An address with the number of leading bits that count. The other bits are kept as they were
written, and do not matter.

- `Network`: an address and its prefix length.
- `Network.host`: the network of one address.
- `Network.contains`: whether an address is in a network, which is a range of addresses.
- `Network.text`, `Network.ofChars?`: the written form and the way back.
-/

namespace TunnelHost

/-- A network of either family. The prefix is at most as long as an address. -/
inductive Network where
  | v4 (address : Ip4) (length : Fin 33)
  | v6 (address : Ip6) (length : Fin 129)
  deriving DecidableEq, Repr

namespace Network

/-- The network that holds one address only. -/
def host : Ip → Network
  | .v4 a => .v4 a 32
  | .v6 a => .v6 a 128

/-- The first address that agrees with another one on `n` bits: all further bits are zero. -/
def first {w : Nat} (a : BitVec w) (n : Nat) : BitVec w := a &&& BitVec.allOnes w <<< (w - n)

/-- The last address that agrees with another one on `n` bits: all further bits are one. -/
def last {w : Nat} (a : BitVec w) (n : Nat) : BitVec w := a ||| BitVec.allOnes w >>> n

/-- Whether an address lies between the first and the last one that agree with `a` on `n` bits. -/
def spans {w : Nat} (a : BitVec w) (n : Nat) (b : BitVec w) : Bool :=
  decide (first a n ≤ b) && decide (b ≤ last a n)

/-- Whether an address is of the network's family and between its first and its last address. -/
def contains : Network → Ip → Bool
  | .v4 a n, .v4 b => spans a n.val b
  | .v6 a n, .v6 b => spans a n.val b
  | .v4 _ _, .v6 _ => false
  | .v6 _ _, .v4 _ => false

/-- The address as it was written. -/
def address : Network → Ip
  | .v4 a _ => .v4 a
  | .v6 a _ => .v6 a

/-- The number of bits that count. -/
def length : Network → Nat
  | .v4 _ n => n.val
  | .v6 _ n => n.val

/-- The written form: the address, a slash and the prefix length. -/
def chars (n : Network) : List Char := n.address.chars ++ '/' :: Numeral.digits 10 n.length

/-- The written form. -/
def text (n : Network) : String := String.ofList n.chars

/-- Reads a prefix length of at most `most`, after its slash. -/
def length? (digits most : Nat) (cs : List Char) : Option (Fin (most + 1)) := do
  let n ← Address.whole? (Address.number? 10 digits (most + 1) (← Address.mark? '/' cs))
  if h : n < most + 1 then some ⟨n, h⟩ else none

/-- Reads a network that is written with its prefix length. -/
def explicit? (cs : List Char) : Option Network :=
  match Address.ip4? Address.loose cs with
  | some (a, rest) => (length? 2 32 rest).map (.v4 a)
  | none => do
    let (a, rest) ← Address.ip6? Address.loose cs
    let n ← length? 3 128 rest
    some (.v6 a n)

/-- Reads a network: with its prefix length, or as the address of a single host. -/
def ofChars? (cs : List Char) : Option Network :=
  match explicit? cs with
  | some n => some n
  | none => (Address.ofChars? cs).map host

end Network

end TunnelHost
