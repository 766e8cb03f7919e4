import TunnelHost.Text.Numeral

/-!
# Addresses

Addresses of the two families of the Internet Protocol, and how they are written.

- `Ip`: an address of either family.
- `Ip.octets`, `Ip.groups`: the numbers that an address is written with, and `ofGroups` back.
- `longestZeros`: the run of zero groups that `::` stands for.
- `Ip.chars`: the written form. It is the only one that the library writes, of the many that it
  reads.
-/

namespace TunnelHost

/-- An address of the fourth version. -/
abbrev Ip4 := BitVec 32

/-- An address of the sixth version. -/
abbrev Ip6 := BitVec 128

/-- An address of either version. An address of one is never equal to an address of the other, even
where it stands for it. -/
inductive Ip where
  | v4 (address : Ip4)
  | v6 (address : Ip6)
  deriving DecidableEq, Repr

namespace Ip

/-- The number whose parts of `bits` bits, most significant first, are given. -/
def join (bits : Nat) (parts : List Nat) : Nat := Numeral.ofDigits (Nat.pow 2 bits) parts

/-- The lowest `count` parts of `bits` bits of a number, most significant first. -/
def split (bits : Nat) : (count : Nat) → Nat → List Nat
  | 0, _ => []
  | count + 1, n => split bits count (n / Nat.pow 2 bits) ++ [n % Nat.pow 2 bits]

/-- The four octets of an address. -/
def octets (a : Ip4) : List Nat := split 8 4 a.toNat

/-- The eight groups of an address. -/
def groups (a : Ip6) : List Nat := split 16 8 a.toNat

/-- The address of four octets. -/
def ofOctets (parts : List Nat) : Ip4 := BitVec.ofNat 32 (join 8 parts)

/-- The address of eight groups. -/
def ofGroups (parts : List Nat) : Ip6 := BitVec.ofNat 128 (join 16 parts)

/-- Texts with a mark between them. -/
def joinWith (mark : Char) : List (List Char) → List Char
  | [] => []
  | [s] => s
  | s :: rest => s ++ mark :: joinWith mark rest

/-- The written form of an address of the fourth version: its octets in decimal. -/
def chars4 (a : Ip4) : List Char :=
  joinWith '.' ((octets a).map (Numeral.digits 10))

/-- Groups in hexadecimal. -/
def groupChars (parts : List Nat) : List Char :=
  joinWith ':' (parts.map (Numeral.digits 16))

/-- The number of zeros at the front. -/
def leadingZeros (parts : List Nat) : Nat := (parts.takeWhile (· == 0)).length

/-- Place and length of the longest run of zeros, the first of several equally long. -/
def longestZeros : List Nat → Nat × Nat
  | [] => (0, 0)
  | part :: parts =>
    let here := leadingZeros (part :: parts)
    let (place, length) := longestZeros parts
    if length ≤ here then (0, here) else (place + 1, length)

/-- The address of the fourth version that an address of the sixth stands for, if it does. -/
def mapped? (a : Ip6) : Option Ip4 :=
  if a.toNat / Nat.pow 2 32 = 0xffff then some (BitVec.ofNat 32 a.toNat) else none

/-- The written form of an address of the sixth version. A run of at least two zero groups is left
out, and an address that stands for one of the fourth version ends in it. -/
def chars6 (a : Ip6) : List Char :=
  match mapped? a with
  | some b => [':', ':', 'f', 'f', 'f', 'f', ':'] ++ chars4 b
  | none =>
    let parts := groups a
    let (place, length) := longestZeros parts
    if 2 ≤ length then
      groupChars (parts.take place) ++ [':', ':'] ++ groupChars (parts.drop (place + length))
    else groupChars parts

/-- The written form of an address. -/
def chars : Ip → List Char
  | .v4 a => chars4 a
  | .v6 a => chars6 a

end Ip

end TunnelHost
