import TunnelHost.Address.Reader

/-!
# Endpoints

An address with a port, where datagrams are sent to and come from.

- `Endpoint`: an address of either family, its port, and the scope of a local one.
- `Endpoint.text`, `Endpoint.ofText?`: the written form and the way back.
-/

namespace TunnelHost

/-- An address and a port. Of the sixth version, a scope too, where zero means none. -/
inductive Endpoint where
  | v4 (address : Ip4) (port : UInt16)
  | v6 (address : Ip6) (scope : UInt32) (port : UInt16)
  deriving DecidableEq, Repr

namespace Endpoint

/-- A port after its colon. -/
def portChars (port : UInt16) : List Char := ':' :: Numeral.digits 10 port.toNat

/-- The written form; an address of the sixth version is bracketed. -/
def chars : Endpoint → List Char
  | .v4 a port => Ip.chars4 a ++ portChars port
  | .v6 a scope port =>
    let scopeChars := if scope = 0 then [] else '%' :: Numeral.digits 10 scope.toNat
    '[' :: Ip.chars6 a ++ scopeChars ++ ']' :: portChars port

/-- The written form. -/
def text (e : Endpoint) : String := String.ofList e.chars

/-- Reads a port, which ends the text. Zeros in front do not matter. -/
def port? (cs : List Char) : Option UInt16 := do
  let n ← Address.whole? (Address.anyNumber? 10 (Nat.pow 2 16) (← Address.mark? ':' cs))
  some (UInt16.ofNat n)

/-- Reads a scope, if there is one. -/
def scope (cs : List Char) : UInt32 × List Char :=
  match Address.mark? '%' cs with
  | none => (0, cs)
  | some rest =>
    match Address.anyNumber? 10 (Nat.pow 2 32) rest with
    | some (n, rest) => (UInt32.ofNat n, rest)
    | none => (0, cs)

/-- Reads an endpoint of the fourth version. -/
def ofChars4? (cs : List Char) : Option Endpoint := do
  let (a, rest) ← Address.ip4? Address.strict cs
  let port ← port? rest
  some (.v4 a port)

/-- Reads an endpoint of the sixth version. -/
def ofChars6? (cs : List Char) : Option Endpoint := do
  let (a, rest) ← Address.ip6? Address.strict (← Address.mark? '[' cs)
  let (s, rest) := scope rest
  let port ← port? (← Address.mark? ']' rest)
  some (.v6 a s port)

/-- Reads an endpoint. -/
def ofChars? (cs : List Char) : Option Endpoint := (ofChars4? cs).or (ofChars6? cs)

/-- The endpoint of a text. -/
def ofText? (s : String) : Option Endpoint := ofChars? s.toList

end Endpoint

end TunnelHost
