import TunnelHost.Address.Endpoint
import TunnelHost.Config.Reader
import TunnelHost.Json.Value

/-!
# Peer definitions

What is written down about a peer: keys, allowed addresses, and what else its session needs. The
texts in it are kept as they are; whether they are keys and networks is found out when the peer is
created.

- `PeerDefinition`: the record.
- `PeerDefinition.ofJson`: the definition of a text.
- `PeerDefinition.toJson`: the definition as a JSON value.
-/

namespace TunnelHost

/-- A peer as it is written down. -/
structure PeerDefinition where
  /-- The host's own private key. -/
  privateKey : String
  /-- The peer's public key. -/
  publicKey : String
  /-- A key that both sides share, if there is one. -/
  presharedKey : Option String
  /-- The networks that the peer may use. -/
  allowed : String
  /-- Seconds between keep-alive messages; the session default if absent. -/
  keepAlive : Option UInt16
  /-- The peer index. -/
  index : Int64
  /-- Where the peer is, as far as known. -/
  endpoint : Option Endpoint
  deriving DecidableEq

namespace PeerDefinition

/-- Reads an endpoint from a string. -/
def readEndpoint : Json.Reader Endpoint := fun cs => do
  let (s, rest) ← Json.stringFor "socket address" cs
  match Endpoint.ofText? s with
  | some endpoint => .ok (endpoint, rest)
  | none => .error (.before .notAnEndpoint rest)

/-- Reads an integer of 64 bits. -/
def readInt64 : Json.Reader Int64 := fun cs => do
  let (n, rest) ← Json.integer64 cs
  .ok (Int64.ofInt n, rest)

/-- The record of a definition. The two keys and the allowed addresses have to be there. -/
def shape : Json.Shape PeerDefinition where
  title := "PeerConfig"
  fields :=
    [.mandatory "private_key" Json.text fun p privateKey => { p with privateKey },
      .mandatory "public_key" Json.text fun p publicKey => { p with publicKey },
      .optional "preshared_key" (Json.optional Json.text) fun p presharedKey =>
        { p with presharedKey },
      .mandatory "allowed_ips" Json.text fun p allowed => { p with allowed },
      .optional "keep_alive" (Json.optional readWord16) fun p keepAlive => { p with keepAlive },
      .optional "index" readInt64 fun p index => { p with index },
      .optional "endpoint" (Json.optional readEndpoint) fun p endpoint => { p with endpoint }]
  initial := ⟨"", "", none, "", none, 0, none⟩

/-- The definition of a text. -/
def ofJson (s : String) : Except Json.Fault PeerDefinition := Json.read shape.read s

/-- The definition as a JSON value. What is absent is null. -/
def toJson (p : PeerDefinition) : Json.Value :=
  .object
    [("private_key", .string p.privateKey),
      ("public_key", .string p.publicKey),
      ("preshared_key", .ofString? p.presharedKey),
      ("allowed_ips", .string p.allowed),
      ("keep_alive", match p.keepAlive with
        | some n => .integer n.toNat
        | none => .null),
      ("index", .integer p.index.toInt),
      ("endpoint", .ofString? (p.endpoint.map Endpoint.text))]

end PeerDefinition

end TunnelHost
