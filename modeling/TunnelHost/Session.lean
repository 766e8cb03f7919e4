import TunnelHost.Config.Basic
import TunnelHost.Engine
import TunnelHost.Key
import TunnelHost.Registry.Basic

/-!
# Tunnel sessions

A session owns one tunnel of an engine, and one output buffer. Everything it is created from is
checked before the engine is asked; the buffer is emptied before every request, and what the engine
reports is classified.

- `SessionFamily`: engine and configuration that sessions have in common.
- `SessionError`: why a session cannot be created.
- `SessionInput.check`: the checks, in order.
- `Session`: a session; `Session.create?` and `Session.perform`.
- `CallError`, `Turn`: what a request leads to.
-/

namespace TunnelHost

/-- What sessions have in common: the number of their engine, and the configuration. -/
structure SessionFamily where
  engine : Nat
  config : Config
  deriving DecidableEq

/-- Why a session cannot be created. -/
inductive SessionError where
  | invalidPrivateKey
  | invalidPublicKey
  | invalidPresharedKey
  | invalidKeepAlive (value : Int)
  | invalidIndex (value : Int) (reason : String)
  /-- The engine refused. -/
  | creationFailed
  deriving DecidableEq, Repr

namespace SessionError

/-- The error in words. -/
def message : SessionError → String
  | invalidPrivateKey => "Invalid private key input"
  | invalidPublicKey => "Invalid public key input"
  | invalidPresharedKey => "Invalid pre-shared key input"
  | invalidKeepAlive value =>
    "Invalid keep-alive " ++ Numeral.decimalInt value ++ ": must be between 1 and 65535 seconds"
  | invalidIndex value reason => "Invalid index " ++ Numeral.decimalInt value ++ ": " ++ reason
  | creationFailed => "Cannot create tunnel"

/-- Whether the error is due to what was given, rather than to the engine. -/
def isValidation : SessionError → Bool
  | creationFailed => false
  | _ => true

end SessionError

/-- What a session is created from, as the host gives it. An empty pre-shared key means none. -/
structure SessionInput where
  privateKey : String
  publicKey : String
  presharedKey : String
  keepAlive : Int
  index : Int
  deriving DecidableEq, Repr

namespace SessionInput

/-- Checks a key text. -/
def checkKey (s : String) (fault : SessionError) : Except SessionError Unit :=
  if Key.isText s then .ok () else .error fault

/-- Checks the pre-shared key. -/
def checkPreshared (s : String) : Except SessionError (Option String) :=
  if s.isEmpty then .ok none
  else if Key.isText s then .ok (some s)
  else .error .invalidPresharedKey

/-- Checks the keep-alive interval. -/
def checkKeepAlive (value : Int) : Except SessionError UInt16 :=
  if 1 ≤ value && value ≤ 65535 then .ok (UInt16.ofNat value.toNat)
  else .error (.invalidKeepAlive value)

/-- Checks the index. -/
def checkIndex (policy : IndexPolicy) (value : Int) : Except SessionError UInt32 :=
  (policy.check value).mapError fun fault => .invalidIndex value fault.message

/-- Checks everything, and tells of the first fault: keys first, then the interval, then the
index. -/
def check (i : SessionInput) (policy : IndexPolicy) : Except SessionError TunnelArguments := do
  checkKey i.privateKey .invalidPrivateKey
  checkKey i.publicKey .invalidPublicKey
  let presharedKey ← checkPreshared i.presharedKey
  let keepAlive ← checkKeepAlive i.keepAlive
  let index ← checkIndex policy i.index
  return { privateKey := i.privateKey, publicKey := i.publicKey, presharedKey, keepAlive, index }

end SessionInput

/-- A session over an engine. -/
structure Session {β : Type} (E : Engine β) where
  id : Nat
  arguments : TunnelArguments
  /-- The family it was created from, by identity. -/
  family : Handle SessionFamily
  /-- Its tunnel. -/
  tunnel : E.Handle
  /-- The buffer that the engine is handed, with what the last request left in it. -/
  output : Buffer β family.value.config.buffer.capacity.toNat

/-- Why a request has no envelope. -/
inductive CallError where
  /-- The engine reported something outside the contract. -/
  | violation (v : Violation)
  /-- The engine crashed. -/
  | crash
  deriving DecidableEq, Repr

/-- What a request leads to: the session and the engine's state after it, the envelope, and the
events on the way. -/
structure Turn {β : Type} (E : Engine β) where
  session : Session E
  state : E.State
  result : Except CallError (Envelope β)
  events : List Event

namespace Session

variable {β : Type} {E : Engine β}

/-- Creates a session with a given id, if the engine does not refuse. -/
def create? (id : Nat) (family : Handle SessionFamily) (arguments : TunnelArguments)
    (state : E.State) : E.State × Option (Session E) :=
  let (state, tunnel) := E.create arguments state
  (state, tunnel.map fun tunnel =>
    { id, arguments, family, tunnel, output := .zeroed E.zero _ })

/-- The capacity of the buffer that the engine is handed. -/
def capacity (s : Session E) : Nat := s.family.value.config.buffer.capacity.toNat

/-- What is made of an engine's report. -/
def judge (report : Option Report) (output : List β) : Except CallError (Envelope β) :=
  match report with
  | none => .error .crash
  | some report => (classify report output).mapError .violation

/-- Has the engine serve a request. The buffer is emptied first, and kept as the engine left it. -/
def perform (s : Session E) (moment : Nat) (request : Request β) (state : E.State) : Turn E :=
  let reply := E.run moment request s.tunnel (s.output.blank E.zero) state
  { session := { s with tunnel := reply.handle, output := reply.buffer }
    state := reply.state
    result := judge reply.report reply.buffer.contents
    events := reply.events }

/-- What the tunnel has counted. -/
def stats (s : Session E) : TunnelStats := E.stats s.tunnel

/-- The session in words. The keys that are secret are left out. -/
def describe (s : Session E) : String :=
  let preshared := match s.arguments.presharedKey with
    | none => "None"
    | some _ => "Some(\"<redacted>\")"
  "TunnelSession \x7b id: " ++ Numeral.decimal s.id
    ++ ", peer_public_key: " ++ Text.quoted s.arguments.publicKey
    ++ ", preshared_key: " ++ preshared
    ++ ", keep_alive: " ++ Numeral.decimal s.arguments.keepAlive.toNat
    ++ ", index: " ++ Numeral.decimal s.arguments.index.toNat
    ++ ", output_capacity: " ++ Numeral.decimal s.capacity ++ ", .. \x7d"

end Session

/-- The family in words. -/
def SessionFamily.describe {β : Type} (E : Engine β) (f : SessionFamily) : String :=
  "SessionClass \x7b engine: " ++ Text.quoted E.name ++ ", config: " ++ f.config.describe ++ " \x7d"

end TunnelHost
