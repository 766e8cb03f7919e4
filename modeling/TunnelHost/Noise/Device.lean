import TunnelHost.Engine
import TunnelHost.Key
import TunnelHost.Noise.Message

/-!
# Devices

The tunnel protocol itself is run by a device. The engine around it decodes the keys that a tunnel
is created from, keeps packets from the device that would make it crash, and moves what the device
puts out to the front of the buffer.

- `Placement`: where an operation left its output, with `Placement.settle` for moving it.
- `Performed`: what an operation leads to, with `Performed.reply` to it.
- `Device`: what a device can do.
- `Device.create`, `Device.perform`: a tunnel for some arguments, and a request as an operation.
- `Device.engine`: the engine around a device.
-/

namespace TunnelHost.Noise

/-- Where an operation left its output in the buffer. -/
structure Placement where
  status : Status
  offset : Nat
  length : Nat
  deriving DecidableEq, Repr

namespace Placement

/-- Nothing to do. -/
def done : Placement := ⟨.done, 0, 0⟩

/-- A refusal. -/
def failed : Placement := ⟨.failed, 0, 0⟩

/-- Output at the front. -/
def front (status : Status) (length : Nat) : Placement := ⟨status, 0, length⟩

/-- Moves the output to the front of the buffer, where a report says it is, and makes the report. -/
def settle {β : Type} {capacity : Nat} (p : Placement) (buffer : Buffer β capacity) :
    Buffer β capacity × Report :=
  let moved :=
    if p.offset ≠ 0 && p.length ≠ 0 then
      buffer.overwrite ((buffer.contents.drop p.offset).take p.length)
    else buffer
  (moved, .of p.status p.length)

end Placement

/-- What an operation leads to: the tunnel and the buffer after it, where the output is (nowhere, if
the device crashed), and the events on the way. -/
structure Performed (τ β : Type) (capacity : Nat) where
  tunnel : τ
  buffer : Buffer β capacity
  placement : Option Placement
  events : List Event

/-- The buffer with the output at its front, and the report; none, if the device crashed. -/
def Performed.settle {τ β : Type} {capacity : Nat} (p : Performed τ β capacity) :
    Buffer β capacity × Option Report :=
  match p.placement with
  | none => (p.buffer, none)
  | some placement => ((placement.settle p.buffer).1, some (placement.settle p.buffer).2)

/-- The engine's reply. It has no state besides its tunnels. -/
def Performed.reply {τ β : Type} {capacity : Nat} (p : Performed τ β capacity) :
    Reply Unit τ β capacity :=
  ⟨(), p.tunnel, p.settle.1, p.settle.2, p.events⟩

/-- What runs the tunnel protocol, over octets of type `β`. Operations carry the moment at which
they are asked for. -/
structure Device (β : Type) where
  /-- The octet of an empty buffer. -/
  zero : β
  /-- The byte that an octet is, if it can be told. -/
  byte? : β → Option UInt8
  Tunnel : Type
  /-- Makes one end of a tunnel, unless the device refuses. -/
  make : (privateKey peer : Key) → (preshared : Option Key) → (keepAlive : UInt16) →
    (index : UInt32) → Option Tunnel
  /-- Sends a packet. -/
  encapsulate : {capacity : Nat} → (moment : Nat) → (packet : List β) → Tunnel →
    Buffer β capacity → Performed Tunnel β capacity
  /-- Receives a datagram. -/
  decapsulate : {capacity : Nat} → (moment : Nat) → (datagram : List β) → Tunnel →
    Buffer β capacity → Performed Tunnel β capacity
  /-- Sees to whatever is due. -/
  tick : {capacity : Nat} → (moment : Nat) → Tunnel → Buffer β capacity →
    Performed Tunnel β capacity
  /-- Starts a handshake. -/
  initiate : {capacity : Nat} → (moment : Nat) → Tunnel → Buffer β capacity →
    Performed Tunnel β capacity
  /-- Reports what a tunnel has counted. -/
  stats : Tunnel → TunnelStats

namespace Device

variable {β : Type} (D : Device β)

/-- Creates a tunnel. Each key text has to be one, a present pre-shared one too. -/
def create (args : TunnelArguments) : Option D.Tunnel := do
  let privateKey ← Key.ofText? args.privateKey
  let peer ← Key.ofText? args.publicKey
  match args.presharedKey with
  | none => D.make privateKey peer none args.keepAlive args.index
  | some s => do
    let preshared ← Key.ofText? s
    D.make privateKey peer (some preshared) args.keepAlive args.index

/-- Performs a request. A packet that would not fit the buffer once it is sealed is refused before
the device sees it: the device would crash, now or, if the packet has to wait, later. -/
def perform {capacity : Nat} (moment : Nat) (t : D.Tunnel) (buffer : Buffer β capacity) :
    Request β → Performed D.Tunnel β capacity
  | .write packet =>
    if capacity < packet.length + dataOverhead then ⟨t, buffer, some .failed, []⟩
    else D.encapsulate moment packet t buffer
  | .read datagram => D.decapsulate moment datagram t buffer
  | .tick => D.tick moment t buffer
  | .handshake => D.initiate moment t buffer

/-- The protocol engine around a device. -/
def engine : Engine β where
  name := "boringtun"
  typeName := "wg_bridge::engine::boringtun_engine::BoringtunEngine"
  zero := D.zero
  byte? := D.byte?
  State := Unit
  Handle := D.Tunnel
  initial := ()
  create := fun args s => (s, D.create args)
  run := fun moment request t buffer _ => (D.perform moment t buffer request).reply
  stats := D.stats
  release := fun _ s => s
  line := Event.line true
  sharedSink := true

end Device

end TunnelHost.Noise
