import TunnelHost.Noise.Tunnel

/-!
# The protocol engine

The engine that runs the tunnel protocol. It has no state besides its tunnels.

- `Noise.Timers`: what is due when a tunnel looks at the time.
- `Noise.device`: the operations of tunnels, with some timers.
- `Noise.timed`, `Noise.engine`: the engine, with any timers and with idle ones.
-/

namespace TunnelHost.Noise

/-- What is due, by the moment and the tunnel that looks at the time. -/
abbrev Timers := Nat → Tunnel → Due

/-- Timers by which nothing is ever due. Signs of life, new keys and the end of a session take
seconds at the least, so these are the timers of a host that does not last as long. -/
def Timers.idle : Timers := fun _ _ => {}

/-- What a tunnel counts. -/
def stats (t : Tunnel) : TunnelStats where
  handshakeKnown := (t.slot t.current).isSome
  sent := t.sent
  received := t.received
  loss := t.loss
  roundTripKnown := t.handshake.roundTripKnown

/-- The operations of tunnels with some timers, which settle when signs of life come due too. -/
def device (timers : Timers) : Device Octet where
  zero := .plain 0
  byte? := Octet.byte?
  Tunnel := Tunnel
  make := fun privateKey peer preshared _ index => some (.new privateKey peer preshared index)
  encapsulate := fun moment packet t buffer => t.encapsulate moment packet buffer
  decapsulate := fun moment datagram t buffer => t.decapsulate moment datagram buffer
  tick := fun moment t buffer => t.tick moment (timers moment t) buffer
  initiate := fun moment t buffer => t.initiate moment true buffer
  stats := stats

/-- The protocol engine with some timers. -/
def timed (timers : Timers) : Engine Octet := (device timers).engine

/-- The protocol engine. -/
def engine : Engine Octet := timed .idle

end TunnelHost.Noise
