/-!
# Replay windows

A receiver accepts every counter at most once, in any order as long as it is not too far behind the
highest one.

- `Window`: the counters accepted so far.
- `Window.accepts`: whether a counter would be accepted.
- `Window.mark`: the window after a counter was accepted.
-/

namespace TunnelHost.Noise

/-- How far behind the highest counter another may be. -/
def windowWidth : Nat := 1024

/-- The counters accepted so far; `next` is above all of them. -/
structure Window where
  next : Nat := 0
  seen : List Nat := []
  deriving DecidableEq

namespace Window

/-- Whether a counter would be accepted: one above all others always is, another if it is neither
too old nor known. -/
def accepts (w : Window) (counter : Nat) : Bool :=
  w.next ≤ counter || (w.next ≤ counter + windowWidth && !w.seen.contains counter)

/-- The window after a counter was accepted. -/
def mark (w : Window) (counter : Nat) : Window :=
  ⟨max w.next (counter + 1), counter :: w.seen⟩

/-- The share of counters that were left out, as an estimate. -/
def loss (w : Window) : Float32 :=
  if w.next = 0 then 0 else 1 - w.seen.length.toFloat32 / w.next.toFloat32

end Window

end TunnelHost.Noise
