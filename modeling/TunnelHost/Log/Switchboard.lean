import TunnelHost.Log.Handler

/-!
# Delivering lines

All registries of a host that still have an owner, and which of them a handler was last registered
in. A line goes to the handler of that registry, if it has one; in every other case to nobody. The
engine that a handler is registered for is given a sink, whichever registry is used.

- `Switchboard`: the registries, the anchor, the engines with a sink, and the calls recorded so far.
- `Switchboard.register`, `Switchboard.clear`: registering a handler and removing it.
- `Switchboard.receiver?`: who a line would go to.
- `Switchboard.forward`: delivering a line, and whatever the handlers do about it.
-/

namespace TunnelHost

/-- The key under which a registry holds its log handler. -/
def handlerKey : String := "WireguardLogFunction"

/-- The live registries of a host by number, the registry of the latest registration, the engines
that log to handlers, and the calls of handlers so far, each with label and line. -/
structure Switchboard where
  registries : List (Nat × Registry Content) := []
  nextRegistry : Nat := 1
  nextSerial : Nat := 1
  anchor : Option Nat := none
  /-- The engines that a log sink was given to. -/
  wired : List Nat := []
  record : List (String × String) := []

namespace Switchboard

/-- The registry with a number, if it has an owner. -/
def registry? (b : Switchboard) (id : Nat) : Option (Registry Content) := b.registries.lookup id

/-- Adds an empty registry. -/
def addRegistry (b : Switchboard) : Nat × Switchboard :=
  (b.nextRegistry,
    { b with
      registries := b.registries ++ [(b.nextRegistry, .empty)]
      nextRegistry := b.nextRegistry + 1 })

/-- Drops a registry with all that it holds. -/
def dropRegistry (b : Switchboard) (id : Nat) : Switchboard :=
  { b with registries := b.registries.filter fun e => e.1 != id }

/-- Changes a registry. -/
def modify (b : Switchboard) (id : Nat) (f : Registry Content → Registry Content) : Switchboard :=
  { b with registries := b.registries.map fun e => if e.1 = id then (e.1, f e.2) else e }

/-- Stores something with an identity of its own. -/
def store (b : Switchboard) (id : Nat) (key : String) (c : Content) (context : ContextId) :
    Switchboard :=
  let handle : Handle Content := ⟨b.nextSerial, c⟩
  { b with nextSerial := b.nextSerial + 1 }.modify id (·.insert key ⟨handle, context⟩)

/-- Stores something that has an identity already. -/
def share (b : Switchboard) (id : Nat) (key : String) (r : Reference Content) : Switchboard :=
  b.modify id (·.insert key r)

/-- Removes what a registry holds under a key; tells whether there was anything. -/
def remove (b : Switchboard) (id : Nat) (key : String) : Switchboard × Bool :=
  match b.registry? id with
  | none => (b, false)
  | some r => (b.modify id (·.erase key), r.contains key)

/-- Gives a sink to an engine, if there is one to be given a sink. An engine keeps its sink. -/
def wire (b : Switchboard) : Option Nat → Switchboard
  | none => b
  | some engine => if b.wired.contains engine then b else { b with wired := engine :: b.wired }

/-- Makes a handler the only one that lines go to, and gives a sink to the engine that it is
registered for. No engine is told where that has its sink already. -/
def register (b : Switchboard) (id : Nat) (context : ContextId) (engine : Option Nat) (h : Handler) :
    Switchboard :=
  { (b.wire engine).store id handlerKey (.handler h) context with anchor := some id }

/-- Removes the handler of a registry; tells whether there was one. -/
def clear (b : Switchboard) (id : Nat) : Switchboard × Bool := b.remove id handlerKey

/-- The handler that a line would go to, with the registry that holds it and its context. -/
def receiver? (b : Switchboard) : Option (Nat × ContextId × Handler) := do
  let id ← b.anchor
  let r ← b.registry? id
  let x ← r.find? handlerKey
  let h ← x.handle.value.handler?
  some (id, x.context, h)

/-- Notes a call of a handler. -/
def note (b : Switchboard) (label line : String) : Switchboard :=
  { b with record := b.record ++ [(label, line)] }

/-- Notes that the handler of a registry has had its first call. -/
def spend (b : Switchboard) (id : Nat) : Switchboard :=
  b.modify id fun r =>
    match r.find? handlerKey with
    | some ⟨⟨serial, .handler h⟩, context⟩ =>
      r.insert handlerKey ⟨⟨serial, .handler h.spent⟩, context⟩
    | _ => r

/-- Does what is pending, first things first. Each is due to a registry in a context. A line may add
to what is pending; it comes before everything else, because its handler's call has to end before
the call that logged it. -/
def settle : (fuel : Nat) → List (Nat × ContextId × Reaction) → Switchboard → Switchboard
  | 0, _, b => b
  | _ + 1, [], b => b
  | fuel + 1, (id, context, .install h none) :: rest, b =>
    settle fuel rest (b.register id context none h)
  | fuel + 1, (_, _, .install h (some t)) :: rest, b =>
    settle fuel rest (b.register t.registry t.context (some t.engine) h)
  | fuel + 1, (id, _, .clear) :: rest, b => settle fuel rest (b.clear id).1
  | fuel + 1, (_, _, .forward line) :: rest, b =>
    match b.receiver? with
    | none => settle fuel rest b
    | some (id, context, h) =>
      settle fuel (h.reactions.map (id, context, ·) ++ rest) ((b.note h.label line).spend id)

/-- How much the handler that a registry holds can cause to happen. -/
def registryWeight (r : Registry Content) : Nat :=
  r.entries.foldr (fun x n => x.2.handle.value.weight + n) 0

/-- How much the stored handlers can cause to happen. -/
def weight (b : Switchboard) : Nat := b.registries.foldr (fun e n => registryWeight e.2 + n) 0

/-- Delivers a line. Every reaction happens once, so the weight of the stored handlers bounds the
number of things that happen. -/
def forward (b : Switchboard) (line : String) : Switchboard :=
  settle (b.weight + 2) [(0, ⟨0⟩, .forward line)] b

/-- Delivers lines one after the other. -/
def forwardAll (b : Switchboard) (lines : List String) : Switchboard := lines.foldl forward b

end Switchboard

end TunnelHost
