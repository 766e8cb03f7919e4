import TunnelHost.Session

/-!
# Log handlers and what registries of a host hold

A handler is told every line that engines log. On its first call it may do things of its own:
register another handler in its place or anywhere else, take itself out, or log lines, which are
delivered in turn.

- `LogTarget`: where a handler is registered, and for which engine.
- `Handler`, `Reaction`: a handler, and what it does on its first call.
- `Handler.weight`: how much a handler can still cause to happen.
- `Content`: what the registries of a host hold.
-/

namespace TunnelHost

/-- Where a handler is registered, and for which engine: a registry and an engine that whoever
registers it has in hand, by their numbers. -/
structure LogTarget where
  registry : Nat
  context : ContextId
  engine : Nat
  deriving DecidableEq, Repr

mutual

/-- A handler: the label that it records its calls under, and what it does on its first call. -/
inductive Handler where
  | mk (label : String) (reactions : List Reaction)

/-- Something that a handler does from inside its call. -/
inductive Reaction where
  /-- Registers another handler. If no target is told, that is where this one stands, in its context
  and for the engine that it was registered for itself. -/
  | install (handler : Handler) (target : Option LogTarget := none)
  /-- Removes the handler of the registry that holds this one. -/
  | clear
  /-- Logs a line. -/
  | forward (line : String)

end

namespace Handler

/-- The label under which calls are recorded. -/
def label : Handler → String
  | mk label _ => label

/-- What is done on the first call. -/
def reactions : Handler → List Reaction
  | mk _ reactions => reactions

/-- The handler after its first call. -/
def spent (h : Handler) : Handler := mk h.label []

/-- A handler that only records its calls. -/
def plain (label : String) : Handler := mk label []

end Handler

mutual

/-- How much a handler can cause to happen, itself included. -/
def Handler.weight : Handler → Nat
  | .mk _ reactions => 1 + reactionsWeight reactions

/-- How much a reaction can cause to happen, itself included. -/
def Reaction.weight : Reaction → Nat
  | .install handler _ => 1 + handler.weight
  | .clear => 1
  | .forward _ => 1

/-- How much a list of reactions can cause to happen. -/
def reactionsWeight : List Reaction → Nat
  | [] => 0
  | r :: rest => r.weight + reactionsWeight rest

end

/-- What the registries of a host hold. -/
inductive Content where
  | family (f : SessionFamily)
  | handler (h : Handler)
  | word (n : UInt32)

namespace Content

/-- The session family, if it is one. -/
def family? : Content → Option SessionFamily
  | family f => some f
  | _ => none

/-- The handler, if it is one. -/
def handler? : Content → Option Handler
  | handler h => some h
  | _ => none

/-- How much the content can cause to happen. -/
def weight (c : Content) : Nat :=
  match c.handler? with
  | some h => h.weight
  | none => 0

end Content

end TunnelHost
