import TunnelHost.Log.Event

/-!
# Filters

A filter settles which events are told. It is a list of rules, each with the start of an origin,
perhaps a field that an event has to have, and the least severe level that is still told. Of the
rules that bear on an event the most specific one decides.

- `Filter.Rule`, `Filter`: the rules.
- `Filter.Rule.below`: which of two rules is less specific.
- `Filter.admits`: whether an event is told.
- `Filter.add`: a rule in place of the one for the same events.
-/

namespace TunnelHost

/-- Which events are told: for the starts of origins, the least severe level that is. No level means
that none is. -/
structure Filter.Rule where
  /-- The start of the origins that the rule bears on. -/
  origin : String
  /-- The name of a field without which the rule does not bear on an event. -/
  field : Option String := none
  least : Option Level
  deriving DecidableEq, Repr

/-- Rules, no two with the same origin and field. -/
structure Filter where
  rules : List Filter.Rule := []
  deriving DecidableEq, Repr

namespace Filter

/-- Whether a rule bears on an event. -/
def Rule.bears (r : Rule) (e : Event) : Bool :=
  r.origin.toList.isPrefixOf e.origin.toList && r.field.all e.fields.contains

/-- Whether a rule lets an event be told. -/
def Rule.admits (r : Rule) (e : Event) : Bool :=
  match r.least with
  | some least => e.level.rank ≤ least.rank
  | none => false

/-- The order of fields in rules: no field is the least of them. -/
def fieldBelow : Option String → Option String → Bool
  | none, some _ => true
  | some a, some b => decide (a < b)
  | _, none => false

/-- Whether a rule is less specific than another: it names less of an origin, or as much but no
field or an earlier one. -/
def Rule.below (a b : Rule) : Bool :=
  a.origin.length < b.origin.length
    || (a.origin.length == b.origin.length && fieldBelow a.field b.field)

/-- The more specific one of two rules. -/
def moreSpecific (a b : Rule) : Rule := if a.below b then b else a

/-- The rule that decides about an event. -/
def ruleFor? (f : Filter) (e : Event) : Option Rule :=
  match f.rules.filter (·.bears e) with
  | [] => none
  | r :: rest => some (rest.foldl moreSpecific r)

/-- Whether an event is told. -/
def admits (f : Filter) (e : Event) : Bool :=
  match f.ruleFor? e with
  | some r => r.admits e
  | none => false

/-- Whether two rules are for the same events. -/
def Rule.covers (a b : Rule) : Bool := a.origin == b.origin && a.field == b.field

/-- Puts a rule in place of the one for the same events. -/
def add (r : Rule) (f : Filter) : Filter :=
  ⟨r :: f.rules.filter fun old => !old.covers r⟩

end Filter

end TunnelHost
