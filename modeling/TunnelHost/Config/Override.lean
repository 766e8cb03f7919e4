import TunnelHost.Config.Basic
import TunnelHost.Json.Scalar

/-!
# Overrides

Three members of a configuration can be set from outside, by named texts. They are applied in a
fixed order; the first that cannot be read ends the matter, and those before it stay applied. If
all can be read, the result is checked.

- `Override`: the overrides and their names.
- `capacity?`: a capacity by its numeral.
- `Config.override`: the configuration that is left, and the error if there is one.
-/

namespace TunnelHost

/-- The named texts around the program. -/
abbrev Surroundings := String → Option String

/-- The surroundings of a list of names with their texts. -/
def Surroundings.ofList (texts : List (String × String)) : Surroundings :=
  fun name => texts.lookup name

/-- A member that can be overridden. -/
inductive Override where
  | capacity
  | policy
  | level
  deriving DecidableEq, Repr

namespace Override

/-- All overrides in the order in which they are applied. -/
def all : List Override := [.capacity, .policy, .level]

/-- The name under which an override is looked up. -/
def name : Override → String
  | .capacity => "WG_BRIDGE_BUFFER_CAPACITY"
  | .policy => "WG_BRIDGE_INDEX_POLICY"
  | .level => "WG_BRIDGE_LOG_LEVEL"

end Override

/-- The number of a decimal numeral below a limit; `none` for any other text. A plus sign may stand
in front, zeros too. -/
def numeral? (limit : Nat) (cs : List Char) : Option Nat :=
  let cs := match cs with
    | '+' :: rest => rest
    | _ => cs
  match Numeral.leadingDigits 10 cs with
  | (d :: ds, []) =>
    let n := Numeral.ofDigits 10 (d :: ds)
    if n < limit then some n else none
  | _ => none

/-- The capacity of a text, blanks around it aside. -/
def capacity? (s : String) : Option UInt64 :=
  (numeral? (Nat.pow 2 64) (Text.trimChars s.toList)).map UInt64.ofNat

/-- Applies an override with its text. -/
def Config.apply (c : Config) (s : String) : Override → Except ConfigError Config
  | .capacity =>
    match capacity? s with
    | some n => .ok { c with buffer.capacity := n }
    | none => .error (.override Override.capacity.name ("Invalid number: " ++ s))
  | .policy =>
    match IndexPolicy.ofText? s with
    | some policy => .ok { c with session.policy := policy }
    | none => .error (.override Override.policy.name ("Invalid index policy: " ++ s))
  | .level => .ok { c with log.level := s }

/-- Applies those overrides of a list that have a text, up to the first that cannot be read. -/
def Config.applyAll (texts : Surroundings) :
    List Override → Config → Config × Except ConfigError Unit
  | [], c => (c, .ok ())
  | o :: rest, c =>
    match texts o.name with
    | none => applyAll texts rest c
    | some s =>
      match c.apply s o with
      | .ok c => applyAll texts rest c
      | .error e => (c, .error e)

/-- The configuration with its overrides applied, and the error of the first that cannot be read or
of the first rule that the result breaks. -/
def Config.override (c : Config) (texts : Surroundings) : Config × Except ConfigError Unit :=
  match c.applyAll texts Override.all with
  | (c, .ok ()) => (c, c.validate)
  | (c, .error e) => (c, .error e)

end TunnelHost
