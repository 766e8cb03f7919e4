import TunnelHost.Session

/-!
# Errors of the host's interface

What can go wrong in any part, told apart by part.

- `HostError`: the error of a part.
- `HostError.isUser`: whether the caller can mend it.
- `HostError.isViolation`: whether the engine broke its contract.
-/

namespace TunnelHost

/-- An error of any part. -/
inductive HostError where
  | session (e : SessionError)
  | engine (e : Violation)
  | registry (e : RegistryError)
  | key (e : KeyError)
  | config (e : ConfigError)
  deriving DecidableEq, Repr

namespace HostError

/-- The error in words, with the part it comes from. -/
def message : HostError → String
  | session e => "Session error: " ++ e.message
  | engine e => "Engine error: " ++ e.message
  | registry e => "Registry error: " ++ e.message
  | key e => "Key error: " ++ e.message
  | config e => "Configuration error: " ++ e.message

/-- Whether the caller can mend the error by giving something else. -/
def isUser : HostError → Bool
  | session e => e.isValidation
  | key _ => true
  | engine _ => false
  | registry _ => false
  | config _ => false

/-- Whether the engine broke its side of the contract. -/
def isViolation : HostError → Bool
  | engine _ => true
  | _ => false

end HostError

end TunnelHost
