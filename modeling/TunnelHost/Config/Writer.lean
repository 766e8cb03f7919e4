import TunnelHost.Config.Basic
import TunnelHost.Json.Value

/-!
# Writing configurations

The JSON form of a configuration, members in declared order and none left out.

- `Config.toJson`: the value.
- `Config.defaultText`: the text of the default configuration, as it is written to a new file.
-/

namespace TunnelHost

/-- The section on output buffers as a JSON value. -/
def BufferSection.toJson (s : BufferSection) : Json.Value :=
  .object [("capacity", .integer s.capacity.toNat)]

/-- The section on the creation of sessions as a JSON value. -/
def SessionSection.toJson (s : SessionSection) : Json.Value :=
  .object
    [("index_policy", .string s.policy.name), ("default_keep_alive", .integer s.keepAlive.toNat)]

/-- The section on logging as a JSON value. -/
def LogSection.toJson (s : LogSection) : Json.Value :=
  .object
    [("level", .string s.level), ("format", .string s.format), ("target", .boolean s.target)]

/-- A configuration as a JSON value. -/
def Config.toJson (c : Config) : Json.Value :=
  .object
    [("buffer", c.buffer.toJson), ("session", c.session.toJson), ("log", c.log.toJson)]

/-- The text of the default configuration, a member to a line. -/
def Config.defaultText : String := (Config.toJson {}).pretty

end TunnelHost
