import TunnelHost.Address.Network
import TunnelHost.Config.Basic
import TunnelHost.Text.Pieces

/-!
# Allowed addresses

The addresses that a peer may use, as a list of networks separated by commas. Blanks around an
entry and entries of blanks only do not matter. The first entry that is no network ends the matter.

- `AllowedList.ofText`: the networks of a text.
- `AllowedList.admits`: whether an address is in one of them.
-/

namespace TunnelHost

namespace AllowedList

/-- The entries of a list: its pieces without blanks around them, those that are empty left out. -/
def entries (s : List Char) : List (List Char) :=
  ((Text.pieces ',' s).map Text.trimChars).filter fun piece => !piece.isEmpty

/-- The network of an entry. -/
def ofEntry (entry : List Char) : Except Breach Network :=
  match Network.ofChars? entry with
  | some n => .ok n
  | none => .error (.badNetwork (String.ofList entry))

/-- The networks of a list. -/
def ofChars (s : List Char) : Except Breach (List Network) := (entries s).mapM ofEntry

/-- The networks of a list. -/
def ofText (s : String) : Except Breach (List Network) := ofChars s.toList

/-- Whether an address is in one of the networks. -/
def admits (networks : List Network) (ip : Ip) : Bool := networks.any (·.contains ip)

end AllowedList

end TunnelHost
