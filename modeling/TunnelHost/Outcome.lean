import TunnelHost.Buffer
import TunnelHost.Json.Value

/-!
# Outcomes of engine calls

An engine reports a tag and a size. Both are checked before anything is believed: the tag has to be
one of five, and the size may not exceed the buffer. What passes is an envelope, which carries
octets exactly when its status does.

- `Status`: the five outcomes, with tag and name.
- `Report`: what an engine reports.
- `Violation`: a report outside the contract.
- `Envelope`: a report that was believed, with its own copy of the octets.
- `classify`: from a report and the buffer to the envelope.
- `Envelope.toJson`: the envelope as it is told to the host.
-/

namespace TunnelHost

/-- The outcomes that an engine call may have. -/
inductive Status where
  /-- Nothing to do. -/
  | done
  /-- Octets for the network. -/
  | toNetwork
  /-- The engine refused its input. -/
  | failed
  /-- A packet for the local IPv4 stack. -/
  | toTunnel4
  /-- A packet for the local IPv6 stack. -/
  | toTunnel6
  deriving DecidableEq, Repr

namespace Status

/-- All outcomes, by rising tag. -/
def all : List Status := [.done, .toNetwork, .failed, .toTunnel4, .toTunnel6]

/-- The tag that an engine reports for an outcome. -/
def tag : Status → UInt32
  | .done => 0
  | .toNetwork => 1
  | .failed => 2
  | .toTunnel4 => 4
  | .toTunnel6 => 6

/-- The outcome of a tag. -/
def ofTag? (t : UInt32) : Option Status := all.find? (·.tag == t)

/-- The name under which hosts know the outcome. -/
def name : Status → String
  | .done => "WIREGUARD_DONE"
  | .toNetwork => "WRITE_TO_NETWORK"
  | .failed => "WIREGUARD_ERROR"
  | .toTunnel4 => "WRITE_TO_TUNNEL_IPV4"
  | .toTunnel6 => "WRITE_TO_TUNNEL_IPV6"

/-- Whether an envelope of this outcome carries octets. -/
def carriesData : Status → Bool
  | .done => false
  | .toNetwork => true
  | .failed => false
  | .toTunnel4 => true
  | .toTunnel6 => true

end Status

/-- What an engine reports of one call: a tag and the number of octets written. -/
structure Report where
  tag : UInt32
  size : Nat
  deriving DecidableEq, Repr

/-- The report of an outcome with some octets. -/
def Report.of (status : Status) (size : Nat) : Report := ⟨status.tag, size⟩

/-- A report outside the contract between host and engine. -/
inductive Violation where
  /-- The tag is none of the five. -/
  | unknownTag (tag : UInt32)
  /-- More octets are reported than the buffer holds. -/
  | overflow (size capacity : Nat)
  deriving DecidableEq, Repr

/-- The violation in words. -/
def Violation.message : Violation → String
  | .unknownTag tag => "Engine returned unknown outcome tag " ++ Numeral.decimal tag.toNat
  | .overflow size capacity =>
    "Engine reported " ++ Numeral.decimal size ++ " bytes for a " ++ Numeral.decimal capacity
      ++ "-byte output buffer"

/-- A classified outcome. Octets are there exactly for the outcomes that carry some; no octets and
an empty list of them are different things. -/
inductive Envelope (β : Type) where
  | done
  | toNetwork (data : List β)
  | failed
  | toTunnel4 (data : List β)
  | toTunnel6 (data : List β)
  deriving DecidableEq, Repr

namespace Envelope

variable {β : Type}

/-- The envelope of an outcome, which takes the octets if it carries any. -/
def enclose (data : List β) : Status → Envelope β
  | .done => .done
  | .toNetwork => .toNetwork data
  | .failed => .failed
  | .toTunnel4 => .toTunnel4 data
  | .toTunnel6 => .toTunnel6 data

/-- The outcome. -/
def status : Envelope β → Status
  | .done => .done
  | .toNetwork _ => .toNetwork
  | .failed => .failed
  | .toTunnel4 _ => .toTunnel4
  | .toTunnel6 _ => .toTunnel6

/-- The octets, if the outcome carries any. -/
def data? : Envelope β → Option (List β)
  | .toNetwork data => some data
  | .toTunnel4 data => some data
  | .toTunnel6 data => some data
  | .done => none
  | .failed => none

/-- The number of octets, zero if there are none. -/
def length (e : Envelope β) : Nat := (e.data?.getD []).length

/-- Whether there are no octets. -/
def isEmpty (e : Envelope β) : Bool := e.length == 0

/-- The envelope as a JSON value. A member `data` is there exactly if there are octets to tell. -/
def toJson (octet : β → UInt8) (e : Envelope β) : Json.Value :=
  let data := e.data?.map fun data =>
    ("data", Json.Value.list (data.map fun b => .integer (octet b).toNat))
  .object (("type", .string e.status.name) :: data.toList)

end Envelope

/-- Checks a report against the contract and copies the reported octets out of the buffer. The tag
is looked at first. -/
def classify {β : Type} (report : Report) (output : List β) : Except Violation (Envelope β) :=
  match Status.ofTag? report.tag with
  | none => .error (.unknownTag report.tag)
  | some status =>
    if output.length < report.size then .error (.overflow report.size output.length)
    else .ok (.enclose (output.take report.size) status)

end TunnelHost
