import TunnelHost.Text.Blank
import TunnelHost.Text.LowerCase
import TunnelHost.Text.Numeral

/-!
# Index policies

A peer index is a signed number of 32 bits, which the engine sees as a word. A host may ask for
positive ones only.

- `IndexPolicy`: the two policies and their names.
- `IndexPolicy.ofText?`: the policy of a text, case and blanks around it aside.
- `IndexPolicy.check`: the word of an admitted index, or why it is not admitted.
-/

namespace TunnelHost

/-- Which peer indices are admitted. -/
inductive IndexPolicy where
  /-- All that fit in 32 bits with sign. -/
  | any
  /-- Those of them that are at least one. -/
  | positiveOnly
  deriving DecidableEq, Repr

/-- Why an index is not admitted. -/
inductive IndexFault where
  | tooWide
  | notPositive
  deriving DecidableEq, Repr

/-- The fault in words. -/
def IndexFault.message : IndexFault → String
  | .tooWide => "must fit in a signed 32-bit integer"
  | .notPositive => "must be at least 1"

namespace IndexPolicy

/-- The name of a policy in a configuration. -/
def name : IndexPolicy → String
  | .any => "any_i32"
  | .positiveOnly => "positive_only"

/-- The policy of a name, in the exact spelling of a configuration. -/
def ofName? (s : String) : Option IndexPolicy :=
  if s = any.name then some .any
  else if s = positiveOnly.name then some .positiveOnly
  else none

/-- The spelling that a text is compared in. -/
def fold (s : String) : String := Text.lower (Text.trim s)

/-- The policy of a text. Blanks around it and the case of its letters do not matter, and each
policy has a short name too. -/
def ofText? (s : String) : Option IndexPolicy :=
  let folded := fold s
  if folded = any.name || folded = "any" then some .any
  else if folded = positiveOnly.name || folded = "positive" then some .positiveOnly
  else none

/-- Whether a number fits in 32 bits with sign. -/
def fits (index : Int) : Bool := -2147483648 ≤ index && index ≤ 2147483647

/-- The word of an index: the index itself, or `2^32` more if it is negative. -/
def word (index : Int) : UInt32 := UInt32.ofNat (index % 4294967296).toNat

/-- The word of an index that the policy admits. -/
def check (policy : IndexPolicy) (index : Int) : Except IndexFault UInt32 :=
  if !fits index then .error .tooWide
  else if policy = .positiveOnly && index < 1 then .error .notPositive
  else .ok (word index)

end IndexPolicy

end TunnelHost
