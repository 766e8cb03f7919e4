import TunnelHost.Base64
import TunnelHost.Curve25519
import TunnelHost.Text.Blank

/-!
# Keys

A key is 32 bytes. It travels as a key text: its base64 form, 44 characters with one `=` at the end.

- `Key`: the bytes, with their number.
- `Key.toText`, `Key.ofText?`: the key text and the way back. `ofText?` forgives nothing.
- `Key.isText`: whether a text is a key text.
- `Key.publicKey`: the public key of a private key.
- `Key.publicTextOfBytes`, `Key.publicTextOfText`: the same for raw input, with the fault if it is
  no key. A text may have blanks around it.
-/

namespace TunnelHost

/-- Number of bytes of a key. -/
def keyLength : Nat := 32

/-- 32 bytes that serve as a private, public or pre-shared key. -/
structure Key where
  bytes : List UInt8
  length_bytes : bytes.length = keyLength
  deriving DecidableEq

/-- Why a key cannot be had from what was given. -/
inductive KeyError where
  /-- Not 32 bytes. -/
  | wrongLength (length : Nat)
  /-- Not base64; the text says why. -/
  | malformed (reason : String)
  deriving DecidableEq, Repr

/-- The error in words. -/
def KeyError.message : KeyError → String
  | .wrongLength length => "Key must be exactly 32 bytes, got " ++ Numeral.decimal length
  | .malformed reason => "Invalid base64 key: " ++ reason

namespace Key

/-- The key made of a byte list of the right length. -/
def ofBytes? (bytes : List UInt8) : Option Key :=
  if h : bytes.length = keyLength then some ⟨bytes, h⟩ else none

/-- The key text of a key. -/
def toText (k : Key) : String := Base64.encode k.bytes

/-- The key of a key text. Nothing around it is forgiven. -/
def ofText? (s : String) : Option Key :=
  match Base64.decodeText s with
  | .ok bytes => ofBytes? bytes
  | .error _ => none

/-- Whether a text is the base64 form of 32 bytes. -/
def isText (s : String) : Bool := (ofText? s).isSome

/-- Whether bytes form a key: they are written down and the text is checked, so the two checks
cannot disagree. -/
def areBytes (bytes : List UInt8) : Bool := isText (Base64.encode bytes)

/-- The public key of a private key. -/
def publicKey (k : Key) : Key :=
  ⟨Curve25519.publicPoint k.bytes, Curve25519.length_publicPoint k.bytes⟩

/-- The key of all zeros, which stands in for an absent pre-shared key. -/
def zero : Key := ⟨List.replicate keyLength 0, by simp⟩

/-- The public key text of a private key given by its bytes. -/
def publicTextOfBytes (bytes : List UInt8) : Except KeyError String :=
  match ofBytes? bytes with
  | some k => .ok k.publicKey.toText
  | none => .error (.wrongLength bytes.length)

/-- The public key text of a private key text, blanks around it aside. -/
def publicTextOfText (s : String) : Except KeyError String :=
  match Base64.decodeText (Text.trim s) with
  | .ok bytes => publicTextOfBytes bytes
  | .error fault => .error (.malformed fault.message)

end Key

end TunnelHost
