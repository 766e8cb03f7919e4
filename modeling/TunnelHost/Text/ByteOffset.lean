/-!
# Byte offsets

Positions in a text may be counted in bytes of UTF-8. A position inside a character is none.

- `byteCount`: the number of bytes that characters take.
- `takeBytes?`, `dropBytes?`: the characters before and from an offset.
- `bytesFrom?`: so many bytes from an offset.
-/

namespace TunnelHost.Text

/-- Number of bytes that characters take in UTF-8. -/
def byteCount (cs : List Char) : Nat := cs.foldr (fun c n => c.utf8Size + n) 0

/-- The characters that take the first `n` bytes, if a character ends there. -/
def takeBytes? : (n : Nat) → List Char → Option (List Char)
  | 0, _ => some []
  | _, [] => none
  | n, c :: cs =>
    if c.utf8Size ≤ n then (takeBytes? (n - c.utf8Size) cs).map (c :: ·) else none

/-- The characters behind the first `n` bytes, if a character ends there. -/
def dropBytes? : (n : Nat) → List Char → Option (List Char)
  | 0, cs => some cs
  | _, [] => none
  | n, c :: cs => if c.utf8Size ≤ n then dropBytes? (n - c.utf8Size) cs else none

/-- The characters that take `n` bytes from the offset `start` on. -/
def bytesFrom? (start n : Nat) (cs : List Char) : Option (List Char) :=
  (dropBytes? start cs).bind (takeBytes? n)

end TunnelHost.Text
