/-!
# Pieces of a text

A text with marks in it falls into pieces, which may be empty.

- `Text.pieces`: the pieces between the marks.
-/

namespace TunnelHost.Text

/-- The pieces between the marks of a text; one more than there are marks. -/
def pieces (mark : Char) : List Char → List (List Char)
  | [] => [[]]
  | c :: cs =>
    if c = mark then [] :: pieces mark cs
    else
      match pieces mark cs with
      | [] => [[c]]
      | piece :: rest => (c :: piece) :: rest

end TunnelHost.Text
