/-!
# Output buffers

A buffer of fixed capacity, which an engine fills from the front. The capacity is part of the type,
so nothing done to a buffer can change it.

- `Buffer.zeroed`: the buffer an engine is handed.
- `Buffer.overwrite`: octets written at the front, as many as fit.
- `Buffer.blank`: the buffer emptied for the next call.
-/

namespace TunnelHost

/-- A buffer of exactly `capacity` octets. -/
structure Buffer (β : Type) (capacity : Nat) where
  contents : List β
  length_contents : contents.length = capacity

namespace Buffer

variable {β : Type} {capacity : Nat}

/-- A buffer of one octet all over. -/
def zeroed (zero : β) (capacity : Nat) : Buffer β capacity :=
  ⟨List.replicate capacity zero, by simp⟩

/-- The buffer of a list, at the capacity of its length. -/
def ofList (contents : List β) : Buffer β contents.length := ⟨contents, rfl⟩

/-- Writes octets at the front, as many as fit. What lies beyond them stays. -/
def overwrite (b : Buffer β capacity) (octets : List β) : Buffer β capacity :=
  ⟨octets.take capacity ++ b.contents.drop octets.length, by
    have := b.length_contents
    simp only [List.length_append, List.length_take, List.length_drop]
    omega⟩

/-- The buffer emptied: every place is overwritten. -/
def blank (zero : β) (b : Buffer β capacity) : Buffer β capacity :=
  ⟨b.contents.map fun _ => zero, by rw [List.length_map, b.length_contents]⟩

theorem ext_contents {a b : Buffer β capacity} (h : a.contents = b.contents) : a = b := by
  cases a
  cases b
  cases h
  rfl

@[simp] theorem contents_zeroed (zero : β) (capacity : Nat) :
    (zeroed zero capacity).contents = List.replicate capacity zero := rfl

/-- Nothing of a buffer is left once it is emptied. -/
theorem blank_eq_zeroed (zero : β) (b : Buffer β capacity) :
    b.blank zero = zeroed zero capacity := by
  refine ext_contents ?_
  show b.contents.map (fun _ => zero) = List.replicate capacity zero
  rw [List.map_const', b.length_contents]

end Buffer

end TunnelHost
