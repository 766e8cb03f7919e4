import TunnelHost.Text.Quoted

/-!
# Registries of references

A registry keeps values that outlive a single call, each under a key and for a context of the host.
A value is kept with a serial number, so that two equal values can be told apart.

- `ContextId`, `Handle`, `Reference`: what is stored.
- `Registry`: references by key, at most one to a key.
- `Registry.insert`, `Registry.erase`, `Registry.find?`: writing and looking up.
- `Registry.get`, `Registry.getAs`: looking up with the error of a failure.
-/

namespace TunnelHost

/-- The context of the host that a reference belongs to. -/
structure ContextId where
  number : Nat
  deriving DecidableEq, Repr

/-- The context in words. -/
def ContextId.text (c : ContextId) : String := "ctx-" ++ Numeral.decimal c.number

/-- The context as it stands in the description of what holds it. -/
def ContextId.describe (c : ContextId) : String :=
  "ContextId(" ++ Numeral.decimal c.number ++ ")"

/-- A stored value with the serial number that is its identity. -/
structure Handle (α : Type) where
  serial : Nat
  value : α
  deriving DecidableEq

/-- What is stored under a key. -/
structure Reference (α : Type) where
  handle : Handle α
  context : ContextId
  deriving DecidableEq

/-- The reference in words; it says nothing about the value. -/
def Reference.describe {α : Type} (r : Reference α) : String :=
  "Reference \x7b context: " ++ r.context.describe ++ ", .. \x7d"

/-- Why a value cannot be had from a registry. -/
inductive RegistryError where
  | notFound (key : String)
  /-- The value is of another type than the expected one. -/
  | wrongType (key expected : String)
  deriving DecidableEq, Repr

/-- The error in words. -/
def RegistryError.message : RegistryError → String
  | .notFound key => "Reference not found: " ++ key
  | .wrongType key expected => "Reference " ++ key ++ " does not hold a " ++ expected

/-- References by key, in the order in which they were stored. -/
structure Registry (α : Type) where
  entries : List (String × Reference α)
  distinct : (entries.map (·.1)).Nodup

namespace Registry

variable {α β : Type}

/-- A registry without references. -/
def empty : Registry α := ⟨[], by simp⟩

/-- The keys under which something is stored. -/
def keys (r : Registry α) : List String := r.entries.map (·.1)

/-- The number of references. -/
def size (r : Registry α) : Nat := r.entries.length

/-- What is stored under a key. -/
def find? (r : Registry α) (key : String) : Option (Reference α) :=
  (r.entries.find? fun e => e.1 == key).map (·.2)

/-- Whether something is stored under a key. -/
def contains (r : Registry α) (key : String) : Bool := (r.find? key).isSome

/-- The registry without what is stored under a key. -/
def erase (r : Registry α) (key : String) : Registry α where
  entries := r.entries.filter fun e => e.1 != key
  distinct := r.distinct.sublist (List.filter_sublist.map _)

theorem not_mem_keys_erase (r : Registry α) (key : String) : key ∉ (r.erase key).keys := by
  simp [keys, erase]

/-- The registry with a reference under a key, in place of any that was there. -/
def insert (r : Registry α) (key : String) (x : Reference α) : Registry α where
  entries := (r.erase key).entries ++ [(key, x)]
  distinct := by
    have h := r.not_mem_keys_erase key
    simp only [keys] at h
    simp only [List.map_append, List.map_cons, List.map_nil, List.nodup_append]
    refine ⟨(r.erase key).distinct, by simp, fun a ha b hb => ?_⟩
    rw [List.mem_singleton.1 hb]
    exact fun e => h (e ▸ ha)

/-- What is stored under a key, or the error that nothing is. -/
def get (r : Registry α) (key : String) : Except RegistryError (Reference α) :=
  match r.find? key with
  | some x => .ok x
  | none => .error (.notFound key)

/-- The value stored under a key, if it is of the type that `select` selects and `expected`
names. -/
def getAs (r : Registry α) (key expected : String) (select : α → Option β) :
    Except RegistryError (Handle β) := do
  let x ← r.get key
  match select x.handle.value with
  | some b => .ok ⟨x.handle.serial, b⟩
  | none => .error (.wrongType key expected)

/-- The registry in words: its keys. -/
def describe (r : Registry α) : String :=
  "ReferenceRegistry \x7b keys: [" ++ String.intercalate ", " (r.keys.map Text.quoted) ++ "] \x7d"

/-- Erasing what is there makes a registry smaller. -/
theorem size_erase_lt {r : Registry α} {key : String} {x : Reference α}
    (h : r.find? key = some x) : (r.erase key).size < r.size := by
  obtain ⟨e, he, -⟩ := Option.map_eq_some_iff.1 h
  have hk : (e.1 == key) = true := by simpa using List.find?_some he
  refine Nat.lt_of_le_of_ne (List.length_filter_le _ _) fun hl => ?_
  have := List.length_filter_eq_length_iff.1 hl e (List.mem_of_find?_eq_some he)
  simp_all

end Registry

end TunnelHost
