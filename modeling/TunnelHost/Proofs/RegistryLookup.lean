import TunnelHost.Registry.Basic

/-!
# Registries as finite maps

What a registry holds under a key, after it was written to, is what a map holds that was written to
at that key. Looking up, asking whether there is anything, and listing the keys are three ways to
see one map.

- `mem_of_lookup`, `lookup_of_mem`, `lookup_filter_ne`: lists of things by name.
- `Registry.mem_entries_iff`: entries and look-ups.
- `Registry.find?_erase_self`, `Registry.find?_insert_self` and those beside them: writing.
- `Registry.find?_eq_none_iff`, `Registry.contains_eq_true_iff`: the other views.
- `Registry.getAs_of_find?_none`, `Registry.getAs_of_find?_some`: looking up a value of a type.
-/

namespace TunnelHost

/-! ## Lists of things by name -/

section Named

variable {κ α : Type} [BEq κ] [LawfulBEq κ] {key : κ} {a : α} {items : List (κ × α)}

theorem lookup_cons_eq [DecidableEq κ] (e : κ × α) (items : List (κ × α)) (key : κ) :
    (e :: items).lookup key = if key = e.1 then some e.2 else items.lookup key := by
  rw [List.lookup_cons]
  by_cases h : key = e.1
  · rw [if_pos h, beq_iff_eq.mpr h]
  · rw [if_neg h, beq_false_of_ne h]

/-- A list by name without what stands there by a name. -/
theorem lookup_filter_ne [DecidableEq κ] (items : List (κ × α)) (name key : κ) :
    (items.filter fun e => e.1 != name).lookup key
      = if key = name then none else items.lookup key := by
  induction items with
  | nil => simp
  | cons e rest ih =>
    rw [List.filter_cons, lookup_cons_eq]
    by_cases hname : e.1 = name
    · -- the entry is left out, and asked for by its name only
      rw [if_neg (by simp [hname]), ih, hname]
      split <;> rfl
    · rw [if_pos (by simp [hname]), lookup_cons_eq, ih]
      by_cases hkey : key = e.1
      · rw [if_pos hkey, if_pos hkey, if_neg (hkey ▸ hname)]
      · rw [if_neg hkey, if_neg hkey]

/-- What stands in a list by name is in it. -/
theorem mem_of_lookup (h : items.lookup key = some a) : (key, a) ∈ items := by
  obtain ⟨before, after, rfl, -⟩ := List.lookup_eq_some_iff.mp h
  simp

/-- Where no name stands twice, what is in a list stands there by its name. -/
theorem lookup_of_mem (hdistinct : (items.map (·.1)).Nodup) (h : (key, a) ∈ items) :
    items.lookup key = some a := by
  obtain ⟨before, after, rfl⟩ := List.append_of_mem h
  rw [List.map_append, List.nodup_append] at hdistinct
  refine List.lookup_eq_some_iff.mpr ⟨before, after, rfl, fun e he => ?_⟩
  have hne := hdistinct.2.2 e.1 (List.mem_map_of_mem he) key (by simp)
  simpa using fun heq => hne heq.symm

end Named

namespace Registry

variable {α β : Type} {r : Registry α} {key other : String} {x : Reference α}

/-! ## Entries -/

theorem nodup_keys (r : Registry α) : r.keys.Nodup := r.distinct

theorem length_keys (r : Registry α) : r.keys.length = r.size := List.length_map _

/-- There is one entry at most to a key, so to look up is to find the entry. -/
theorem mem_entries_iff : (key, x) ∈ r.entries ↔ r.find? key = some x := by
  constructor
  · intro hmem
    obtain ⟨before, after, hsplit⟩ := List.append_of_mem hmem
    have hdistinct := r.distinct
    rw [hsplit, List.map_append, List.nodup_append] at hdistinct
    have hbefore : before.find? (fun e => e.1 == key) = none := by
      refine List.find?_eq_none.mpr fun e he hkey => ?_
      exact hdistinct.2.2 e.1 (List.mem_map_of_mem he) key (by simp) (beq_iff_eq.mp hkey)
    rw [find?, hsplit, List.find?_append, hbefore]
    simp
  · intro h
    obtain ⟨e, hfind, rfl⟩ := Option.map_eq_some_iff.mp h
    have hkey : e.1 = key := by simpa using List.find?_some hfind
    rw [← hkey]
    exact List.mem_of_find?_eq_some hfind

/-- A key is free if it is not among the keys. -/
theorem find?_eq_none_iff : r.find? key = none ↔ key ∉ r.keys := by
  rw [find?, Option.map_eq_none_iff, List.find?_eq_none, keys, List.mem_map]
  constructor
  · rintro h ⟨e, he, hkey⟩
    exact h e he (beq_iff_eq.mpr hkey)
  · intro h e he hkey
    exact h ⟨e, he, beq_iff_eq.mp hkey⟩

theorem contains_eq_true_iff : r.contains key = true ↔ key ∈ r.keys := by
  rw [contains, Option.isSome_iff_ne_none, ne_eq, find?_eq_none_iff, Decidable.not_not]

/-! ## Writing -/

@[simp] theorem find?_erase_self (r : Registry α) (key : String) :
    (r.erase key).find? key = none :=
  find?_eq_none_iff.mpr (r.not_mem_keys_erase key)

theorem find?_erase_of_ne (h : other ≠ key) : (r.erase key).find? other = r.find? other := by
  -- an entry under another key passes the filter
  have hsame : ∀ e : String × Reference α,
      decide ((e.1 != key) = true ∧ (e.1 == other) = true) = (e.1 == other) := by
    intro e
    by_cases he : e.1 = other
    · simp [he, h]
    · simp [he]
  rw [find?, find?, erase, List.find?_filter]
  exact congrArg (fun p => (r.entries.find? p).map (·.2)) (funext hsame)

/-- Only the key that is erased is free after it. -/
theorem find?_erase (r : Registry α) (key other : String) :
    (r.erase key).find? other = if other = key then none else r.find? other := by
  split
  next h => rw [h, find?_erase_self]
  next h => exact find?_erase_of_ne h

@[simp] theorem find?_insert_self (r : Registry α) (key : String) (x : Reference α) :
    (r.insert key x).find? key = some x :=
  mem_entries_iff.mp (List.mem_append_right _ List.mem_cons_self)

theorem find?_insert_of_ne (h : other ≠ key) : (r.insert key x).find? other = r.find? other := by
  have hlast : [(key, x)].find? (fun e => e.1 == other) = none := by
    simpa using fun he => h he.symm
  rw [← find?_erase_of_ne (r := r) h, find?, insert, List.find?_append, hlast, Option.or_none]
  rfl

/-! ## Looking up -/

variable (r key) (expected : String) (select : α → Option β)

theorem getAs_of_find?_none (h : r.find? key = none) :
    r.getAs key expected select = .error (.notFound key) := by
  rw [getAs, get, h]
  rfl

/-- A value of another type is told as such, with the type that was asked for. -/
theorem getAs_of_find?_some (h : r.find? key = some x) :
    r.getAs key expected select =
      match select x.handle.value with
      | some b => .ok ⟨x.handle.serial, b⟩
      | none => .error (.wrongType key expected) := by
  rw [getAs, get, h]
  rfl

end Registry

end TunnelHost
