import TunnelHost.Log.Switchboard
import TunnelHost.Proofs.RegistryLookup

/-!
# Registries of a board

A board keeps registries by number. Numbers are given out in order and never again, and a change of
what one registry holds is no change of the others.

- `Switchboard.ids`, `Switchboard.mem_ids_iff`: the registries that have an owner.
- `Switchboard.registry?_modify` and the two lemmas beside it: looking one up.
- `Switchboard.held?`, `Switchboard.held?_put`, `Switchboard.held?_remove`: what stands under a key.
- `Switchboard.posted?`: what stands under the handler key, `Switchboard.receiver?_eq_some_iff`: who
  a line goes to.
- `Switchboard.ids_modify` and those beside it: which registries come and go.
- `Switchboard.Distinct`: no number was given out twice.
-/

namespace TunnelHost

namespace Switchboard

variable {b : Switchboard} {r id : Nat} {key : String} {context : ContextId} {x : Handler}

/-- The numbers of the registries that have an owner. -/
def ids (b : Switchboard) : List Nat := b.registries.map (·.1)

/-! ## Looking up -/

/-- The registries that have an owner are those that can be found. -/
theorem mem_ids_iff : r ∈ b.ids ↔ ∃ registry, b.registry? r = some registry := by
  rw [← Option.isSome_iff_exists, ids, registry?]
  induction b.registries with
  | nil => simp
  | cons e rest ih =>
    rw [lookup_cons_eq, List.map_cons, List.mem_cons, ih]
    split
    next hr => simp [hr]
    next hr => simp [hr]

/-- A change of one registry leaves the others as they are. -/
theorem registry?_modify (b : Switchboard) (id : Nat) (f : Registry Content → Registry Content)
    (r : Nat) :
    Switchboard.registry? (b.modify id f) r
      = if r = id then (b.registry? r).map f else b.registry? r := by
  unfold registry? modify
  induction b.registries with
  | nil => simp
  | cons e rest ih =>
    rw [List.map_cons, lookup_cons_eq, lookup_cons_eq, ih]
    by_cases hid : e.1 = id
    · subst hid
      by_cases hr : r = e.1 <;> simp [hr]
    · by_cases hr : r = e.1 <;> simp [hr, hid]

theorem registry?_addRegistry (b : Switchboard) (r : Nat) :
    Switchboard.registry? b.addRegistry.2 r
      = (b.registry? r).or (if r = b.nextRegistry then some .empty else none) := by
  show (b.registries ++ [(b.nextRegistry, Registry.empty)]).lookup r = _
  unfold registry?
  induction b.registries with
  | nil => exact lookup_cons_eq _ _ _
  | cons e rest ih =>
    rw [List.cons_append, lookup_cons_eq, lookup_cons_eq, ih]
    split <;> rfl

theorem registry?_dropRegistry (b : Switchboard) (id r : Nat) :
    Switchboard.registry? (b.dropRegistry id) r = if r = id then none else b.registry? r :=
  lookup_filter_ne _ _ _

/-! ## What stands under a key -/

/-- What stands under a key of a registry. -/
def held? (b : Switchboard) (r : Nat) (key : String) : Option (Reference Content) :=
  (b.registry? r).bind (·.find? key)

variable {other : String}

theorem held?_of_not_mem (h : r ∉ b.ids) (key : String) : b.held? r key = none := by
  rw [held?]
  cases hregistry : b.registry? r with
  | none => rfl
  | some registry => exact absurd (mem_ids_iff.mpr ⟨registry, hregistry⟩) h

theorem held?_modify_of_ne (h : r ≠ id) (f : Registry Content → Registry Content) (key : String) :
    (b.modify id f).held? r key = b.held? r key := by
  rw [held?, registry?_modify, if_neg h, held?]

theorem held?_modify_self (f : Registry Content → Registry Content) (key : String) :
    (b.modify r f).held? r key = (b.registry? r).bind fun registry => (f registry).find? key := by
  rw [held?, registry?_modify, if_pos rfl, Option.bind_map]
  rfl

/-- A change that keeps to one registry, and there to another key. -/
theorem held?_modify_of_kept {f : Registry Content → Registry Content}
    (h : r = id → ∀ registry, (f registry).find? key = registry.find? key) :
    (b.modify id f).held? r key = b.held? r key := by
  by_cases hr : r = id
  · subst hr
    rw [held?_modify_self]
    exact congrArg (Option.bind _) (funext (h rfl))
  · exact held?_modify_of_ne hr f key

theorem held?_addRegistry (b : Switchboard) (r : Nat) (key : String) :
    b.addRegistry.2.held? r key = b.held? r key := by
  rw [held?, registry?_addRegistry, held?]
  cases b.registry? r with
  | some registry => rfl
  | none =>
    -- what has just come into being holds nothing
    by_cases hr : r = b.nextRegistry
    · rw [if_pos hr]
      rfl
    · rw [if_neg hr]
      rfl

/-- What a registry held goes with it, and nothing else does. -/
theorem held?_dropRegistry (b : Switchboard) (id r : Nat) (key : String) :
    (b.dropRegistry id).held? r key = if r = id then none else b.held? r key := by
  rw [held?, registry?_dropRegistry]
  split <;> rfl

/-- Something else is put under a key. -/
theorem held?_put (b : Switchboard) (id : Nat) (key : String) (c : Reference Content) (r : Nat)
    (other : String) :
    (b.modify id (·.insert key c)).held? r other
      = if id = r ∧ key = other then (b.registry? r).map fun _ => c else b.held? r other := by
  split
  next h =>
    obtain ⟨rfl, rfl⟩ := h
    rw [held?_modify_self, Option.map_eq_bind]
    exact congrArg (Option.bind _) (funext fun registry => Registry.find?_insert_self registry _ c)
  next h =>
    refine held?_modify_of_kept fun hr registry => Registry.find?_insert_of_ne fun hkey => ?_
    exact h ⟨hr.symm, hkey.symm⟩

/-- A removal takes away what stands under the key in this registry, and nothing else. -/
theorem held?_remove (b : Switchboard) (id : Nat) (key : String) (r : Nat) (other : String) :
    (b.remove id key).1.held? r other
      = if id = r ∧ key = other then none else b.held? r other := by
  rw [remove]
  split
  -- no registry of that number: nothing is removed, and nothing is found there
  next hnone =>
    split
    next h =>
      obtain ⟨rfl, rfl⟩ := h
      rw [held?, hnone]
      rfl
    next => rfl
  next registry hlive =>
    split
    next h =>
      obtain ⟨rfl, rfl⟩ := h
      rw [held?_modify_self, hlive]
      exact Registry.find?_erase_self registry key
    next h =>
      refine held?_modify_of_kept fun hr registry => Registry.find?_erase_of_ne fun hkey => ?_
      exact h ⟨hr.symm, hkey.symm⟩

/-! ## What stands under a handler key -/

/-- What stands under the handler key of a registry. -/
def posted? (b : Switchboard) (r : Nat) : Option (Reference Content) :=
  (b.registry? r).bind (·.find? handlerKey)

/-- The receiver of a line is the handler that stands in the registry of the latest registration. -/
theorem receiver?_eq_some_iff :
    b.receiver? = some (r, context, x)
      ↔ b.anchor = some r ∧ ∃ serial, b.posted? r = some ⟨⟨serial, .handler x⟩, context⟩ := by
  rw [receiver?]
  cases b.anchor with
  | none => simp
  | some id =>
    show ((b.registry? id).bind fun registry => _) = _ ↔ _
    rw [Option.some.injEq]
    constructor
    · intro h
      obtain ⟨registry, hregistry, h⟩ := Option.bind_eq_some_iff.mp h
      obtain ⟨⟨⟨serial, content⟩, context'⟩, hfind, h⟩ := Option.bind_eq_some_iff.mp h
      -- only a handler receives lines, though anything may stand under its key
      cases content with
      | handler x' =>
        cases h
        refine ⟨rfl, serial, ?_⟩
        rw [posted?, hregistry]
        exact hfind
      | family f => cases h
      | word n => cases h
    · rintro ⟨rfl, serial, hposted⟩
      obtain ⟨registry, hregistry, hfind⟩ := Option.bind_eq_some_iff.mp hposted
      rw [hregistry]
      show (registry.find? handlerKey).bind _ = _
      rw [hfind]
      rfl

theorem posted?_modify_self (f : Registry Content → Registry Content) :
    (b.modify r f).posted? r = (b.registry? r).bind fun registry => (f registry).find? handlerKey :=
  held?_modify_self f handlerKey

theorem posted?_addRegistry (b : Switchboard) (r : Nat) :
    b.addRegistry.2.posted? r = b.posted? r :=
  held?_addRegistry b r handlerKey

/-- Something stored shows under the handler key only if it is stored there. -/
theorem posted?_put (b : Switchboard) (id : Nat) (key : String) (c : Reference Content) (r : Nat) :
    (b.modify id (·.insert key c)).posted? r
      = if id = r ∧ key = handlerKey then (b.registry? r).map fun _ => c else b.posted? r :=
  held?_put b id key c r handlerKey

/-- Only a removal of the handler key takes a handler away. -/
theorem posted?_remove (b : Switchboard) (id : Nat) (key : String) (r : Nat) :
    (b.remove id key).1.posted? r = if id = r ∧ key = handlerKey then none else b.posted? r :=
  held?_remove b id key r handlerKey

/-- Removals leave the latest registration in its place, so lines keep looking there. -/
theorem anchor_remove (b : Switchboard) (id : Nat) (key : String) :
    (b.remove id key).1.anchor = b.anchor := by
  rw [remove]
  split <;> rfl

/-! ## Which registries come and go -/

theorem ids_modify (b : Switchboard) (id : Nat) (f : Registry Content → Registry Content) :
    (b.modify id f).ids = b.ids := by
  rw [ids, modify, List.map_map, ids]
  refine List.map_congr_left fun e _ => ?_
  by_cases he : e.1 = id <;> simp [he]

theorem ids_store (b : Switchboard) (id : Nat) (key : String) (c : Content)
    (context : ContextId) : (b.store id key c context).ids = b.ids :=
  ids_modify _ _ _

theorem ids_remove (b : Switchboard) (id : Nat) (key : String) :
    (b.remove id key).1.ids = b.ids := by
  rw [remove]
  split
  · rfl
  · exact ids_modify b id _

theorem ids_addRegistry (b : Switchboard) : b.addRegistry.2.ids = b.ids ++ [b.nextRegistry] :=
  List.map_append

theorem ids_dropRegistry (b : Switchboard) (id : Nat) :
    (b.dropRegistry id).ids = b.ids.filter (· != id) := by
  rw [ids, ids, List.filter_map]
  rfl

/-- A sink that is given to an engine changes nothing else. -/
theorem wire_eq (b : Switchboard) (engine : Option Nat) :
    b.wire engine = { b with wired := (b.wire engine).wired } := by
  fun_cases wire b engine <;> rfl

theorem ids_register (b : Switchboard) (id : Nat) (context : ContextId) (engine : Option Nat)
    (x : Handler) : (b.register id context engine x).ids = b.ids := by
  rw [register, wire_eq]
  exact ids_store { b with wired := _ } id handlerKey (.handler x) context

/-- No registry comes or goes by a delivery. -/
theorem ids_settle (fuel : Nat) (pending : List (Nat × ContextId × Reaction)) (b : Switchboard) :
    (settle fuel pending b).ids = b.ids := by
  fun_induction settle fuel pending b with
  | case1 => rfl
  | case2 => rfl
  | case3 fuel id context x rest b ih => exact ih.trans (ids_register b id context none x)
  | case4 fuel _ _ x t rest b ih =>
    exact ih.trans (ids_register b t.registry t.context (some t.engine) x)
  | case5 fuel id _ rest b ih => exact ih.trans (ids_remove b id handlerKey)
  | case6 fuel _ _ line rest b hnone ih => exact ih
  | case7 fuel _ _ line rest b id context x hsome ih => exact ih.trans (ids_modify _ id _)

theorem ids_forwardAll (b : Switchboard) (lines : List String) :
    (b.forwardAll lines).ids = b.ids := by
  induction lines generalizing b with
  | nil => rfl
  | cons line rest ih => exact (ih (b.forward line)).trans (ids_settle _ _ b)

/-! ## Numbers -/

/-- No two registries have a number in common, and the next one has none that was given away. -/
structure Distinct (b : Switchboard) : Prop where
  once : b.ids.Nodup
  fresh : ∀ id ∈ b.ids, id < b.nextRegistry

theorem Distinct.of_ids {b' : Switchboard} (h : b.Distinct) (hids : b'.ids = b.ids)
    (hnext : b'.nextRegistry = b.nextRegistry) : b'.Distinct where
  once := hids ▸ h.once
  fresh := by
    rw [hids, hnext]
    exact h.fresh

/-- The number of a new registry is one that none had before. -/
theorem Distinct.addRegistry (h : b.Distinct) : b.addRegistry.2.Distinct := by
  refine ⟨?_, fun id hid => ?_⟩
  · rw [ids_addRegistry, List.nodup_append]
    refine ⟨h.once, List.pairwise_singleton _ _, ?_⟩
    rintro id hid _ hnew rfl
    exact Nat.lt_irrefl _ (List.mem_singleton.mp hnew ▸ h.fresh id hid)
  · rw [ids_addRegistry, List.mem_append, List.mem_singleton] at hid
    show id < b.nextRegistry + 1
    rcases hid with hid | rfl
    · exact Nat.lt_succ_of_lt (h.fresh id hid)
    · exact Nat.lt_succ_self _

theorem Distinct.dropRegistry (h : b.Distinct) (r : Nat) : (b.dropRegistry r).Distinct := by
  refine ⟨?_, fun id hid => ?_⟩
  · rw [ids_dropRegistry]
    exact h.once.filter _
  · rw [ids_dropRegistry] at hid
    exact h.fresh id (List.mem_filter.mp hid).1

end Switchboard

end TunnelHost
