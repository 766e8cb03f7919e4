import TunnelHost.Log.Switchboard
import TunnelHost.Proofs.RegistryLookup

/-!
# What registries hold

Registries take in what is stored and shared, and handlers put handlers in their places. So what is
true of everything that is stored, and of handlers, is true of everything that registries ever hold,
whatever the handlers do when lines are delivered.

- `Registry.Holds`, `Switchboard.Holds`: something is true of all values.
- `Switchboard.holds_store` and its kin: one lemma for each way in which registries change.
- `Switchboard.holds_forwardAll`: deliveries.
-/

namespace TunnelHost

namespace Registry

variable {α : Type} {Q : α → Prop} {r : Registry α}

/-- Something is true of all values of a registry. -/
def Holds (r : Registry α) (Q : α → Prop) : Prop := ∀ e ∈ r.entries, Q e.2.handle.value

theorem holds_empty : (empty : Registry α).Holds Q := by
  intro e he
  cases he

theorem holds_erase (h : r.Holds Q) (key : String) : (r.erase key).Holds Q := by
  intro e he
  exact h e ((List.mem_filter.mp he).1)

theorem holds_insert (h : r.Holds Q) (key : String) {x : Reference α} (hx : Q x.handle.value) :
    (r.insert key x).Holds Q := by
  intro e he
  rcases List.mem_append.mp he with he | he
  · exact holds_erase h key e he
  · rw [List.mem_singleton.mp he]
    exact hx

theorem Holds.of_find? (h : r.Holds Q) {key : String} {x : Reference α}
    (hfind : r.find? key = some x) : Q x.handle.value := by
  obtain ⟨e, he, rfl⟩ := Option.map_eq_some_iff.mp hfind
  exact h e (List.mem_of_find?_eq_some he)

end Registry

namespace Switchboard

variable {Q : Content → Prop} {b : Switchboard}

/-- Something is true of all values of all registries. -/
def Holds (b : Switchboard) (Q : Content → Prop) : Prop := ∀ e ∈ b.registries, e.2.Holds Q

theorem Holds.mono {Q' : Content → Prop} (h : b.Holds Q) (hQ : ∀ c, Q c → Q' c) : b.Holds Q' :=
  fun e he x hx => hQ _ (h e he x hx)

theorem Holds.of_registry? (h : b.Holds Q) {id : Nat} {r : Registry Content}
    (hr : b.registry? id = some r) : r.Holds Q :=
  h _ (mem_of_lookup hr)

/-! ## Changes -/

theorem holds_addRegistry (h : b.Holds Q) : b.addRegistry.2.Holds Q := by
  intro e he
  rcases List.mem_append.mp he with he | he
  · exact h e he
  · rw [List.mem_singleton.mp he]
    exact Registry.holds_empty

theorem holds_dropRegistry (h : b.Holds Q) (id : Nat) : (b.dropRegistry id).Holds Q := by
  intro e he
  exact h e ((List.mem_filter.mp he).1)

/-- What is true of all values of a board stays true if the change of the registry keeps it. -/
theorem holds_modify (h : b.Holds Q) (id : Nat) {f : Registry Content → Registry Content}
    (hf : ∀ r : Registry Content, r.Holds Q → (f r).Holds Q) : (b.modify id f).Holds Q := by
  intro e he
  obtain ⟨e', he', rfl⟩ := List.mem_map.mp he
  split
  · exact hf e'.2 (h e' he')
  · exact h e' he'

theorem holds_store (h : b.Holds Q) (id : Nat) (key : String) {c : Content} (hc : Q c)
    (context : ContextId) : (b.store id key c context).Holds Q :=
  holds_modify (by exact h) id fun _ hr => Registry.holds_insert hr key (by exact hc)

theorem holds_share (h : b.Holds Q) (id : Nat) (key : String) {r : Reference Content}
    (hr : Q r.handle.value) : (b.share id key r).Holds Q :=
  holds_modify h id fun _ hregistry => Registry.holds_insert hregistry key hr

theorem holds_remove (h : b.Holds Q) (id : Nat) (key : String) : (b.remove id key).1.Holds Q := by
  unfold remove
  split
  · exact h
  · exact holds_modify h id fun _ hr => Registry.holds_erase hr key

/-! ## Deliveries -/

section Handlers

variable (hhandler : ∀ x : Handler, Q (.handler x))
include hhandler

theorem holds_register (h : b.Holds Q) (id : Nat) (context : ContextId) (engine : Option Nat)
    (x : Handler) : (b.register id context engine x).Holds Q := by
  refine holds_store ?_ id handlerKey (hhandler x) context
  fun_cases wire b engine <;> exact h

theorem holds_spend (h : b.Holds Q) (id : Nat) : (b.spend id).Holds Q := by
  refine holds_modify h id fun r hr => ?_
  split
  · exact Registry.holds_insert hr handlerKey (hhandler _)
  · exact hr

/-- Whatever is pending changes no more than handlers. -/
theorem holds_settle (fuel : Nat) (pending : List (Nat × ContextId × Reaction))
    (h : b.Holds Q) : (settle fuel pending b).Holds Q := by
  -- along the delivery: each reaction is done to a board of which it holds, and only registering
  -- and the first call of a handler store anything
  fun_induction settle fuel pending b with
  | case1 => exact h
  | case2 => exact h
  | case3 fuel id context x rest b ih => exact ih (holds_register hhandler h id context none x)
  | case4 fuel _ _ x t rest b ih =>
    exact ih (holds_register hhandler h t.registry t.context (some t.engine) x)
  | case5 fuel id _ rest b ih => exact ih (holds_remove h id handlerKey)
  | case6 fuel _ _ line rest b hnone ih => exact ih h
  | case7 fuel _ _ line rest b id context x hsome ih =>
    exact ih (holds_spend hhandler (by exact h) id)

theorem holds_forward (h : b.Holds Q) (line : String) : (b.forward line).Holds Q :=
  holds_settle hhandler _ _ h

/-- Lines store nothing but what handlers install from inside their calls, which are handlers. -/
theorem holds_forwardAll (h : b.Holds Q) (lines : List String) :
    (b.forwardAll lines).Holds Q := by
  induction lines generalizing b with
  | nil => exact h
  | cons line lines ih => exact ih (holds_forward hhandler h line)

end Handlers

end Switchboard

end TunnelHost
