import TunnelHost.Proofs.EstateLookup

/-!
# The cascade of releases

A command that lets go of a value may release it, a release may store a word, and that store may let
go of another value. `Cascade` takes all this apart into small steps, with what is still to be done
on a stack: one step looks one value up, takes it out, lets go of it, or puts one in.

- `Task`, `Cascade`, `Cascade.step`: the steps.
- `Estate.begin`: what a command starts.
- `Cascade.leads_begin`: every cascade ends, and where the command leads to.
-/

namespace TunnelHost

/-- How a value comes to lose an owner. -/
inductive Cause where
  /-- A store or a removal has taken it out of the registry. -/
  | takenOut
  /-- Another value was put under its key. -/
  | ousted
  /-- A held copy of it is given up. -/
  | returned
  deriving DecidableEq, Repr

/-- Something that a cascade has still to do. -/
inductive Task where
  /-- Take out what stands under a key, let go of it, and put a value in. -/
  | store (key : String) (item : Item) (context : ContextId)
  /-- Put a value in, and let go of what it ousts. -/
  | put (key : String) (item : Item) (context : ContextId)
  /-- Let go of a value: it is released unless it has another owner. -/
  | letGo (cause : Cause) (h : Handle Parcel)
  deriving DecidableEq

/-- An estate in the middle of a command, and what is still to be done, first things first. -/
structure Cascade where
  estate : Estate
  tasks : List Task

namespace Cascade

/-- Does the first thing to be done. -/
def step : Cascade → Cascade
  | ⟨s, []⟩ => ⟨s, []⟩
  | ⟨s, .store key item context :: rest⟩ =>
    match s.registry.find? key with
    | none => ⟨s, .put key item context :: rest⟩
    | some r => ⟨s.takeOut key, .letGo .takenOut r.handle :: .put key item context :: rest⟩
  | ⟨s, .put key item context :: rest⟩ =>
    match s.registry.find? key with
    | none => ⟨s.insert key item context, rest⟩
    | some r => ⟨s.insert key item context, .letGo .ousted r.handle :: rest⟩
  | ⟨s, .letGo _ h :: rest⟩ =>
    if s.owns h.serial then ⟨s, rest⟩
    else
      match h.value.item.parting? with
      | none => ⟨s.depart h, rest⟩
      | some (key, n) => ⟨s.depart h, .store key (.word n) Estate.partingContext :: rest⟩

/-- Does so many things. -/
def advance : Nat → Cascade → Cascade
  | 0, c => c
  | n + 1, c => advance n c.step

/-- One cascade becomes another in so many steps at most. -/
def Leads (bound : Nat) (c d : Cascade) : Prop := ∃ n, n ≤ bound ∧ advance n c = d

end Cascade

/-- What a command starts. Those that only look something up start nothing. -/
def Estate.begin (s : Estate) : Estate.Command → Cascade
  | .store key item context => ⟨s, [.store key item context]⟩
  | .remove key =>
    match s.registry.find? key with
    | none => ⟨s, []⟩
    | some r => ⟨s.takeOut key, [.letGo .takenOut r.handle]⟩
  | .hold key =>
    match s.registry.find? key with
    | none => ⟨s, []⟩
    | some r => ⟨s.keeping key r.handle, (s.held.lookup key).toList.map (.letGo .returned)⟩
  | .unhold key =>
    match s.held.lookup key with
    | none => ⟨s, []⟩
    | some h => ⟨{ s with held := s.held.filter fun e => e.1 != key }, [.letGo .returned h]⟩
  | _ => ⟨s, []⟩

namespace Cascade

/-! ## Steps in a row -/

theorem advance_add (m n : Nat) (c : Cascade) :
    advance (m + n) c = advance n (advance m c) := by
  induction m generalizing c with
  | zero => rw [Nat.zero_add, advance]
  | succ m ih => rw [Nat.succ_add, advance, advance, ih]

theorem Leads.refl (bound : Nat) (c : Cascade) : Leads bound c c := ⟨0, Nat.zero_le _, rfl⟩

theorem Leads.trans {m n : Nat} {c d e : Cascade} (hcd : Leads m c d) (hde : Leads n d e) :
    Leads (m + n) c e := by
  obtain ⟨k, hk, rfl⟩ := hcd
  obtain ⟨l, hl, rfl⟩ := hde
  exact ⟨k + l, Nat.add_le_add hk hl, advance_add k l c⟩

theorem Leads.mono {m n : Nat} {c d : Cascade} (h : Leads m c d) (hmn : m ≤ n) : Leads n c d := by
  obtain ⟨k, hk, hd⟩ := h
  exact ⟨k, Nat.le_trans hk hmn, hd⟩

theorem leads_step {c d : Cascade} (h : c.step = d) : Leads 1 c d := ⟨1, Nat.le_refl _, h⟩

/-! ## One step -/

section Step

variable {s : Estate} {key : String} {r : Reference Parcel} {h : Handle Parcel}

theorem step_store_of_none (hfind : s.registry.find? key = none) (item : Item)
    (context : ContextId) (rest : List Task) :
    step ⟨s, .store key item context :: rest⟩ = ⟨s, .put key item context :: rest⟩ := by
  rw [step, hfind]

/-- What stands under the key is let go of before the value is put in. -/
theorem step_store_of_some (hfind : s.registry.find? key = some r) (item : Item)
    (context : ContextId) (rest : List Task) :
    step ⟨s, .store key item context :: rest⟩
      = ⟨s.takeOut key, .letGo .takenOut r.handle :: .put key item context :: rest⟩ := by
  rw [step, hfind]

theorem step_put_of_none (hfind : s.registry.find? key = none) (item : Item)
    (context : ContextId) (rest : List Task) :
    step ⟨s, .put key item context :: rest⟩ = ⟨s.insert key item context, rest⟩ := by
  rw [step, hfind]

/-- A word that a release has slipped in is ousted. -/
theorem step_put_of_some (hfind : s.registry.find? key = some r) (item : Item)
    (context : ContextId) (rest : List Task) :
    step ⟨s, .put key item context :: rest⟩
      = ⟨s.insert key item context, .letGo .ousted r.handle :: rest⟩ := by
  rw [step, hfind]

/-- A value that has another owner is not released. -/
theorem step_letGo_of_owns (howns : s.owns h.serial = true) (cause : Cause)
    (rest : List Task) :
    step ⟨s, .letGo cause h :: rest⟩ = ⟨s, rest⟩ := by
  rw [step, if_pos howns]

theorem step_letGo_of_none (howns : ¬ s.owns h.serial = true)
    (hparting : h.value.item.parting? = none) (cause : Cause) (rest : List Task) :
    step ⟨s, .letGo cause h :: rest⟩ = ⟨s.depart h, rest⟩ := by
  rw [step, if_neg howns, hparting]

/-- A value that stores a word in parting is released before the word is stored. -/
theorem step_letGo_of_some {n : UInt32} (howns : ¬ s.owns h.serial = true)
    (hparting : h.value.item.parting? = some (key, n)) (cause : Cause) (rest : List Task) :
    step ⟨s, .letGo cause h :: rest⟩
      = ⟨s.depart h, .store key (.word n) Estate.partingContext :: rest⟩ := by
  rw [step, if_neg howns, hparting]

end Step

/-! ## Every cascade ends -/

/-- Putting a value in under a free key takes one step. -/
theorem leads_put_of_none {s : Estate} {key : String} (hfind : s.registry.find? key = none)
    (item : Item) (context : ContextId) (rest : List Task) :
    Leads 1 ⟨s, .put key item context :: rest⟩ ⟨s.put key item context, rest⟩ := by
  have hput : s.put key item context = s.insert key item context := by
    rw [Estate.put, hfind]
  rw [hput]
  exact leads_step (step_put_of_none hfind item context rest)

/-- Putting a value in place of a plain word takes two steps, since the word stores nothing in
parting. -/
theorem leads_put {s : Estate} {key : String}
    (hplain : ∀ r, s.registry.find? key = some r → r.handle.value.item.parting? = none)
    (item : Item) (context : ContextId) (rest : List Task) :
    Leads 2 ⟨s, .put key item context :: rest⟩ ⟨s.put key item context, rest⟩ := by
  cases hfind : s.registry.find? key with
  | none => exact (leads_put_of_none hfind item context rest).mono (by decide)
  | some r =>
    have hstep := leads_step (step_put_of_some hfind item context rest)
    refine hstep.trans (leads_step ?_)
    rw [Estate.put, hfind]
    dsimp only
    by_cases howns : (s.insert key item context).owns r.handle.serial = true
    · rw [if_pos howns]
      exact step_letGo_of_owns howns _ rest
    · rw [if_neg howns]
      exact step_letGo_of_none howns (hplain r hfind) _ rest

/-- **Storing and letting go end**, after steps that the number of stored values bounds. -/
theorem leads_store_and_letGo :
    (∀ (s : Estate) (key : String) (item : Item) (context : ContextId) (rest : List Task),
      Leads (4 * s.size + 2) ⟨s, .store key item context :: rest⟩
        ⟨s.store key item context, rest⟩)
    ∧ ∀ (s : Estate) (h : Handle Parcel) (cause : Cause) (rest : List Task),
      Leads (4 * s.size + 3) ⟨s, .letGo cause h :: rest⟩ ⟨s.letGo h, rest⟩ := by
  refine Estate.store.mutual_induct
    (fun s key item context => ∀ rest : List Task,
      Leads (4 * s.size + 2) ⟨s, .store key item context :: rest⟩
        ⟨s.store key item context, rest⟩)
    (fun s h => ∀ (cause : Cause) (rest : List Task),
      Leads (4 * s.size + 3) ⟨s, .letGo cause h :: rest⟩ ⟨s.letGo h, rest⟩) ?_ ?_ ?_ ?_ ?_
  · intro s key item context hnone rest
    rw [Estate.store_of_find?_none hnone]
    have hstore := leads_step (step_store_of_none hnone item context rest)
    exact (hstore.trans (leads_put_of_none hnone item context rest)).mono (by omega)
  · intro s key item context r hr ih rest
    rw [Estate.store_of_find?_some hr]
    have hstore := leads_step (step_store_of_some hr item context rest)
    have hletGo := ih .takenOut (.put key item context :: rest)
    obtain ⟨released, hsettles⟩ :=
      Estate.stores_store_and_settles_letGo.2 (s.takeOut key) r.handle
    have hput := leads_put hsettles.parting?_of_find? item context rest
    -- what is taken out makes room for two steps more
    have hsize := Estate.size_takeOut_lt hr
    exact ((hstore.trans hletGo).trans hput).mono (by omega)
  · intro s h howns cause rest
    rw [Estate.letGo_of_owns howns]
    exact (leads_step (step_letGo_of_owns howns cause rest)).mono (by omega)
  · intro s h howns hparting cause rest
    rw [Estate.letGo_of_parting?_none howns hparting]
    exact (leads_step (step_letGo_of_none howns hparting cause rest)).mono (by omega)
  · intro s h howns key n hparting ih cause rest
    rw [Estate.letGo_of_parting?_some howns hparting]
    have hstep := leads_step (step_letGo_of_some howns hparting cause rest)
    exact (hstep.trans (ih rest)).mono (by show 1 + (4 * s.size + 2) ≤ _; omega)

/-- **Every cascade ends**, where the command leads to. -/
theorem leads_begin (s : Estate) (c : Estate.Command) :
    Leads (4 * s.size + 3) (s.begin c) ⟨(s.perform c).1, []⟩ := by
  -- the first four may release something, and look-ups are done at once
  cases c with
  | store key item context =>
    exact (leads_store_and_letGo.1 s key item context []).mono (by omega)
  | remove key =>
    cases hfind : s.registry.find? key with
    | none =>
      rw [Estate.begin, hfind, Estate.perform, Estate.remove_of_find?_none hfind]
      exact Leads.refl _ _
    | some r =>
      rw [Estate.begin, hfind, Estate.perform, Estate.remove_of_find?_some hfind]
      have hsize := Estate.size_takeOut_lt hfind
      exact (leads_store_and_letGo.2 (s.takeOut key) r.handle .takenOut []).mono (by omega)
  | hold key =>
    cases hfind : s.registry.find? key with
    | none =>
      rw [Estate.begin, hfind, Estate.perform, Estate.hold_of_find?_none hfind]
      exact Leads.refl _ _
    | some r =>
      rw [Estate.begin, hfind, Estate.perform, Estate.hold_of_find?_some hfind]
      cases s.held.lookup key with
      | none => exact Leads.refl _ _
      | some old => exact leads_store_and_letGo.2 (s.keeping key r.handle) old .returned []
  | unhold key =>
    cases hheld : s.held.lookup key with
    | none =>
      rw [Estate.begin, hheld, Estate.perform, Estate.unhold_of_lookup_none hheld]
      exact Leads.refl _ _
    | some h =>
      rw [Estate.begin, hheld, Estate.perform, Estate.unhold_of_lookup_some hheld]
      exact leads_store_and_letGo.2 { s with held := s.held.filter fun e => e.1 != key } h
        .returned []
  | get key => exact Leads.refl _ _
  | reference key => exact Leads.refl _ _
  | getAs key type => exact Leads.refl _ _
  | contains key => exact Leads.refl _ _
  | keys => exact Leads.refl _ _
  | size => exact Leads.refl _ _

end Cascade

end TunnelHost
