import TunnelHost.Proofs.LogTarget

/-!
# Everything that a line causes

A line calls a handler, the handler may register another one, take itself out or log lines from
inside its call, and these lines call handlers in turn. `Unfolds` tells what happens by it, one
motion after the other: what a handler does from inside its call comes before everything that was
still to be done when it was called. Deliveries are done with a bound on their length; the bound is
never met, because whatever a handler does it does once.

- `Unfolds`: what happens when some things are to be done, everything that they cause included.
- `Unfolds.unique`: it is determined.
- `Switchboard.Distinct`: registries go by numbers of their own.
- `Switchboard.weight_move_lt`: every reaction leaves less to happen.
- `exists_unfolds_settle`, `exists_unfolds_forwardAll`: to deliver lines is to have everything
  happen that they cause.
-/

namespace TunnelHost

/-- What it is that a handler does from inside its call, by the registry that holds the handler and
its context there. A handler that registers another where it stands itself names no engine: its own
has a sink by then. -/
def Reaction.motion (r : Nat) (context : ContextId) : Reaction → Motion
  | install x none => .register r context none x
  | install x (some t) => .register t.registry t.context (some t.engine) x
  | clear => .remove r handlerKey
  | forward line => .forward line

/-- What is done from inside the call that a motion makes, if it makes one. -/
def Switchboard.sequel (b : Switchboard) : Motion → List Motion
  | .forward _ =>
    match b.receiver? with
    | none => []
    | some (r, context, x) => x.reactions.map (·.motion r context)
  | _ => []

/-- What a history comes to when some things are to be done, first things first. -/
inductive Unfolds : (past pending history : List Motion) → Prop where
  | done {past : List Motion} : Unfolds past [] past
  | next {past rest history : List Motion} {m : Motion} :
      Unfolds (past ++ [m]) ((replay past).sequel m ++ rest) history →
      Unfolds past (m :: rest) history

namespace Unfolds

variable {past pending later middle history other : List Motion}

/-- What it comes to is determined. -/
theorem unique (h : Unfolds past pending history) (h' : Unfolds past pending other) :
    other = history := by
  induction h with
  | done =>
    cases h'
    rfl
  | next _ ih =>
    cases h' with
    | next h' => exact ih h'

/-- What is pending can be unfolded in two parts, one after the other. -/
theorem append (h : Unfolds past pending middle) (h' : Unfolds middle later history) :
    Unfolds past (pending ++ later) history := by
  induction h with
  | done => exact h'
  | next _ ih =>
    refine .next ?_
    have hrest := ih h'
    rwa [List.append_assoc] at hrest

/-- Where no handler is called, nothing comes in between. -/
theorem of_silent (h : ∀ m ∈ pending, m.isForward = false) :
    Unfolds past pending (past ++ pending) := by
  induction pending generalizing past with
  | nil =>
    rw [List.append_nil]
    exact .done
  | cons m rest ih =>
    have hsequel : (replay past).sequel m = [] := by
      cases m with
      | forward line => cases h _ List.mem_cons_self
      | _ => rfl
    have hrest : Unfolds (past ++ [m]) rest (past ++ [m] ++ rest) :=
      ih fun m' hm' => h m' (List.mem_cons_of_mem m hm')
    rw [List.append_assoc, List.singleton_append] at hrest
    refine .next ?_
    rw [hsequel]
    exact hrest

end Unfolds

/-! ## Weights -/

section Weight

variable {b : Switchboard} {r id : Nat} {registry : Registry Content} {key : String}
  {x : Reference Content}

theorem reactionsWeight_append (before after : List Reaction) :
    reactionsWeight (before ++ after) = reactionsWeight before + reactionsWeight after := by
  induction before with
  | nil => exact (Nat.zero_add _).symm
  | cons reaction rest ih =>
    rw [List.cons_append, reactionsWeight, reactionsWeight, ih, Nat.add_assoc]

theorem Handler.weight_eq (x : Handler) : x.weight = 1 + reactionsWeight x.reactions := by
  cases x
  rw [weight, reactions]

/-- A handler that has been called can cause nothing more. -/
theorem Handler.weight_spent (x : Handler) : x.spent.weight = 1 := by
  rw [Handler.weight_eq]
  rfl

/-- How much some entries of a registry can cause to happen. -/
def entriesWeight (entries : List (String × Reference Content)) : Nat :=
  entries.foldr (fun e n => e.2.handle.value.weight + n) 0

theorem entriesWeight_append_singleton (entries : List (String × Reference Content))
    (e : String × Reference Content) :
    entriesWeight (entries ++ [e]) = entriesWeight entries + e.2.handle.value.weight := by
  induction entries with
  | nil => exact Nat.add_comm _ _
  | cons e' rest ih =>
    show _ + entriesWeight (rest ++ [e]) = _ + entriesWeight rest + _
    rw [ih, Nat.add_assoc]

/-- Taking entries away takes weight away, if anything. -/
theorem entriesWeight_filter_le (entries : List (String × Reference Content)) (key : String) :
    entriesWeight (entries.filter fun e => e.1 != key) ≤ entriesWeight entries := by
  induction entries with
  | nil => exact Nat.le_refl _
  | cons e rest ih =>
    rw [List.filter_cons]
    split
    · exact Nat.add_le_add_left ih _
    · exact Nat.le_trans ih (Nat.le_add_left _ _)

/-- What is left out weighs nothing any longer. -/
theorem entriesWeight_filter_add_le {entries : List (String × Reference Content)}
    (h : (key, x) ∈ entries) :
    entriesWeight (entries.filter fun e => e.1 != key) + x.handle.value.weight
      ≤ entriesWeight entries := by
  induction entries with
  | nil => cases h
  | cons e rest ih =>
    rw [List.filter_cons]
    rcases List.mem_cons.mp h with rfl | h
    · rw [if_neg (by simp)]
      have := entriesWeight_filter_le rest key
      show _ ≤ x.handle.value.weight + entriesWeight rest
      omega
    · have := ih h
      split
      · show e.2.handle.value.weight + entriesWeight _ + _
          ≤ e.2.handle.value.weight + entriesWeight rest
        omega
      · show _ ≤ e.2.handle.value.weight + entriesWeight rest
        omega

namespace Switchboard

theorem registryWeight_erase_le (registry : Registry Content) (key : String) :
    registryWeight (registry.erase key) ≤ registryWeight registry :=
  entriesWeight_filter_le registry.entries key

theorem registryWeight_insert (registry : Registry Content) (key : String)
    (x : Reference Content) :
    registryWeight (registry.insert key x)
      = registryWeight (registry.erase key) + x.handle.value.weight :=
  entriesWeight_append_singleton _ _

/-- A registry weighs at least what is taken out of it and what stays. -/
theorem registryWeight_erase_add_le (h : registry.find? key = some x) :
    registryWeight (registry.erase key) + x.handle.value.weight ≤ registryWeight registry :=
  entriesWeight_filter_add_le (Registry.mem_entries_iff.mpr h)

/-- How much the handlers of some registries can cause to happen. -/
def registriesWeight (registries : List (Nat × Registry Content)) : Nat :=
  registries.foldr (fun e n => registryWeight e.2 + n) 0

theorem map_eq_self_of_not_mem {registries : List (Nat × Registry Content)}
    (h : id ∉ registries.map (·.1)) (f : Registry Content → Registry Content) :
    (registries.map fun e => if e.1 = id then (e.1, f e.2) else e) = registries := by
  induction registries with
  | nil => rfl
  | cons e rest ih =>
    rw [List.map_cons, List.mem_cons, not_or] at h
    rw [List.map_cons, if_neg (Ne.symm h.1), ih h.2]

/-- Changing a registry that is not there changes nothing. -/
theorem modify_of_none (h : b.registry? id = none) (f : Registry Content → Registry Content) :
    b.modify id f = b := by
  have hids : id ∉ b.ids := by
    rw [mem_ids_iff, h]
    exact nofun
  rw [modify, map_eq_self_of_not_mem hids]

/-- A change of one registry changes the weight by that of this registry. -/
theorem registriesWeight_map {registries : List (Nat × Registry Content)}
    (hdistinct : (registries.map (·.1)).Nodup) (h : registries.lookup id = some registry)
    (f : Registry Content → Registry Content) :
    registriesWeight (registries.map fun e => if e.1 = id then (e.1, f e.2) else e)
        + registryWeight registry
      = registriesWeight registries + registryWeight (f registry) := by
  induction registries with
  | nil => cases h
  | cons e rest ih =>
    rw [List.map_cons, List.nodup_cons] at hdistinct
    rw [lookup_cons_eq] at h
    rw [List.map_cons]
    show registryWeight _ + registriesWeight _ + _ = registryWeight e.2 + registriesWeight rest + _
    split at h
    next hid =>
      -- the registry is this one, and none of the others
      cases h
      rw [if_pos hid.symm, map_eq_self_of_not_mem (hid ▸ hdistinct.1)]
      show registryWeight (f e.2) + _ + _ = _
      omega
    next hid =>
      have := ih hdistinct.2 h
      rw [if_neg (Ne.symm hid)]
      omega

/-- A change of one registry changes the weight by what it changes that of the registry by. -/
theorem weight_modify (hdistinct : b.Distinct) (h : b.registry? id = some registry)
    (f : Registry Content → Registry Content) :
    (b.modify id f).weight + registryWeight registry = b.weight + registryWeight (f registry) :=
  registriesWeight_map hdistinct.once h f

/-- A handler that is registered adds its own weight at most. -/
theorem weight_register_le (hdistinct : b.Distinct) (id : Nat) (context : ContextId)
    (engine : Option Nat) (x : Handler) :
    (b.register id context engine x).weight ≤ b.weight + x.weight := by
  let issued : Switchboard :=
    { b with nextSerial := b.nextSerial + 1, wired := (b.wire engine).wired }
  let c : Reference Content := ⟨⟨b.nextSerial, .handler x⟩, context⟩
  rw [register, wire_eq]
  show (issued.modify id (·.insert handlerKey c)).weight ≤ _
  cases hregistry : b.registry? id with
  | none =>
    rw [modify_of_none (b := issued) hregistry]
    exact Nat.le_add_right _ _
  | some registry =>
    -- the board pays for the new handler with its weight; what it replaces only lightens the board
    have hmodify := weight_modify (b := issued) ⟨hdistinct.once, hdistinct.fresh⟩ hregistry
      (·.insert handlerKey c)
    have hinsert := registryWeight_insert registry handlerKey c
    have herase := registryWeight_erase_le registry handlerKey
    have hhandler : c.handle.value.weight = x.weight := rfl
    have hissued : issued.weight = b.weight := rfl
    omega

/-- A removal makes a board no heavier. -/
theorem weight_remove_le (hdistinct : b.Distinct) (id : Nat) (key : String) :
    (b.remove id key).1.weight ≤ b.weight := by
  rw [remove]
  cases hregistry : b.registry? id with
  | none => exact Nat.le_refl _
  | some registry =>
    have hmodify := weight_modify hdistinct hregistry (·.erase key)
    have herase := registryWeight_erase_le registry key
    show (b.modify id (·.erase key)).weight ≤ _
    omega

/-- A handler that has had its first call weighs less by what it has done then. -/
theorem weight_spend_add_le (hdistinct : b.Distinct) {context : ContextId} {x : Handler}
    (h : b.receiver? = some (id, context, x)) :
    (b.spend id).weight + reactionsWeight x.reactions ≤ b.weight := by
  obtain ⟨-, serial, hposted⟩ := receiver?_eq_some_iff.mp h
  obtain ⟨registry, hregistry, hfind⟩ := Option.bind_eq_some_iff.mp hposted
  let c : Reference Content := ⟨⟨serial, .handler x.spent⟩, context⟩
  -- a spent handler weighs one, so the weight of its reactions is set free
  have hspend : (b.spend id).weight + registryWeight registry = b.weight + registryWeight _ :=
    weight_modify hdistinct hregistry _
  rw [hfind] at hspend
  have hmodify : (b.spend id).weight + registryWeight registry
      = b.weight + registryWeight (registry.insert handlerKey c) := hspend
  have hinsert := registryWeight_insert registry handlerKey c
  have herase := registryWeight_erase_add_le hfind
  have hspent : c.handle.value.weight = 1 := Handler.weight_spent x
  have hhandler : (Content.handler x).weight = 1 + reactionsWeight x.reactions :=
    Handler.weight_eq x
  change _ + (Content.handler x).weight ≤ _ at herase
  omega

end Switchboard

end Weight

/-! ## Deliveries -/

/-- What is due in a delivery, as a motion. -/
def dueMotion (t : Nat × ContextId × Reaction) : Motion := t.2.2.motion t.1 t.2.1

/-- How much what is due can cause to happen. -/
def dueWeight (pending : List (Nat × ContextId × Reaction)) : Nat :=
  reactionsWeight (pending.map (·.2.2))

namespace Switchboard

variable {b : Switchboard}

/-- What becomes due by a reaction. -/
def caused (b : Switchboard) : Reaction → List (Nat × ContextId × Reaction)
  | .forward _ =>
    match b.receiver? with
    | none => []
    | some (r, context, x) => x.reactions.map (r, context, ·)
  | _ => []

/-- What follows a reaction is what it makes due. -/
theorem sequel_motion (b : Switchboard) (r : Nat) (context : ContextId) (reaction : Reaction) :
    b.sequel (reaction.motion r context) = (b.caused reaction).map dueMotion := by
  cases reaction with
  | install x target => cases target <;> rfl
  | clear => rfl
  | forward line =>
    rw [Reaction.motion, sequel, caused]
    cases b.receiver? with
    | none => rfl
    | some receiver =>
      obtain ⟨id, context', x⟩ := receiver
      show _ = (x.reactions.map (id, context', ·)).map dueMotion
      rw [List.map_map]
      rfl

/-- A delivery does what is due first, and what that causes before the rest. -/
theorem settle_succ_cons (fuel : Nat) (r : Nat) (context : ContextId) (reaction : Reaction)
    (rest : List (Nat × ContextId × Reaction)) (b : Switchboard) :
    settle (fuel + 1) ((r, context, reaction) :: rest) b
      = settle fuel (b.caused reaction ++ rest) (b.move (reaction.motion r context)) := by
  cases reaction with
  | install x target => cases target <;> rfl
  | clear => rfl
  | forward line =>
    rw [settle, Reaction.motion, move, caused]
    cases b.receiver? with
    | none => rfl
    | some receiver => rfl

/-- **Every reaction leaves less to happen**, with what it causes. -/
theorem weight_move_lt (hdistinct : b.Distinct) (r : Nat) (context : ContextId)
    (reaction : Reaction) :
    dueWeight (b.caused reaction) + (b.move (reaction.motion r context)).weight
      < reaction.weight + b.weight := by
  cases reaction with
  | install x target =>
    rw [Reaction.weight]
    cases target with
    | none =>
      have hregister := weight_register_le hdistinct r context none x
      show 0 + (b.register r context none x).weight < _
      omega
    | some t =>
      have hregister := weight_register_le hdistinct t.registry t.context (some t.engine) x
      show 0 + (b.register t.registry t.context (some t.engine) x).weight < _
      omega
  | clear =>
    have hremove := weight_remove_le hdistinct r handlerKey
    rw [Reaction.weight]
    show 0 + (b.remove r handlerKey).1.weight < _
    omega
  | forward line =>
    rw [Reaction.weight, Reaction.motion, move, caused]
    cases hreceiver : b.receiver? with
    | none => exact Nat.add_lt_add_right Nat.zero_lt_one _
    | some receiver =>
      obtain ⟨id, context', x⟩ := receiver
      have hcaused :
          dueWeight (x.reactions.map (id, context', ·)) = reactionsWeight x.reactions := by
        rw [dueWeight, List.map_map]
        exact congrArg reactionsWeight (List.map_id _)
      -- the call takes its own weight off the board, and puts it on what is due
      have hspend := weight_spend_add_le (b := b.note x.label line)
        ⟨hdistinct.once, hdistinct.fresh⟩ hreceiver
      have hnote : (b.note x.label line).weight = b.weight := rfl
      show dueWeight (x.reactions.map (id, context', ·))
        + ((b.note x.label line).spend id).weight < _
      omega

end Switchboard

/-- **Everything happens that is due and that it causes**: the bound on the length of it is not met,
because it is larger than all that can happen. -/
theorem exists_unfolds_settle (fuel : Nat) (pending : List (Nat × ContextId × Reaction))
    (past : List Motion) (hfuel : dueWeight pending + (replay past).weight < fuel) :
    ∃ history, Unfolds past (pending.map dueMotion) history
      ∧ Switchboard.settle fuel pending (replay past) = replay history := by
  induction fuel generalizing pending past with
  | zero => cases hfuel
  | succ fuel ih =>
    cases pending with
    | nil => exact ⟨past, .done, rfl⟩
    | cons t rest =>
      obtain ⟨r, context, reaction⟩ := t
      -- what is due and what stands on the board weigh less after the motion, so the fuel is enough
      have hless := Switchboard.weight_move_lt (distinct_replay past) r context reaction
      have hcons : dueWeight ((r, context, reaction) :: rest) = reaction.weight + dueWeight rest :=
        rfl
      have happend : dueWeight ((replay past).caused reaction ++ rest)
          = dueWeight ((replay past).caused reaction) + dueWeight rest := by
        rw [dueWeight, List.map_append, reactionsWeight_append]
        rfl
      rw [Switchboard.settle_succ_cons, ← replay_append_singleton]
      rw [← replay_append_singleton] at hless
      obtain ⟨history, hunfolds, hsettle⟩ := ih ((replay past).caused reaction ++ rest)
        (past ++ [reaction.motion r context]) (by omega)
      rw [List.map_append, ← Switchboard.sequel_motion] at hunfolds
      exact ⟨history, .next hunfolds, hsettle⟩

/-- To deliver a line is to have everything happen that it causes. -/
theorem exists_unfolds_forward (past : List Motion) (line : String) :
    ∃ history, Unfolds past [.forward line] history
      ∧ (replay past).forward line = replay history := by
  refine exists_unfolds_settle _ [(0, ⟨0⟩, .forward line)] past ?_
  show (1 + 0) + (replay past).weight < (replay past).weight + 2
  omega

/-- Lines are delivered one after the other, each with everything that it causes. -/
theorem exists_unfolds_forwardAll (past : List Motion) (lines : List String) :
    ∃ history, Unfolds past (lines.map .forward) history
      ∧ (replay past).forwardAll lines = replay history := by
  induction lines generalizing past with
  | nil => exact ⟨past, .done, rfl⟩
  | cons line rest ih =>
    obtain ⟨middle, hline, hforward⟩ := exists_unfolds_forward past line
    obtain ⟨history, hrest, hforwardAll⟩ := ih middle
    refine ⟨history, hline.append hrest, ?_⟩
    rw [Switchboard.forwardAll, List.foldl_cons, hforward]
    exact hforwardAll

end TunnelHost
