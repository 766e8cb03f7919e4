import TunnelHost.Proofs.HostOwners

/-!
# The family slot of a registry

What stands under the family key of a registry decides which sessions are created by way of its
bridge and which ones the bridge owns. Only what is done under that key bears on it: the log, whose
handlers stand under a key of their own, never does, whatever handlers do from inside their calls.

- `Switchboard.slot`: what stands there, by identity.
- `Motion.Touches`: what is done there.
- `Switchboard.quiet_forwardAll`: deliveries do nothing there.
- `Host.Effect.slot_of_untouched`: a deed that does nothing there leaves the slot as it was, or
  takes the registry away.
- `Host.family_eq_ok_iff_slot`: the family that a bridge offers is what stands in its slot.
-/

namespace TunnelHost

theorem familyKey_ne_handlerKey : familyKey ≠ handlerKey := by decide

namespace Switchboard

variable {b b' b'' : Switchboard} {r : Nat}

/-- What stands under the family key of a registry. -/
def slot (b : Switchboard) (r : Nat) : Option (Handle Content) :=
  (b.held? r familyKey).map (·.handle)

theorem slot_of_not_mem (h : r ∉ b.ids) : b.slot r = none := by
  rw [slot, held?_of_not_mem h]
  rfl

/-- Only what is stored under the family key shows in the slot. -/
theorem slot_put (b : Switchboard) (id : Nat) (key : String) (c : Reference Content) (r : Nat) :
    (b.modify id (·.insert key c)).slot r
      = if id = r ∧ key = familyKey then (b.registry? r).map fun _ => c.handle else b.slot r := by
  rw [slot, held?_put]
  split
  · rw [Option.map_map]
    rfl
  · rfl

/-- Only a removal of the family key empties the slot. -/
theorem slot_remove (b : Switchboard) (id : Nat) (key : String) (r : Nat) :
    (b.remove id key).1.slot r = if id = r ∧ key = familyKey then none else b.slot r := by
  rw [slot, held?_remove]
  split <;> rfl

/-- What is put into the slot of a registry that is there stands there. -/
theorem slot_put_self {c : Reference Content} (hr : r ∈ (b.modify r (·.insert familyKey c)).ids) :
    (b.modify r (·.insert familyKey c)).slot r = some c.handle := by
  rw [ids_modify] at hr
  obtain ⟨registry, hregistry⟩ := mem_ids_iff.mp hr
  rw [slot_put, if_pos ⟨rfl, rfl⟩, hregistry]
  rfl

/-! ## Deliveries -/

/-- No registry comes or goes, and no slot changes. -/
structure Quiet (b b' : Switchboard) : Prop where
  ids : b'.ids = b.ids
  nextRegistry : b'.nextRegistry = b.nextRegistry
  nextSerial : b.nextSerial ≤ b'.nextSerial
  slot : ∀ r, b'.slot r = b.slot r

theorem Quiet.refl (b : Switchboard) : Quiet b b := ⟨rfl, rfl, Nat.le_refl _, fun _ => rfl⟩

theorem Quiet.trans (h : Quiet b b') (h' : Quiet b' b'') : Quiet b b'' where
  ids := h'.ids.trans h.ids
  nextRegistry := h'.nextRegistry.trans h.nextRegistry
  nextSerial := Nat.le_trans h.nextSerial h'.nextSerial
  slot := fun r => (h'.slot r).trans (h.slot r)

/-- A handler is no family, and stands under a key of its own. -/
theorem quiet_register (b : Switchboard) (id : Nat) (context : ContextId) (engine : Option Nat)
    (x : Handler) : Quiet b (b.register id context engine x) := by
  have hids := ids_register b id context engine x
  rw [register, wire_eq] at hids ⊢
  refine ⟨hids, rfl, Nat.le_succ _, fun r => ?_⟩
  have hput := slot_put { b with nextSerial := b.nextSerial + 1 } id handlerKey
    ⟨⟨b.nextSerial, .handler x⟩, context⟩ r
  rw [if_neg fun h => familyKey_ne_handlerKey h.2.symm] at hput
  exact hput

theorem quiet_clear (b : Switchboard) (id : Nat) : Quiet b (b.remove id handlerKey).1 := by
  refine ⟨ids_remove b id handlerKey, nextRegistry_remove b id handlerKey, ?_, fun r => ?_⟩
  · rw [remove]
    split <;> exact Nat.le_refl _
  · rw [slot_remove, if_neg fun h => familyKey_ne_handlerKey h.2.symm]

/-- What a handler spends on a line is quiet. -/
theorem quiet_spend (b : Switchboard) (id : Nat) (label line : String) :
    Quiet b ((b.note label line).spend id) := by
  refine ⟨ids_modify (b.note label line) id _, rfl, Nat.le_refl _, fun r => ?_⟩
  rw [slot, spend, held?_modify_of_kept fun _ registry => ?_]
  · rfl
  · split
    · exact Registry.find?_insert_of_ne familyKey_ne_handlerKey
    · rfl

/-- Whatever handlers do from inside their calls is quiet. -/
theorem quiet_settle (fuel : Nat) (pending : List (Nat × ContextId × Reaction))
    (b : Switchboard) : Quiet b (settle fuel pending b) := by
  fun_induction settle fuel pending b with
  | case1 pending b => exact .refl b
  | case2 fuel b => exact .refl b
  | case3 fuel id context x rest b ih => exact (quiet_register b id context none x).trans ih
  | case4 fuel _ _ x t rest b ih =>
    exact (quiet_register b t.registry t.context (some t.engine) x).trans ih
  | case5 fuel id _ rest b ih => exact (quiet_clear b id).trans ih
  | case6 fuel _ _ line rest b hnone ih => exact ih
  | case7 fuel _ _ line rest b id context x hsome ih =>
    exact (quiet_spend b id x.label line).trans ih

/-- So are lines. -/
theorem quiet_forwardAll (b : Switchboard) (lines : List String) :
    Quiet b (b.forwardAll lines) := by
  induction lines generalizing b with
  | nil => exact .refl b
  | cons line rest ih => exact (quiet_settle _ _ b).trans (ih (b.forward line))

end Switchboard

/-! ## Motions -/

/-- Something is done in the slot of a registry. -/
def Motion.Touches (r : Nat) : Motion → Prop
  | store registry key _ _ _ => registry = r ∧ key = familyKey
  | share registry key _ _ => registry = r ∧ key = familyKey
  | remove registry key => registry = r ∧ key = familyKey
  | _ => False

namespace Switchboard

variable {b : Switchboard} {r : Nat} {m : Motion} {ms : List Motion}

theorem slot_move_drop (b : Switchboard) (r : Nat) : (b.move (.drop r)).slot r = none := by
  rw [move, slot, held?_dropRegistry, if_pos rfl]
  rfl

/-- A motion that neither touches a slot nor drops the registry leaves the slot as it is. -/
theorem slot_move_of_untouched (htouches : ¬ m.Touches r) (hdrop : m ≠ .drop r) :
    (b.move m).slot r = b.slot r := by
  cases m with
  | add => exact congrArg _ (held?_addRegistry b r familyKey)
  | drop id =>
    have hne : r ≠ id := fun heq => hdrop (heq ▸ rfl)
    rw [move, slot, held?_dropRegistry, if_neg hne, slot]
  | store id key c context other =>
    exact (slot_put { b with nextSerial := b.nextSerial + 1 } id key _ r).trans (if_neg htouches)
  | share id key c other => exact (slot_put b id key c r).trans (if_neg htouches)
  | remove id key => exact (slot_remove b id key r).trans (if_neg htouches)
  | register id context engine x => exact (quiet_register b id context engine x).slot r
  | forward line =>
    rw [move]
    split
    · rfl
    · exact (quiet_spend b _ _ line).slot r

/-- No serial number is given away twice. -/
theorem nextSerial_le_move (b : Switchboard) (m : Motion) :
    b.nextSerial ≤ (b.move m).nextSerial := by
  cases m with
  | store id key c context other => exact Nat.le_succ _
  | register id context engine x => exact (quiet_register b id context engine x).nextSerial
  | remove id key =>
    rw [move, remove]
    split <;> exact Nat.le_refl _
  | forward line =>
    rw [move]
    split <;> exact Nat.le_refl _
  | _ => exact Nat.le_refl _

/-! Several motions in a row. -/

/-- The numbers of registries stay distinct through any motions. -/
theorem Distinct.foldl_move (h : b.Distinct) (ms : List Motion) :
    (ms.foldl Switchboard.move b).Distinct := by
  induction ms generalizing b with
  | nil => exact h
  | cons m rest ih => exact ih (h.move m)

theorem nextSerial_le_foldl_move (b : Switchboard) (ms : List Motion) :
    b.nextSerial ≤ (ms.foldl move b).nextSerial := by
  induction ms generalizing b with
  | nil => exact Nat.le_refl _
  | cons m rest ih => exact Nat.le_trans (nextSerial_le_move b m) (ih (b.move m))

theorem nextRegistry_le_foldl_move (b : Switchboard) (ms : List Motion) :
    b.nextRegistry ≤ (ms.foldl move b).nextRegistry := by
  induction ms generalizing b with
  | nil => exact Nat.le_refl _
  | cons m rest ih => exact Nat.le_trans (nextRegistry_le_move b m) (ih (b.move m))

/-- A registry that is gone does not come back. -/
theorem not_mem_ids_foldl_move (hr : r ∉ b.ids) (hold : r < b.nextRegistry) (ms : List Motion) :
    r ∉ (ms.foldl move b).ids := by
  induction ms generalizing b with
  | nil => exact hr
  | cons m rest ih =>
    refine ih (fun hmem => ?_) (Nat.lt_of_lt_of_le hold (nextRegistry_le_move b m))
    rcases mem_ids_or_of_mem_ids_move hmem with hmem | rfl
    · exact hr hmem
    · exact Nat.lt_irrefl _ hold

/-- A registry that is there all the way was not dropped. -/
theorem drop_not_mem (hd : b.Distinct) (hr : r ∈ b.ids) (hr' : r ∈ (ms.foldl move b).ids) :
    Motion.drop r ∉ ms := by
  induction ms generalizing b with
  | nil => exact List.not_mem_nil
  | cons m rest ih =>
    have hnext : r ∈ (b.move m).ids := by
      by_contra hgone
      have hold : r < (b.move m).nextRegistry :=
        Nat.lt_of_lt_of_le (hd.fresh r hr) (nextRegistry_le_move b m)
      exact not_mem_ids_foldl_move hgone hold rest hr'
    intro hdrop
    rcases List.mem_cons.mp hdrop with heq | hdrop
    · exact (mem_ids_move_iff hr m).mp hnext heq.symm
    · exact ih (hd.move m) hnext hr' hdrop

/-- A slot that no motion touches is as it was, as long as the registry is there. -/
theorem slot_foldl_move_of_untouched (h : ∀ m ∈ ms, ¬ m.Touches r) (hdrop : Motion.drop r ∉ ms) :
    (ms.foldl move b).slot r = b.slot r := by
  induction ms generalizing b with
  | nil => rfl
  | cons m rest ih =>
    obtain ⟨hm, hrest⟩ := List.forall_mem_cons.mp h
    rw [List.mem_cons, not_or] at hdrop
    exact (ih hrest hdrop.2).trans (slot_move_of_untouched hm (Ne.symm hdrop.1))

/-- An empty slot that no motion touches stays empty. -/
theorem slot_foldl_move_eq_none (h : ∀ m ∈ ms, ¬ m.Touches r) (hnone : b.slot r = none) :
    (ms.foldl move b).slot r = none := by
  induction ms generalizing b with
  | nil => exact hnone
  | cons m rest ih =>
    obtain ⟨hm, hrest⟩ := List.forall_mem_cons.mp h
    refine ih hrest ?_
    by_cases hdrop : m = .drop r
    · rw [hdrop]
      exact slot_move_drop b r
    · rw [slot_move_of_untouched hm hdrop]
      exact hnone

end Switchboard

/-! ## Deeds -/

namespace Host

variable {β : Type} {E : Engine β} {h h' : Host E} {ms : List Motion} {r : Nat}

/-- The numbers of registries stay distinct whatever a deed does. -/
theorem Effect.distinct (he : Effect h ms h') (hd : h.board.Distinct) :
    h'.board.Distinct := by
  rcases he.silent_or_lines with ⟨-, hboard⟩ | ⟨lines, -, hboard⟩
  · rw [hboard]
    exact hd.foldl_move ms
  · have hquiet := Switchboard.quiet_forwardAll h.board lines
    rw [hboard]
    exact hd.of_ids hquiet.ids hquiet.nextRegistry

/-- Serial numbers only grow. -/
theorem Effect.nextSerial_le (he : Effect h ms h') :
    h.board.nextSerial ≤ h'.board.nextSerial := by
  rcases he.silent_or_lines with ⟨-, hboard⟩ | ⟨lines, -, hboard⟩
  · rw [hboard]
    exact Switchboard.nextSerial_le_foldl_move h.board ms
  · rw [hboard]
    exact (Switchboard.quiet_forwardAll h.board lines).nextSerial

theorem Effect.nextRegistry_le (he : Effect h ms h') :
    h.board.nextRegistry ≤ h'.board.nextRegistry := by
  rcases he.silent_or_lines with ⟨-, hboard⟩ | ⟨lines, -, hboard⟩
  · rw [hboard]
    exact Switchboard.nextRegistry_le_foldl_move h.board ms
  · rw [hboard]
    exact Nat.le_of_eq (Switchboard.quiet_forwardAll h.board lines).nextRegistry.symm

/-- A registry that is there and has an old number was there before. -/
theorem Effect.mem_ids (he : Effect h ms h') (hr : r ∈ h'.board.ids)
    (hold : r < h.board.nextRegistry) : r ∈ h.board.ids := by
  rcases he.silent_or_lines with ⟨-, hboard⟩ | ⟨lines, -, hboard⟩
  · by_contra hgone
    rw [hboard] at hr
    exact Switchboard.not_mem_ids_foldl_move hgone hold ms hr
  · rw [hboard, (Switchboard.quiet_forwardAll h.board lines).ids] at hr
    exact hr

/-- A slot in which nothing is done stays as it was, unless its registry goes. -/
theorem Effect.slot_of_untouched (he : Effect h ms h') (hd : h.board.Distinct)
    (huntouched : ∀ m ∈ ms, ¬ m.Touches r) :
    h'.board.slot r = h.board.slot r ∨ r ∉ h'.board.ids := by
  rcases he.silent_or_lines with ⟨-, hboard⟩ | ⟨lines, -, hboard⟩
  · by_cases hr' : r ∈ h'.board.ids
    · refine .inl ?_
      rw [hboard] at hr' ⊢
      by_cases hr : r ∈ h.board.ids
      · have hdrop := Switchboard.drop_not_mem hd hr hr'
        exact Switchboard.slot_foldl_move_of_untouched huntouched hdrop
      · have hnone := Switchboard.slot_of_not_mem hr
        rw [Switchboard.slot_foldl_move_eq_none huntouched hnone, hnone]
    · exact .inr hr'
  · refine .inl ?_
    rw [hboard]
    exact (Switchboard.quiet_forwardAll h.board lines).slot r

/-- A bridge offers the family that stands in the slot of its registry. -/
theorem family_eq_ok_iff_slot {b : Bridge} {f : Handle SessionFamily} :
    h.family b = .ok f ↔ h.board.slot b.registry = some ⟨f.serial, .family f.value⟩ := by
  rw [family_eq_ok_iff, Offers, registryOf, Switchboard.slot, Switchboard.held?]
  cases h.board.registry? b.registry with
  | none =>
    show (∃ context, (Registry.empty : Registry Content).find? familyKey = _) ↔ none = some _
    refine iff_of_false ?_ (Option.some_ne_none _).symm
    rintro ⟨context, hfind⟩
    cases hfind
  | some registry =>
    show (∃ context, registry.find? familyKey = _) ↔ (registry.find? familyKey).map _ = _
    rw [Option.map_eq_some_iff]
    constructor
    · rintro ⟨context, hfind⟩
      exact ⟨_, hfind, rfl⟩
    · rintro ⟨⟨handle, context⟩, hfind, rfl⟩
      exact ⟨context, hfind⟩

end Host

end TunnelHost
