import TunnelHost.Proofs.Newcomers

/-!
# Annals of session families

Everything that a program may do that bears on families, and the record of it: the families that
have come into being, the bridges and sessions, and the registries whose family slot somebody wrote
to. Besides all deeds, a program may put a family that it has kept a handle of into a registry
again, at any later time and under any key.

- `Dealing`, `Annals`, `annals`: what is done, and the record of what has been done.
- `Annals.writing`: what a dealing writes into a slot.
- `Annals.Fate`, `Annals.fate`: what becomes of a slot.
- `Annals.advances_dealt`: what comes into being, with which numbers.
-/

namespace TunnelHost

/-- What a program may do: a deed, or putting the `n`-th of all families that have come into being
into a registry. -/
inductive Dealing (β : Type) where
  | deed (d : Deed β)
  | putBack (registry : Nat) (key : String) (n : Nat) (context : ContextId)

/-- A family as it stands in a slot. -/
def Handle.stored (f : Handle SessionFamily) : Handle Content := ⟨f.serial, .family f.value⟩

/-- Two families that look the same in a slot are the same. -/
theorem Handle.stored_injective : Function.Injective Handle.stored := by
  rintro ⟨serial, value⟩ ⟨serial', value'⟩ heq
  cases heq
  rfl

variable {β : Type} {E : Engine β}

/-- What it is to put something under a key of a registry, or to empty it, as far as slots go. -/
def slotWriting (r : Nat) (key : String) (w : Option (Handle Content)) :
    Option (Nat × Option (Handle Content)) :=
  if key = familyKey then some (r, w) else none

theorem slotWriting_eq_some_iff {r r' : Nat} {key : String} {w w' : Option (Handle Content)} :
    slotWriting r key w = some (r', w') ↔ key = familyKey ∧ r = r' ∧ w = w' := by
  rw [slotWriting, Option.ite_none_right_eq_some, Option.some.injEq, Prod.mk.injEq]

theorem slotWriting_eq_some {r r' : Nat} {key : String} (h : r = r' ∧ key = familyKey)
    (w : Option (Handle Content)) : slotWriting r key w = some (r', w) :=
  slotWriting_eq_some_iff.mpr ⟨h.2, h.1, rfl⟩

/-- What a deed writes into the slot of a registry: something, or nothing if it empties the slot. A
new bridge, whose slot is new too, is none of this. -/
def Host.writing (h : Host E) : Deed β → Option (Nat × Option (Handle Content))
  | .step (.removeKey bridge key) =>
    (h.bridges.lookup bridge).bind fun b => slotWriting b.registry key none
  | .step (.storeWord bridge key) =>
    (h.bridges.lookup bridge).bind fun b =>
      slotWriting b.registry key (some ⟨h.board.nextSerial, .word 0⟩)
  | .step (.adopt bridge other) =>
    (h.bridges.lookup bridge).bind fun b =>
      (h.origin other).bind fun o => slotWriting b.registry familyKey (some o.2.stored)
  | .store r key content _ _ => slotWriting r key (some ⟨h.board.nextSerial, content⟩)
  | .remove r key => slotWriting r key none
  | _ => none

/-- A host with the record of what has been done: all families and whatever else has come into
being, and the registries whose slots have been written to. -/
structure Annals {β : Type} (E : Engine β) extends News where
  host : Host E := {}
  families : List (Handle SessionFamily) := []
  written : List Nat := []

namespace Annals

variable {a : Annals E} {d : Dealing β} {r : Nat}

/-- The host after a dealing. -/
def dealt (a : Annals E) : Dealing β → Host E
  | .deed d => a.host.perform d
  | .putBack r key n context =>
    match a.families[n]? with
    | none => a.host
    | some f => { a.host with board := a.host.board.share r key ⟨f.stored, context⟩ }

/-- What a dealing writes into the slot of a registry. -/
def writing (a : Annals E) : Dealing β → Option (Nat × Option (Handle Content))
  | .deed d => a.host.writing d
  | .putBack r key n _ =>
    a.families[n]?.bind fun f => slotWriting r key (some f.stored)

/-- What a dealing brings into being. -/
def news (a : Annals E) : Dealing β → News
  | .deed (.step s) => a.host.news s
  | _ => {}

/-- The families that a dealing brings into being: that of a new bridge, or one that is stored for
the first time, under whatever key. -/
def newFamilies (a : Annals E) : Dealing β → List (Handle SessionFamily)
  | .deed (.step s) => (a.host.foundings s).map (·.family)
  | .deed (.store _ _ (.family f) _ _) => [⟨a.host.board.nextSerial, f⟩]
  | _ => []

/-- The record with a dealing more. -/
def next (a : Annals E) (d : Dealing β) : Annals E where
  toNews := a.toNews.append (a.news d)
  host := a.dealt d
  families := a.families ++ a.newFamilies d
  written := a.written ++ ((a.writing d).toList.map (·.1)).filter ((a.dealt d).board.ids.contains ·)

end Annals

/-- The record of several dealings. -/
def annals (E : Engine β) (ds : List (Dealing β)) : Annals E := ds.foldl Annals.next {}

theorem annals_append_singleton (ds : List (Dealing β)) (d : Dealing β) :
    annals E (ds ++ [d]) = (annals E ds).next d := List.foldl_append

/-! ## What becomes of slots -/

namespace Host

variable {h : Host E} {d : Deed β} {r : Nat} {w : Option (Handle Content)}

/-- What is written stands in the slot. -/
theorem slot_perform_of_writing (hw : h.writing d = some (r, w))
    (hr : r ∈ (h.perform d).board.ids) : (h.perform d).board.slot r = w := by
  cases d with
  | register registry context engine x => cases hw
  | store registry key content context other =>
    obtain ⟨rfl, rfl, rfl⟩ := slotWriting_eq_some_iff.mp hw
    exact Switchboard.slot_put_self hr
  | remove registry key =>
    obtain ⟨rfl, rfl, rfl⟩ := slotWriting_eq_some_iff.mp hw
    exact (Switchboard.slot_remove _ _ _ _).trans (if_pos ⟨rfl, rfl⟩)
  | step s =>
    cases s with
    | removeKey bridge key =>
      obtain ⟨b, hb, hw⟩ := Option.bind_eq_some_iff.mp hw
      obtain ⟨rfl, rfl, rfl⟩ := slotWriting_eq_some_iff.mp hw
      rw [perform, step, act, withNamed, hb]
      exact (Switchboard.slot_remove _ _ _ _).trans (if_pos ⟨rfl, rfl⟩)
    | storeWord bridge key =>
      obtain ⟨b, hb, hw⟩ := Option.bind_eq_some_iff.mp hw
      obtain ⟨rfl, rfl, rfl⟩ := slotWriting_eq_some_iff.mp hw
      rw [perform, step, act, withNamed, hb] at hr ⊢
      exact Switchboard.slot_put_self hr
    | adopt bridge other =>
      obtain ⟨b, hb, hw⟩ := Option.bind_eq_some_iff.mp hw
      obtain ⟨⟨o, f⟩, horigin, hw⟩ := Option.bind_eq_some_iff.mp hw
      obtain ⟨-, rfl, rfl⟩ := slotWriting_eq_some_iff.mp hw
      obtain ⟨ho, hf⟩ := origin_eq_some_iff.mp horigin
      have hregistry : registryOf { h with clock := h.clock + 1 } o = h.registryOf o := rfl
      rw [perform, step, act, withNamed, hb] at hr ⊢
      dsimp only at hr ⊢
      rw [withNamed, ho] at hr ⊢
      dsimp only at hr ⊢
      rw [hregistry, ← family_eq_getAs, hf] at hr ⊢
      exact Switchboard.slot_put_self hr
    -- no other step writes into a slot
    | _ => cases hw

/-- The lines of a request touch no slot. -/
theorem untouched_lines {s : Session E} {request : Request β} {m : Motion}
    (hm : m ∈ h.lines s request) : ¬ m.Touches r := by
  rw [lines] at hm
  split at hm
  · obtain ⟨e, -, rfl⟩ := List.mem_map.mp hm
    exact id
  · cases hm

/-- Registering a handler in a registry of its own touches no slot. -/
theorem untouched_looseOrders {name : String} {engine : Nat} {x : Handler} {m : Motion}
    (hm : m ∈ h.looseOrders name engine x) : ¬ m.Touches r := by
  rw [looseOrders] at hm
  split at hm
  · rw [List.mem_singleton.mp hm]
    exact id
  · rcases List.mem_cons.mp hm with rfl | hm
    · exact id
    · rw [List.mem_singleton.mp hm]
      exact id

/-- What a new bridge asks for is done in the slot of its own registry. -/
theorem eq_nextRegistry_of_touches {name : String} {engine : Nat} {config : Config} {m : Motion}
    (hm : m ∈ h.bridgeOrders name engine config) (ht : m.Touches r) :
    h.board.nextRegistry = r := by
  rw [bridgeOrders] at hm
  rcases List.mem_cons.mp hm with rfl | hm
  · exact ht.elim
  rcases List.mem_cons.mp hm with rfl | hm
  · exact ht.1
  · obtain ⟨b, -, rfl⟩ := List.mem_map.mp hm
    exact ht.elim

/-- Whatever is done in a slot is a writing, or it comes with a new bridge. -/
theorem writing_or_founding_of_touches {m : Motion} (ho : h.Owned) (hd : h.board.Distinct)
    (hm : m ∈ h.asks d) (ht : m.Touches r) :
    (∃ w, h.writing d = some (r, w))
      ∨ ∃ s, d = .step s ∧ ∃ g ∈ h.foundings s, g.bridge.registry = r := by
  cases d with
  | register registry context engine x =>
    rw [List.mem_singleton.mp hm] at ht
    exact ht.elim
  | store registry key content context other =>
    rw [List.mem_singleton.mp hm] at ht
    exact .inl ⟨_, slotWriting_eq_some ht _⟩
  | remove registry key =>
    rw [List.mem_singleton.mp hm] at ht
    exact .inl ⟨_, slotWriting_eq_some ht _⟩
  | step s =>
    cases s with
    | addBridge name engine config =>
      refine .inr ⟨_, rfl, ?_⟩
      rcases news_of_addBridge ho hd name engine config with
        ⟨e, hvalidate, -, -⟩ | ⟨g, hvalidate, hnews, hadvances⟩
      · rw [asks, orders, hvalidate] at hm
        cases hm
      · rw [show h.foundings _ = [g] from congrArg News.foundings hnews]
        rw [asks, orders, hvalidate] at hm
        refine ⟨g, List.mem_cons_self, ?_⟩
        rw [(hadvances.founded g List.mem_cons_self).registry]
        exact eq_nextRegistry_of_touches hm ht
    | removeKey bridge key =>
      obtain ⟨b, hb, hm⟩ := List.mem_flatMap.mp hm
      rw [List.mem_singleton.mp hm] at ht
      have hwriting := slotWriting_eq_some ht none
      exact .inl ⟨_, Option.bind_eq_some_iff.mpr ⟨b, Option.mem_toList.mp hb, hwriting⟩⟩
    | storeWord bridge key =>
      obtain ⟨b, hb, hm⟩ := List.mem_flatMap.mp hm
      rw [List.mem_singleton.mp hm] at ht
      have hwriting := slotWriting_eq_some ht (some ⟨h.board.nextSerial, .word 0⟩)
      exact .inl ⟨_, Option.bind_eq_some_iff.mpr ⟨b, Option.mem_toList.mp hb, hwriting⟩⟩
    | adopt bridge other =>
      obtain ⟨b, hb, hm⟩ := List.mem_flatMap.mp hm
      obtain ⟨o, hother, hm⟩ := List.mem_flatMap.mp hm
      rw [← family_eq_getAs] at hm
      cases hfamily : h.family o with
      | error e =>
        rw [hfamily] at hm
        cases hm
      | ok f =>
        rw [hfamily] at hm
        rw [List.mem_singleton.mp hm] at ht
        have horigin : h.origin other = some (o, f) :=
          origin_eq_some_iff.mpr ⟨Option.mem_toList.mp hother, hfamily⟩
        refine .inl ⟨some f.stored,
          Option.bind_eq_some_iff.mpr ⟨b, Option.mem_toList.mp hb, ?_⟩⟩
        exact Option.bind_eq_some_iff.mpr ⟨_, horigin, slotWriting_eq_some ht _⟩
    | call name request =>
      obtain ⟨s, -, hm⟩ := List.mem_flatMap.mp hm
      exact absurd ht (untouched_lines hm)
    | callPeer name request source =>
      obtain ⟨p, -, hm⟩ := List.mem_flatMap.mp hm
      exact absurd ht (untouched_lines hm)
    | setLog bridge loose x =>
      rw [asks, orders] at hm
      split at hm
      · cases hm
      · split at hm
        · rw [List.mem_singleton.mp hm] at ht
          exact ht.elim
        · exact absurd ht (untouched_looseOrders hm)
    | clearLog place =>
      -- a handler is not kept where a family is
      cases place with
      | bridge name =>
        obtain ⟨b, -, hm⟩ := List.mem_flatMap.mp hm
        rw [List.mem_singleton.mp hm] at ht
        exact absurd ht.2.symm familyKey_ne_handlerKey
      | loose name =>
        obtain ⟨id, -, hm⟩ := List.mem_flatMap.mp hm
        rw [List.mem_singleton.mp hm] at ht
        exact absurd ht.2.symm familyKey_ne_handlerKey
    | dropBridge name =>
      obtain ⟨b, -, rfl⟩ := List.mem_map.mp hm
      exact ht.elim
    | dropLoose name =>
      obtain ⟨id, -, rfl⟩ := List.mem_map.mp hm
      exact ht.elim
    | forward line =>
      rw [List.mem_singleton.mp hm] at ht
      exact ht.elim
    | _ => cases hm

end Host

namespace Annals

variable {a : Annals E} {d : Dealing β} {r : Nat} {w : Option (Handle Content)}

/-- What becomes of the slot of a registry. -/
inductive Fate (a : Annals E) (d : Dealing β) (r : Nat) : Option (Handle Content) → Prop where
  | written {w : Option (Handle Content)} : a.writing d = some (r, w) →
      r ∈ (a.dealt d).board.ids → Fate a d r w
  | founded {g : Founding} : g ∈ (a.news d).foundings → g.bridge.registry = r →
      Fate a d r (some g.family.stored)
  | gone : r ∉ (a.dealt d).board.ids → Fate a d r none
  | kept : (∀ w, a.writing d ≠ some (r, w)) → Fate a d r (a.host.board.slot r)

/-- A slot that is written to holds what was written, if its registry still has an owner. -/
theorem slot_dealt_of_writing (hw : a.writing d = some (r, w))
    (hr : r ∈ (a.dealt d).board.ids) : (a.dealt d).board.slot r = w := by
  cases d with
  | deed d => exact Host.slot_perform_of_writing hw hr
  | putBack registry key n context =>
    obtain ⟨f, hf, hw⟩ := Option.bind_eq_some_iff.mp hw
    obtain ⟨rfl, rfl, rfl⟩ := slotWriting_eq_some_iff.mp hw
    rw [dealt, hf] at hr ⊢
    exact Switchboard.slot_put_self hr

/-- What comes into being, with which numbers. -/
theorem advances_dealt (ho : a.host.Owned) (hd : a.host.board.Distinct) (d : Dealing β) :
    Host.Advances a.host (a.dealt d) (a.news d) := by
  cases d with
  | deed d =>
    cases d with
    | step s => exact Host.advances_step ho hd s
    | register registry context engine x =>
      have htracks : Host.Tracks a.host (a.host.setLog registry context engine x) :=
        Host.tracks_of_same rfl rfl rfl rfl rfl
      exact htracks.advances
    | store registry key content context other =>
      exact (Host.tracks_withBoard a.host _).advances
    | remove registry key => exact (Host.tracks_withBoard a.host _).advances
  | putBack registry key n context =>
    rw [dealt]
    cases a.families[n]? with
    | none => exact (Host.Tracks.refl a.host).advances
    | some f => exact (Host.tracks_withBoard a.host _).advances

/-- Whatever is done in a slot is a writing, or it comes with a new bridge. -/
theorem exists_effect (ho : a.host.Owned) (hd : a.host.board.Distinct) (d : Dealing β) :
    ∃ ms, Host.Effect a.host ms (a.dealt d) ∧ ∀ m ∈ ms, ∀ r, m.Touches r →
      (∃ w, a.writing d = some (r, w)) ∨ ∃ g ∈ (a.news d).foundings, g.bridge.registry = r := by
  cases d with
  | deed d =>
    refine ⟨_, Host.effect_perform a.host d, fun m hm r ht => ?_⟩
    rcases Host.writing_or_founding_of_touches ho hd hm ht with hwriting | ⟨s, rfl, hfounding⟩
    · exact .inl hwriting
    · exact .inr hfounding
  | putBack registry key n context =>
    rw [dealt, writing]
    cases a.families[n]? with
    | none => exact ⟨_, .nothing (.refl _), nofun⟩
    | some f =>
      refine ⟨_, .contents (m := .share registry key ⟨f.stored, context⟩ rfl)
        (.inr (.inr ⟨_, _, _, _, rfl⟩)) (.refl _), fun m hm r ht => ?_⟩
      rw [List.mem_singleton.mp hm] at ht
      exact .inl ⟨_, slotWriting_eq_some ht _⟩

/-- **What becomes of a slot**: it is written to, it comes with a new bridge, it goes with its
registry, or it stays as it was. -/
theorem fate (ho : a.host.Owned) (hd : a.host.board.Distinct) (d : Dealing β) (r : Nat) :
    a.Fate d r ((a.dealt d).board.slot r) := by
  -- the registry may be gone; else it is new, written to by this dealing, or kept
  by_cases hids : r ∈ (a.dealt d).board.ids
  swap
  · rw [Switchboard.slot_of_not_mem hids]
    exact .gone hids
  by_cases hfounding : ∃ g ∈ (a.news d).foundings, g.bridge.registry = r
  · obtain ⟨g, hg, rfl⟩ := hfounding
    rw [((advances_dealt ho hd d).founded g hg).holds]
    exact .founded hg rfl
  obtain ⟨ms, heffect, htouches⟩ := exists_effect ho hd d
  by_cases hwriting : ∃ w, a.writing d = some (r, w)
  · obtain ⟨w, hw⟩ := hwriting
    rw [slot_dealt_of_writing hw hids]
    exact .written hw hids
  · have huntouched : ∀ m ∈ ms, ¬ m.Touches r := fun m hm ht =>
      (htouches m hm r ht).elim hwriting hfounding
    rw [(heffect.slot_of_untouched hd huntouched).resolve_right (not_not_intro hids)]
    exact .kept (not_exists.mp hwriting)

end Annals

end TunnelHost
