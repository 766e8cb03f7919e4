import TunnelHost.Proofs.FamilyAnnals

/-!
# Who owns a session

A bridge owns the sessions that were created from the very family that stands in the slot of its
registry now. A family is told from all others by its serial number, which nothing else ever gets,
whatever engine or configuration it shares with others. So a bridge whose slot nobody has written to
owns the sessions that were created by way of it, and no other.

- `Annals.Sound`, `sound_annals`: what holds of the record after any dealings.
- `Annals.Sound.owns_iff`: who owns a session.
- `slot_ne_stored`: a family that is gone from a slot stays away until it is written there again.
- `Ownership`, `ownership`: the law.
-/

namespace TunnelHost

variable {β : Type} {E : Engine β}

namespace Annals

variable {a : Annals E} {d : Dealing β} {b : Bridge} {s : Session E} {x : Birth}

/-- What holds of the record, whatever has been done. -/
structure Sound (a : Annals E) : Prop where
  owned : a.host.Owned
  distinct : a.host.board.Distinct
  once : (a.families.map (·.serial)).Nodup
  made : ∀ f ∈ a.families, f.serial < a.host.board.nextSerial
  known : ∀ r f, a.host.board.slot r = some (Handle.stored f) → f ∈ a.families
  ids : a.ids = List.range' 1 a.ids.length
  nextSession : a.host.nextSession = 1 + a.ids.length
  birthIds : a.births.map (·.id) = a.ids
  contexts : a.contexts.map (·.number) = List.range' 1 a.contexts.length
  nextContext : a.host.nextContext = 1 + a.contexts.length
  foundingContexts : a.foundings.map (·.context) = a.contexts
  sessions : a.host.All fun mark => ∃ x ∈ a.births, x.mark = mark
  bridges : ∀ b, a.host.HasBridge b → ∃ g ∈ a.foundings, g.bridge = b
  founded : ∀ g ∈ a.foundings, g.bridge.context = g.context
    ∧ g.bridge.registry < a.host.board.nextRegistry ∧ g.family ∈ a.families
  apart : (a.foundings.map (·.family.serial)).Nodup
  born : ∀ x ∈ a.births, x.family ∈ a.families
    ∧ ∃ g ∈ a.foundings, g.bridge = x.bridge
      ∧ (g.bridge.registry ∉ a.written → x.family = g.family)
  kept : ∀ g ∈ a.foundings, g.bridge.registry ∉ a.written →
    g.bridge.registry ∈ a.host.board.ids →
    a.host.board.slot g.bridge.registry = some g.family.stored

/-- All of it holds before anything has been done. -/
theorem sound_empty : Sound ({} : Annals E) where
  owned := Host.owned_empty
  distinct := ⟨List.nodup_nil, nofun⟩
  once := List.nodup_nil
  made := nofun
  known := nofun
  ids := rfl
  nextSession := rfl
  birthIds := rfl
  contexts := rfl
  nextContext := rfl
  foundingContexts := rfl
  sessions := ⟨nofun, nofun⟩
  bridges := fun _ ⟨_, hb⟩ => nomatch hb
  founded := nofun
  apart := List.nodup_nil
  born := nofun
  kept := nofun

/-! ## Families -/

/-- Where numbers differ, one is in the list only once. -/
theorem eq_of_serial {f g : Handle SessionFamily} (ha : a.Sound) (hf : f ∈ a.families)
    (hg : g ∈ a.families) (heq : f.serial = g.serial) : f = g :=
  List.inj_on_of_nodup_map ha.once hf hg heq

/-- At most one family comes into being at a time. Its serial number is the next one of the board,
which is given away by that. -/
theorem newFamilies_cases (ho : a.host.Owned) (hd : a.host.board.Distinct) (d : Dealing β) :
    a.newFamilies d = [] ∨ ∃ f, a.newFamilies d = [f] ∧ f.serial = a.host.board.nextSerial
      ∧ a.host.board.nextSerial < (a.dealt d).board.nextSerial := by
  cases d with
  | putBack registry key n context => exact .inl rfl
  | deed d =>
    cases d with
    | register registry context engine x => exact .inl rfl
    | remove registry key => exact .inl rfl
    | store registry key content context other =>
      cases content with
      | family f => exact .inr ⟨_, rfl, rfl, Nat.lt_succ_self _⟩
      | _ => exact .inl rfl
    | step s =>
      have hfounded := (Host.advances_step ho hd s).founded
      show List.map _ (a.host.foundings s) = [] ∨ ∃ f, List.map _ (a.host.foundings s) = [f] ∧ _
      rcases Host.foundings_cases ho hd s with hnone | ⟨g, hone⟩
      · rw [hnone]
        exact .inl rfl
      · have hg := hfounded g (by rw [Host.news, hone]; exact List.mem_cons_self)
        rw [hone]
        exact .inr ⟨_, rfl, hg.serial, hg.nextSerial⟩

/-- The family of a new bridge is a new family. -/
theorem family_mem_newFamilies {g : Founding} (hg : g ∈ (a.news d).foundings) :
    g.family ∈ a.newFamilies d := by
  cases d with
  | putBack registry key n context => cases hg
  | deed d =>
    cases d with
    | step s => exact List.mem_map_of_mem hg
    | _ => cases hg

/-- What a bridge offers has come into being. -/
theorem Sound.offered (ha : a.Sound) {f : Handle SessionFamily} (hf : a.host.family b = .ok f) :
    f ∈ a.families :=
  ha.known b.registry f (Host.family_eq_ok_iff_slot.mp hf)

/-- A family that is written into a slot has come into being, at the latest by that. -/
theorem Sound.written (ha : a.Sound) {r : Nat} {f : Handle SessionFamily}
    (hw : a.writing d = some (r, some f.stored)) : f ∈ a.families ++ a.newFamilies d := by
  cases d with
  | putBack registry key n context =>
    obtain ⟨f', hf', hw⟩ := Option.bind_eq_some_iff.mp hw
    obtain ⟨-, -, heq⟩ := slotWriting_eq_some_iff.mp hw
    -- what is put back was a family before
    rw [← Handle.stored_injective (Option.some.inj heq)]
    exact List.mem_append_left _ (List.mem_of_getElem? hf')
  | deed d =>
    cases d with
    | register registry context engine x => cases hw
    | remove registry key =>
      obtain ⟨-, -, heq⟩ := slotWriting_eq_some_iff.mp hw
      cases heq
    | store registry key content context other =>
      obtain ⟨-, -, heq⟩ := slotWriting_eq_some_iff.mp hw
      rw [Option.some.injEq, Handle.stored, Handle.mk.injEq] at heq
      obtain ⟨hserial, rfl⟩ := heq
      -- a family that is stored for the first time is a new one
      rw [newFamilies, hserial]
      exact List.mem_append_right _ List.mem_cons_self
    | step s =>
      cases s with
      | removeKey bridge key =>
        obtain ⟨b, -, hw⟩ := Option.bind_eq_some_iff.mp hw
        obtain ⟨-, -, heq⟩ := slotWriting_eq_some_iff.mp hw
        cases heq
      | storeWord bridge key =>
        obtain ⟨b, -, hw⟩ := Option.bind_eq_some_iff.mp hw
        obtain ⟨-, -, heq⟩ := slotWriting_eq_some_iff.mp hw
        cases congrArg Handle.value (Option.some.inj heq)
      | adopt bridge other =>
        obtain ⟨b, -, hw⟩ := Option.bind_eq_some_iff.mp hw
        obtain ⟨⟨o, f'⟩, horigin, hw⟩ := Option.bind_eq_some_iff.mp hw
        obtain ⟨-, -, heq⟩ := slotWriting_eq_some_iff.mp hw
        rw [← Handle.stored_injective (Option.some.inj heq)]
        exact List.mem_append_left _ (ha.offered (Host.origin_eq_some_iff.mp horigin).2)
      | _ => cases hw

/-- Families have numbers of their own. -/
theorem Sound.once_next (ha : a.Sound) (d : Dealing β) :
    ((a.next d).families.map (·.serial)).Nodup := by
  rw [next, List.map_append]
  rcases newFamilies_cases ha.owned ha.distinct d with hnone | ⟨f, hone, hserial, -⟩
  · rw [hnone, List.map_nil, List.append_nil]
    exact ha.once
  · rw [hone, List.nodup_append]
    refine ⟨ha.once, List.nodup_singleton _, ?_⟩
    rintro n hn _ hf rfl
    obtain ⟨g, hg, rfl⟩ := List.mem_map.mp hn
    have heq : g.serial = f.serial := List.mem_singleton.mp hf
    exact absurd (ha.made g hg) (by rw [heq, hserial]; exact Nat.lt_irrefl _)

/-- The serial numbers of all families have been given away after a dealing too, so none comes into
being with the number of another. -/
theorem Sound.made_next (ha : a.Sound) (d : Dealing β) :
    ∀ f ∈ (a.next d).families, f.serial < (a.dealt d).board.nextSerial := by
  obtain ⟨ms, heffect, -⟩ := exists_effect ha.owned ha.distinct d
  intro f hf
  rcases List.mem_append.mp hf with hf | hf
  · exact Nat.lt_of_lt_of_le (ha.made f hf) heffect.nextSerial_le
  · rcases newFamilies_cases ha.owned ha.distinct d with hnone | ⟨f', hone, hserial, hlt⟩
    · rw [hnone] at hf
      cases hf
    · rw [hone] at hf
      rw [List.mem_singleton.mp hf, hserial]
      exact hlt

/-- What stands in slots has come into being. -/
theorem Sound.known_next (ha : a.Sound) (d : Dealing β) (r : Nat) (f : Handle SessionFamily)
    (hslot : (a.dealt d).board.slot r = some f.stored) : f ∈ (a.next d).families := by
  have hfate := fate ha.owned ha.distinct d r
  rw [hslot] at hfate
  generalize hstored : some f.stored = stored at hfate
  cases hfate with
  | written hw _ =>
    subst hstored
    exact ha.written hw
  | founded hg _ =>
    rw [Handle.stored_injective (Option.some.inj hstored)]
    exact List.mem_append_right _ (family_mem_newFamilies hg)
  | gone => cases hstored
  | kept _ => exact List.mem_append_left _ (ha.known r f hstored.symm)

/-! ## Bridges and sessions -/

/-- A dealing writes to one slot at most, and to none of a registry without an owner. -/
theorem mem_written_next {r : Nat} : r ∈ (a.next d).written ↔ r ∈ a.written
    ∨ (∃ w, a.writing d = some (r, w)) ∧ r ∈ (a.dealt d).board.ids := by
  rw [next, List.mem_append, List.mem_filter, List.mem_map, List.contains_iff_mem]
  simp only [Option.mem_toList, Prod.exists, exists_and_right, exists_eq_right]

/-- A bridge whose slot nobody has written to holds the family that it came with. -/
theorem Sound.kept_next (ha : a.Sound) (d : Dealing β) {g : Founding}
    (hg : g ∈ (a.next d).foundings) (hunwritten : g.bridge.registry ∉ (a.next d).written)
    (hids : g.bridge.registry ∈ (a.dealt d).board.ids) :
    (a.dealt d).board.slot g.bridge.registry = some g.family.stored := by
  have hadvances := advances_dealt ha.owned ha.distinct d
  rcases List.mem_append.mp hg with hold | hnew
  · have hlt := (ha.founded g hold).2.1
    have hfate := fate ha.owned ha.distinct d g.bridge.registry
    -- an old registry: of the four fates only keeping is left
    generalize (a.dealt d).board.slot g.bridge.registry = stored at hfate
    rw [mem_written_next, not_or] at hunwritten
    cases hfate with
    | written hw hr => exact absurd ⟨⟨_, hw⟩, hr⟩ hunwritten.2
    | founded hg' heq =>
      rw [← heq, (hadvances.founded _ hg').registry] at hlt
      exact absurd hlt (Nat.lt_irrefl _)
    | gone hr => exact absurd hids hr
    | kept _ =>
      obtain ⟨ms, heffect, -⟩ := exists_effect ha.owned ha.distinct d
      exact ha.kept g hold hunwritten.1 (heffect.mem_ids hids hlt)
  · exact (hadvances.founded g hnew).holds

/-- The registry of a bridge that is there is on the board. -/
theorem Sound.mem_ids (ha : a.Sound) (hb : a.host.HasBridge b) : b.registry ∈ a.host.board.ids := by
  obtain ⟨name, hb⟩ := hb
  rw [ha.owned.ids]
  exact List.mem_append_left _ (List.mem_map_of_mem (f := fun e => e.2.registry) hb)

/-- A session that comes into being is created from the family of its bridge, as long as nobody has
written to the slot of the bridge. -/
theorem Sound.born_next (ha : a.Sound) (d : Dealing β) :
    ∀ x ∈ (a.next d).births, x.family ∈ (a.next d).families
      ∧ ∃ g ∈ (a.next d).foundings, g.bridge = x.bridge
        ∧ (g.bridge.registry ∉ (a.next d).written → x.family = g.family) := by
  intro x hx
  rcases List.mem_append.mp hx with hold | hnew
  · obtain ⟨hfamily, g, hg, hbridge, huntouched⟩ := ha.born x hold
    refine ⟨List.mem_append_left _ hfamily, g, List.mem_append_left _ hg, hbridge, fun hw => ?_⟩
    exact huntouched fun hmem => hw (List.mem_append_left _ hmem)
  · obtain ⟨hb, hoffer⟩ := (advances_dealt ha.owned ha.distinct d).offered x hnew
    obtain ⟨g, hg, hbridge⟩ := ha.bridges x.bridge hb
    refine ⟨List.mem_append_left _ (ha.offered hoffer), g, List.mem_append_left _ hg, hbridge,
      fun hw => ?_⟩
    have hkept := ha.kept g hg (fun hmem => hw (List.mem_append_left _ hmem))
      (hbridge ▸ ha.mem_ids hb)
    rw [hbridge, Host.family_eq_ok_iff_slot.mp hoffer] at hkept
    exact Handle.stored_injective (Option.some.inj hkept)

/-- At most one bridge is founded at a time. -/
theorem news_foundings_cases (ho : a.host.Owned) (hd : a.host.board.Distinct) (d : Dealing β) :
    (a.news d).foundings = [] ∨ ∃ g, (a.news d).foundings = [g] := by
  cases d with
  | putBack registry key n context => exact .inl rfl
  | deed d =>
    cases d with
    | step s => exact Host.foundings_cases ho hd s
    | _ => exact .inl rfl

/-- No two bridges are founded with the same family. -/
theorem Sound.apart_next (ha : a.Sound) (d : Dealing β) :
    ((a.next d).foundings.map (·.family.serial)).Nodup := by
  have hadvances := advances_dealt ha.owned ha.distinct d
  have hone : ((a.news d).foundings.map (·.family.serial)).Nodup := by
    rcases news_foundings_cases ha.owned ha.distinct d with hnone | ⟨g, hone⟩
    · rw [hnone]
      exact List.nodup_nil
    · rw [hone]
      exact List.nodup_singleton _
  rw [next, News.append, List.map_append, List.nodup_append]
  refine ⟨ha.apart, hone, ?_⟩
  rintro n hn _ hg' rfl
  obtain ⟨g, hg, rfl⟩ := List.mem_map.mp hn
  obtain ⟨g', hg', heq⟩ := List.mem_map.mp hg'
  have hmade := ha.made _ (ha.founded g hg).2.2
  rw [← heq, (hadvances.founded g' hg').serial] at hmade
  exact Nat.lt_irrefl _ hmade

/-- Numbers that go on from others. -/
theorem numbers_append {old new : List Nat} {n : Nat} (hold : old = List.range' 1 old.length)
    (hn : n = 1 + old.length) (hnew : new = List.range' n new.length) :
    old ++ new = List.range' 1 (old ++ new).length := by
  rw [List.length_append, ← List.range'_append_1, ← hn, ← hold, ← hnew]

/-- Contexts are numbered in the order in which they come into being. -/
theorem Sound.contexts_next (ha : a.Sound) (d : Dealing β) :
    (a.next d).contexts.map (·.number) = List.range' 1 (a.next d).contexts.length := by
  have hold := ha.contexts
  have hnew := (advances_dealt ha.owned ha.distinct d).contexts
  have hnext := ha.nextContext
  rw [← List.length_map (f := ContextId.number)] at hold hnew hnext ⊢
  rw [Annals.next, News.append, List.map_append]
  exact numbers_append hold hnext hnew

/-- Every bridge that stands was founded. -/
theorem Sound.bridges_next (ha : a.Sound) (d : Dealing β) (b : Bridge)
    (hb : (a.dealt d).HasBridge b) : ∃ g ∈ (a.next d).foundings, g.bridge = b := by
  rcases (advances_dealt ha.owned ha.distinct d).bridges b hb with hold | ⟨g, hg, hbridge⟩
  · obtain ⟨g, hg, hbridge⟩ := ha.bridges b hold
    exact ⟨g, List.mem_append_left _ hg, hbridge⟩
  · exact ⟨g, List.mem_append_right _ hg, hbridge⟩

/-- What is known of a bridge that was founded stays so: its context, its registry and its family.
-/
theorem Sound.founded_next (ha : a.Sound) (d : Dealing β) :
    ∀ g ∈ (a.next d).foundings, g.bridge.context = g.context
      ∧ g.bridge.registry < (a.dealt d).board.nextRegistry ∧ g.family ∈ (a.next d).families := by
  obtain ⟨ms, heffect, -⟩ := exists_effect ha.owned ha.distinct d
  intro g hg
  rcases List.mem_append.mp hg with hold | hnew
  · obtain ⟨hcontext, hlt, hfamily⟩ := ha.founded g hold
    exact ⟨hcontext, Nat.lt_of_lt_of_le hlt heffect.nextRegistry_le,
      List.mem_append_left _ hfamily⟩
  · have hfounded := (advances_dealt ha.owned ha.distinct d).founded g hnew
    refine ⟨hfounded.context, ?_, List.mem_append_right _ (family_mem_newFamilies hnew)⟩
    rw [hfounded.registry]
    exact hfounded.nextRegistry

/-- Every session that lives was born. -/
theorem Sound.sessions_next (ha : a.Sound) (d : Dealing β) :
    (a.dealt d).All fun mark => ∃ x ∈ (a.next d).births, x.mark = mark := by
  refine (advances_dealt ha.owned ha.distinct d).all _ (ha.sessions.imp ?_) fun x hx => ?_
  · rintro mark ⟨x, hx, hmark⟩
    exact ⟨x, List.mem_append_left _ hx, hmark⟩
  · exact ⟨x, List.mem_append_right _ hx, rfl⟩

/-- **Whatever is done, the record stays sound.** -/
theorem Sound.next (ha : a.Sound) (d : Dealing β) : (a.next d).Sound := by
  have hadvances := advances_dealt ha.owned ha.distinct d
  obtain ⟨ms, heffect, -⟩ := exists_effect ha.owned ha.distinct d
  exact {
    owned := heffect.owned ha.owned ha.distinct
    distinct := heffect.distinct ha.distinct
    once := ha.once_next d
    made := ha.made_next d
    known := ha.known_next d
    ids := numbers_append ha.ids ha.nextSession hadvances.ids
    nextSession := by
      rw [Annals.next, hadvances.nextSession, ha.nextSession, Nat.add_assoc, ← List.length_append]
      rfl
    birthIds := by
      rw [Annals.next, News.append, List.map_append, ha.birthIds, hadvances.births]
    contexts := ha.contexts_next d
    nextContext := by
      rw [Annals.next, hadvances.nextContext, ha.nextContext, Nat.add_assoc, ← List.length_append]
      rfl
    foundingContexts := by
      rw [Annals.next, News.append, List.map_append, ha.foundingContexts, hadvances.foundings]
    sessions := ha.sessions_next d
    bridges := ha.bridges_next d
    founded := ha.founded_next d
    apart := ha.apart_next d
    born := ha.born_next d
    kept := fun g hg hw hids => ha.kept_next d hg hw hids }

/-! ## Ownership -/

/-- The identifier of a session tells its birth. -/
theorem Sound.birth_unique (ha : a.Sound) {y : Birth} (hx : x ∈ a.births) (hy : y ∈ a.births)
    (heq : y.id = x.id) : y = x := by
  have hids : (a.births.map (·.id)).Nodup := by
    rw [ha.birthIds, ha.ids]
    exact List.nodup_range'
  exact List.inj_on_of_nodup_map hids hy hx heq

/-- A session that is there has the family that it was created from. -/
theorem Sound.family_of_live (ha : a.Sound) (hs : a.host.Live s) (hx : x ∈ a.births)
    (hid : x.id = s.id) : s.family = x.family := by
  obtain ⟨y, hy, hmark⟩ := ha.sessions.of_live hs
  obtain ⟨hyid, hyfamily⟩ := Prod.mk.inj hmark
  rw [← ha.birth_unique hx hy (hyid.trans hid.symm), ← hyfamily]

/-- A bridge owns a session iff what it offers is the very family of the session. -/
theorem Sound.owns_iff (ha : a.Sound) (hs : a.host.Live s) :
    a.host.owns b s = true ↔ a.host.family b = .ok s.family := by
  obtain ⟨x, hx, hmark⟩ := ha.sessions.of_live hs
  obtain ⟨-, hfamily⟩ := Prod.mk.inj hmark
  rw [Host.owns]
  cases hoffer : a.host.family b with
  | error e => exact iff_of_false nofun nofun
  | ok f =>
    rw [beq_iff_eq, Except.ok.injEq]
    constructor
    · have hsf : s.family ∈ a.families := hfamily ▸ (ha.born x hx).1
      exact eq_of_serial ha (ha.offered hoffer) hsf
    · rintro rfl
      rfl

/-- A bridge whose slot nobody has written to offers the family that it came with. -/
theorem Sound.family_of_unwritten (ha : a.Sound) (hb : a.host.HasBridge b)
    (hw : b.registry ∉ a.written) :
    ∃ g ∈ a.foundings, g.bridge = b ∧ a.host.family b = .ok g.family := by
  obtain ⟨g, hg, rfl⟩ := ha.bridges b hb
  exact ⟨g, hg, rfl, Host.family_eq_ok_iff_slot.mpr (ha.kept g hg hw (ha.mem_ids hb))⟩

/-- Bridges have families of their own. -/
theorem Sound.founding_unique (ha : a.Sound) {g g' : Founding} (hg : g ∈ a.foundings)
    (hg' : g' ∈ a.foundings) (heq : g.family = g'.family) : g = g' :=
  List.inj_on_of_nodup_map ha.apart hg hg' (congrArg Handle.serial heq)

/-- No bridge is founded twice. -/
theorem Sound.founding_unique_of_bridge (ha : a.Sound) {g g' : Founding} (hg : g ∈ a.foundings)
    (hg' : g' ∈ a.foundings) (heq : g.bridge = g'.bridge) : g = g' := by
  have hcontexts : (a.foundings.map (·.context)).Nodup := by
    refine List.Nodup.of_map ContextId.number ?_
    rw [ha.foundingContexts, ha.contexts]
    exact List.nodup_range'
  refine List.inj_on_of_nodup_map hcontexts hg hg' ?_
  rw [← (ha.founded g hg).1, ← (ha.founded g' hg').1, heq]

/-- No family stands in two slots that nobody has written to. -/
theorem Sound.eq_of_owns (ha : a.Sound) {b' : Bridge} (hs : a.host.Live s)
    (hb : a.host.HasBridge b) (hw : b.registry ∉ a.written) (howns : a.host.owns b s = true)
    (hb' : a.host.HasBridge b') (hw' : b'.registry ∉ a.written)
    (howns' : a.host.owns b' s = true) : b = b' := by
  obtain ⟨g, hg, rfl, hoffer⟩ := ha.family_of_unwritten hb hw
  obtain ⟨g', hg', rfl, hoffer'⟩ := ha.family_of_unwritten hb' hw'
  rw [ha.owns_iff hs, hoffer, Except.ok.injEq] at howns
  rw [ha.owns_iff hs, hoffer', Except.ok.injEq] at howns'
  rw [ha.founding_unique hg hg' (howns.trans howns'.symm)]

/-- As long as nobody writes to their slots, bridges own what was created by way of them. -/
theorem Sound.owns_iff_born (ha : a.Sound) (hs : a.host.Live s) (hx : x ∈ a.births)
    (hid : x.id = s.id) (hb : a.host.HasBridge b) (hw : b.registry ∉ a.written)
    (hw' : x.bridge.registry ∉ a.written) : a.host.owns b s = true ↔ x.bridge = b := by
  obtain ⟨g, hg, rfl, hoffer⟩ := ha.family_of_unwritten hb hw
  obtain ⟨-, g', hg', hbridge, hfamily⟩ := ha.born x hx
  have hborn := hfamily (hbridge ▸ hw')
  rw [ha.owns_iff hs, hoffer, Except.ok.injEq, ha.family_of_live hs hx hid, hborn, ← hbridge]
  constructor
  · exact fun heq => congrArg Founding.bridge (ha.founding_unique hg' hg heq.symm)
  · exact fun heq => congrArg Founding.family (ha.founding_unique_of_bridge hg hg' heq.symm)

/-- Where a family does not stand, and where another dealing does not put it, it does not stand
afterwards. -/
theorem Sound.slot_ne_next (ha : a.Sound) {f : Handle SessionFamily} {r : Nat}
    (hf : f ∈ a.families) (hw : a.writing d ≠ some (r, some f.stored))
    (hslot : a.host.board.slot r ≠ some f.stored ∨ ∃ w, a.writing d = some (r, w)) :
    (a.dealt d).board.slot r ≠ some f.stored := by
  intro heq
  have hfate := fate ha.owned ha.distinct d r
  rw [heq] at hfate
  generalize hstored : some f.stored = stored at hfate
  cases hfate with
  | written hwriting _ => exact hw (hstored ▸ hwriting)
  | founded hg _ =>
    -- a new bridge has a new family
    have hserial := ((advances_dealt ha.owned ha.distinct d).founded _ hg).serial
    rw [← Handle.stored_injective (Option.some.inj hstored)] at hserial
    exact absurd (ha.made f hf) (by rw [hserial]; exact Nat.lt_irrefl _)
  | gone => cases hstored
  | kept hunwritten =>
    rcases hslot with hslot | ⟨w, hwriting⟩
    · exact hslot hstored.symm
    · exact hunwritten w hwriting

end Annals

/-! ## Runs -/

/-- The record of any dealings is sound. -/
theorem sound_annals (E : Engine β) (ds : List (Dealing β)) : (annals E ds).Sound := by
  induction ds using List.reverseRecOn with
  | nil => exact Annals.sound_empty
  | append_singleton ds d ih =>
    rw [annals_append_singleton]
    exact ih.next d

/-- What has come into being stays in the record. -/
theorem annals_append (before later : List (Dealing β)) :
    (annals E before).families ⊆ (annals E (before ++ later)).families
      ∧ (annals E before).births ⊆ (annals E (before ++ later)).births := by
  induction later using List.reverseRecOn with
  | nil =>
    rw [List.append_nil]
    exact ⟨List.Subset.refl _, List.Subset.refl _⟩
  | append_singleton later d ih =>
    rw [← List.append_assoc, annals_append_singleton]
    exact ⟨fun f hf => List.mem_append_left _ (ih.1 hf),
      fun x hx => List.mem_append_left _ (ih.2 hx)⟩

/-- A family that was taken out of a slot does not stand there again until it is written there. -/
theorem slot_ne_stored {before later : List (Dealing β)} {d : Dealing β} {r : Nat}
    {w : Option (Handle Content)} {f : Handle SessionFamily} (hf : f ∈ (annals E before).families)
    (hw : (annals E before).writing d = some (r, w)) (hne : w ≠ some f.stored)
    (hlater : ∀ more e rest, later = more ++ e :: rest →
      (annals E (before ++ d :: more)).writing e ≠ some (r, some f.stored)) :
    (annals E (before ++ d :: later)).host.board.slot r ≠ some f.stored := by
  induction later using List.reverseRecOn with
  | nil =>
    rw [annals_append_singleton]
    refine (sound_annals E before).slot_ne_next hf ?_ (.inr ⟨w, hw⟩)
    rw [hw]
    exact fun heq => hne (Prod.mk.inj (Option.some.inj heq)).2
  | append_singleton later e ih =>
    -- what is written later does not put the class back either
    have hpast := ih fun more e' rest hsplit =>
      hlater more e' (rest ++ [e]) (by rw [hsplit, List.append_assoc, List.cons_append])
    rw [← List.cons_append, ← List.append_assoc, annals_append_singleton]
    exact (sound_annals E _).slot_ne_next ((annals_append before _).1 hf)
      (hlater later e [] rfl) (.inl hpast)

/-- Who owns which session after some dealings, and which numbers have been given out. -/
structure Ownership (E : Engine β) (ds : List (Dealing β)) : Prop where
  /-- Families, equal ones too, are told apart by their serial numbers. -/
  identity : ((annals E ds).families.map (·.serial)).Nodup
  /-- A session is created from the family that its bridge offers at that moment. -/
  offered : ∀ before d later, ds = before ++ d :: later →
    ∀ x ∈ ((annals E before).news d).births, x ∈ (annals E ds).births
      ∧ (annals E before).host.HasBridge x.bridge
      ∧ (annals E before).host.family x.bridge = .ok x.family
  /-- A session that is there has come into being once, and has the family that it was created
  from. -/
  created : ∀ s, (annals E ds).host.Live s → ∃ x ∈ (annals E ds).births, x.id = s.id
    ∧ x.family = s.family ∧ s.family ∈ (annals E ds).families
    ∧ ∀ y ∈ (annals E ds).births, y.id = s.id → y = x
  /-- A bridge owns a session iff the family that it offers now is the very one of the session. -/
  owns_iff : ∀ b s, (annals E ds).host.HasBridge b → (annals E ds).host.Live s →
    ((annals E ds).host.owns b s = true ↔ (annals E ds).host.family b = .ok s.family)
  /-- As long as nobody writes to slots, a bridge owns what was created by way of it. -/
  unwritten : ∀ b s x, (annals E ds).host.HasBridge b → (annals E ds).host.Live s →
    x ∈ (annals E ds).births → x.id = s.id → b.registry ∉ (annals E ds).written →
    x.bridge.registry ∉ (annals E ds).written →
    ((annals E ds).host.owns b s = true ↔ x.bridge = b)
  /-- As long as nobody writes to the slots of two bridges, they have no session in common. -/
  apart : ∀ b b' s, (annals E ds).host.HasBridge b → (annals E ds).host.HasBridge b' →
    (annals E ds).host.Live s → b.registry ∉ (annals E ds).written →
    b'.registry ∉ (annals E ds).written → (annals E ds).host.owns b s = true →
    (annals E ds).host.owns b' s = true → b = b'
  /-- A bridge whose slot was emptied, or given to something else, does not own the sessions that
  were created before, until their family is written there again. -/
  lost : ∀ before d later b s x w, ds = before ++ d :: later → x ∈ (annals E before).births →
    (annals E before).writing d = some (b.registry, w) → w ≠ some x.family.stored →
    (∀ more e rest, later = more ++ e :: rest →
      (annals E (before ++ d :: more)).writing e ≠ some (b.registry, some x.family.stored)) →
    (annals E ds).host.Live s → x.id = s.id → (annals E ds).host.owns b s = false
  /-- Once their family is written there again, it owns them. -/
  regained : ∀ before d b s x, ds = before ++ [d] → x ∈ (annals E before).births →
    (annals E before).writing d = some (b.registry, some x.family.stored) →
    (annals E ds).host.HasBridge b → (annals E ds).host.Live s → x.id = s.id →
    (annals E ds).host.owns b s = true
  /-- The ids that were told of count from one, and failures take none. -/
  ids : (annals E ds).ids = List.range' 1 (annals E ds).ids.length
    ∧ (annals E ds).births.map (·.id) = (annals E ds).ids
  /-- So do contexts. -/
  contexts : (annals E ds).contexts.map (·.number) = List.range' 1 (annals E ds).contexts.length
    ∧ (annals E ds).foundings.map (·.context) = (annals E ds).contexts
  /-- A bridge that is there has been founded, with its context. -/
  founded : ∀ b, (annals E ds).host.HasBridge b →
    ∃ g ∈ (annals E ds).foundings, g.bridge = b ∧ b.context = g.context

/-- **Who owns a session**, and which numbers are given out, whatever is done. -/
theorem ownership (E : Engine β) (ds : List (Dealing β)) : Ownership E ds := by
  have hsound := sound_annals E ds
  refine {
    identity := hsound.once
    offered := ?offered
    created := ?created
    owns_iff := fun b s _ hs => hsound.owns_iff hs
    unwritten := fun b s x hb hs hx hid hw hw' => hsound.owns_iff_born hs hx hid hb hw hw'
    apart := fun b b' s hb hb' hs hw hw' howns howns' =>
      hsound.eq_of_owns hs hb hw howns hb' hw' howns'
    lost := ?lost
    regained := ?regained
    ids := ⟨hsound.ids, hsound.birthIds⟩
    contexts := ⟨hsound.contexts, hsound.foundingContexts⟩
    founded := ?founded }
  case offered =>
    rintro before d later rfl x hx
    have hbefore := sound_annals E before
    refine ⟨?_, (Annals.advances_dealt hbefore.owned hbefore.distinct d).offered x hx⟩
    -- what was created then was offered then, and stays on record
    rw [List.append_cons]
    refine (annals_append (before ++ [d]) later).2 ?_
    rw [annals_append_singleton]
    exact List.mem_append_right _ hx
  case created =>
    intro s hs
    obtain ⟨x, hx, hmark⟩ := hsound.sessions.of_live hs
    obtain ⟨hid, hfamily⟩ := Prod.mk.inj hmark
    refine ⟨x, hx, hid, hfamily, hfamily ▸ (hsound.born x hx).1, fun y hy hyid => ?_⟩
    exact hsound.birth_unique hx hy (hyid.trans hid.symm)
  case lost =>
    rintro before d later b s x w rfl hx hw hne hlater hs hid
    have hfamily : x.family ∈ (annals E before).families := ((sound_annals E before).born x hx).1
    -- the slot holds something else from the writing on, and the family comes back by no other way
    have hslot := slot_ne_stored hfamily hw hne hlater
    rw [Bool.eq_false_iff, ne_eq, hsound.owns_iff hs,
      hsound.family_of_live hs ((annals_append before _).2 hx) hid]
    exact fun hoffer => hslot (Host.family_eq_ok_iff_slot.mp hoffer)
  case regained =>
    rintro before d b s x rfl hx hw hb hs hid
    have hids := hsound.mem_ids hb
    rw [hsound.owns_iff hs, hsound.family_of_live hs ((annals_append before _).2 hx) hid,
      Host.family_eq_ok_iff_slot]
    -- the last dealing wrote the family into the slot, which still stands
    rw [annals_append_singleton] at hids ⊢
    exact Annals.slot_dealt_of_writing hw hids
  case founded =>
    intro b hb
    obtain ⟨g, hg, rfl⟩ := hsound.bridges b hb
    exact ⟨g, hg, rfl, (hsound.founded g hg).1⟩

end TunnelHost
