import TunnelHost.Proofs.HostMotions

/-!
# Who owns a registry

A registry is owned by the bridge that it came with, or by its name if it has one. It is on the
board as long as its owner is there, and there is never more than one.

- `perm_dropNamed`, `dropNamed_of_not_mem`: things by name, with one less.
- `Host.owners`, `Host.Owned`: the registries that have an owner, and that they are those of the
  board.
- `Host.Owned.gain`, `Host.Owned.lose`: an owner more, and one less.
- `Host.Effect.owned`: every deed keeps it so.
-/

namespace TunnelHost

namespace Host

variable {β : Type} {E : Engine β} {h h' : Host E} {name : String}

/-! ## Things by name -/

section Named

variable {α : Type} {items : List (String × α)} {a : α}

theorem dropNamed_of_not_mem (h : name ∉ items.map (·.1)) : dropNamed name items = items := by
  refine List.filter_eq_self.mpr fun e he => ?_
  rw [bne_iff_ne]
  rintro rfl
  exact h (List.mem_map_of_mem he)

theorem not_mem_of_lookup (h : items.lookup name = none) : name ∉ items.map (·.1) := by
  rintro hmem
  obtain ⟨e, he, rfl⟩ := List.mem_map.mp hmem
  simpa using List.lookup_eq_none_iff.mp h e he

/-- Where no name stands twice, one thing is dropped by its name. -/
theorem perm_dropNamed (hnames : (items.map (·.1)).Nodup) (h : items.lookup name = some a) :
    items.Perm ((name, a) :: dropNamed name items) := by
  obtain ⟨before, after, rfl⟩ := List.append_of_mem (mem_of_lookup h)
  rw [List.map_append, List.map_cons, List.perm_middle.nodup_iff, List.nodup_cons,
    List.mem_append, not_or] at hnames
  have hdropped : dropNamed name (before ++ (name, a) :: after) = before ++ after := by
    rw [dropNamed, List.filter_append, List.filter_cons, if_neg (by simp)]
    show dropNamed name before ++ dropNamed name after = _
    rw [dropNamed_of_not_mem hnames.1.1, dropNamed_of_not_mem hnames.1.2]
  rw [hdropped]
  exact List.perm_middle

theorem not_mem_dropNamed (name : String) (items : List (String × α)) :
    name ∉ (dropNamed name items).map (·.1) := by
  simp [dropNamed]

theorem nodup_dropNamed (hnames : (items.map (·.1)).Nodup) (name : String) :
    ((dropNamed name items).map (·.1)).Nodup :=
  hnames.sublist (List.filter_sublist.map _)

theorem nodup_putNamed (hnames : (items.map (·.1)).Nodup) (name : String) (a : α) :
    ((putNamed name a items).map (·.1)).Nodup :=
  List.nodup_cons.mpr ⟨not_mem_dropNamed name items, nodup_dropNamed hnames name⟩

end Named

/-! ## Owners -/

/-- The registries that have an owner: a bridge, or a name of their own. -/
def owners (h : Host E) : List Nat := h.bridges.map (·.2.registry) ++ h.loose.map (·.2)

/-- Every registry of the board has one owner. -/
structure Owned (h : Host E) : Prop where
  bridgeNames : (h.bridges.map (·.1)).Nodup
  looseNames : (h.loose.map (·.1)).Nodup
  once : h.owners.Nodup
  ids : ∀ r, r ∈ h.board.ids ↔ r ∈ h.owners

theorem owned_empty : ({} : Host E).Owned where
  bridgeNames := List.nodup_nil
  looseNames := List.nodup_nil
  once := List.nodup_nil
  ids := fun _ => Iff.rfl

theorem SameLog.owners (hs : SameLog h h') : h'.owners = h.owners := by
  rw [Host.owners, Host.owners, hs.bridges, hs.loose]

/-- Owners depend on the board, the bridges and the names of registries. -/
theorem Owned.sameLog (ho : h.Owned) (hs : SameLog h h') : h'.Owned where
  bridgeNames := hs.bridges ▸ ho.bridgeNames
  looseNames := hs.loose ▸ ho.looseNames
  once := hs.owners ▸ ho.once
  ids := by
    rw [hs.board, hs.owners]
    exact ho.ids

theorem not_mem_owners (ho : h.Owned) (hd : h.board.Distinct) :
    h.board.nextRegistry ∉ h.owners := by
  rw [← ho.ids]
  exact fun hmem => Nat.lt_irrefl _ (hd.fresh _ hmem)

/-- A registry that came into being has got its owner. -/
theorem Owned.gain {r : Nat} (ho : h.Owned) (howners : h'.owners.Perm (r :: h.owners))
    (hr : r ∉ h.owners) (hids : h'.board.ids = h.board.ids ++ [r])
    (hbridges : (h'.bridges.map (·.1)).Nodup) (hloose : (h'.loose.map (·.1)).Nodup) :
    h'.Owned where
  bridgeNames := hbridges
  looseNames := hloose
  once := howners.nodup_iff.mpr (List.nodup_cons.mpr ⟨hr, ho.once⟩)
  ids := by
    intro s
    rw [hids, howners.mem_iff, List.mem_append, List.mem_singleton, List.mem_cons, ho.ids,
      or_comm]

/-- A registry that has lost its owner is gone. -/
theorem Owned.lose {r : Nat} (ho : h.Owned) (howners : h.owners.Perm (r :: h'.owners))
    (hids : h'.board.ids = h.board.ids.filter (· != r))
    (hbridges : (h'.bridges.map (·.1)).Nodup) (hloose : (h'.loose.map (·.1)).Nodup) :
    h'.Owned := by
  obtain ⟨hr, honce⟩ := List.nodup_cons.mp (howners.nodup_iff.mp ho.once)
  refine ⟨hbridges, hloose, honce, fun s => ?_⟩
  rw [hids, List.mem_filter, ho.ids, howners.mem_iff, List.mem_cons, bne_iff_ne]
  constructor
  · rintro ⟨rfl | hs, hne⟩
    · exact absurd rfl hne
    · exact hs
  · intro hs
    refine ⟨.inr hs, ?_⟩
    rintro rfl
    exact hr hs

/-- A bridge takes its registry with it. -/
theorem Owned.forgetBridge (ho : h.Owned) (name : String) : (h.forgetBridge name).1.Owned := by
  rw [Host.forgetBridge]
  cases hb : h.bridges.lookup name with
  | none => exact ho
  | some b =>
    have hperm := perm_dropNamed ho.bridgeNames hb
    have howners : h.owners.Perm (b.registry ::
        ((dropNamed name h.bridges).map (·.2.registry) ++ h.loose.map (·.2))) :=
      (hperm.map (·.2.registry)).append_right _
    exact ho.lose howners (Switchboard.ids_dropRegistry _ _)
      (nodup_dropNamed ho.bridgeNames name) ho.looseNames

/-- A name takes its registry with it. -/
theorem Owned.dropLoose (ho : h.Owned) (name : String) : (h.dropLoose name).1.Owned := by
  rw [Host.dropLoose]
  cases hr : h.loose.lookup name with
  | none => exact ho
  | some r =>
    have hperm := perm_dropNamed ho.looseNames hr
    have howners : h.owners.Perm (r ::
        (h.bridges.map (·.2.registry) ++ (dropNamed name h.loose).map (·.2))) :=
      ((hperm.map (·.2)).append_left _).trans List.perm_middle
    exact ho.lose howners (Switchboard.ids_dropRegistry _ _) ho.bridgeNames
      (nodup_dropNamed ho.looseNames name)

/-- A registry that comes with its name has an owner. -/
theorem Owned.looseFor (ho : h.Owned) (hd : h.board.Distinct) (name : String) :
    (h.looseFor name).2.Owned := by
  rw [Host.looseFor]
  cases hr : h.loose.lookup name with
  | some r => exact ho
  | none =>
    have hput : putNamed name h.board.nextRegistry h.loose
        = (name, h.board.nextRegistry) :: h.loose :=
      congrArg _ (dropNamed_of_not_mem (not_mem_of_lookup hr))
    have howners : (h.bridges.map (·.2.registry)
        ++ (putNamed name h.board.nextRegistry h.loose).map (·.2)).Perm
          (h.board.nextRegistry :: h.owners) := by
      rw [hput]
      exact List.perm_middle
    exact ho.gain howners (not_mem_owners ho hd) (Switchboard.ids_addRegistry _) ho.bridgeNames
      (nodup_putNamed ho.looseNames name _)

/-- A registration changes no owner. -/
theorem Owned.setLog (ho : h.Owned) (r : Nat) (context : ContextId) (engine : Nat) (x : Handler) :
    (h.setLog r context engine x).Owned where
  bridgeNames := ho.bridgeNames
  looseNames := ho.looseNames
  once := ho.once
  ids := by
    have hids : (h.setLog r context engine x).board.ids = h.board.ids :=
      Switchboard.ids_register h.board r context (some engine) x
    rw [hids]
    exact ho.ids

/-- The registry that comes with a bridge is the next one. -/
theorem ids_withRegistry (h : Host E) (engine : Nat) (config : Config) :
    (h.withRegistry engine config).board.ids = h.board.ids ++ [h.board.nextRegistry] :=
  (Switchboard.ids_store h.board.addRegistry.2 _ familyKey _ _).trans
    (Switchboard.ids_addRegistry h.board)

theorem not_mem_forgetBridge (h : Host E) (name : String) :
    name ∉ (h.forgetBridge name).1.bridges.map (·.1) := by
  rw [forgetBridge]
  cases hb : h.bridges.lookup name with
  | none => exact not_mem_of_lookup hb
  | some b => exact not_mem_dropNamed name h.bridges

/-- No registry comes when a bridge is forgotten. -/
theorem ids_forgetBridge_subset (h : Host E) (name : String) :
    (h.forgetBridge name).1.board.ids ⊆ h.board.ids := by
  rw [forgetBridge]
  cases h.bridges.lookup name with
  | none => exact List.Subset.refl _
  | some b =>
    show (h.board.dropRegistry b.registry).ids ⊆ _
    rw [Switchboard.ids_dropRegistry]
    exact List.filter_subset_self _

/-- The bridge that makes way takes its own registry along, not the new one. -/
theorem ids_forgetBridge_withRegistry (ho : h.Owned) (hd : h.board.Distinct) (name : String)
    (engine : Nat) (config : Config) :
    ((h.withRegistry engine config).forgetBridge name).1.board.ids
      = (h.forgetBridge name).1.board.ids ++ [h.board.nextRegistry] := by
  have hbridges : (h.withRegistry engine config).bridges = h.bridges := rfl
  rw [forgetBridge, forgetBridge, hbridges]
  cases hb : h.bridges.lookup name with
  | none => exact ids_withRegistry h engine config
  | some b =>
    have howner : b.registry ∈ h.owners :=
      List.mem_append_left _ (List.mem_map.mpr ⟨(name, b), mem_of_lookup hb, rfl⟩)
    -- the new registry is not the one of the old bridge of that name
    have hne : h.board.nextRegistry ≠ b.registry := fun heq =>
      not_mem_owners ho hd (heq ▸ howner)
    have hkept : [h.board.nextRegistry].filter (· != b.registry) = [h.board.nextRegistry] := by
      simp [hne]
    show ((h.withRegistry engine config).board.dropRegistry b.registry).ids
      = (h.board.dropRegistry b.registry).ids ++ _
    rw [Switchboard.ids_dropRegistry, ids_withRegistry, List.filter_append, hkept,
      Switchboard.ids_dropRegistry]

theorem bridges_forgetBridge_withRegistry (h : Host E) (name : String) (engine : Nat)
    (config : Config) : ((h.withRegistry engine config).forgetBridge name).1.bridges
      = (h.forgetBridge name).1.bridges := by
  have hbridges : (h.withRegistry engine config).bridges = h.bridges := rfl
  rw [forgetBridge, forgetBridge, hbridges]
  cases h.bridges.lookup name <;> rfl

theorem loose_forgetBridge (h : Host E) (name : String) :
    (h.forgetBridge name).1.loose = h.loose := by
  rw [forgetBridge]
  cases h.bridges.lookup name <;> rfl

/-- A new bridge owns the registry that came with it, and the registry of the bridge it replaces is
gone. -/
theorem Owned.withBridge (ho : h.Owned) (hd : h.board.Distinct) (name : String) (engine : Nat)
    (config : Config) : (h.withBridge name engine config).Owned := by
  have hforgotten := ho.forgetBridge name
  have hnew : h.board.nextRegistry ∉ (h.forgetBridge name).1.owners := by
    rw [← hforgotten.ids]
    exact fun hmem => not_mem_owners ho hd ((ho.ids _).mp (ids_forgetBridge_subset h name hmem))
  have hput : (h.withBridge name engine config).bridges
      = (name, ⟨engine, h.board.nextRegistry, ⟨h.nextContext⟩⟩)
          :: (h.forgetBridge name).1.bridges := by
    show putNamed name _ ((h.withRegistry engine config).forgetBridge name).1.bridges = _
    rw [bridges_forgetBridge_withRegistry]
    exact congrArg _ (dropNamed_of_not_mem (not_mem_forgetBridge h name))
  have hloose : (h.withBridge name engine config).loose = (h.forgetBridge name).1.loose :=
    (loose_forgetBridge (h.withRegistry engine config) name).trans (loose_forgetBridge h name).symm
  -- first the loss of the old bridge, then the gain of the new one
  refine hforgotten.gain ?_ hnew (ids_forgetBridge_withRegistry ho hd name engine config) ?_ ?_
  · rw [owners, hput, hloose]
    exact .refl _
  · rw [hput]
    exact List.nodup_cons.mpr ⟨not_mem_forgetBridge h name, hforgotten.bridgeNames⟩
  · rw [hloose]
    exact hforgotten.looseNames

/-- **Every registry has one owner**, whatever is done. -/
theorem Effect.owned {ms : List Motion} (he : Effect h ms h')
    (ho : h.Owned) (hd : h.board.Distinct) : h'.Owned := by
  cases he with
  | nothing hs => exact ho.sameLog hs
  | @contents _ m hm hs =>
    -- contents may change as they like, as long as the registries are the same
    have hids : (h.board.move m).ids = h.board.ids := by
      rcases hm with ⟨r, key, rfl⟩ | ⟨r, key, c, context, other, rfl⟩ | ⟨r, key, c, other, rfl⟩
      · exact Switchboard.ids_remove h.board r key
      · exact Switchboard.ids_store h.board r key c context
      · exact Switchboard.ids_modify h.board r _
    have hmoved : Owned { h with board := h.board.move m } :=
      ⟨ho.bridgeNames, ho.looseNames, ho.once, fun r => hids ▸ ho.ids r⟩
    exact hmoved.sameLog hs
  | lines lines hs =>
    have hids := Switchboard.ids_forwardAll h.board lines
    have hmoved : Owned { h with board := h.board.forwardAll lines } :=
      ⟨ho.bridgeNames, ho.looseNames, ho.once, fun r => hids ▸ ho.ids r⟩
    exact hmoved.sameLog hs
  | registers r context engine x hs => exact (ho.setLog r context engine x).sameLog hs
  | registersNew name engine x hnone hs =>
    exact ((ho.looseFor hd name).setLog _ looseContext engine x).sameLog hs
  | losesBridge name b hb hs => exact (ho.forgetBridge name).sameLog hs
  | losesName name r hr hs => exact (ho.dropLoose name).sameLog hs
  | gainsBridge name engine config hs => exact (ho.withBridge hd name engine config).sameLog hs

end Host

end TunnelHost
