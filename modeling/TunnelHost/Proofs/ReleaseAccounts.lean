import TunnelHost.Proofs.EstateLookup

/-!
# Accounts of owners and releases

A value that was ever stored has an owner, or has been released once, or is being let go of: it has
lost an owner and nothing has come of that yet. The registry owns what stands in it, and a held copy
owns what it is a copy of.

- `Estate.released`: the values that have been released, first to last.
- `Estate.owns_takeOut_or`, `Estate.owns_insert_iff`: what gains and loses owners.
- `Estate.Accounts`: every value ever stored is owned, or released once, or about to be.
- `Estate.Accounts.takeOut` and its kin: one lemma for each thing that is done to an estate.
-/

namespace TunnelHost

namespace Estate

variable {s : Estate} {key : String} {r : Reference Parcel} {n : Nat}

/-- The values that have been released, first to last. -/
def released (s : Estate) : List Nat := s.departures.map (·.handle.serial)

/-- A value has an owner if it stands in the registry or a copy of it is held. -/
theorem owns_eq_true_iff :
    s.owns n = true
      ↔ (∃ key r, s.registry.find? key = some r ∧ r.handle.serial = n)
        ∨ ∃ e ∈ s.held, e.2.serial = n := by
  rw [owns, Bool.or_eq_true, List.any_eq_true, List.any_eq_true]
  refine or_congr ?_ ?_
  · constructor
    · rintro ⟨⟨key, r⟩, hmem, hserial⟩
      exact ⟨key, r, Registry.mem_entries_iff.mp hmem, beq_iff_eq.mp hserial⟩
    · rintro ⟨key, r, hfind, rfl⟩
      exact ⟨(key, r), Registry.mem_entries_iff.mpr hfind, beq_self_eq_true _⟩
  · simp only [beq_iff_eq]

theorem owns_of_find?_some (hfind : s.registry.find? key = some r) :
    s.owns r.handle.serial = true :=
  owns_eq_true_iff.mpr (.inl ⟨key, r, hfind, rfl⟩)

/-- Taking something out gives no value an owner. -/
theorem owns_of_owns_takeOut (h : (s.takeOut key).owns n = true) : s.owns n = true := by
  rcases owns_eq_true_iff.mp h with ⟨other, r, hfind, hserial⟩ | hheld
  · rw [find?_takeOut] at hfind
    split at hfind
    · cases hfind
    · exact owns_eq_true_iff.mpr (.inl ⟨other, r, hfind, hserial⟩)
  · exact owns_eq_true_iff.mpr (.inr hheld)

/-- Only what stands under the key may lose an owner. -/
theorem owns_takeOut_or (key : String) (h : s.owns n = true) :
    (s.takeOut key).owns n = true ∨ ∃ r, s.registry.find? key = some r ∧ r.handle.serial = n := by
  rcases owns_eq_true_iff.mp h with ⟨other, r, hfind, hserial⟩ | hheld
  · by_cases hother : other = key
    · exact .inr ⟨r, hother ▸ hfind, hserial⟩
    · left
      refine owns_eq_true_iff.mpr (.inl ⟨other, r, ?_, hserial⟩)
      rw [find?_takeOut, if_neg hother]
      exact hfind
  · exact .inl (owns_eq_true_iff.mpr (.inr hheld))

/-- A value that is put in stands under its key, with the next serial number. -/
theorem find?_insert (s : Estate) (key : String) (item : Item) (context : ContextId)
    (other : String) :
    (s.insert key item context).registry.find? other
      = if other = key then some ⟨⟨s.nextSerial, ⟨key, item⟩⟩, context⟩
        else s.registry.find? other := by
  by_cases hother : other = key
  · rw [if_pos hother, hother]
    exact Registry.find?_insert_self _ _ _
  · rw [if_neg hother]
    exact Registry.find?_insert_of_ne hother

/-- The new value is owned, and what it ousts has lost an owner. -/
theorem owns_insert_iff (item : Item) (context : ContextId) :
    (s.insert key item context).owns n = true
      ↔ n = s.nextSerial ∨ (s.takeOut key).owns n = true := by
  constructor
  · intro h
    rcases owns_eq_true_iff.mp h with ⟨other, r, hfind, hserial⟩ | hheld
    · rw [find?_insert] at hfind
      split at hfind
      next =>
        cases hfind
        exact .inl hserial.symm
      -- under any other key the same stands there as after taking out
      next hother =>
        right
        refine owns_eq_true_iff.mpr (.inl ⟨other, r, ?_, hserial⟩)
        rw [find?_takeOut, if_neg hother]
        exact hfind
    · exact .inr (owns_eq_true_iff.mpr (.inr hheld))
  · rintro (rfl | h)
    · have hfind := find?_insert s key item context key
      rw [if_pos rfl] at hfind
      exact owns_of_find?_some hfind
    · rcases owns_eq_true_iff.mp h with ⟨other, r, hfind, hserial⟩ | hheld
      · rw [find?_takeOut] at hfind
        split at hfind
        next => cases hfind
        next hother =>
          refine owns_eq_true_iff.mpr (.inl ⟨other, r, ?_, hserial⟩)
          rw [find?_insert, if_neg hother]
          exact hfind
      · exact owns_eq_true_iff.mpr (.inr hheld)

/-- The accounts of an estate, when one value perhaps is being let go of:
1. every value that was ever stored has an owner, or is released, or is being let go of;
2. none is released twice;
3. what is released has no owner, and is not let go of again. -/
structure Accounts (s : Estate) (leaving : Option Nat) : Prop where
  positive : 1 ≤ s.nextSerial
  issued : ∀ n, (s.owns n = true ∨ n ∈ s.released ∨ leaving = some n)
    ↔ 1 ≤ n ∧ n < s.nextSerial
  once : s.released.Nodup
  gone : ∀ n ∈ s.released, ¬ s.owns n = true ∧ leaving ≠ some n

/-- With nothing stored the accounts are in order. -/
theorem accounts_empty : Accounts empty none where
  positive := Nat.le_refl 1
  issued := by
    intro n
    have hnone : ¬ (empty.owns n = true ∨ n ∈ empty.released ∨ none = some n) := by
      rintro (h | h | h) <;> cases h
    have hbound : ¬ (1 ≤ n ∧ n < 1) := by omega
    exact iff_of_false hnone hbound
  once := List.nodup_nil
  gone := nofun

/-- A value that has lost an owner is being let go of. -/
theorem Accounts.letGo {s' : Estate} {leaving : Option Nat} (h : s.Accounts none)
    (hserial : s'.nextSerial = s.nextSerial) (hreleased : s'.released = s.released)
    (hkept : ∀ n, s'.owns n = true → s.owns n = true)
    (hlost : ∀ n, s.owns n = true → s'.owns n = true ∨ leaving = some n)
    (hleaving : ∀ n, leaving = some n → s.owns n = true) : s'.Accounts leaving where
  positive := hserial ▸ h.positive
  -- the value that is leaving was owned before, and no other ceases to be
  issued := by
    intro n
    rw [hserial, hreleased, ← h.issued n]
    constructor
    · rintro (howns | hn | hn)
      · exact .inl (hkept n howns)
      · exact .inr (.inl hn)
      · exact .inl (hleaving n hn)
    · rintro (howns | hn | hn)
      · rcases hlost n howns with howns | hn
        · exact .inl howns
        · exact .inr (.inr hn)
      · exact .inr (.inl hn)
      · cases hn
  once := hreleased ▸ h.once
  gone := by
    intro n hn
    rw [hreleased] at hn
    have hnot := (h.gone n hn).1
    exact ⟨fun howns => hnot (hkept n howns), fun hn => hnot (hleaving n hn)⟩

/-- What is taken out is being let go of. -/
theorem Accounts.takeOut (h : s.Accounts none) (key : String) :
    (s.takeOut key).Accounts ((s.registry.find? key).map (·.handle.serial)) := by
  refine h.letGo rfl rfl (fun n => owns_of_owns_takeOut) ?_ ?_
  · intro n howns
    rcases owns_takeOut_or key howns with howns | ⟨r, hfind, hserial⟩
    · exact .inl howns
    · exact .inr (Option.map_eq_some_iff.mpr ⟨r, hfind, hserial⟩)
  · intro n hn
    obtain ⟨r, hfind, rfl⟩ := Option.map_eq_some_iff.mp hn
    exact owns_of_find?_some hfind

/-- Without the copies that are held under a key, only the value of one may lose an owner. -/
theorem owns_or_lookup (hheld : (s.held.map (·.1)).Nodup) (howns : s.owns n = true)
    (key : String) :
    ((∃ other r, s.registry.find? other = some r ∧ r.handle.serial = n)
        ∨ ∃ e ∈ s.held.filter fun e => e.1 != key, e.2.serial = n)
      ∨ (s.held.lookup key).map (·.serial) = some n := by
  rcases owns_eq_true_iff.mp howns with hstored | ⟨⟨other, h⟩, hmem, rfl⟩
  · exact .inl (.inl hstored)
  · by_cases hother : other = key
    · subst hother
      right
      rw [lookup_of_mem hheld hmem]
      rfl
    · refine .inl (.inr ⟨(other, h), List.mem_filter.mpr ⟨hmem, ?_⟩, rfl⟩)
      simpa using hother

theorem owns_of_lookup {h : Handle Parcel} (hlookup : s.held.lookup key = some h) :
    s.owns h.serial = true :=
  owns_eq_true_iff.mpr (.inr ⟨(key, h), mem_of_lookup hlookup, rfl⟩)

/-- What is no longer held is being let go of. -/
theorem Accounts.unhold (h : s.Accounts none) (hheld : (s.held.map (·.1)).Nodup) (key : String) :
    Accounts { s with held := s.held.filter fun e => e.1 != key }
      ((s.held.lookup key).map (·.serial)) := by
  refine h.letGo rfl rfl ?_ ?_ ?_
  · intro n howns
    rcases owns_eq_true_iff.mp howns with hstored | ⟨e, hmem, hserial⟩
    · exact owns_eq_true_iff.mpr (.inl hstored)
    · exact owns_eq_true_iff.mpr (.inr ⟨e, (List.mem_filter.mp hmem).1, hserial⟩)
  · intro n howns
    exact (owns_or_lookup hheld howns key).imp_left owns_eq_true_iff.mpr
  · intro n hn
    obtain ⟨handle, hlookup, rfl⟩ := Option.map_eq_some_iff.mp hn
    exact owns_of_lookup hlookup

/-- A copy of what is stored takes the place of what was held. -/
theorem Accounts.hold (h : s.Accounts none) (hheld : (s.held.map (·.1)).Nodup)
    (hfind : s.registry.find? key = some r) :
    (s.keeping key r.handle).Accounts ((s.held.lookup key).map (·.serial)) := by
  refine h.letGo rfl rfl ?_ ?_ ?_
  · intro n howns
    rcases owns_eq_true_iff.mp howns with hstored | ⟨e, hmem, rfl⟩
    · exact owns_eq_true_iff.mpr (.inl hstored)
    · rcases List.mem_cons.mp hmem with rfl | hmem
      · exact owns_of_find?_some hfind
      · exact owns_eq_true_iff.mpr (.inr ⟨e, (List.mem_filter.mp hmem).1, rfl⟩)
  · intro n howns
    refine (owns_or_lookup hheld howns key).imp_left fun howns => owns_eq_true_iff.mpr ?_
    exact howns.imp_right fun ⟨e, hmem, hserial⟩ => ⟨e, List.mem_cons_of_mem _ hmem, hserial⟩
  · intro n hn
    obtain ⟨handle, hlookup, rfl⟩ := Option.map_eq_some_iff.mp hn
    exact owns_of_lookup hlookup

/-- What is put in is a value more. -/
theorem Accounts.insert {leaving : Option Nat} (h : (s.takeOut key).Accounts leaving)
    (item : Item) (context : ContextId) : (s.insert key item context).Accounts leaving where
  positive := Nat.le_succ_of_le h.positive
  issued := by
    intro n
    have hissued : _ ↔ 1 ≤ n ∧ n < s.nextSerial := h.issued n
    -- the new value takes the next serial, which was neither owned nor released
    have hnext : (s.insert key item context).nextSerial = s.nextSerial + 1 := rfl
    have hpositive : 1 ≤ s.nextSerial := h.positive
    have hreleased : (s.insert key item context).released = (s.takeOut key).released := rfl
    rw [owns_insert_iff, hreleased, hnext, or_assoc, hissued]
    omega
  once := h.once
  gone := by
    intro n hn
    obtain ⟨hnot, hleaving⟩ := h.gone n hn
    have hbound : 1 ≤ n ∧ n < s.nextSerial := (h.issued n).mp (.inr (.inl hn))
    refine ⟨fun howns => ?_, hleaving⟩
    rcases (owns_insert_iff item context).mp howns with rfl | howns
    · exact Nat.lt_irrefl _ hbound.2
    · exact hnot howns

/-- What has another owner stays. -/
theorem Accounts.stay (h : s.Accounts (some n)) (howns : s.owns n = true) : s.Accounts none where
  positive := h.positive
  issued := by
    intro m
    rw [← h.issued m]
    constructor
    · rintro (howns' | hreleased | hleaving)
      · exact .inl howns'
      · exact .inr (.inl hreleased)
      · cases hleaving
    · rintro (howns' | hreleased | hleaving)
      · exact .inl howns'
      · exact .inr (.inl hreleased)
      · cases hleaving
        exact .inl howns
  once := h.once
  gone := fun m hm => ⟨(h.gone m hm).1, nofun⟩

theorem released_depart (s : Estate) (h : Handle Parcel) :
    (s.depart h).released = s.released ++ [h.serial] := List.map_append

/-- What has no other owner is released, for the first time. -/
theorem Accounts.depart {handle : Handle Parcel} (h : s.Accounts (some handle.serial))
    (howns : ¬ s.owns handle.serial = true) : (s.depart handle).Accounts none where
  positive := h.positive
  issued := by
    intro m
    rw [← show _ ↔ 1 ≤ m ∧ m < (s.depart handle).nextSerial from h.issued m, released_depart,
      List.mem_append, List.mem_singleton]
    show s.owns m = true ∨ _ ∨ _ ↔ _
    rw [Option.some.injEq]
    constructor
    · rintro (howns' | (hreleased | rfl) | hleaving)
      · exact .inl howns'
      · exact .inr (.inl hreleased)
      · exact .inr (.inr rfl)
      · cases hleaving
    · rintro (howns' | hreleased | rfl)
      · exact .inl howns'
      · exact .inr (.inl (.inl hreleased))
      · exact .inr (.inl (.inr rfl))
  -- it was leaving, so it had not been released
  once := by
    rw [released_depart, List.nodup_append]
    refine ⟨h.once, by simp, fun a ha b hb => ?_⟩
    rw [List.mem_singleton.mp hb]
    rintro rfl
    exact (h.gone _ ha).2 rfl
  gone := by
    intro m hm
    rw [released_depart, List.mem_append, List.mem_singleton] at hm
    refine ⟨?_, nofun⟩
    rcases hm with hm | rfl
    · exact (h.gone m hm).1
    · exact howns

end Estate

end TunnelHost
