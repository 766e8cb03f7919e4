import TunnelHost.Proofs.ReleaseAccounts
import TunnelHost.Proofs.ReleaseCascade

/-!
# The discipline of releases

All the way through a cascade the accounts of owners and releases are right, and what is to be let
go of comes before everything else that is still to be done. So a value is released once, as soon as
it has lost its last owner; what a store takes out is gone before the new value is put in, and finds
its own key free. What the new value can still oust is a word that a release has slipped in.

- `Cascade.Sound`: what is true all the way, `Cascade.sound_step` and `Cascade.sound_advance`.
- `Cascade.sound_begin`, `Cascade.sound_after`: commands.
- `Cascade.Disciplined`, `Cascade.release_once_before_store`: what that says of commands, one after
  the other.
-/

namespace TunnelHost

/-! ## What is true all the way -/

/-- A value is a plain word, which is what parting stores store. -/
def Item.IsWord (i : Item) : Prop := ∃ n, i = .word n

namespace Task

/-- The task puts a value in. -/
def IsPut (t : Task) : Prop := ∃ key item context, t = .put key item context

/-- What the task stores, if anything, is a word. -/
def StoresWord : Task → Prop
  | .store _ item _ => item.IsWord
  | .put _ item _ => item.IsWord
  | .letGo _ _ => True

/-- What the task will find is as it should be: under a key that a value is put in at, nothing but a
word that a release has slipped in; and nothing under the key of a value that was taken out. -/
def Sound (s : Estate) : Task → Prop
  | .store _ _ _ => True
  | .put key _ _ => ∀ r, s.registry.find? key = some r → r.handle.value.item.IsWord
  | .letGo .takenOut h => s.registry.find? h.value.home = none
  | .letGo .ousted h => h.value.item.IsWord
  | .letGo .returned _ => True

end Task

/-- Tasks are in order: below the first there are only values to be put in, and whatever has
something below it stores words. -/
def Orderly (s : Estate) : List Task → Prop
  | [] => True
  | t :: rest => t.Sound s ∧ (rest ≠ [] → t.StoresWord) ∧ (∀ u ∈ rest, u.IsPut) ∧ Orderly s rest

/-- A task alone is in order when it finds what it should. -/
theorem orderly_singleton {s : Estate} {t : Task} (h : t.Sound s) : Orderly s [t] :=
  ⟨h, fun hne => absurd rfl hne, List.forall_mem_nil Task.IsPut, trivial⟩

/-- Tasks stay in order if each still finds what it should. -/
theorem Orderly.mono {s s' : Estate} {tasks : List Task} (h : Orderly s tasks)
    (hs : ∀ t ∈ tasks, t.Sound s → t.Sound s') : Orderly s' tasks := by
  induction tasks with
  | nil => exact trivial
  | cons t rest ih =>
    obtain ⟨hsound, hword, hputs, hrest⟩ := h
    exact ⟨hs t List.mem_cons_self hsound, hword, hputs,
      ih hrest fun u hu => hs u (List.mem_cons_of_mem t hu)⟩

namespace Cascade

/-- The value that is being let go of. -/
def leaving (c : Cascade) : Option Nat :=
  match c.tasks with
  | .letGo _ h :: _ => some h.serial
  | _ => none

theorem leaving_of_puts {s : Estate} {tasks : List Task} (h : ∀ t ∈ tasks, t.IsPut) :
    leaving ⟨s, tasks⟩ = none := by
  cases tasks with
  | nil => rfl
  | cons t rest =>
    obtain ⟨key, item, context, rfl⟩ := h t List.mem_cons_self
    rfl

/-- What is true of a cascade all the way. -/
structure Sound (c : Cascade) : Prop where
  accounts : c.estate.Accounts c.leaving
  /-- A value stands under its own key. -/
  home : ∀ key r, c.estate.registry.find? key = some r → r.handle.value.home = key
  /-- One copy at most is held under a key. -/
  held : (c.estate.held.map (·.1)).Nodup
  orderly : Orderly c.estate c.tasks

section SoundStep

variable {s : Estate} {rest : List Task} {key : String} {r : Reference Parcel} {item : Item}
  {context : ContextId} {cause : Cause} {h : Handle Parcel}

/-- Values stand under their own keys after one is taken out. -/
theorem home_takeOut (hhome : ∀ key r, s.registry.find? key = some r → r.handle.value.home = key)
    (key : String) : ∀ other r, (s.takeOut key).registry.find? other = some r →
      r.handle.value.home = other := by
  intro other r hfind
  rw [Estate.find?_takeOut] at hfind
  split at hfind
  · cases hfind
  · exact hhome other r hfind

theorem home_insert (hhome : ∀ key r, s.registry.find? key = some r → r.handle.value.home = key)
    (key : String) (item : Item) (context : ContextId) :
    ∀ other r, (s.insert key item context).registry.find? other = some r →
      r.handle.value.home = other := by
  intro other r hfind
  rw [Estate.find?_insert] at hfind
  split at hfind
  next hother =>
    cases hfind
    exact hother.symm
  next => exact hhome other r hfind

/-- A task that puts a value in does not mind if something is taken out. -/
theorem sound_takeOut {t : Task} (ht : t.IsPut) (hsound : t.Sound s) (key : String) :
    t.Sound (s.takeOut key) := by
  obtain ⟨other, item, context, rfl⟩ := ht
  intro r hfind
  rw [Estate.find?_takeOut] at hfind
  split at hfind
  · cases hfind
  · exact hsound r hfind

/-- Where a word is put in, words are still all that is found. -/
theorem sound_insert {t : Task} (ht : t.IsPut) (hsound : t.Sound s) (hword : item.IsWord)
    (key : String) (context : ContextId) : t.Sound (s.insert key item context) := by
  obtain ⟨other, item', context', rfl⟩ := ht
  intro r hfind
  rw [Estate.find?_insert] at hfind
  split at hfind
  · cases hfind
    exact hword
  · exact hsound r hfind

/-- A store that begins leaves everything sound: what it takes out is leaving, and the value is to
be put in under a free key. -/
theorem sound_step_store (hc : Sound ⟨s, .store key item context :: rest⟩) :
    Sound (step ⟨s, .store key item context :: rest⟩) := by
  obtain ⟨haccounts, hhome, hheld, -, hword, hputs, hrest⟩ := hc
  cases hfind : s.registry.find? key with
  | none =>
    rw [step_store_of_none hfind]
    refine ⟨haccounts, hhome, hheld, ?_, hword, hputs, hrest⟩
    intro r hr
    rw [hfind] at hr
    cases hr
  | some r =>
    rw [step_store_of_some hfind]
    have hleaving := haccounts.takeOut key
    rw [hfind] at hleaving
    refine ⟨hleaving, home_takeOut hhome key, hheld, ?_, fun _ => trivial, ?_, ?_, hword, hputs, ?_⟩
    -- the value stood under its own key, which is free now
    · show (s.takeOut key).registry.find? r.handle.value.home = none
      rw [hhome key r hfind, Estate.find?_takeOut, if_pos rfl]
    · intro u hu
      rcases List.mem_cons.mp hu with rfl | hu
      · exact ⟨key, item, context, rfl⟩
      · exact hputs u hu
    · intro r' hr'
      rw [Estate.find?_takeOut, if_pos rfl] at hr'
      cases hr'
    · exact hrest.mono fun u hu hsound => sound_takeOut (hputs u hu) hsound key

/-- So does putting the value in: what it ousts, if anything, is a word. -/
theorem sound_step_put (hc : Sound ⟨s, .put key item context :: rest⟩) :
    Sound (step ⟨s, .put key item context :: rest⟩) := by
  obtain ⟨haccounts, hhome, hheld, hsound, hword, hputs, hrest⟩ := hc
  -- whatever is still to be put in, this was a word
  have hrest' : Orderly (s.insert key item context) rest := by
    refine hrest.mono fun u hu hu' => sound_insert (hputs u hu) hu' (hword ?_) key context
    rintro rfl
    cases hu
  have hleaving := haccounts.takeOut key
  cases hfind : s.registry.find? key with
  | none =>
    rw [step_put_of_none hfind]
    rw [hfind] at hleaving
    refine ⟨?_, home_insert hhome key item context, hheld, hrest'⟩
    rw [leaving_of_puts hputs]
    exact hleaving.insert item context
  | some r =>
    rw [step_put_of_some hfind]
    rw [hfind] at hleaving
    exact ⟨hleaving.insert item context, home_insert hhome key item context, hheld,
      hsound r hfind, fun _ => trivial, hputs, hrest'⟩

/-- So does letting go of a value, whether it is released or not. -/
theorem sound_step_letGo (hc : Sound ⟨s, .letGo cause h :: rest⟩) :
    Sound (step ⟨s, .letGo cause h :: rest⟩) := by
  obtain ⟨haccounts, hhome, hheld, -, -, hputs, hrest⟩ := hc
  by_cases howns : s.owns h.serial = true
  · rw [step_letGo_of_owns howns]
    refine ⟨?_, hhome, hheld, hrest⟩
    rw [leaving_of_puts hputs]
    exact haccounts.stay howns
  · have hdepart := haccounts.depart howns
    -- the registry stays as it is, so the tasks below are as sound as before
    have hrest' : Orderly (s.depart h) rest := hrest.mono fun u hu hsound => by
      obtain ⟨key, item, context, rfl⟩ := hputs u hu
      exact hsound
    cases hparting : h.value.item.parting? with
    | none =>
      rw [step_letGo_of_none howns hparting]
      refine ⟨?_, hhome, hheld, hrest'⟩
      rw [leaving_of_puts hputs]
      exact hdepart
    | some p =>
      obtain ⟨key, n⟩ := p
      rw [step_letGo_of_some howns hparting]
      exact ⟨hdepart, hhome, hheld, trivial, fun _ => ⟨n, rfl⟩, hputs, hrest'⟩

end SoundStep

/-- **A step keeps what is true of a cascade.** -/
theorem sound_step {c : Cascade} (hc : c.Sound) : c.step.Sound := by
  obtain ⟨s, tasks⟩ := c
  cases tasks with
  | nil => exact hc
  | cons t rest =>
    cases t with
    | store key item context => exact sound_step_store hc
    | put key item context => exact sound_step_put hc
    | letGo cause h => exact sound_step_letGo hc

/-- It is true all the way. -/
theorem sound_advance {c : Cascade} (hc : c.Sound) (n : Nat) : (advance n c).Sound := by
  induction n generalizing c with
  | zero => exact hc
  | succ n ih => exact ih (sound_step hc)

/-! ## Commands -/

theorem sound_empty : Sound ⟨.empty, []⟩ where
  accounts := Estate.accounts_empty
  home := nofun
  held := List.nodup_nil
  orderly := trivial

theorem nodup_filter_held {held : List (String × Handle Parcel)} (h : (held.map (·.1)).Nodup)
    (key : String) : ((held.filter fun e => e.1 != key).map (·.1)).Nodup :=
  h.sublist (List.filter_sublist.map _)

/-- What a command starts is as it should be. -/
theorem sound_begin {s : Estate} (hs : Sound ⟨s, []⟩) (c : Estate.Command) : (s.begin c).Sound := by
  obtain ⟨haccounts, hhome, hheld, -⟩ := hs
  have hidle : Sound ⟨s, []⟩ := ⟨haccounts, hhome, hheld, trivial⟩
  cases c with
  | store key item context =>
    exact ⟨haccounts, hhome, hheld, orderly_singleton trivial⟩
  | remove key =>
    cases hfind : s.registry.find? key with
    | none =>
      rw [Estate.begin, hfind]
      exact hidle
    | some r =>
      rw [Estate.begin, hfind]
      have hleaving := haccounts.takeOut key
      rw [hfind] at hleaving
      refine ⟨hleaving, home_takeOut hhome key, hheld, orderly_singleton ?_⟩
      -- as in a store, the key of what is taken out is free now
      show (s.takeOut key).registry.find? r.handle.value.home = none
      rw [hhome key r hfind, Estate.find?_takeOut, if_pos rfl]
  | hold key =>
    cases hfind : s.registry.find? key with
    | none =>
      rw [Estate.begin, hfind]
      exact hidle
    | some r =>
      rw [Estate.begin, hfind]
      have hleaving := haccounts.hold hheld hfind
      have hkeys : ((s.keeping key r.handle).held.map (·.1)).Nodup := by
        refine List.nodup_cons.mpr ⟨?_, nodup_filter_held hheld key⟩
        simp
      cases hlookup : s.held.lookup key with
      | none =>
        rw [hlookup] at hleaving
        exact ⟨hleaving, hhome, hkeys, trivial⟩
      | some old =>
        rw [hlookup] at hleaving
        exact ⟨hleaving, hhome, hkeys, orderly_singleton trivial⟩
  | unhold key =>
    cases hlookup : s.held.lookup key with
    | none =>
      rw [Estate.begin, hlookup]
      exact hidle
    | some old =>
      rw [Estate.begin, hlookup]
      have hleaving := haccounts.unhold hheld key
      rw [hlookup] at hleaving
      exact ⟨hleaving, hhome, nodup_filter_held hheld key, orderly_singleton trivial⟩
  | get key => exact hidle
  | reference key => exact hidle
  | getAs key type => exact hidle
  | contains key => exact hidle
  | keys => exact hidle
  | size => exact hidle

/-- A command leads from one estate that is as it should be to another: its cascade ends there. -/
theorem sound_perform {s : Estate} (hs : Sound ⟨s, []⟩) (c : Estate.Command) :
    Sound ⟨(s.perform c).1, []⟩ := by
  obtain ⟨n, -, hn⟩ := leads_begin s c
  rw [← hn]
  exact sound_advance (sound_begin hs c) n

/-- The estate is sound after any commands. -/
theorem sound_after (commands : List Estate.Command) : Sound ⟨Estate.empty.after commands, []⟩ := by
  have hrun : ∀ s : Estate, Sound ⟨s, []⟩ → Sound ⟨s.after commands, []⟩ := by
    induction commands with
    | nil => exact fun s hs => hs
    | cons c rest ih => exact fun s hs => ih _ (sound_perform hs c)
  exact hrun _ sound_empty

end Cascade

/-! ## The discipline -/

/-- The number of values ever stored: each gets the next serial number, from one on. -/
def Estate.stored (s : Estate) : Nat := s.nextSerial - 1

/-- The values that have an owner, each once. -/
def Estate.owned (s : Estate) : List Nat := (List.range s.nextSerial).filter s.owns

namespace Cascade

/-- The value that has just lost its last owner, if one has. -/
def ownerless (c : Cascade) : List Nat := c.leaving.toList.filter fun n => !c.estate.owns n

/-- What the discipline of releases demands, at any moment of a cascade. -/
structure Disciplined (c : Cascade) : Prop where
  /-- Every value ever stored is in one of three places, and in no two: it is released, or has an
  owner, or has just lost the last one. -/
  places : (c.estate.released ++ c.estate.owned ++ c.ownerless).Perm
    (List.range' 1 c.estate.stored)
  balance : c.estate.stored
    = c.estate.released.length + c.estate.owned.length + c.ownerless.length
  owned : ∀ n, c.estate.owns n = true ↔ n ∈ c.estate.owned
  /-- What loses its last owner is without one at once. -/
  prompt : ∀ n, c.estate.owns n = true → c.step.estate.owns n = true ∨ c.step.ownerless = [n]
  /-- What is without an owner is released next, and nothing else is. -/
  release : c.step.estate.released = c.estate.released ++ c.ownerless
  /-- A value stands under its own key. -/
  home : ∀ key r, c.estate.registry.find? key = some r → r.handle.value.home = key
  /-- A value that was taken out and is released now finds nothing under its own key. -/
  free : ∀ h rest, c.tasks = .letGo .takenOut h :: rest → h.serial ∈ c.ownerless →
    c.step.estate.departures = c.estate.departures ++ [⟨h, false⟩]
  /-- What gives way to a value that is put in is a word that a release has slipped in. -/
  slipped : ∀ h rest, c.tasks = .letGo .ousted h :: rest → h.value.item.IsWord

theorem mem_ownerless_iff {c : Cascade} {n : Nat} :
    n ∈ c.ownerless ↔ c.leaving = some n ∧ ¬ c.estate.owns n = true := by
  rw [ownerless, List.mem_filter, Option.mem_toList, Bool.not_eq_true', Bool.not_eq_true]

/-- A value is ownerless if it is leaving and no owner is left. -/
theorem ownerless_eq_singleton_iff {c : Cascade} {n : Nat} :
    c.ownerless = [n] ↔ c.leaving = some n ∧ ¬ c.estate.owns n = true := by
  rw [← mem_ownerless_iff]
  constructor
  · intro h
    rw [h]
    exact List.mem_singleton_self n
  · intro h
    obtain ⟨hleaving, howns⟩ := mem_ownerless_iff.mp h
    rw [ownerless, hleaving]
    simp [howns]

theorem ownerless_of_leaving_none {c : Cascade} (h : c.leaving = none) : c.ownerless = [] := by
  rw [ownerless, h]
  rfl

theorem ownerless_of_owns {c : Cascade} {n : Nat} (h : c.leaving = some n)
    (howns : c.estate.owns n = true) : c.ownerless = [] := by
  rw [ownerless, h]
  simp [howns]

/-- A step releases what is without an owner. -/
theorem released_step (c : Cascade) :
    c.step.estate.released = c.estate.released ++ c.ownerless := by
  obtain ⟨s, tasks⟩ := c
  cases tasks with
  | nil => exact (List.append_nil _).symm
  | cons t rest =>
    cases t with
    | store key item context =>
      rw [ownerless_of_leaving_none rfl, List.append_nil]
      cases hfind : s.registry.find? key with
      | none => rw [step_store_of_none hfind]
      | some r =>
        rw [step_store_of_some hfind]
        rfl
    | put key item context =>
      rw [ownerless_of_leaving_none rfl, List.append_nil]
      cases hfind : s.registry.find? key with
      | none =>
        rw [step_put_of_none hfind]
        rfl
      | some r =>
        rw [step_put_of_some hfind]
        rfl
    | letGo cause h =>
      -- only letting go of a value without an owner releases anything
      by_cases howns : s.owns h.serial = true
      · rw [step_letGo_of_owns howns, ownerless_of_owns rfl howns, List.append_nil]
      · rw [ownerless_eq_singleton_iff.mpr ⟨rfl, howns⟩]
        cases hparting : h.value.item.parting? with
        | none =>
          rw [step_letGo_of_none howns hparting]
          exact Estate.released_depart s h
        | some p =>
          rw [step_letGo_of_some howns hparting]
          exact Estate.released_depart s h

/-- What was stored stays stored. -/
theorem nextSerial_le_step (c : Cascade) :
    c.estate.nextSerial ≤ c.step.estate.nextSerial := by
  obtain ⟨s, tasks⟩ := c
  cases tasks with
  | nil => exact Nat.le_refl _
  | cons t rest =>
    cases t with
    | store key item context =>
      rw [step]
      split <;> exact Nat.le_refl _
    | put key item context =>
      rw [step]
      split <;> exact Nat.le_succ _
    | letGo cause h =>
      rw [step]
      split
      · exact Nat.le_refl _
      · split <;> exact Nat.le_refl _

/-- A value with an owner has been stored. -/
theorem Sound.owns_lt {c : Cascade} (hc : c.Sound) {n : Nat} (howns : c.estate.owns n = true) :
    1 ≤ n ∧ n < c.estate.nextSerial :=
  (hc.accounts.issued n).mp (.inl howns)

theorem Sound.mem_owned_iff {c : Cascade} (hc : c.Sound) {n : Nat} :
    n ∈ c.estate.owned ↔ c.estate.owns n = true := by
  rw [Estate.owned, List.mem_filter, List.mem_range, and_iff_right_iff_imp]
  exact fun howns => (hc.owns_lt howns).2

/-- No value is in two places. -/
theorem Sound.nodup_places {c : Cascade} (hc : c.Sound) :
    (c.estate.released ++ c.estate.owned ++ c.ownerless).Nodup := by
  have howned : c.estate.owned.Nodup := List.nodup_range.filter _
  have hownerless : c.ownerless.Nodup := by
    rw [ownerless]
    cases c.leaving with
    | none => exact List.nodup_nil
    | some n => exact (List.pairwise_singleton _ n).filter _
  refine List.nodup_append.mpr ⟨List.nodup_append.mpr ⟨hc.accounts.once, howned, ?_⟩,
    hownerless, ?_⟩
  · rintro n hreleased _ hn rfl
    exact (hc.accounts.gone n hreleased).1 (hc.mem_owned_iff.mp hn)
  · rintro n hplace _ hn rfl
    obtain ⟨hleaving, howns⟩ := mem_ownerless_iff.mp hn
    rcases List.mem_append.mp hplace with hreleased | hn
    · exact (hc.accounts.gone n hreleased).2 hleaving
    · exact howns (hc.mem_owned_iff.mp hn)

/-- Every value that was stored is in a place, and no other is. -/
theorem Sound.mem_places_iff {c : Cascade} (hc : c.Sound) (n : Nat) :
    n ∈ c.estate.released ++ c.estate.owned ++ c.ownerless ↔ n ∈ List.range' 1 c.estate.stored := by
  have hrange : n ∈ List.range' 1 c.estate.stored ↔ 1 ≤ n ∧ n < c.estate.nextSerial := by
    have hpositive := hc.accounts.positive
    rw [List.mem_range'_1, Estate.stored]
    omega
  rw [hrange, ← hc.accounts.issued n, List.mem_append, List.mem_append, hc.mem_owned_iff,
    mem_ownerless_iff]
  constructor
  · rintro ((hreleased | howns) | ⟨hleaving, -⟩)
    · exact .inr (.inl hreleased)
    · exact .inl howns
    · exact .inr (.inr hleaving)
  · rintro (howns | hreleased | hleaving)
    · exact .inl (.inr howns)
    · exact .inl (.inl hreleased)
    · by_cases howns : c.estate.owns n = true
      · exact .inl (.inr howns)
      · exact .inr ⟨hleaving, howns⟩

/-- What loses its last owner is without one at once. -/
theorem Sound.owns_step_or {c : Cascade} (hc : c.Sound) {n : Nat}
    (howns : c.estate.owns n = true) : c.step.estate.owns n = true ∨ c.step.ownerless = [n] := by
  have hbound := hc.owns_lt howns
  have hnext := nextSerial_le_step c
  have hstep := (sound_step hc).accounts
  rcases (hstep.issued n).mpr ⟨hbound.1, by omega⟩ with howns' | hreleased | hleaving
  · exact .inl howns'
  · -- a step releases only what had no owner before
    exfalso
    rw [released_step, List.mem_append] at hreleased
    rcases hreleased with hreleased | hownerless
    · exact (hc.accounts.gone n hreleased).1 howns
    · exact (mem_ownerless_iff.mp hownerless).2 howns
  · by_cases howns' : c.step.estate.owns n = true
    · exact .inl howns'
    · exact .inr (ownerless_eq_singleton_iff.mpr ⟨hleaving, howns'⟩)

/-- What was taken out and is released now finds nothing under its own key. -/
theorem Sound.departures_step {c : Cascade} (hc : c.Sound) {h : Handle Parcel} {rest : List Task}
    (htasks : c.tasks = .letGo .takenOut h :: rest) (hownerless : h.serial ∈ c.ownerless) :
    c.step.estate.departures = c.estate.departures ++ [⟨h, false⟩] := by
  obtain ⟨s, tasks⟩ := c
  subst htasks
  have howns := (mem_ownerless_iff.mp hownerless).2
  -- an orderly cascade empties the place before the release is told
  have hhome : s.registry.contains h.value.home = false := by
    have hnone : s.registry.find? h.value.home = none := hc.orderly.1
    rw [Registry.contains, hnone]
    rfl
  have hdepart : (s.depart h).departures = s.departures ++ [⟨h, false⟩] := by
    rw [Estate.depart, hhome]
  cases hparting : h.value.item.parting? with
  | none =>
    rw [step_letGo_of_none howns hparting]
    exact hdepart
  | some p =>
    rw [step_letGo_of_some howns hparting]
    exact hdepart

/-- What is true of a cascade all the way is the discipline. -/
theorem Sound.disciplined {c : Cascade} (hc : c.Sound) : c.Disciplined := by
  have hplaces := (List.perm_ext_iff_of_nodup hc.nodup_places List.nodup_range').mpr
    hc.mem_places_iff
  refine ⟨hplaces, ?_, fun n => hc.mem_owned_iff.symm, fun n => hc.owns_step_or, released_step c,
    hc.home, fun h rest => hc.departures_step, ?_⟩
  · have hlength := hplaces.length_eq
    rw [List.length_range', List.length_append, List.length_append] at hlength
    exact hlength.symm
  · intro h rest htasks
    have horderly := hc.orderly
    rw [htasks] at horderly
    exact horderly.1

/-- **The discipline of releases.** After any commands, the cascade of the next one ends, where the
command leads to. All the way every value that was ever stored is released once, or has an owner,
or has just lost the last one and is released next; and what was taken out is released before
anything is stored under its key. At the end there is none that has just lost an owner: what was
stored has been released, or has an owner. -/
theorem release_once_before_store (before : List Estate.Command) (c : Estate.Command) :
    let s := Estate.empty.after before
    let t := (s.perform c).1
    Leads (4 * s.size + 3) (s.begin c) ⟨t, []⟩
      ∧ (∀ n, Disciplined (advance n (s.begin c)))
      ∧ (t.released ++ t.owned).Perm (List.range' 1 t.stored)
      ∧ t.stored = t.released.length + t.owned.length := by
  intro s t
  have hs : Sound ⟨s, []⟩ := sound_after before
  have ht : Disciplined ⟨t, []⟩ := (sound_perform hs c).disciplined
  have hplaces := ht.places
  have hbalance := ht.balance
  rw [ownerless_of_leaving_none rfl] at hplaces hbalance
  rw [List.append_nil] at hplaces
  refine ⟨leads_begin s c, fun n => ?_, hplaces, hbalance⟩
  exact (sound_advance (sound_begin hs c) n).disciplined

end Cascade

end TunnelHost
