import TunnelHost.Proofs.RegistryLookup
import TunnelHost.Registry.Release

/-!
# A registry whose values store when they are released

Storing and removing let go of values, and a value that is released may store a word under any key,
even the one that is being written to. A registry stays a finite map all the same: what is stored
under a key is there afterwards, and any other key holds what it held before, unless a release has
left a word there.

- `Estate.leftBy`, `Estate.AsLeft`: what releases leave under a key.
- `Estate.Settles`, `Estate.Stores`: all that letting go of a value, and storing one, may change.
- `Estate.stores_store_and_settles_letGo`: they change no more than that.
- `Estate.Command`, `Estate.perform`: what a registry may be asked for, with its answers.
- `Estate.Obeys`, `Estate.obeys_perform`: answers and changes are those of a finite map.
-/

namespace TunnelHost

/-- The type of a value, if it can be asked for. -/
def Item.type? : Item → Option ItemType
  | word _ => some .word
  | text _ => some .text
  | unit => some .unit
  | probe _ _ => none

/-- A value is of its own type, and of no other. -/
theorem Item.ofType?_eq (type : ItemType) (i : Item) :
    i.ofType? type = if i.type? = some type then some i else none := by
  cases type <;> cases i <;> rfl

/-- The word that a released value stores under a key. -/
def Departure.wordFor? (key : String) (d : Departure) : Option UInt32 :=
  match d.handle.value.item.parting? with
  | none => none
  | some (k, n) => if k = key then some n else none

theorem Departure.wordFor?_eq_none {d : Departure} (h : d.handle.value.item.parting? = none)
    (key : String) : d.wordFor? key = none := by
  rw [wordFor?, h]

namespace Estate

/-! ## What releases leave -/

/-- The word that releases leave under a key. Of several, that of the first release stays: its
store is under way until everything that it pushed out is released, and is made last. -/
def leftBy (released : List Departure) (key : String) : Option UInt32 :=
  released.findSome? (Departure.wordFor? key)

/-- What is under a key after releases, if without them it were `before`. A word that is left there
is a value of its own. -/
def AsLeft (released : List Departure) (serial : Nat) (key : String)
    (before after : Option (Reference Parcel)) : Prop :=
  match leftBy released key with
  | none => after = before
  | some n => ∃ number, serial ≤ number
      ∧ after = some ⟨⟨number, ⟨key, .word n⟩⟩, partingContext⟩

/-- All that letting go of a value may change, where `base` is the registry without it. -/
structure Settles (s s' : Estate) (base : String → Option (Reference Parcel))
    (released : List Departure) : Prop where
  departures : s'.departures = s.departures ++ released
  serial : s.nextSerial ≤ s'.nextSerial
  lookup : ∀ key, AsLeft released s.nextSerial key (base key) (s'.registry.find? key)

/-- All that storing a value may change. The value is one that was not there before. -/
structure Stores (s s' : Estate) (key : String) (item : Item) (context : ContextId)
    (released : List Departure) : Prop where
  departures : s'.departures = s.departures ++ released
  stored : ∃ number, s.nextSerial ≤ number ∧ number < s'.nextSerial
    ∧ s'.registry.find? key = some ⟨⟨number, ⟨key, item⟩⟩, context⟩
  lookup : ∀ other, other ≠ key →
    AsLeft released s.nextSerial other (s.registry.find? other) (s'.registry.find? other)

section AsLeft

variable {released : List Departure} {serial : Nat} {key : String}
  {before after : Option (Reference Parcel)}

theorem asLeft_nil (serial : Nat) (key : String) (before : Option (Reference Parcel)) :
    AsLeft [] serial key before before := rfl

theorem asLeft_cons_of_none {d : Departure} (hd : d.wordFor? key = none) :
    AsLeft (d :: released) serial key before after ↔ AsLeft released serial key before after := by
  rw [AsLeft, AsLeft, leftBy, List.findSome?_cons, hd]
  exact Iff.rfl

/-- Releases that store nothing leave nothing. -/
theorem asLeft_of_none (h : ∀ d ∈ released, d.wordFor? key = none) :
    AsLeft released serial key before after ↔ after = before := by
  rw [AsLeft, leftBy, List.findSome?_eq_none_iff.mpr h]

/-- Later releases without a word under a key change nothing there. -/
theorem asLeft_append_of_none {later : List Departure} (h : ∀ d ∈ later, d.wordFor? key = none) :
    AsLeft (released ++ later) serial key before after
      ↔ AsLeft released serial key before after := by
  have hlater : later.findSome? (Departure.wordFor? key) = none := List.findSome?_eq_none_iff.mpr h
  rw [AsLeft, AsLeft, leftBy, leftBy, List.findSome?_append, hlater, Option.or_none]

/-- Under a key that was free there is nothing, or a word, which stores nothing in turn. -/
theorem parting?_of_asLeft_none (h : AsLeft released serial key none after)
    {r : Reference Parcel} (hr : after = some r) : r.handle.value.item.parting? = none := by
  rw [AsLeft] at h
  split at h
  next =>
    rw [h] at hr
    cases hr
  next =>
    obtain ⟨number, -, hafter⟩ := h
    rw [hafter] at hr
    cases hr
    rfl

end AsLeft

theorem Settles.refl (s : Estate) : Settles s s s.registry.find? [] where
  departures := (List.append_nil _).symm
  serial := Nat.le_refl _
  lookup := fun key => asLeft_nil _ key _

/-! ## Storing and letting go -/

@[simp] theorem find?_takeOut (s : Estate) (key other : String) :
    (s.takeOut key).registry.find? other = if other = key then none else s.registry.find? other :=
  Registry.find?_erase s.registry key other

/-- A value that is put in takes the place of another one, which is released or has another
owner. -/
theorem put_cases (s : Estate) (key : String) (item : Item) (context : ContextId) :
    s.put key item context = s.insert key item context
      ∨ ∃ r, s.registry.find? key = some r
          ∧ s.put key item context = (s.insert key item context).depart r.handle := by
  cases hfind : s.registry.find? key with
  | none =>
    left
    rw [put, hfind]
  | some r =>
    by_cases howns : (s.insert key item context).owns r.handle.serial = true
    · left
      rw [put, hfind]
      exact if_pos howns
    · right
      refine ⟨r, rfl, ?_⟩
      rw [put, hfind]
      exact if_neg howns

/-- Putting a value in is storing it, with nothing to release. -/
theorem stores_insert (s : Estate) (key : String) (item : Item) (context : ContextId) :
    Stores s (s.insert key item context) key item context [] where
  departures := (List.append_nil _).symm
  stored := ⟨s.nextSerial, Nat.le_refl _, Nat.lt_succ_self _, Registry.find?_insert_self _ _ _⟩
  lookup := by
    intro other hother
    show (s.registry.insert _ _).find? other = _
    exact Registry.find?_insert_of_ne hother

/-- To put a value in is to store it, if what gives way stores nothing in turn. -/
theorem stores_put {s : Estate} {key : String}
    (hplain : ∀ r, s.registry.find? key = some r → r.handle.value.item.parting? = none)
    (item : Item) (context : ContextId) :
    ∃ released, Stores s (s.put key item context) key item context released
      ∧ ∀ d ∈ released, d.handle.value.item.parting? = none := by
  have hinsert := stores_insert s key item context
  -- what stood under the key leaves without a parting word, so that the cascade ends there
  rcases put_cases s key item context with hput | ⟨r, hfind, hput⟩
  · exact ⟨[], hput ▸ hinsert, nofun⟩
  · have hr := hplain r hfind
    let d : Departure :=
      ⟨r.handle, (s.insert key item context).registry.contains r.handle.value.home⟩
    rw [hput]
    refine ⟨[d], ⟨rfl, hinsert.stored, ?_⟩, ?_⟩
    · intro other hother
      exact (asLeft_cons_of_none (Departure.wordFor?_eq_none hr other)).mpr
        (hinsert.lookup other hother)
    · intro d' hd'
      rw [List.mem_singleton.mp hd']
      exact hr

/-- What releases may have put under a key that was free is a word, which stores nothing in turn. -/
theorem Settles.parting?_of_find? {s s' : Estate} {key : String} {released : List Departure}
    (h : Settles (s.takeOut key) s' (s.takeOut key).registry.find? released) :
    ∀ r, s'.registry.find? key = some r → r.handle.value.item.parting? = none := by
  intro r hr
  have hfree := h.lookup key
  rw [find?_takeOut, if_pos rfl] at hfree
  exact parting?_of_asLeft_none hfree hr

/-- What is stored after releases, at a key that was free before them, is stored with all that they
have left elsewhere. -/
theorem Settles.stores_put {s s' : Estate} {key : String} {released : List Departure}
    (h : Settles (s.takeOut key) s' (s.takeOut key).registry.find? released) (item : Item)
    (context : ContextId) : ∃ all, Stores s (s'.put key item context) key item context all := by
  obtain ⟨later, hput, hlater⟩ := Estate.stores_put h.parting?_of_find? item context
  obtain ⟨number, hlow, hhigh, hstored⟩ := hput.stored
  refine ⟨released ++ later, ?_, ⟨number, Nat.le_trans h.serial hlow, hhigh, hstored⟩, ?_⟩
  · rw [hput.departures, h.departures, List.append_assoc]
    rfl
  · intro other hother
    -- only what was released before leaves anything, and putting leaves other keys alone
    have hsettled := h.lookup other
    rw [find?_takeOut, if_neg hother] at hsettled
    have hnone : ∀ d ∈ later, d.wordFor? other = none :=
      fun d hd => Departure.wordFor?_eq_none (hlater d hd) other
    rw [(asLeft_of_none hnone).mp (hput.lookup other hother)]
    exact (asLeft_append_of_none hnone).mpr hsettled

theorem store_of_find?_none {s : Estate} {key : String} (h : s.registry.find? key = none)
    (item : Item) (context : ContextId) : s.store key item context = s.put key item context := by
  rw [store]
  split
  next => rfl
  next r hr =>
    rw [h] at hr
    cases hr

/-- What stood under the key is taken out and let go of first. -/
theorem store_of_find?_some {s : Estate} {key : String} {r : Reference Parcel}
    (h : s.registry.find? key = some r) (item : Item) (context : ContextId) :
    s.store key item context = ((s.takeOut key).letGo r.handle).put key item context := by
  rw [store]
  split
  next hr =>
    rw [h] at hr
    cases hr
  next r' hr =>
    rw [h] at hr
    cases hr
    rfl

/-- Nothing is released while there is another owner. -/
theorem letGo_of_owns {s : Estate} {h : Handle Parcel} (howns : s.owns h.serial = true) :
    s.letGo h = s := by
  rw [letGo, if_pos howns]

theorem letGo_of_parting?_none {s : Estate} {h : Handle Parcel} (howns : ¬ s.owns h.serial = true)
    (hparting : h.value.item.parting? = none) : s.letGo h = s.depart h := by
  rw [letGo, if_neg howns, hparting]

/-- The last owner releases the value, and then the word that it leaves is stored. -/
theorem letGo_of_parting?_some {s : Estate} {h : Handle Parcel} (howns : ¬ s.owns h.serial = true)
    {key : String} {n : UInt32} (hparting : h.value.item.parting? = some (key, n)) :
    s.letGo h = (s.depart h).store key (.word n) partingContext := by
  rw [letGo, if_neg howns, hparting]

/-- **Storing and letting go change no more than they should**, however far the releases go that
they lead to. -/
theorem stores_store_and_settles_letGo :
    (∀ (s : Estate) (key : String) (item : Item) (context : ContextId),
      ∃ released, Stores s (s.store key item context) key item context released)
    ∧ ∀ (s : Estate) (h : Handle Parcel),
      ∃ released, Settles s (s.letGo h) s.registry.find? released := by
  -- along the releases: a store lets go of what it takes out, and a release stores a word
  refine store.mutual_induct
    (fun s key item context =>
      ∃ released, Stores s (s.store key item context) key item context released)
    (fun s h => ∃ released, Settles s (s.letGo h) s.registry.find? released) ?_ ?_ ?_ ?_ ?_
  · intro s key item context hnone
    have hplain : ∀ r, s.registry.find? key = some r → r.handle.value.item.parting? = none := by
      rw [hnone]
      exact nofun
    obtain ⟨released, hstores, -⟩ := stores_put hplain item context
    rw [store_of_find?_none hnone]
    exact ⟨released, hstores⟩
  · rintro s key item context r hr ⟨released, hsettles⟩
    rw [store_of_find?_some hr]
    exact hsettles.stores_put item context
  · intro s h howns
    rw [letGo_of_owns howns]
    exact ⟨[], Settles.refl s⟩
  · intro s h howns hparting
    rw [letGo_of_parting?_none howns hparting]
    refine ⟨[⟨h, s.registry.contains h.value.home⟩], rfl, Nat.le_refl _, fun key => ?_⟩
    exact (asLeft_cons_of_none (Departure.wordFor?_eq_none hparting key)).mpr (asLeft_nil _ _ _)
  · rintro s h howns key n hparting ⟨released, hstores⟩
    rw [letGo_of_parting?_some howns hparting]
    let d : Departure := ⟨h, s.registry.contains h.value.home⟩
    obtain ⟨number, hlow, hhigh, hstored⟩ := hstores.stored
    refine ⟨d :: released, ?_, Nat.le_trans hlow (Nat.le_of_lt hhigh), fun other => ?_⟩
    · rw [hstores.departures]
      exact List.append_assoc _ [d] released
    · by_cases hother : other = key
      · -- the word of this release is put in last
        subst hother
        have hword : d.wordFor? other = some n := by
          rw [Departure.wordFor?, hparting]
          exact if_pos rfl
        rw [AsLeft, leftBy, List.findSome?_cons, hword]
        exact ⟨number, hlow, hstored⟩
      · have hword : d.wordFor? other = none := by
          rw [Departure.wordFor?, hparting]
          exact if_neg fun heq => hother heq.symm
        exact (asLeft_cons_of_none hword).mpr (hstores.lookup other hother)

/-! ## Commands -/

/-- What a registry may be asked for. -/
inductive Command where
  | store (key : String) (item : Item) (context : ContextId)
  | remove (key : String)
  /-- Take on a copy of a stored handle, which is one more owner of its value. -/
  | hold (key : String)
  | unhold (key : String)
  | get (key : String)
  | reference (key : String)
  | getAs (key : String) (type : ItemType)
  | contains (key : String)
  | keys
  | size

/-- What is learned from a command. -/
inductive Answer where
  | done
  | flag (value : Bool)
  | handle (h : Handle Parcel)
  | reference (r : Reference Parcel)
  | item (i : Item)
  | keys (keys : List String)
  | number (n : Nat)
  | failure (e : RegistryError)

/-- The answer of a look-up. -/
def Answer.ofResult {α : Type} (answer : α → Answer) : Except RegistryError α → Answer
  | .ok a => answer a
  | .error e => .failure e

/-- Does what a command asks for. -/
def perform (s : Estate) : Command → Estate × Answer
  | .store key item context => (s.store key item context, .done)
  | .remove key => ((s.remove key).1, .flag (s.remove key).2)
  | .hold key =>
    match s.hold key with
    | .ok s' => (s', .done)
    | .error e => (s, .failure e)
  | .unhold key => ((s.unhold key).1, .flag (s.unhold key).2)
  | .get key => (s, .ofResult (fun r => .handle r.handle) (s.registry.get key))
  | .reference key => (s, .ofResult .reference (s.registry.get key))
  | .getAs key type => (s, .ofResult .item (s.getAs key type))
  | .contains key => (s, .flag (s.registry.contains key))
  | .keys => (s, .keys s.registry.keys)
  | .size => (s, .number s.registry.size)

/-- The estate after commands, one after the other. -/
def after (s : Estate) (commands : List Command) : Estate :=
  commands.foldl (fun s c => (s.perform c).1) s

/-- What a finite map would answer to a command, and how it would change: the map is what is found
under the keys. Values that are released on the way may leave words there, and nothing else. -/
def Obeys (s : Estate) (command : Command) (answer : Answer) (s' : Estate) : Prop :=
  let found := s.registry.find?
  match command with
  | .store key item context =>
    answer = .done ∧ ∃ released, Stores s s' key item context released
  | .remove key =>
    answer = .flag (found key).isSome ∧ (found key = none → s' = s)
      ∧ ∃ released, Settles s s' (fun other => if other = key then none else found other) released
  | .hold key =>
    (found key = none → answer = .failure (.notFound key) ∧ s' = s)
      ∧ (found key ≠ none → answer = .done)
      ∧ ∃ released, Settles s s' found released
  | .unhold key =>
    answer = .flag (s.held.lookup key).isSome ∧ ∃ released, Settles s s' found released
  | .get key =>
    s' = s ∧ (∀ h, answer = .handle h ↔ ∃ r, found key = some r ∧ h = r.handle)
      ∧ (answer = .failure (.notFound key) ↔ found key = none)
  | .reference key =>
    s' = s ∧ (∀ r, answer = .reference r ↔ found key = some r)
      ∧ (answer = .failure (.notFound key) ↔ found key = none)
  | .getAs key type =>
    s' = s ∧ (answer = .failure (.notFound key) ↔ found key = none)
      ∧ (answer = .failure (.wrongType key type.name)
          ↔ ∃ r, found key = some r ∧ r.handle.value.item.type? ≠ some type)
      ∧ ∀ i, answer = .item i
          ↔ ∃ r, found key = some r ∧ r.handle.value.item.type? = some type
              ∧ i = r.handle.value.item
  | .contains key => s' = s ∧ answer = .flag (found key).isSome
  | .keys =>
    s' = s ∧ ∃ keys : List String, answer = .keys keys ∧ keys.Nodup
      ∧ ∀ key, key ∈ keys ↔ (found key).isSome
  | .size =>
    s' = s ∧ ∃ keys : List String, answer = .number keys.length ∧ keys.Nodup
      ∧ ∀ key, key ∈ keys ↔ (found key).isSome

/-- Letting go changes the registry no more than it should, whatever else has been changed before.
-/
theorem exists_settles_letGo {s t : Estate} (h : Handle Parcel)
    (hdepartures : t.departures = s.departures) (hserial : t.nextSerial = s.nextSerial) :
    ∃ released, Settles s (t.letGo h) t.registry.find? released := by
  obtain ⟨released, hsettles⟩ := stores_store_and_settles_letGo.2 t h
  refine ⟨released, ?_, ?_, ?_⟩
  · rw [hsettles.departures, hdepartures]
  · rw [← hserial]
    exact hsettles.serial
  · rw [← hserial]
    exact hsettles.lookup

theorem remove_of_find?_none {s : Estate} {key : String} (h : s.registry.find? key = none) :
    s.remove key = (s, false) := by
  rw [remove, h]

/-- What is removed is taken out before it is let go of. -/
theorem remove_of_find?_some {s : Estate} {key : String} {r : Reference Parcel}
    (h : s.registry.find? key = some r) :
    s.remove key = ((s.takeOut key).letGo r.handle, true) := by
  rw [remove, h]

theorem unhold_of_lookup_none {s : Estate} {key : String} (h : s.held.lookup key = none) :
    s.unhold key = (s, false) := by
  rw [unhold, h]

/-- A copy that is given up is let go of. -/
theorem unhold_of_lookup_some {s : Estate} {key : String} {h : Handle Parcel}
    (hheld : s.held.lookup key = some h) :
    s.unhold key = ({ s with held := s.held.filter fun e => e.1 != key }.letGo h, true) := by
  rw [unhold, hheld]

theorem hold_of_find?_none {s : Estate} {key : String} (h : s.registry.find? key = none) :
    s.hold key = .error (.notFound key) := by
  rw [hold, Registry.get, h]
  rfl

/-- The estate with a copy of a handle held under a key, in place of any that was held. -/
def keeping (s : Estate) (key : String) (h : Handle Parcel) : Estate :=
  { s with held := (key, h) :: s.held.filter fun e => e.1 != key }

/-- A copy takes the place of the one that was held, and that one is let go of. -/
theorem hold_of_find?_some {s : Estate} {key : String} {r : Reference Parcel}
    (h : s.registry.find? key = some r) :
    s.hold key = .ok (match s.held.lookup key with
      | none => s.keeping key r.handle
      | some old => (s.keeping key r.handle).letGo old) := by
  rw [hold, Registry.get, h]
  show (match s.held.lookup key with | none => _ | some old => _ : Except RegistryError Estate) = _
  cases s.held.lookup key <;> rfl

theorem getAs_of_find?_none {s : Estate} {key : String} (h : s.registry.find? key = none)
    (type : ItemType) : s.getAs key type = .error (.notFound key) := by
  rw [getAs, Registry.getAs_of_find?_none _ _ _ _ h]
  rfl

/-- A value is given as the type that it has, and as no other. -/
theorem getAs_of_find?_some {s : Estate} {key : String} {r : Reference Parcel}
    (h : s.registry.find? key = some r) (type : ItemType) :
    s.getAs key type =
      if r.handle.value.item.type? = some type then .ok r.handle.value.item
      else .error (.wrongType key type.name) := by
  rw [getAs, Registry.getAs_of_find?_some _ _ _ _ h, Item.ofType?_eq]
  by_cases htype : r.handle.value.item.type? = some type
  · rw [if_pos htype, if_pos htype]
    rfl
  · rw [if_neg htype, if_neg htype]
    rfl

/-- A removal tells whether something stood under the key, and leaves there what the release of it
leaves behind. -/
theorem obeys_remove (s : Estate) (key : String) :
    Obeys s (.remove key) (s.perform (.remove key)).2 (s.perform (.remove key)).1 := by
  cases hfind : s.registry.find? key with
  | none =>
    rw [perform, remove_of_find?_none hfind]
    refine ⟨by rw [hfind]; rfl, fun _ => rfl, [], (List.append_nil _).symm, Nat.le_refl _, ?_⟩
    intro other
    split
    next h => rw [h]; exact hfind
    next => exact asLeft_nil _ _ _
  | some r =>
    rw [perform, remove_of_find?_some hfind]
    refine ⟨by rw [hfind]; rfl, fun hnone => absurd (hfind ▸ hnone) nofun, ?_⟩
    -- the entry is gone before its release begins, whatever the release stores
    obtain ⟨released, hsettles⟩ := exists_settles_letGo (s := s) (t := s.takeOut key) r.handle
      rfl rfl
    have hbase : (s.takeOut key).registry.find?
        = fun other => if other = key then none else s.registry.find? other :=
      funext (find?_takeOut s key)
    exact ⟨released, hbase ▸ hsettles⟩

/-- Holding a copy changes nothing in the registry, but what the former copy leaves behind. -/
theorem obeys_hold (s : Estate) (key : String) :
    Obeys s (.hold key) (s.perform (.hold key)).2 (s.perform (.hold key)).1 := by
  cases hfind : s.registry.find? key with
  | none =>
    have hperform : s.perform (.hold key) = (s, .failure (.notFound key)) := by
      rw [perform, hold_of_find?_none hfind]
    rw [hperform]
    exact ⟨fun _ => ⟨rfl, rfl⟩, fun h => absurd hfind h, [], Settles.refl s⟩
  | some r =>
    rw [perform, hold_of_find?_some hfind]
    refine ⟨fun hnone => absurd (hfind ▸ hnone) nofun, fun _ => rfl, ?_⟩
    -- the copy that was held so far is let go of
    cases s.held.lookup key with
    | none => exact ⟨[], (List.append_nil _).symm, Nat.le_refl _, fun _ => asLeft_nil _ _ _⟩
    | some old => exact exists_settles_letGo (t := s.keeping key r.handle) old rfl rfl

/-- So does giving it up. -/
theorem obeys_unhold (s : Estate) (key : String) :
    Obeys s (.unhold key) (s.perform (.unhold key)).2 (s.perform (.unhold key)).1 := by
  cases hheld : s.held.lookup key with
  | none =>
    rw [perform, unhold_of_lookup_none hheld]
    exact ⟨by rw [hheld]; rfl, [], Settles.refl s⟩
  | some old =>
    rw [perform, unhold_of_lookup_some hheld]
    exact ⟨by rw [hheld]; rfl,
      exists_settles_letGo (t := { s with held := s.held.filter fun e => e.1 != key }) old rfl rfl⟩

/-- A look-up by type tells a missing key from a value of another type, and changes nothing. -/
theorem obeys_getAs (s : Estate) (key : String) (type : ItemType) :
    Obeys s (.getAs key type) (s.perform (.getAs key type)).2 (s.perform (.getAs key type)).1 := by
  cases hfind : s.registry.find? key with
  | none =>
    rw [perform, getAs_of_find?_none hfind]
    exact ⟨rfl, by simp [Answer.ofResult, hfind]⟩
  | some r =>
    rw [perform, getAs_of_find?_some hfind]
    refine ⟨rfl, ?_⟩
    by_cases htype : r.handle.value.item.type? = some type
    · simp [Answer.ofResult, hfind, htype, eq_comm]
    · simp [Answer.ofResult, hfind, htype]

/-- **A registry is a finite map**, whatever its values do when they are released. After any
commands, the answer to the next one and what it changes are those of a map with one entry at most
to a key; other keys than the one that is written to change only by words that releases leave. -/
theorem obeys_perform (s : Estate) (before : List Command) (c : Command) :
    let t := s.after before
    Obeys t c (t.perform c).2 (t.perform c).1 := by
  intro t
  -- only the estate at hand matters, not how it came about
  generalize t = s
  cases c with
  | store key item context => exact ⟨rfl, stores_store_and_settles_letGo.1 s key item context⟩
  | remove key => exact obeys_remove s key
  | hold key => exact obeys_hold s key
  | unhold key => exact obeys_unhold s key
  | get key =>
    refine ⟨rfl, fun h => ?_, ?_⟩
    all_goals
      rw [perform, Registry.get]
      cases s.registry.find? key <;> simp [Answer.ofResult, eq_comm]
  | reference key =>
    refine ⟨rfl, fun r => ?_, ?_⟩
    all_goals
      rw [perform, Registry.get]
      cases s.registry.find? key <;> simp [Answer.ofResult]
  | getAs key type => exact obeys_getAs s key type
  | contains key => exact ⟨rfl, rfl⟩
  | keys =>
    refine ⟨rfl, s.registry.keys, rfl, s.registry.nodup_keys, fun key => ?_⟩
    exact Registry.contains_eq_true_iff.symm
  | size =>
    refine ⟨rfl, s.registry.keys, ?_, s.registry.nodup_keys, fun key => ?_⟩
    · rw [Registry.length_keys]
      rfl
    · exact Registry.contains_eq_true_iff.symm

end Estate

end TunnelHost
