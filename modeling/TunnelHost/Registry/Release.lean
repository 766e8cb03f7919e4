import TunnelHost.Registry.Basic

/-!
# Release of stored values

A value is owned by the registry that stores it and by everyone who holds a copy of its handle. When
the last owner goes, the value is released. A value may ask for a parting store: a word that goes
into the registry when the value is released, and that may push out another value, and so on.

Storing under a key takes the old value out first, lets go of it, and only then puts the new one in,
so that whatever is released meanwhile finds its own key free. What a parting store may have put
there in between gives way to the new value.

- `Item`, `Parcel`: values, and values with the key they were made for.
- `Estate`: a registry with the held copies and the releases so far.
- `Estate.store`, `Estate.letGo`: storing, and the departure of an owner. Each release takes a value
  out of the registry first, so a cascade of them ends.
- `Estate.remove`, `Estate.hold`, `Estate.unhold`: the other ways in which owners come and go.
-/

namespace TunnelHost

/-- A value that can be stored. -/
inductive Item where
  | word (n : UInt32)
  | text (s : String)
  | unit
  /-- A value that tells of its release, and may store a word under a key then. -/
  | probe (label : String) (parting : Option (String × UInt32))
  deriving DecidableEq, Repr

/-- The types of values, as far as they can be asked for. -/
inductive ItemType where
  | word
  | text
  | unit
  deriving DecidableEq, Repr

/-- How an error names a type. -/
def ItemType.name : ItemType → String
  | .word => "u32"
  | .text => "alloc::string::String"
  | .unit => "()"

/-- The value, if it is of a type. -/
def Item.ofType? : ItemType → Item → Option Item
  | .word, .word n => some (.word n)
  | .text, .text s => some (.text s)
  | .unit, .unit => some .unit
  | _, _ => none

/-- The word that a value stores when it is released, and the key that it stores it under. -/
def Item.parting? : Item → Option (String × UInt32)
  | .probe _ parting => parting
  | _ => none

/-- A value with the key it was first stored under. -/
structure Parcel where
  home : String
  item : Item
  deriving DecidableEq, Repr

/-- The release of a value, and whether anything was stored under its own key then. -/
structure Departure where
  handle : Handle Parcel
  present : Bool
  deriving DecidableEq

/-- A registry, the held copies of its handles, and the releases so far, first to last. -/
structure Estate where
  registry : Registry Parcel
  held : List (String × Handle Parcel)
  departures : List Departure
  nextSerial : Nat

namespace Estate

/-- The context of a parting store. -/
def partingContext : ContextId := ⟨1000⟩

/-- An estate without values. -/
def empty : Estate := ⟨.empty, [], [], 1⟩

/-- The number of values in the registry. -/
def size (s : Estate) : Nat := s.registry.size

/-- Whether a value has an owner. -/
def owns (s : Estate) (serial : Nat) : Bool :=
  (s.registry.entries.any fun e => e.2.handle.serial == serial)
    || s.held.any fun e => e.2.serial == serial

/-- Notes the release of a value. -/
def depart (s : Estate) (h : Handle Parcel) : Estate :=
  { s with departures := s.departures ++ [⟨h, s.registry.contains h.value.home⟩] }

/-- Takes out what is stored under a key. -/
def takeOut (s : Estate) (key : String) : Estate :=
  { s with registry := s.registry.erase key }

/-- Puts a new value under a key, in place of what stands there. -/
def insert (s : Estate) (key : String) (item : Item) (context : ContextId) : Estate :=
  { s with
    registry := s.registry.insert key ⟨⟨s.nextSerial, ⟨key, item⟩⟩, context⟩
    nextSerial := s.nextSerial + 1 }

/-- Puts a new value under a key. What stands there gives way, and is released if it has no other
owner; it was put there by a parting store and has none of its own. -/
def put (s : Estate) (key : String) (item : Item) (context : ContextId) : Estate :=
  let after := s.insert key item context
  match s.registry.find? key with
  | none => after
  | some r => if after.owns r.handle.serial then after else after.depart r.handle

theorem size_takeOut_lt {s : Estate} {key : String} {r : Reference Parcel}
    (h : s.registry.find? key = some r) : (s.takeOut key).size < s.size :=
  Registry.size_erase_lt h

mutual

/-- Stores a value: the old one is taken out and let go, then the new one is put in. -/
def store (s : Estate) (key : String) (item : Item) (context : ContextId) : Estate :=
  match _h : s.registry.find? key with
  | none => s.put key item context
  | some r => ((s.takeOut key).letGo r.handle).put key item context
termination_by 2 * s.size
decreasing_by have := size_takeOut_lt _h; omega

/-- Releases a value that an owner let go of, unless it has another, and makes its parting store. -/
def letGo (s : Estate) (h : Handle Parcel) : Estate :=
  if s.owns h.serial then s
  else
    match h.value.item.parting? with
    | none => s.depart h
    | some (key, n) => (s.depart h).store key (.word n) partingContext
termination_by 2 * s.size + 1
decreasing_by exact Nat.lt_succ_self _

end

/-- Removes what is stored under a key; tells whether there was anything. -/
def remove (s : Estate) (key : String) : Estate × Bool :=
  match s.registry.find? key with
  | none => (s, false)
  | some r => ((s.takeOut key).letGo r.handle, true)

/-- Lets go of the copy that is held under a key; tells whether there was one. -/
def unhold (s : Estate) (key : String) : Estate × Bool :=
  match s.held.lookup key with
  | none => (s, false)
  | some h => ({ s with held := s.held.filter fun e => e.1 != key }.letGo h, true)

/-- Holds a copy of the handle that is stored under a key, in place of any copy held so far. -/
def hold (s : Estate) (key : String) : Except RegistryError Estate := do
  let r ← s.registry.get key
  let old := s.held.lookup key
  let s := { s with held := (key, r.handle) :: s.held.filter fun e => e.1 != key }
  match old with
  | none => return s
  | some h => return s.letGo h

/-- The value under a key, if it is of a type. -/
def getAs (s : Estate) (key : String) (type : ItemType) : Except RegistryError Item :=
  (·.value) <$> s.registry.getAs key type.name fun p => p.item.ofType? type

end Estate

end TunnelHost
