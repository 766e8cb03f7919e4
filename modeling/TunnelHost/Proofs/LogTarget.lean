import Mathlib.Data.List.Basic
import Mathlib.Data.List.Induction
import TunnelHost.Proofs.BoardRegistries

/-!
# Who a line goes to

Where a line goes is told by what has happened before: it goes to the handler that was registered
last, as long as the registry of that registration has an owner and nothing else was done under its
handler key. Nothing else is asked of a history. In particular a handler may do whatever it likes
from inside its call: what it does is part of the history, next after the line that called it.

- `Motion`, `Switchboard.move`, `replay`: what bears on where lines go, and a board after all of it.
- `Stands`: the handler that a line goes to, as the history tells.
- `receiver?_replay_iff`: the board finds the same one.
- `Deliveries`, `deliveries_replay`: all calls of handlers, line by line.
-/

namespace TunnelHost

/-- Something that bears on where lines go. -/
inductive Motion where
  /-- A registry comes into being. -/
  | add
  /-- The last owner of a registry goes. -/
  | drop (registry : Nat)
  /-- Something new is stored, other than a handler. -/
  | store (registry : Nat) (key : String) (content : Content) (context : ContextId)
      (other : content.handler? = none)
  /-- Something is stored that stands elsewhere already, other than a handler. -/
  | share (registry : Nat) (key : String) (r : Reference Content)
      (other : r.handle.value.handler? = none)
  | remove (registry : Nat) (key : String)
  /-- A handler is registered, for an engine if one is told. -/
  | register (registry : Nat) (context : ContextId) (engine : Option Nat) (handler : Handler)
  | forward (line : String)

namespace Motion

/-- Whether it is a line that is to be delivered. -/
def isForward : Motion → Bool
  | forward _ => true
  | _ => false

/-- After this no line goes to the handler that stood in a registry: something else is done under
its handler key, or a handler is registered, there or elsewhere. -/
def Displaces (r : Nat) : Motion → Prop
  | add => False
  | drop _ => False
  | store registry key _ _ _ => registry = r ∧ key = handlerKey
  | share registry key _ _ => registry = r ∧ key = handlerKey
  | remove registry key => registry = r ∧ key = handlerKey
  | register _ _ _ _ => True
  | forward _ => False

/-- What becomes of the handler that lines go to: a line is its call, and it may be the first. -/
def leave (x : Handler) : Motion → Handler
  | forward _ => x.spent
  | _ => x

end Motion

namespace Switchboard

/-- The board after it. -/
def move (b : Switchboard) : Motion → Switchboard
  | .add => b.addRegistry.2
  | .drop r => b.dropRegistry r
  | .store r key content context _ => b.store r key content context
  | .share r key x _ => b.share r key x
  | .remove r key => (b.remove r key).1
  | .register r context engine x => b.register r context engine x
  | .forward line =>
    match b.receiver? with
    | none => b
    | some (r, _, x) => (b.note x.label line).spend r

end Switchboard

/-- The board after all that has happened. -/
def replay (history : List Motion) : Switchboard := history.foldl .move {}

theorem replay_append_singleton (past : List Motion) (m : Motion) :
    replay (past ++ [m]) = (replay past).move m := List.foldl_append

/-- The handler that a line goes to, as the history tells. It is the one of the latest registration,
in a registry that had an owner then and has one still, and whose handler key was left alone since.
It is spent if a line was delivered since. -/
def Stands (past : List Motion) (r : Nat) (context : ContextId) (x : Handler) : Prop :=
  ∃ before engine first after, past = before ++ .register r context engine first :: after
    ∧ r ∈ (replay before).ids ∧ r ∈ (replay past).ids
    ∧ (∀ m ∈ after, ¬ m.Displaces r)
    ∧ x = if after.any Motion.isForward then first.spent else first

/-- All calls of handlers, each with its label and the line, as the history tells: a line is
delivered once to the handler that stands then, and to nobody if there is none. -/
inductive Deliveries : List Motion → List (String × String) → Prop where
  | nil : Deliveries [] []
  | delivered {past : List Motion} {calls : List (String × String)} {line : String} {r : Nat}
      {context : ContextId} {x : Handler} :
      Deliveries past calls → Stands past r context x →
      Deliveries (past ++ [.forward line]) (calls ++ [(x.label, line)])
  | dropped {past : List Motion} {calls : List (String × String)} {line : String} :
      Deliveries past calls → (∀ r context x, ¬ Stands past r context x) →
      Deliveries (past ++ [.forward line]) calls
  | other {past : List Motion} {calls : List (String × String)} {m : Motion} :
      Deliveries past calls → m.isForward = false → Deliveries (past ++ [m]) calls

namespace Switchboard

variable {b : Switchboard} {r id : Nat} {key : String} {context : ContextId} {x : Handler}

/-! ## Registries come and go -/

theorem nextRegistry_remove (b : Switchboard) (id : Nat) (key : String) :
    (b.remove id key).1.nextRegistry = b.nextRegistry := by
  rw [remove]
  split <;> rfl

/-- Registries come by being added and go by being dropped, and by nothing else. -/
theorem ids_move (b : Switchboard) (m : Motion) :
    (b.move m).ids =
      match m with
      | .add => b.ids ++ [b.nextRegistry]
      | .drop r => b.ids.filter (· != r)
      | _ => b.ids := by
  cases m with
  | add => exact ids_addRegistry b
  | drop r => exact ids_dropRegistry b r
  | store r key content context other => exact ids_store b r key content context
  | share r key c other => exact ids_modify b r _
  | remove r key => exact ids_remove b r key
  | register r context engine x => exact ids_register b r context engine x
  | forward line =>
    rw [move]
    split
    · rfl
    · exact ids_modify _ _ _

theorem nextRegistry_move (b : Switchboard) (m : Motion) :
    (b.move m).nextRegistry =
      match m with
      | .add => b.nextRegistry + 1
      | _ => b.nextRegistry := by
  cases m with
  | remove r key => exact nextRegistry_remove b r key
  | register r context engine x =>
    rw [move, register, wire_eq]
    rfl
  | forward line =>
    rw [move]
    split <;> rfl
  | _ => rfl

/-- No motion gives a number to two registries. -/
theorem Distinct.move (h : b.Distinct) (m : Motion) : (b.move m).Distinct := by
  cases m with
  | add => exact h.addRegistry
  | drop r => exact h.dropRegistry r
  | store r key content context other => exact h.of_ids (ids_move b _) (nextRegistry_move b _)
  | share r key c other => exact h.of_ids (ids_move b _) (nextRegistry_move b _)
  | remove r key => exact h.of_ids (ids_move b _) (nextRegistry_move b _)
  | register r context engine x => exact h.of_ids (ids_move b _) (nextRegistry_move b _)
  | forward line => exact h.of_ids (ids_move b _) (nextRegistry_move b _)

/-- The numbers of registries only grow. -/
theorem nextRegistry_le_move (b : Switchboard) (m : Motion) :
    b.nextRegistry ≤ (b.move m).nextRegistry := by
  rw [nextRegistry_move]
  cases m with
  | add => exact Nat.le_succ _
  | _ => exact Nat.le_refl _

/-- A registry has an owner until it is dropped. -/
theorem mem_ids_move_iff (h : r ∈ b.ids) (m : Motion) : r ∈ (b.move m).ids ↔ m ≠ .drop r := by
  rw [ids_move]
  cases m with
  | add => exact iff_of_true (List.mem_append_left _ h) nofun
  | drop id =>
    rw [List.mem_filter, bne_iff_ne, ne_comm, ne_eq, ne_eq, Motion.drop.injEq]
    exact and_iff_right h
  | _ => exact iff_of_true h nofun

/-- A registry that has an owner after a motion had one before, or is new. -/
theorem mem_ids_or_of_mem_ids_move {m : Motion} (h : r ∈ (b.move m).ids) :
    r ∈ b.ids ∨ r = b.nextRegistry := by
  rw [ids_move] at h
  cases m with
  | add => exact (List.mem_append.mp h).imp_right List.mem_singleton.mp
  | drop id => exact .inl (List.mem_filter.mp h).1
  | _ => exact .inl h

/-! ## One motion -/

/-- What a motion has to do that is no registration and no line: it leaves alone what it does not
displace, and no handler stands where it displaces one. -/
theorem receiver?_iff_of_posted? {b' : Switchboard} {displaced : Prop}
    (hanchor : b'.anchor = b.anchor) (hkept : ¬ displaced → b'.posted? r = b.posted? r)
    (hgone : displaced → ∀ serial, b'.posted? r ≠ some ⟨⟨serial, .handler x⟩, context⟩) :
    b'.receiver? = some (r, context, x)
      ↔ ¬ displaced ∧ b.receiver? = some (r, context, x) := by
  rw [receiver?_eq_some_iff, receiver?_eq_some_iff, hanchor]
  by_cases hdisplaced : displaced
  · constructor
    · rintro ⟨-, serial, hposted⟩
      exact absurd hposted (hgone hdisplaced serial)
    · rintro ⟨hnot, -⟩
      exact absurd hdisplaced hnot
  · rw [hkept hdisplaced]
    exact (and_iff_right hdisplaced).symm

theorem receiver?_addRegistry_iff :
    b.addRegistry.2.receiver? = some (r, context, x) ↔ b.receiver? = some (r, context, x) := by
  rw [receiver?_eq_some_iff, posted?_addRegistry, receiver?_eq_some_iff]
  rfl

/-- The receiver goes with its registry. -/
theorem receiver?_dropRegistry_iff :
    (b.dropRegistry id).receiver? = some (r, context, x)
      ↔ ¬ id = r ∧ b.receiver? = some (r, context, x) := by
  refine receiver?_iff_of_posted? rfl (fun hkept => ?_) fun hgone serial => ?_
  · rw [posted?, registry?_dropRegistry, if_neg (Ne.symm hkept), posted?]
  · rw [posted?, registry?_dropRegistry, if_pos hgone.symm]
    intro hposted
    cases hposted

/-- What is put in place of a handler is none. -/
theorem receiver?_put_iff {c : Reference Content} (hother : c.handle.value.handler? = none) :
    (b.modify id (·.insert key c)).receiver? = some (r, context, x)
      ↔ ¬ (id = r ∧ key = handlerKey) ∧ b.receiver? = some (r, context, x) := by
  refine receiver?_iff_of_posted? rfl (fun hkept => ?_) fun hgone serial hposted => ?_
  · rw [posted?_put, if_neg hkept]
  · rw [posted?_put, if_pos hgone] at hposted
    obtain ⟨-, -, rfl⟩ := Option.map_eq_some_iff.mp hposted
    cases hother

/-- A removal of the handler key takes the receiver away, if it stood in this registry. -/
theorem receiver?_remove_iff :
    (b.remove id key).1.receiver? = some (r, context, x)
      ↔ ¬ (id = r ∧ key = handlerKey) ∧ b.receiver? = some (r, context, x) := by
  refine receiver?_iff_of_posted? (anchor_remove b id key) (fun hkept => ?_) fun hgone serial => ?_
  · rw [posted?_remove, if_neg hkept]
  · rw [posted?_remove, if_pos hgone]
    exact nofun

/-- A new registration displaces every other, and stands if its registry has an owner. -/
theorem receiver?_register_iff {context' : ContextId} {engine : Option Nat} {x' : Handler} :
    (b.register id context' engine x').receiver? = some (r, context, x)
      ↔ (id = r ∧ context' = context ∧ x' = x) ∧ r ∈ b.ids := by
  rw [receiver?_eq_some_iff]
  -- a registration posts its handler under the one key for handlers
  have hposted : (b.register id context' engine x').posted? r
      = if id = r ∧ handlerKey = handlerKey
          then (b.registry? r).map fun _ => ⟨⟨b.nextSerial, .handler x'⟩, context'⟩
          else b.posted? r := by
    rw [register, wire_eq]
    exact posted?_put { b with nextSerial := b.nextSerial + 1 } id handlerKey _ r
  rw [hposted, show (b.register id context' engine x').anchor = some id from rfl,
    Option.some.injEq, mem_ids_iff]
  constructor
  · rintro ⟨rfl, serial, hposted⟩
    rw [if_pos ⟨rfl, rfl⟩] at hposted
    obtain ⟨registry, hregistry, heq⟩ := Option.map_eq_some_iff.mp hposted
    cases heq
    exact ⟨⟨rfl, rfl, rfl⟩, registry, hregistry⟩
  · rintro ⟨⟨rfl, rfl, rfl⟩, registry, hregistry⟩
    refine ⟨rfl, b.nextSerial, ?_⟩
    rw [if_pos ⟨rfl, rfl⟩]
    exact Option.map_eq_some_iff.mpr ⟨registry, hregistry, rfl⟩

/-- A line leaves the handler that it goes to in its place, with its first call behind it. -/
theorem receiver?_spend_iff {x' : Handler} {context' : ContextId}
    (hreceiver : b.receiver? = some (id, context', x')) :
    (b.spend id).receiver? = some (r, context, x)
      ↔ id = r ∧ context' = context ∧ x'.spent = x := by
  obtain ⟨hanchor, serial, hposted⟩ := receiver?_eq_some_iff.mp hreceiver
  obtain ⟨registry, hregistry, hfind⟩ := Option.bind_eq_some_iff.mp hposted
  -- a spent handler stands where it stood, with its serial and context
  have hspent : (b.spend id).posted? id = some ⟨⟨serial, .handler x'.spent⟩, context'⟩ := by
    rw [spend, posted?_modify_self, hregistry]
    show Registry.find? (match registry.find? handlerKey with | _ => _) handlerKey = _
    rw [hfind]
    exact Registry.find?_insert_self _ _ _
  rw [receiver?_eq_some_iff]
  constructor
  · rintro ⟨hanchor', serial', hposted'⟩
    cases hanchor.symm.trans hanchor'
    rw [hspent] at hposted'
    cases hposted'
    exact ⟨rfl, rfl, rfl⟩
  · rintro ⟨rfl, rfl, rfl⟩
    exact ⟨hanchor, serial, hspent⟩

/-- A line leaves its receiver in place, with what it did spent. -/
theorem receiver?_forward_iff {line : String} :
    (b.move (.forward line)).receiver? = some (r, context, x)
      ↔ ∃ first, b.receiver? = some (r, context, first) ∧ x = first.spent := by
  rw [move]
  cases hreceiver : b.receiver? with
  | none => simp [hreceiver]
  | some receiver =>
    obtain ⟨id, context', x'⟩ := receiver
    have hnoted : (b.note x'.label line).receiver? = some (id, context', x') := hreceiver
    rw [receiver?_spend_iff hnoted]
    constructor
    · rintro ⟨rfl, rfl, rfl⟩
      exact ⟨x', rfl, rfl⟩
    · rintro ⟨first, heq, rfl⟩
      cases heq
      exact ⟨rfl, rfl, rfl⟩

/-- **Who a line goes to after a motion**: the handler that it registers, or the one that a line
went to before, unless it displaces it. -/
theorem receiver?_move_iff (b : Switchboard) (m : Motion) (r : Nat) (context : ContextId)
    (x : Handler) :
    (b.move m).receiver? = some (r, context, x)
      ↔ ((∃ engine, m = .register r context engine x) ∧ r ∈ b.ids)
        ∨ (¬ m.Displaces r ∧ m ≠ .drop r)
          ∧ ∃ first, b.receiver? = some (r, context, first) ∧ x = m.leave first := by
  cases m with
  | register id context' engine x' =>
    refine receiver?_register_iff.trans (and_congr_left' ?_ |>.trans
      (or_iff_left fun h => h.1.1 trivial).symm)
    simp only [Motion.register.injEq, exists_and_left, exists_and_right, exists_eq', true_and]
  | forward line =>
    refine receiver?_forward_iff.trans ?_
    simp [Motion.Displaces, Motion.leave]
  | add =>
    refine receiver?_addRegistry_iff.trans ?_
    simp [Motion.Displaces, Motion.leave]
  | drop id =>
    refine receiver?_dropRegistry_iff.trans ?_
    simp [Motion.Displaces, Motion.leave]
  | store id key content context' other =>
    -- the next serial number is no part of who a line goes to
    have hput : (b.move (.store id key content context' other)).receiver? = some (r, context, x)
        ↔ ¬ (id = r ∧ key = handlerKey) ∧ b.receiver? = some (r, context, x) :=
      receiver?_put_iff (b := { b with nextSerial := b.nextSerial + 1 }) other
    refine hput.trans ?_
    simp [Motion.Displaces, Motion.leave]
  | share id key c other =>
    refine (receiver?_put_iff other).trans ?_
    simp [Motion.Displaces, Motion.leave]
  | remove id key =>
    refine receiver?_remove_iff.trans ?_
    simp [Motion.Displaces, Motion.leave]

/-- A line is noted once if it goes to anyone, and nothing else is. -/
theorem record_move (b : Switchboard) (m : Motion) :
    (b.move m).record = b.record ++
      match m, b.receiver? with
      | .forward line, some (_, _, x) => [(x.label, line)]
      | _, _ => [] := by
  cases m with
  | forward line =>
    rw [move]
    cases b.receiver? with
    | none => exact (List.append_nil _).symm
    | some receiver => rfl
  | remove id key =>
    rw [List.append_nil, move, remove]
    split <;> rfl
  | add => exact (List.append_nil _).symm
  | drop id => exact (List.append_nil _).symm
  | store id key content context other => exact (List.append_nil _).symm
  | share id key c other => exact (List.append_nil _).symm
  | register id context engine x =>
    rw [List.append_nil, move, register, wire_eq]
    rfl

end Switchboard

/-! ## All that has happened -/

section History

variable {past : List Motion} {m : Motion} {r : Nat} {context : ContextId} {x : Handler}

/-- After any history the numbers of registries are distinct. -/
theorem distinct_replay (past : List Motion) : (replay past).Distinct := by
  induction past using List.reverseRecOn with
  | nil => exact ⟨List.nodup_nil, nofun⟩
  | append_singleton past m ih =>
    rw [replay_append_singleton]
    exact ih.move m

theorem not_stands_nil : ¬ Stands [] r context x := by
  rintro ⟨before, engine, first, after, h, -⟩
  exact absurd h.symm (by simp)

/-- A line makes a handler spent, and further lines leave it so. -/
theorem leave_spent_if (forwarded : Bool) (first : Handler) (m : Motion) :
    (if (forwarded || m.isForward) = true then first.spent else first)
      = m.leave (if forwarded = true then first.spent else first) := by
  cases forwarded <;> cases m <;> rfl

/-- The longer a history, the more numbers are taken. -/
theorem nextRegistry_le_replay_append (before after : List Motion) :
    (replay before).nextRegistry ≤ (replay (before ++ after)).nextRegistry := by
  induction after using List.reverseRecOn with
  | nil => exact Nat.le_of_eq (by rw [List.append_nil])
  | append_singleton after m ih =>
    rw [← List.append_assoc, replay_append_singleton]
    exact Nat.le_trans ih (Switchboard.nextRegistry_le_move _ m)

/-- A registry that had an owner and has one after a motion had one all the way: its number is not
given out again. -/
theorem mem_ids_replay_append {before after : List Motion} (hbefore : r ∈ (replay before).ids)
    (hafter : r ∈ (replay (before ++ after ++ [m])).ids) : r ∈ (replay (before ++ after)).ids := by
  rw [replay_append_singleton] at hafter
  rcases Switchboard.mem_ids_or_of_mem_ids_move hafter with hmem | rfl
  · exact hmem
  · have hlt := (distinct_replay before).fresh _ hbefore
    have hle := nextRegistry_le_replay_append before after
    omega

/-- The handler that stands after a motion was registered by it, or stood before. -/
theorem stands_append_singleton_iff :
    Stands (past ++ [m]) r context x
      ↔ ((∃ engine, m = .register r context engine x) ∧ r ∈ (replay past).ids)
        ∨ (¬ m.Displaces r ∧ m ≠ .drop r)
          ∧ ∃ first, Stands past r context first ∧ x = m.leave first := by
  constructor
  · rintro ⟨before, engine, first, after, hsplit, hbefore, hlive, hkept, rfl⟩
    -- the last motion is the registration itself, or comes after it
    rcases List.eq_nil_or_concat' after with rfl | ⟨after, last, rfl⟩
    · obtain ⟨rfl, hm⟩ := List.append_inj' hsplit rfl
      cases hm
      exact .inl ⟨⟨engine, rfl⟩, hbefore⟩
    · have hsplit' : past ++ [m]
          = (before ++ .register r context engine first :: after) ++ [last] := by
        rw [hsplit, List.append_assoc, List.cons_append]
      obtain ⟨rfl, hm⟩ := List.append_inj' hsplit' rfl
      cases hm
      have hpast := mem_ids_replay_append hbefore hlive
      rw [replay_append_singleton, Switchboard.mem_ids_move_iff hpast] at hlive
      refine .inr ⟨⟨hkept m (by simp), hlive⟩, _, ⟨before, engine, first, after, rfl, hbefore,
        hpast, fun m' hm' => hkept m' (by simp [hm']), rfl⟩, ?_⟩
      rw [List.any_append, List.any_cons, List.any_nil, Bool.or_false, leave_spent_if]
  · rintro (⟨⟨engine, rfl⟩, hpast⟩ | ⟨⟨hkept, hdrop⟩, _,
      ⟨before, engine, first, after, rfl, hbefore, hpast, hafter, rfl⟩, rfl⟩)
    · refine ⟨past, engine, x, [], rfl, hpast, ?_, nofun, rfl⟩
      rw [replay_append_singleton, Switchboard.mem_ids_move_iff hpast]
      exact nofun
    · refine ⟨before, engine, first, after ++ [m], by simp, hbefore, ?_, fun m' hm' => ?_, ?_⟩
      · rw [replay_append_singleton, Switchboard.mem_ids_move_iff hpast]
        exact hdrop
      · rcases List.mem_append.mp hm' with hm' | hm'
        · exact hafter m' hm'
        · rw [List.mem_singleton.mp hm']
          exact hkept
      · rw [List.any_append, List.any_cons, List.any_nil, Bool.or_false, leave_spent_if]

/-- **A line goes to the handler that stands**, and so to one at most. -/
theorem receiver?_replay_iff (past : List Motion) (r : Nat) (context : ContextId) (x : Handler) :
    (replay past).receiver? = some (r, context, x) ↔ Stands past r context x := by
  -- along the history; a motion does to the one what it does to the other
  induction past using List.reverseRecOn generalizing x with
  | nil => exact iff_of_false nofun not_stands_nil
  | append_singleton past m ih =>
    rw [replay_append_singleton, Switchboard.receiver?_move_iff, stands_append_singleton_iff]
    simp only [ih]

/-- **Each line is delivered once**, to the handler that stands when it comes, and to nobody if
there is none. -/
theorem deliveries_replay (history : List Motion) :
    Deliveries history (replay history).record := by
  induction history using List.reverseRecOn with
  | nil => exact .nil
  | append_singleton past m ih =>
    rw [replay_append_singleton, Switchboard.record_move]
    cases hforward : m.isForward with
    | false =>
      -- only a line adds to the record
      have hsilent : (match m, (replay past).receiver? with
          | .forward line, some (_, _, x) => [(x.label, line)]
          | _, _ => []) = [] := by
        cases m with
        | forward line => cases hforward
        | _ => rfl
      rw [hsilent, List.append_nil]
      exact .other ih hforward
    | true =>
      cases m with
      | forward line =>
        cases hreceiver : (replay past).receiver? with
        | none =>
          rw [List.append_nil]
          refine .dropped ih fun r context x hstands => ?_
          rw [← receiver?_replay_iff, hreceiver] at hstands
          cases hstands
        | some receiver =>
          exact .delivered ih ((receiver?_replay_iff _ _ _ _).mp hreceiver)
      | _ => cases hforward

end History

end TunnelHost
