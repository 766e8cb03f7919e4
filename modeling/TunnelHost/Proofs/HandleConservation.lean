import Mathlib.Data.Multiset.UnionInter
import TunnelHost.Proofs.SessionAffairs
import TunnelHost.Proofs.SessionSteps
import TunnelHost.Scripted

/-!
# Handles of the scripted engine

The scripted engine numbers the tunnels that it creates, and counts those that it is given back.
Whatever a host does, its sessions have one handle each, and the engine gets back those of the
sessions that have ended: once each, in the step that ends the session.

- `Direction`, `Move`, `staged`: runs over scripted engines.
- `Occurs`, `Ledger`: the affairs of a move, and of a run.
- `begun`, `returned`, `held`: the handles of sessions that began, that ended, and that live.
- `Balanced`: what began has ended or lives; one lemma for an affair, a move and a run.
- `handles_conserved`: the law.
-/

namespace TunnelHost.Scripted

/-! ## Runs -/

/-- What may be done to a scripted engine from outside. -/
inductive Direction where
  | push (o : Outcome)
  | refuse (refusing : Bool)
  | clearCalls

/-- The state after a direction. -/
def Direction.apply (s : State) : Direction → State
  | push o => s.push o
  | refuse refusing => { s with refusing }
  | clearCalls => s.clearCalls

/-- What a run over scripted engines is made of. -/
inductive Move where
  | step (s : Step UInt8)
  | direct (engine : Nat) (d : Direction)

/-- The host after a move. -/
def enact (h : Host engine) : Move → Host engine
  | .step s => (h.step s).1
  | .direct id d => h.setEngine id (d.apply (h.engineState id))

/-- The host that moves lead to, from one that has nothing in hand. -/
def staged (moves : List Move) : Host engine := moves.foldl enact {}

theorem staged_append_singleton (moves : List Move) (move : Move) :
    staged (moves ++ [move]) = enact (staged moves) move := List.foldl_append

/-- What happens in a move between sessions and engines. -/
inductive Occurs (h : Host engine) : Move → List (Affair engine) → Prop
  | step {s : Step UInt8} {affairs : List (Affair engine)}
      (hpasses : Passes h.stock affairs (h.step s).1.stock) : Occurs h (.step s) affairs
  | direct (id : Nat) (d : Direction) : Occurs h (.direct id d) []

/-- What happens in a run, one move after the other. -/
inductive Ledger : List Move → List (Affair engine) → Prop
  | nil : Ledger [] []
  | next {moves : List Move} {move : Move} {past now : List (Affair engine)}
      (hpast : Ledger moves past) (hnow : Occurs (staged moves) move now) :
      Ledger (moves ++ [move]) (past ++ now)

theorem tidy_enact {h : Host engine} (ht : h.Tidy) (move : Move) : (enact h move).Tidy := by
  cases move with
  | step s => exact ht.step s
  | direct id d => exact ⟨ht.keeps.setEngine id _, ht.sessions, ht.peers⟩

/-- Hosts are tidy after every run. -/
theorem tidy_staged (moves : List Move) : (staged moves).Tidy := by
  induction moves using List.reverseRecOn with
  | nil => exact Host.tidy_empty
  | append_singleton moves move ih =>
    rw [staged_append_singleton]
    exact tidy_enact ih move

/-- What a move does is made up of affairs. -/
theorem exists_occurs {h : Host engine} (ht : h.Tidy) (move : Move) :
    ∃ affairs, Occurs h move affairs := by
  cases move with
  | step s =>
    obtain ⟨affairs, hpasses⟩ := (Host.follows_step ht s).leads
    exact ⟨affairs, .step hpasses⟩
  | direct id d => exact ⟨[], .direct id d⟩

/-- Every run has a ledger. -/
theorem exists_ledger (moves : List Move) : ∃ affairs, Ledger moves affairs := by
  induction moves using List.reverseRecOn with
  | nil => exact ⟨[], .nil⟩
  | append_singleton moves move ih =>
    obtain ⟨past, hpast⟩ := ih
    obtain ⟨now, hnow⟩ := exists_occurs (tidy_staged moves) move
    exact ⟨past ++ now, .next hpast hnow⟩

/-! ## Handles -/

/-- The handle of a session. -/
def handleOf (s : Session engine) : Nat := s.tunnel

/-- The handle of a session, if it is of an engine. -/
def handleAt (id : Nat) (s : Session engine) : Option Nat :=
  if s.family.value.engine = id then some (handleOf s) else none

/-- The handles that an engine created, in order. -/
def begun (id : Nat) (affairs : List (Affair engine)) : List Nat :=
  affairs.flatMap fun
    | .begins s => (handleAt id s).toList
    | _ => []

/-- The handles that an engine was given back, in order. -/
def returned (id : Nat) (affairs : List (Affair engine)) : List Nat :=
  affairs.flatMap fun
    | .ends s => (handleAt id s).toList
    | _ => []

/-- The handles of an engine that sessions hold. -/
def held (id : Nat) (stock : Stock engine) : Multiset Nat := stock.live.filterMap (handleAt id)

/-- The number of tunnels that an engine has created. -/
def issued (id : Nat) (stock : Stock engine) : Nat := State.issued (stock.engineState id)

/-- The number of tunnels that an engine was given back. -/
def freed (id : Nat) (stock : Stock engine) : Nat := State.freed (stock.engineState id)

theorem begun_begins (id : Nat) (s : Session engine) :
    begun id [.begins s] = (handleAt id s).toList := List.append_nil _

theorem returned_ends (id : Nat) (s : Session engine) :
    returned id [.ends s] = (handleAt id s).toList := List.append_nil _

theorem begun_append (id : Nat) (affairs more : List (Affair engine)) :
    begun id (affairs ++ more) = begun id affairs ++ begun id more := List.flatMap_append

theorem returned_append (id : Nat) (affairs more : List (Affair engine)) :
    returned id (affairs ++ more) = returned id affairs ++ returned id more :=
  List.flatMap_append

/-- A live session holds its handle, beside those of the others. -/
theorem held_cons (id : Nat) (engines : List engine.State) (s : Session engine)
    (live : Multiset (Session engine)) :
    held id ⟨engines, s ::ₘ live⟩ = ↑(handleAt id s).toList + held id ⟨engines, live⟩ := by
  rw [held, held]
  cases hs : handleAt id s with
  | none =>
    rw [Multiset.filterMap_cons_none _ _ hs]
    exact (Multiset.zero_add _).symm
  | some x =>
    rw [Multiset.filterMap_cons_some _ _ _ hs]
    exact (Multiset.singleton_add x _).symm

/-! ## What the engine counts -/

section Calls

variable {a : TunnelArguments} {s s' : State} {handle : Nat}

/-- A refused creation counts for nothing. -/
theorem create_refused (h : create a s = (s', none)) :
    s'.issued = s.issued ∧ s'.freed = s.freed := by
  unfold create at h
  dsimp only at h
  split at h
  · cases h
    exact ⟨rfl, rfl⟩
  · cases h

/-- Handles are numbered in the order of their creation. -/
theorem create_created (h : create a s = (s', some handle)) :
    handle = s.issued + 1 ∧ s'.issued = s.issued + 1 ∧ s'.freed = s.freed := by
  unfold create at h
  dsimp only at h
  split at h
  · cases h
  · cases h
    exact ⟨rfl, rfl, rfl⟩

/-- Requests neither create tunnels nor give any back. -/
theorem play_counts {capacity : Nat} (r : Request UInt8) (handle : Nat)
    (buffer : Buffer UInt8 capacity) (s : State) :
    (play r handle buffer s).state.issued = s.issued
      ∧ (play r handle buffer s).state.freed = s.freed := by
  unfold play State.next State.record
  dsimp only
  cases s.script <;> exact ⟨rfl, rfl⟩

theorem apply_counts (s : State) (d : Direction) :
    (d.apply s).issued = s.issued ∧ (d.apply s).freed = s.freed := by
  cases d <;> exact ⟨rfl, rfl⟩

end Calls

/-! ## Balance -/

/-- What an engine counts is what the affairs say, and of what was held and what began, everything
was returned or is held. -/
structure Settles (id : Nat) (affairs : List (Affair engine)) (stock next : Stock engine) :
    Prop where
  issued : List.range' 1 (issued id next) = List.range' 1 (issued id stock) ++ begun id affairs
  freed : freed id next = freed id stock + (returned id affairs).length
  balance : ↑(returned id affairs) + held id next = held id stock + ↑(begun id affairs)

section Settling

variable {id other : Nat} {affairs more : List (Affair engine)} {stock next last : Stock engine}
  {state state' : State}

theorem Settles.trans (hs : Settles id affairs stock next) (hs' : Settles id more next last) :
    Settles id (affairs ++ more) stock last where
  issued := by rw [begun_append, hs'.issued, hs.issued, List.append_assoc]
  freed := by rw [returned_append, List.length_append, hs'.freed, hs.freed, Nat.add_assoc]
  balance := by
    rw [begun_append, returned_append, ← Multiset.coe_add, ← Multiset.coe_add,
      Multiset.add_assoc, hs'.balance, ← Multiset.add_assoc, hs.balance, Multiset.add_assoc]

/-- Nothing begins or ends. -/
theorem Settles.of_same (hbegun : begun id affairs = []) (hreturned : returned id affairs = [])
    (hissued : Scripted.issued id next = Scripted.issued id stock)
    (hfreed : Scripted.freed id next = Scripted.freed id stock)
    (hheld : held id next = held id stock) : Settles id affairs stock next where
  issued := by rw [hissued, hbegun, List.append_nil]
  freed := by rw [hfreed, hreturned, List.length_nil, Nat.add_zero]
  balance := by
    rw [hheld, hbegun, hreturned, Multiset.coe_nil, Multiset.zero_add, Multiset.add_zero]

/-- What a call adds to a count of the engine that is called. -/
theorem count_setEngine (count : State → Nat) {state state' : engine.State} {k : Nat}
    (hengine : stock.engines[other]? = some state) (hcount : count state' = count state + k) :
    count ((stock.setEngine other state').engineState id)
      = count (stock.engineState id) + if other = id then k else 0 := by
  by_cases hid : other = id
  · subst hid
    rw [if_pos rfl, Stock.engineState_setEngine_self hengine, Stock.engineState_of_getElem? hengine]
    exact hcount
  · rw [if_neg hid, Stock.engineState_setEngine_of_ne hid, Nat.add_zero]

/-- A call that leaves the counts as they are. -/
theorem settles_of_same {state state' : engine.State} {live : Multiset (Session engine)}
    (hengine : stock.engines[other]? = some state)
    (hcounts : State.issued state' = State.issued state ∧ State.freed state' = State.freed state)
    (hbegun : begun id affairs = []) (hreturned : returned id affairs = [])
    (hheld : held id ⟨stock.engines, live⟩ = held id stock) :
    Settles id affairs stock ⟨stock.engines.set other state', live⟩ := by
  have hissued : issued id (stock.setEngine other state') = _ :=
    count_setEngine (k := 0) State.issued hengine hcounts.1
  have hfreed : freed id (stock.setEngine other state') = _ :=
    count_setEngine (k := 0) State.freed hengine hcounts.2
  rw [ite_self, Nat.add_zero] at hissued hfreed
  exact .of_same hbegun hreturned hissued hfreed hheld

/-- A session begins, with the next number. -/
theorem settles_begins (stock : Stock engine) {s : Session engine} {state state' : engine.State}
    (hengine : stock.engines[s.family.value.engine]? = some state)
    (hcreate : create s.arguments state = (state', some (handleOf s))) :
    Settles id [.begins s] stock ((stock.setEngine s.family.value.engine state').add s) := by
  obtain ⟨hhandle, hcreated, hkept⟩ := create_created hcreate
  have hissued : issued id ((stock.setEngine s.family.value.engine state').add s) = _ :=
    count_setEngine State.issued hengine hcreated
  have hfreed : freed id ((stock.setEngine s.family.value.engine state').add s) = _ :=
    count_setEngine (k := 0) State.freed hengine hkept
  refine ⟨?_, ?_, ?_⟩
  · rw [hissued, begun_begins, handleAt]
    split
    next hid =>
      -- the new handle carries the number next in line
      subst hid
      have hbefore := congrArg State.issued (Stock.engineState_of_getElem? hengine)
      rw [List.range'_1_concat, hhandle, ← hbefore, Nat.add_comm 1]
      rfl
    · exact (List.append_nil _).symm
  · rw [hfreed, ite_self]
    rfl
  · rw [begun_begins, Multiset.add_comm (held id stock)]
    exact (Multiset.zero_add _).trans (held_cons id _ s stock.live)

/-- A session ends, and its handle is returned. -/
theorem settles_ends (stock : Stock engine) {s : Session engine} {state : engine.State}
    (hengine : stock.engines[s.family.value.engine]? = some state) :
    Settles id [.ends s] (stock.add s)
      (stock.setEngine s.family.value.engine (engine.release s.tunnel state)) := by
  let after := stock.setEngine s.family.value.engine (engine.release s.tunnel state)
  have hissued : issued id after = _ := count_setEngine (k := 0) State.issued hengine rfl
  have hfreed : freed id after = _ := count_setEngine (k := 1) State.freed hengine rfl
  refine ⟨?_, ?_, ?_⟩
  · rw [hissued, ite_self]
    exact (List.append_nil _).symm
  · rw [hfreed, returned_ends, handleAt]
    split <;> rfl
  · rw [returned_ends]
    exact (held_cons id _ s stock.live).symm.trans (Multiset.add_zero _).symm

/-- One affair settles the counts of every engine. -/
theorem settles_turns {affair : Affair engine} (hturns : Turns stock affair next) :
    Settles id [affair] stock next := by
  cases hturns with
  | arrives engines live =>
    have hstate := Stock.engineState_arrives engines live id
    exact .of_same rfl rfl (congrArg State.issued hstate) (congrArg State.freed hstate) rfl
  | refuses live hengine hcreate =>
    exact settles_of_same hengine (create_refused hcreate) rfl rfl rfl
  | begins live hengine hcreate => exact settles_begins ⟨_, live⟩ hengine hcreate
  | @serves engines live s moment request state hengine =>
    have hcounts := play_counts request (handleOf s) (s.output.blank (0 : UInt8)) state
    refine settles_of_same hengine hcounts rfl rfl ?_
    exact (held_cons id engines _ live).trans (held_cons id engines s live).symm
  | ends live hengine => exact settles_ends ⟨_, live⟩ hengine

theorem settles_passes (hpasses : Passes stock affairs next) : Settles id affairs stock next := by
  induction hpasses with
  | nil stock => exact .of_same rfl rfl rfl rfl rfl
  | cons hturns _ ih => exact (settles_turns hturns).trans ih

theorem settles_occurs {h : Host engine} {move : Move} (hoccurs : Occurs h move affairs) :
    Settles id affairs h.stock (enact h move).stock := by
  cases hoccurs with
  | step hpasses => exact settles_passes hpasses
  | direct other d =>
    rcases Nat.lt_or_ge other h.engines.length with hlt | hge
    · exact settles_of_same (Host.engines_getElem? hlt) (apply_counts _ d) rfl rfl rfl
    · have hset : enact h (.direct other d) = h := Host.setEngine_of_length_le hge _
      rw [hset]
      exact .of_same rfl rfl rfl rfl rfl

theorem settles_ledger {moves : List Move} (hledger : Ledger moves affairs) :
    Settles id affairs ({} : Host engine).stock (staged moves).stock := by
  induction hledger with
  | nil => exact .of_same rfl rfl rfl rfl rfl
  | next _ hnow ih =>
    rw [staged_append_singleton]
    exact ih.trans (settles_occurs hnow)

end Settling

/-! ## Conservation -/

/-- What began has ended or lives, and nothing twice. -/
structure Balanced (id : Nat) (affairs : List (Affair engine)) (stock : Stock engine) : Prop where
  begun : begun id affairs = List.range' 1 (issued id stock)
  freed : (returned id affairs).length = freed id stock
  balance : ↑(returned id affairs) + held id stock = (Scripted.begun id affairs : Multiset Nat)

section Conservation

variable {id : Nat} {affairs now : List (Affair engine)} {stock next : Stock engine}
  {moves : List Move} {move : Move}

/-- The ledger of a run is balanced. -/
theorem balanced_ledger (hledger : Ledger moves affairs) :
    Balanced id affairs (staged moves).stock := by
  have hs : Settles id affairs _ _ := settles_ledger hledger
  exact ⟨hs.issued.symm, (hs.freed.trans (Nat.zero_add _)).symm,
    hs.balance.trans (Multiset.zero_add _)⟩

namespace Balanced

/-- What was created was given back or is held. -/
theorem freed_add_card (hb : Balanced id affairs stock) :
    Scripted.freed id stock + (held id stock).card = issued id stock := by
  have hcard := congrArg Multiset.card hb.balance
  rw [Multiset.card_add, Multiset.coe_card, Multiset.coe_card, hb.begun, List.length_range',
    hb.freed] at hcard
  exact hcard

/-- No handle was given back twice, and none that was is held. -/
theorem nodup (hb : Balanced id affairs stock) :
    (↑(returned id affairs) + held id stock : Multiset Nat).Nodup := by
  rw [hb.balance, hb.begun]
  exact Multiset.coe_nodup.mpr List.nodup_range'

/-- No two live sessions hold the same handle. -/
theorem nodup_held (hb : Balanced id affairs stock) : (held id stock).Nodup :=
  (Multiset.nodup_add.mp hb.nodup).2.1

theorem nodup_returned (hb : Balanced id affairs stock) : (returned id affairs).Nodup :=
  Multiset.coe_nodup.mp (Multiset.nodup_add.mp hb.nodup).1

/-- A handle that is held has not been returned. -/
theorem not_mem_returned (hb : Balanced id affairs stock) {x : Nat} (hx : x ∈ held id stock) :
    x ∉ returned id affairs := fun hreturned =>
  Multiset.disjoint_left.mp (Multiset.nodup_add.mp hb.nodup).2.2 (Multiset.mem_coe.mpr hreturned) hx

end Balanced

/-- A handle is returned in the move in which its session ends. -/
theorem mem_returned_iff (hledger : Ledger moves affairs) (hnow : Occurs (staged moves) move now)
    {x : Nat} (hx : x ∈ held id (staged moves).stock) :
    x ∈ returned id now ↔ x ∉ held id (enact (staged moves) move).stock := by
  have hbefore : Balanced id affairs _ := balanced_ledger hledger
  have hafter : Balanced id (affairs ++ now) (staged (moves ++ [move])).stock :=
    balanced_ledger (.next hledger hnow)
  rw [staged_append_singleton] at hafter
  constructor
  · intro hreturned hheld
    refine hafter.not_mem_returned hheld ?_
    rw [returned_append]
    exact List.mem_append_right _ hreturned
  · intro hnot
    -- it began before, so it has been returned by now, and it had not been before
    have hbegun : x ∈ (begun id affairs : Multiset Nat) := by
      rw [← hbefore.balance]
      exact Multiset.mem_add.mpr (.inr hx)
    have hmem : x ∈ (↑(returned id (affairs ++ now)) + held id (enact (staged moves) move).stock :
        Multiset Nat) := by
      rw [hafter.balance, begun_append]
      exact Multiset.mem_coe.mpr (List.mem_append_left _ (Multiset.mem_coe.mp hbegun))
    have hreturned := Multiset.mem_coe.mp ((Multiset.mem_add.mp hmem).resolve_right hnot)
    rw [returned_append] at hreturned
    exact (List.mem_append.mp hreturned).resolve_left (hbefore.not_mem_returned hx)

end Conservation

/-- The scripted engine does the same at all times. -/
theorem timeless : engine.Timeless := fun _ _ _ _ _ _ => rfl

/-- Hosts with the same engines, sessions and peers are alike, whatever the time. -/
theorem alike_of_same {h h' : Host engine} (hs : Host.SameSessions h h') : Host.Alike h h' where
  time := .inl timeless
  engines := hs.engines
  sessions := by
    rw [hs.sessions]
    exact .refl _ _
  peers := by
    rw [hs.peers]
    exact .refl _ _

/-- **Handles are conserved.** Every run over scripted engines has a ledger of the sessions that
began and ended in it, with the calls of the engines that this took. Whatever is in it, and at every
point: an engine has created as many tunnels as sessions of it began, was given back as many as
ended, and the rest are those of the sessions that live, alone or in a peer. No handle is returned
twice or while it is held, and live sessions of one engine have different ones. In every move, the
handles returned of those that were held are those that are not held afterwards. What is done with
bridges and registries is nothing to engines and sessions, nor to any later answer of a session. -/
theorem handles_conserved (moves : List Move) :
    (∃ affairs, Ledger moves affairs) ∧ ∀ affairs, Ledger moves affairs →
      let h := staged moves
      (∀ id, freed id h.stock + (held id h.stock).card = issued id h.stock
        ∧ begun id affairs = List.range' 1 (issued id h.stock)
        ∧ (returned id affairs).length = freed id h.stock
        ∧ ↑(returned id affairs) + held id h.stock = (begun id affairs : Multiset Nat)
        ∧ (returned id affairs).Nodup ∧ (held id h.stock).Nodup
        ∧ ∀ x ∈ held id h.stock, x ∉ returned id affairs)
      ∧ (∀ move now, Occurs h move now → ∀ id, ∀ x ∈ held id h.stock,
          (x ∈ returned id now ↔ x ∉ held id (enact h move).stock))
      ∧ ∀ s : Step UInt8, s.besideSessions = true →
          Host.SameSessions h (h.step s).1
          ∧ ∀ later, (∀ step ∈ later, step.onSessions = true) →
              ((h.step s).1.run later).2 = (h.run later).2 := by
  refine ⟨exists_ledger moves, ?_⟩
  intro affairs hledger h
  refine ⟨?_, ?_, ?_⟩
  · intro id
    have hb : Balanced id affairs h.stock := balanced_ledger hledger
    exact ⟨hb.freed_add_card, hb.begun, hb.freed, hb.balance, hb.nodup_returned, hb.nodup_held,
      fun x hx => hb.not_mem_returned hx⟩
  · intro move now hnow id x hx
    exact mem_returned_iff hledger hnow hx
  · intro s hs
    have hsame : Host.SameSessions h (h.step s).1 := Host.sameSessions_step h hs
    -- the sessions are the same after it, so whatever is asked of them is answered alike
    exact ⟨hsame, fun later hlater => (alike_of_same hsame).run hlater⟩

/-- The second of two sessions of one name ends the first, and lives on without its bridge. -/
example :
    let input : SessionInput :=
      { privateKey := "BRAbJjE8R1JdaHN+iZSfqrXAy9bh7PcCDRgjLjlET1o="
        publicKey := "yb35g17ryfpD/SA9B4ovqyegIUZpzu1DW+DcWbYeHws="
        presharedKey := "", keepAlive := 25, index := 1 }
    let h := staged [.step (.addBridge "b" "e" {}), .step (.addSession "s" "b" input),
      .step (.addSession "s" "b" input), .step (.dropBridge "b")]
    freed 0 h.stock = 1 ∧ h.sessions.map (fun e => handleOf e.2) = [2] := by decide +kernel

end TunnelHost.Scripted
