import TunnelHost.Proofs.HostOwners
import TunnelHost.Scripted

/-!
# Lines of a host

What a host asks of its board and everything that this causes make up the history of the host, and
the history tells who each line goes to.

- `Chronicle`, `Host.exists_chronicle`, `Chronicle.unique`: the history of a host.
- `Host.owned_led`: every registry of a host has one owner.
- `Named`, `mem_wired_replay_iff`: which engines have a sink.
- `Host.lines_scripted`: the lines of a scripted engine.
- `Host.lines_go_to_latest_registration`: the law.
-/

namespace TunnelHost

/-- The history of a host: what deeds ask for and all that it causes, one deed after the other. -/
inductive Chronicle {β : Type} (E : Engine β) : List (Deed β) → List Motion → Prop where
  | nil : Chronicle E [] []
  | next {deeds : List (Deed β)} {d : Deed β} {past history : List Motion} :
      Chronicle E deeds past → Unfolds past ((Host.led E deeds).asks d) history →
      Chronicle E (deeds ++ [d]) history

/-- The history of a host is determined. -/
theorem Chronicle.unique {β : Type} {E : Engine β} {deeds : List (Deed β)}
    {history other : List Motion} (h : Chronicle E deeds history)
    (h' : Chronicle E deeds other) : other = history := by
  induction h generalizing other with
  | nil =>
    -- the index is generalised, as `cases` cannot see that a list with an end is not empty
    generalize hnil : ([] : List (Deed β)) = none at h'
    cases h' with
    | nil => rfl
    | next _ _ => exact absurd hnil (by simp)
  | @next deeds d past history _ hunfolds ih =>
    generalize hsplit : deeds ++ [d] = all at h'
    cases h' with
    | nil => exact absurd hsplit (by simp)
    | next hbefore hunfolds' =>
      obtain ⟨rfl, hd⟩ := List.append_inj' hsplit rfl
      cases hd
      cases ih hbefore
      exact hunfolds.unique hunfolds'

/-! ## Sinks -/

/-- Some registration has named an engine so far, be it one that a handler has made. -/
def Named (history : List Motion) (engine : Nat) : Prop :=
  ∃ registry context handler, .register registry context (some engine) handler ∈ history

/-- A motion more names an engine if it is a registration for it. -/
theorem named_append_singleton_iff {past : List Motion} {m : Motion} {engine : Nat} :
    Named (past ++ [m]) engine
      ↔ Named past engine
        ∨ ∃ registry context x, m = .register registry context (some engine) x := by
  constructor
  · rintro ⟨registry, context, x, hmem⟩
    rcases List.mem_append.mp hmem with hmem | hmem
    · exact .inl ⟨registry, context, x, hmem⟩
    · exact .inr ⟨registry, context, x, (List.mem_singleton.mp hmem).symm⟩
  · rintro (⟨registry, context, x, hmem⟩ | ⟨registry, context, x, rfl⟩)
    · exact ⟨registry, context, x, List.mem_append_left _ hmem⟩
    · exact ⟨registry, context, x, List.mem_append_right _ List.mem_cons_self⟩

namespace Switchboard

/-- Wiring gives a sink to the engine that is named, if one is. -/
theorem mem_wired_wire_iff {b : Switchboard} {named : Option Nat} {engine : Nat} :
    engine ∈ (b.wire named).wired ↔ engine ∈ b.wired ∨ named = some engine := by
  fun_cases wire b named with
  | case1 => simp only [reduceCtorEq, or_false]
  | case2 named hthere =>
    -- it has its sink already
    rw [List.contains_iff_mem] at hthere
    refine (or_iff_left_of_imp fun h => ?_).symm
    exact Option.some.inj h ▸ hthere
  | case3 named hnew => rw [List.mem_cons, or_comm, Option.some.injEq, eq_comm]

/-- A registration gives a sink to the engine that it names, and nothing else does. -/
theorem mem_wired_move_iff (b : Switchboard) (m : Motion) (engine : Nat) :
    engine ∈ (b.move m).wired
      ↔ engine ∈ b.wired
        ∨ ∃ registry context x, m = .register registry context (some engine) x := by
  cases m with
  | register registry context named x =>
    refine mem_wired_wire_iff.trans (or_congr_right ?_)
    simp
  | remove registry key =>
    have hwired : (b.remove registry key).1.wired = b.wired := by
      rw [remove]
      split <;> rfl
    simp only [move, hwired, reduceCtorEq, exists_false, or_false]
  | forward line =>
    have hwired : (b.move (.forward line)).wired = b.wired := by
      rw [move]
      split <;> rfl
    simp only [hwired, reduceCtorEq, exists_false, or_false]
  | add | drop registry | store registry key content context other | share registry key r other =>
    simp only [reduceCtorEq, exists_false, or_false]
    rfl

end Switchboard

/-- **An engine has a sink if a registration has named it**, and only then. -/
theorem mem_wired_replay_iff (history : List Motion) (engine : Nat) :
    engine ∈ (replay history).wired ↔ Named history engine := by
  induction history using List.reverseRecOn with
  | nil => exact iff_of_false nofun fun ⟨_, _, _, hmem⟩ => absurd hmem List.not_mem_nil
  | append_singleton past m ih =>
    rw [replay_append_singleton, Switchboard.mem_wired_move_iff, ih, named_append_singleton_iff]

namespace Host

variable {β : Type} {E : Engine β}

/-- A host has a history. -/
theorem exists_chronicle (E : Engine β) (deeds : List (Deed β)) :
    ∃ history, Chronicle E deeds history ∧ (led E deeds).board = replay history := by
  induction deeds using List.reverseRecOn with
  | nil => exact ⟨[], .nil, rfl⟩
  | append_singleton deeds d ih =>
    obtain ⟨past, hchronicle, hpast⟩ := ih
    obtain ⟨history, hunfolds, hboard⟩ := (effect_perform (led E deeds) d).exists_unfolds hpast
    refine ⟨history, .next hchronicle hunfolds, ?_⟩
    rw [led_append_singleton]
    exact hboard

/-- The numbers of registries are distinct in every run. -/
theorem distinct_led (E : Engine β) (deeds : List (Deed β)) : (led E deeds).board.Distinct := by
  obtain ⟨history, -, hboard⟩ := exists_chronicle E deeds
  rw [hboard]
  exact distinct_replay history

/-- Every registry of a host has one owner, whatever deeds led to it. -/
theorem owned_led (E : Engine β) (deeds : List (Deed β)) : (led E deeds).Owned := by
  induction deeds using List.reverseRecOn with
  | nil => exact owned_empty
  | append_singleton deeds d ih =>
    rw [led_append_singleton]
    exact (effect_perform (led E deeds) d).owned ih (distinct_led E deeds)

/-! ## The law -/

/-- The line that the scripted engine logs when it replays an outcome. -/
def scriptedLine (request : Request UInt8) (o : Scripted.Outcome) : String :=
  "scripted " ++ request.name ++ " -> tag " ++ Numeral.decimal o.tag.toNat

/-- The scripted engine logs one event for each request, with the outcome that is next. -/
theorem events_turnOf_scripted (h : Host Scripted.engine) (s : Session Scripted.engine)
    (request : Request UInt8) :
    (h.turnOf s request).events
      = [Scripted.event request (h.engineState s.family.value.engine).next.1] := by
  have hnext : ∀ (state : Scripted.State) (buffer : List UInt8),
      (state.record request buffer).next.1 = state.next.1 := by
    intro state buffer
    rw [Scripted.State.next, Scripted.State.next, Scripted.State.record]
    cases state.script <;> rfl
  exact congrArg (fun o => [Scripted.event request o]) (hnext _ _)

/-- Scripted engines share no sink: each has its own, or none. -/
theorem isWired_scripted (h : Host Scripted.engine) (engine : Nat) :
    h.isWired engine = true ↔ engine ∈ h.board.wired := by
  rw [isWired, show Scripted.engine.sharedSink = false from rfl, Bool.false_and, Bool.or_false,
    List.contains_iff_mem]

/-- A request of the scripted engine leads to one line if the engine has a sink, and to none
otherwise. -/
theorem lines_scripted (h : Host Scripted.engine) (s : Session Scripted.engine)
    (request : Request UInt8) :
    h.lines s request
      = if s.family.value.engine ∈ h.board.wired then
          [.forward (scriptedLine request (h.engineState s.family.value.engine).next.1)]
        else [] := by
  rw [lines, events_turnOf_scripted]
  by_cases hwired : s.family.value.engine ∈ h.board.wired
  · rw [if_pos ((isWired_scripted h _).mpr hwired), if_pos hwired]
    rfl
  · rw [if_neg (mt (isWired_scripted h _).mp hwired), if_neg hwired]

/-- A request asks for its lines and for nothing else, wherever the session stands. -/
theorem asks_call {holder : Holder} {h : Host E} {s : Session E}
    (hs : h.sessionAt holder = some s) (request : Request β) (source : Option Endpoint) :
    h.asks (.step (holder.call request source)) = h.lines s request := by
  cases holder with
  | session name =>
    have hlookup : h.sessions.lookup name = some s := hs
    rw [asks, Holder.call, orders, hlookup]
    exact List.append_nil _
  | peer name =>
    obtain ⟨p, hp, rfl⟩ := Option.map_eq_some_iff.mp hs
    have hlookup : h.peers.lookup name = some p := hp
    rw [asks, Holder.call, orders, hlookup]
    exact List.append_nil _

/-- **Lines go to the handler that was registered last.**

Of any history, whatever handlers do from inside their calls: each line is delivered once, to the
handler of the latest registration, if the registry of that has had an owner ever since and nothing
was done under its handler key; and otherwise to nobody.

Of any host: what it does, and what handlers do from inside their calls, makes up one history. A
registry has an owner as long as it is on the board. A request of a session, on its own or in a peer,
forwards one line if some registration in that history has named the engine of the session, and none
otherwise. -/
theorem lines_go_to_latest_registration :
    (∀ history : List Motion, Deliveries history (replay history).record
      ∧ ∀ r context x,
          (replay history).receiver? = some (r, context, x) ↔ Stands history r context x)
    ∧ ∀ deeds : List (Deed UInt8),
        let h := led Scripted.engine deeds
        (∃ history, Chronicle Scripted.engine deeds history
          ∧ (∀ other, Chronicle Scripted.engine deeds other → other = history)
          ∧ h.board = replay history
          ∧ Deliveries history h.board.record
          ∧ ∀ holder s request source, h.sessionAt holder = some s →
              let engine := s.family.value.engine
              (Named history engine →
                h.asks (.step (holder.call request source))
                  = [.forward (scriptedLine request (h.engineState engine).next.1)])
              ∧ (¬ Named history engine →
                h.asks (.step (holder.call request source)) = []))
        ∧ ∀ r, r ∈ h.board.ids ↔ r ∈ h.owners := by
  refine ⟨fun history => ⟨deliveries_replay history, receiver?_replay_iff history⟩, ?_⟩
  intro deeds h
  obtain ⟨history, hchronicle, hboard⟩ := exists_chronicle Scripted.engine deeds
  refine ⟨⟨history, hchronicle, fun other => hchronicle.unique, hboard, ?_, ?_⟩,
    (owned_led Scripted.engine deeds).ids⟩
  · rw [hboard]
    exact deliveries_replay history
  · intro holder s request source hs engine
    -- the engine has a sink if it was named, and the line is that of the outcome which is next
    rw [asks_call hs, lines_scripted, ← mem_wired_replay_iff, ← hboard]
    exact ⟨fun hnamed => if_pos hnamed, fun hnamed => if_neg hnamed⟩

end Host

end TunnelHost
