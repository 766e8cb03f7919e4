import Mathlib.Data.List.DropRight
import TunnelHost.Proofs.FreshOutput
import TunnelHost.Proofs.HandleConservation

/-!
# Replay by the scripted engine

The scripted engine is what the host's side is examined with, so it has to do no more and no less
than it was told. Outcomes are replayed once each and in order, whoever calls; every call is on
record until the record is cleared; and what a call does to its buffer and what it reports is said
by the outcome alone. A session hands out a buffer of zeros, so what it makes of an outcome is the
payload, cut to its capacity and filled up with zeros, as far as the outcome's size goes.

- `Act`, `after`: what may be done to an engine, and the state that it leads to.
- `replayed`: the outcomes that were replayed; `replayed_append_script`: none is lost.
- `Answers`, `Told`: what an outcome is to a call, and to a session.
- `Recounts`: what a run over hosts is to one of its engines, as acts.
- `script_replayed`: the law.
-/

namespace TunnelHost.Scripted

/-! ## Acts -/

/-- What may be done to an engine. -/
inductive Act where
  /-- Something from outside. -/
  | direct (d : Direction)
  | create (a : TunnelArguments)
  /-- A request with a buffer in any condition. -/
  | call (r : Request UInt8) (handle : Nat) (output : List UInt8)
  /-- A request of a session. -/
  | serve (t : Session engine) (moment : Nat) (r : Request UInt8)
  | release (handle : Nat)

namespace Act

/-- The state after an act. -/
def apply (s : State) : Act → State
  | direct d => d.apply s
  | create a => (Scripted.create a s).1
  | call r handle output => (play r handle (.ofList output) s).state
  | serve t moment r => (t.perform moment r s).state
  | release handle => engine.release handle s

/-- The outcome that is pushed. -/
def pushed? : Act → Option Outcome
  | direct (.push o) => some o
  | _ => none

/-- Whether the record of calls is cleared. -/
def clears : Act → Bool
  | direct .clearCalls => true
  | _ => false

/-- The request that is made. -/
def request? : Act → Option (Request UInt8)
  | call r _ _ => some r
  | serve _ _ r => some r
  | _ => none

/-- The contents of the buffer that a request comes with. -/
def handed? : Act → Option (List UInt8)
  | call _ _ output => some output
  | serve t _ _ => some (t.output.blank (0 : UInt8)).contents
  | _ => none

/-- Whether a request comes with a buffer that is not zero all over. -/
def dirties (act : Act) : Bool := act.handed?.any fun output => output.any (· != 0)

/-- Whether a request is made without a session. -/
def isRaw : Act → Bool
  | call _ _ _ => true
  | _ => false

/-- Sessions hand over nothing but zeros. -/
theorem dirties_of_not_raw {act : Act} (hact : act.isRaw = false) : act.dirties = false := by
  cases act with
  | call => cases hact
  | serve t moment r =>
    show (t.output.blank (0 : UInt8)).contents.any (· != 0) = false
    rw [Buffer.blank_eq_zeroed]
    simp
  | _ => rfl

end Act

/-- The state that acts lead to. -/
def after (acts : List Act) : State := acts.foldl Act.apply {}

/-- The outcome that a call gets next. -/
def State.due (s : State) : Outcome := s.script.head?.getD .done

/-- The outcomes of the script that requests use up. -/
def replayed (s : State) : List Act → List Outcome
  | [] => []
  | act :: acts =>
    (if act.request?.isSome then s.script.head?.toList else []) ++ replayed (act.apply s) acts

/-- A request as it is recorded. -/
def recorded (r : Request UInt8) : Call := (r.name, r.input)

/-! ## One call -/

section Call

variable {capacity : Nat} (r : Request UInt8) (s : State)

theorem next_eq : s.next = (s.due, { s with script := s.script.tail }) := by
  cases s with
  | mk script =>
    cases script <;> rfl

/-- The whole reply to a call, by the outcome that is due. -/
theorem play_eq (handle : Nat) (buffer : Buffer UInt8 capacity) :
    play r handle buffer s =
      { state := { s.record r buffer.contents with script := s.script.tail }
        handle
        buffer := buffer.overwrite s.due.payload
        report := some s.due.report
        events := [event r s.due] } := by
  unfold play
  rw [next_eq]
  rfl

/-- A session's request is a call with a buffer of zeros. -/
theorem replyTo_eq (moment : Nat) (handle : Nat) :
    Session.replyTo engine capacity moment r handle s =
      { state := { s.record r (List.replicate capacity 0) with script := s.script.tail }
        handle
        buffer := (Buffer.zeroed (0 : UInt8) capacity).overwrite s.due.payload
        report := some s.due.report
        events := [event r s.due] } := play_eq r s handle (.zeroed 0 capacity)

/-- A request is recorded with a buffer of zeros, and uses up one outcome. -/
theorem perform_state_eq (t : Session engine) (moment : Nat) :
    (t.perform moment r s).state
      = { s.record r (List.replicate t.capacity 0) with script := s.script.tail } :=
  (Session.perform_state t moment r s).trans (congrArg Reply.state (replyTo_eq r s moment t.tunnel))

/-- The result is judged of the outcome that is due, written into a buffer of zeros. -/
theorem perform_result_eq (t : Session engine) (moment : Nat) :
    (t.perform moment r s).result
      = Session.judge (some s.due.report)
          ((Buffer.zeroed (0 : UInt8) t.capacity).overwrite s.due.payload).contents :=
  (Session.perform_result t moment r s).trans
    (congrArg (fun reply : Reply State Nat UInt8 t.capacity =>
        Session.judge reply.report reply.buffer.contents) (replyTo_eq r s moment t.tunnel))

end Call

/-- What a call reports and leaves in its buffer: the front of the buffer is overwritten with as
much of the payload as fits, and the rest stays. -/
structure Answers {capacity : Nat} (o : Outcome) (buffer : Buffer UInt8 capacity)
    (reply : Reply State Nat UInt8 capacity) : Prop where
  report : reply.report = some ⟨o.tag, o.size.getD o.payload.length⟩
  written : reply.buffer.contents.take (min o.payload.length capacity)
    = o.payload.take (min o.payload.length capacity)
  kept : reply.buffer.contents.drop (min o.payload.length capacity)
    = buffer.contents.drop (min o.payload.length capacity)

/-- The engine answers with the outcome that is due, whatever buffer it is given. -/
theorem answers_play {capacity : Nat} (r : Request UInt8) (handle : Nat)
    (buffer : Buffer UInt8 capacity) (s : State) :
    Answers s.due buffer (play r handle buffer s) := by
  have hlength := buffer.length_contents
  rw [play_eq]
  refine ⟨rfl, ?_, ?_⟩
  · show (s.due.payload.take capacity ++ buffer.contents.drop s.due.payload.length).take _ = _
    rw [List.take_append_of_le_length (by rw [List.length_take]; omega), List.take_take]
    congr 1
    omega
  · show (s.due.payload.take capacity ++ buffer.contents.drop s.due.payload.length).drop _ = _
    rw [List.drop_append, List.drop_eq_nil_of_le (by rw [List.length_take]; omega),
      List.nil_append, List.length_take, Nat.min_comm, Nat.sub_self, List.drop_zero]
    rcases Nat.le_total s.due.payload.length capacity with hle | hge
    · rw [Nat.min_eq_right hle]
    · rw [Nat.min_eq_left hge, List.drop_eq_nil_of_le (by omega),
        List.drop_eq_nil_of_le (by omega)]

/-- What a session of a capacity makes of an outcome that reports a size. -/
structure Told (o : Outcome) (size capacity : Nat)
    (result : Except CallError (Envelope UInt8)) : Prop where
  unknown : Status.ofTag? o.tag = none → result = .error (.violation (.unknownTag o.tag))
  overflow : ∀ status, Status.ofTag? o.tag = some status →
    (result = .error (.violation (.overflow size capacity)) ↔ capacity < size)
  fits : ∀ status, Status.ofTag? o.tag = some status → size ≤ capacity →
    ∃ e, result = .ok e ∧ e.status = status
      ∧ e.data? = if status.carriesData
          then some ((o.payload.take capacity ++ List.replicate capacity 0).take size) else none

/-- Of the payload as much is written as fits, and zeros stay after it. -/
theorem contents_overwrite_zeroed (capacity : Nat) (payload : List UInt8) :
    ((Buffer.zeroed (0 : UInt8) capacity).overwrite payload).contents
      = (payload.take capacity ++ List.replicate capacity 0).take capacity := by
  show payload.take capacity ++ (List.replicate capacity 0).drop payload.length = _
  rw [List.take_append, List.take_take, Nat.min_self, List.take_replicate, List.drop_replicate,
    List.length_take]
  congr 2
  omega

/-- A session tells of its request what the outcome says. -/
theorem told_perform (t : Session engine) (moment : Nat) (r : Request UInt8) (s : State) :
    Told s.due (s.due.size.getD s.due.payload.length) t.capacity
      (t.perform moment r s).result := by
  let written := (Buffer.zeroed (0 : UInt8) t.capacity).overwrite s.due.payload
  have hlength : written.contents.length = t.capacity := written.length_contents
  rw [perform_result_eq]
  -- an unknown tag, a size beyond the buffer, and what is left
  refine ⟨?_, ?_, ?_⟩
  · intro hnone
    exact Session.judge_some_eq_violation_iff.mpr
      (classify_eq_unknownTag_iff.mpr ⟨rfl, Status.ofTag?_eq_none_iff.mp hnone⟩)
  · intro status hstatus
    have hknown : s.due.tag ∈ Status.knownTags :=
      Status.ofTag?_eq_some_iff.mp hstatus ▸ Status.tag_mem_knownTags status
    rw [Session.judge_some_eq_violation_iff, classify_eq_overflow_iff]
    exact ⟨fun h => h.2.2.2, fun hlt => ⟨rfl, hlength, hknown, hlt⟩⟩
  · intro status hstatus hle
    have hreport : s.due.report = .of status (s.due.size.getD s.due.payload.length) :=
      congrArg (Report.mk · _) (Status.ofTag?_eq_some_iff.mp hstatus).symm
    refine ⟨_, ?_, Envelope.status_enclose _ status, Envelope.data?_enclose _ status⟩
    rw [hreport, Session.judge_of status (hle.trans hlength.ge), contents_overwrite_zeroed,
      List.take_take, Nat.min_eq_left hle]

/-! ## One act -/

section Effects

variable (s : State) (act : Act)

/-- A tunnel is made or refused without a look at the script and the record. -/
theorem create_keeps (a : TunnelArguments) :
    (create a s).1.script = s.script ∧ (create a s).1.calls = s.calls
      ∧ (create a s).1.dirty = s.dirty := by
  unfold create
  dsimp only
  split
  · exact ⟨rfl, rfl, rfl⟩
  · exact ⟨rfl, rfl, rfl⟩

/-- What was in the script is replayed, or stays there in front of what was pushed. -/
theorem script_apply :
    (if act.request?.isSome then s.script.head?.toList else []) ++ (act.apply s).script
      = s.script ++ act.pushed?.toList := by
  -- a call takes the head of the script, if there is one
  have hused : s.script.head?.toList ++ s.script.tail = s.script := by cases s.script <;> rfl
  cases act with
  | direct d => cases d <;> simp [Act.request?, Act.pushed?, Act.apply, Direction.apply,
      State.push, State.clearCalls]
  | create a =>
    show (Scripted.create a s).1.script = s.script ++ []
    rw [List.append_nil, (create_keeps s a).1]
  | call r handle output =>
    show s.script.head?.toList ++ (play r handle (.ofList output) s).state.script = s.script ++ []
    rw [play_eq, List.append_nil]
    exact hused
  | serve t moment r =>
    show s.script.head?.toList ++ State.script (t.perform moment r s).state = s.script ++ []
    rw [perform_state_eq, List.append_nil]
    exact hused
  | release handle => exact (List.append_nil _).symm

/-- A request is recorded behind those before it, unless the record is cleared. -/
theorem calls_apply :
    (act.apply s).calls
      = if act.clears then [] else s.calls ++ (act.request?.map recorded).toList := by
  cases act with
  | direct d => cases d <;> simp [Act.request?, Act.clears, Act.apply, Direction.apply,
      State.push, State.clearCalls]
  | create a =>
    show (Scripted.create a s).1.calls = s.calls ++ []
    rw [List.append_nil, (create_keeps s a).2.1]
  | call r handle output =>
    show (play r handle (.ofList output) s).state.calls = _
    rw [play_eq]
    rfl
  | serve t moment r =>
    show State.calls (t.perform moment r s).state = _
    rw [perform_state_eq]
    rfl
  | release handle => exact (List.append_nil _).symm

/-- A request is counted if its buffer was not zero all over. -/
theorem dirty_apply : (act.apply s).dirty = s.dirty + if act.dirties then 1 else 0 := by
  cases act with
  | direct d => cases d <;> rfl
  | create a => exact (create_keeps s a).2.2
  | call r handle output =>
    show (play r handle (.ofList output) s).state.dirty
      = s.dirty + if output.any (· != 0) then 1 else 0
    rw [play_eq]
    show (if output.any (· != 0) then s.dirty + 1 else s.dirty) = _
    split <;> rfl
  | serve t moment r =>
    have hclean : (Act.serve t moment r).dirties = false := Act.dirties_of_not_raw rfl
    show State.dirty (t.perform moment r s).state = _
    rw [perform_state_eq, hclean]
    show (if (List.replicate t.capacity (0 : UInt8)).any (· != 0) then _ else s.dirty) = s.dirty
    rw [if_neg (by simp)]
  | release handle => rfl

end Effects

/-! ## Many acts -/

theorem after_append_singleton (acts : List Act) (act : Act) :
    after (acts ++ [act]) = act.apply (after acts) := List.foldl_append

/-- **No outcome is lost, replayed twice or out of turn.** -/
theorem replayed_append_script (s : State) (acts : List Act) :
    replayed s acts ++ (acts.foldl Act.apply s).script
      = s.script ++ acts.filterMap Act.pushed? := by
  induction acts generalizing s with
  | nil => exact (List.append_nil _).symm
  | cons act acts ih =>
    calc replayed s (act :: acts) ++ ((act :: acts).foldl Act.apply s).script
      _ = (if act.request?.isSome then s.script.head?.toList else [])
            ++ (replayed (act.apply s) acts ++ (acts.foldl Act.apply (act.apply s)).script) :=
          List.append_assoc _ _ _
      _ = ((if act.request?.isSome then s.script.head?.toList else []) ++ (act.apply s).script)
            ++ acts.filterMap Act.pushed? := by rw [ih, List.append_assoc]
      _ = s.script ++ (act.pushed?.toList ++ acts.filterMap Act.pushed?) := by
          rw [script_apply, List.append_assoc]
      _ = s.script ++ (act :: acts).filterMap Act.pushed? := by
          rw [List.filterMap_cons]
          cases act.pushed? <;> rfl

/-- The calls on record are those since the record was last cleared. -/
theorem calls_after (acts : List Act) :
    (after acts).calls
      = (acts.rtakeWhile (!·.clears)).filterMap fun act => act.request?.map recorded := by
  induction acts using List.reverseRecOn with
  | nil => rfl
  | append_singleton acts act ih =>
    rw [after_append_singleton, calls_apply, List.rtakeWhile_concat]
    cases act.clears with
    | true => rfl
    | false =>
      rw [if_neg Bool.false_ne_true, Bool.not_false, if_pos rfl, List.filterMap_append, ih]
      rfl

/-- As many requests are counted as came with such a buffer. -/
theorem dirty_after (acts : List Act) : (after acts).dirty = acts.countP Act.dirties := by
  induction acts using List.reverseRecOn with
  | nil => rfl
  | append_singleton acts act ih =>
    rw [after_append_singleton, dirty_apply, ih, List.countP_append, List.countP_singleton]

/-- Sessions never hand such a buffer on. -/
theorem dirty_after_of_sessions {acts : List Act} (hacts : ∀ act ∈ acts, act.isRaw = false) :
    (after acts).dirty = 0 := by
  rw [dirty_after, List.countP_eq_zero]
  intro act hact
  rw [Act.dirties_of_not_raw (hacts act hact)]
  exact Bool.false_ne_true

/-! ## Runs over hosts -/

/-- The direction that an act is. -/
def Act.direction? : Act → Option Direction
  | direct d => some d
  | _ => none

/-- The request that an act is, with the session that makes it. -/
def Act.served? : Act → Option (Session engine × Nat × Request UInt8)
  | serve t moment r => some (t, moment, r)
  | _ => none

/-- The request of an engine that an affair is, with the session that makes it. -/
def servedAt (id : Nat) : Affair engine → Option (Session engine × Nat × Request UInt8)
  | .serves t moment r => if t.family.value.engine = id then some (t, moment, r) else none
  | _ => none

/-- What a move directs to an engine of a host. -/
def Move.directed (h : Host engine) (id : Nat) : Move → List Direction
  | .direct other d => if other = id ∧ id < h.engines.length then [d] else []
  | .step _ => []

/-- What moves direct to an engine, which has to be there. -/
def directed (h : Host engine) (id : Nat) : List Move → List Direction
  | [] => []
  | move :: moves => move.directed h id ++ directed (enact h move) id moves

theorem directed_append_singleton (h : Host engine) (id : Nat) (moves : List Move) (move : Move) :
    directed h id (moves ++ [move])
      = directed h id moves ++ move.directed (moves.foldl enact h) id := by
  induction moves generalizing h with
  | nil => exact List.append_nil _
  | cons first moves ih =>
    show first.directed h id ++ directed (enact h first) id (moves ++ [move]) = _
    rw [ih, ← List.append_assoc]
    rfl

/-- The acts on an engine are what was directed to it and what sessions asked of it, in order. -/
structure Recounts (id : Nat) (directions : List Direction) (affairs : List (Affair engine))
    (acts : List Act) : Prop where
  directions : acts.filterMap Act.direction? = directions
  served : acts.filterMap Act.served? = affairs.filterMap (servedAt id)
  sessions : ∀ act ∈ acts, act.isRaw = false

section Recounting

variable {id : Nat} {directions moreDirections : List Direction}
  {affairs more : List (Affair engine)} {acts moreActs : List Act} {stock next : Stock engine}

theorem Recounts.nil (id : Nat) : Recounts id [] [] [] :=
  ⟨rfl, rfl, List.forall_mem_nil _⟩

/-- Accounts of two parts in a row make up an account of both. -/
theorem Recounts.append (hr : Recounts id directions affairs acts)
    (hr' : Recounts id moreDirections more moreActs) :
    Recounts id (directions ++ moreDirections) (affairs ++ more) (acts ++ moreActs) where
  directions := by rw [List.filterMap_append, hr.directions, hr'.directions]
  served := by rw [List.filterMap_append, List.filterMap_append, hr.served, hr'.served]
  sessions := by
    intro act hact
    rcases List.mem_append.mp hact with hin | hin
    · exact hr.sessions act hin
    · exact hr'.sessions act hin

/-- The state of an engine of a stock. -/
def stateAt (id : Nat) (stock : Stock engine) : State := stock.engineState id

/-- An engine is called once, and it is the one in question or another. -/
theorem exists_acts_of_call (stock : Stock engine) {other : Nat} {state state' : engine.State}
    {affair : Affair engine} {live : Multiset (Session engine)}
    (hengine : stock.engines[other]? = some state) (act : Act)
    (happly : act.apply state = state') (hraw : act.isRaw = false)
    (hdirection : act.direction? = none)
    (hserved : servedAt id affair = if other = id then act.served? else none) :
    ∃ acts, Recounts id [] [affair] acts
      ∧ stateAt id ⟨stock.engines.set other state', live⟩
          = acts.foldl Act.apply (stateAt id stock) := by
  by_cases hid : other = id
  · subst hid
    rw [if_pos rfl] at hserved
    refine ⟨[act], ⟨?_, ?_, ?_⟩, ?_⟩
    · rw [List.filterMap_cons_none hdirection, List.filterMap_nil]
    · rw [List.filterMap_cons, List.filterMap_cons, hserved]
      rfl
    · intro a ha
      rw [List.mem_singleton.mp ha, hraw]
    · have hbefore : stateAt other stock = state := Stock.engineState_of_getElem? hengine
      have hnow : stateAt other ⟨stock.engines.set other state', live⟩ = state' :=
        Stock.engineState_setEngine_self hengine
      exact hnow.trans (happly.symm.trans (congrArg (Act.apply · act) hbefore.symm))
  · rw [if_neg hid] at hserved
    -- a call of another engine is no act of this one
    refine ⟨[], ⟨rfl, ?_, List.forall_mem_nil _⟩, ?_⟩
    · rw [List.filterMap_cons_none hserved]
      rfl
    · exact Stock.engineState_setEngine_of_ne hid

/-- One affair is a few acts of each engine. -/
theorem exists_acts_of_turns (id : Nat) {affair : Affair engine}
    (hturns : Turns stock affair next) :
    ∃ acts, Recounts id [] [affair] acts
      ∧ stateAt id next = acts.foldl Act.apply (stateAt id stock) := by
  -- an affair of another engine is no act of this one
  cases hturns with
  | arrives engines live =>
    exact ⟨[], ⟨rfl, rfl, List.forall_mem_nil _⟩,
      Stock.engineState_arrives engines live id⟩
  | @refuses engines live other a state state' hengine hcreate =>
    exact exists_acts_of_call ⟨engines, live⟩ hengine (.create a)
      (congrArg Prod.fst hcreate) rfl rfl (ite_self _).symm
  | @begins engines live t state state' hengine hcreate =>
    exact exists_acts_of_call ⟨engines, live⟩ hengine (.create t.arguments)
      (congrArg Prod.fst hcreate) rfl rfl (ite_self _).symm
  | @serves engines live t moment r state hengine =>
    exact exists_acts_of_call ⟨engines, t ::ₘ live⟩ hengine (.serve t moment r)
      rfl rfl rfl rfl
  | @ends engines live t state hengine =>
    exact exists_acts_of_call ⟨engines, t ::ₘ live⟩ hengine (.release t.tunnel)
      rfl rfl rfl (ite_self _).symm

theorem exists_acts_of_passes (hpasses : Passes stock affairs next) :
    ∃ acts, Recounts id [] affairs acts
      ∧ stateAt id next = acts.foldl Act.apply (stateAt id stock) := by
  induction hpasses with
  | nil stock => exact ⟨[], .nil id, rfl⟩
  | cons hturns _ ih =>
    obtain ⟨acts, hr, hstate⟩ := exists_acts_of_turns id hturns
    obtain ⟨moreActs, hmore, hlast⟩ := ih
    refine ⟨acts ++ moreActs, hr.append hmore, ?_⟩
    rw [List.foldl_append, ← hstate, hlast]

/-- A move is a few acts of each engine, with what it directs to the engine. -/
theorem exists_acts_of_occurs (id : Nat) {h : Host engine} {move : Move}
    (hoccurs : Occurs h move affairs) :
    ∃ acts, Recounts id (move.directed h id) affairs acts
      ∧ stateAt id (enact h move).stock = acts.foldl Act.apply (stateAt id h.stock) := by
  cases hoccurs with
  | step hpasses => exact exists_acts_of_passes hpasses
  | direct other d =>
    by_cases hdirected : other = id ∧ id < h.engines.length
    · obtain ⟨rfl, hlt⟩ := hdirected
      have hengine : h.stock.engines[other]? = some (h.engineState other) :=
        Host.engines_getElem? hlt
      have hset : stateAt other (enact h (.direct other d)).stock = d.apply (h.engineState other) :=
        Stock.engineState_setEngine_self hengine
      have hdirections : Move.directed h other (.direct other d) = [d] := if_pos ⟨rfl, hlt⟩
      -- what is directed to the engine is its one act
      refine ⟨[.direct d], ⟨hdirections.symm, rfl, ?_⟩, hset⟩
      intro act hact
      rw [List.mem_singleton.mp hact]
      rfl
    · have hdirections : Move.directed h id (.direct other d) = [] := if_neg hdirected
      rw [hdirections]
      refine ⟨[], .nil id, ?_⟩
      by_cases hid : other = id
      · -- the engine is not there, so nothing is directed to it
        have hge := Nat.le_of_not_lt fun hlt => hdirected ⟨hid, hlt⟩
        have hset : enact h (.direct other d) = h := Host.setEngine_of_length_le (hid ▸ hge) _
        rw [hset]
        rfl
      · have hkept : (h.stock.setEngine other (d.apply (h.engineState other))).engineState id
            = h.stock.engineState id := Stock.engineState_setEngine_of_ne hid
        exact hkept

/-- What happens to an engine in a run is a sequence of acts, in which nobody but sessions makes
requests. -/
theorem exists_acts_of_ledger {moves : List Move} (hledger : Ledger moves affairs) (id : Nat) :
    ∃ acts, Recounts id (directed {} id moves) affairs acts
      ∧ (staged moves).engineState id = after acts := by
  induction hledger with
  | nil => exact ⟨[], .nil id, rfl⟩
  | next _ hnow ih =>
    obtain ⟨acts, hr, hstate⟩ := ih
    obtain ⟨moreActs, hmore, hnext⟩ := exists_acts_of_occurs id hnow
    refine ⟨acts ++ moreActs, ?_, ?_⟩
    · rw [directed_append_singleton]
      exact hr.append hmore
    · rw [staged_append_singleton, after, List.foldl_append]
      refine hnext.trans ?_
      congr 1

end Recounting

/-! ## Replay -/

/-- **Scripts are replayed faithfully.** Whatever was done to an engine, by any callers with any
buffers: the outcomes that were replayed and those still to come are those that were pushed, in
order. The calls on record are those since the record was last cleared, and the number of dirty
buffers is that of the calls that were handed one, which is zero if all calls were made by sessions.
The next call gets the outcome that is due, or nothing to do if there is none; it overwrites as much
of the buffer as there is payload, reports the size of the outcome, or else that of the payload, and
takes the outcome from the script. A session that makes the call is told of an overflow exactly if
that size exceeds its capacity, and otherwise gets that many octets of the payload, cut to the
capacity and extended with zeros. The engines of a host, over any run, are such engines: what
happened to each of them is what was directed to it and what its sessions asked of it. -/
theorem script_replayed (acts : List Act) :
    let s := after acts
    replayed {} acts ++ s.script = acts.filterMap Act.pushed?
    ∧ s.calls = (acts.rtakeWhile (!·.clears)).filterMap (fun act => act.request?.map recorded)
    ∧ s.dirty = acts.countP Act.dirties
    ∧ ((∀ act ∈ acts, act.isRaw = false) → s.dirty = 0)
    ∧ (∀ (r : Request UInt8) (handle capacity : Nat) (buffer : Buffer UInt8 capacity),
        Answers s.due buffer (play r handle buffer s)
        ∧ (play r handle buffer s).state.script = s.script.tail
        ∧ (s.script = [] → (play r handle buffer s).report = some (.of .done 0)
            ∧ (play r handle buffer s).buffer = buffer))
    ∧ (∀ (t : Session engine) (moment : Nat) (r : Request UInt8),
        Told s.due (s.due.size.getD s.due.payload.length) t.capacity (t.perform moment r s).result
        ∧ State.script (t.perform moment r s).state = s.script.tail
        ∧ (s.script = [] → (t.perform moment r s).result = .ok .done))
    ∧ ∀ moves affairs, Ledger moves affairs → ∀ id,
        ∃ acts, Recounts id (directed {} id moves) affairs acts
          ∧ (staged moves).engineState id = after acts
          ∧ State.dirty ((staged moves).engineState id) = 0 := by
  intro s
  -- a script that is used up makes every further call do nothing
  have hempty : s.script = [] → s.due = .done := by
    intro hscript
    rw [State.due, hscript]
    rfl
  refine ⟨?_, calls_after acts, dirty_after acts, dirty_after_of_sessions, ?_, ?_, ?_⟩
  · exact replayed_append_script {} acts
  · intro r handle capacity buffer
    refine ⟨answers_play r handle buffer s, ?_, ?_⟩
    · rw [play_eq]
    · intro hscript
      rw [play_eq, hempty hscript]
      refine ⟨rfl, Buffer.ext_contents ?_⟩
      show [].take capacity ++ buffer.contents.drop 0 = buffer.contents
      rw [List.take_nil, List.nil_append, List.drop_zero]
  · intro t moment r
    refine ⟨told_perform t moment r s, ?_, fun hscript => ?_⟩
    · rw [perform_state_eq]
    · rw [perform_result_eq, hempty hscript]
      exact Session.judge_of .done (Nat.zero_le _)
  · intro moves affairs hledger id
    obtain ⟨acts, hr, hstate⟩ := exists_acts_of_ledger hledger id
    exact ⟨acts, hr, hstate, hstate ▸ dirty_after_of_sessions hr.sessions⟩

/-- A session uses up the one outcome that was pushed; its next request finds nothing to do, and the
engine of a host that was given an outcome has met no dirty buffer. -/
theorem script_replayed_used_up :
    let acts : List Act := [.direct (.push ⟨9, [1, 2], none⟩),
      .serve Session.scriptedSample 0 (.write [5]), .direct .clearCalls]
    (∀ act ∈ acts, act.isRaw = false) ∧ (after acts).dirty = 0 ∧ (after acts).script = []
      ∧ (Session.scriptedSample.perform 1 .tick (after acts)).result = .ok .done
      ∧ State.dirty ((staged [.direct 0 (.push .done)]).engineState 0) = 0 := by
  intro acts
  obtain ⟨-, -, -, hclean, -, hserved, hruns⟩ := script_replayed acts
  have hsessions : ∀ act ∈ acts, act.isRaw = false := by decide
  have hscript : (after acts).script = [] := by decide
  obtain ⟨affairs, hledger⟩ := exists_ledger [.direct 0 (.push .done)]
  obtain ⟨-, -, -, hrun⟩ := hruns _ affairs hledger 0
  obtain ⟨-, -, hdone⟩ := hserved Session.scriptedSample 1 .tick
  exact ⟨hsessions, hclean hsessions, hscript, hdone hscript, hrun⟩

/-- A record that was cleared starts over, while the script goes on. -/
example :
    let acts : List Act := [.direct (.push ⟨9, [1, 2], none⟩), .direct (.push ⟨1, [3], some 2⟩),
      .serve Session.scriptedSample 0 (.write [5]), .direct .clearCalls, .call .tick 1 [4]]
    (after acts).calls = [("tick", [])] ∧ (after acts).dirty = 1 ∧ (after acts).script = []
      ∧ replayed {} acts = [⟨9, [1, 2], none⟩, ⟨1, [3], some 2⟩] := by decide

end TunnelHost.Scripted
