import TunnelHost.Proofs.Results
import TunnelHost.Session

/-!
# Classification of reports

A report is believed only if its tag is one of five and its size fits the buffer. The three lemmas
on `classify` say exactly when a report is refused for its tag, when for its size, and what is
made of one that passes. `Judged` puts them together with the crash of an engine: it fixes the
result of a request by the engine's reply alone.

- `Status.ofTag?_eq_some_iff`, `Status.ofTag?_eq_none_iff`: the tags of the contract.
- `Envelope.eq_enclose_iff`: an envelope is its status and its octets.
- `classify_eq_ok_iff` and the two lemmas beside it: the outcomes of a classification.
- `Judged`, `judged_judge`: the result that a reply leads to.
-/

namespace TunnelHost

/-! ## Tags -/

namespace Status

/-- The tags that the contract knows, as numbers. -/
def knownTags : List UInt32 := [0, 1, 2, 4, 6]

/-- The tags of the outcomes that carry octets. -/
def carryingTags : List UInt32 := [1, 4, 6]

theorem ofTag?_tag (s : Status) : ofTag? s.tag = some s := by
  cases s <;> rfl

/-- A tag is known by one status at most. -/
theorem ofTag?_eq_some_iff {t : UInt32} {s : Status} : ofTag? t = some s ↔ s.tag = t := by
  constructor
  · intro h
    have htag := List.find?_some h
    exact beq_iff_eq.mp htag
  · rintro rfl
    exact ofTag?_tag s

theorem tag_mem_knownTags (s : Status) : s.tag ∈ knownTags := by
  cases s <;> decide

/-- Every tag of the contract stands for an outcome. -/
theorem exists_tag_eq {t : UInt32} (h : t ∈ knownTags) : ∃ s : Status, s.tag = t := by
  simp only [knownTags, List.mem_cons, List.not_mem_nil, or_false] at h
  rcases h with rfl | rfl | rfl | rfl | rfl
  · exact ⟨.done, rfl⟩
  · exact ⟨.toNetwork, rfl⟩
  · exact ⟨.failed, rfl⟩
  · exact ⟨.toTunnel4, rfl⟩
  · exact ⟨.toTunnel6, rfl⟩

/-- A tag without a status is an unknown one. -/
theorem ofTag?_eq_none_iff {t : UInt32} : ofTag? t = none ↔ t ∉ knownTags := by
  constructor
  · intro h hmem
    obtain ⟨s, rfl⟩ := exists_tag_eq hmem
    rw [ofTag?_tag] at h
    cases h
  · intro h
    cases hs : ofTag? t with
    | none => rfl
    | some s =>
      rw [ofTag?_eq_some_iff] at hs
      exact absurd (hs ▸ tag_mem_knownTags s) h

theorem carriesData_iff (s : Status) : s.carriesData = true ↔ s.tag ∈ carryingTags := by
  cases s <;> decide

end Status

/-! ## Envelopes -/

namespace Envelope

variable {β : Type}

@[simp] theorem status_enclose (data : List β) (s : Status) : (enclose data s).status = s := by
  cases s <;> rfl

@[simp] theorem data?_enclose (data : List β) (s : Status) :
    (enclose data s).data? = if s.carriesData then some data else none := by
  cases s <;> rfl

/-- Nothing but status and octets is in an envelope. -/
theorem ext_status_data {e f : Envelope β} (hs : e.status = f.status) (hd : e.data? = f.data?) :
    e = f := by
  cases e <;> cases f <;> simp_all [status, data?]

/-- An envelope is known by its status and its octets. -/
theorem eq_enclose_iff {e : Envelope β} {data : List β} {s : Status} :
    e = enclose data s ↔ e.status = s ∧ e.data? = if s.carriesData then some data else none := by
  constructor
  · rintro rfl
    exact ⟨status_enclose data s, data?_enclose data s⟩
  · rintro ⟨hs, hd⟩
    refine ext_status_data ?_ ?_
    · rw [hs, status_enclose]
    · rw [hd, data?_enclose]

end Envelope

/-! ## Outcomes of a classification -/

section Classify

variable {β : Type} {report : Report} {output : List β}

/-- An unknown tag is reported before the size is looked at. -/
theorem classify_eq_unknownTag_iff {tag : UInt32} :
    classify report output = .error (.unknownTag tag)
      ↔ report.tag = tag ∧ tag ∉ Status.knownTags := by
  unfold classify
  cases hs : Status.ofTag? report.tag with
  | none =>
    have hunknown := Status.ofTag?_eq_none_iff.mp hs
    constructor
    · intro h
      cases h
      exact ⟨rfl, hunknown⟩
    · rintro ⟨rfl, -⟩
      rfl
  | some s =>
    have htag := Status.ofTag?_eq_some_iff.mp hs
    have hknown : report.tag ∈ Status.knownTags := htag ▸ Status.tag_mem_knownTags s
    constructor
    · intro h
      dsimp only at h
      split at h <;> cases h
    · rintro ⟨rfl, hunknown⟩
      exact absurd hknown hunknown

/-- A size above the capacity is reported if the tag is known. -/
theorem classify_eq_overflow_iff {size capacity : Nat} :
    classify report output = .error (.overflow size capacity)
      ↔ report.size = size ∧ output.length = capacity ∧ report.tag ∈ Status.knownTags
        ∧ capacity < size := by
  unfold classify
  cases hs : Status.ofTag? report.tag with
  | none =>
    have hunknown := Status.ofTag?_eq_none_iff.mp hs
    constructor
    · intro h
      cases h
    · rintro ⟨-, -, hknown, -⟩
      -- the tag comes first: with an unknown one the size does not matter
      exact absurd hknown hunknown
  | some s =>
    have htag := Status.ofTag?_eq_some_iff.mp hs
    have hknown : report.tag ∈ Status.knownTags := htag ▸ Status.tag_mem_knownTags s
    dsimp only
    by_cases hfit : output.length < report.size
    · rw [if_pos hfit]
      constructor
      · intro h
        cases h
        exact ⟨rfl, rfl, hknown, hfit⟩
      · rintro ⟨rfl, rfl, -, -⟩
        rfl
    · rw [if_neg hfit]
      constructor
      · intro h
        cases h
      · rintro ⟨rfl, rfl, -, hlt⟩
        exact absurd hlt hfit

/-- What fits under a known tag is an envelope, with the first octets of the output if the tag
carries any. -/
theorem classify_eq_ok_iff {e : Envelope β} :
    classify report output = .ok e
      ↔ report.size ≤ output.length ∧ e.status.tag = report.tag
        ∧ e.data? = if report.tag ∈ Status.carryingTags then some (output.take report.size)
          else none := by
  unfold classify
  cases hs : Status.ofTag? report.tag with
  | none =>
    have hunknown := Status.ofTag?_eq_none_iff.mp hs
    constructor
    · intro h
      cases h
    · rintro ⟨-, htag, -⟩
      exact absurd (htag ▸ Status.tag_mem_knownTags e.status) hunknown
  | some s =>
    have htag := Status.ofTag?_eq_some_iff.mp hs
    dsimp only
    by_cases hfit : output.length < report.size
    · rw [if_pos hfit]
      constructor
      · intro h
        cases h
      · rintro ⟨hle, -, -⟩
        omega
    · rw [if_neg hfit, Except.ok.injEq, eq_comm, Envelope.eq_enclose_iff]
      simp only [Status.carriesData_iff, htag]
      -- one status has the tag, so the envelope is told by it
      have hstatus : e.status = s ↔ e.status.tag = report.tag := by
        constructor
        · rintro rfl
          exact htag
        · intro h
          have := Status.ofTag?_eq_some_iff.mpr h
          rw [hs] at this
          exact (Option.some.inj this).symm
      rw [hstatus]
      exact ⟨fun h => ⟨by omega, h⟩, fun h => h.2⟩

/-- The report of an outcome is believed if the buffer has as many octets. -/
theorem classify_of (status : Status) {size : Nat} (hsize : size ≤ output.length) :
    classify (.of status size) output = .ok (.enclose (output.take size) status) := by
  rw [Report.of, classify, Status.ofTag?_tag]
  dsimp only
  rw [if_neg (Nat.not_lt.mpr hsize)]

end Classify

/-! ## The result of a reply -/

/-- What the result of a request has to be, given the engine's reply: the tag is looked at before
the size, and octets come from the front of the buffer as this reply left it. -/
structure Judged {σ η β : Type} {capacity : Nat} (reply : Reply σ η β capacity)
    (result : Except CallError (Envelope β)) : Prop where
  crash : result = .error .crash ↔ reply.report = none
  unknownTag : ∀ tag, result = .error (.violation (.unknownTag tag)) ↔
    ∃ size, reply.report = some ⟨tag, size⟩ ∧ tag ∉ Status.knownTags
  overflow : ∀ size bound, result = .error (.violation (.overflow size bound)) ↔
    ∃ tag, reply.report = some ⟨tag, size⟩ ∧ tag ∈ Status.knownTags ∧ bound = capacity
      ∧ capacity < size
  ok : ∀ e : Envelope β, result = .ok e ↔
    ∃ tag size, reply.report = some ⟨tag, size⟩ ∧ tag ∈ Status.knownTags ∧ size ≤ capacity
      ∧ e.status.tag = tag
      ∧ e.data? = if tag ∈ Status.carryingTags then some (reply.buffer.contents.take size) else none

namespace Session

variable {β : Type} {report : Report} {output : List β}

theorem judge_some_eq_ok_iff {e : Envelope β} :
    judge (some report) output = .ok e ↔ classify report output = .ok e := by
  unfold judge
  exact mapError_eq_ok_iff

theorem judge_some_eq_violation_iff {v : Violation} :
    judge (some report) output = .error (.violation v) ↔ classify report output = .error v := by
  rw [judge, mapError_eq_error_iff]
  simp

/-- A report of a status with a size that fits is always an envelope. -/
theorem judge_of (status : Status) {size : Nat} (hsize : size ≤ output.length) :
    judge (some (.of status size)) output = .ok (.enclose (output.take size) status) := by
  rw [judge, classify_of status hsize]
  rfl

/-- A call without a report is the only one that crashes. -/
theorem judge_eq_crash_iff {report : Option Report} :
    judge report output = .error .crash ↔ report = none := by
  cases report with
  | none => exact ⟨fun _ => rfl, fun _ => rfl⟩
  | some report =>
    rw [judge, mapError_eq_error_iff]
    simp

end Session

/-- What a session makes of a reply is what it has to make of it. -/
theorem judged_judge {σ η β : Type} {capacity : Nat} (reply : Reply σ η β capacity) :
    Judged reply (Session.judge reply.report reply.buffer.contents) := by
  obtain ⟨state, handle, buffer, report, events⟩ := reply
  have hlen := buffer.length_contents
  -- a report that is there makes the result a classification, and without one it is the crash
  refine ⟨Session.judge_eq_crash_iff, ?_, ?_, ?_⟩
  all_goals dsimp only
  · intro tag
    cases report with
    | none => simp [Session.judge]
    | some report =>
      obtain ⟨t, n⟩ := report
      rw [Session.judge_some_eq_violation_iff, classify_eq_unknownTag_iff]
      simp
  · intro size bound
    cases report with
    | none => simp [Session.judge]
    | some report =>
      obtain ⟨t, n⟩ := report
      rw [Session.judge_some_eq_violation_iff, classify_eq_overflow_iff, hlen]
      constructor
      · rintro ⟨rfl, rfl, hknown, hlt⟩
        exact ⟨t, rfl, hknown, rfl, hlt⟩
      · rintro ⟨tag, hreport, hknown, rfl, hlt⟩
        cases hreport
        exact ⟨rfl, rfl, hknown, hlt⟩
  · intro e
    cases report with
    | none => simp [Session.judge]
    | some report =>
      obtain ⟨t, n⟩ := report
      rw [Session.judge_some_eq_ok_iff, classify_eq_ok_iff, hlen]
      constructor
      · rintro ⟨hle, rfl, hdata⟩
        exact ⟨_, n, rfl, Status.tag_mem_knownTags e.status, hle, rfl, hdata⟩
      · rintro ⟨tag, size, hreport, -, hle, htag, hdata⟩
        cases hreport
        exact ⟨hle, htag, hdata⟩

end TunnelHost
