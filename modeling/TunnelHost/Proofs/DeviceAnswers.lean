import TunnelHost.Proofs.DeviceContract
import TunnelHost.Proofs.FreshOutput
import TunnelHost.Proofs.WireForm

/-!
# What the engine around a device answers

Nothing that an engine reports is trusted. The engine around a device gives no cause for that, as
long as the device makes a tunnel of any keys and keeps what it puts out to the buffer: the engine
creates a tunnel from whatever passes the checks of a session, because both sides read key texts
alike, and what it reports of a request that it lives through is an outcome with no more octets than
the buffer holds, and with none where none are carried.

- `Key.Decodes`: a text is the base64 form of 32 bytes, by the decoder.
- `Performed.Contained`, `Device.Proper`: what is relied on.
- `Device.Proper.create_eq_none_iff`: the arguments that the engine refuses.
- `Device.Proper.contained_perform`: what the operations of requests put out.
- `Device.Proper.answers`: the engine keeps its contract.
-/

namespace TunnelHost

/-! ## Key texts -/

namespace Key

/-- A text is base64, of 32 bytes. -/
def Decodes (s : String) : Prop := ∃ bytes, Base64.decodeText s = .ok bytes ∧ bytes.length = 32

/-- A text makes no key if it is not base64 or has another length. -/
theorem ofText?_eq_none_iff {s : String} : ofText? s = none ↔ ¬ Decodes s := by
  constructor
  · rintro hnone ⟨bytes, hbytes, hlength⟩
    have hkey : ofText? s = some ⟨bytes, hlength⟩ :=
      ofText?_eq_some_iff.mpr (Base64.decodeText_eq_ok_iff.mp hbytes)
    rw [hnone] at hkey
    cases hkey
  · intro h
    cases hkey : ofText? s with
    | none => rfl
    | some k =>
      have htext := Base64.decodeText_eq_ok_iff.mpr (ofText?_eq_some_iff.mp hkey)
      exact absurd ⟨k.bytes, htext, k.length_bytes⟩ h

/-- The written form of a key decodes. -/
theorem decodes_toText (k : Key) : Decodes k.toText :=
  ⟨k.bytes, Base64.decodeText_eq_ok_iff.mpr rfl, k.length_bytes⟩

/-- The empty text is base64, of no bytes, so it makes no key. -/
theorem not_decodes_empty : ¬ Decodes "" := by
  rintro ⟨bytes, hbytes, hlength⟩
  have hempty : Base64.decodeText "" = .ok [] :=
    Base64.decodeText_eq_ok_iff.mpr (show "" = Base64.encode [] by decide)
  rw [hempty] at hbytes
  cases hbytes
  cases hlength

end Key

namespace Noise

/-! ## What is relied on -/

/-- What an operation puts out stands in the buffer, and there is none where the outcome carries
none. -/
def Performed.Contained {τ β : Type} {capacity : Nat} (p : Performed τ β capacity) : Prop :=
  ∀ q, p.placement = some q →
    q.offset + q.length ≤ capacity ∧ (q.status.carriesData = false → q.length = 0)

/-- A device makes a tunnel of any keys, and keeps what it puts out to the buffer. -/
structure Device.Proper {β : Type} (D : Device β) : Prop where
  make : ∀ privateKey peer preshared keepAlive index,
    D.make privateKey peer preshared keepAlive index ≠ none
  encapsulate : ∀ {capacity moment packet t} {buffer : Buffer β capacity},
    (D.encapsulate moment packet t buffer).Contained
  decapsulate : ∀ {capacity moment datagram t} {buffer : Buffer β capacity},
    (D.decapsulate moment datagram t buffer).Contained
  tick : ∀ {capacity moment t} {buffer : Buffer β capacity}, (D.tick moment t buffer).Contained
  initiate : ∀ {capacity moment t} {buffer : Buffer β capacity},
    (D.initiate moment t buffer).Contained

/-- What is reported of an operation: its outcome, and how many octets it put out. -/
theorem Performed.settle_report {τ β : Type} {capacity : Nat} (p : Performed τ β capacity) :
    p.settle.2 = p.placement.map fun q => .of q.status q.length := by
  cases hp : p.placement <;> simp [settle, hp, Placement.settle]

namespace Device.Proper

variable {β : Type} {D : Device β}

/-! ## Creation -/

/-- A tunnel is refused exactly if a key text that is there is none. -/
theorem create_eq_none_iff (hD : D.Proper) {args : TunnelArguments} :
    D.create args = none ↔ ¬ Key.Decodes args.privateKey ∨ ¬ Key.Decodes args.publicKey
      ∨ ∃ s, args.presharedKey = some s ∧ ¬ Key.Decodes s := by
  simp only [create, ← Key.ofText?_eq_none_iff]
  cases Key.ofText? args.privateKey with
  | none => simp
  | some privateKey =>
    cases Key.ofText? args.publicKey with
    | none => simp
    | some peer =>
      cases args.presharedKey with
      | none => simp [hD.make]
      | some s => cases hs : Key.ofText? s <;> simp [hs, hD.make]

/-- What passes the checks of a session is not refused. -/
theorem create_ne_none (hD : D.Proper) {policy : IndexPolicy} {i : SessionInput}
    {a : TunnelArguments} (hchecks : ∀ c : SessionCheck, c.Holds policy i) (ha : i.Conveys a) :
    D.create a ≠ none := by
  rw [Ne, hD.create_eq_none_iff, ha.privateKey, ha.publicKey, ha.presharedKey]
  rintro (hprivate | hpublic | ⟨s, hs, hpreshared⟩)
  · obtain ⟨k, hk⟩ := hchecks .privateKey
    exact hprivate (hk ▸ k.decodes_toText)
  · obtain ⟨k, hk⟩ := hchecks .publicKey
    exact hpublic (hk ▸ k.decodes_toText)
  · -- an empty text was left out, and any other was checked
    split at hs
    · cases hs
    next hne =>
      cases hs
      obtain ⟨k, hk⟩ := (hchecks .presharedKey).resolve_left hne
      exact hpreshared (hk ▸ k.decodes_toText)

/-- With a proper device, creation never fails in the engine. -/
theorem createSession_ne_creationFailed (hD : D.Proper) (h : Host D.engine) (b : Bridge)
    (i : SessionInput) : (h.createSession b i).2 ≠ .error (.session .creationFailed) := by
  have hcreates : Host.Creates h b i (h.createSession b i).1 (h.createSession b i).2 :=
    Host.createSession_eq_iff.mp rfl
  intro hfailed
  rw [hfailed] at hcreates
  generalize (h.createSession b i).1 = h' at hcreates
  generalize hresult : (Except.error (.session .creationFailed) :
    Except HostError (Session D.engine)) = result at hcreates
  cases hcreates with
  | absent => cases hresult
  | foreign => cases hresult
  | invalid family hfamily c hc => cases c <;> cases hresult
  | refused family hfamily hchecks a ha state hengine =>
    exact hD.create_ne_none hchecks ha (congrArg Prod.snd hengine)
  | created => cases hresult

/-! ## Requests -/

/-- A refusal by the engine itself puts nothing out. -/
theorem contained_perform (hD : D.Proper) {capacity : Nat} (moment : Nat) (t : D.Tunnel)
    (buffer : Buffer β capacity) (request : Request β) :
    (D.perform moment t buffer request).Contained := by
  cases request with
  | write packet =>
    rw [perform]
    split
    · rintro q ⟨⟩
      exact ⟨Nat.zero_le _, fun _ => rfl⟩
    · exact hD.encapsulate
  | read datagram => exact hD.decapsulate
  | tick => exact hD.tick
  | handshake => exact hD.initiate

/-- What a session answers is what the operation calls for. -/
theorem answers_perform (hD : D.Proper) (s : Session D.engine) (moment : Nat) (request : Request β)
    (state : D.engine.State) :
    let reply := Session.replyTo D.engine s.capacity moment request s.tunnel state
    let result := (s.perform moment request state).result
    (reply.report = none ∧ result = .error .crash)
      ∨ ∃ tag size e, reply.report = some ⟨tag, size⟩ ∧ tag ∈ [0, 1, 2, 4, 6]
          ∧ size ≤ s.capacity ∧ (tag = 0 ∨ tag = 2 → size = 0)
          ∧ result = .ok e ∧ e.status.tag = tag := by
  intro reply result
  have hresult : Judged reply result := by
    have hjudged := judged_judge reply
    rwa [← Session.perform_result] at hjudged
  let performed := D.perform moment s.tunnel (.zeroed D.zero s.capacity) request
  have hreport : reply.report = performed.placement.map fun q => .of q.status q.length :=
    performed.settle_report
  cases hplaced : performed.placement with
  | none =>
    rw [hplaced] at hreport
    exact .inl ⟨hreport, hresult.crash.mpr hreport⟩
  | some q =>
    rw [hplaced] at hreport
    obtain ⟨hfits, hcarries⟩ := hD.contained_perform moment s.tunnel _ request q hplaced
    have hsize : q.length ≤ s.capacity := Nat.le_trans (Nat.le_add_left _ _) hfits
    have hknown := q.status.tag_mem_knownTags
    have hok := (hresult.ok (.enclose (reply.buffer.contents.take q.length) q.status)).mpr
      ⟨q.status.tag, q.length, hreport, hknown, hsize, by rw [Envelope.status_enclose], by
        simp only [Envelope.data?_enclose, Status.carriesData_iff]⟩
    refine .inr ⟨q.status.tag, q.length, _, hreport, hknown, hsize, fun htag => hcarries ?_,
      hok, by rw [Envelope.status_enclose]⟩
    -- of the statuses without data only these two have a tag of zero or two
    revert htag
    cases q.status <;> decide

/-- **The engine around a proper device keeps its contract.** It refuses no session that passes the
checks, by way of a bridge or not; asked for any tunnel, it refuses exactly the arguments of which a
key text does not decode to 32 bytes, a pre-shared one included that is there and empty. A request
crashes it, or is answered by an envelope: the tag that it reports is one of the five, the size is
at most the capacity of the session, and zero for the two outcomes that carry nothing. -/
theorem answers (hD : D.Proper) :
    (∀ (h : Host D.engine) b input,
        (h.createSession b input).2 ≠ .error (.session .creationFailed))
    ∧ (∀ (input : SessionInput) policy args state, input.check policy = .ok args →
        ∃ tunnel, (D.engine.create args state).2 = some tunnel)
    ∧ (∀ args state, (D.engine.create args state).2 = none ↔
        ¬ Key.Decodes args.privateKey ∨ ¬ Key.Decodes args.publicKey
          ∨ ∃ s, args.presharedKey = some s ∧ ¬ Key.Decodes s)
    ∧ (∀ privateKey publicKey keepAlive index state,
        (D.engine.create ⟨privateKey, publicKey, some "", keepAlive, index⟩ state).2 = none)
    ∧ ∀ (s : Session D.engine) moment request state,
        let reply := Session.replyTo D.engine s.capacity moment request s.tunnel state
        let result := (s.perform moment request state).result
        (reply.report = none ∧ result = .error .crash)
          ∨ ∃ tag size e, reply.report = some ⟨tag, size⟩ ∧ tag ∈ [0, 1, 2, 4, 6]
              ∧ size ≤ s.capacity ∧ (tag = 0 ∨ tag = 2 → size = 0)
              ∧ result = .ok e ∧ e.status.tag = tag := by
  refine ⟨hD.createSession_ne_creationFailed, ?_, fun args _ => hD.create_eq_none_iff, ?_,
    hD.answers_perform⟩
  · intro input policy args state hcheck
    obtain ⟨hchecks, hargs⟩ := SessionInput.check_eq_ok_iff.mp hcheck
    exact Option.ne_none_iff_exists'.mp (hD.create_ne_none hchecks hargs)
  · intro privateKey publicKey keepAlive index state
    exact hD.create_eq_none_iff.mpr (.inr (.inr ⟨"", rfl, Key.not_decodes_empty⟩))

end Device.Proper

end Noise

end TunnelHost
