import TunnelHost.Proofs.Classification
import TunnelHost.Proofs.JsonMeaning

/-!
# Envelopes and their texts

An envelope is told to the host as a JSON text, and nothing is lost by that. The text means one
object: with the name of the outcome, and with the octets if the outcome carries any. No octets to
tell and none of those that could be told are different texts.

- `Status.names`: the names of the outcomes by their tags.
- `Envelope.toJson_of_classify`: the value of an envelope that a report led to.
- `Envelope.toJson_injective`: envelopes with one value.
- `Json.Value.means_compact_iff`: what a text on one line means.
- `Envelope.texts_faithful`: the texts of envelopes.
-/

namespace TunnelHost

namespace Status

/-- The name of each outcome, by its tag. -/
def names : List (UInt32 × String) :=
  [(0, "WIREGUARD_DONE"), (1, "WRITE_TO_NETWORK"), (2, "WIREGUARD_ERROR"),
    (4, "WRITE_TO_TUNNEL_IPV4"), (6, "WRITE_TO_TUNNEL_IPV6")]

theorem mem_names_iff {s : Status} {name : String} : (s.tag, name) ∈ names ↔ name = s.name := by
  cases s <;> simp [names, tag, Status.name]

theorem mem_all (s : Status) : s ∈ all := by
  cases s <;> decide

/-- The name tells the status. -/
theorem name_injective {s t : Status} (h : s.name = t.name) : s = t := by
  have hall : ∀ s ∈ all, ∀ t ∈ all, s.name = t.name → s = t := by decide
  exact hall s s.mem_all t t.mem_all h

end Status

namespace Envelope

variable {β : Type} {octet : β → UInt8}

/-- The octets as a JSON value: their list, as numbers. -/
def octetsToJson (octet : β → UInt8) (data : List β) : Json.Value :=
  .list (data.map fun b => .integer (octet b).toNat)

/-- An envelope is written as its type, followed by its octets if it carries any. -/
theorem toJson_eq (octet : β → UInt8) (e : Envelope β) :
    e.toJson octet = .object (("type", .string e.status.name)
      :: (e.data?.map fun data => ("data", octetsToJson octet data)).toList) := rfl

/-- The value of an envelope, by the report that led to it. -/
theorem toJson_of_classify {report : Report} {output : List β} {e : Envelope β}
    (h : classify report output = .ok e) :
    e.toJson octet = .object (("type", .string e.status.name)
      :: if report.tag ∈ Status.carryingTags
        then [("data", octetsToJson octet (output.take report.size))] else []) := by
  obtain ⟨-, -, hdata⟩ := classify_eq_ok_iff.mp h
  rw [toJson_eq, hdata]
  split
  · rfl
  · rfl

/-- The written octets tell the octets, if the numbers of octets do. -/
theorem octetsToJson_injective (hoctet : Function.Injective octet) {data data' : List β}
    (h : octetsToJson octet data = octetsToJson octet data') : data = data' := by
  refine List.map_injective_iff.mpr ?_ (Json.Value.list.inj h)
  intro b b' hb
  exact hoctet (UInt8.toNat_inj.mp (Int.ofNat.inj (Json.Value.integer.inj hb)))

/-- Nothing of an envelope is lost in its value. -/
theorem toJson_injective (hoctet : Function.Injective octet) {e f : Envelope β}
    (h : e.toJson octet = f.toJson octet) : e = f := by
  rw [toJson_eq, toJson_eq, Json.Value.object.injEq, List.cons.injEq, Prod.mk.injEq,
    Json.Value.string.injEq] at h
  obtain ⟨⟨-, hname⟩, hmembers⟩ := h
  refine ext_status_data (Status.name_injective hname) ?_
  -- an envelope without data has one member only, so that both have data or neither
  cases hdata : e.data? with
  | none =>
    cases hdata' : f.data? with
    | none => rfl
    | some data' =>
      rw [hdata, hdata'] at hmembers
      cases hmembers
  | some data =>
    cases hdata' : f.data? with
    | none =>
      rw [hdata, hdata'] at hmembers
      cases hmembers
    | some data' =>
      rw [hdata, hdata'] at hmembers
      have hvalue := (Prod.mk.inj (List.cons.inj hmembers).1).2
      rw [octetsToJson_injective hoctet hvalue]

end Envelope

/-! ## Texts -/

/-- The compact form of a value means this value and no other. -/
theorem Json.Value.means_compact_iff {v w : Json.Value} :
    Json.Means w v.compact.toList ↔ w = v := by
  rw [Json.Value.compact, String.toList_ofList]
  exact Json.means_write_iff

/-- A value on one line is known from its text. -/
theorem Json.Value.compact_injective {v w : Json.Value} (h : v.compact = w.compact) : v = w := by
  have hmeans : Json.Means v w.compact.toList := h ▸ Json.Value.means_compact_iff.mpr rfl
  exact Json.Value.means_compact_iff.mp hmeans

/-- **The text of an envelope loses nothing.** Whatever report on whatever buffer is believed, the
text of the envelope means one JSON value and no other: an object with the name that belongs to the
reported tag and, exactly if the tag is that of an outcome with octets, with the list of as many
octets from the front of the buffer as are reported, in order and as numbers. The list may be empty,
which is another thing than that it is missing. So envelopes with one text are one envelope. -/
theorem Envelope.texts_faithful :
    (∀ (report : Report) (output : List UInt8) (e : Envelope UInt8),
      classify report output = .ok e →
      ∃ name, (report.tag, name) ∈ Status.names ∧ report.size ≤ output.length
        ∧ ∀ v : Json.Value, Json.Means v (e.toJson id).compact.toList ↔
            v = .object (("type", .string name)
              :: if e.status ∈ [.toNetwork, .toTunnel4, .toTunnel6]
                then [("data", .list ((output.take report.size).map fun b => .integer b.toNat))]
                else []))
    ∧ ∀ e f : Envelope UInt8, (e.toJson id).compact = (f.toJson id).compact → e = f := by
  refine ⟨?_, ?_⟩
  · intro report output e h
    obtain ⟨hsize, htag, -⟩ := classify_eq_ok_iff.mp h
    have hcarries : report.tag ∈ Status.carryingTags ↔
        e.status ∈ [.toNetwork, .toTunnel4, .toTunnel6] := by
      rw [← htag]
      cases e.status <;> decide
    refine ⟨e.status.name, htag ▸ Status.mem_names_iff.mpr rfl, hsize, fun v => ?_⟩
    rw [Json.Value.means_compact_iff, toJson_of_classify h]
    simp only [hcarries]
    exact Iff.rfl
  · intro e f h
    exact toJson_injective Function.injective_id (Json.Value.compact_injective h)

/-- A report of no octets that carries some, on a buffer that has two: an empty list is told. -/
theorem Envelope.texts_faithful_empty :
    let text := (toJson id (.toTunnel4 ([] : List UInt8))).compact
    text = "\x7b\"type\":\"WRITE_TO_TUNNEL_IPV4\",\"data\":[]\x7d"
      ∧ Json.Means (.object [("type", .string "WRITE_TO_TUNNEL_IPV4"), ("data", .list [])])
          text.toList
      ∧ text ≠ (toJson id (.done : Envelope UInt8)).compact := by
  intro text
  obtain ⟨hmeans, hinjective⟩ := texts_faithful
  obtain ⟨name, hname, -, hvalue⟩ := hmeans ⟨4, 0⟩ [7, 8] (.toTunnel4 []) rfl
  have hname : name = "WRITE_TO_TUNNEL_IPV4" := Status.mem_names_iff (s := .toTunnel4).mp hname
  subst hname
  refine ⟨by decide, (hvalue _).mpr rfl, fun htext => ?_⟩
  cases hinjective _ _ htext

end TunnelHost
