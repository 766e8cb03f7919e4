import TunnelHost.Noise.Tunnel
import TunnelHost.Proofs.Classification

/-!
# Output is found at the front

An operation may leave its output anywhere in the buffer, while a report only says how many octets
there are and means those at the front. So the output is moved before the report is made. The place
that it is moved from may overlap the front; since it never lies before the front, each octet is
read before anything is written over it.

- `Placement.region`: the octets that are told of, where they were left.
- `shift`: octets moved to the front one at a time, in the buffer itself.
- `Placement.contents_settle`: the whole buffer after the move.
- `Placement.settle_found`: what is made of the report afterwards.
-/

namespace TunnelHost.Noise

variable {β : Type} {capacity : Nat}

/-! ## One octet at a time -/

/-- Moves octets from an offset on to the front, as many as are told. Each is read from what the
moves before it have left, not from what was there to begin with. -/
def shift (offset : Nat) (cs : List β) : (count : Nat) → List β
  | 0 => cs
  | count + 1 =>
    let moved := shift offset cs count
    match moved[offset + count]? with
    | some b => moved.set count b
    | none => moved

/-- No octet is overwritten before it is read: by induction on the number of octets moved, after
which everything from that number on is as it was, the next octet to be read with it. -/
theorem shift_eq {offset count : Nat} {cs : List β} (h : offset + count ≤ cs.length) :
    shift offset cs count = (cs.drop offset).take count ++ cs.drop count := by
  induction count with
  | zero => rfl
  | succ count ih =>
    have hlength : ((cs.drop offset).take count).length = count := by
      rw [List.length_take, List.length_drop]
      omega
    -- the octet that is read lies behind all that was overwritten, as the moves go upward
    have hread : (shift offset cs count)[offset + count]? = some cs[offset + count] := by
      rw [ih (by omega), List.getElem?_append_right (by omega), hlength, List.getElem?_drop,
        List.getElem?_eq_getElem (by omega)]
      congr 2
      omega
    have hnext : (cs.drop offset).take (count + 1)
        = (cs.drop offset).take count ++ [cs[offset + count]] := by
      rw [List.take_add_one, List.getElem?_drop, List.getElem?_eq_getElem (by omega)]
      rfl
    have hrest : cs.drop count = cs[count] :: cs.drop (count + 1) :=
      List.drop_eq_getElem_cons (by omega)
    simp only [shift, hread]
    rw [ih (by omega), List.set_append_right _ _ (by omega), hlength, Nat.sub_self, hrest,
      List.set_cons_zero, hnext, List.append_assoc]
    rfl

namespace Placement

/-! ## The move -/

/-- The octets at a place in a buffer. -/
def region (p : Placement) (b : Buffer β capacity) : List β :=
  (b.contents.drop p.offset).take p.length

variable {p : Placement} {b : Buffer β capacity}

theorem length_region (h : p.offset + p.length ≤ capacity) : (p.region b).length = p.length := by
  rw [region, List.length_take, List.length_drop, b.length_contents]
  omega

/-- The octets stand at the front, and behind them everything is as it was. This holds as well where
nothing is moved, because there is nothing to move or because it is in its place. -/
theorem contents_settle (h : p.offset + p.length ≤ capacity) :
    (p.settle b).1.contents = p.region b ++ b.contents.drop p.length := by
  have hlength := length_region (b := b) h
  by_cases hoffset : p.offset = 0
  · have hsettle : (p.settle b).1 = b := by simp [settle, hoffset]
    rw [hsettle, region, hoffset, List.drop_zero, List.take_append_drop]
  · by_cases hnone : p.length = 0
    · have hsettle : (p.settle b).1 = b := by simp [settle, hnone]
      rw [hsettle, region, hnone, List.take_zero, List.drop_zero, List.nil_append]
    · have hsettle : (p.settle b).1 = b.overwrite (p.region b) := by
        simp [settle, hoffset, hnone, region]
      have hfit : (p.region b).take capacity = p.region b := List.take_of_length_le (by omega)
      rw [hsettle]
      show (p.region b).take capacity ++ b.contents.drop (p.region b).length = _
      rw [hfit, hlength]

/-! ## The report -/

/-- **Output is found where the report says it is.** Wherever in a buffer the output was left, over
the front, behind it, at the very end or with no octet at all: once it is settled, its report is
believed and gives an envelope of its status with the octets that were at its place before. From
their number on, the buffer is as it was. The octets could as well have been moved one at a time in
the buffer itself. -/
theorem settle_found (p : Placement) (b : Buffer β capacity) (hdata : p.status.carriesData = true)
    (hplace : p.offset + p.length ≤ capacity) :
    let settled := (p.settle b).1
    let report := (p.settle b).2
    (∃ e, classify report settled.contents = .ok e ∧ e.status = p.status
        ∧ e.data? = some ((b.contents.drop p.offset).take p.length))
      ∧ (∀ i, p.length ≤ i → settled.contents[i]? = b.contents[i]?)
      ∧ settled.contents = shift p.offset b.contents p.length := by
  intro settled report
  have hcontents : settled.contents = p.region b ++ b.contents.drop p.length :=
    contents_settle hplace
  have hlength := length_region (b := b) hplace
  refine ⟨⟨.enclose (p.region b) p.status, ?_, Envelope.status_enclose _ _, ?_⟩, ?_, ?_⟩
  · have htake : settled.contents.take p.length = p.region b := by
      rw [hcontents, ← hlength, List.take_left]
    have hfits : p.length ≤ settled.contents.length := by
      rw [settled.length_contents]
      omega
    show classify (.of p.status p.length) settled.contents = _
    rw [classify_of p.status hfits, htake]
  · rw [Envelope.data?_enclose, if_pos hdata]
    rfl
  · intro i hi
    -- beyond what was moved the buffer is as it was
    rw [hcontents, List.getElem?_append_right (by omega), List.getElem?_drop, hlength]
    congr 1
    omega
  · rw [shift_eq (by rw [b.length_contents]; exact hplace)]
    exact hcontents

/-- Three octets at the end of five, one of which is overwritten by the move. -/
theorem settle_found_overlapping :
    let p : Placement := ⟨.toTunnel6, 2, 3⟩
    let b : Buffer UInt8 5 := .ofList [1, 2, 3, 4, 5]
    p.status.carriesData = true ∧ p.offset + p.length ≤ 5
      ∧ classify (p.settle b).2 (p.settle b).1.contents = .ok (.toTunnel6 [3, 4, 5])
      ∧ (p.settle b).1.contents = [3, 4, 5, 4, 5] := by
  intro p b
  obtain ⟨⟨e, he, hstatus, hdata⟩, -, hshift⟩ := settle_found p b (by decide) (by decide)
  have henvelope : e = .toTunnel6 [3, 4, 5] := Envelope.ext_status_data hstatus hdata
  exact ⟨by decide, by decide, henvelope ▸ he, hshift.trans (by decide)⟩

end Placement

end TunnelHost.Noise
