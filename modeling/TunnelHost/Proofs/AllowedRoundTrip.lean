import TunnelHost.Proofs.AddressWriting
import TunnelHost.Proofs.AllowedEntries

/-!
# Writing lists of networks

The texts of networks with commas between them are a list of networks, and it is read as just these
networks. The written form is thus a normal form of whatever was read.

- `AllowedList.text`: the written form.
- `AllowedList.ofText_text`: it is read back.
- `AllowedList.text_normal`: writing what was read, and reading it, changes nothing any more.
-/

namespace TunnelHost.AllowedList

open Address

/-- The texts of some networks with commas between them. -/
def text (networks : List Network) : String :=
  String.intercalate "," (networks.map Network.text)

theorem intercalate_eq_joinWith (mark : Char) (ts : List (List Char)) :
    [mark].intercalate ts = Ip.joinWith mark ts := by
  induction ts with
  | nil => rfl
  | cons t ts ih =>
    cases ts with
    | nil => exact List.intercalate_singleton ..
    | cons u us =>
      rw [List.intercalate_cons_cons, ih]
      simp [Ip.joinWith]

theorem toList_text (networks : List Network) :
    (text networks).toList = Ip.joinWith ',' (networks.map Network.chars) := by
  rw [text, String.toList_intercalate, List.map_map, ← intercalate_eq_joinWith]
  congr 1
  simp [Network.text]

theorem plain_chars (net : Network) : ∀ c ∈ net.chars, c ≠ ',' ∧ Text.isBlank c = false :=
  fun c hc => plain_of_bounds (net.isEntry_chars.bounds c hc)

theorem trimChars_chars (net : Network) : Text.trimChars net.chars = net.chars :=
  Text.trimChars_eq_self (fun c hc => (plain_chars net c (List.mem_of_mem_head? hc)).2)
    fun c hc => (plain_chars net c (List.mem_of_mem_getLast? hc)).2

/-- The entries of a written list are the networks that were written. -/
theorem entries_text (networks : List Network) :
    entries (text networks).toList = networks.map Network.chars := by
  have hcommas : ∀ t ∈ networks.map Network.chars, ',' ∉ t := by
    intro t ht hcomma
    obtain ⟨net, -, rfl⟩ := List.mem_map.mp ht
    exact (plain_chars net ',' hcomma).1 rfl
  have htrimmed : (networks.map Network.chars).map Text.trimChars = networks.map Network.chars := by
    rw [List.map_map]
    exact List.map_congr_left fun net _ => trimChars_chars net
  rw [toList_text, entries_joinWith hcommas, htrimmed, List.filter_eq_self]
  intro t ht
  obtain ⟨net, -, rfl⟩ := List.mem_map.mp ht
  simp [Network.chars]

/-- Any networks are read back from their written form. -/
theorem ofText_text (networks : List Network) : ofText (text networks) = .ok networks := by
  rw [ofText, ofChars, entries_text, mapM_eq_ok_iff, List.forall₂_map_left_iff, List.forall₂_same]
  exact fun net _ => ofEntry_eq_ok_iff.mpr net.isEntry_chars

/-- Whatever list was accepted, its networks in their written form are accepted again and mean the
same, and what is written then is the very same text. -/
theorem text_normal {s : String} {networks : List Network} (h : ofText s = .ok networks) :
    ofText (text networks) = ofText s
      ∧ ∀ again, ofText (text networks) = .ok again →
          again = networks ∧ text again = text networks := by
  rw [ofText_text, h]
  refine ⟨rfl, ?_⟩
  intro again hagain
  cases hagain
  exact ⟨rfl, rfl⟩

/-- Networks that can be written in more than one way. -/
def mixedSample : List Network :=
  [.v4 0x0A000007 ⟨8, by decide⟩, .host (.v6 0xFFFF0A000001),
    .v6 0x0001_0000_0000_0002_0000_0000_0000_0003 ⟨64, by decide⟩]

/-- A padded octet, a mapped address in capitals and two runs of zeros are written anew. -/
theorem text_normal_mixed :
    ofText " 010.0.0.7/8 , ,::FFFF:a00:1,1:0:0:2:0:0:0:3/64" = .ok mixedSample
      ∧ text mixedSample = "10.0.0.7/8,::ffff:10.0.0.1/128,1:0:0:2::3/64"
      ∧ ofText "10.0.0.7/8,::ffff:10.0.0.1/128,1:0:0:2::3/64" = .ok mixedSample := by
  have hread : ofText " 010.0.0.7/8 , ,::FFFF:a00:1,1:0:0:2:0:0:0:3/64" = .ok mixedSample := rfl
  have hwritten : text mixedSample = "10.0.0.7/8,::ffff:10.0.0.1/128,1:0:0:2::3/64" := by
    decide +kernel
  obtain ⟨hsame, -⟩ := text_normal hread
  exact ⟨hread, hwritten, hwritten ▸ hsame.trans hread⟩

end TunnelHost.AllowedList
