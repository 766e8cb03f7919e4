import TunnelHost.Peer
import TunnelHost.Proofs.AddressRanges
import TunnelHost.Proofs.AllowedEntries
import TunnelHost.Proofs.FreshOutput

/-!
# Which addresses a peer may use

A peer may use an address if some entry of its list is of the same version and has the leading bits
that the entry counts. What the program looks at are ranges of addresses; what it is told are
entries.

- `AllowedList.admits_iff`: an address is in a list exactly if it is in one of its entries.
- `AllowedList.admits_congr`: order and repetition of entries do not matter.
- `Peer.admits_iff_entry`: all of it, for a peer.
-/

namespace TunnelHost

open Address

namespace Network

variable {net net' : Network} {ip : Ip}

/-- The bits that do not count can be written in any way. -/
theorem contains_congr (hlength : net.length = net'.length)
    (h : Ip.Agrees net.length net.address net'.address) : net.contains ip = net'.contains ip := by
  rw [Bool.eq_iff_iff, contains_iff, contains_iff, ← hlength]
  exact ⟨h.symm.trans, h.trans⟩

/-- A prefix without bits matches every address of its version. -/
theorem contains_of_length_zero (h : net.length = 0) :
    net.contains ip = true ↔ ip.version = net.address.version := by
  rw [contains_iff, h, Ip.agrees_zero_iff, eq_comm]

/-- A single address matches itself alone. -/
theorem contains_host {a : Ip} : (host a).contains ip = true ↔ ip = a := by
  obtain ⟨haddress, hlength⟩ := host_eq_iff.mp (Eq.refl (host a))
  rw [contains_iff, haddress, hlength, Ip.agrees_width_iff, eq_comm]

theorem not_contains_of_version (h : ip.version ≠ net.address.version) :
    net.contains ip = false := by
  rw [← Bool.not_eq_true, contains_iff]
  exact fun hagrees => h hagrees.1.symm

/-- Whatever is the meaning of an entry is a network. -/
theorem exists_of_isEntry {entry : List Char} {a : Ip} {n : Nat} (h : IsEntry entry a n) :
    ∃ net : Network, net.address = a ∧ net.length = n := by
  have hn : n ≤ width a := by
    cases h with
    | explicit _ _ hn => exact hn
    | bare _ => exact Nat.le_refl _
  cases a with
  | v4 a => exact ⟨.v4 a ⟨n, Nat.lt_succ_of_le hn⟩, rfl, rfl⟩
  | v6 a => exact ⟨.v6 a ⟨n, Nat.lt_succ_of_le hn⟩, rfl, rfl⟩

end Network

namespace AllowedList

variable {s t : String} {networks others : List Network} {ip : Ip}

/-- The networks of a list are those of its entries. -/
theorem mem_iff_entry (h : ofText s = .ok networks) {net : Network} :
    net ∈ networks ↔ ∃ entry ∈ entries s.toList, IsEntry entry net.address net.length := by
  have hread := mapM_eq_ok_iff.mp h
  constructor
  · intro hnet
    obtain ⟨entry, hentry, hnet⟩ := forall₂_mem_right hread hnet
    exact ⟨entry, hentry, ofEntry_eq_ok_iff.mp hnet⟩
  · rintro ⟨entry, hentry, hnet⟩
    obtain ⟨found, hfound, hsame⟩ := forall₂_mem_left hread hentry
    rw [ofEntry_eq_ok_iff.mpr hnet] at hsame
    cases hsame
    exact hfound

/-- An address is in a list exactly if it is in what one of its entries means. -/
theorem admits_iff (h : ofText s = .ok networks) : admits networks ip = true ↔
    ∃ entry ∈ entries s.toList, ∃ a n, IsEntry entry a n ∧ Ip.Agrees n a ip := by
  rw [admits, List.any_eq_true]
  constructor
  · rintro ⟨net, hnet, hcontains⟩
    obtain ⟨entry, hentry, hread⟩ := (mem_iff_entry h).mp hnet
    exact ⟨entry, hentry, _, _, hread, (Network.contains_iff net ip).mp hcontains⟩
  · rintro ⟨entry, hentry, a, n, hread, hagrees⟩
    obtain ⟨net, rfl, rfl⟩ := Network.exists_of_isEntry hread
    have hnet := (mem_iff_entry h).mpr ⟨entry, hentry, hread⟩
    exact ⟨net, hnet, (Network.contains_iff net ip).mpr hagrees⟩

/-- Lists with the same entries, in any order and any number, admit the same addresses. -/
theorem admits_congr (hs : ofText s = .ok networks) (ht : ofText t = .ok others)
    (hsame : ∀ entry, entry ∈ entries s.toList ↔ entry ∈ entries t.toList) :
    admits networks ip = admits others ip := by
  rw [Bool.eq_iff_iff, admits_iff hs, admits_iff ht]
  simp only [hsame]

end AllowedList

namespace Peer

open AllowedList (ofText written)

variable {β : Type} {E : Engine β}

/-- A peer may use the addresses that agree with some entry of its list, which is of the same
version, on as many leading bits as the entry counts; all of them, if it is a bare address. It does
not matter in which order and how often the entries are written, nor what the further bits of an
entry are. Where no bit counts every address of the version is meant, and an address alone means
just itself. An address of one version is never in a network of the other, even where it stands for
one that is. -/
theorem admits_iff_entry {p : Peer E} {text : String} (h : ofText text = .ok p.allowed) :
    (∀ ip, p.admits ip = true ↔ ∃ piece ∈ written text.toList, ∃ a n,
        IsEntry (Text.trimChars piece) a n ∧ Ip.Agrees n a ip)
      ∧ (∀ (q : Peer E) (other : String), ofText other = .ok q.allowed →
        (∀ entry, entry ∈ (written text.toList).map Text.trimChars ↔
          entry ∈ (written other.toList).map Text.trimChars) →
        ∀ ip, p.admits ip = q.admits ip)
      ∧ (∀ net net' : Network, net.length = net'.length →
        Ip.Agrees net.length net.address net'.address → ∀ ip, net.contains ip = net'.contains ip)
      ∧ (∀ net : Network, net.length = 0 →
        ∀ ip, net.contains ip = true ↔ ip.version = net.address.version)
      ∧ (∀ a ip, (Network.host a).contains ip = true ↔ ip = a)
      ∧ ∀ (net : Network) (ip : Ip), ip.version ≠ net.address.version →
        net.contains ip = false := by
  refine ⟨fun ip => ?_, ?_, fun _ _ hlength hagrees _ => Network.contains_congr hlength hagrees,
    fun _ hzero _ => Network.contains_of_length_zero hzero, fun _ _ => Network.contains_host,
    fun _ _ => Network.not_contains_of_version⟩
  · rw [Peer.admits, AllowedList.admits_iff h, AllowedList.entries_eq]
    simp only [List.mem_map, exists_exists_and_eq_and]
  · intro q other hother hsame ip
    refine AllowedList.admits_congr h hother fun entry => ?_
    rw [AllowedList.entries_eq, AllowedList.entries_eq]
    exact hsame entry

/-- A peer with a network, written with further bits, and a single address. -/
def listedSample : Peer Scripted.engine :=
  ⟨Session.scriptedSample, [.v4 0x0a000007 ⟨24, by decide⟩, .host (.v4 0xc0a80105)], none⟩

/-- The address 10.0.0.42 is in the network that is written as 10.0.0.7/24; the address of the sixth
version that stands for it is in nothing that is written there. -/
theorem admits_iff_entry_listed :
    ofText "10.0.0.7/24, 192.168.1.5" = .ok listedSample.allowed
      ∧ (∃ piece ∈ written "10.0.0.7/24, 192.168.1.5".toList, ∃ a n,
        IsEntry (Text.trimChars piece) a n ∧ Ip.Agrees n a (.v4 0x0a00002a))
      ∧ ¬ ∃ piece ∈ written "10.0.0.7/24, 192.168.1.5".toList, ∃ a n,
        IsEntry (Text.trimChars piece) a n ∧ Ip.Agrees n a (.v6 0xffff0a00002a) := by
  have hread : ofText "10.0.0.7/24, 192.168.1.5" = .ok listedSample.allowed := rfl
  obtain ⟨hadmits, -⟩ := admits_iff_entry hread
  exact ⟨hread, (hadmits _).mp (by decide), fun h => absurd ((hadmits _).mpr h) (by decide)⟩

end Peer

end TunnelHost
