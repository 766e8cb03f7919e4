import Mathlib.Algebra.Group.Nat.Defs
import Mathlib.Tactic.SplitIfs
import TunnelHost.Address.Network
import TunnelHost.Proofs.AddressGrammar

/-!
# Networks as ranges

A network is a range of addresses for the program, and a number of leading bits for those who write
it down. The two are the same for every length, none and all bits included.

- `Ip.bit`, `Ip.version`, `Ip.Agrees`: leading bits that two addresses share.
- `Ip.agrees_zero_iff`, `Ip.agrees_width_iff`: no bit in common, and all of them.
- `Network.toNat_first`, `Network.toNat_last`: the ends of the range.
- `Network.spans_iff`: an address is in the range exactly if it has the leading bits.
- `Network.contains_iff`: what a network contains.
-/

namespace TunnelHost

namespace Ip

/-- A bit of an address, counted from the most significant one. -/
def bit : Ip → Nat → Bool
  | .v4 a, i => a.getMsbD i
  | .v6 a, i => a.getMsbD i

/-- The version of an address. -/
def version : Ip → Nat
  | .v4 _ => 4
  | .v6 _ => 6

/-- Two addresses of the same version have the first `n` bits in common. -/
def Agrees (n : Nat) (a b : Ip) : Prop := version a = version b ∧ ∀ i < n, bit a i = bit b i

theorem Agrees.symm {n : Nat} {a b : Ip} (h : Agrees n a b) : Agrees n b a :=
  ⟨h.1.symm, fun i hi => (h.2 i hi).symm⟩

theorem Agrees.trans {n : Nat} {a b c : Ip} (hab : Agrees n a b) (hbc : Agrees n b c) :
    Agrees n a c :=
  ⟨hab.1.trans hbc.1, fun i hi => (hab.2 i hi).trans (hbc.2 i hi)⟩

theorem agrees_zero_iff {a b : Ip} : Agrees 0 a b ↔ version a = version b :=
  and_iff_left fun _ hi => absurd hi (Nat.not_lt_zero _)

/-- Addresses with all bits in common are the same. -/
theorem agrees_width_iff {a b : Ip} : Agrees (Address.width a) a b ↔ a = b := by
  constructor
  · rintro ⟨hversion, hbits⟩
    cases a with
    | v4 a =>
      cases b with
      | v4 b => exact congrArg Ip.v4 (BitVec.eq_of_getMsbD_eq hbits)
      | v6 b => cases hversion
    | v6 a =>
      cases b with
      | v4 b => cases hversion
      | v6 b => exact congrArg Ip.v6 (BitVec.eq_of_getMsbD_eq hbits)
  · rintro rfl
    exact ⟨rfl, fun _ _ => rfl⟩

end Ip

namespace Network

section

variable {w n : Nat} (a : BitVec w) (hn : n ≤ w)

/-! ## The ends of the range -/

/-- Shifting out the bits that do not count, and back, gives the first address. -/
theorem first_eq : first a n = (a >>> (w - n)) <<< (w - n) := by
  apply BitVec.eq_of_getLsbD_eq
  intro i hi
  simp only [first, BitVec.getLsbD_and, BitVec.getLsbD_shiftLeft, BitVec.getLsbD_allOnes,
    BitVec.getLsbD_ushiftRight]
  by_cases hlow : i < w - n
  · simp [hlow]
  · have hsum : w - n + (i - (w - n)) = i := by omega
    have hbelow : i - (w - n) < w := by omega
    simp [hlow, hi, hsum, hbelow]

/-- The first address of a range, as a number: the bits that do not count are zero. -/
theorem toNat_first : (first a n).toNat = a.toNat / 2 ^ (w - n) * 2 ^ (w - n) := by
  have hle : a.toNat / 2 ^ (w - n) * 2 ^ (w - n) ≤ a.toNat := Nat.div_mul_le_self ..
  rw [first_eq, BitVec.toNat_shiftLeft, BitVec.toNat_ushiftRight, Nat.shiftLeft_eq,
    Nat.shiftRight_eq_div_pow, Nat.mod_eq_of_lt (Nat.lt_of_le_of_lt hle a.isLt)]

include hn in
/-- The last address of a range, as a number: the bits that do not count are one. -/
theorem toNat_last :
    (last a n).toNat = a.toNat / 2 ^ (w - n) * 2 ^ (w - n) + (2 ^ (w - n) - 1) := by
  -- the last address has ones wherever the mask has zeros
  have hlast : last a n = first a n ||| BitVec.allOnes w >>> n := by
    apply BitVec.eq_of_getLsbD_eq
    intro i hi
    simp only [last, first, BitVec.getLsbD_or, BitVec.getLsbD_and, BitVec.getLsbD_shiftLeft,
      BitVec.getLsbD_allOnes, BitVec.getLsbD_ushiftRight]
    by_cases hlow : i < w - n
    · have hbelow : n + i < w := by omega
      simp [hbelow]
    · have hbelow : i - (w - n) < w := by omega
      simp [hlow, hi, hbelow]
  have hmask : (BitVec.allOnes w >>> n).toNat = 2 ^ (w - n) - 1 := by
    rw [BitVec.toNat_ushiftRight, BitVec.toNat_allOnes]
    refine Nat.eq_of_testBit_eq fun i => ?_
    rw [Nat.testBit_shiftRight, Nat.testBit_two_pow_sub_one, Nat.testBit_two_pow_sub_one,
      decide_eq_decide]
    omega
  have hbelow : 2 ^ (w - n) - 1 < 2 ^ (w - n) := Nat.sub_one_lt (Nat.ne_of_gt (Nat.two_pow_pos _))
  -- the two halves share no bit, so that `or` is a sum
  rw [hlast, BitVec.toNat_or, hmask, toNat_first, ← Nat.shiftLeft_eq,
    Nat.shiftLeft_add_eq_or_of_lt hbelow]

/-! ## The range and the bits -/

variable {a} in
include hn in
/-- The quotient of an address by what the further bits can hold has the leading bits, and no
others. -/
theorem div_eq_iff_getMsbD {b : BitVec w} :
    b.toNat / 2 ^ (w - n) = a.toNat / 2 ^ (w - n) ↔ ∀ i < n, a.getMsbD i = b.getMsbD i := by
  constructor
  · intro h i hi
    have hbit := congrArg (Nat.testBit · (n - 1 - i)) h
    -- bits are counted from the front in a prefix and from the back in a number
    have hplace : n - 1 - i + (w - n) = w - 1 - i := by omega
    simp only [Nat.testBit_div_two_pow, hplace] at hbit
    rw [BitVec.getMsbD_eq_getLsbD, BitVec.getMsbD_eq_getLsbD]
    exact congrArg (decide (i < w) && ·) hbit.symm
  · intro h
    refine Nat.eq_of_testBit_eq fun i => ?_
    rw [Nat.testBit_div_two_pow, Nat.testBit_div_two_pow]
    by_cases hi : i < n
    · have hbit := h (n - 1 - i) (by omega)
      have hplace : w - 1 - (n - 1 - i) = i + (w - n) := by omega
      have hinside : n - 1 - i < w := by omega
      simp only [BitVec.getMsbD_eq_getLsbD, hplace, hinside, decide_true, Bool.true_and] at hbit
      exact hbit.symm
    · have hbeyond : w ≤ i + (w - n) := by omega
      exact (BitVec.getLsbD_of_ge b _ hbeyond).trans (BitVec.getLsbD_of_ge a _ hbeyond).symm

include hn in
/-- The addresses between the ends are those with the leading bits. -/
theorem spans_iff (b : BitVec w) : spans a n b = true ↔ ∀ i < n, a.getMsbD i = b.getMsbD i := by
  have hpos := Nat.two_pow_pos (w - n)
  rw [← div_eq_iff_getMsbD hn, spans, Bool.and_eq_true, decide_eq_true_eq, decide_eq_true_eq,
    BitVec.le_def, BitVec.le_def, toNat_first, toNat_last a hn, Nat.div_eq_iff hpos]
  omega

end

/-- A network contains the addresses of its version that have its leading bits. -/
theorem contains_iff (net : Network) (ip : Ip) :
    net.contains ip = true ↔ Ip.Agrees net.length net.address ip := by
  cases net with
  | v4 a n =>
    cases ip with
    | v4 b => exact (spans_iff a (Nat.le_of_lt_succ n.isLt) b).trans (and_iff_right rfl).symm
    | v6 b => simp [contains, Ip.Agrees, Ip.version, address]
  | v6 a n =>
    cases ip with
    | v4 b => simp [contains, Ip.Agrees, Ip.version, address]
    | v6 b => exact (spans_iff a (Nat.le_of_lt_succ n.isLt) b).trans (and_iff_right rfl).symm

end Network

end TunnelHost
