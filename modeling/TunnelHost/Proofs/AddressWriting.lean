import TunnelHost.Proofs.AddressGrammar
import TunnelHost.Proofs.JsonWriting
import TunnelHost.Proofs.Numerals

/-!
# Writing addresses and networks

Each address is written as a text of the grammar that means just this address. It is in the strict
dialect, so that it can stand alone and with a prefix length.

- `isNumeral_digits`: numerals of either base.
- `Ip.join_split`: the parts of a number make up the number.
- `Ip.longestZeros_split`: what `::` stands for is a run of zeros in the place where it is written.
- `isAddress_chars`: an address of either version.
- `Network.isEntry_chars`: a network, host bits included.
-/

namespace TunnelHost

/-! ## Numerals -/

namespace Address

theorem isDigit_digitChar {base v : Nat} (hbase : base ≤ 16) (hv : v < base) :
    IsDigit base (Numeral.digitChar v) v :=
  ⟨hv, Json.isHexDigit_digitChar v (by omega)⟩

/-- A numeral has no more digits than are needed: by induction on how many there may be, along the
last digit. -/
theorem isNumeral_digits {base n : Nat} (hbase : 2 ≤ base ∧ base ≤ 16) (most : Nat)
    (hn : n < base ^ (most + 1)) : IsNumeral base (most + 1) (Numeral.digits base n) n := by
  induction most generalizing n with
  | zero =>
    rw [Nat.zero_add, Nat.pow_one] at hn
    rw [Numeral.digits, dif_pos (Or.inl hn)]
    exact ⟨List.cons_ne_nil _ _, Nat.le_refl 1, [n], .cons (isDigit_digitChar hbase.2 hn) .nil,
      Numeral.ofDigits_singleton base n⟩
  | succ most ih =>
    have hdigit := isDigit_digitChar hbase.2 (Nat.mod_lt n (by omega : 0 < base))
    rw [Numeral.digits]
    split_ifs with hsmall
    · have hsmall : n < base := by omega
      exact ⟨List.cons_ne_nil _ _, by simp, [n], .cons (isDigit_digitChar hbase.2 hsmall) .nil,
        Numeral.ofDigits_singleton base n⟩
    -- the digits in front of the last one spell `n / base`
    · obtain ⟨-, hlength, ds, hds, hvalue⟩ := ih (Nat.div_lt_of_lt_mul (by rwa [← Nat.pow_succ']))
      refine ⟨by simp, ?_, ds ++ [n % base], List.rel_append hds (.cons hdigit .nil), ?_⟩
      · rw [List.length_append, List.length_singleton]
        omega
      · rw [Numeral.ofDigits_append_singleton, hvalue, Nat.div_add_mod']

/-- Numbers are written without a zero in front. -/
theorem not_padded_digits (n : Nat) : ¬ Padded (Numeral.digits 10 n) := by
  rintro ⟨c, cs, h⟩
  have halone := (Json.isNatural_digits n).1.2 (by rw [h]; rfl)
  rw [h] at halone
  cases halone

theorem isOctet_digits {n : Nat} (hn : n < 256) : IsOctet strict (Numeral.digits 10 n) n where
  numeral := isNumeral_digits (by decide) 2 (by omega)
  lt := hn
  plain _ := not_padded_digits n

theorem isGroup_digits {n : Nat} (hn : n < 2 ^ 16) : IsGroup (Numeral.digits 16 n) n :=
  isNumeral_digits (by decide) 3 (by omega)

end Address

/-! ## The parts of a number -/

namespace Ip

variable (bits : Nat)

theorem split_succ (count n : Nat) :
    split bits (count + 1) n = split bits count (n / 2 ^ bits) ++ [n % 2 ^ bits] := rfl

theorem length_split (count n : Nat) : (split bits count n).length = count := by
  induction count generalizing n with
  | zero => rfl
  | succ count ih => rw [split_succ, List.length_append, ih, List.length_singleton]

theorem split_lt (count n : Nat) : ∀ part ∈ split bits count n, part < 2 ^ bits := by
  induction count generalizing n with
  | zero => exact List.forall_mem_nil _
  | succ count ih =>
    rw [split_succ]
    exact List.forall_mem_append.mpr
      ⟨ih _, List.forall_mem_singleton.mpr (Nat.mod_lt n (Nat.two_pow_pos bits))⟩

/-- The parts of a number make up the number, as far as they go. -/
theorem join_split (count n : Nat) : join bits (split bits count n) = n % (2 ^ bits) ^ count := by
  induction count generalizing n with
  | zero => exact (Nat.mod_one n).symm
  | succ count ih =>
    have hlast : join bits (split bits (count + 1) n) =
        join bits (split bits count (n / 2 ^ bits)) * 2 ^ bits + n % 2 ^ bits :=
      Numeral.ofDigits_append_singleton ..
    rw [hlast, ih, Nat.pow_succ', Nat.mod_mul, Nat.mul_comm, Nat.add_comm]

/-- The parts of a number fall into those of its upper and those of its lower half. -/
theorem split_add (c k n : Nat) :
    split bits (c + k) n = split bits c (n / (2 ^ bits) ^ k) ++ split bits k n := by
  induction k generalizing n with
  | zero => rw [Nat.pow_zero, Nat.div_one, split, List.append_nil]; rfl
  | succ k ih =>
    rw [← Nat.add_assoc, split_succ, split_succ, ih, List.append_assoc, Nat.div_div_eq_div_mul,
      Nat.pow_succ']

/-- The bits above those that are split do not matter. -/
theorem split_mod (count n : Nat) :
    split bits count (n % (2 ^ bits) ^ count) = split bits count n := by
  induction count generalizing n with
  | zero => rfl
  | succ count ih =>
    rw [split_succ, split_succ, Nat.pow_succ', Nat.mod_mul_right_div_self, ih,
      Nat.mod_mul_right_mod]

/-- An address of version 4 is put together again from its octets. -/
theorem ofOctets_octets (a : Ip4) : ofOctets (octets a) = a := by
  rw [ofOctets, octets, join_split]
  apply BitVec.eq_of_toNat_eq
  rw [BitVec.toNat_ofNat]
  have := a.isLt
  omega

/-- An address of version 6 is put together again from its groups. -/
theorem ofGroups_groups (a : Ip6) : ofGroups (groups a) = a := by
  rw [ofGroups, groups, join_split]
  apply BitVec.eq_of_toNat_eq
  rw [BitVec.toNat_ofNat]
  have := a.isLt
  omega

/-! ## The run of zeros -/

/-- What is left out for a run of zeros is zeros. -/
def LeavesOut (parts : List Nat) (run : Nat × Nat) : Prop :=
  parts = parts.take run.1 ++ List.replicate run.2 0 ++ parts.drop (run.1 + run.2)

/-- The zeros in front may be left out. -/
theorem leavesOut_leadingZeros (parts : List Nat) : LeavesOut parts (0, leadingZeros parts) := by
  induction parts with
  | nil => rfl
  | cons part parts ih =>
    rw [leadingZeros]
    by_cases hzero : part = 0
    · subst hzero
      rw [List.takeWhile_cons_of_pos rfl, List.length_cons, LeavesOut, Nat.zero_add]
      rw [LeavesOut, Nat.zero_add] at ih
      exact congrArg (0 :: ·) ih
    · rw [List.takeWhile_cons_of_neg (by simpa using hzero)]
      rfl

/-- The longest run is a run of zeros, so it may be left out. -/
theorem longestZeros_split (parts : List Nat) : LeavesOut parts (longestZeros parts) := by
  induction parts with
  | nil => rfl
  | cons part parts ih =>
    rw [longestZeros]
    dsimp only
    split_ifs with hlonger
    · exact leavesOut_leadingZeros (part :: parts)
    · rw [LeavesOut, Nat.add_right_comm]
      exact congrArg (part :: ·) ih

end Ip

/-! ## Addresses -/

namespace Address

variable {d : Dialect}

/-- Four small numbers with dots between them are read as those numbers. -/
theorem isQuad_octets {ns : List Nat} (hlength : ns.length = 4) (hns : ∀ n ∈ ns, n < 256) :
    IsQuad strict (Ip.joinWith '.' (ns.map (Numeral.digits 10))) ns := by
  refine ⟨_, (List.length_map _).trans hlength, ?_, rfl⟩
  rw [List.forall₂_map_left_iff, List.forall₂_same]
  exact fun n hn => isOctet_digits (hns n hn)

theorem isQuad_chars4 (a : Ip4) : IsQuad strict (Ip.chars4 a) (Ip.octets a) :=
  isQuad_octets (Ip.length_split 8 4 _) (Ip.split_lt 8 4 _)

/-- Numbers of 16 bits, written in a row, are groups. -/
theorem groups_digits {ns : List Nat} (hns : ∀ n ∈ ns, n < 2 ^ 16) :
    Groups d (ns.map (Numeral.digits 16)) ns false := by
  induction ns with
  | nil => exact .nil
  | cons n ns ih =>
    obtain ⟨hn, hns⟩ := List.forall_mem_cons.mp hns
    exact .cons (isGroup_digits hn) (ih hns)

/-- The groups of an address that stands for one of the fourth version. -/
theorem groups_of_mapped {a : Ip6} (h : a.toNat / Nat.pow 2 32 = 0xffff) :
    Ip.groups a =
      List.replicate 5 0 ++ 0xffff :: pairOf (Ip.octets (BitVec.ofNat 32 a.toNat)) := by
  have hpair : pairOf (Ip.octets (BitVec.ofNat 32 a.toNat)) = Ip.split 16 2 a.toNat := by
    rw [pairOf, Ip.octets, Ip.join_split, BitVec.toNat_ofNat]
    show Ip.split 16 2 (a.toNat % (2 ^ 16) ^ 2 % (2 ^ 8) ^ 4) = _
    rw [show (2 ^ 8) ^ 4 = (2 ^ 16) ^ 2 by decide, Nat.mod_mod, Ip.split_mod]
  rw [hpair, Ip.groups, Ip.split_add 16 6 2]
  show Ip.split 16 6 (a.toNat / Nat.pow 2 32) ++ _ = _
  rw [h]
  rfl

/-- Groups with a run of them left out. -/
theorem isEight_leftOut {ns : List Nat} {run : Nat × Nat} (hlength : ns.length = 8)
    (hns : ∀ n ∈ ns, n < 2 ^ 16) (hrun : Ip.LeavesOut ns run) (htwo : 2 ≤ run.2) :
    IsEight d (Ip.groupChars (ns.take run.1) ++ [':', ':']
      ++ Ip.groupChars (ns.drop (run.1 + run.2))) ns := by
  have hsum : (ns.take run.1).length + run.2 + (ns.drop (run.1 + run.2)).length = 8 := by
    rw [← hlength]
    conv_rhs => rw [hrun]
    rw [List.length_append, List.length_append, List.length_replicate]
  have hgap : IsEight d _ (ns.take run.1
      ++ List.replicate (8 - (ns.take run.1).length - (ns.drop (run.1 + run.2)).length) 0
      ++ ns.drop (run.1 + run.2)) :=
    .gap (groups_digits fun n hn => hns n (List.mem_of_mem_take hn))
      (groups_digits fun n hn => hns n (List.mem_of_mem_drop hn)) (by omega)
      (by rw [mostBeside]; split <;> omega)
  -- the groups left out are the zeros between the two runs
  rw [show 8 - (ns.take run.1).length - (ns.drop (run.1 + run.2)).length = run.2 by omega,
    ← hrun] at hgap
  rw [List.append_assoc]
  exact hgap

/-- An address of version 6 is written as eight groups, in each of the three forms: mapped, with a
gap, or in full. -/
theorem isEight_chars6 (a : Ip6) : IsEight strict (Ip.chars6 a) (Ip.groups a) := by
  have hlength : (Ip.groups a).length = 8 := Ip.length_split 16 8 _
  have hlt : ∀ n ∈ Ip.groups a, n < 2 ^ 16 := Ip.split_lt 16 8 _
  rw [Ip.chars6]
  cases hmapped : Ip.mapped? a with
  | some b =>
    rw [Ip.mapped?] at hmapped
    split_ifs at hmapped with hprefix
    cases hmapped
    -- a mapped address is five zero groups, `ffff` and a dotted quad
    rw [groups_of_mapped hprefix]
    have hdigit : IsDigit 16 'f' 15 := isDigit_digitChar (Nat.le_refl 16) (by decide)
    have hffff : IsGroup ['f', 'f', 'f', 'f'] 0xffff :=
      ⟨List.cons_ne_nil _ _, Nat.le_refl 4, [15, 15, 15, 15],
        .cons hdigit (.cons hdigit (.cons hdigit (.cons hdigit .nil))), rfl⟩
    have hroom : 3 ≤ mostBeside strict := by decide
    exact .gap .nil (.cons hffff (.quad (isQuad_chars4 _))) (by decide) hroom
  | none =>
    dsimp only
    split_ifs with htwo
    · exact isEight_leftOut hlength hlt (Ip.longestZeros_split _) htwo
    · exact .full (groups_digits hlt) hlength

/-- An address is written as what it is. -/
theorem isAddress_chars (ip : Ip) : IsAddress strict ip.chars ip := by
  cases ip with
  | v4 a =>
    have h : IsAddress strict (Ip.chars4 a) (.v4 (Ip.ofOctets (Ip.octets a))) :=
      .v4 (isQuad_chars4 a)
    rwa [Ip.ofOctets_octets] at h
  | v6 a =>
    have h : IsAddress strict (Ip.chars6 a) (.v6 (Ip.ofGroups (Ip.groups a))) :=
      .v6 (isEight_chars6 a)
    rwa [Ip.ofGroups_groups] at h

end Address

/-! ## Networks -/

/-- A network is written as what it is, with the bits that do not count. -/
theorem Network.isEntry_chars (net : Network) :
    Address.IsEntry net.chars net.address net.length := by
  have haddress := (Address.isAddress_chars net.address).loosen (d := Address.loose)
  cases net with
  | v4 a n =>
    have hn : n.val < 10 ^ 2 := by omega
    exact .explicit haddress (Address.isNumeral_digits (by decide) 1 hn) (Nat.le_of_lt_succ n.isLt)
  | v6 a n =>
    have hn : n.val < 10 ^ 3 := by omega
    exact .explicit haddress (Address.isNumeral_digits (by decide) 2 hn) (Nat.le_of_lt_succ n.isLt)

end TunnelHost
