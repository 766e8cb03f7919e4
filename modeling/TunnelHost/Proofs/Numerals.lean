import Mathlib.Data.List.Basic
import Mathlib.Data.List.Induction
import Mathlib.Data.Nat.Digits.Defs
import TunnelHost.Text.Numeral

/-!
# Numbers by their digits

A number has one list of digits of a given length in a base, most significant digit first.

- `leadingDigits_append`: the digits at the front of a text end where no digit follows.
- `ofDigits_append`: the number of two lists in a row.
- `ofDigits_lt`, `ofDigits_inj`: so many digits hold so large a number, and only one.
-/

namespace TunnelHost.Numeral

/-- Digits are taken up to the first character that is none. -/
theorem leadingDigits_append {base : Nat} {t rest : List Char} {ds : List Nat}
    (ht : List.Forall₂ (fun c d => digitValue? base c = some d) t ds)
    (hrest : ∀ c ∈ rest.head?, digitValue? base c = none) :
    leadingDigits base (t ++ rest) = (ds, rest) := by
  induction ht with
  | nil =>
    cases rest with
    | nil => rfl
    | cons c cs => simp [leadingDigits, hrest c rfl]
  | cons h _ ih => simp [leadingDigits, h, ih]

theorem ofDigits_singleton (base d : Nat) : ofDigits base [d] = d := by
  simp [ofDigits]

theorem ofDigits_append_singleton (base : Nat) (ds : List Nat) (d : Nat) :
    ofDigits base (ds ++ [d]) = ofDigits base ds * base + d := by
  rw [ofDigits, List.foldl_append]
  rfl

/-- Digits most significant first are digits least significant first, turned round. -/
theorem ofDigits_eq_reverse (base : Nat) (ds : List Nat) :
    ofDigits base ds = Nat.ofDigits base ds.reverse := by
  induction ds using List.reverseRecOn with
  | nil => rfl
  | append_singleton ds d ih =>
    rw [ofDigits_append_singleton, List.reverse_append, List.reverse_singleton,
      List.singleton_append, Nat.ofDigits_cons, ih, Nat.mul_comm, Nat.add_comm]

/-- Digits in front count as many times as the ones behind them have room for. -/
theorem ofDigits_append (base : Nat) (ds es : List Nat) :
    ofDigits base (ds ++ es) = ofDigits base ds * base ^ es.length + ofDigits base es := by
  simp only [ofDigits_eq_reverse, List.reverse_append, Nat.ofDigits_append, List.length_reverse]
  rw [Nat.add_comm, Nat.mul_comm]

/-- A number has one list of digits of a given length. -/
theorem ofDigits_inj {base : Nat} (hbase : 1 < base) {ds es : List Nat}
    (hlength : ds.length = es.length) (hds : ∀ d ∈ ds, d < base) (hes : ∀ e ∈ es, e < base)
    (h : ofDigits base ds = ofDigits base es) : ds = es := by
  rw [ofDigits_eq_reverse, ofDigits_eq_reverse] at h
  refine List.reverse_injective (Nat.ofDigits_inj_of_len_eq hbase ?_ ?_ ?_ h)
  · rw [List.length_reverse, List.length_reverse, hlength]
  · exact fun d hd => hds d (List.mem_reverse.mp hd)
  · exact fun e he => hes e (List.mem_reverse.mp he)

/-- A number of so many digits is below that power of the base. -/
theorem ofDigits_lt {base : Nat} (hbase : 1 < base) {ds : List Nat} (hds : ∀ d ∈ ds, d < base) :
    ofDigits base ds < base ^ ds.length := by
  rw [ofDigits_eq_reverse, ← List.length_reverse]
  exact Nat.ofDigits_lt_base_pow_length hbase fun d hd => hds d (List.mem_reverse.mp hd)

end TunnelHost.Numeral
