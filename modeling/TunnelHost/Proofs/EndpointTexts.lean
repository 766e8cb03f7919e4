import TunnelHost.Address.Endpoint
import TunnelHost.Proofs.AddressReading
import TunnelHost.Proofs.AddressWriting

/-!
# Endpoints are read as they are written

The text of an endpoint means this endpoint: its address in the one form that is written, its scope
if it has one, and its port.

- `Address.anyNumber?_digits`: numerals of any length.
- `Endpoint.ofText?_text`: endpoints of either version.
-/

namespace TunnelHost

open Address

/-! ## Numerals -/

namespace Address

/-- A number is read again from its digits, up to what follows them. -/
theorem anyNumber?_digits {n limit : Nat} {rest : List Char} (hn : n < limit)
    (hrest : NoDigit 10 rest) :
    anyNumber? 10 limit (Numeral.digits 10 n ++ rest) = some (n, rest) := by
  have hbound : n < 10 ^ (n + 1) :=
    Nat.lt_trans (Nat.lt_pow_self (by decide)) (Nat.pow_lt_pow_succ (by decide))
  obtain ⟨hne, -, ds, hds, hvalue⟩ := isNumeral_digits (by decide) n hbound
  have hds' : ds ≠ [] := by
    rintro rfl
    exact hne (List.forall₂_nil_right_iff.mp hds)
  obtain ⟨d, ds, rfl⟩ := List.exists_cons_of_ne_nil hds'
  rw [anyNumber?, leadingDigits_append hds hrest]
  dsimp only
  rw [hvalue, if_pos hn]

/-! ## The signs around an address -/

theorem not_isDigit_bracket {base v : Nat} : ¬ IsDigit base ']' v := by
  rintro ⟨-, hdigit⟩
  have hcode : (']' : Char).toNat = 0x5d := rfl
  rcases hdigit with hdigit | hdigit
  · omega
  · omega

theorem not_isSign_bracket : ¬ IsSign ']' := by
  rintro (⟨v, hdigit⟩ | h | h)
  · exact not_isDigit_bracket hdigit
  · cases h
  · cases h

theorem not_isSign_percent : ¬ IsSign '%' := fun h => absurd h.bounds.1 (by decide)

end Address

namespace Endpoint

variable (s : UInt32) (port : UInt16) (rest : List Char)

/-! ## Ports and scopes -/

/-- The scope as it is written, if there is one. -/
def scopeChars : List Char := if s = 0 then [] else '%' :: Numeral.digits 10 s.toNat

/-- A port is read as it is written. -/
theorem port?_portChars : port? (portChars port) = some port := by
  have hnumber : anyNumber? 10 (Nat.pow 2 16) _ = _ :=
    Address.anyNumber?_digits port.toNat_lt .nil
  rw [List.append_nil] at hnumber
  simp [port?, portChars, mark?, hnumber, whole?]

/-- A scope is read as it is written, and none is written for zero. -/
theorem scope_scopeChars : scope (scopeChars s ++ ']' :: rest) = (s, ']' :: rest) := by
  by_cases hs : s = 0
  · subst hs
    rfl
  · have hrest : NoDigit 10 (']' :: rest) := .cons fun _ => not_isDigit_bracket
    have hnumber : anyNumber? 10 (Nat.pow 2 32) _ = _ :=
      Address.anyNumber?_digits s.toNat_lt hrest
    rw [scopeChars, if_neg hs, scope, List.cons_append, mark?_eq_some_iff.mpr rfl]
    simp [hnumber]

/-- An address stops in front of a scope and in front of the bracket. -/
theorem stops_scopeChars : Stops (scopeChars s ++ ']' :: rest) := by
  refine .of_not_isSign fun c hc => ?_
  by_cases hs : s = 0
  · rw [scopeChars, if_pos hs] at hc
    cases hc
    exact not_isSign_bracket
  · rw [scopeChars, if_neg hs] at hc
    cases hc
    exact not_isSign_percent

/-! ## Endpoints -/

/-- An endpoint of version 4 is read as it is written. -/
theorem ofChars4?_chars (a : Ip4) :
    ofChars4? (Ip.chars4 a ++ portChars port) = some (.v4 a port) := by
  have haddress : ip4? strict (Ip.chars4 a ++ portChars port) = some (a, portChars port) :=
    ip4?_eq_some_iff.mpr
      ⟨_, rfl, ⟨_, isQuad_chars4 a, Ip.ofOctets_octets a⟩, .cons fun _ => not_isDigit_colon⟩
  rw [ofChars4?, haddress]
  show (port? (portChars port) >>= _) = _
  rw [port?_portChars]
  rfl

/-- No endpoint of the fourth version starts with a bracket. -/
theorem ofChars4?_bracket : ofChars4? ('[' :: rest) = none := by
  have hdigit : ∀ v, ¬ IsDigit 10 '[' v := by
    rintro v ⟨hv, hdigit⟩
    have hcode : ('[' : Char).toNat = 0x5b := rfl
    rcases hdigit with hdigit | hdigit
    · omega
    · omega
  rw [ofChars4?, ip4?_eq_none (octets?_eq_none_of_noDigit (.cons hdigit))]
  rfl

/-- An endpoint of version 6 is read as it is written, with its scope. -/
theorem ofChars6?_chars (a : Ip6) :
    ofChars6? ('[' :: (Ip.chars6 a ++ (scopeChars s ++ ']' :: portChars port)))
      = some (.v6 a s port) := by
  have haddress : ip6? strict (Ip.chars6 a ++ (scopeChars s ++ ']' :: portChars port))
      = some (a, scopeChars s ++ ']' :: portChars port) := by
    rw [ip6?_of_isEight (isEight_chars6 a) (stops_scopeChars s _), Ip.ofGroups_groups]
  simp [ofChars6?, mark?, haddress, scope_scopeChars, port?_portChars]

/-- An endpoint is read as it is written. -/
theorem ofText?_text (e : Endpoint) : ofText? e.text = some e := by
  rw [ofText?, text, String.toList_ofList, ofChars?]
  cases e with
  | v4 a port => rw [chars, ofChars4?_chars, Option.some_or]
  | v6 a s port =>
    have hchars : chars (.v6 a s port)
        = '[' :: (Ip.chars6 a ++ (scopeChars s ++ ']' :: portChars port)) := by
      simp [chars, scopeChars]
    rw [hchars, ofChars4?_bracket, Option.none_or, ofChars6?_chars]

end Endpoint

end TunnelHost
