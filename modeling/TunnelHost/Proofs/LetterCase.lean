import TunnelHost.Text.LowerCase

/-!
# Lower case and ASCII

Unicode's full mapping takes few characters from beyond ASCII to letters of ASCII. Only the Kelvin
sign becomes nothing but such a letter, a `k`; the capital I with a dot above becomes an `i`, but
with a mark behind it that is beyond ASCII again. So the lower-case form of a text is a name of
ASCII characters without a `k` only if the text is the name itself, with some of its letters in
upper case.

- `SameLetters`: texts that differ in the case of ASCII letters at most.
- `lowerChar_beyond`: what becomes of characters beyond ASCII.
- `lowerFrom_eq_iff`, `lower_eq_iff`: the texts whose lower-case form is a name.
-/

namespace TunnelHost.Text

/-- Two texts are one, the case of ASCII letters aside. -/
def SameLetters (cs ds : List Char) : Prop := cs.map Char.toLower = ds.map Char.toLower

instance (cs ds : List Char) : Decidable (SameLetters cs ds) :=
  inferInstanceAs (Decidable (cs.map Char.toLower = ds.map Char.toLower))

/-! ## Single characters -/

/-- The Kelvin sign. -/
def kelvinSign : Char := Char.ofNat 0x212a

/-- What the table holds: ranges of ASCII, the Kelvin sign, and ranges of characters beyond ASCII
that are taken to characters beyond ASCII. -/
theorem lowerRanges_beyond : ∀ r ∈ lowerRanges, r.last < 128 ∨ (r.first = 0x212a ∧ r.last = 0x212a)
    ∨ (128 ≤ r.first + r.distance ∧ (r.last + r.distance < 0xd800
        ∨ 0xdfff < r.first + r.distance ∧ r.last + r.distance < 0x110000)) := by
  decide +kernel

theorem toNat_ofNat_of_isValid {n : Nat} (h : n < 0xd800 ∨ 0xdfff < n ∧ n < 0x110000) :
    (Char.ofNat n).toNat = n := by
  have hvalid : n.isValidChar := h
  rw [Char.ofNat, dif_pos hvalid]
  rfl

/-- A character beyond ASCII becomes something with a character beyond ASCII in it, unless it is the
Kelvin sign. -/
theorem lowerChar_beyond {c : Char} (hc : 128 ≤ c.toNat) :
    c = kelvinSign ∨ ∃ d ∈ lowerChar c, 128 ≤ d.toNat := by
  rw [lowerChar, if_neg (by omega)]
  split
  · exact Or.inr ⟨Char.ofNat 0x307, by simp, by decide⟩
  · split
    next r hr =>
      have hcontains := List.find?_some hr
      simp only [CaseRange.contains, Bool.and_eq_true, decide_eq_true_eq] at hcontains
      obtain ⟨⟨hfirst, hlast⟩, -⟩ := hcontains
      rcases lowerRanges_beyond r (List.mem_of_find?_eq_some hr) with h | ⟨h, h'⟩ | ⟨h, hvalid⟩
      · omega
      · exact Or.inl (Char.toNat_inj.mp (show c.toNat = 0x212a by omega))
      · refine Or.inr ⟨_, List.mem_singleton_self _, ?_⟩
        rw [toNat_ofNat_of_isValid (by omega)]
        omega
    next hnone => exact Or.inr ⟨c, List.mem_singleton_self c, hc⟩

/-- Only ASCII letters have another case here. -/
theorem toLower_beyond {c : Char} (hc : 128 ≤ c.toNat) : c.toLower = c := by
  have hupper : ¬ (c.val ≥ 'A'.val ∧ c.val ≤ 'Z'.val) := by
    rintro ⟨-, hlast⟩
    have hval : c.toNat ≤ 90 := hlast
    omega
  exact dif_neg hupper

/-! ## Names -/

/-- A name that no look-alike can stand for: ASCII characters without a `k`. -/
def IsPlainName (name : List Char) : Prop := ∀ d ∈ name, d.toNat < 128 ∧ d ≠ 'k'

instance (name : List Char) : Decidable (IsPlainName name) :=
  List.decidableBAll _ name

/-- What a character beyond ASCII becomes is never all in a name, wherever the character stands. -/
theorem exists_not_mem_name {name : List Char} (hname : IsPlainName name) {c : Char}
    (hc : 128 ≤ c.toNat) : ∃ d ∈ lowerChar c, d ∉ name := by
  rcases lowerChar_beyond hc with rfl | ⟨d, hd, hbeyond⟩
  · refine ⟨'k', by decide +kernel, fun hk => ?_⟩
    exact (hname 'k' hk).2 rfl
  · refine ⟨d, hd, fun hmem => ?_⟩
    have := (hname d hmem).1
    omega

/-- By induction along the text. A character of ASCII becomes one character, whatever is around it;
any other leaves a character that is not in the name. -/
theorem lowerFrom_eq_iff {name : List Char} (hname : IsPlainName name) (before cs : List Char) :
    lowerFrom before cs = name ↔ cs.map Char.toLower = name := by
  induction cs generalizing before name with
  | nil => exact Iff.rfl
  | cons c cs ih =>
    rw [lowerFrom, List.map_cons]
    by_cases hc : c.toNat < 128
    · have hsigma : c ≠ capitalSigma := by
        rintro rfl
        exact absurd hc (by decide)
      simp only [if_neg hsigma, lowerChar, if_pos hc, List.singleton_append]
      cases name with
      | nil => simp
      | cons d ds =>
        have hds : IsPlainName ds := fun e he => hname e (List.mem_cons_of_mem d he)
        rw [List.cons.injEq, List.cons.injEq, ih hds]
    · have hbeyond : 128 ≤ c.toNat := by omega
      constructor
      · intro h
        exfalso
        -- the sigma is not in the table, and neither of its small forms is ASCII
        by_cases hsigma : c = capitalSigma
        · simp only [if_pos hsigma] at h
          have hmem : (if endsWord before cs then finalSigma else smallSigma) ∈ name := by
            rw [← h]
            exact List.mem_append_left _ (List.mem_singleton_self _)
          have hascii := (hname _ hmem).1
          split at hascii
          · exact absurd hascii (by decide)
          · exact absurd hascii (by decide)
        · simp only [if_neg hsigma] at h
          obtain ⟨d, hd, hmem⟩ := exists_not_mem_name hname hbeyond
          rw [← h] at hmem
          exact hmem (List.mem_append_left _ hd)
      · intro h
        have hascii : c.toLower.toNat < 128 := (hname _ (h ▸ List.mem_cons_self ..)).1
        rw [toLower_beyond hbeyond] at hascii
        exact absurd hascii hc

/-- The texts whose lower-case form is a name of small letters are those with the letters of the
name. -/
theorem lower_eq_iff {name : String} (hname : IsPlainName name.toList)
    (hlower : name.toList.map Char.toLower = name.toList) (s : String) :
    lower s = name ↔ SameLetters s.toList name.toList := by
  rw [lower, SameLetters, hlower, ← lowerFrom_eq_iff hname []]
  constructor
  · rintro rfl
    exact String.toList_ofList.symm
  · intro h
    rw [h, String.ofList_toList]

end TunnelHost.Text
