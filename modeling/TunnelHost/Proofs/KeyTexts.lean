import Mathlib.Data.Fin.Basic
import Mathlib.Data.List.Basic
import TunnelHost.Proofs.Base64
import TunnelHost.Proofs.Numerals

/-!
# Key texts as numbers

A key text is a number in two notations: the 32 bytes are its digits in base 256, and the 43 letters
are the digits in base 64 of four times that number, since 43 letters have room for two bits more
than 32 bytes. The two spare bits are zero. From this reading, which knows nothing of groups, follow
the length of a key text and its one sign of padding. Keys and key texts correspond one to one.

- `Base64.letter`: the letters, in the order of the digits they stand for.
- `Base64.encodeBytes_eq_letters`: any byte list, written as one number in base 64.
- `Key.WrittenAs`: what a key text is, by the number alone.
- `Key.toText_iff_writtenAs`: the writer keeps to it, and nothing else does.
- `Key.texts_canonical`: keys and accepted texts correspond one to one.
-/

namespace TunnelHost

namespace Base64

/-! ## Letters -/

/-- The letters of the alphabet, in the order of the digits they stand for. -/
def alphabet : List Char :=
  "ABCDEFGHIJKLMNOPQRSTUVWXYZabcdefghijklmnopqrstuvwxyz0123456789+/".toList

theorem length_alphabet : alphabet.length = 64 := by decide

/-- The letter of a digit. -/
def letter (d : Fin 64) : Char := alphabet.get (d.cast length_alphabet.symm)

/-- A symbol is the letter of its value. -/
theorem ofNat_symbol (d : Fin 64) : Char.ofNat (symbol d.val).toNat = letter d := by
  revert d
  decide +kernel

theorem letter_ne_pad (d : Fin 64) : letter d ≠ '=' := by
  revert d
  decide +kernel

/-! ## One number, two notations -/

/-- The number of some bytes, in base 256. -/
abbrev byteNumber (bytes : List UInt8) : Nat := Numeral.ofDigits 256 (bytes.map UInt8.toNat)

/-- The number of some letters, in base 64. -/
abbrev letterNumber (digits : List (Fin 64)) : Nat := Numeral.ofDigits 64 (digits.map Fin.val)

/-- Digits below 64 stand in the written form as their symbols. `pads` is what is missing to whole
groups of three bytes; each missing byte is one sign of padding, and leaves two spare bits. -/
structure Written (bytes : List UInt8) (text : List UInt8) (digits : List (Fin 64)) (pads : Nat) :
    Prop where
  text_eq : text = digits.map (fun d => symbol d.val) ++ List.replicate pads pad
  few : pads < 3
  length_eq : 3 * digits.length = 4 * bytes.length + pads
  number_eq : letterNumber digits = byteNumber bytes * 4 ^ pads

/-- Every byte list has its digits: three bytes make up four of them, and what is left at the end is
padded. -/
theorem exists_written (bytes : List UInt8) :
    ∃ digits pads, Written bytes (encodeBytes bytes) digits pads := by
  fun_induction encodeBytes bytes with
  | case1 => exact ⟨[], 0, rfl, by decide, rfl, rfl⟩
  | case2 x =>
    have hx := x.toNat_lt
    refine ⟨[⟨x.toNat / 4, by omega⟩, ⟨x.toNat % 4 * 16, by omega⟩], 2, rfl, by decide, rfl, ?_⟩
    simp only [letterNumber, byteNumber, Numeral.ofDigits, List.map_cons, List.map_nil,
      List.foldl_cons, List.foldl_nil]
    omega
  | case3 x y =>
    have hx := x.toNat_lt
    have hy := y.toNat_lt
    refine ⟨[⟨x.toNat / 4, by omega⟩, ⟨x.toNat % 4 * 16 + y.toNat / 16, by omega⟩,
      ⟨y.toNat % 16 * 4, by omega⟩], 1, rfl, by decide, rfl, ?_⟩
    simp only [letterNumber, byteNumber, Numeral.ofDigits, List.map_cons, List.map_nil,
      List.foldl_cons, List.foldl_nil]
    omega
  | case4 x y z rest ih =>
    obtain ⟨digits, pads, hwritten⟩ := ih
    have hx := x.toNat_lt
    have hy := y.toNat_lt
    have hz := z.toNat_lt
    let group : List (Fin 64) := [⟨x.toNat / 4, by omega⟩,
      ⟨x.toNat % 4 * 16 + y.toNat / 16, by omega⟩, ⟨y.toNat % 16 * 4 + z.toNat / 64, by omega⟩,
      ⟨z.toNat % 64, by omega⟩]
    have hgroup : letterNumber group = byteNumber [x, y, z] := by
      simp only [group, letterNumber, byteNumber, Numeral.ofDigits, List.map_cons, List.map_nil,
        List.foldl_cons, List.foldl_nil]
      omega
    refine ⟨group ++ digits, pads, ?_, hwritten.few, ?_, ?_⟩
    · rw [hwritten.text_eq, List.map_append, List.append_assoc]
      rfl
    · have hlength := hwritten.length_eq
      simp only [group, List.length_append, List.length_cons, List.length_nil]
      omega
    -- the digits that follow take as many bits as the bytes that follow, and the spare ones
    · have hpower : 64 ^ digits.length = 256 ^ rest.length * 4 ^ pads := by
        have h₁ : (64 : Nat) ^ digits.length = 4 ^ (3 * digits.length) := by
          rw [Nat.pow_mul]
        have h₂ : (256 : Nat) ^ rest.length = 4 ^ (4 * rest.length) := by
          rw [Nat.pow_mul]
        rw [h₁, h₂, hwritten.length_eq, Nat.pow_add]
      have hbytes : byteNumber (x :: y :: z :: rest)
          = byteNumber [x, y, z] * 256 ^ rest.length + byteNumber rest := by
        show Numeral.ofDigits 256 ([x, y, z].map UInt8.toNat ++ rest.map UInt8.toNat) = _
        rw [Numeral.ofDigits_append, List.length_map]
      calc letterNumber (group ++ digits)
          = letterNumber group * 64 ^ digits.length + letterNumber digits := by
            rw [letterNumber, List.map_append, Numeral.ofDigits_append, List.length_map]
        _ = byteNumber [x, y, z] * (256 ^ rest.length * 4 ^ pads)
              + byteNumber rest * 4 ^ pads := by
            rw [hgroup, hpower, hwritten.number_eq]
        _ = byteNumber (x :: y :: z :: rest) * 4 ^ pads := by
            rw [hbytes, Nat.add_mul, Nat.mul_assoc]

end Base64

namespace Key

open Base64

/-! ## Key texts by their number -/

/-- `s` writes down the key `k`: 43 letters and one sign of padding, and the letters are the digits
of the number of the key, moved up by the two bits that are left over. -/
def WrittenAs (k : Key) (s : String) : Prop :=
  ∃ digits : List (Fin 64), digits.length = 43 ∧
    s = String.ofList (digits.map letter ++ ['=']) ∧ letterNumber digits = 4 * byteNumber k.bytes

theorem writtenAs_toText (k : Key) : k.WrittenAs k.toText := by
  obtain ⟨digits, pads, hwritten⟩ := exists_written k.bytes
  have hlength := hwritten.length_eq
  have hfew := hwritten.few
  rw [k.length_bytes, keyLength] at hlength
  have hpads : pads = 1 := by omega
  subst hpads
  refine ⟨digits, by omega, ?_, ?_⟩
  · rw [toText, encode, hwritten.text_eq, List.map_append, List.map_map]
    simp only [Function.comp_def, ofNat_symbol]
    rfl
  · rw [hwritten.number_eq]
    omega

/-- A key is written in one way. -/
theorem eq_of_writtenAs {k : Key} {s t : String} (hs : k.WrittenAs s) (ht : k.WrittenAs t) :
    s = t := by
  obtain ⟨ds, hds, rfl, hdsn⟩ := hs
  obtain ⟨es, hes, rfl, hesn⟩ := ht
  have hlt : ∀ digits : List (Fin 64), ∀ d ∈ digits.map Fin.val, d < 64 := by
    intro digits d hd
    obtain ⟨e, -, rfl⟩ := List.mem_map.mp hd
    exact e.isLt
  have hmap : ds.map Fin.val = es.map Fin.val := by
    refine Numeral.ofDigits_inj (by decide) ?_ (hlt ds) (hlt es) (hdsn.trans hesn.symm)
    rw [List.length_map, List.length_map, hds, hes]
  rw [List.map_injective_iff.mpr Fin.val_injective hmap]

/-- The text of a key is the one that writes it down. -/
theorem toText_iff_writtenAs {k : Key} {s : String} : s = k.toText ↔ k.WrittenAs s := by
  constructor
  · intro h
    rw [h]
    exact writtenAs_toText k
  · intro h
    exact eq_of_writtenAs h (writtenAs_toText k)

/-- A key text has 44 characters: one sign of padding at its end, and none before. -/
theorem WrittenAs.shape {k : Key} {s : String} (h : k.WrittenAs s) :
    s.length = 44 ∧ ∃ front : String, s = front ++ "=" ∧ '=' ∉ front.toList := by
  obtain ⟨digits, hdigits, rfl, -⟩ := h
  constructor
  · rw [String.length_ofList, List.length_append, List.length_map, hdigits]
    rfl
  · refine ⟨String.ofList (digits.map letter), ?_, ?_⟩
    · rw [String.ofList_append]
    · rw [String.toList_ofList]
      intro hpad
      obtain ⟨d, -, hd⟩ := List.mem_map.mp hpad
      exact letter_ne_pad d hd

/-! ## Keys and accepted texts -/

/-- Keys with the same text are the same. -/
theorem toText_injective : Function.Injective toText := by
  intro k l h
  have hk := ofText?_toText k
  rw [h, ofText?_toText] at hk
  exact (Option.some.inj hk).symm

/-- The text of a key, among the texts that are accepted. -/
def accepted (k : Key) : {s : String // isText s = true} :=
  ⟨k.toText, isText_iff.mpr ⟨k, rfl⟩⟩

/-- The texts that are accepted are those of keys, one for each. -/
theorem accepted_bijective : Function.Bijective accepted := by
  constructor
  · intro k l h
    exact toText_injective (congrArg Subtype.val h)
  · rintro ⟨s, hs⟩
    obtain ⟨k, rfl⟩ := isText_iff.mp hs
    exact ⟨k, rfl⟩

/-- Key texts are canonical. A text is accepted exactly if it is the text of a key; that key is the
only one and the one that is read. Keys and accepted texts therefore correspond one to one: two
accepted texts of one key are the same text. And a text names a key exactly if it writes the number
of the key in base 64, so that it has 44 characters of which only the last one is padding. -/
theorem texts_canonical :
    (∀ s : String, isText s = true ↔ ∃ k : Key, s = k.toText) ∧
    (∀ s : String, isText s = true → ∃! k : Key, s = k.toText ∧ ofText? s = some k) ∧
    (∀ (s : String) (k : Key), ofText? s = some k ↔ s = k.toText) ∧
    (∀ k : Key, isText k.toText = true ∧ ofText? k.toText = some k) ∧
    Function.Bijective accepted ∧
    (∀ s t : String, isText s = true → isText t = true → ofText? s = ofText? t → s = t) ∧
    (∀ (s : String) (k : Key), ofText? s = some k ↔ k.WrittenAs s) ∧
    (∀ s : String, isText s = true →
      s.length = 44 ∧ ∃ front : String, s = front ++ "=" ∧ '=' ∉ front.toList) := by
  -- every law comes of this one: a key is read from its own text only
  have hread : ∀ (s : String) (k : Key), ofText? s = some k ↔ s = k.toText :=
    fun s k => ofText?_eq_some_iff
  refine ⟨fun s => isText_iff, ?_, hread, ?_, accepted_bijective, ?_, ?_, ?_⟩
  · intro s hs
    obtain ⟨k, rfl⟩ := isText_iff.mp hs
    refine ⟨k, ⟨rfl, ofText?_toText k⟩, ?_⟩
    rintro l ⟨hl, -⟩
    exact (toText_injective hl).symm
  · intro k
    exact ⟨isText_iff.mpr ⟨k, rfl⟩, ofText?_toText k⟩
  · intro s t hs ht h
    obtain ⟨k, rfl⟩ := isText_iff.mp hs
    rw [ofText?_toText] at h
    exact ((hread t k).mp h.symm).symm
  · intro s k
    rw [hread, toText_iff_writtenAs]
  · intro s hs
    obtain ⟨k, hk⟩ := isText_iff.mp hs
    exact (toText_iff_writtenAs.mp hk).shape

end Key

end TunnelHost
