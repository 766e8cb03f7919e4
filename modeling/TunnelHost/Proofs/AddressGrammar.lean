import TunnelHost.Address.Network
import TunnelHost.Proofs.JsonGrammar

/-!
# The grammar of addresses and networks

What the text of an address or a network is, apart from any program that reads it. An address is
written in one of two dialects, as the readers have them: an octet may have zeros in front of it in
the loose one, and `::` may stand beside all eight groups.

- `IsNumeral`: some digits of a base, with their number.
- `IsOctet`, `IsQuad`: an octet, and the four of an address of the fourth version.
- `IsGroup`, `Groups`, `IsEight`: a group, groups in a row, and the eight of an address of the sixth
  version, with or without `::`.
- `IsAddress`: an address of either version.
- `IsEntry`: a network, written as an address with a prefix length or as a bare address.
- `IsAddress.loosen`: what is an address in the strict dialect is the same address in any other.
-/

namespace TunnelHost

namespace Address

/-! ## Numerals -/

/-- A digit of a base of at most sixteen, and its value. Letters of either case count. -/
def IsDigit (base : Nat) (c : Char) (v : Nat) : Prop := v < base ∧ Json.IsHexDigit v c

/-- Digits of a base, at least one and at most `most`, and their number. -/
def IsNumeral (base most : Nat) (text : List Char) (n : Nat) : Prop :=
  text ≠ [] ∧ text.length ≤ most
    ∧ ∃ ds, List.Forall₂ (IsDigit base) text ds ∧ Numeral.ofDigits base ds = n

/-- A zero in front of something else. -/
def Padded (text : List Char) : Prop := ∃ c cs, text = '0' :: c :: cs

/-! ## The fourth version -/

/-- An octet. -/
structure IsOctet (d : Dialect) (text : List Char) (n : Nat) : Prop where
  numeral : IsNumeral 10 3 text n
  lt : n < 256
  plain : d.leadingZeros = false → ¬ Padded text

/-- Four octets with dots between them. -/
def IsQuad (d : Dialect) (text : List Char) (ns : List Nat) : Prop :=
  ∃ ts, ts.length = 4 ∧ List.Forall₂ (IsOctet d) ts ns ∧ text = Ip.joinWith '.' ts

/-! ## The sixth version -/

/-- A group. -/
def IsGroup (text : List Char) (n : Nat) : Prop := IsNumeral 16 4 text n

/-- The two groups that four octets stand for. -/
def pairOf (ns : List Nat) : List Nat := Ip.split 16 2 (Ip.join 8 ns)

/-- Groups in a row, each with a text of its own, and whether four octets stand for the last two. -/
inductive Groups (d : Dialect) : List (List Char) → List Nat → Bool → Prop where
  | nil : Groups d [] [] false
  | quad {t : List Char} {ns : List Nat} : IsQuad d t ns → Groups d [t] (pairOf ns) true
  | cons {t : List Char} {n : Nat} {ts : List (List Char)} {ns : List Nat} {quad : Bool} :
      IsGroup t n → Groups d ts ns quad → Groups d (t :: ts) (n :: ns) quad

/-- The most groups that may be written beside `::`. -/
def mostBeside (d : Dialect) : Nat := if d.emptyGap then 8 else 7

/-- Eight groups, all of them with colons between them, or with `::` for the zeros that are left
out. Seven at most stand in front of it. -/
inductive IsEight (d : Dialect) : List Char → List Nat → Prop where
  | full {ts : List (List Char)} {ns : List Nat} {quad : Bool} :
      Groups d ts ns quad → ns.length = 8 → IsEight d (Ip.joinWith ':' ts) ns
  | gap {ts us : List (List Char)} {ns ms : List Nat} {quad : Bool} :
      Groups d ts ns false → Groups d us ms quad → ns.length < 8 →
      ns.length + ms.length ≤ mostBeside d →
      IsEight d (Ip.joinWith ':' ts ++ ':' :: ':' :: Ip.joinWith ':' us)
        (ns ++ List.replicate (8 - ns.length - ms.length) 0 ++ ms)

/-! ## Addresses and networks -/

/-- An address of either version. -/
inductive IsAddress (d : Dialect) : List Char → Ip → Prop where
  | v4 {text : List Char} {ns : List Nat} :
      IsQuad d text ns → IsAddress d text (.v4 (Ip.ofOctets ns))
  | v6 {text : List Char} {ns : List Nat} :
      IsEight d text ns → IsAddress d text (.v6 (Ip.ofGroups ns))

/-- The number of bits of an address. -/
def width : Ip → Nat
  | .v4 _ => 32
  | .v6 _ => 128

/-- The number of digits that a prefix length may have. -/
def lengthDigits : Ip → Nat
  | .v4 _ => 2
  | .v6 _ => 3

/-- A network: an address with the number of bits that count after a slash, or an address alone, of
which all bits count. The dialects differ. -/
inductive IsEntry : List Char → Ip → Nat → Prop where
  | explicit {t l : List Char} {a : Ip} {n : Nat} :
      IsAddress loose t a → IsNumeral 10 (lengthDigits a) l n → n ≤ width a →
      IsEntry (t ++ '/' :: l) a n
  | bare {t : List Char} {a : Ip} : IsAddress strict t a → IsEntry t a (width a)

/-! ## The signs that are used -/

/-- Digits have small values and small characters, and the colon, which comes after `9`, is not one.
-/
theorem IsDigit.bounds {base : Nat} {c : Char} {v : Nat} (h : IsDigit base c v) :
    v < 16 ∧ 0x30 ≤ c.toNat ∧ c.toNat ≤ 0x66 ∧ c.toNat ≠ 0x3a := by
  obtain ⟨-, h | h⟩ := h
  · omega
  · omega

/-- No other digit than the zero has the value zero. -/
theorem IsDigit.eq_zero_iff {base : Nat} {c : Char} {v : Nat} (h : IsDigit base c v) :
    v = 0 ↔ c = '0' := by
  rw [← Char.toNat_inj, show ('0' : Char).toNat = 0x30 from rfl]
  obtain ⟨-, h | h⟩ := h
  · omega
  · omega

/-- A sign that an address is written with. -/
def IsSign (c : Char) : Prop := (∃ v, IsDigit 16 c v) ∨ c = '.' ∨ c = ':'

theorem IsDigit.isSign {base : Nat} {c : Char} {v : Nat} (h : IsDigit base c v) : IsSign c :=
  Or.inl ⟨v, h.bounds.1, h.2⟩

/-- No sign of an address is above the letter `f`, and none is below the dot. -/
theorem IsSign.bounds {c : Char} (h : IsSign c) : 0x2e ≤ c.toNat ∧ c.toNat ≤ 0x66 := by
  rcases h with ⟨v, h⟩ | rfl | rfl
  · have := h.bounds
    omega
  all_goals decide

/-- An address is written without slashes, so the first slash ends it. -/
theorem IsSign.ne_slash {c : Char} (h : IsSign c) : c ≠ '/' := by
  rintro rfl
  rcases h with ⟨v, h⟩ | h | h
  · exact absurd h.bounds.2.1 (by decide)
  · cases h
  · cases h

theorem IsNumeral.digits {base most : Nat} {text : List Char} {n : Nat}
    (h : IsNumeral base most text n) : ∀ c ∈ text, ∃ v, IsDigit base c v := by
  obtain ⟨-, -, ds, hds, -⟩ := h
  intro c hc
  obtain ⟨v, -, hv⟩ := forall₂_mem_left hds hc
  exact ⟨v, hv⟩

theorem IsNumeral.not_slash_mem {base most : Nat} {text : List Char} {n : Nat}
    (h : IsNumeral base most text n) : '/' ∉ text := by
  intro hslash
  obtain ⟨v, hv⟩ := h.digits _ hslash
  exact hv.isSign.ne_slash rfl

theorem IsNumeral.not_dot_mem {base most : Nat} {text : List Char} {n : Nat}
    (h : IsNumeral base most text n) : '.' ∉ text := by
  intro hdot
  obtain ⟨v, hv⟩ := h.digits _ hdot
  exact absurd hv.bounds.2.1 (by decide)

theorem IsNumeral.not_colon_mem {base most : Nat} {text : List Char} {n : Nat}
    (h : IsNumeral base most text n) : ':' ∉ text := by
  intro hcolon
  obtain ⟨v, hv⟩ := h.digits _ hcolon
  exact hv.bounds.2.2.2 rfl

/-! ## Texts with a mark between them -/

/-- The first text stands as it is and a mark comes before each other one. -/
theorem joinWith_cons (mark : Char) (t : List Char) (ts : List (List Char)) :
    Ip.joinWith mark (t :: ts) = t ++ ts.flatMap (mark :: ·) := by
  induction ts generalizing t with
  | nil => simp [Ip.joinWith]
  | cons u us ih =>
    rw [Ip.joinWith, ih, List.flatMap_cons, List.cons_append]
    exact List.cons_ne_nil u us

/-- What a text with marks consists of. -/
theorem mem_joinWith {mark c : Char} {ts : List (List Char)} (h : c ∈ Ip.joinWith mark ts) :
    c = mark ∨ ∃ t ∈ ts, c ∈ t := by
  cases ts with
  | nil => cases h
  | cons t ts =>
    rw [joinWith_cons] at h
    rcases List.mem_append.mp h with h | h
    · exact Or.inr ⟨t, List.mem_cons_self .., h⟩
    · obtain ⟨u, hu, h⟩ := List.mem_flatMap.mp h
      rcases List.mem_cons.mp h with h | h
      · exact Or.inl h
      · exact Or.inr ⟨u, List.mem_cons_of_mem t hu, h⟩

/-- Four octets are written with the signs of addresses, and without colons. -/
theorem IsQuad.isSign {d : Dialect} {text : List Char} {ns : List Nat} (h : IsQuad d text ns) :
    ∀ c ∈ text, IsSign c ∧ c ≠ ':' := by
  obtain ⟨ts, -, hts, rfl⟩ := h
  intro c hc
  rcases mem_joinWith hc with rfl | ⟨t, ht, hc⟩
  · exact ⟨Or.inr (Or.inl rfl), by decide⟩
  · obtain ⟨n, -, hoctet⟩ := forall₂_mem_left hts ht
    obtain ⟨v, hv⟩ := hoctet.numeral.digits c hc
    exact ⟨hv.isSign, fun hcolon => hoctet.numeral.not_colon_mem (hcolon ▸ hc)⟩

/-- The text of each group has the signs of addresses, and no colon. -/
theorem Groups.isSign {d : Dialect} {ts : List (List Char)} {ns : List Nat} {quad : Bool}
    (h : Groups d ts ns quad) : ∀ t ∈ ts, ∀ c ∈ t, IsSign c ∧ c ≠ ':' := by
  induction h with
  | nil => exact fun t ht => nomatch ht
  | quad h =>
    intro t ht
    rw [List.mem_singleton.mp ht]
    exact h.isSign
  | cons h _ ih =>
    refine List.forall_mem_cons.mpr ⟨?_, ih⟩
    intro c hc
    obtain ⟨v, hv⟩ := h.digits c hc
    exact ⟨hv.isSign, fun hcolon => h.not_colon_mem (hcolon ▸ hc)⟩

theorem Groups.isSign_joinWith {d : Dialect} {ts : List (List Char)} {ns : List Nat} {quad : Bool}
    (h : Groups d ts ns quad) : ∀ c ∈ Ip.joinWith ':' ts, IsSign c := by
  intro c hc
  rcases mem_joinWith hc with rfl | ⟨t, ht, hc⟩
  · exact Or.inr (Or.inr rfl)
  · exact (h.isSign t ht c hc).1

theorem IsEight.isSign {d : Dialect} {text : List Char} {ns : List Nat} (h : IsEight d text ns) :
    ∀ c ∈ text, IsSign c := by
  cases h with
  | full h _ => exact h.isSign_joinWith
  | gap ht hu _ _ =>
    have hcolon : IsSign ':' := Or.inr (Or.inr rfl)
    exact List.forall_mem_append.mpr ⟨ht.isSign_joinWith,
      List.forall_mem_cons.mpr ⟨hcolon, List.forall_mem_cons.mpr ⟨hcolon, hu.isSign_joinWith⟩⟩⟩

theorem IsAddress.isSign {d : Dialect} {text : List Char} {a : Ip} (h : IsAddress d text a) :
    ∀ c ∈ text, IsSign c := by
  cases h with
  | v4 h => exact fun c hc => (h.isSign c hc).1
  | v6 h => exact h.isSign

theorem IsAddress.not_slash_mem {d : Dialect} {text : List Char} {a : Ip}
    (h : IsAddress d text a) : '/' ∉ text :=
  fun hc => (h.isSign _ hc).ne_slash rfl

/-- A slash is one of the signs between the dot and the letter `f`, too. -/
theorem IsNumeral.bounds_slash {base most : Nat} {l : List Char} {n : Nat}
    (h : IsNumeral base most l n) : ∀ c ∈ '/' :: l, 0x2e ≤ c.toNat ∧ c.toNat ≤ 0x66 := by
  refine List.forall_mem_cons.mpr ⟨by decide, fun c hc => ?_⟩
  obtain ⟨v, hv⟩ := h.digits c hc
  exact hv.isSign.bounds

/-- The characters of a network all lie between the dot and the letter `f`, so no comma and no blank
is among them. -/
theorem IsEntry.bounds {text : List Char} {a : Ip} {n : Nat} (h : IsEntry text a n) :
    ∀ c ∈ text, 0x2e ≤ c.toNat ∧ c.toNat ≤ 0x66 := by
  cases h with
  | explicit ht hl _ =>
    exact List.forall_mem_append.mpr ⟨fun c hc => (ht.isSign c hc).bounds, hl.bounds_slash⟩
  | bare ht => exact fun c hc => (ht.isSign c hc).bounds

/-! ## The two dialects -/

/-- A text that the strict dialect takes for an octet is one in every dialect. -/
theorem IsOctet.loosen {d : Dialect} {text : List Char} {n : Nat} (h : IsOctet strict text n) :
    IsOctet d text n :=
  ⟨h.numeral, h.lt, fun _ => h.plain rfl⟩

theorem IsQuad.loosen {d : Dialect} {text : List Char} {ns : List Nat} (h : IsQuad strict text ns) :
    IsQuad d text ns := by
  obtain ⟨ts, hlength, hts, rfl⟩ := h
  exact ⟨ts, hlength, hts.imp fun _ _ => IsOctet.loosen, rfl⟩

theorem Groups.loosen {d : Dialect} {ts : List (List Char)} {ns : List Nat} {quad : Bool}
    (h : Groups strict ts ns quad) : Groups d ts ns quad := by
  induction h with
  | nil => exact .nil
  | quad h => exact .quad h.loosen
  | cons h _ ih => exact .cons h ih

/-- The strict dialect allows the fewest groups beside `::`. -/
theorem mostBeside_strict_le (d : Dialect) : mostBeside strict ≤ mostBeside d := by
  show 7 ≤ if d.emptyGap then 8 else 7
  split
  · decide
  · decide

/-- What is an address in the strict dialect is the same address in any other. -/
theorem IsAddress.loosen {d : Dialect} {text : List Char} {a : Ip} (h : IsAddress strict text a) :
    IsAddress d text a := by
  cases h with
  | v4 h => exact .v4 h.loosen
  | v6 h =>
    cases h with
    | full h hlength => exact .v6 (.full h.loosen hlength)
    | gap ht hu hfront hmost =>
      exact .v6 (.gap ht.loosen hu.loosen hfront (Nat.le_trans hmost (mostBeside_strict_le d)))

end Address

end TunnelHost
