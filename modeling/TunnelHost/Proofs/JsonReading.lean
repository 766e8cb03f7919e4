import Mathlib.Data.Nat.Basic
import Mathlib.Tactic.SplitIfs
import TunnelHost.Json.Record
import TunnelHost.Proofs.JsonGrammar
import TunnelHost.Proofs.Numerals

/-!
# Reading what the grammar describes

The readers of numbers, strings, words and truth values take the texts that the grammar gives for a
value, and stop right after them. A number ends only where what follows is no part of it, so
something is said of what may follow a value.

- `Ends`: what may follow a value.
- `string_of_spells`, `number_of_isNatural`: strings and natural numbers.
- `finishWhole`, `number_append`: a number of any form, up to the end of its whole part.
- `Yields`, `Reads`: a reader takes the text of a value, in any white space, and gives the value or
  finds fault with it.
- `reads_natural`, `reads_boolean`, `reads_text`: the simple kinds.
-/

namespace TunnelHost.Json

variable {α β : Type}

/-! ## White space -/

theorem isSpace_iff {c : Char} : isSpace c ↔ c = ' ' ∨ c = '\n' ∨ c = '\t' ∨ c = '\r' := by
  simp [isSpace, or_assoc]

theorem blanks_append {b : List Char} (hb : Blank b) (cs : List Char) :
    blanks (b ++ cs) = blanks cs :=
  List.dropWhile_append_of_pos fun c hc => isSpace_iff.mpr (hb c hc)

theorem blanks_eq_nil {b : List Char} (hb : Blank b) : blanks b = [] := by
  simpa [blanks] using blanks_append hb []

theorem blanks_cons {c : Char} (hc : isSpace c = false) (cs : List Char) :
    blanks (c :: cs) = c :: cs := by
  simp [blanks, hc]

theorem blanks_append_cons {b : List Char} {c : Char} (hb : Blank b) (hc : isSpace c = false)
    (cs : List Char) : blanks (b ++ c :: cs) = c :: cs := by
  rw [blanks_append hb, blanks_cons hc]

/-- What may follow a value: white space, or the comma or bracket of the container around it. -/
def Ends (rest : List Char) : Prop :=
  ∀ c ∈ rest.head?, isSpace c ∨ c = ',' ∨ c = ']' ∨ c = '\x7d'

theorem ends_of_blank {b : List Char} (hb : Blank b) : Ends b := by
  intro c hc
  exact Or.inl (isSpace_iff.mpr (hb c (List.mem_of_mem_head? hc)))

theorem ends_append {b rest : List Char} (hb : Blank b) (hrest : Ends rest) :
    Ends (b ++ rest) := by
  cases b with
  | nil => exact hrest
  | cons c cs =>
    intro c' hc'
    cases hc'
    exact Or.inl (isSpace_iff.mpr (hb c (List.mem_cons_self ..)))

theorem ends_comma (rest : List Char) : Ends (',' :: rest) := by
  rintro c ⟨⟩
  simp

theorem ends_bracket (rest : List Char) : Ends (']' :: rest) := by
  rintro c ⟨⟩
  simp

theorem ends_brace (rest : List Char) : Ends ('\x7d' :: rest) := by
  rintro c ⟨⟩
  simp

/-! ## Digits -/

theorem digitValue?_of_isDigit {c : Char} (h : IsDigit c) :
    Numeral.digitValue? 10 c = some (c.toNat - 0x30) := by
  obtain ⟨hleast, hmost⟩ := h
  have hd : c.toNat - 48 < 10 := by omega
  simp [Numeral.digitValue?, hleast, hmost, hd]

theorem digitValue?_of_not_isDigit {c : Char} (h : ¬ IsDigit c) :
    Numeral.digitValue? 10 c = none := by
  unfold IsDigit at h
  simp only [Numeral.digitValue?, Bool.and_eq_true, decide_eq_true_eq, Option.filter_eq_none_iff]
  intro d hd
  simp only [h, if_false] at hd
  split_ifs at hd with hlower hupper
  · simp only [Option.some.injEq] at hd
    simp
    omega
  · simp only [Option.some.injEq] at hd
    simp
    omega

theorem IsDigit.isSpace {c : Char} (h : IsDigit c) : isSpace c = false := by
  rw [← Bool.not_eq_true, isSpace_iff]
  obtain ⟨hleast, -⟩ := h
  rintro (rfl | rfl | rfl | rfl)
  all_goals revert hleast; decide

/-- What follows a value does not go on with digits. -/
theorem Ends.not_isDigit {rest : List Char} (h : Ends rest) : ∀ c ∈ rest.head?, ¬ IsDigit c := by
  intro c hc hdigit
  have hspace := hdigit.isSpace
  obtain ⟨hleast, hmost⟩ := hdigit
  rcases h c hc with h | rfl | rfl | rfl
  · rw [hspace] at h
    cases h
  all_goals revert hleast hmost; decide

/-- Digits are taken up to the first character that is none. -/
theorem leadingDigits_append {ds rest : List Char} (hds : ∀ c ∈ ds, IsDigit c)
    (hrest : ∀ c ∈ rest.head?, ¬ IsDigit c) :
    Numeral.leadingDigits 10 (ds ++ rest) = (ds.map fun c => c.toNat - 0x30, rest) := by
  refine Numeral.leadingDigits_append ?_ fun c hc => digitValue?_of_not_isDigit (hrest c hc)
  rw [List.forall₂_map_right_iff, List.forall₂_same]
  exact fun c hc => digitValue?_of_isDigit (hds c hc)

theorem le_foldl_digits (s : Nat) (ds : List Nat) :
    s ≤ ds.foldl (fun n d => n * 10 + d) s := by
  induction ds generalizing s with
  | nil => exact Nat.le_refl s
  | cons d ds ih =>
    have := ih (s * 10 + d)
    simp only [List.foldl_cons]
    omega

/-- All digits of a number of 64 bits find room in its significand. -/
theorem fill_eq {s : Nat} {ds : List Nat} (h : ds.foldl (fun n d => n * 10 + d) s < wordLimit) :
    fill s ds = (ds.foldl (fun n d => n * 10 + d) s, ds.length) := by
  induction ds generalizing s with
  | nil => rfl
  | cons d ds ih =>
    have hroom : s * 10 + d < wordLimit := Nat.lt_of_le_of_lt (le_foldl_digits (s * 10 + d) ds) h
    simp only [List.foldl_cons] at h ⊢
    simp [fill, hroom, ih h]

/-- Digits whose number fits a word are all taken in. -/
theorem fill_digits {whole : List Char} (h : decimalValue whole < wordLimit) :
    fill 0 (whole.map fun c => c.toNat - 0x30) = (decimalValue whole, whole.length) := by
  have hvalue : (whole.map fun c => c.toNat - 0x30).foldl (fun n d => n * 10 + d) 0
      = decimalValue whole := List.foldl_map
  rw [fill_eq (hvalue ▸ h), hvalue, List.length_map]

/-- A zero before further digits is no integer. -/
theorem IsInteger.eq_nil_of_zero {c : Char} {cs : List Char} (h : IsInteger (c :: cs))
    (hc : c.toNat - 0x30 = 0) : cs = [] := by
  obtain ⟨⟨-, hdigits⟩, hzero⟩ := h
  obtain ⟨hleast, -⟩ := hdigits c (List.mem_cons_self ..)
  have hc : c = '0' := Char.toNat_inj.mp (show c.toNat = 0x30 by omega)
  have hcs := hzero (by rw [hc]; rfl)
  simp only [List.cons.injEq] at hcs
  exact hcs.2

/-- A whole part that starts with a zero is that zero. -/
theorem IsInteger.exists_map {whole : List Char} (h : IsInteger whole) :
    ∃ d vs, whole.map (fun c => c.toNat - 0x30) = d :: vs ∧ (d = 0 → vs = []) := by
  cases whole with
  | nil => exact absurd rfl h.1.1
  | cons c cs =>
    refine ⟨_, _, rfl, fun hc => ?_⟩
    rw [h.eq_nil_of_zero hc, List.map_nil]

/-- What is made of the digits of a whole number and of what stands after them. -/
def finishWhole (positive : Bool) (significand : Nat) (dropped : Int) :
    List Char → Except Fault (Number × List Char)
  | '.' :: rest => fraction positive significand dropped rest
  | 'e' :: rest => exponent positive significand dropped rest
  | 'E' :: rest => exponent positive significand dropped rest
  | rest =>
    if dropped = 0 then .ok (integer positive significand, rest)
    else float positive significand dropped rest

/-- The whole part of a number is taken in before anything else is looked at. -/
theorem number_append {whole tail : List Char} (h : IsInteger whole)
    (htail : ∀ c ∈ tail.head?, ¬ IsDigit c) (positive : Bool) :
    number positive (whole ++ tail)
      = finishWhole positive (fill 0 (whole.map fun c => c.toNat - 0x30)).1
          (whole.length - (fill 0 (whole.map fun c => c.toNat - 0x30)).2) tail := by
  have htake := leadingDigits_append h.1.2 htail
  -- the reader refuses a zero in front of other digits, of which there is none
  obtain ⟨d, vs, hvs, hzero⟩ := h.exists_map
  cases whole with
  | nil => exact absurd rfl h.1.1
  | cons c cs =>
    rw [List.cons_append] at htake ⊢
    rw [number, htake]
    split
    · next heq => simp at heq
    · next heq =>
      rw [hvs] at heq
      simp only [Prod.mk.injEq, List.cons.injEq] at heq
      simp [hzero heq.1.1] at heq
    · next ds rest _ _ heq =>
      simp only [Prod.mk.injEq] at heq
      obtain ⟨rfl, rfl⟩ := heq
      rw [List.length_map]
      dsimp only
      split
      · rfl
      · rfl
      · rfl
      · next hpoint hsmall hlarge =>
        rw [finishWhole]
        · rintro rest rfl
          exact hpoint rest rfl
        · rintro rest rfl
          exact hsmall rest rfl
        · rintro rest rfl
          exact hlarge rest rfl

/-- Digits alone are an integer, unless some were dropped. -/
theorem finishWhole_of_ends {rest : List Char} (hrest : Ends rest) (positive : Bool)
    (significand : Nat) (dropped : Int) :
    finishWhole positive significand dropped rest
      = if dropped = 0 then .ok (integer positive significand, rest)
        else float positive significand dropped rest := by
  rw [finishWhole.eq_def]
  split
  · exact absurd (hrest '.' rfl) (by decide)
  · exact absurd (hrest 'e' rfl) (by decide)
  · exact absurd (hrest 'E' rfl) (by decide)
  · rfl

/-- A natural number that fits a word is stored as one. -/
theorem number_of_isNatural {n : Nat} {text rest : List Char} (h : IsNatural n text)
    (hn : n < wordLimit) (hrest : Ends rest) :
    number true (text ++ rest) = .ok (.natural n, rest) := by
  obtain ⟨hinteger, rfl⟩ := h
  rw [number_append hinteger hrest.not_isDigit, fill_digits hn, finishWhole_of_ends hrest,
    if_pos (Int.sub_self _)]
  rfl

/-! ## Strings -/

/-- A hexadecimal digit has its value in either case. -/
theorem digitValue?_of_isHexDigit {d : Nat} {c : Char} (h : IsHexDigit d c) :
    Numeral.digitValue? 16 c = some d := by
  have hd : d < 16 := by
    rcases h with h | h
    · omega
    · omega
  have hvalue : (if 48 ≤ c.toNat ∧ c.toNat ≤ 57 then some (c.toNat - 48)
      else if 97 ≤ c.toNat ∧ c.toNat ≤ 102 then some (c.toNat - 87)
      else if 65 ≤ c.toNat ∧ c.toNat ≤ 70 then some (c.toNat - 55) else none) = some d := by
    rcases h with ⟨hten, hc⟩ | ⟨hten, -, hc | hc⟩
    · rw [if_pos (by omega), hc]
      congr 1
      omega
    · rw [if_neg (by omega), if_pos (by omega), hc]
      congr 1
      omega
    · rw [if_neg (by omega), if_neg (by omega), if_pos (by omega), hc]
      congr 1
      omega
  simp [Numeral.digitValue?, hvalue, hd]

/-- Four hexadecimal digits are read as their number. -/
theorem IsHex4.exists_hex4? {n : Nat} {x : List Char} (h : IsHex4 n x) :
    ∃ a b c d, x = [a, b, c, d] ∧ hex4? a b c d = some n := by
  obtain ⟨d₁, d₂, d₃, d₄, a, b, c, d, h₁, h₂, h₃, h₄, rfl, rfl⟩ := h
  refine ⟨a, b, c, d, rfl, ?_⟩
  simp [hex4?, digitValue?_of_isHexDigit h₁, digitValue?_of_isHexDigit h₂,
    digitValue?_of_isHexDigit h₃, digitValue?_of_isHexDigit h₄, Numeral.ofDigits]

theorem isLeading_iff {n : Nat} : isLeading n ↔ 0xd800 ≤ n ∧ n < 0xdc00 := by
  simp only [isLeading, Bool.and_eq_true, decide_eq_true_eq]
  omega

theorem isTrailing_iff {n : Nat} : isTrailing n ↔ 0xdc00 ≤ n ∧ n < 0xe000 := by
  simp only [isTrailing, Bool.and_eq_true, decide_eq_true_eq]
  omega

section

variable {l c : Char} {n m : Nat} {x y : List Char} (rest : List Char)

theorem string_plain (h : IsPlain c) : string (c :: rest) = prepend c (string rest) := by
  obtain ⟨hc, hquote, hslash⟩ := h
  simp [string, hslash, Nat.not_lt.mpr hc]

theorem string_letter (h : (l, c) ∈ letterEscapes) :
    string ('\\' :: l :: rest) = prepend c (string rest) := by
  simp only [letterEscapes, List.mem_cons, List.not_mem_nil, Prod.mk.injEq, or_false] at h
  rcases h with ⟨rfl, rfl⟩ | ⟨rfl, rfl⟩ | ⟨rfl, rfl⟩ | ⟨rfl, rfl⟩ | ⟨rfl, rfl⟩ | ⟨rfl, rfl⟩
    | ⟨rfl, rfl⟩ | ⟨rfl, rfl⟩
  all_goals simp [string, simpleEscape?]

theorem string_code (hx : IsHex4 n x) (hn : n < 0xd800 ∨ 0xe000 ≤ n) :
    string ('\\' :: 'u' :: (x ++ rest)) = prepend (Char.ofNat n) (string rest) := by
  obtain ⟨a, b, c, d, rfl, hvalue⟩ := hx.exists_hex4?
  have htrailing : ¬ isTrailing n := by rw [isTrailing_iff]; omega
  have hleading : ¬ isLeading n := by rw [isLeading_iff]; omega
  simp [string, hvalue, htrailing, hleading]

/-- Two surrogates stand for one character. -/
theorem string_pair (hx : IsHex4 n x) (hn : 0xd800 ≤ n ∧ n < 0xdc00) (hy : IsHex4 m y)
    (hm : 0xdc00 ≤ m ∧ m < 0xe000) :
    string ('\\' :: 'u' :: (x ++ '\\' :: 'u' :: (y ++ rest)))
      = prepend (pairChar n m) (string rest) := by
  obtain ⟨a, b, c, d, rfl, hvalue⟩ := hx.exists_hex4?
  obtain ⟨e, f, g, h, rfl, hvalue'⟩ := hy.exists_hex4?
  have htrailing : ¬ isTrailing n := by rw [isTrailing_iff]; omega
  simp [string, hvalue, hvalue', htrailing, isLeading_iff.mpr hn, isTrailing_iff.mpr hm]

theorem skipString_plain (h : IsPlain c) : skipString (c :: rest) = skipString rest := by
  obtain ⟨hc, hquote, hslash⟩ := h
  simp [skipString, hslash, Nat.not_lt.mpr hc]

theorem skipString_letter (h : (l, c) ∈ letterEscapes) :
    skipString ('\\' :: l :: rest) = skipString rest := by
  simp only [letterEscapes, List.mem_cons, List.not_mem_nil, Prod.mk.injEq, or_false] at h
  rcases h with ⟨rfl, rfl⟩ | ⟨rfl, rfl⟩ | ⟨rfl, rfl⟩ | ⟨rfl, rfl⟩ | ⟨rfl, rfl⟩ | ⟨rfl, rfl⟩
    | ⟨rfl, rfl⟩ | ⟨rfl, rfl⟩
  all_goals simp [skipString, simpleEscape?]

theorem skipString_code (hx : IsHex4 n x) :
    skipString ('\\' :: 'u' :: (x ++ rest)) = skipString rest := by
  obtain ⟨a, b, c, d, rfl, hvalue⟩ := hx.exists_hex4?
  simp [skipString, hvalue]

end

/-- A string is read as the characters that its text spells. -/
theorem string_of_spells {cs inside : List Char} (h : Spells cs inside) (rest : List Char) :
    string (inside ++ '"' :: rest) = .ok (cs, rest) := by
  induction h with
  | nil => rw [List.nil_append, string_quote]
  | plain hc _ ih => rw [List.cons_append, string_plain _ hc, ih, prepend]
  | letter hl _ ih => rw [List.cons_append, List.cons_append, string_letter _ hl, ih, prepend]
  | code hx hn _ ih =>
    rw [List.cons_append, List.cons_append, List.append_assoc, string_code _ hx hn, ih, prepend]
  | pair hx hn hn' hy hm hm' _ ih =>
    rw [List.cons_append, List.cons_append, List.append_assoc, List.cons_append, List.cons_append,
      List.append_assoc, string_pair _ hx ⟨hn, hn'⟩ hy ⟨hm, hm'⟩, ih, prepend, pairChar]

/-- Whatever may stand between quotes is passed over, up to the closing one. -/
theorem skipString_of_quotable {inside : List Char} (h : Quotable inside) (rest : List Char) :
    skipString (inside ++ '"' :: rest) = .ok rest := by
  induction h with
  | nil => rw [List.nil_append, skipString_quote]
  | plain hc _ ih => rw [List.cons_append, skipString_plain _ hc, ih]
  | letter hl _ ih => rw [List.cons_append, List.cons_append, skipString_letter _ hl, ih]
  | code hx _ ih =>
    rw [List.cons_append, List.cons_append, List.append_assoc, skipString_code _ hx, ih]

/-! ## Readers of values -/

theorem colon_append {b : List Char} (hb : Blank b) (rest : List Char) :
    colon (b ++ ':' :: rest) = .ok rest := by
  rw [colon, blanks_append_cons hb (by decide)]
  rfl

/-- What became of the reading of a value before `rest`: the value, with `rest` left to be read, or
a fault of the given cause. -/
def Yields (x : Except Fault (α × List Char)) (rest : List Char) : Except Cause α → Prop
  | .ok a => x = .ok (a, rest)
  | .error cause => ∃ unread, x = .error ⟨cause, unread⟩

/-- Readings in a row yield what the last of them yields, or the fault of the first that fails. -/
theorem Yields.bind {x : Except Fault (α × List Char)} {o : Except Cause α} {rest rest' : List Char}
    {f : α × List Char → Except Fault (β × List Char)} {g : α → Except Cause β}
    (hx : Yields x rest o) (hf : ∀ a, Yields (f (a, rest)) rest' (g a)) :
    Yields (x >>= f) rest' (o >>= g) := by
  cases o with
  | ok a =>
    rw [show x = .ok (a, rest) from hx]
    exact hf a
  | error cause =>
    obtain ⟨unread, rfl⟩ := hx
    exact ⟨unread, rfl⟩

/-- A reader takes a text for a value, or finds fault with it, wherever it stands. -/
def Reads (r : Reader α) (text : List Char) (o : Except Cause α) : Prop :=
  ∀ b rest, Blank b → Ends rest → Yields (r (b ++ (text ++ rest))) rest o

/-- A reader whose result is converted reads the same texts. -/
theorem Reads.map {r : Reader α} {text : List Char} {o : Except Cause α} (h : Reads r text o)
    (f : α → β) : Reads (fun cs => do let (a, rest) ← r cs; .ok (f a, rest)) text (o.map f) := by
  intro b rest hb hrest
  have hbind : Yields (r (b ++ (text ++ rest)) >>= fun p => .ok (f p.1, p.2)) rest
      (o >>= fun a => .ok (f a)) := (h b rest hb hrest).bind fun a => rfl
  cases o with
  | ok a => exact hbind
  | error cause => exact hbind

/-- A natural number below the limit is read. -/
theorem reads_natural {n limit : Nat} {text : List Char} (wanted : String) (h : IsNatural n text)
    (hn : n < limit) (hlimit : limit ≤ wordLimit) : Reads (natural wanted limit) text (.ok n) := by
  intro b rest hb hrest
  have hnumber := number_of_isNatural h (by omega) hrest
  obtain ⟨⟨⟨hnonempty, hdigits⟩, -⟩, -⟩ := h
  cases text with
  | nil => exact absurd rfl hnonempty
  | cons c cs =>
    have hc := hdigits c (List.mem_cons_self ..)
    have hminus : c ≠ '-' := by
      rintro rfl
      exact absurd hc (by decide)
    show numeric _ _ _ = _
    unfold numeric
    rw [blanks_append hb, List.cons_append, blanks_cons hc.isSpace]
    split
    · next h => simp [hminus] at h
    · next h =>
      rw [← List.cons_append, hnumber]
      simp [digitValue?_of_isDigit hc, hn, bind, Except.bind]

/-- A truth value is read. -/
theorem reads_boolean (value : Bool) : Reads boolean (booleanText value) (.ok value) := by
  intro b rest hb _
  show boolean _ = _
  cases value with
  | true =>
    simp only [boolean, booleanText, List.cons_append, List.nil_append]
    rw [blanks_append_cons hb (by decide)]
    simp [word, bind, Except.bind]
  | false =>
    simp only [boolean, booleanText, List.cons_append, List.nil_append]
    rw [blanks_append_cons hb (by decide)]
    simp [word, bind, Except.bind]

/-- A string is read, however it is spelled. -/
theorem reads_stringFor {s : String} {text : List Char} (wanted : String) (h : IsString s text) :
    Reads (stringFor wanted) text (.ok s) := by
  obtain ⟨inside, hspells, rfl⟩ := h
  intro b rest hb _
  have hstring := string_of_spells hspells rest
  show stringFor _ _ = _
  simp only [stringFor, List.cons_append, List.append_assoc, List.nil_append]
  rw [blanks_append_cons hb (by decide)]
  simp [hstring, bind, Except.bind]

theorem reads_text {s : String} {text : List Char} (h : IsString s text) :
    Reads Json.text text (.ok s) := reads_stringFor "a string" h

/-- What a reader makes of a text is one thing. -/
theorem Reads.unique {r : Reader α} {text : List Char} {o o' : Except Cause α} (h : Reads r text o)
    (h' : Reads r text o') : o = o' := by
  -- the reader is run with nothing around the text
  have hvalue := h [] [] blank_nil (ends_of_blank blank_nil)
  have hvalue' := h' [] [] blank_nil (ends_of_blank blank_nil)
  cases o with
  | ok a =>
    cases o' with
    | ok a' => cases (show Except.ok _ = Except.ok _ from hvalue.symm.trans hvalue'); rfl
    | error cause' =>
      obtain ⟨unread, hfault⟩ := hvalue'
      cases hvalue.symm.trans hfault
  | error cause =>
    obtain ⟨unread, hfault⟩ := hvalue
    cases o' with
    | ok a' => cases hfault.symm.trans hvalue'
    | error cause' =>
      obtain ⟨unread', hfault'⟩ := hvalue'
      cases hfault.symm.trans hfault'
      rfl

/-! ## Whole texts -/

section

variable {r : Reader α} {s : String} {b text b' : List Char}

/-- A whole text is read if a value stands in it with white space around. -/
theorem read_of_reads {a : α} (h : Reads r text (.ok a)) (hb : Blank b) (hb' : Blank b')
    (hs : s.toList = b ++ (text ++ b')) : read r s = .ok a := by
  have hvalue : r (b ++ (text ++ b')) = .ok (a, b') := h b b' hb (ends_of_blank hb')
  simp [read, hs, hvalue, blanks_eq_nil hb', bind, Except.bind]

/-- Fault is found with a whole text if it is found with the value. -/
theorem read_of_reads_error {cause : Cause} (h : Reads r text (.error cause)) (hb : Blank b)
    (hb' : Blank b') (hs : s.toList = b ++ (text ++ b')) :
    ∃ unread, read r s = .error ⟨cause, unread⟩ := by
  obtain ⟨unread, hfault⟩ := h b b' hb (ends_of_blank hb')
  exact ⟨unread, by simp [read, hs, hfault, bind, Except.bind]⟩

end

end TunnelHost.Json
