import TunnelHost.Proofs.JsonSkipping

/-!
# Reading numbers of every form

A number may have any length, a fraction and an exponent. Whatever its text, reading it ends in a
number or in a fault that the text alone decides, and the number is an integer exactly if the text
is one that fits. So every bound on a member that holds a number comes down to the text.

- `AsDouble`: the outcome is no integer.
- `fraction_yields`, `exponent_yields`, `number_yields`: the parts of a number and the whole.
- `refusal`, `judge`, `conclude`: what a reader for numbers makes of the number that was read.
- `IsNumber.outcome`: the outcome for a text, and when it is an integer.
- `IsNumber.reads_natural`: naturals below a limit.
- `reads_integer64_natural`, `reads_integer64_negative`: integers of either sign.
- `isInteger_zero_iff`: the one text of zero.
-/

namespace TunnelHost.Json

/-! ## Outcomes that are no integers -/

/-- What is read, if anything, is stored as a double. -/
def AsDouble (o : Except Cause Number) : Prop := ∀ v, o = .ok v → ∃ f, v = .floating f

theorem asDouble_error (cause : Cause) : AsDouble (.error cause) := by
  intro v hv
  cases hv

theorem asDouble_ok (f : Float) : AsDouble (.ok (.floating f)) := by
  intro v hv
  cases hv
  exact ⟨f, rfl⟩

/-- What is stored as a double is no natural number, even if its value is one. -/
theorem AsDouble.ne_natural {o : Except Cause Number} (h : AsDouble o) (n : Nat) :
    o ≠ .ok (.natural n) := by
  intro heq
  obtain ⟨f, hf⟩ := h _ heq
  cases hf

/-- A significand with an exponent is stored as a double, or is out of range. -/
theorem float_yields (positive : Bool) (significand : Nat) (e : Int) :
    ∃ o, AsDouble o ∧ ∀ rest, Yields (float positive significand e rest) rest o := by
  cases hscale : scale significand e with
  | none =>
    refine ⟨.error .numberOutOfRange, asDouble_error _, fun rest => ?_⟩
    rw [float, hscale]
    exact ⟨_, rfl⟩
  | some f =>
    refine ⟨.ok (.floating (if positive then f else -f)), asDouble_ok _, fun rest => ?_⟩
    rw [float, hscale]
    exact rfl

/-! ## Exponents -/

/-- The digits of an exponent are read to their end, or until they pass the limit. -/
theorem exponentDigits_append {ds : List Char} (hds : ∀ c ∈ ds, IsDigit c) (value : Nat) :
    (∃ e, ∀ rest, Ends rest → exponentDigits value (ds ++ rest) = (some e, rest))
      ∨ ∃ left, (∀ c ∈ left, IsDigit c)
          ∧ ∀ rest, exponentDigits value (ds ++ rest) = (none, left ++ rest) := by
  induction ds generalizing value with
  | nil =>
    refine Or.inl ⟨value, fun rest hrest => ?_⟩
    cases rest with
    | nil => rfl
    | cons c cs =>
      simp [exponentDigits, digitValue?_of_not_isDigit (hrest.not_isDigit c rfl)]
  | cons d ds ih =>
    obtain ⟨hd, hds⟩ := List.forall_mem_cons.mp hds
    have hvalue := digitValue?_of_isDigit hd
    by_cases hroom : value * 10 + (d.toNat - 0x30) < exponentLimit
    · simpa [exponentDigits, hvalue, hroom] using ih hds (value * 10 + (d.toNat - 0x30))
    · exact Or.inr ⟨ds, hds, fun rest => by simp [exponentDigits, hvalue, hroom]⟩

theorem exponent_yields {sign ds : List Char} (hsign : sign = [] ∨ sign = ['+'] ∨ sign = ['-'])
    (hds : IsDigits ds) (positive : Bool) (significand : Nat) (start : Int) :
    ∃ o, AsDouble o ∧ ∀ rest, Ends rest →
      Yields (exponent positive significand start (sign ++ (ds ++ rest))) rest o := by
  obtain ⟨upward, hafter⟩ := exponentSign_append hsign hds
  cases ds with
  | nil => exact absurd rfl hds.1
  | cons d ds =>
    obtain ⟨hd, hds⟩ := List.forall_mem_cons.mp hds.2
    have hvalue := digitValue?_of_isDigit hd
    simp only [List.cons_append] at hafter ⊢
    rcases exponentDigits_append hds (d.toNat - 0x30) with ⟨e, hdigits⟩ | ⟨left, hleft, hdigits⟩
    · obtain ⟨o, ho, hfloat⟩ := float_yields positive significand
        (clampExponent (if upward then start + e else start - e))
      refine ⟨o, ho, fun rest hrest => ?_⟩
      simp only [exponent, hafter, hvalue, hdigits rest hrest]
      exact hfloat rest
    · -- an exponent beyond the limit makes the number too large, or zero
      by_cases hlarge : (significand ≠ 0 && upward) = true
      · refine ⟨.error .numberOutOfRange, asDouble_error _, fun rest _ => ?_⟩
        simp only [exponent, hafter, hvalue, hdigits rest, hlarge, if_true]
        exact ⟨_, rfl⟩
      · refine ⟨.ok (.floating (if positive then 0.0 else -0.0)), asDouble_ok _,
          fun rest hrest => ?_⟩
        simp only [exponent, hafter, hvalue, hdigits rest, hlarge,
          leadingDigits_append hleft hrest.not_isDigit, Bool.false_eq_true, if_false]
        exact rfl

/-! ## Fractions and whole numbers -/

/-- What is made of a significand and of what stands after it. -/
def finishNumber (positive : Bool) (significand : Nat) (start : Int) :
    List Char → Except Fault (Number × List Char)
  | 'e' :: rest => exponent positive significand start rest
  | 'E' :: rest => exponent positive significand start rest
  | rest => float positive significand start rest

/-- Whatever comes after the digits, the number is stored as a double. -/
theorem finishNumber_yields {exponent : List Char} (h : IsExponent exponent) (positive : Bool)
    (significand : Nat) (start : Int) :
    ∃ o, AsDouble o ∧ ∀ rest, Ends rest →
      Yields (finishNumber positive significand start (exponent ++ rest)) rest o := by
  rcases h with rfl | ⟨letter, sign, ds, hletter, hsign, hds, rfl⟩
  · obtain ⟨o, ho, hfloat⟩ := float_yields positive significand start
    refine ⟨o, ho, fun rest hrest => ?_⟩
    rw [List.nil_append, finishNumber.eq_def]
    split
    -- what follows a number is no letter
    · exact absurd (hrest 'e' rfl) (by decide)
    · exact absurd (hrest 'E' rfl) (by decide)
    · exact hfloat rest
  · obtain ⟨o, ho, hexponent⟩ := exponent_yields hsign hds positive significand start
    refine ⟨o, ho, fun rest hrest => ?_⟩
    rw [List.cons_append, List.append_assoc]
    rcases hletter with rfl | rfl
    · exact hexponent rest hrest
    · exact hexponent rest hrest

/-- The digits of a fraction are taken in, and the exponent is made smaller by their number. -/
theorem fraction_append {ds tail : List Char} (hds : IsDigits ds)
    (htail : ∀ c ∈ tail.head?, ¬ IsDigit c) (positive : Bool) (significand : Nat) (start : Int) :
    fraction positive significand start (ds ++ tail)
      = finishNumber positive (fill significand (ds.map fun c => c.toNat - 0x30)).1
          (start - (fill significand (ds.map fun c => c.toNat - 0x30)).2) tail := by
  obtain ⟨d, vs, hvs⟩ := exists_map_of_isDigits hds
  rw [fraction, leadingDigits_append hds.2 htail, hvs]
  dsimp only
  split
  · rfl
  · rfl
  · next hsmall hlarge =>
    rw [finishNumber]
    · rintro rest rfl
      exact hsmall rest rfl
    · rintro rest rfl
      exact hlarge rest rfl

/-- With a fraction a number is stored as a double. -/
theorem fraction_yields {ds exponent : List Char} (hds : IsDigits ds)
    (hexponent : IsExponent exponent) (positive : Bool) (significand : Nat) (start : Int) :
    ∃ o, AsDouble o ∧ ∀ rest, Ends rest →
      Yields (fraction positive significand start (ds ++ (exponent ++ rest))) rest o := by
  let filled := fill significand (ds.map fun c => c.toNat - 0x30)
  obtain ⟨o, ho, hfinish⟩ := finishNumber_yields hexponent positive filled.1 (start - filled.2)
  refine ⟨o, ho, fun rest hrest => ?_⟩
  rw [fraction_append hds fun c hc => (not_isDigit_tail hexponent hrest c hc).1]
  exact hfinish rest hrest

/-- Digits that all find room are those of a number below the limit. -/
theorem lt_wordLimit_of_fill {s : Nat} {ds : List Nat} (hs : s < wordLimit)
    (h : (fill s ds).2 = ds.length) : ds.foldl (fun n d => n * 10 + d) s < wordLimit := by
  induction ds generalizing s with
  | nil => exact hs
  | cons d ds ih =>
    by_cases hroom : s * 10 + d < wordLimit
    · exact ih hroom (by simpa [fill, hroom] using h)
    · simp [fill, hroom] at h

/-- No more digits are taken in than there are. -/
theorem length_fill_le (s : Nat) (ds : List Nat) : (fill s ds).2 ≤ ds.length := by
  induction ds generalizing s with
  | nil => exact Nat.le_refl 0
  | cons d ds ih =>
    by_cases hroom : s * 10 + d < wordLimit
    · simpa [fill, hroom] using ih (s * 10 + d)
    · simp [fill, hroom]

/-- A whole number that does not fit has digits that find no room. -/
theorem fill_digits_lt {whole : List Char} (h : ¬ decimalValue whole < wordLimit) :
    (fill 0 (whole.map fun c => c.toNat - 0x30)).2 < whole.length := by
  rw [← List.length_map fun c : Char => c.toNat - 0x30]
  refine Nat.lt_of_le_of_ne (length_fill_le 0 _) fun hall => h ?_
  calc decimalValue whole
    _ = (whole.map fun c => c.toNat - 0x30).foldl (fun n d => n * 10 + d) 0 := List.foldl_map.symm
    _ < wordLimit := lt_wordLimit_of_fill (by decide) hall

/-- With a fraction or an exponent, a number is no integer. -/
theorem finishWhole_yields {fraction exponent : List Char} (hfraction : IsFraction fraction)
    (hexponent : IsExponent exponent) (hne : ¬ (fraction = [] ∧ exponent = [])) (positive : Bool)
    (significand : Nat) (dropped : Int) :
    ∃ o, AsDouble o ∧ ∀ rest, Ends rest → Yields
      (finishWhole positive significand dropped (fraction ++ (exponent ++ rest))) rest o := by
  rcases hfraction with rfl | ⟨ds, hds, rfl⟩
  · rcases hexponent with rfl | ⟨letter, sign, es, hletter, hsign, hes, rfl⟩
    · exact absurd ⟨rfl, rfl⟩ hne
    · obtain ⟨o, ho, hyields⟩ := exponent_yields hsign hes positive significand dropped
      refine ⟨o, ho, fun rest hrest => ?_⟩
      rw [List.nil_append, List.cons_append, List.append_assoc]
      rcases hletter with rfl | rfl
      · exact hyields rest hrest
      · exact hyields rest hrest
  · obtain ⟨o, ho, hyields⟩ := fraction_yields hds hexponent positive significand dropped
    exact ⟨o, ho, hyields⟩

/-- No digit follows the whole part. -/
theorem not_isDigit_rest {fraction exponent rest : List Char} (hfraction : IsFraction fraction)
    (hexponent : IsExponent exponent) (hrest : Ends rest) :
    ∀ c ∈ (fraction ++ (exponent ++ rest)).head?, ¬ IsDigit c := by
  rcases hfraction with rfl | ⟨ds, -, rfl⟩
  · exact fun c hc => (not_isDigit_tail hexponent hrest c hc).1
  · exact not_isDigit_point _

/-- The whole text after the sign: an integer if it is one and fits, and a double or a fault
otherwise. -/
theorem number_yields {whole fraction exponent : List Char} (hwhole : IsInteger whole)
    (hfraction : IsFraction fraction) (hexponent : IsExponent exponent) (positive : Bool) :
    ∃ o, (if fraction = [] ∧ exponent = [] ∧ decimalValue whole < wordLimit
        then o = .ok (integer positive (decimalValue whole)) else AsDouble o)
      ∧ ∀ rest, Ends rest →
          Yields (number positive (whole ++ (fraction ++ (exponent ++ rest)))) rest o := by
  let filled := fill 0 (whole.map fun c => c.toNat - 0x30)
  have hnumber (rest : List Char) (hrest : Ends rest) :
      number positive (whole ++ (fraction ++ (exponent ++ rest)))
        = finishWhole positive filled.1 (whole.length - filled.2)
            (fraction ++ (exponent ++ rest)) :=
    number_append hwhole (not_isDigit_rest hfraction hexponent hrest) positive
  by_cases hplain : fraction = [] ∧ exponent = []
  · obtain ⟨rfl, rfl⟩ := hplain
    have hfinish (rest : List Char) (hrest : Ends rest) :=
      finishWhole_of_ends hrest positive filled.1 (whole.length - filled.2)
    by_cases hfits : decimalValue whole < wordLimit
    · have hfill : filled = (decimalValue whole, whole.length) := fill_digits hfits
      refine ⟨.ok (integer positive (decimalValue whole)), ?_, fun rest hrest => ?_⟩
      · rw [if_pos ⟨rfl, rfl, hfits⟩]
      · rw [hnumber rest hrest, List.nil_append, List.nil_append, hfinish rest hrest, hfill,
          if_pos (Int.sub_self _)]
        exact rfl
    · -- digits that were dropped make the number too large for an integer
      have hdropped : (whole.length : Int) - filled.2 ≠ 0 := by
        have hlt : filled.2 < whole.length := fill_digits_lt hfits
        omega
      obtain ⟨o, ho, hfloat⟩ := float_yields positive filled.1 (whole.length - filled.2)
      refine ⟨o, ?_, fun rest hrest => ?_⟩
      · rwa [if_neg fun h => hfits h.2.2]
      · rw [hnumber rest hrest, List.nil_append, List.nil_append, hfinish rest hrest,
          if_neg hdropped]
        exact hfloat rest
  · obtain ⟨o, ho, hfinish⟩ :=
      finishWhole_yields hfraction hexponent hplain positive filled.1 (whole.length - filled.2)
    refine ⟨o, ?_, fun rest hrest => ?_⟩
    · rwa [if_neg fun h => hplain ⟨h.1, h.2.1⟩]
    · rw [hnumber rest hrest]
      exact hfinish rest hrest

/-! ## Zero -/

theorem isInteger_zero : IsInteger ['0'] :=
  ⟨⟨List.cons_ne_nil _ _, by simp [IsDigit]⟩, fun _ => rfl⟩

/-- There is one text for zero. -/
theorem isInteger_zero_iff {t : List Char} : IsInteger t ∧ decimalValue t = 0 ↔ t = ['0'] := by
  constructor
  · rintro ⟨⟨⟨hne, hdigits⟩, hhead⟩, hvalue⟩
    obtain ⟨c, cs, rfl⟩ := List.exists_cons_of_ne_nil hne
    have hle : c.toNat - 0x30 ≤ 0 := by
      calc c.toNat - 0x30 = 0 * 10 + (c.toNat - 0x30) := by omega
        _ ≤ ((cs.map fun c => c.toNat - 0x30).foldl (fun n d => n * 10 + d) _) :=
          le_foldl_digits _ _
        _ = decimalValue (c :: cs) := List.foldl_map
        _ = 0 := hvalue
    obtain ⟨hlow, -⟩ := hdigits c (List.mem_cons_self ..)
    have hzero : c.toNat = '0'.toNat := by
      show c.toNat = 0x30
      omega
    exact hhead (congrArg some (Char.toNat_inj.mp hzero))
  · rintro rfl
    exact ⟨isInteger_zero, rfl⟩

/-! ## Texts of numbers -/

/-- The fault of a number that is not wanted. -/
def refusal (wanted : String) : Number → Cause
  | .floating value => .wrongType (Number.floating value).found wanted
  | .natural value => .wrongValue (Number.natural value).found wanted
  | .negative value => .wrongValue (Number.negative value).found wanted

/-- What a reader for numbers makes of a number. -/
def judge {α : Type} (wanted : String) (convert : Number → Option α) (v : Number) :
    Except Cause α :=
  match convert v with
  | some a => .ok a
  | none => .error (refusal wanted v)

/-- How a reader for numbers ends, with a number and what is left behind it. -/
def conclude {α : Type} (wanted : String) (convert : Number → Option α) (p : Number × List Char) :
    Except Fault (α × List Char) :=
  match convert p.1 with
  | some a => .ok (a, p.2)
  | none =>
    match p.1 with
    | .floating _ => .error (.before (.wrongType p.1.found wanted) p.2)
    | _ => .error (.before (.wrongValue p.1.found wanted) p.2)

/-- A number is converted, or refused with its kind. -/
theorem conclude_yields {α : Type} (wanted : String) (convert : Number → Option α)
    (rest : List Char) (v : Number) :
    Yields (conclude wanted convert (v, rest)) rest (judge wanted convert v) := by
  rw [conclude, judge]
  cases convert v with
  | some a => exact rfl
  | none => cases v <;> exact ⟨_, rfl⟩

theorem IsDigits.not_mem {cs : List Char} (h : IsDigits cs) {c : Char} (hc : ¬ IsDigit c) :
    c ∉ cs := fun hmem => hc (h.2 c hmem)

/-- A text of a number is that of a natural number if it has neither sign, fraction nor
exponent. -/
theorem isNatural_append_iff {sign whole fraction exponent : List Char}
    (hsign : sign = [] ∨ sign = ['-']) (hwhole : IsInteger whole) (hfraction : IsFraction fraction)
    (hexponent : IsExponent exponent) {n : Nat} :
    IsNatural n (sign ++ (whole ++ (fraction ++ exponent)))
      ↔ sign = [] ∧ fraction = [] ∧ exponent = [] ∧ decimalValue whole = n := by
  constructor
  · rintro ⟨⟨hdigits, -⟩, hvalue⟩
    -- a natural number is written with digits alone, which leaves no room for anything else
    have hnosign : sign = [] := by
      refine hsign.resolve_right ?_
      rintro rfl
      exact hdigits.not_mem (c := '-') (by decide) (List.mem_cons_self ..)
    have hnofraction : fraction = [] := by
      refine hfraction.resolve_right ?_
      rintro ⟨ds, -, rfl⟩
      exact hdigits.not_mem (c := '.') (by decide) (by simp)
    have hnoexponent : exponent = [] := by
      refine hexponent.resolve_right ?_
      rintro ⟨letter, s, ds, rfl | rfl, -, -, rfl⟩
      · exact hdigits.not_mem (c := 'e') (by decide) (by simp)
      · exact hdigits.not_mem (c := 'E') (by decide) (by simp)
    subst hnosign hnofraction hnoexponent
    refine ⟨rfl, rfl, rfl, ?_⟩
    simpa using hvalue
  · rintro ⟨rfl, rfl, rfl, rfl⟩
    simpa [IsNatural] using hwhole

theorem integer_true (n : Nat) : integer true n = .natural n := rfl

/-- A number with a sign is no natural number, not even zero. -/
theorem integer_false_ne_natural (m n : Nat) : integer false m ≠ .natural n := by
  unfold integer
  rw [if_neg Bool.false_ne_true]
  split <;> simp

/-- No number starts like a value of another kind. -/
theorem starts_number {sign whole : List Char} (hsign : sign = [] ∨ sign = ['-'])
    (hwhole : IsInteger whole) (tail : List Char) :
    ∃ c cs, sign ++ (whole ++ tail) = c :: cs ∧ (c = '-' ∨ IsDigit c) := by
  rcases hsign with rfl | rfl
  · obtain ⟨c, cs, rfl⟩ := List.exists_cons_of_ne_nil hwhole.1.1
    exact ⟨c, _, rfl, Or.inr (hwhole.1.2 c (List.mem_cons_self ..))⟩
  · exact ⟨'-', _, rfl, Or.inl rfl⟩

/-- What is read of the text of a number, is judged. -/
theorem reads_numeric {α : Type} {sign whole tail : List Char} (hsign : sign = [] ∨ sign = ['-'])
    (hwhole : IsInteger whole) {o : Except Cause Number}
    (hnumber : ∀ rest, Ends rest → Yields (number (sign = []) (whole ++ (tail ++ rest))) rest o)
    (wanted : String) (convert : Number → Option α) :
    Reads (numeric wanted convert) (sign ++ (whole ++ tail)) (o >>= judge wanted convert) := by
  intro b rest hb hrest
  have hread : Yields (_ >>= conclude wanted convert) rest (o >>= judge wanted convert) :=
    (hnumber rest hrest).bind (conclude_yields wanted convert rest)
  obtain ⟨c, cs, rfl⟩ := List.exists_cons_of_ne_nil hwhole.1.1
  have hc := hwhole.1.2 c (List.mem_cons_self ..)
  unfold numeric
  rcases hsign with rfl | rfl
  -- without a sign the first character is a digit
  · have hminus : c ≠ '-' := by
      rintro rfl
      exact absurd hc (by decide)
    simp only [List.nil_append, List.cons_append, List.append_assoc] at hread ⊢
    rw [blanks_append_cons hb hc.isSpace]
    split
    · next heq => simp [hminus] at heq
    · simp only [List.head?_cons, digitValue?_of_isDigit hc, Option.isSome_some, if_true]
      exact hread
  · simp only [List.nil_append, List.cons_append, List.append_assoc] at hread ⊢
    rw [blanks_append_cons hb (by decide)]
    exact hread

/-- The text of a number decides what is read, wherever it stands; and that is a natural number
exactly if the text is that of one which fits 64 bits. -/
theorem IsNumber.outcome {text : List Char} (h : IsNumber text) :
    ∃ o : Except Cause Number,
      (∀ n, o = .ok (.natural n) ↔ IsNatural n text ∧ n < wordLimit)
      ∧ ∀ (α : Type) (wanted : String) (convert : Number → Option α),
          Reads (numeric wanted convert) text (o >>= judge wanted convert) := by
  obtain ⟨sign, whole, fraction, exponent, hsign, hwhole, hfraction, hexponent, rfl⟩ := h
  obtain ⟨o, ho, hnumber⟩ := number_yields hwhole hfraction hexponent (sign = [])
  refine ⟨o, fun n => ?_, fun α wanted convert => reads_numeric hsign hwhole ?_ wanted convert⟩
  · rw [isNatural_append_iff hsign hwhole hfraction hexponent]
    split at ho
    · next hplain =>
      rw [ho, Except.ok.injEq]
      rcases hsign with rfl | rfl
      · rw [show integer _ _ = Number.natural (decimalValue whole) from rfl, Number.natural.injEq]
        -- with a sign in front even zero is no natural number
        constructor
        · rintro rfl
          exact ⟨⟨rfl, hplain.1, hplain.2.1, rfl⟩, hplain.2.2⟩
        · exact fun h => h.1.2.2.2
      · constructor
        · exact fun h => absurd h (integer_false_ne_natural _ n)
        · exact fun h => absurd h.1.1 (List.cons_ne_nil _ _)
    · next hplain =>
      constructor
      · exact fun h => absurd h (ho.ne_natural n)
      · rintro ⟨⟨-, hfraction, hexponent, rfl⟩, hlt⟩
        exact absurd ⟨hfraction, hexponent, hlt⟩ hplain
  · simpa only [List.append_assoc] using hnumber

/-- An integer of either sign that fits 64 bits is read as such. -/
theorem reads_integer {α : Type} {sign whole : List Char} (hsign : sign = [] ∨ sign = ['-'])
    (hwhole : IsInteger whole) (hlt : decimalValue whole < wordLimit) (wanted : String)
    (convert : Number → Option α) :
    Reads (numeric wanted convert) (sign ++ whole)
      (judge wanted convert (integer (sign = []) (decimalValue whole))) := by
  obtain ⟨o, ho, hnumber⟩ := number_yields hwhole (.inl rfl) (.inl rfl) (sign = [])
  rw [if_pos ⟨rfl, rfl, hlt⟩] at ho
  subst ho
  have hreads := reads_numeric hsign hwhole hnumber wanted convert
  rwa [List.append_nil] at hreads

/-- A natural number that fits 63 bits is read as an integer. -/
theorem reads_integer64_natural {n : Nat} {text : List Char} (h : IsNatural n text)
    (hn : n < Nat.pow 2 63) : Reads integer64 text (.ok n) := by
  obtain ⟨hinteger, rfl⟩ := h
  have hlt : decimalValue text < wordLimit := Nat.lt_trans hn (by decide)
  have hread : Reads integer64 text _ := reads_integer (.inl rfl) hinteger hlt "i64" _
  simp only [decide_true, integer_true, hn, if_true, judge] at hread
  exact hread

/-- A negative integer of 64 bits is read. -/
theorem reads_integer64_negative {n : Nat} {text : List Char} (h : IsNatural n text)
    (hzero : 0 < n) (hn : n ≤ Nat.pow 2 63) : Reads integer64 ('-' :: text) (.ok (-(n : Int))) := by
  obtain ⟨hinteger, rfl⟩ := h
  have hlt : decimalValue text < wordLimit := Nat.lt_of_le_of_lt hn (by decide)
  have hread : Reads integer64 ('-' :: text) _ := reads_integer (.inr rfl) hinteger hlt "i64" _
  simp only [List.cons_ne_nil, decide_false, integer, Bool.false_eq_true, hzero, hn, decide_true,
    Bool.and_true, if_true, if_false, judge] at hread
  exact hread

/-- A natural number below a limit is read exactly from the texts of such a number, and any other
number is a fault. -/
theorem IsNumber.reads_natural {text : List Char} (h : IsNumber text) (wanted : String)
    {limit : Nat} (hlimit : limit ≤ wordLimit) :
    ∃ o, (∀ n, o = .ok n ↔ IsNatural n text ∧ n < limit)
      ∧ Reads (natural wanted limit) text o := by
  obtain ⟨o, hnatural, hreads⟩ := h.outcome
  -- every natural number below the limit fits the reader's word
  have hfits : ∀ n, IsNatural n text ∧ n < limit → o = .ok (.natural n) := fun n h =>
    (hnatural n).mpr ⟨h.1, Nat.lt_of_lt_of_le h.2 hlimit⟩
  refine ⟨_, fun n => ⟨fun hn => ?_, fun hn => ?_⟩, hreads Nat wanted _⟩
  · cases o with
    | error cause => cases hn
    | ok v =>
      simp only [bind, Except.bind] at hn
      cases v with
      | natural m =>
        by_cases hlt : m < limit
        · simp only [judge, hlt, if_true, Except.ok.injEq] at hn
          subst hn
          exact ⟨((hnatural m).mp rfl).1, hlt⟩
        · simp [judge, hlt] at hn
      | negative m => simp [judge] at hn
      | floating f => simp [judge] at hn
  · rw [hfits n hn]
    simp [judge, hn.2, bind, Except.bind]

end TunnelHost.Json
