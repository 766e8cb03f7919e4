import TunnelHost.Proofs.JsonNumbers
import TunnelHost.Proofs.RecordRuns

/-!
# Values of every kind

A reader that wants one kind of value may find any other, and then finds fault with it, after it has
read it if it is a number or a string. What it finds is decided by the text of the value alone. So
every value has an outcome for every reader, and every key has one too.

- `exists_understood`, `exists_decodes`: strings and keys, of which some hold half of a surrogate
  pair.
- `TellsKind`: what the first character tells of a value.
- `exists_refused`: a value of any kind where another is wanted.
- `settles_stringFor`, `settles_numeric`, `settles_optional`: the readers.
- `reads_optional_null`, `reads_optional`: values that may be `null`.
- `reads_put`, `settles_of`: values that are put into a record.
-/

namespace TunnelHost.Json

variable {α : Type} {text : List Char}

/-! ## Strings -/

/-- A character in front does not change whether a string is read. -/
theorem Yields.prepend {x : Except Fault (List Char × List Char)} {rest : List Char}
    {o : Except Cause (List Char)} (h : Yields x rest o) (c : Char) :
    Yields (Json.prepend c x) rest (o.map (c :: ·)) := by
  cases o with
  | ok cs =>
    rw [show x = .ok (cs, rest) from h]
    exact rfl
  | error cause =>
    obtain ⟨unread, rfl⟩ := h
    exact ⟨unread, rfl⟩

section

variable {n m : Nat} {x y : List Char} (rest : List Char)

/-- The second half of a surrogate pair cannot come first. -/
theorem string_trailing (hx : IsHex4 n x) (hn : 0xdc00 ≤ n ∧ n < 0xe000) :
    ∃ unread, string ('\\' :: 'u' :: (x ++ rest)) = .error ⟨.loneSurrogate, unread⟩ := by
  obtain ⟨a, b, c, d, rfl, hvalue⟩ := hx.exists_hex4?
  exact ⟨_, by simp [string, hvalue, isTrailing_iff.mpr hn]; rfl⟩

/-- The first half of a surrogate pair has to be followed by an escape of four digits. -/
theorem string_leading_plain (hx : IsHex4 n x) (hn : 0xd800 ≤ n ∧ n < 0xdc00) {c : Char}
    (hc : c ≠ '\\') :
    ∃ unread, string ('\\' :: 'u' :: (x ++ c :: rest)) = .error ⟨.endOfEscape, unread⟩ := by
  obtain ⟨a, b, c', d, rfl, hvalue⟩ := hx.exists_hex4?
  have htrailing : ¬ isTrailing n := by rw [isTrailing_iff]; omega
  exact ⟨_, by simp [string, hvalue, htrailing, isLeading_iff.mpr hn, hc]; rfl⟩

/-- A leading surrogate with another escape after it is a fault. -/
theorem string_leading_letter (hx : IsHex4 n x) (hn : 0xd800 ≤ n ∧ n < 0xdc00) {l : Char}
    (hl : l ≠ 'u') :
    ∃ unread, string ('\\' :: 'u' :: (x ++ '\\' :: l :: rest))
      = .error ⟨.endOfEscape, unread⟩ := by
  obtain ⟨a, b, c, d, rfl, hvalue⟩ := hx.exists_hex4?
  have htrailing : ¬ isTrailing n := by rw [isTrailing_iff]; omega
  exact ⟨_, by simp [string, hvalue, htrailing, isLeading_iff.mpr hn, hl]; rfl⟩

/-- A leading surrogate without a trailing one after it is a fault. -/
theorem string_leading_code (hx : IsHex4 n x) (hn : 0xd800 ≤ n ∧ n < 0xdc00) (hy : IsHex4 m y)
    (hm : ¬ (0xdc00 ≤ m ∧ m < 0xe000)) :
    ∃ unread, string ('\\' :: 'u' :: (x ++ '\\' :: 'u' :: (y ++ rest)))
      = .error ⟨.loneSurrogate, unread⟩ := by
  obtain ⟨a, b, c, d, rfl, hvalue⟩ := hx.exists_hex4?
  obtain ⟨e, f, g, h, rfl, hvalue'⟩ := hy.exists_hex4?
  have htrailing : ¬ isTrailing n := by rw [isTrailing_iff]; omega
  have hlone : ¬ isTrailing m := by rwa [isTrailing_iff]
  exact ⟨_, by simp [string, hvalue, hvalue', htrailing, hlone, isLeading_iff.mpr hn]; rfl⟩

end

/-- What becomes of the inside of a string. If it is read, it spells what is read. -/
def Understood (inside : List Char) (o : Except Cause (List Char)) : Prop :=
  (∀ cs, o = .ok cs → Spells cs inside) ∧ ∀ rest, Yields (string (inside ++ '"' :: rest)) rest o

/-- A string that is refused spells nothing. -/
theorem understood_error {inside : List Char} {cause : Cause}
    (h : ∀ rest, ∃ unread, string (inside ++ '"' :: rest) = .error ⟨cause, unread⟩) :
    Understood inside (.error cause) := by
  refine ⟨?_, h⟩
  rintro cs ⟨⟩

/-- A part that means one character is put in front. -/
theorem Understood.cons {tail : List Char} {o : Except Cause (List Char)} (h : Understood tail o)
    (part : List Char) {c : Char} (hspells : ∀ cs, Spells cs tail → Spells (c :: cs) (part ++ tail))
    (hstring : ∀ rest, string (part ++ rest) = prepend c (string rest)) :
    Understood (part ++ tail) (o.map (c :: ·)) := by
  obtain ⟨ho, hyields⟩ := h
  refine ⟨fun cs hcs => ?_, fun rest => ?_⟩
  · cases o with
    | error cause => cases hcs
    | ok cs' =>
      cases hcs
      exact hspells cs' (ho cs' rfl)
  · rw [List.append_assoc, hstring]
    exact (hyields rest).prepend c

/-- What may stand between quotes is read, or is a fault, whatever follows the quotes. -/
theorem exists_understood {inside : List Char} (h : Quotable inside) :
    ∃ o, Understood inside o := by
  -- a surrogate pair takes two escapes at once, so the induction is on the length
  induction hlength : inside.length using Nat.strongRecOn generalizing inside with
  | _ length ih =>
  subst hlength
  cases h with
  | nil =>
    refine ⟨.ok [], ?_, string_quote⟩
    rintro cs ⟨⟩
    exact .nil
  | @plain c tail hc htail =>
    obtain ⟨o, ho⟩ := ih _ (Nat.lt_succ_self _) htail rfl
    exact ⟨_, ho.cons [c] (fun _ => .plain hc) fun rest => string_plain rest hc⟩
  | @letter l c tail hl htail =>
    obtain ⟨o, ho⟩ := ih _ (by grind) htail rfl
    exact ⟨_, ho.cons ['\\', l] (fun _ => .letter hl) fun rest => string_letter rest hl⟩
  | @code n x tail hx htail =>
    by_cases htrailing : 0xdc00 ≤ n ∧ n < 0xe000
    · refine ⟨.error .loneSurrogate, understood_error fun rest => ?_⟩
      rw [List.cons_append, List.cons_append, List.append_assoc]
      exact string_trailing _ hx htrailing
    by_cases hleading : 0xd800 ≤ n ∧ n < 0xdc00
    · -- the first half of a pair: it depends on what follows
      cases htail with
      | nil =>
        refine ⟨.error .endOfEscape, understood_error fun rest => ?_⟩
        rw [List.append_nil, List.cons_append, List.cons_append]
        exact string_leading_plain _ hx hleading (by decide)
      | plain hc _ =>
        refine ⟨.error .endOfEscape, understood_error fun rest => ?_⟩
        rw [List.cons_append, List.cons_append, List.append_assoc]
        exact string_leading_plain _ hx hleading hc.2.2
      | @letter l c tail hl _ =>
        have hlu : l ≠ 'u' := by
          rintro rfl
          simp [letterEscapes] at hl
        refine ⟨.error .endOfEscape, understood_error fun rest => ?_⟩
        rw [List.cons_append, List.cons_append, List.append_assoc]
        exact string_leading_letter _ hx hleading hlu
      | @code m y tail hy htail =>
        by_cases hpair : 0xdc00 ≤ m ∧ m < 0xe000
        · obtain ⟨o, ho⟩ := ih _ (by grind) htail rfl
          have hcons := ho.cons (c := pairChar n m) ('\\' :: 'u' :: (x ++ '\\' :: 'u' :: y))
            (fun cs hcs => by
              simpa [pairChar] using Spells.pair hx hleading.1 hleading.2 hy hpair.1 hpair.2 hcs)
            (fun rest => by simpa using string_pair rest hx hleading hy hpair)
          rw [List.cons_append, List.cons_append, List.append_assoc] at hcons
          exact ⟨_, hcons⟩
        · refine ⟨.error .loneSurrogate, understood_error fun rest => ?_⟩
          simpa using string_leading_code (tail ++ '"' :: rest) hx hleading hy hpair
    · obtain ⟨o, ho⟩ := ih _ (by grind) htail rfl
      exact ⟨_, ho.cons ('\\' :: 'u' :: x) (fun _ => .code hx (by omega))
        fun rest => string_code rest hx (by omega)⟩

/-- Every key means a name, or is a fault. -/
theorem exists_decodes {key : List Char} (h : Quotable key) : ∃ name, Decodes name key := by
  obtain ⟨o, hspells, hyields⟩ := exists_understood h
  cases o with
  | error cause => exact ⟨.error cause, hyields⟩
  | ok cs =>
    refine ⟨.ok (String.ofList cs), ?_⟩
    show Spells (String.ofList cs).toList key
    rw [String.toList_ofList]
    exact hspells cs rfl

/-! ## Kinds -/

/-- What the first character tells of a value: whether it is a string, a number or `null`. -/
structure TellsKind (text : List Char) (c : Char) : Prop where
  space : isSpace c = false
  string : (∃ inside, Quotable inside ∧ text = '"' :: (inside ++ ['"'])) ∨ c ≠ '"'
  number : IsNumber text ∨ ¬ (c = '-' ∨ IsDigit c)
  null : text = nullText ∨ c ≠ 'n'

/-- Truth values, lists and objects start like none of these. -/
theorem tellsKind_of_mem {c : Char} (hc : c ∈ ['t', 'f', '[', '\x7b']) (text : List Char) :
    TellsKind text c := by
  simp only [List.mem_cons, List.not_mem_nil, or_false] at hc
  rcases hc with rfl | rfl | rfl | rfl
  all_goals exact ⟨by decide, .inr (by decide), .inr (by decide), .inr (by decide)⟩

/-- The first character of a value tells of what kind it is. -/
theorem IsValue.first (h : IsValue text) : ∃ c cs, text = c :: cs ∧ TellsKind text c := by
  cases h with
  | null => exact ⟨_, _, rfl, by decide, .inr (by decide), .inr (by decide), .inl rfl⟩
  | @boolean value =>
    cases value with
    | true => exact ⟨_, _, rfl, tellsKind_of_mem (by decide) _⟩
    | false => exact ⟨_, _, rfl, tellsKind_of_mem (by decide) _⟩
  | number h =>
    have hnumber := h
    obtain ⟨sign, whole, fraction, exponent, hsign, hwhole, -, -, rfl⟩ := h
    obtain ⟨c, cs, htext, hc⟩ := starts_number hsign hwhole (fraction ++ exponent)
    -- a number starts with a sign or a digit, so with nothing that another kind starts with
    have hne : ∀ c', ¬ (c' = '-' ∨ IsDigit c') → c ≠ c' := by
      rintro c' hc' rfl
      exact hc' hc
    refine ⟨c, cs, htext, ?_, .inr (hne '"' (by decide)), .inl hnumber,
      .inr (hne 'n' (by decide))⟩
    rcases hc with rfl | hc
    · decide
    · exact hc.isSpace
  | string h =>
    exact ⟨_, _, rfl, by decide, .inl ⟨_, h, rfl⟩, .inr (by decide), .inr (by decide)⟩
  | list _ _ => exact ⟨_, _, rfl, tellsKind_of_mem (by decide) _⟩
  | object h _ _ =>
    obtain ⟨parts, inside, -, -, rfl⟩ := h
    exact ⟨_, _, rfl, tellsKind_of_mem (by decide) _⟩

/-! ## The wrong kind -/

/-- The fault of a value that was read, or not, where another kind is wanted. -/
def misfit (wanted : String) (found : α → Found) : Except Fault (α × List Char) → Fault
  | .ok (a, rest) => .before (.wrongType (found a) wanted) rest
  | .error fault => fault

/-- The cause of that fault. -/
def misfitCause (wanted : String) (found : α → Found) : Except Cause α → Cause
  | .ok a => .wrongType (found a) wanted
  | .error cause => cause

/-- A value of the wrong kind is named in the fault, if it could be read at all. -/
theorem misfit_of_yields {x : Except Fault (α × List Char)} {rest : List Char} {o : Except Cause α}
    (h : Yields x rest o) (wanted : String) (found : α → Found) :
    ∃ unread, misfit wanted found x = ⟨misfitCause wanted found o, unread⟩ := by
  cases o with
  | ok a =>
    rw [show x = .ok (a, rest) from h]
    exact ⟨_, rfl⟩
  | error cause =>
    obtain ⟨unread, rfl⟩ := h
    exact ⟨unread, rfl⟩

/-- A value is refused, wherever it stands. -/
def Refused (wanted : String) (text : List Char) (cause : Cause) : Prop :=
  ∀ rest, Ends rest → ∃ unread, wrongType wanted (text ++ rest) = ⟨cause, unread⟩

/-- A number is refused, wherever it stands, with one and the same cause. -/
theorem exists_refused_number (h : IsNumber text) (wanted : String) :
    ∃ cause, Refused wanted text cause := by
  obtain ⟨sign, whole, fraction, exponent, hsign, hwhole, hfraction, hexponent, rfl⟩ := h
  obtain ⟨o, -, hnumber⟩ := number_yields hwhole hfraction hexponent (sign = [])
  refine ⟨misfitCause wanted Number.found o, fun rest hrest => ?_⟩
  obtain ⟨unread, hmisfit⟩ := misfit_of_yields (hnumber rest hrest) wanted Number.found
  refine ⟨unread, Eq.trans ?_ hmisfit⟩
  -- the verdict is told by the first character, which is the sign or a digit
  obtain ⟨c, cs, rfl⟩ := List.exists_cons_of_ne_nil hwhole.1.1
  have hdigit := hwhole.1.2 c (List.mem_cons_self ..)
  rcases hsign with rfl | rfl
  · simp only [List.nil_append, List.cons_append, List.append_assoc, decide_true]
    rw [wrongType]
    · rw [digitValue?_of_isDigit hdigit, Option.isSome_some, if_pos rfl]
      cases number true _ <;> rfl
    all_goals
      intro heq
      subst heq
      exact absurd hdigit (by decide)
  · simp only [List.nil_append, List.cons_append, List.append_assoc, List.cons_ne_nil, decide_false]
    rw [wrongType]
    cases number false _ <;> rfl

/-- Every value is refused where it is not wanted. -/
theorem exists_refused (h : IsValue text) (wanted : String) :
    ∃ cause, Refused wanted text cause := by
  cases h with
  | null => exact ⟨_, fun rest _ => ⟨_, rfl⟩⟩
  | @boolean value =>
    cases value with
    | true => exact ⟨_, fun rest _ => ⟨_, rfl⟩⟩
    | false => exact ⟨_, fun rest _ => ⟨_, rfl⟩⟩
  | number h => exact exists_refused_number h wanted
  | @string inside h =>
    obtain ⟨o, -, hyields⟩ := exists_understood h
    refine ⟨misfitCause wanted (fun cs => .string (String.ofList cs)) o, fun rest _ => ?_⟩
    obtain ⟨unread, hmisfit⟩ :=
      misfit_of_yields (hyields rest) wanted fun cs => .string (String.ofList cs)
    refine ⟨unread, Eq.trans ?_ hmisfit⟩
    simp only [List.cons_append, List.append_assoc, List.nil_append]
    rw [wrongType]
    cases string _ <;> rfl
  | list _ _ => exact ⟨_, fun rest _ => ⟨_, rfl⟩⟩
  | object h _ _ =>
    obtain ⟨parts, inside, -, -, rfl⟩ := h
    exact ⟨_, fun rest _ => ⟨_, rfl⟩⟩

/-- A reader that wants something else refuses the value. -/
theorem Refused.reads {wanted : String} {cause : Cause} (h : Refused wanted text cause)
    {r : Reader α}
    (hr : ∀ b rest, Blank b → r (b ++ (text ++ rest)) = .error (wrongType wanted (text ++ rest))) :
    Reads r text (.error cause) := by
  intro b rest hb hrest
  obtain ⟨unread, hwrong⟩ := h rest hrest
  exact ⟨unread, by rw [hr b rest hb, hwrong]⟩

/-! ## Readers -/

/-- With a reader for strings every value has an outcome. -/
theorem settles_stringFor (wanted : String) : Settles (stringFor wanted) := by
  intro text h
  obtain ⟨cause, hrefused⟩ := exists_refused h wanted
  obtain ⟨c, cs, rfl, hspace, ⟨inside, hinside, htext⟩ | hc, -, -⟩ := h.first
  · obtain ⟨o, -, hyields⟩ := exists_understood hinside
    refine ⟨o >>= fun cs => .ok (String.ofList cs), fun b rest hb _ => ?_⟩
    rw [htext]
    simp only [stringFor, List.cons_append, List.append_assoc, List.nil_append]
    rw [blanks_append_cons hb (by decide)]
    exact (hyields rest).bind fun cs => rfl
  · refine ⟨_, hrefused.reads fun b rest hb => ?_⟩
    rw [stringFor, List.cons_append, blanks_append_cons hb hspace]
    split
    · next heq => exact absurd (List.cons.inj heq).1 hc
    · rfl

theorem settles_numeric (wanted : String) (convert : Number → Option α) :
    Settles (numeric wanted convert) := by
  intro text h
  obtain ⟨cause, hrefused⟩ := exists_refused h wanted
  obtain ⟨c, cs, rfl, hspace, -, hnumber | hc, -⟩ := h.first
  · obtain ⟨o, -, hreads⟩ := hnumber.outcome
    exact ⟨_, hreads α wanted convert⟩
  · refine ⟨_, hrefused.reads fun b rest hb => ?_⟩
    rw [numeric, List.cons_append, blanks_append_cons hb hspace]
    split
    · next heq => exact absurd (Or.inl (List.cons.inj heq).1) hc
    · rw [List.head?_cons]
      simp only [digitValue?_of_not_isDigit fun hdigit => hc (.inr hdigit)]
      rfl

/-- What may be left out may also be `null`. -/
theorem reads_optional_null {r : Reader α} : Reads (optional r) nullText (.ok none) := by
  intro b rest hb _
  show optional r _ = _
  simp only [optional, nullText, List.cons_append, List.nil_append]
  rw [blanks_append_cons hb (by decide)]
  simp [word, bind, Except.bind]

/-- What does not start like `null` is read as the reader reads it. -/
theorem reads_optional {r : Reader α} {c : Char} {cs : List Char} {o : Except Cause α}
    (hreads : Reads r (c :: cs) o) (hspace : isSpace c = false) (hc : c ≠ 'n') :
    Reads (optional r) (c :: cs) (o.map some) := by
  intro b rest hb hrest
  have hvalue : Yields (r (c :: cs ++ rest) >>= fun p => .ok (some p.1, p.2)) rest
      (o >>= fun a => .ok (some a)) :=
    (hreads [] rest blank_nil hrest).bind fun a => rfl
  rw [optional, List.cons_append, blanks_append_cons hb hspace]
  split
  · next heq => exact absurd (List.cons.inj heq).1 hc
  · cases o with
    | ok a => exact hvalue
    | error cause => exact hvalue

theorem reads_optional_string {r : Reader α} {s : String} {a : α} (hreads : Reads r text (.ok a))
    (h : IsString s text) : Reads (optional r) text (.ok (some a)) := by
  obtain ⟨inside, -, rfl⟩ := h
  exact reads_optional hreads (by decide) (by decide)

theorem reads_optional_natural {r : Reader α} {n : Nat} {a : α} (hreads : Reads r text (.ok a))
    (h : IsNatural n text) : Reads (optional r) text (.ok (some a)) := by
  obtain ⟨c, cs, rfl⟩ := List.exists_cons_of_ne_nil h.1.1.1
  have hc := h.1.1.2 c (List.mem_cons_self ..)
  refine reads_optional hreads hc.isSpace ?_
  rintro rfl
  exact absurd hc (by decide)

/-- Accepting `null` as well, a reader still has an outcome for every value. -/
theorem settles_optional {r : Reader α} (hr : Settles r) : Settles (optional r) := by
  intro text h
  obtain ⟨o, hreads⟩ := hr text h
  obtain ⟨c, cs, rfl, hspace, -, -, hnull | hc⟩ := h.first
  · exact ⟨_, hnull ▸ reads_optional_null⟩
  · exact ⟨_, reads_optional hreads hspace hc⟩

/-! ## Members -/

/-- What is read is put into the record. -/
theorem reads_put {τ : Type} {r : Reader α} {o : Except Cause α} (h : Reads r text o)
    (required : Bool) (name : String) (put : τ → α → τ) (value : τ) :
    Reads ((Field.of required name r put).read value) text (o.map (put value)) := h.map (put value)

theorem settles_of {τ : Type} {r : Reader α} (hr : Settles r) (required : Bool) (name : String)
    (put : τ → α → τ) (value : τ) : Settles ((Field.of required name r put).read value) := by
  intro text h
  obtain ⟨o, hreads⟩ := hr text h
  exact ⟨_, reads_put hreads required name put value⟩

end TunnelHost.Json
