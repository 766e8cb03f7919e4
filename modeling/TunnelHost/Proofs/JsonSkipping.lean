import TunnelHost.Proofs.JsonReading

/-!
# Skipping what nobody asked for

A value of any kind and any depth is passed over to its very end. Skipping keeps the open brackets
in a list and takes fuel, which never runs out: every turn makes the text shorter.

- `skipNumber_of_isNumber`: numbers of any size.
- `Leads`: skipping gets from one place to another, with whatever fuel is enough for the first.
- `Skips`, `skips_of_isValue`: from before a value to after it, by induction on the value.
- `skipValue_of_isValue`: a value is skipped.
-/

namespace TunnelHost.Json

/-! ## Numbers -/

/-- What is skipped after the last digit of the whole part and of the fraction. -/
def skipTail : List Char → Except Fault (List Char)
  | 'e' :: rest => skipExponent rest
  | 'E' :: rest => skipExponent rest
  | rest => .ok rest

theorem exists_map_of_isDigits {ds : List Char} (h : IsDigits ds) :
    ∃ d vs, ds.map (fun c => c.toNat - 0x30) = d :: vs := by
  cases ds with
  | nil => exact absurd rfl h.1
  | cons c cs => exact ⟨_, _, rfl⟩

/-- The sign of an exponent is taken in, if there is one. -/
theorem exponentSign_append {sign ds : List Char} (hsign : sign = [] ∨ sign = ['+'] ∨ sign = ['-'])
    (hds : IsDigits ds) :
    ∃ upward, ∀ rest, exponentSign (sign ++ (ds ++ rest)) = (upward, ds ++ rest) := by
  rcases hsign with rfl | rfl | rfl
  · refine ⟨true, fun rest => ?_⟩
    cases ds with
    | nil => exact absurd rfl hds.1
    | cons c cs =>
      have hc := hds.2 c (List.mem_cons_self ..)
      rw [List.nil_append, List.cons_append, exponentSign.eq_def]
      split
      · exact absurd hc (by simp_all [IsDigit])
      · exact absurd hc (by simp_all [IsDigit])
      · rfl
  · exact ⟨true, fun rest => rfl⟩
  · exact ⟨false, fun rest => rfl⟩

theorem skipExponent_append {sign ds rest : List Char}
    (hsign : sign = [] ∨ sign = ['+'] ∨ sign = ['-']) (hds : IsDigits ds) (hrest : Ends rest) :
    skipExponent (sign ++ (ds ++ rest)) = .ok rest := by
  obtain ⟨upward, hafter⟩ := exponentSign_append hsign hds
  obtain ⟨d, vs, hvs⟩ := exists_map_of_isDigits hds
  simp only [skipExponent, hafter, leadingDigits_append hds.2 hrest.not_isDigit, hvs]

/-- What comes after the digits is passed over. -/
theorem skipTail_append {exponent rest : List Char} (h : IsExponent exponent) (hrest : Ends rest) :
    skipTail (exponent ++ rest) = .ok rest := by
  rcases h with rfl | ⟨letter, sign, ds, hletter, hsign, hds, rfl⟩
  · rw [List.nil_append, skipTail.eq_def]
    split
    · exact absurd (hrest 'e' rfl) (by decide)
    · exact absurd (hrest 'E' rfl) (by decide)
    · rfl
  · rw [List.cons_append, List.append_assoc]
    rcases hletter with rfl | rfl
    · exact skipExponent_append hsign hds hrest
    · exact skipExponent_append hsign hds hrest

/-- Neither the tail of a number nor what follows the number starts with a digit or a point. -/
theorem not_isDigit_tail {exponent rest : List Char} (h : IsExponent exponent) (hrest : Ends rest) :
    ∀ c ∈ (exponent ++ rest).head?, ¬ IsDigit c ∧ c ≠ '.' := by
  intro c hc
  rcases h with rfl | ⟨letter, sign, ds, hletter, -, -, rfl⟩
  · refine ⟨hrest.not_isDigit c hc, ?_⟩
    rintro rfl
    exact absurd (hrest '.' hc) (by decide)
  · cases hc
    rcases hletter with rfl | rfl
    · exact ⟨by decide, by decide⟩
    · exact ⟨by decide, by decide⟩

/-- The digits before a point end there. -/
theorem not_isDigit_point (cs : List Char) : ∀ c ∈ ('.' :: cs).head?, ¬ IsDigit c := by
  rintro c ⟨⟩
  decide

/-- The whole part of a number is passed over. -/
theorem skipNumber_whole {whole tail : List Char} (h : IsInteger whole)
    (htail : ∀ c ∈ tail.head?, ¬ IsDigit c ∧ c ≠ '.') :
    skipNumber (whole ++ tail) = skipTail tail := by
  -- no zero stands in front of other digits, which skipping would refuse
  obtain ⟨d, vs, hvs, hzero⟩ := h.exists_map
  rw [skipNumber, leadingDigits_append h.1.2 fun c hc => (htail c hc).1, hvs]
  split
  · next heq => simp at heq
  · next heq =>
    simp only [Prod.mk.injEq, List.cons.injEq] at heq
    simp [hzero heq.1.1] at heq
  · next heq =>
    simp only [Prod.mk.injEq] at heq
    exact absurd rfl (htail '.' (by rw [heq.2]; rfl)).2
  · next heq =>
    simp only [Prod.mk.injEq] at heq
    rw [heq.2, skipTail]
  · next heq =>
    simp only [Prod.mk.injEq] at heq
    rw [heq.2, skipTail]
  · next hsmall hlarge heq =>
    simp only [Prod.mk.injEq] at heq
    rw [heq.2, skipTail]
    · rintro rest rfl
      exact hsmall rest rfl
    · rintro rest rfl
      exact hlarge rest rfl

/-- So is the fraction. -/
theorem skipNumber_point {whole ds tail : List Char} (h : IsInteger whole) (hds : IsDigits ds)
    (htail : ∀ c ∈ tail.head?, ¬ IsDigit c) :
    skipNumber (whole ++ '.' :: (ds ++ tail)) = skipTail tail := by
  obtain ⟨d, vs, hvs, hzero⟩ := h.exists_map
  obtain ⟨d', vs', hvs'⟩ := exists_map_of_isDigits hds
  rw [skipNumber, leadingDigits_append h.1.2 (not_isDigit_point (ds ++ tail)), hvs]
  split
  · next heq => simp at heq
  · next heq =>
    simp only [Prod.mk.injEq, List.cons.injEq] at heq
    simp [hzero heq.1.1] at heq
  · next heq =>
    simp only [Prod.mk.injEq, List.cons.injEq] at heq
    rw [← heq.2.2, leadingDigits_append hds.2 htail, hvs', skipTail.eq_def]
    split
    all_goals simp_all
  · next heq => simp at heq
  · next heq => simp at heq
  · next hpoint _ _ heq =>
    simp only [Prod.mk.injEq] at heq
    exact absurd heq.2.symm (hpoint _)

/-- A number after its sign is skipped, of whatever size it is. -/
theorem skipNumber_unsigned {whole fraction exponent rest : List Char} (hwhole : IsInteger whole)
    (hfraction : IsFraction fraction) (hexponent : IsExponent exponent) (hrest : Ends rest) :
    skipNumber (whole ++ (fraction ++ (exponent ++ rest))) = .ok rest := by
  have htail := not_isDigit_tail hexponent hrest
  rcases hfraction with rfl | ⟨ds, hds, rfl⟩
  · rw [List.nil_append, skipNumber_whole hwhole htail, skipTail_append hexponent hrest]
  · rw [List.cons_append,
      skipNumber_point hwhole hds fun c hc => (htail c hc).1, skipTail_append hexponent hrest]

/-! ## Places -/

/-- How far skipping has come: what comes next, what is open, and what is left of the text. -/
structure Place where
  awaited : Awaited
  opened : List Bracket
  left : List Char

/-- Skipping gets from one place to another: the text left gives fuel enough for the first, and
what then remains of it is enough for the second. -/
def Leads (p q : Place) : Prop :=
  ∀ fuel, p.left.length < fuel → ∃ fuel', q.left.length < fuel'
    ∧ skipFrom fuel p.awaited p.opened p.left = skipFrom fuel' q.awaited q.opened q.left

theorem Leads.trans {p q r : Place} (hpq : Leads p q) (hqr : Leads q r) : Leads p r := by
  intro fuel hfuel
  obtain ⟨fuel', hfuel', hfirst⟩ := hpq fuel hfuel
  obtain ⟨fuel'', hfuel'', hsecond⟩ := hqr fuel' hfuel'
  exact ⟨fuel'', hfuel'', hfirst.trans hsecond⟩

/-- One turn of the loop leads from place to place, if it takes something of the text. -/
theorem leads_of_turn {p q : Place} (hshorter : q.left.length < p.left.length)
    (hturn : ∀ fuel, skipFrom (fuel + 1) p.awaited p.opened p.left
      = skipFrom fuel q.awaited q.opened q.left) : Leads p q := by
  intro fuel hfuel
  cases fuel with
  | zero => omega
  | succ fuel => exact ⟨fuel, by omega, hturn fuel⟩

/-- A text is skipped as a value: from before it, and before any white space in front of it, to
right after it, whatever is open. -/
def Skips (text : List Char) : Prop :=
  ∀ opened b rest, Blank b → Ends rest →
    Leads ⟨.value, opened, b ++ (text ++ rest)⟩ ⟨.delimiter, opened, rest⟩

/-! ## Values without parts -/

theorem skips_null : Skips nullText := by
  intro opened b rest hb _
  refine leads_of_turn (by simp [nullText]; omega) fun fuel => ?_
  simp only [skipFrom, nullText, List.cons_append, List.nil_append]
  rw [blanks_append_cons hb (by decide)]
  simp [word, bind, Except.bind]

theorem skips_boolean (value : Bool) : Skips (booleanText value) := by
  intro opened b rest hb _
  cases value with
  | true =>
    refine leads_of_turn (by simp [booleanText]; omega) fun fuel => ?_
    simp only [skipFrom, booleanText, List.cons_append, List.nil_append]
    rw [blanks_append_cons hb (by decide)]
    simp [word, bind, Except.bind]
  | false =>
    refine leads_of_turn (by simp [booleanText]; omega) fun fuel => ?_
    simp only [skipFrom, booleanText, List.cons_append, List.nil_append]
    rw [blanks_append_cons hb (by decide)]
    simp [word, bind, Except.bind]

/-- A string is skipped. -/
theorem skips_string {inside : List Char} (h : Quotable inside) :
    Skips ('"' :: (inside ++ ['"'])) := by
  intro opened b rest hb _
  refine leads_of_turn (by simp; omega) fun fuel => ?_
  simp only [skipFrom, List.cons_append, List.append_assoc, List.nil_append]
  rw [blanks_append_cons hb (by decide)]
  simp [skipString_of_quotable h, bind, Except.bind]

/-- A number is skipped, with its fraction and its exponent. -/
theorem skips_number {text : List Char} (h : IsNumber text) : Skips text := by
  intro opened b rest hb hrest
  obtain ⟨sign, whole, fraction, exponent, hsign, hwhole, hfraction, hexponent, rfl⟩ := h
  have hnumber := skipNumber_unsigned hwhole hfraction hexponent hrest
  cases whole with
  | nil => exact absurd rfl hwhole.1.1
  | cons c cs =>
    have hc := hwhole.1.2 c (List.mem_cons_self ..)
    have hvalue := digitValue?_of_isDigit hc
    refine leads_of_turn (by simp; omega) fun fuel => ?_
    rcases hsign with rfl | rfl
    · simp only [skipFrom, List.nil_append, List.cons_append, List.append_assoc]
        at hnumber ⊢
      rw [blanks_append_cons hb hc.isSpace]
      split
      all_goals simp_all [IsDigit, bind, Except.bind]
    · simp only [skipFrom, List.nil_append, List.cons_append, List.append_assoc]
        at hnumber ⊢
      rw [blanks_append_cons hb (by decide)]
      simp [hnumber, bind, Except.bind]

/-! ## Lists and objects -/

theorem Parted.starts {t inside : List Char} {ts : List (List Char)} (h : Parted (t :: ts) inside) :
    ∃ b tail, Blank b ∧ inside = b ++ (t ++ tail) := by
  cases h with
  | one hb _ => exact ⟨_, _, hb, rfl⟩
  | more hb _ _ => exact ⟨_, _, hb, rfl⟩

/-- No value starts like the end of a list, or with white space. -/
theorem IsValue.starts {text : List Char} (h : IsValue text) :
    ∃ c cs, text = c :: cs ∧ isSpace c = false ∧ c ≠ ']' := by
  cases h with
  | null => exact ⟨_, _, rfl, by decide, by decide⟩
  | @boolean value =>
    cases value with
    | true => exact ⟨_, _, rfl, by decide, by decide⟩
    | false => exact ⟨_, _, rfl, by decide, by decide⟩
  | number h =>
    -- a sign or a digit
    obtain ⟨sign, whole, fraction, exponent, hsign, hwhole, -, -, rfl⟩ := h
    rcases hsign with rfl | rfl
    · cases whole with
      | nil => exact absurd rfl hwhole.1.1
      | cons c cs =>
        have hc := hwhole.1.2 c (List.mem_cons_self ..)
        refine ⟨c, _, rfl, hc.isSpace, ?_⟩
        rintro rfl
        exact absurd hc (by decide)
    · exact ⟨_, _, rfl, by decide, by decide⟩
  | string _ => exact ⟨_, _, rfl, by decide, by decide⟩
  | list _ _ => exact ⟨_, _, rfl, by decide, by decide⟩
  | object h _ _ =>
    obtain ⟨parts, inside, -, -, rfl⟩ := h
    exact ⟨_, _, rfl, by decide, by decide⟩

theorem leads_end_of_list {opened : List Bracket} {b rest : List Char} (hb : Blank b) :
    Leads ⟨.delimiter, .list :: opened, b ++ ']' :: rest⟩ ⟨.delimiter, opened, rest⟩ := by
  refine leads_of_turn (by simp; omega) fun fuel => ?_
  simp only [skipFrom]
  rw [blanks_append_cons hb (by decide)]
  rfl

/-- A comma leads to the next item of the list. -/
theorem leads_comma_of_list {opened : List Bracket} {b rest : List Char} (hb : Blank b) :
    Leads ⟨.delimiter, .list :: opened, b ++ ',' :: rest⟩ ⟨.value, .list :: opened, rest⟩ := by
  refine leads_of_turn (by simp; omega) fun fuel => ?_
  simp only [skipFrom]
  rw [blanks_append_cons hb (by decide)]
  rfl

/-- From before the first element to after the bracket that ends the list. -/
theorem leads_of_parted {t inside : List Char} {ts : List (List Char)}
    (h : Parted (t :: ts) inside) (hskips : ∀ u ∈ t :: ts, Skips u) (opened : List Bracket)
    (rest : List Char) :
    Leads ⟨.value, .list :: opened, inside ++ ']' :: rest⟩ ⟨.delimiter, opened, rest⟩ := by
  induction ts generalizing t inside with
  | nil =>
    cases h with
    | one hb hb' =>
      have hhead := hskips t (List.mem_cons_self ..) (.list :: opened) _ _ hb
        (ends_append hb' (ends_bracket rest))
      simp only [List.append_assoc]
      exact hhead.trans (leads_end_of_list hb')
  | cons u ts ih =>
    cases h with
    | @more _ _ _ _ text _ hb hb' hmore =>
      have hhead := hskips t (List.mem_cons_self ..) (.list :: opened) _ _ hb
        (ends_append hb' (ends_comma (text ++ ']' :: rest)))
      have htail := ih hmore fun v hv => hskips v (List.mem_cons_of_mem _ hv)
      simp only [List.append_assoc, List.cons_append]
      exact hhead.trans ((leads_comma_of_list hb').trans htail)

/-- A list is skipped if each of its items is. -/
theorem skips_list {ts : List (List Char)} {inside : List Char} (h : Parted ts inside)
    (hvalues : ∀ t ∈ ts, IsValue t) (hskips : ∀ t ∈ ts, Skips t) :
    Skips ('[' :: (inside ++ [']'])) := by
  intro opened b rest hb _
  cases ts with
  | nil =>
    cases h with
    | none hb' =>
      refine leads_of_turn (by simp; omega) fun fuel => ?_
      simp only [skipFrom, List.cons_append, List.append_assoc, List.nil_append]
      rw [blanks_append_cons hb (by decide)]
      simp only [blanks_append_cons hb' (show isSpace ']' = false by decide)]
  | cons t ts =>
    obtain ⟨b', tail, hb', hinside⟩ := h.starts
    obtain ⟨c, cs, rfl, hspace, hbracket⟩ := (hvalues t (List.mem_cons_self ..)).starts
    -- the bracket opens the list, and its first item does not begin with a closing one
    have hopen : Leads ⟨.value, opened, b ++ ('[' :: (inside ++ [']']) ++ rest)⟩
        ⟨.value, .list :: opened, inside ++ ']' :: rest⟩ := by
      refine leads_of_turn (by simp; omega) fun fuel => ?_
      simp only [skipFrom, List.cons_append, List.append_assoc, List.nil_append]
      rw [blanks_append_cons hb (by decide)]
      simp only [hinside, List.append_assoc, List.cons_append, blanks_append hb',
        blanks_cons hspace]
      split
      all_goals simp_all
    exact hopen.trans (leads_of_parted h hskips opened rest)

theorem leads_end_of_object {opened : List Bracket} {b rest : List Char} (hb : Blank b) :
    Leads ⟨.delimiter, .object :: opened, b ++ '\x7d' :: rest⟩ ⟨.delimiter, opened, rest⟩ := by
  refine leads_of_turn (by simp; omega) fun fuel => ?_
  simp only [skipFrom]
  rw [blanks_append_cons hb (by decide)]
  rfl

/-- A comma leads to the next value of the object, past its key. -/
theorem leads_comma_of_object {opened : List Bracket} {b cs rest : List Char} (hb : Blank b)
    (hkey : skipKey cs = .ok rest) (hshorter : rest.length < cs.length) :
    Leads ⟨.delimiter, .object :: opened, b ++ ',' :: cs⟩ ⟨.value, .object :: opened, rest⟩ := by
  refine leads_of_turn (by simp; omega) fun fuel => ?_
  simp only [skipFrom]
  rw [blanks_append_cons hb (by decide)]
  simp [hkey, bind, Except.bind]

/-- A key and its colon are skipped, up to the white space before the value. -/
theorem skipKey_append {m : List Char × List Char} {part b : List Char} (hb : Blank b)
    (hm : MemberText m part) (hkey : Quotable m.1) (rest : List Char) :
    ∃ b', Blank b' ∧ skipKey (b ++ (part ++ rest)) = .ok (b' ++ (m.2 ++ rest))
      ∧ (b' ++ (m.2 ++ rest)).length < (b ++ (part ++ rest)).length := by
  obtain ⟨b₁, b₂, hb₁, hb₂, rfl⟩ := hm
  refine ⟨b₂, hb₂, ?_, by simp; omega⟩
  simp only [skipKey, List.cons_append, List.append_assoc]
  rw [blanks_append_cons hb (by decide)]
  simp [skipString_of_quotable hkey, colon_append hb₁, bind, Except.bind]

/-- From after the first key to after the brace that ends the object. -/
theorem leads_of_members {m : List Char × List Char} {ms : List (List Char × List Char)}
    {parts : List (List Char)} {inside : List Char} (h : Parted parts inside)
    (hparts : List.Forall₂ MemberText (m :: ms) parts) (hkeys : ∀ n ∈ m :: ms, Quotable n.1)
    (hskips : ∀ n ∈ m :: ms, Skips n.2) (opened : List Bracket) (rest : List Char) :
    ∃ cs, skipKey (inside ++ '\x7d' :: rest) = .ok cs
      ∧ cs.length < (inside ++ '\x7d' :: rest).length
      ∧ Leads ⟨.value, .object :: opened, cs⟩ ⟨.delimiter, opened, rest⟩ := by
  -- the key is skipped in the turn that reads the brace or the comma before it, so the induction
  -- starts behind a key and takes the next one along
  induction ms generalizing m parts inside with
  | nil =>
    obtain ⟨part, _, hm, hnil, rfl⟩ := List.forall₂_cons_left_iff.mp hparts
    cases hnil
    cases h with
    | @one _ b b' hb hb' =>
      obtain ⟨b₂, hb₂, hkey, hshorter⟩ :=
        skipKey_append hb hm (hkeys m (List.mem_cons_self ..)) (b' ++ '\x7d' :: rest)
      have hvalue := hskips m (List.mem_cons_self ..) (.object :: opened) _ _ hb₂
        (ends_append hb' (ends_brace rest))
      simp only [List.append_assoc]
      exact ⟨_, hkey, hshorter, hvalue.trans (leads_end_of_object hb')⟩
  | cons n ms ih =>
    obtain ⟨part, _, hm, htail, rfl⟩ := List.forall₂_cons_left_iff.mp hparts
    obtain ⟨part', _, _, _, rfl⟩ := List.forall₂_cons_left_iff.mp htail
    cases h with
    | @more _ _ b b' text _ hb hb' hmore =>
      obtain ⟨cs, hnext, hshorter', hafter⟩ := ih hmore htail
        (fun k hk => hkeys k (List.mem_cons_of_mem _ hk))
        (fun k hk => hskips k (List.mem_cons_of_mem _ hk))
      obtain ⟨b₂, hb₂, hkey, hshorter⟩ := skipKey_append hb hm (hkeys m (List.mem_cons_self ..))
        (b' ++ ',' :: (text ++ '\x7d' :: rest))
      have hvalue := hskips m (List.mem_cons_self ..) (.object :: opened) _ _ hb₂
        (ends_append hb' (ends_comma (text ++ '\x7d' :: rest)))
      simp only [List.append_assoc, List.cons_append]
      exact ⟨_, hkey, hshorter,
        hvalue.trans ((leads_comma_of_object hb' hnext hshorter').trans hafter)⟩

/-- An object is skipped if the value of each of its members is. -/
theorem skips_object {ms : List (List Char × List Char)} {text : List Char}
    (h : ObjectText ms text) (hkeys : ∀ m ∈ ms, Quotable m.1) (hskips : ∀ m ∈ ms, Skips m.2) :
    Skips text := by
  obtain ⟨parts, inside, hparts, hinside, rfl⟩ := h
  intro opened b rest hb _
  cases ms with
  | nil =>
    cases hparts
    cases hinside with
    | none hb' =>
      refine leads_of_turn (by simp; omega) fun fuel => ?_
      simp only [skipFrom, List.cons_append, List.append_assoc, List.nil_append]
      rw [blanks_append_cons hb (by decide)]
      simp only [blanks_append_cons hb' (show isSpace '\x7d' = false by decide)]
  | cons m ms =>
    obtain ⟨cs, hkey, hshorter, hmembers⟩ :=
      leads_of_members hinside hparts hkeys hskips opened rest
    obtain ⟨part, _, hm, -, rfl⟩ := List.forall₂_cons_left_iff.mp hparts
    obtain ⟨b', tail, hb', hstarts⟩ := hinside.starts
    obtain ⟨b₁, b₂, -, -, rfl⟩ := hm
    -- the brace opens the object, and the quotation mark of its first key comes next
    have hopen : Leads ⟨.value, opened, b ++ ('\x7b' :: (inside ++ ['\x7d']) ++ rest)⟩
        ⟨.value, .object :: opened, cs⟩ := by
      refine leads_of_turn (by simp at hshorter ⊢; omega) fun fuel => ?_
      simp only [skipFrom, List.cons_append, List.append_assoc, List.nil_append]
      rw [blanks_append_cons hb (by decide)]
      have hfirst : ∃ cs', blanks (inside ++ '\x7d' :: rest) = '"' :: cs' := by
        rw [hstarts, List.append_assoc, blanks_append hb', List.cons_append, List.cons_append,
          blanks_cons (by decide)]
        exact ⟨_, rfl⟩
      obtain ⟨cs', hfirst⟩ := hfirst
      simp [hfirst, hkey, bind, Except.bind]
    exact hopen.trans hmembers

/-- A value of any kind and depth is skipped to its end. -/
theorem skips_of_isValue {text : List Char} (h : IsValue text) : Skips text := by
  induction h with
  | null => exact skips_null
  | boolean => exact skips_boolean _
  | number h => exact skips_number h
  | string h => exact skips_string h
  | list h hvalues ih => exact skips_list h hvalues ih
  | object h hkeys _ ih => exact skips_object h hkeys ih

/-- **Every value of the grammar is skipped**, and nothing beyond it. -/
theorem skipValue_of_isValue {text b rest : List Char} (h : IsValue text) (hb : Blank b)
    (hrest : Ends rest) : skipValue (b ++ (text ++ rest)) = .ok rest := by
  obtain ⟨fuel, -, hskip⟩ := skips_of_isValue h [] b rest hb hrest _ (Nat.lt_succ_self _)
  rw [skipValue, hskip, skipFrom_closed]

end TunnelHost.Json
