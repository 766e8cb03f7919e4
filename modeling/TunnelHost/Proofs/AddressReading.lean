import Mathlib.Tactic.SplitIfs
import TunnelHost.Proofs.AddressGrammar
import TunnelHost.Proofs.Numerals

/-!
# Reading addresses and networks

The readers take what the grammar describes, in the dialect that they are given, and nothing else.
A reader of a part stops where the part cannot go on, so something is said of what follows it.

- `NoDigit`, `Stops`: what follows a numeral, and what follows the groups of an address.
- `octets?_eq_some_iff`: four octets.
- `groupRun_sound`, `groupRun_of_groups`: groups in a row, as many as there are.
- `groups?_sound`, `groups?_of_isEight`: the eight groups of an address.
- `ofChars?_eq_some_iff`: an address that stands alone.
- `Network.ofChars?_eq_some_iff`: an entry of a list is read as what the grammar says it is.
-/

namespace TunnelHost.Address

variable {d : Dialect} {base most limit count n v : Nat} {c : Char} {cs t rest : List Char}
  {ts : List (List Char)} {ds ns : List Nat} {quad first : Bool}

/-! ## Numerals -/

/-- The values that are read of characters are those of the grammar. -/
theorem digitValue?_eq_some_iff : Numeral.digitValue? base c = some v ↔ IsDigit base c v := by
  simp only [Numeral.digitValue?, Option.filter_eq_some_iff, decide_eq_true_eq, Bool.and_eq_true,
    IsDigit, Json.IsHexDigit]
  split_ifs with hdecimal hlower hupper
  · simp only [Option.some.injEq]
    omega
  · simp only [Option.some.injEq]
    omega
  · simp only [Option.some.injEq]
    omega
  · simp only [false_and, false_iff]
    omega

/-- No digit of the base follows. -/
def NoDigit (base : Nat) (rest : List Char) : Prop := ∀ c ∈ rest.head?, ∀ v, ¬ IsDigit base c v

theorem digitValue?_eq_none (h : ∀ v, ¬ IsDigit base c v) : Numeral.digitValue? base c = none := by
  rw [Option.eq_none_iff_forall_not_mem]
  exact fun v hv => h v (digitValue?_eq_some_iff.mp hv)

theorem NoDigit.nil : NoDigit base [] := fun _ hc => nomatch hc

theorem NoDigit.cons (h : ∀ v, ¬ IsDigit base c v) : NoDigit base (c :: rest) := by
  rintro c ⟨⟩
  exact h

/-- A digit of a smaller base is one of a greater base. -/
theorem NoDigit.of_le {base' : Nat} (h : NoDigit base rest) (hle : base' ≤ base) :
    NoDigit base' rest :=
  fun c hc v hv => h c hc v ⟨Nat.lt_of_lt_of_le hv.1 hle, hv.2⟩

/-- The digits in front of something else are read in full, and no more than those. -/
theorem leadingDigits_append (ht : List.Forall₂ (IsDigit base) t ds) (hrest : NoDigit base rest) :
    Numeral.leadingDigits base (t ++ rest) = (ds, rest) :=
  Numeral.leadingDigits_append (ht.imp fun _ _ => digitValue?_eq_some_iff.mpr) fun c hc =>
    digitValue?_eq_none (hrest c hc)

/-- Of any text the longest run of digits is taken, and no digit is left in front. -/
theorem leadingDigits_split (base : Nat) (cs : List Char) :
    ∃ t, cs = t ++ (Numeral.leadingDigits base cs).2
      ∧ List.Forall₂ (IsDigit base) t (Numeral.leadingDigits base cs).1
      ∧ NoDigit base (Numeral.leadingDigits base cs).2 := by
  induction cs with
  | nil => exact ⟨[], rfl, .nil, .nil⟩
  | cons c cs ih =>
    rw [Numeral.leadingDigits]
    cases hc : Numeral.digitValue? base c with
    | none =>
      refine ⟨[], rfl, .nil, .cons fun v hv => ?_⟩
      rw [digitValue?_eq_some_iff.mpr hv] at hc
      cases hc
    | some v =>
      obtain ⟨t, hcs, ht, hrest⟩ := ih
      exact ⟨c :: t, congrArg (c :: ·) hcs, .cons (digitValue?_eq_some_iff.mp hc) ht, hrest⟩

/-- What becomes of some digits, once it is known where they end. -/
theorem number?_append (ht : List.Forall₂ (IsDigit base) t ds) (hrest : NoDigit base rest) :
    number? base most limit (t ++ rest) =
      if t ≠ [] ∧ t.length ≤ most ∧ Numeral.ofDigits base ds < limit
      then some (Numeral.ofDigits base ds, rest) else none := by
  rw [number?, anyNumber?, leadingDigits_append ht hrest, ← ht.length_eq]
  by_cases hmost : most < t.length
  · rw [if_pos hmost, if_neg fun h => by omega]
  · rw [if_neg hmost]
    cases ht with
    | nil => simp
    | cons _ _ =>
      rw [List.length_cons, Nat.not_lt] at hmost
      simp [hmost]

/-- **Numerals are read as they are written**: what is read is a numeral below the limit that no
digit follows. -/
theorem number?_eq_some_iff : number? base most limit cs = some (n, rest) ↔
    ∃ t, cs = t ++ rest ∧ IsNumeral base most t n ∧ n < limit ∧ NoDigit base rest := by
  constructor
  · intro h
    obtain ⟨t, hcs, ht, hrest⟩ := leadingDigits_split base cs
    rw [hcs, number?_append ht hrest] at h
    split_ifs at h with hparts
    simp only [Option.some.injEq, Prod.mk.injEq] at h
    obtain ⟨rfl, hsame⟩ := h
    rw [hsame] at hcs hrest
    exact ⟨t, hcs, ⟨hparts.1, hparts.2.1, _, ht, rfl⟩, hparts.2.2, hrest⟩
  · rintro ⟨t, rfl, ⟨hne, hmost, ds, ht, rfl⟩, hlimit, hrest⟩
    rw [number?_append ht hrest, if_pos ⟨hne, hmost, hlimit⟩]

/-! ## Octets -/

/-- Looking at the digits in front tells whether the numeral is padded. -/
theorem startsPadded_append (ht : List.Forall₂ (IsDigit 10) t ds) (hrest : NoDigit 10 rest) :
    startsPadded (t ++ rest) = true ↔ Padded t := by
  rw [startsPadded, leadingDigits_append ht hrest]
  constructor
  · intro h
    obtain _ | @⟨c, v, _, _, hc, _ | @⟨c', v', t, _, _, _⟩⟩ := ht
    · cases h
    · cases v with
      | zero => cases h
      | succ v => cases h
    · cases v with
      | zero => exact ⟨c', t, by rw [hc.eq_zero_iff.mp rfl]⟩
      | succ v => cases h
  · rintro ⟨c, cs, rfl⟩
    obtain _ | ⟨hzero, _ | _⟩ := ht
    rw [hzero.eq_zero_iff.mpr rfl]
    rfl

/-- What is read as an octet is one, and no digit follows it. -/
theorem octet?_eq_some_iff : octet? d cs = some (n, rest) ↔
    ∃ t, cs = t ++ rest ∧ IsOctet d t n ∧ NoDigit 10 rest := by
  rw [octet?]
  constructor
  · intro h
    split_ifs at h with hpadded
    obtain ⟨t, rfl, ht, hlt, hrest⟩ := number?_eq_some_iff.mp h
    obtain ⟨-, -, ds, hds, -⟩ := id ht
    refine ⟨t, rfl, ⟨ht, hlt, fun hd hpad => hpadded ?_⟩, hrest⟩
    rw [hd, (startsPadded_append hds hrest).mpr hpad]
    rfl
  · rintro ⟨t, rfl, ht, hrest⟩
    obtain ⟨-, -, ds, hds, -⟩ := id ht.numeral
    rw [if_neg, number?_eq_some_iff]
    · exact ⟨t, rfl, ht.numeral, ht.lt, hrest⟩
    · simp only [Bool.and_eq_true, Bool.not_eq_true', startsPadded_append hds hrest]
      exact fun h => ht.plain h.1 h.2

theorem mark?_eq_some_iff {mark : Char} : mark? mark cs = some rest ↔ cs = mark :: rest := by
  cases cs with
  | nil => simp [mark?]
  | cons c cs =>
    rw [mark?]
    split_ifs with hc
    · simp [hc]
    · simp [hc]

theorem noDigit_dot : NoDigit 10 ('.' :: rest) :=
  .cons fun _ h => absurd h.bounds.2.1 (by decide)

/-- Octets that follow others: by induction along the octets, each of which ends where the dot of
the next one stands. -/
theorem octetsAfter?_eq_some_iff :
    octetsAfter? d count cs = some (ns, rest) ∧ NoDigit 10 cs ↔
      ∃ ts, cs = ts.flatMap ('.' :: ·) ++ rest ∧ ts.length = count
        ∧ List.Forall₂ (IsOctet d) ts ns ∧ NoDigit 10 rest := by
  -- by induction on the number of octets that are still to come, each after a dot
  induction count generalizing cs ns with
  | zero =>
    simp only [octetsAfter?, Option.some.injEq, Prod.mk.injEq, List.length_eq_zero_iff]
    constructor
    · rintro ⟨⟨rfl, rfl⟩, hrest⟩
      exact ⟨[], rfl, rfl, .nil, hrest⟩
    · rintro ⟨ts, rfl, rfl, hts, hrest⟩
      cases hts
      exact ⟨⟨rfl, rfl⟩, hrest⟩
  | succ count ih =>
    simp only [octetsAfter?, Option.bind_eq_bind, Option.bind_eq_some_iff, Prod.exists,
      Option.some.injEq, Prod.mk.injEq]
    constructor
    · rintro ⟨⟨start, hstart, n, next, hn, ms, rest', hms, rfl, rfl⟩, -⟩
      obtain ⟨t, rfl, ht, hnext⟩ := octet?_eq_some_iff.mp hn
      obtain ⟨ts, rfl, rfl, hts, hrest⟩ := ih.mp ⟨hms, hnext⟩
      refine ⟨t :: ts, ?_, rfl, .cons ht hts, hrest⟩
      rw [mark?_eq_some_iff.mp hstart, List.flatMap_cons, List.append_assoc, List.cons_append]
    · rintro ⟨ts, rfl, hcount, hts, hrest⟩
      cases hts with
      | nil => cases hcount
      | @cons t n ts ms ht hts =>
        rw [List.length_cons, Nat.add_right_cancel_iff] at hcount
        obtain ⟨hms, hnext⟩ := ih.mpr ⟨ts, rfl, hcount, hts, hrest⟩
        refine ⟨⟨_, mark?_eq_some_iff.mpr ?_, n, _, octet?_eq_some_iff.mpr ⟨t, rfl, ht, hnext⟩, ms,
          rest, hms, rfl, rfl⟩, ?_⟩
        · rw [List.flatMap_cons, List.append_assoc, List.cons_append]
        · rw [List.flatMap_cons]
          exact noDigit_dot

/-- What is read as four octets are four octets, and no digit follows. -/
theorem octets?_eq_some_iff : octets? d cs = some (ns, rest) ↔
    ∃ t, cs = t ++ rest ∧ IsQuad d t ns ∧ NoDigit 10 rest := by
  simp only [octets?, Option.bind_eq_bind, Option.bind_eq_some_iff, Prod.exists,
    Option.some.injEq, Prod.mk.injEq]
  constructor
  · rintro ⟨n, next, hn, ms, rest', hms, rfl, rfl⟩
    obtain ⟨t, rfl, ht, hnext⟩ := octet?_eq_some_iff.mp hn
    obtain ⟨ts, rfl, hcount, hts, hrest⟩ := octetsAfter?_eq_some_iff.mp ⟨hms, hnext⟩
    refine ⟨Ip.joinWith '.' (t :: ts), ?_, ⟨t :: ts, ?_, .cons ht hts, rfl⟩, hrest⟩
    · rw [joinWith_cons, List.append_assoc]
    · rw [List.length_cons, hcount]
  · rintro ⟨_, rfl, ⟨ts, hcount, hts, rfl⟩, hrest⟩
    cases hts with
    | nil => cases hcount
    | @cons t n ts ms ht hts =>
      rw [List.length_cons, Nat.add_right_cancel_iff] at hcount
      obtain ⟨hms, hnext⟩ := octetsAfter?_eq_some_iff.mpr ⟨ts, rfl, hcount, hts, hrest⟩
      rw [joinWith_cons, List.append_assoc]
      exact ⟨n, _, octet?_eq_some_iff.mpr ⟨t, rfl, ht, hnext⟩, ms, rest, hms, rfl, rfl⟩

/-- Four octets begin with a digit. -/
theorem octets?_eq_none_of_noDigit (h : NoDigit 10 cs) : octets? d cs = none := by
  rw [Option.eq_none_iff_forall_not_mem]
  rintro ⟨ns, rest⟩ hread
  obtain ⟨t, rfl, ⟨ts, hcount, hts, rfl⟩, -⟩ := octets?_eq_some_iff.mp hread
  cases hts with
  | nil => cases hcount
  | @cons t n ts ms ht hts =>
    cases t with
    | nil => exact ht.numeral.1 rfl
    | cons c t =>
      obtain ⟨v, hv⟩ := ht.numeral.digits c (List.mem_cons_self ..)
      rw [joinWith_cons] at h
      exact h c rfl v hv

/-- Digits without a dot right after them are no octets. -/
theorem octets?_eq_none_of_digits (ht : ∀ c ∈ t, ∃ v, IsDigit 16 c v)
    (hrest : ∀ c ∈ rest.head?, c ≠ '.' ∧ ∀ v, ¬ IsDigit 16 c v) : octets? d (t ++ rest) = none := by
  rw [Option.eq_none_iff_forall_not_mem]
  rintro ⟨ns, rest'⟩ hread
  obtain ⟨t', heq, ⟨ts, hcount, hts, rfl⟩, -⟩ := octets?_eq_some_iff.mp hread
  obtain _ | @⟨o, n, _, _, ho, _ | @⟨o', _, ts, _, -, -⟩⟩ := hts
  · cases hcount
  · cases hcount
  rw [joinWith_cons, List.flatMap_cons, List.append_assoc, List.cons_append,
    List.cons_append] at heq
  -- the dot after the first octet is among the digits, or it follows them
  rcases List.append_eq_append_iff.mp heq with ⟨mid, rfl, hmid⟩ | ⟨mid, rfl, hmid⟩
  · cases mid with
    | nil =>
      rw [List.nil_append] at hmid
      exact (hrest '.' (by rw [hmid]; rfl)).1 rfl
    | cons c mid =>
      obtain ⟨v, hv⟩ := ho.numeral.digits c (List.mem_append_right t (List.mem_cons_self ..))
      exact (hrest c (by rw [hmid]; rfl)).2 v ⟨Nat.lt_of_lt_of_le hv.1 (by decide), hv.2⟩
  · cases mid with
    | nil =>
      rw [List.nil_append] at hmid
      exact (hrest '.' (by rw [← hmid]; rfl)).1 rfl
    | cons c mid =>
      rw [List.cons_append, List.cons.injEq] at hmid
      obtain ⟨v, hv⟩ := ht c (List.mem_append_right o (List.mem_cons_self ..))
      rw [← hmid.1] at hv
      exact absurd hv.bounds.2.1 (by decide)

/-! ## Groups in a row -/

theorem IsGroup.lt (h : IsGroup t n) : n < Nat.pow 2 16 := by
  obtain ⟨-, hmost, ds, hds, rfl⟩ := h
  have hlt : ∀ v ∈ ds, v < 16 := by
    intro v hv
    obtain ⟨c, -, hc⟩ := forall₂_mem_right hds hv
    exact hc.1
  calc Numeral.ofDigits 16 ds < 16 ^ ds.length := Numeral.ofDigits_lt (by decide) hlt
    _ ≤ 16 ^ 4 := Nat.pow_le_pow_right (by decide) (hds.length_eq ▸ hmost)

/-- What follows groups that cannot go on. After a single colon another group would. -/
structure Stops (rest : List Char) : Prop where
  sign : ∀ c ∈ rest.head?, c ≠ '.' ∧ ∀ v, ¬ IsDigit 16 c v
  colon : ∀ tail, rest = ':' :: tail → NoDigit 16 tail

theorem Stops.noDigit (h : Stops rest) : NoDigit 16 rest := fun c hc => (h.sign c hc).2

theorem Stops.of_not_isSign (h : ∀ c ∈ rest.head?, ¬ IsSign c) : Stops rest where
  sign c hc := ⟨fun hdot => h c hc (Or.inr (Or.inl hdot)), fun v hv => h c hc hv.isSign⟩
  colon tail hrest := absurd (Or.inr (Or.inr rfl)) (h ':' (by rw [hrest]; rfl))

theorem not_isDigit_colon : ¬ IsDigit base ':' v := fun h => h.bounds.2.2.2 rfl

/-- Groups stop in front of the gap. -/
theorem stops_gap : Stops (':' :: ':' :: rest) where
  sign c hc := by
    cases hc
    exact ⟨by decide, fun _ => not_isDigit_colon⟩
  colon tail hrest := by
    cases hrest
    exact .cons fun _ => not_isDigit_colon

/-- Groups as they stand in a text: the first of them at once, or after a colon as well. -/
def lead (first : Bool) (ts : List (List Char)) : List Char :=
  if first then Ip.joinWith ':' ts else ts.flatMap (':' :: ·)

theorem lead_nil : lead first [] = [] := by
  cases first with
  | true => rfl
  | false => rfl

theorem lead_cons : lead first (t :: ts) ++ rest =
    if first then t ++ (lead false ts ++ rest) else ':' :: (t ++ (lead false ts ++ rest)) := by
  cases first with
  | true => simp [lead, joinWith_cons]
  | false => simp [lead]

theorem groupStart?_eq_some_iff {start : List Char} : groupStart? first cs = some start ↔
    cs = if first then start else ':' :: start := by
  cases first with
  | true => simp [groupStart?]
  | false => exact mark?_eq_some_iff

/-- What follows a group neither goes on with it nor makes octets of it. -/
theorem sign_lead (hrest : Stops rest) :
    ∀ c ∈ (lead false ts ++ rest).head?, c ≠ '.' ∧ ∀ v, ¬ IsDigit 16 c v := by
  cases ts with
  | nil => exact hrest.sign
  | cons t ts =>
    intro c hc
    cases hc
    exact ⟨by decide, fun _ => not_isDigit_colon⟩

/-- A run of groups is in the grammar, whatever it stops at: by induction on the groups that may
come, with one case for each way in which the run goes on or ends. -/
theorem groupRun_sound (d : Dialect) (most : Nat) (first : Bool) (cs : List Char) :
    ∃ ts, Groups d ts (groupRun d most first cs).groups (groupRun d most first cs).octetsLast
      ∧ (groupRun d most first cs).groups.length ≤ most
      ∧ cs = lead first ts ++ (groupRun d most first cs).rest := by
  -- by induction on the room that is left, along the reader
  induction most generalizing first cs with
  | zero => exact ⟨[], .nil, Nat.le_refl 0, by rw [lead_nil]; rfl⟩
  | succ most ih =>
    rw [groupRun]
    cases hstart : groupStart? first cs with
    | none => exact ⟨[], .nil, Nat.zero_le _, by rw [lead_nil]; rfl⟩
    | some start =>
      have hcs := groupStart?_eq_some_iff.mp hstart
      dsimp only
      split
      · next ns rest hoctets =>
        split_ifs at hoctets with hmost
        obtain ⟨t, rfl, ht, -⟩ := octets?_eq_some_iff.mp hoctets
        -- four octets end the run, since nothing is read after them
        refine ⟨[t], .quad ht, ?_, ?_⟩
        · show 2 ≤ most + 1
          omega
        · rw [lead_cons]
          exact hcs
      · cases hnumber : number? 16 4 (Nat.pow 2 16) start with
        | none => exact ⟨[], .nil, Nat.zero_le _, by rw [lead_nil]; rfl⟩
        | some reading =>
          obtain ⟨n, rest⟩ := reading
          obtain ⟨t, rfl, ht, -, -⟩ := number?_eq_some_iff.mp hnumber
          obtain ⟨ts, hgroups, hlength, hrest⟩ := ih false rest
          refine ⟨t :: ts, .cons ht hgroups, Nat.succ_le_succ hlength, ?_⟩
          rw [lead_cons, ← hrest]
          exact hcs

theorem groupRun_of_stops (hrest : Stops rest) :
    groupRun d most first rest = ⟨[], false, rest⟩ := by
  cases most with
  | zero => rfl
  | succ most =>
    rw [groupRun]
    cases hstart : groupStart? first rest with
    | none => rfl
    | some start =>
      -- what stops a run begins no group, behind a colon neither
      have hnone : NoDigit 16 start := by
        cases first with
        | true =>
          cases hstart
          exact hrest.noDigit
        | false => exact hrest.colon start (groupStart?_eq_some_iff.mp hstart)
      have hnumber : number? 16 4 (Nat.pow 2 16) start = none := number?_append .nil hnone
      dsimp only
      rw [octets?_eq_none_of_noDigit (hnone.of_le (by decide)), ite_self, hnumber]

/-- Groups in a row are read as far as they go, if there is room for all of them. -/
theorem groupRun_of_groups (h : Groups d ts ns quad) (hmost : ns.length ≤ most)
    (hrest : Stops rest) : groupRun d most first (lead first ts ++ rest) = ⟨ns, quad, rest⟩ := by
  induction h generalizing most first with
  | nil =>
    rw [lead_nil]
    exact groupRun_of_stops hrest
  | @quad t ns ht =>
    obtain _ | most := most
    · cases hmost
    -- octets take the room of two groups, so there is room for them
    have hroom : 1 ≤ most := Nat.le_of_succ_le_succ hmost
    have hoctets : octets? d (t ++ (lead false [] ++ rest)) = some (ns, rest) :=
      octets?_eq_some_iff.mpr ⟨t, rfl, ht, hrest.noDigit.of_le (by decide)⟩
    rw [groupRun, groupStart?_eq_some_iff.mpr lead_cons]
    simp only [if_pos hroom, hoctets]
    rfl
  | @cons t n ts ns quad ht _ ih =>
    obtain _ | most := most
    · cases hmost
    have hnext : ∀ c ∈ (lead false ts ++ rest).head?, c ≠ '.' ∧ ∀ v, ¬ IsDigit 16 c v :=
      sign_lead hrest
    -- a group is tried as octets first, which it is not as no dot follows it
    have hoctets : octets? d (t ++ (lead false ts ++ rest)) = none :=
      octets?_eq_none_of_digits ht.digits hnext
    have hnumber : number? 16 4 (Nat.pow 2 16) (t ++ (lead false ts ++ rest)) =
        some (n, lead false ts ++ rest) :=
      number?_eq_some_iff.mpr ⟨t, rfl, ht, ht.lt, fun c hc => (hnext c hc).2⟩
    rw [groupRun, groupStart?_eq_some_iff.mpr lead_cons]
    dsimp only
    rw [hoctets, ite_self, hnumber]
    dsimp only
    rw [ih (Nat.le_of_succ_le_succ hmost)]

/-! ## Eight groups -/

/-- As many groups as may follow `::` are as many as may stand beside it. -/
theorem le_mostBeside {m : Nat} (hn : n < 8) :
    m ≤ (if d.emptyGap then 8 - n else 8 - n - 1) ↔ n + m ≤ mostBeside d := by
  rw [mostBeside]
  split_ifs
  · omega
  · omega

/-- What is read as groups is eight of them in the grammar. -/
theorem groups?_sound (h : groups? d cs = some (ns, rest)) :
    ∃ t, cs = t ++ rest ∧ IsEight d t ns := by
  obtain ⟨ts, hts, hmost, hcs⟩ := groupRun_sound d 8 true cs
  rw [groups?] at h
  dsimp only at h
  by_cases hfull : (groupRun d 8 true cs).groups.length = 8
  · rw [if_pos hfull] at h
    cases h
    exact ⟨Ip.joinWith ':' ts, hcs, .full hts hfull⟩
  · rw [if_neg hfull] at h
    cases hquad : (groupRun d 8 true cs).octetsLast with
    | true =>
      -- octets end the address, so no gap can follow them
      rw [if_pos hquad] at h
      cases h
    | false =>
      rw [hquad] at hts
      rw [if_neg (by rw [hquad]; decide)] at h
      simp only [Option.bind_eq_bind, Option.bind_eq_some_iff] at h
      obtain ⟨after, hafter, gap, hgap, h⟩ := h
      cases h
      have hfront := Nat.lt_of_le_of_ne hmost hfull
      obtain ⟨us, hus, hroom, hrest⟩ := groupRun_sound d _ true gap
      refine ⟨_, ?_, .gap hts hus hfront ((le_mostBeside hfront).mp hroom)⟩
      rw [List.append_assoc, List.cons_append, List.cons_append]
      calc cs = Ip.joinWith ':' ts ++ (groupRun d 8 true cs).rest := hcs
        _ = Ip.joinWith ':' ts ++ ':' :: ':' :: gap := by
          rw [mark?_eq_some_iff.mp hafter, mark?_eq_some_iff.mp hgap]
        _ = _ := congrArg (fun tail => Ip.joinWith ':' ts ++ ':' :: ':' :: tail) hrest

/-- Eight groups are read, however they are written. -/
theorem groups?_of_isEight (h : IsEight d t ns) (hrest : Stops rest) :
    groups? d (t ++ rest) = some (ns, rest) := by
  cases h with
  | @full ts _ quad hts hfull =>
    have hrun : groupRun d 8 true (Ip.joinWith ':' ts ++ rest) = ⟨ns, quad, rest⟩ :=
      groupRun_of_groups hts (Nat.le_of_eq hfull) hrest
    rw [groups?, hrun]
    exact if_pos hfull
  | @gap ts us ns ms quad hts hus hfront hmost =>
    -- `::` stops the run in front of the gap, and the second run starts behind it
    have hhead : groupRun d 8 true
        (Ip.joinWith ':' ts ++ ':' :: ':' :: (Ip.joinWith ':' us ++ rest)) = ⟨ns, false, _⟩ :=
      groupRun_of_groups hts (Nat.le_of_lt hfront) stops_gap
    have htail : groupRun d (if d.emptyGap then 8 - ns.length else 8 - ns.length - 1) true
        (Ip.joinWith ':' us ++ rest) = ⟨ms, quad, rest⟩ :=
      groupRun_of_groups hus ((le_mostBeside hfront).mpr hmost) hrest
    rw [groups?, List.append_assoc, List.cons_append, List.cons_append, hhead]
    dsimp only
    rw [if_neg (Nat.ne_of_lt hfront), if_neg Bool.false_ne_true]
    show some (ns ++ List.replicate (8 - ns.length - (groupRun d _ true _).groups.length) 0 ++
      (groupRun d _ true _).groups, (groupRun d _ true _).rest) = _
    rw [htail]

/-- An address of the sixth version does not start like one of the fourth. -/
theorem octets?_eq_none_of_isEight {d' : Dialect} (h : IsEight d t ns) :
    octets? d' (t ++ rest) = none := by
  have hcolon (tail : List Char) :
      ∀ c ∈ (':' :: tail).head?, c ≠ '.' ∧ ∀ v, ¬ IsDigit 16 c v := by
    rintro c ⟨⟩
    exact ⟨by decide, fun _ => not_isDigit_colon⟩
  cases h with
  | full hts hfull =>
    -- there are eight groups, so that the first of them is no octets and has a colon after it
    obtain _ | _ | ⟨ht, hts⟩ := hts
    · cases hfull
    · cases hfull
    · obtain _ | _ | _ := hts
      · cases hfull
      · cases hfull
      · rw [joinWith_cons, List.append_assoc]
        exact octets?_eq_none_of_digits ht.digits (hcolon _)
  | gap hts _ _ _ =>
    rw [List.append_assoc]
    obtain _ | _ | ⟨ht, hts⟩ := hts
    · exact octets?_eq_none_of_noDigit (.cons fun _ => not_isDigit_colon)
    · rw [joinWith_cons, List.append_assoc]
      refine octets?_eq_none_of_digits ht.digits ?_
      cases ‹List (List Char)› with
      | nil => exact hcolon _
      | cons _ _ => exact hcolon _

/-! ## Addresses -/

/-- What is read as an address of version 4 is four octets that no digit follows. -/
theorem ip4?_eq_some_iff {a : Ip4} : ip4? d cs = some (a, rest) ↔
    ∃ t, cs = t ++ rest ∧ (∃ ns, IsQuad d t ns ∧ Ip.ofOctets ns = a) ∧ NoDigit 10 rest := by
  simp only [ip4?, Option.bind_eq_bind, Option.bind_eq_some_iff, Prod.exists, Option.some.injEq,
    Prod.mk.injEq, octets?_eq_some_iff]
  constructor
  · rintro ⟨ns, _, ⟨t, rfl, ht, hrest⟩, ha, rfl⟩
    exact ⟨t, rfl, ⟨ns, ht, ha⟩, hrest⟩
  · rintro ⟨t, rfl, ⟨ns, ht, ha⟩, hrest⟩
    exact ⟨ns, rest, ⟨t, rfl, ht, hrest⟩, ha, rfl⟩

theorem ip4?_eq_none (h : octets? d cs = none) : ip4? d cs = none := by
  rw [ip4?, h]
  rfl

/-- What is read as an address of version 6 is one. -/
theorem ip6?_sound {a : Ip6} (h : ip6? d cs = some (a, rest)) :
    ∃ t, cs = t ++ rest ∧ IsAddress d t (.v6 a) := by
  simp only [ip6?, Option.bind_eq_bind, Option.bind_eq_some_iff, Prod.exists, Option.some.injEq,
    Prod.mk.injEq] at h
  obtain ⟨ns, _, hgroups, rfl, rfl⟩ := h
  obtain ⟨t, hcs, ht⟩ := groups?_sound hgroups
  exact ⟨t, hcs, .v6 ht⟩

/-- Eight groups in front of a stop are read as the address that they stand for. -/
theorem ip6?_of_isEight (h : IsEight d t ns) (hrest : Stops rest) :
    ip6? d (t ++ rest) = some (Ip.ofGroups ns, rest) := by
  rw [ip6?, groups?_of_isEight h hrest]
  rfl

/-- What is read as an address is one in the grammar. -/
theorem ip?_sound {a : Ip} (h : ip? d cs = some (a, rest)) :
    ∃ t, cs = t ++ rest ∧ IsAddress d t a := by
  rw [ip?] at h
  cases h4 : ip4? d cs with
  | some reading =>
    rw [h4] at h
    cases h
    obtain ⟨t, hcs, ⟨ns, ht, ha⟩, -⟩ := ip4?_eq_some_iff.mp h4
    exact ⟨t, hcs, ha ▸ .v4 ht⟩
  | none =>
    rw [h4] at h
    obtain ⟨⟨b, rest'⟩, h6, hsame⟩ := Option.map_eq_some_iff.mp h
    cases hsame
    exact ip6?_sound h6

/-- An address in front of a stop is read, whatever its version: a text of version 6 cannot be
mistaken for four octets. -/
theorem ip?_of_isAddress {a : Ip} (h : IsAddress d t a) (hrest : Stops rest) :
    ip? d (t ++ rest) = some (a, rest) := by
  rw [ip?]
  cases h with
  | v4 ht =>
    rw [ip4?_eq_some_iff.mpr ⟨t, rfl, ⟨_, ht, rfl⟩, hrest.noDigit.of_le (by decide)⟩]
  | v6 ht =>
    rw [ip4?_eq_none (octets?_eq_none_of_isEight ht), ip6?_of_isEight ht hrest]
    rfl

/-- A whole text is read if nothing of it is left over. -/
theorem whole?_eq_some_iff {α : Type} {reading : Option (α × List Char)} {a : α} :
    whole? reading = some a ↔ reading = some (a, []) := by
  rcases reading with _ | ⟨b, _ | _⟩
  · simp [whole?]
  · simp [whole?]
  · simp [whole?]

theorem stops_nil : Stops [] := .of_not_isSign fun _ hc => nomatch hc

/-- The addresses that stand alone are those of the strict dialect. -/
theorem ofChars?_eq_some_iff {a : Ip} : ofChars? cs = some a ↔ IsAddress strict cs a := by
  rw [ofChars?, whole?_eq_some_iff]
  constructor
  · intro h
    obtain ⟨t, rfl, ht⟩ := ip?_sound h
    rw [List.append_nil]
    exact ht
  · intro h
    have hread := ip?_of_isAddress h stops_nil
    rwa [List.append_nil] at hread

end TunnelHost.Address

namespace TunnelHost.Network

open Address

variable {cs rest : List Char} {digits most : Nat}

/-! ## Networks -/

theorem stops_slash : Stops ('/' :: rest) := by
  refine .of_not_isSign ?_
  rintro c ⟨⟩ h
  exact h.ne_slash rfl

theorem length?_eq_some_iff {n : Fin (most + 1)} : length? digits most cs = some n ↔
    ∃ l, cs = '/' :: l ∧ IsNumeral 10 digits l n.val := by
  simp only [length?, Option.bind_eq_bind, Option.bind_eq_some_iff, whole?_eq_some_iff,
    mark?_eq_some_iff, number?_eq_some_iff, List.append_nil]
  constructor
  · rintro ⟨l, rfl, m, ⟨_, rfl, hl, hm, -⟩, h⟩
    rw [dif_pos hm] at h
    cases h
    exact ⟨l, rfl, hl⟩
  · rintro ⟨l, rfl, hl⟩
    exact ⟨l, rfl, n.val, ⟨l, rfl, hl, n.isLt, .nil⟩, dif_pos n.isLt⟩

theorem explicit?_sound {net : Network} (h : explicit? cs = some net) :
    ∃ t l, cs = t ++ '/' :: l ∧ IsAddress loose t net.address
      ∧ IsNumeral 10 (lengthDigits net.address) l net.length := by
  rw [explicit?] at h
  -- the second reader is only asked where the first one fails
  cases h4 : ip4? loose cs with
  | some reading =>
    obtain ⟨a, rest⟩ := reading
    rw [h4] at h
    obtain ⟨n, hlength, rfl⟩ := Option.map_eq_some_iff.mp h
    obtain ⟨t, rfl, ⟨ns, ht, rfl⟩, -⟩ := ip4?_eq_some_iff.mp h4
    obtain ⟨l, rfl, hl⟩ := length?_eq_some_iff.mp hlength
    exact ⟨t, l, rfl, .v4 ht, hl⟩
  | none =>
    rw [h4] at h
    simp only [Option.bind_eq_bind, Option.bind_eq_some_iff, Prod.exists, Option.some.injEq] at h
    obtain ⟨a, rest, h6, n, hlength, rfl⟩ := h
    obtain ⟨t, rfl, ht⟩ := ip6?_sound h6
    obtain ⟨l, rfl, hl⟩ := length?_eq_some_iff.mp hlength
    exact ⟨t, l, rfl, ht, hl⟩

theorem explicit?_of_isAddress {net : Network} {t l : List Char}
    (ht : IsAddress loose t net.address)
    (hl : IsNumeral 10 (lengthDigits net.address) l net.length) :
    explicit? (t ++ '/' :: l) = some net := by
  rw [explicit?]
  cases net with
  | v4 a n =>
    cases ht with
    | v4 ht =>
      have hread : ip4? loose (t ++ '/' :: l) = some (_, '/' :: l) :=
        ip4?_eq_some_iff.mpr ⟨t, rfl, ⟨_, ht, rfl⟩, stops_slash.noDigit.of_le (by decide)⟩
      have hlength : length? 2 32 ('/' :: l) = some n := length?_eq_some_iff.mpr ⟨l, rfl, hl⟩
      rw [hread]
      dsimp only
      rw [hlength]
      rfl
  | v6 a n =>
    cases ht with
    | v6 ht =>
      have hlength : length? 3 128 ('/' :: l) = some n := length?_eq_some_iff.mpr ⟨l, rfl, hl⟩
      -- version 4 is tried first, and does not match
      rw [ip4?_eq_none (octets?_eq_none_of_isEight ht), ip6?_of_isEight ht stops_slash]
      show (length? 3 128 ('/' :: l)).bind _ = _
      rw [hlength]
      rfl

/-- Without a slash there is no prefix length. -/
theorem explicit?_eq_none (h : '/' ∉ cs) : explicit? cs = none := by
  rw [Option.eq_none_iff_forall_not_mem]
  intro net hnet
  obtain ⟨t, l, rfl, -, -⟩ := explicit?_sound hnet
  exact h (List.mem_append_right t (List.mem_cons_self ..))

theorem length_le_width (net : Network) : net.length ≤ width net.address := by
  cases net with
  | v4 a n => exact Nat.le_of_lt_succ n.isLt
  | v6 a n => exact Nat.le_of_lt_succ n.isLt

theorem host_eq_iff {net : Network} {a : Ip} :
    host a = net ↔ net.address = a ∧ net.length = width a := by
  cases a with
  | v4 a =>
    cases net with
    | v4 b n =>
      simp only [host, address, length, width, Network.v4.injEq, Ip.v4.injEq, Fin.ext_iff]
      exact and_congr eq_comm eq_comm
    | v6 b n => simp [host, address]
  | v6 a =>
    cases net with
    | v4 b n => simp [host, address]
    | v6 b n =>
      simp only [host, address, length, width, Network.v6.injEq, Ip.v6.injEq, Fin.ext_iff]
      exact and_congr eq_comm eq_comm

/-- The entries that are read are those of the grammar, and they are read as what they are. -/
theorem ofChars?_eq_some_iff {net : Network} :
    Network.ofChars? cs = some net ↔ IsEntry cs net.address net.length := by
  rw [Network.ofChars?]
  constructor
  · intro h
    cases hexplicit : explicit? cs with
    | some found =>
      rw [hexplicit] at h
      cases h
      obtain ⟨t, l, rfl, ht, hl⟩ := explicit?_sound hexplicit
      exact .explicit ht hl (length_le_width net)
    | none =>
      rw [hexplicit] at h
      obtain ⟨a, ha, hhost⟩ := Option.map_eq_some_iff.mp h
      obtain ⟨rfl, hlength⟩ := host_eq_iff.mp hhost
      rw [hlength]
      exact .bare (Address.ofChars?_eq_some_iff.mp ha)
  · intro h
    -- the entry is told by its parts, so the cases of the grammar need them as variables
    generalize ha : net.address = a at h
    generalize hn : net.length = n at h
    cases h with
    | explicit ht hl _ =>
      subst ha hn
      rw [explicit?_of_isAddress ht hl]
    | bare ht =>
      rw [explicit?_eq_none ht.not_slash_mem, Address.ofChars?_eq_some_iff.mpr ht]
      exact congrArg some (host_eq_iff.mpr ⟨ha, hn⟩)

end TunnelHost.Network
