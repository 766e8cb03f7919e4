import Mathlib.Algebra.Group.Nat.Defs
import TunnelHost.Config.Override
import TunnelHost.Proofs.Blanks
import TunnelHost.Proofs.JsonReading

/-!
# What overrides leave

Overrides are applied in their order up to the first whose text cannot be read. What is left is
described member by member: an override that was applied shows in its member, any other member is
as it was, and the error names the override that could not be read. Applying the same texts again
changes nothing, however the first time ended.

- `IsUnsigned`, `IndexPolicy.SpelledAs`: the texts of numbers and of policies.
- `Override.Readable`, `Override.Shows`, `Override.Keeps`: what a text has to be, where it shows
  once it is applied, and where it does not.
- `Override.FirstUnreadable`, `Override.Applied`: which override ends the matter, and which ones
  come before.
- `Config.override_outcome`: what is left and what is told.
-/

namespace TunnelHost

/-! ## Numbers and policies by their texts -/

/-- The texts of a number without a minus sign: decimal digits, with or without a plus sign in
front of them. Zeros may lead. -/
def IsUnsigned (n : Nat) (cs : List Char) : Prop :=
  ∃ sign ds, (sign = [] ∨ sign = ['+']) ∧ Json.IsDigits ds ∧ cs = sign ++ ds
    ∧ Json.decimalValue ds = n

/-- Nothing is left over only if all are digits. -/
theorem digits_of_leadingDigits {cs : List Char} (h : (Numeral.leadingDigits 10 cs).2 = []) :
    (∀ c ∈ cs, Json.IsDigit c)
      ∧ (Numeral.leadingDigits 10 cs).1 = cs.map fun c => c.toNat - 0x30 := by
  induction cs with
  | nil => exact ⟨List.forall_mem_nil _, rfl⟩
  | cons c cs ih =>
    by_cases hc : Json.IsDigit c
    · simp only [Numeral.leadingDigits, Json.digitValue?_of_isDigit hc] at h ⊢
      obtain ⟨hcs, hvalues⟩ := ih h
      exact ⟨List.forall_mem_cons.mpr ⟨hc, hcs⟩, by rw [hvalues, List.map_cons]⟩
    · simp only [Numeral.leadingDigits, Json.digitValue?_of_not_isDigit hc] at h
      cases h

/-- Both ways of telling a number from its digits agree. -/
theorem ofDigits_map_value (ds : List Char) :
    Numeral.ofDigits 10 (ds.map fun c => c.toNat - 0x30) = Json.decimalValue ds := by
  rw [Numeral.ofDigits, List.foldl_map]
  rfl

/-- The number of digits alone, below a limit. -/
def digits? (limit : Nat) (cs : List Char) : Option Nat :=
  match Numeral.leadingDigits 10 cs with
  | (d :: ds, []) =>
    let n := Numeral.ofDigits 10 (d :: ds)
    if n < limit then some n else none
  | _ => none

/-- Digits alone are read as their number, below the limit. -/
theorem digits?_eq_some_iff {limit n : Nat} {cs : List Char} :
    digits? limit cs = some n ↔ Json.IsDigits cs ∧ Json.decimalValue cs = n ∧ n < limit := by
  constructor
  · intro h
    unfold digits? at h
    split at h
    next d ds htake =>
      obtain ⟨hdigits, hvalues⟩ := digits_of_leadingDigits (congrArg Prod.snd htake)
      rw [htake] at hvalues
      dsimp only at hvalues h
      rw [hvalues, ofDigits_map_value] at h
      -- there was a first digit
      have hne : cs ≠ [] := by
        rintro rfl
        cases hvalues
      split at h
      next hlt =>
        cases h
        exact ⟨⟨hne, hdigits⟩, rfl, hlt⟩
      next => cases h
    next => cases h
  · rintro ⟨⟨hne, hdigits⟩, rfl, hlt⟩
    have htake : Numeral.leadingDigits 10 (cs ++ []) = (cs.map fun c => c.toNat - 0x30, []) :=
      Json.leadingDigits_append hdigits fun c hc => by cases hc
    rw [List.append_nil] at htake
    rw [← ofDigits_map_value] at hlt ⊢
    obtain ⟨d, ds, rfl⟩ := List.exists_cons_of_ne_nil hne
    rw [digits?, htake]
    exact if_pos hlt

theorem numeral?_plus (limit : Nat) (rest : List Char) :
    numeral? limit ('+' :: rest) = digits? limit rest := rfl

theorem numeral?_of_not_plus (limit : Nat) {cs : List Char} (h : ∀ rest, cs ≠ '+' :: rest) :
    numeral? limit cs = digits? limit cs := by
  simp only [numeral?]
  rfl

/-- No digit is a sign. -/
theorem not_plus_of_isDigits {ds : List Char} (hds : Json.IsDigits ds) (rest : List Char) :
    ds ≠ '+' :: rest := by
  rintro rfl
  have hplus := hds.2 '+' List.mem_cons_self
  revert hplus
  unfold Json.IsDigit
  decide

/-- A number is read with a plus sign in front or without one. -/
theorem numeral?_eq_some_iff {limit n : Nat} {cs : List Char} :
    numeral? limit cs = some n ↔ IsUnsigned n cs ∧ n < limit := by
  constructor
  · intro h
    by_cases hplus : ∃ rest, cs = '+' :: rest
    · obtain ⟨rest, rfl⟩ := hplus
      rw [numeral?_plus, digits?_eq_some_iff] at h
      obtain ⟨hdigits, hvalue, hlt⟩ := h
      exact ⟨⟨['+'], rest, .inr rfl, hdigits, rfl, hvalue⟩, hlt⟩
    · rw [numeral?_of_not_plus limit (not_exists.mp hplus), digits?_eq_some_iff] at h
      obtain ⟨hdigits, hvalue, hlt⟩ := h
      exact ⟨⟨[], cs, .inl rfl, hdigits, rfl, hvalue⟩, hlt⟩
  · rintro ⟨⟨sign, ds, hsign, hdigits, rfl, hvalue⟩, hlt⟩
    have hread := digits?_eq_some_iff.mpr ⟨hdigits, hvalue, hlt⟩
    rcases hsign with rfl | rfl
    · rw [List.nil_append, numeral?_of_not_plus limit (not_plus_of_isDigits hdigits)]
      exact hread
    · exact hread

namespace IndexPolicy

/-- The spellings of a policy. -/
def spellings : IndexPolicy → List String
  | any => ["any_i32", "any"]
  | positiveOnly => ["positive_only", "positive"]

/-- A text that names a policy, in any case of its letters and with blanks around it. -/
def SpelledAs (policy : IndexPolicy) (s : String) : Prop :=
  ∃ core, Text.Trims s.toList core ∧ Text.lower (String.ofList core) ∈ policy.spellings

/-- The program compares with the two spellings of a policy. -/
theorem test_iff (policy : IndexPolicy) {short folded : String}
    (h : policy.spellings = [policy.name, short]) :
    (decide (folded = policy.name) || decide (folded = short)) = true
      ↔ folded ∈ policy.spellings := by
  rw [h, Bool.or_eq_true, decide_eq_true_eq, decide_eq_true_eq, List.mem_cons,
    List.mem_singleton]

/-- No spelling names two policies. -/
theorem eq_of_mem_spellings {p q : IndexPolicy} {folded : String} (hp : folded ∈ p.spellings)
    (hq : folded ∈ q.spellings) : p = q := by
  have hall : ∀ s ∈ any.spellings, s ∉ positiveOnly.spellings := by decide
  cases p with
  | any =>
    cases q with
    | any => rfl
    | positiveOnly => exact absurd hq (hall folded hp)
  | positiveOnly =>
    cases q with
    | any => exact absurd hp (hall folded hq)
    | positiveOnly => rfl

/-- A policy is read from its spellings, in any case and with blanks around. -/
theorem ofText?_eq_some_iff {s : String} {policy : IndexPolicy} :
    ofText? s = some policy ↔ policy.SpelledAs s := by
  have hspelled : policy.SpelledAs s ↔ fold s ∈ policy.spellings := by
    constructor
    · rintro ⟨core, hcore, hmem⟩
      rw [← Text.trimChars_eq_iff.mpr hcore] at hmem
      exact hmem
    · intro hmem
      exact ⟨_, Text.trims_trimChars _, hmem⟩
  rw [hspelled, ofText?]
  -- from here on only the folded text matters
  generalize fold s = folded
  by_cases hany : folded ∈ any.spellings
  · rw [if_pos ((test_iff any rfl).mpr hany), Option.some.injEq]
    exact ⟨fun h => h ▸ hany, eq_of_mem_spellings hany⟩
  · rw [if_neg (mt (test_iff any rfl).mp hany)]
    by_cases hpositive : folded ∈ positiveOnly.spellings
    · rw [if_pos ((test_iff positiveOnly rfl).mpr hpositive), Option.some.injEq]
      exact ⟨fun h => h ▸ hpositive, eq_of_mem_spellings hpositive⟩
    · rw [if_neg (mt (test_iff positiveOnly rfl).mp hpositive)]
      cases policy with
      | any => exact ⟨fun h => (by cases h), fun h => absurd h hany⟩
      | positiveOnly => exact ⟨fun h => (by cases h), fun h => absurd h hpositive⟩

end IndexPolicy

/-- A capacity is read from a number with blanks around, if it fits 64 bits. -/
theorem capacity?_eq_some_iff {s : String} {n : UInt64} :
    capacity? s = some n ↔ ∃ core, Text.Trims s.toList core ∧ IsUnsigned n.toNat core := by
  have hcore : (∃ core, Text.Trims s.toList core ∧ IsUnsigned n.toNat core)
      ↔ IsUnsigned n.toNat (Text.trimChars s.toList) := by
    constructor
    · rintro ⟨core, hcore, hn⟩
      rw [Text.trimChars_eq_iff.mpr hcore]
      exact hn
    · intro hn
      exact ⟨_, Text.trims_trimChars _, hn⟩
  rw [hcore, capacity?, Option.map_eq_some_iff]
  constructor
  · rintro ⟨m, hm, rfl⟩
    obtain ⟨hunsigned, hlt⟩ := numeral?_eq_some_iff.mp hm
    rw [UInt64.toNat_ofNat_of_lt' hlt]
    exact hunsigned
  · intro hn
    exact ⟨n.toNat, numeral?_eq_some_iff.mpr ⟨hn, n.toNat_lt⟩, UInt64.ofNat_toNat⟩

/-! ## One override -/

namespace Override

/-- The texts that an override can be read from. The level takes any text. -/
def Readable (s : String) : Override → Prop
  | capacity => ∃ core n, Text.Trims s.toList core ∧ IsUnsigned n core ∧ n < 2 ^ 64
  | policy => ∃ p : IndexPolicy, p.SpelledAs s
  | level => True

/-- The configuration shows the text in the member of the override. -/
def Shows (c : Config) (s : String) : Override → Prop
  | capacity => ∃ core, Text.Trims s.toList core ∧ IsUnsigned c.buffer.capacity.toNat core
  | policy => c.session.policy.SpelledAs s
  | level => c.log.level = s

/-- The member of the override is the same in both configurations. -/
def Keeps (c c' : Config) : Override → Prop
  | capacity => c'.buffer.capacity = c.buffer.capacity
  | policy => c'.session.policy = c.session.policy
  | level => c'.log.level = c.log.level

/-- What is told of a text that an override cannot be read from. -/
def complaint (s : String) : Override → String
  | capacity => "Invalid number: " ++ s
  | policy => "Invalid index policy: " ++ s
  | level => ""

end Override

/-- The members that no override sets are the same in both configurations. -/
structure Config.KeepsRest (c c' : Config) : Prop where
  keepAlive : c'.session.keepAlive = c.session.keepAlive
  format : c'.log.format = c.log.format
  target : c'.log.target = c.log.target

namespace Config

variable {c c' : Config} {s : String} {o : Override}

/-- A text that can be read shows in the member of its override, and changes no other. -/
theorem apply_of_readable (c : Config) (h : o.Readable s) :
    ∃ c', c.apply s o = .ok c' ∧ o.Shows c' s ∧ (∀ q ≠ o, q.Keeps c c') ∧ c.KeepsRest c' := by
  -- each override sets its own member and no other
  cases o with
  | capacity =>
    obtain ⟨core, n, hcore, hn, hlt⟩ := h
    have hword : (UInt64.ofNat n).toNat = n := UInt64.toNat_ofNat_of_lt' hlt
    have hread : capacity? s = some (UInt64.ofNat n) :=
      capacity?_eq_some_iff.mpr ⟨core, hcore, by rw [hword]; exact hn⟩
    refine ⟨{ c with buffer.capacity := UInt64.ofNat n }, ?_, ?_, ?_, ⟨rfl, rfl, rfl⟩⟩
    · simp only [apply, hread]
    · exact capacity?_eq_some_iff.mp hread
    · intro q hq
      cases q with
      | capacity => exact absurd rfl hq
      | policy => rfl
      | level => rfl
  | policy =>
    obtain ⟨p, hp⟩ := h
    refine ⟨{ c with session.policy := p }, ?_, hp, ?_, ⟨rfl, rfl, rfl⟩⟩
    · simp only [apply, IndexPolicy.ofText?_eq_some_iff.mpr hp]
    · intro q hq
      cases q with
      | capacity => rfl
      | policy => exact absurd rfl hq
      | level => rfl
  | level =>
    refine ⟨{ c with log.level := s }, rfl, rfl, ?_, ⟨rfl, rfl, rfl⟩⟩
    intro q hq
    cases q with
    | capacity => rfl
    | policy => rfl
    | level => exact absurd rfl hq

/-- A text that cannot be read is complained of by the name of its variable. -/
theorem apply_of_unreadable (c : Config) (h : ¬ o.Readable s) :
    c.apply s o = .error (.override o.name (o.complaint s)) := by
  cases o with
  | capacity =>
    have hread : capacity? s = none := by
      rw [Option.eq_none_iff_forall_ne_some]
      intro n hn
      obtain ⟨core, hcore, hunsigned⟩ := capacity?_eq_some_iff.mp hn
      refine h ⟨core, n.toNat, hcore, hunsigned, ?_⟩
      exact n.toNat_lt
    rw [apply, hread]
    rfl
  | policy =>
    have hread : IndexPolicy.ofText? s = none := by
      rw [Option.eq_none_iff_forall_ne_some]
      intro p hp
      exact h ⟨p, IndexPolicy.ofText?_eq_some_iff.mp hp⟩
    rw [apply, hread]
    rfl
  | level => exact absurd trivial h

/-- A text that shows already changes nothing. -/
theorem apply_of_shows (h : o.Shows c s) : c.apply s o = .ok c := by
  cases o with
  | capacity => simp only [apply, capacity?_eq_some_iff.mpr h]
  | policy => simp only [apply, IndexPolicy.ofText?_eq_some_iff.mpr h]
  | level =>
    have hlevel : c.log.level = s := h
    rw [apply, ← hlevel]

theorem KeepsRest.trans {c d e : Config} (h : c.KeepsRest d) (h' : d.KeepsRest e) :
    c.KeepsRest e :=
  ⟨h'.keepAlive.trans h.keepAlive, h'.format.trans h.format, h'.target.trans h.target⟩

theorem keeps_trans {c d e : Config} (h : o.Keeps c d) (h' : o.Keeps d e) : o.Keeps c e := by
  cases o with
  | capacity => exact Eq.trans h' h
  | policy => exact Eq.trans h' h
  | level => exact Eq.trans h' h

theorem keeps_refl (c : Config) (o : Override) : o.Keeps c c := by
  cases o with
  | capacity => rfl
  | policy => rfl
  | level => rfl

/-- What a configuration shows in a member, any with the same member shows. -/
theorem shows_of_keeps (h : o.Keeps c c') (hs : o.Shows c s) : o.Shows c' s := by
  cases o with
  | capacity =>
    have hcapacity : c'.buffer.capacity = c.buffer.capacity := h
    rw [Override.Shows, hcapacity]
    exact hs
  | policy =>
    have hpolicy : c'.session.policy = c.session.policy := h
    rw [Override.Shows, hpolicy]
    exact hs
  | level => exact Eq.trans h hs

/-! ## Overrides in a row -/

/-- All overrides of a list that have a text can be read. -/
def Clear (texts : Surroundings) (os : List Override) : Prop :=
  ∀ q ∈ os, ∀ s, texts q.name = some s → q.Readable s

variable {texts : Surroundings}

/-- Overrides that can all be read are applied. -/
theorem applyAll_of_clear {os : List Override} (hnodup : os.Nodup) (hclear : Clear texts os)
    (c : Config) :
    ∃ c', c.applyAll texts os = (c', .ok ()) ∧
      (∀ q ∈ os, ∀ s, texts q.name = some s → q.Shows c' s) ∧
      (∀ q, (q ∈ os → texts q.name = none) → q.Keeps c c') ∧ c.KeepsRest c' := by
  induction os generalizing c with
  | nil => exact ⟨c, rfl, fun q hq => (by cases hq), fun q _ => keeps_refl c q, ⟨rfl, rfl, rfl⟩⟩
  | cons o os ih =>
    obtain ⟨ho, hnodup⟩ := List.nodup_cons.mp hnodup
    obtain ⟨hclearO, hclear⟩ := List.forall_mem_cons.mp hclear
    rw [applyAll]
    cases htext : texts o.name with
    | none =>
      obtain ⟨c', hrun, hshows, hkeeps, hrest⟩ := ih hnodup hclear c
      refine ⟨c', hrun, ?_, ?_, hrest⟩
      · intro q hq s hs
        rcases List.mem_cons.mp hq with rfl | hq
        · rw [htext] at hs
          cases hs
        · exact hshows q hq s hs
      · exact fun q hq => hkeeps q fun hmem => hq (List.mem_cons_of_mem o hmem)
    | some s =>
      obtain ⟨d, happly, hd, hothers, hrestD⟩ := apply_of_readable c (hclearO s htext)
      obtain ⟨c', hrun, hshows, hkeeps, hrest⟩ := ih hnodup hclear d
      refine ⟨c', by simp only [happly, hrun], ?_, ?_, hrestD.trans hrest⟩
      · intro q hq t ht
        rcases List.mem_cons.mp hq with rfl | hq
        -- the rest of the list has other overrides, which keep this member
        · rw [htext] at ht
          cases ht
          exact shows_of_keeps (hkeeps q fun hmem => absurd hmem ho) hd
        · exact hshows q hq t ht
      · intro q hq
        by_cases hqo : q = o
        · subst hqo
          rw [hq List.mem_cons_self] at htext
          cases htext
        · exact keeps_trans (hothers q hqo)
            (hkeeps q fun hmem => hq (List.mem_cons_of_mem o hmem))

/-- Overrides that show already change nothing. -/
theorem applyAll_of_shows {os : List Override}
    (h : ∀ q ∈ os, ∀ s, texts q.name = some s → q.Shows c s) :
    c.applyAll texts os = (c, .ok ()) := by
  induction os with
  | nil => rfl
  | cons o os ih =>
    obtain ⟨ho, hos⟩ := List.forall_mem_cons.mp h
    rw [applyAll]
    cases htext : texts o.name with
    | none => exact ih hos
    | some s =>
      simp only [apply_of_shows (ho s htext)]
      exact ih hos

/-- What follows overrides that are all applied goes on from what they left. -/
theorem applyAll_append {os later : List Override} (h : c.applyAll texts os = (c', .ok ())) :
    c.applyAll texts (os ++ later) = c'.applyAll texts later := by
  induction os generalizing c with
  | nil =>
    cases h
    rfl
  | cons o os ih =>
    rw [List.cons_append, applyAll]
    rw [applyAll] at h
    cases htext : texts o.name with
    | none =>
      rw [htext] at h
      exact ih h
    | some s =>
      rw [htext] at h
      cases happly : c.apply s o with
      | ok d =>
        -- an override that fails ends the run, against `h`
        simp only [happly] at h ⊢
        exact ih h
      | error e =>
        simp only [happly] at h
        cases h

/-- The first text that cannot be read ends it, and what was set before stays set. -/
theorem applyAll_of_unreadable (later : List Override) (c : Config) (htext : texts o.name = some s)
    (h : ¬ o.Readable s) :
    c.applyAll texts (o :: later) = (c, .error (.override o.name (o.complaint s))) := by
  rw [applyAll, htext]
  simp only [apply_of_unreadable c h]

end Config

/-! ## All overrides -/

namespace Override

/-- The overrides that come before an override: first the capacity, then the policy, then the
level. -/
def before : Override → List Override
  | capacity => []
  | policy => [capacity]
  | level => [capacity, policy]

/-- The override cannot be read from its text, and those before it can. -/
structure FirstUnreadable (texts : Surroundings) (o : Override) (s : String) : Prop where
  text : texts o.name = some s
  unreadable : ¬ o.Readable s
  earlier : Config.Clear texts o.before

/-- The override has a text, and neither it nor any before it is one that cannot be read. -/
structure Applied (texts : Surroundings) (o : Override) (s : String) : Prop where
  text : texts o.name = some s
  readable : o.Readable s
  earlier : Config.Clear texts o.before

variable {texts : Surroundings}

theorem exists_all_eq (o : Override) : ∃ later, all = o.before ++ o :: later := by
  cases o with
  | capacity => exact ⟨[policy, level], rfl⟩
  | policy => exact ⟨[level], rfl⟩
  | level => exact ⟨[], rfl⟩

theorem mem_all (o : Override) : o ∈ all := by
  cases o <;> decide

theorem nodup_before (o : Override) : o.before.Nodup := by
  cases o <;> decide

/-- Of two overrides one comes first. -/
theorem before_total (o q : Override) : o ∈ q.before ∨ o = q ∨ q ∈ o.before := by
  cases o <;> cases q <;> decide

/-- What comes before comes before all that follows. -/
theorem before_subset {o q : Override} (h : q ∈ o.before) : ∀ p ∈ q.before, p ∈ o.before := by
  revert h
  cases o <;> cases q <;> decide

/-- Either all overrides can be read or one is the first that cannot. -/
theorem clear_or_firstUnreadable (texts : Surroundings) :
    Config.Clear texts all ∨ ∃ o s, FirstUnreadable texts o s := by
  have hsplit : ∀ o : Override, Config.Clear texts o.before →
      (∀ s, texts o.name = some s → o.Readable s) ∨ ∃ o s, FirstUnreadable texts o s := by
    intro o hearlier
    by_cases h : ∀ s, texts o.name = some s → o.Readable s
    · exact .inl h
    · push Not at h
      obtain ⟨s, hs, hunreadable⟩ := h
      exact .inr ⟨o, s, hs, hunreadable, hearlier⟩
  -- the overrides are tried in their order, and the level is never unreadable
  rcases hsplit capacity (fun q hq => by cases hq) with hcapacity | hfirst
  · rcases hsplit policy (List.forall_mem_singleton.mpr hcapacity) with hpolicy | hfirst
    · refine .inl ?_
      intro q _
      cases q with
      | capacity => exact hcapacity
      | policy => exact hpolicy
      | level => exact fun s _ => trivial
    · exact .inr hfirst
  · exact .inr hfirst

/-- Before the first that cannot be read, and there only, overrides are applied. -/
theorem FirstUnreadable.applied_iff {o q : Override} {s t : String}
    (h : FirstUnreadable texts o s) :
    Applied texts q t ↔ q ∈ o.before ∧ texts q.name = some t := by
  constructor
  · intro hq
    refine ⟨?_, hq.text⟩
    rcases before_total q o with hbefore | rfl | hafter
    · exact hbefore
    · have htext := h.text
      rw [hq.text] at htext
      cases htext
      exact absurd hq.readable h.unreadable
    · exact absurd (hq.earlier o hafter s h.text) h.unreadable
  · rintro ⟨hq, ht⟩
    exact ⟨ht, h.earlier q hq t ht, fun p hp => h.earlier p (before_subset hq p hp)⟩

/-- If all texts can be read, all are applied. -/
theorem applied_iff_of_clear {q : Override} {t : String} (h : Config.Clear texts all) :
    Applied texts q t ↔ texts q.name = some t := by
  constructor
  · exact fun hq => hq.text
  · exact fun ht => ⟨ht, h q (mem_all q) t ht, fun p _ => h p (mem_all p)⟩

end Override

namespace Config

variable {texts : Surroundings}

/-- The overrides that are applied, with what they leave and how the matter ends. -/
theorem exists_applied (c : Config) (texts : Surroundings) :
    ∃ os c', os.Nodup ∧ c.applyAll texts os = (c', .ok ()) ∧ Clear texts os ∧
      (∀ (q : Override) (s : String), q.Applied texts s ↔ q ∈ os ∧ texts q.name = some s) ∧
      ((Clear texts Override.all ∧ ∀ d : Config, d.applyAll texts os = (c', .ok ()) →
          d.override texts = (c', c'.validate)) ∨
        ∃ (o : Override) (s : String), o.FirstUnreadable texts s ∧
          ∀ d : Config, d.applyAll texts os = (c', .ok ()) →
            d.override texts = (c', .error (.override o.name (o.complaint s)))) := by
  -- all are applied, or those in front of the first unreadable one
  rcases Override.clear_or_firstUnreadable texts with hclear | ⟨o, s, hfirst⟩
  · obtain ⟨c', hrun, -⟩ := applyAll_of_clear (show Override.all.Nodup by decide) hclear c
    refine ⟨Override.all, c', by decide, hrun, hclear, ?_, .inl ⟨hclear, ?_⟩⟩
    · intro q s
      rw [Override.applied_iff_of_clear hclear]
      exact ⟨fun h => ⟨q.mem_all, h⟩, fun h => h.2⟩
    · intro d hd
      rw [override, hd]
  · obtain ⟨c', hrun, -⟩ := applyAll_of_clear o.nodup_before hfirst.earlier c
    refine ⟨o.before, c', o.nodup_before, hrun, hfirst.earlier, fun q t => hfirst.applied_iff,
      .inr ⟨o, s, hfirst, ?_⟩⟩
    intro d hd
    obtain ⟨later, hall⟩ := o.exists_all_eq
    rw [override, hall, applyAll_append hd,
      applyAll_of_unreadable later c' hfirst.text hfirst.unreadable]

/-- Overrides on any configuration, valid or not, with any texts around it. Those before the first
that cannot be read are applied, which shows in their members, and every other member is as it was.
The error names the first that cannot be read; without one the result is checked. Once more the
same texts change nothing, whatever came of them. A capacity can be read exactly from the numbers
below `2^64`, in decimal digits with or without a plus sign and with blanks around them. -/
theorem override_outcome (c : Config) (texts : Surroundings) :
    (∀ (o : Override) (s : String), o.Applied texts s → o.Shows (c.override texts).1 s) ∧
    (∀ o : Override, (∀ s, ¬ o.Applied texts s) → o.Keeps c (c.override texts).1) ∧
    c.KeepsRest (c.override texts).1 ∧
    (∀ (o : Override) (s : String), o.FirstUnreadable texts s →
      (c.override texts).2 = .error (.override o.name (o.complaint s))) ∧
    ((∀ (o : Override) (s : String), ¬ o.FirstUnreadable texts s) →
      (c.override texts).2 = (c.override texts).1.validate) ∧
    (c.override texts).1.override texts = c.override texts ∧
    (∀ s n, capacity? s = some n ↔
      ∃ core, Text.Trims s.toList core ∧ IsUnsigned n.toNat core) ∧
    (∀ s, (capacity? s).isSome = true ↔
      ∃ core n, Text.Trims s.toList core ∧ IsUnsigned n core ∧ n < 2 ^ 64) := by
  obtain ⟨os, c', hnodup, hrun, hclear, happlied, hend⟩ := exists_applied c texts
  obtain ⟨d, hd, hshows, hkeeps, hrest⟩ := applyAll_of_clear hnodup hclear c
  rw [hrun] at hd
  cases hd
  have hagain : c'.applyAll texts os = (c', .ok ()) := applyAll_of_shows hshows
  have hleft : (c.override texts).1 = c' := by
    rcases hend with ⟨-, hend⟩ | ⟨o, s, -, hend⟩ <;> rw [hend c hrun]
  have htwice : c'.override texts = c.override texts := by
    rcases hend with ⟨-, hend⟩ | ⟨o, s, -, hend⟩ <;> rw [hend c' hagain, hend c hrun]
  have hcapacity : ∀ s n, capacity? s = some n ↔
      ∃ core, Text.Trims s.toList core ∧ IsUnsigned n.toNat core :=
    fun s n => capacity?_eq_some_iff
  rw [hleft]
  refine ⟨?_, ?_, hrest, ?_, ?_, htwice, hcapacity, ?_⟩
  · intro o s ho
    obtain ⟨hmem, htext⟩ := (happlied o s).mp ho
    exact hshows o hmem s htext
  · intro o ho
    refine hkeeps o fun hmem => ?_
    cases htext : texts o.name with
    | none => rfl
    | some s => exact absurd ((happlied o s).mpr ⟨hmem, htext⟩) (ho s)
  · intro o s ho
    rcases hend with ⟨hall, -⟩ | ⟨q, t, hq, hend⟩
    · exact absurd (hall o o.mem_all s ho.text) ho.unreadable
    -- only one override is the first
    · have hfirst : o = q := by
        rcases o.before_total q with hbefore | heq | hafter
        · exact absurd (hq.earlier o hbefore s ho.text) ho.unreadable
        · exact heq
        · exact absurd (ho.earlier q hafter t hq.text) hq.unreadable
      subst hfirst
      have htext := hq.text
      rw [ho.text] at htext
      cases htext
      rw [hend c hrun]
  · intro hnone
    rcases hend with ⟨-, hend⟩ | ⟨o, s, ho, -⟩
    · rw [hend c hrun]
    · exact absurd ho (hnone o s)
  · intro s
    rw [Option.isSome_iff_exists]
    constructor
    · rintro ⟨n, hn⟩
      obtain ⟨core, hcore, hunsigned⟩ := (hcapacity s n).mp hn
      exact ⟨core, n.toNat, hcore, hunsigned, n.toNat_lt⟩
    · rintro ⟨core, n, hcore, hunsigned, hlt⟩
      refine ⟨UInt64.ofNat n, (hcapacity s _).mpr ⟨core, hcore, ?_⟩⟩
      rw [UInt64.toNat_ofNat_of_lt' hlt]
      exact hunsigned

end Config

end TunnelHost
