import TunnelHost.Proofs.ConfigLoading
import TunnelHost.Proofs.JsonNumbers
import TunnelHost.Proofs.RecordMembers

/-!
# Limits of the numbers in a configuration

Two numbers stand in a configuration. What is written for one of them, in a text that is good apart
from it, is used if it is a natural number in bounds; it breaks a rule if it is out of bounds but
fits the word that holds it; and with any other number the text is no configuration. The words
differ, so the same number can be refused in two ways.

- `outcome_word`: the words.
- `SessionSection.IsGood`, `Config.IsGood`: what else may be written.
- `Config.WritesCapacity`, `Config.WritesKeepAlive`: the texts in question.
- `Config.Limits`: the three outcomes.
- `Config.limits_of_numbers`: the limits.
-/

namespace TunnelHost

open Json (Cause Reads IsNumber IsNatural IsInteger IsValue decimalValue Writes)
open Json.Shape (Decides find?_eq_none_of_not_mem harmless_of_reads)

/-! ## Words -/

section Words

variable {t : List Char}

/-- A number is read into a word exactly if it is a natural number that fits. -/
theorem outcome_word (ht : IsNumber t) {ω : Type} {ofNat : Nat → ω} {toNat : ω → Nat}
    (wanted : String) {limit : Nat} (hlimit : limit ≤ Json.wordLimit)
    (hnat : ∀ n < limit, toNat (ofNat n) = n) (hword : ∀ w, ofNat (toNat w) = w)
    (hlt : ∀ w, toNat w < limit) :
    ∃ o, Reads (fun cs => do let (n, rest) ← Json.natural wanted limit cs; .ok (ofNat n, rest)) t o
      ∧ ∀ w, o = .ok w ↔ IsNatural (toNat w) t := by
  obtain ⟨o, ho, hreads⟩ := ht.reads_natural wanted hlimit
  refine ⟨o.map ofNat, hreads.map ofNat, fun w => ?_⟩
  constructor
  · intro hw
    cases o with
    | error cause => cases hw
    | ok n =>
      obtain ⟨hn, hfits⟩ := (ho n).mp rfl
      cases hw
      rwa [hnat n hfits]
  · intro hw
    rw [(ho (toNat w)).mpr ⟨hw, hlt w⟩]
    exact congrArg Except.ok (hword w)

/-- Of any number the capacity is read, or it is not, and it is read if the text is a natural number
that fits 64 bits. -/
theorem outcome_word64 (ht : IsNumber t) :
    ∃ o, Reads readWord64 t o ∧ ∀ n, o = .ok n ↔ IsNatural n.toNat t :=
  outcome_word ht "usize" (Nat.le_refl _) (fun _ => UInt64.toNat_ofNat_of_lt)
    (fun _ => UInt64.ofNat_toNat) UInt64.toNat_lt

/-- Of any number the interval is read, or it is not, and it is read if the text is a natural number
that fits 16 bits. -/
theorem outcome_word16 (ht : IsNumber t) :
    ∃ o, Reads readWord16 t o ∧ ∀ n, o = .ok n ↔ IsNatural n.toNat t :=
  outcome_word ht "u16" (by decide) (fun _ => UInt16.toNat_ofNat_of_lt)
    (fun _ => UInt16.ofNat_toNat) UInt16.toNat_lt

end Words

/-! ## What else may be written -/

/-- A member beside the interval in the section on the creation of sessions. -/
inductive SessionSection.IsGood : String × List Char → Prop
  | policy {text : List Char} {p : IndexPolicy} (hread : Reads readPolicy text (.ok p)) :
      IsGood ("index_policy", text)
  | other {name : String} {text : List Char} (hname : name ∉ ["index_policy", "default_keep_alive"])
      (hvalue : IsValue text) : IsGood (name, text)

/-- A section that keeps the rules, or anything that is no section. -/
inductive Config.IsGood : String × List Char → Prop
  | buffer {text : List Char} {s : BufferSection}
      (hread : Reads BufferSection.shape.read text (.ok s)) (hcheck : s.check = .ok ()) :
      IsGood ("buffer", text)
  | session {text : List Char} {s : SessionSection}
      (hread : Reads SessionSection.shape.read text (.ok s)) (hcheck : s.check = .ok ()) :
      IsGood ("session", text)
  | log {text : List Char} {s : LogSection} (hread : Reads LogSection.shape.read text (.ok s))
      (hcheck : s.check = .ok ()) : IsGood ("log", text)
  | other {name : String} {text : List Char} (hname : name ∉ ["buffer", "session", "log"])
      (hvalue : IsValue text) : IsGood (name, text)

namespace Config

/-- The text of a configuration with a section in which a value is written, among members that are
good. -/
def WritesIn (name : String) (IsSection : List Char → Prop) (text : List Char) : Prop :=
  ∃ b part whole b', Json.Blank b ∧ Json.Blank b' ∧ IsSection part
    ∧ Writes ["buffer", "session", "log"] IsGood name part whole ∧ text = b ++ (whole ++ b')

/-- The texts in which a value is written for the capacity, and that are good apart from it. -/
def WritesCapacity (value : List Char) : List Char → Prop :=
  WritesIn "buffer" (Writes ["capacity"] (fun m => IsValue m.2) "capacity" value)

/-- The texts in which a value is written for the interval, and that are good apart from it. -/
def WritesKeepAlive (value : List Char) : List Char → Prop :=
  WritesIn "session" (Writes ["index_policy", "default_keep_alive"] SessionSection.IsGood
    "default_keep_alive" value)

end Config

/-! ## From the number to the configuration -/

section Sections

variable {t part whole : List Char}

/-- What is read of the value decides the section on output buffers. -/
theorem BufferSection.reads_writes {o : Except Cause UInt64} (ho : Reads readWord64 t o)
    (h : Writes ["capacity"] (fun m => IsValue m.2) "capacity" t part) :
    ∃ out, Reads shape.read part out ∧ Decides (fun _ => True) capacity o out := by
  refine Json.Shape.reads_writes (s := shape) (by decide) (by decide) ?_ rfl ho
    (fun _ _ _ => ⟨trivial, rfl⟩) trivial h
  intro m hm hvalue
  have hname : m.1 ∉ ["capacity"] := by simpa using hm
  exact Or.inl ⟨find?_eq_none_of_not_mem hname, hvalue⟩

/-- A good member beside the interval neither fails nor touches the interval. -/
theorem SessionSection.harmless {m : String × List Char} (hm : m.1 ≠ "default_keep_alive")
    (h : IsGood m) : shape.Harmless (fun _ => True) keepAlive m := by
  cases h with
  | policy hread => exact harmless_of_reads rfl hread fun _ _ => ⟨trivial, rfl⟩
  | other hname hvalue => exact Or.inl ⟨find?_eq_none_of_not_mem hname, hvalue⟩

/-- What is read of the value decides the section on the creation of sessions, whatever good members
stand beside it. -/
theorem SessionSection.reads_writes {o : Except Cause UInt16} (ho : Reads readWord16 t o)
    (h : Writes ["index_policy", "default_keep_alive"] IsGood "default_keep_alive" t part) :
    ∃ out, Reads shape.read part out ∧ Decides (fun _ => True) keepAlive o out :=
  Json.Shape.reads_writes (s := shape) (by decide) (by decide) (fun _ => harmless) rfl ho
    (fun _ _ _ => ⟨trivial, rfl⟩) trivial h

namespace Config

/-- The rules of all sections but the first hold. -/
def GoodBesideBuffer (c : Config) : Prop := c.session.check = .ok () ∧ c.log.check = .ok ()

/-- The rules of all sections but the second hold. -/
def GoodBesideSession (c : Config) : Prop := c.buffer.check = .ok () ∧ c.log.check = .ok ()

/-- A good section neither fails nor touches the section on output buffers. -/
theorem harmless_beside_buffer {m : String × List Char} (hm : m.1 ≠ "buffer") (h : IsGood m) :
    shape.Harmless GoodBesideBuffer buffer m := by
  cases h with
  | buffer => exact absurd rfl hm
  | session hread hcheck =>
    exact harmless_of_reads rfl hread fun _ hvalue => ⟨⟨hcheck, hvalue.2⟩, rfl⟩
  | log hread hcheck =>
    exact harmless_of_reads rfl hread fun _ hvalue => ⟨⟨hvalue.1, hcheck⟩, rfl⟩
  | other hname hvalue => exact Or.inl ⟨find?_eq_none_of_not_mem hname, hvalue⟩

theorem harmless_beside_session {m : String × List Char} (hm : m.1 ≠ "session") (h : IsGood m) :
    shape.Harmless GoodBesideSession session m := by
  cases h with
  | session => exact absurd rfl hm
  | buffer hread hcheck =>
    exact harmless_of_reads rfl hread fun _ hvalue => ⟨⟨hcheck, hvalue.2⟩, rfl⟩
  | log hread hcheck =>
    exact harmless_of_reads rfl hread fun _ hvalue => ⟨⟨hvalue.1, hcheck⟩, rfl⟩
  | other hname hvalue => exact Or.inl ⟨find?_eq_none_of_not_mem hname, hvalue⟩

/-- What is read of the section on output buffers decides the configuration. -/
theorem reads_writes_buffer {o : Except Cause BufferSection}
    (ho : Reads BufferSection.shape.read part o)
    (h : Writes ["buffer", "session", "log"] IsGood "buffer" part whole) :
    ∃ out, Reads shape.read whole out ∧ Decides GoodBesideBuffer buffer o out :=
  Json.Shape.reads_writes (s := shape) (by decide) (by decide) (fun _ => harmless_beside_buffer)
    rfl ho (fun _ _ hvalue => ⟨hvalue, rfl⟩) ⟨rfl, rfl⟩ h

theorem reads_writes_session {o : Except Cause SessionSection}
    (ho : Reads SessionSection.shape.read part o)
    (h : Writes ["buffer", "session", "log"] IsGood "session" part whole) :
    ∃ out, Reads shape.read whole out ∧ Decides GoodBesideSession session o out :=
  Json.Shape.reads_writes (s := shape) (by decide) (by decide) (fun _ => harmless_beside_session)
    rfl ho (fun _ _ hvalue => ⟨hvalue, rfl⟩) ⟨rfl, rfl⟩ h

end Config

end Sections

/-! ## Checking -/

/-- The rule of the first section. -/
theorem BufferSection.check_eq_ok_iff {s : BufferSection} :
    s.check = .ok () ↔ 148 ≤ s.capacity.toNat ∧ s.capacity.toNat ≤ 65535 := by
  rw [check, leastCapacity, mostCapacity]
  split
  · simp only [reduceCtorEq, false_iff]
    omega
  · split
    · simp only [reduceCtorEq, false_iff]
      omega
    · simp only [true_iff]
      omega

/-- The rule on the interval. -/
theorem SessionSection.check_eq_ok_iff {s : SessionSection} :
    s.check = .ok () ↔ 1 ≤ s.keepAlive.toNat := by
  have hzero : s.keepAlive = 0 ↔ s.keepAlive.toNat = 0 := UInt16.toNat_inj.symm
  rw [check, Nat.one_le_iff_ne_zero, ne_eq, ← hzero]
  split
  · next h => simp [h]
  · next h => simp [h]

namespace Config

variable {c : Config} {s : String}

theorem validate_beside_buffer (h : GoodBesideBuffer c) :
    c.validate = c.buffer.check.mapError .ofBreach := by
  rw [validate, check, h.1, h.2]
  cases c.buffer.check <;> rfl

theorem validate_beside_session (h : GoodBesideSession c) :
    c.validate = c.session.check.mapError .ofBreach := by
  rw [validate, check, h.1, h.2]
  cases c.session.check <;> rfl

/-- What becomes of a text in which a number is written, by whether the number fits the word that
holds it, and whether it is in bounds. -/
structure Limits (x : Except ConfigError Config) (fits valid : Prop) (used : Config → Prop) :
    Prop where
  accepted : (∃ c, x = .ok c) ↔ fits ∧ valid
  used : ∀ c, x = .ok c → used c
  invalid : (∃ reason, x = .error (.invalid reason)) ↔ fits ∧ ¬ valid
  unreadable : (∃ reason, x = .error (.unreadable reason)) ↔ ¬ fits

section Outcomes

variable {fits valid : Prop} {used : Config → Prop} {reason : String}

theorem limits_of_valid (hfits : fits) (hvalid : valid) (hused : used c) :
    Limits (.ok c) fits valid used := by
  refine ⟨?_, ?_, ?_, ?_⟩
  · simp [hfits, hvalid]
  · rintro _ ⟨⟩
    exact hused
  · simp [hvalid]
  · simp [hfits]

theorem limits_of_invalid (hfits : fits) (hvalid : ¬ valid) :
    Limits (.error (.invalid reason)) fits valid used := by
  refine ⟨?_, ?_, ?_, ?_⟩
  · simp [hvalid]
  · rintro _ ⟨⟩
  · simp [hfits, hvalid]
  · simp [hfits]

theorem limits_of_unreadable (hfits : ¬ fits) :
    Limits (.error (.unreadable reason)) fits valid used := by
  refine ⟨?_, ?_, ?_, ?_⟩
  · simp [hfits]
  · rintro _ ⟨⟩
  · simp [hfits]
  · simp [hfits]

end Outcomes

/-- A text in which there is nothing but white space around a value comes to what the value and the
rules come to. -/
theorem ofJson_of_reads {b whole b' : List Char} {out : Except Cause Config}
    (hreads : Reads shape.read whole out) (hb : Json.Blank b) (hb' : Json.Blank b')
    (hs : s.toList = b ++ (whole ++ b')) :
    match out with
    | .ok c => ofJson s = c.validate.map fun _ => c
    | .error _ => ∃ reason, ofJson s = .error (.unreadable reason) := by
  cases out with
  | ok c =>
    have hread : ofJsonUnchecked s = .ok c := Json.read_of_reads hreads hb hb' hs
    show ofJson s = _
    rw [ofJson, hread]
    cases hchecked : c.validate <;> simp [Except.mapError, Except.map, bind, Except.bind, hchecked,
      pure, Except.pure]
  | error cause =>
    obtain ⟨unread, hfault⟩ := Json.read_of_reads_error hreads hb hb' hs
    have hread : ofJsonUnchecked s = .error ⟨cause, unread⟩ := hfault
    exact ⟨_, by rw [ofJson, hread]; rfl⟩

/-- If one word decides what becomes of a text, a number for it has the limits of the word and of
the one rule on it. -/
theorem limits_of_decides {t : List Char} {ω : Type} {ofNat : Nat → ω} {toNat : ω → Nat}
    {limit : Nat} (hnat : ∀ n < limit, toNat (ofNat n) = n) (hlt : ∀ w, toNat w < limit)
    {o : Except Cause ω} (ho : ∀ w, o = .ok w ↔ IsNatural (toNat w) t) {P : Config → Prop}
    {get : Config → ω} {b whole b' : List Char} {out : Except Cause Config}
    (hdecides : Decides P get o out) (hreads : Reads shape.read whole out) (hb : Json.Blank b)
    (hb' : Json.Blank b') (hs : s.toList = b ++ (whole ++ b')) (inBounds : Nat → Prop)
    (hrule : ∀ c, P c → ∃ x : Except Breach Unit,
      c.validate = x.mapError .ofBreach ∧ (x = .ok () ↔ inBounds (toNat (get c)))) :
    Limits (ofJson s) (IsInteger t ∧ decimalValue t < limit) (inBounds (decimalValue t))
      (fun c => toNat (get c) = decimalValue t) := by
  have hload := ofJson_of_reads hreads hb hb' hs
  cases o with
  | error cause =>
    cases hdecides
    obtain ⟨reason, hreason⟩ := hload
    rw [hreason]
    -- a number that fits would have been read into the word
    refine limits_of_unreadable ?_
    rintro ⟨hinteger, hfits⟩
    cases (ho (ofNat (decimalValue t))).mpr ⟨hinteger, (hnat _ hfits).symm⟩
  | ok w =>
    obtain ⟨hinteger, hvalue⟩ := (ho w).mp rfl
    obtain ⟨c, rfl, hgood, rfl⟩ := hdecides
    obtain ⟨x, hvalidate, hbounds⟩ := hrule c hgood
    have hfits : IsInteger t ∧ decimalValue t < limit := ⟨hinteger, hvalue ▸ hlt _⟩
    rw [← hvalue] at hbounds
    change ofJson s = _ at hload
    rw [hload, hvalidate]
    cases x with
    | ok _ => exact limits_of_valid hfits (hbounds.mp rfl) hvalue.symm
    | error breach =>
      refine limits_of_invalid hfits fun h => ?_
      cases hbounds.mpr h

/-! ## The limits -/

/-- **Numbers have exact limits.** Let a number of any length and form be written for the capacity
in a text that is good apart from it. If it is a natural number below 2⁶⁴, without a sign, fraction
or exponent, the text is accepted with that capacity if it is at least 148 and at most 65535, and
breaks a rule otherwise. With any other number the text is no configuration. Likewise the interval:
of the natural numbers below 2¹⁶ only `0` breaks a rule, and from 2¹⁶ on there is no configuration.
-/
theorem limits_of_numbers {t : List Char} (ht : IsNumber t) (s : String) :
    (WritesCapacity t s.toList →
      Limits (ofJson s) (IsInteger t ∧ decimalValue t < UInt64.size)
        (148 ≤ decimalValue t ∧ decimalValue t ≤ 65535)
        (fun c => c.buffer.capacity.toNat = decimalValue t))
    ∧ (WritesKeepAlive t s.toList →
      Limits (ofJson s) (IsInteger t ∧ decimalValue t < UInt16.size) (1 ≤ decimalValue t)
        (fun c => c.session.keepAlive.toNat = decimalValue t)
      ∧ ((∃ reason, ofJson s = .error (.invalid reason)) ↔ t = ['0'])) := by
  constructor
  · rintro ⟨b, part, whole, b', hb, hb', hpart, hwhole, hs⟩
    -- what is read of the number decides the section, and that the whole text
    obtain ⟨o, hword, ho⟩ := outcome_word64 ht
    obtain ⟨o', hpart, hcapacity⟩ := BufferSection.reads_writes hword hpart
    obtain ⟨out, hreads, hbuffer⟩ := reads_writes_buffer hpart hwhole
    exact limits_of_decides (fun _ => UInt64.toNat_ofNat_of_lt) UInt64.toNat_lt_size ho
      (hcapacity.inner hbuffer) hreads hb hb' hs (fun n => 148 ≤ n ∧ n ≤ 65535) (fun c hc =>
        ⟨c.buffer.check, validate_beside_buffer hc, BufferSection.check_eq_ok_iff⟩)
  · rintro ⟨b, part, whole, b', hb, hb', hpart, hwhole, hs⟩
    obtain ⟨o, hword, ho⟩ := outcome_word16 ht
    obtain ⟨o', hpart, hinterval⟩ := SessionSection.reads_writes hword hpart
    obtain ⟨out, hreads, hsession⟩ := reads_writes_session hpart hwhole
    have hlimits := limits_of_decides (fun _ => UInt16.toNat_ofNat_of_lt) UInt16.toNat_lt_size ho
      (hinterval.inner hsession) hreads hb hb' hs (1 ≤ ·) (fun c hc =>
        ⟨c.session.check, validate_beside_session hc, SessionSection.check_eq_ok_iff⟩)
    refine ⟨hlimits, hlimits.invalid.trans (Iff.trans ?_ Json.isInteger_zero_iff)⟩
    constructor
    · rintro ⟨⟨hinteger, -⟩, hvalue⟩
      exact ⟨hinteger, by omega⟩
    · rintro ⟨hinteger, hvalue⟩
      rw [hvalue]
      exact ⟨⟨hinteger, by decide⟩, by decide⟩

/-- The least number that is too large for both is refused in two ways, and 2000 is refused if it is
written with an exponent. -/
theorem limits_of_65536 :
    (∃ reason, ofJson "\x7b\"buffer\":\x7b\"capacity\":65536\x7d\x7d" = .error (.invalid reason))
      ∧ (∃ reason, ofJson "\x7b\"session\":\x7b\"default_keep_alive\":65536\x7d\x7d"
          = .error (.unreadable reason))
      ∧ ∃ reason, ofJson "\x7b\"buffer\":\x7b\"capacity\":2e3\x7d\x7d"
          = .error (.unreadable reason) := by
  have hblank := Json.blank_nil
  have hinteger : IsInteger ['6', '5', '5', '3', '6'] :=
    ⟨⟨by decide, by simp [Json.IsDigit]⟩, by simp⟩
  have hnumber : IsNumber ['6', '5', '5', '3', '6'] :=
    ⟨[], _, [], [], .inl rfl, hinteger, .inl rfl, .inl rfl, rfl⟩
  have hexponent : IsNumber ['2', 'e', '3'] :=
    ⟨[], ['2'], [], ['e', '3'], .inl rfl, ⟨⟨by decide, by simp [Json.IsDigit]⟩, by simp⟩, .inl rfl,
      .inr ⟨'e', [], ['3'], .inl rfl, .inl rfl, ⟨by decide, by simp [Json.IsDigit]⟩, rfl⟩, rfl⟩
  -- the two values at the capacity stand in texts of the same form
  have hcapacity {Good : String × List Char → Prop} (value : List Char) :
      Writes ["capacity"] Good "capacity" value _ :=
    Json.writes_alone (Json.spells_flatMap "capacity".toList) value
  have hbuffer {Good : String × List Char → Prop} (value : List Char) :
      Writes ["buffer", "session", "log"] Good "buffer" value _ :=
    Json.writes_alone (Json.spells_flatMap "buffer".toList) value
  refine ⟨?_, ?_, ?_⟩
  · refine ((limits_of_numbers hnumber _).1 ?_).invalid.mpr ⟨⟨hinteger, by decide⟩, by decide⟩
    exact ⟨[], _, _, [], hblank, hblank, hcapacity _, hbuffer _, rfl⟩
  · refine ((limits_of_numbers hnumber _).2 ?_).1.unreadable.mpr fun h => absurd h.2 (by decide)
    exact ⟨[], _, _, [], hblank, hblank,
      Json.writes_alone (Json.spells_flatMap "default_keep_alive".toList) _,
      Json.writes_alone (Json.spells_flatMap "session".toList) _, rfl⟩
  · refine ((limits_of_numbers hexponent _).1 ?_).unreadable.mpr fun h => ?_
    · exact ⟨[], _, _, [], hblank, hblank, hcapacity _, hbuffer _, rfl⟩
    · exact absurd (h.1.1.2 'e' (by simp)) (by decide)

end Config

end TunnelHost
