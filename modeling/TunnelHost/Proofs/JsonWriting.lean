import TunnelHost.Json.Value
import TunnelHost.Proofs.JsonGrammar

/-!
# What is written is in the grammar

The texts that the library writes, on one line or a member to a line, are texts of the grammar, for
all strings and all natural numbers.

- `spells_escapeChar`, `isString_quote`: a string between quotes spells the string.
- `isNatural_digits`: a numeral is the text of its number.
- `isObject_write`: an object has the names that were written, each with the text of its value.
-/

namespace TunnelHost.Json

/-! ## Strings -/

theorem isHexDigit_digitChar : ∀ d < 16, IsHexDigit d (Numeral.digitChar d) := by
  unfold IsHexDigit
  decide

theorem isHex4_of_lt {n : Nat} (h : n < 0x20) :
    IsHex4 n ['0', '0', Numeral.digitChar (n / 16), Numeral.digitChar (n % 16)] := by
  refine ⟨0, 0, n / 16, n % 16, _, _, _, _, isHexDigit_digitChar 0 (by decide),
    isHexDigit_digitChar 0 (by decide), isHexDigit_digitChar _ (by omega),
    isHexDigit_digitChar _ (by omega), by omega, rfl⟩

/-- A character as it is written means itself. -/
theorem spells_escapeChar (c : Char) {cs text : List Char} (h : Spells cs text) :
    Spells (c :: cs) (escapeChar c ++ text) := by
  have hletter {l c : Char} (hl : (l, c) ∈ letterEscapes) :
      Spells (c :: cs) (['\\', l] ++ text) := .letter hl h
  unfold escapeChar
  split_ifs with hself hb hf hn hr ht hcontrol
  · simp only [Bool.or_eq_true, decide_eq_true_eq] at hself
    rcases hself with rfl | rfl
    · exact hletter (by decide)
    · exact hletter (by decide)
  · exact hb ▸ hletter (by decide)
  · exact hf ▸ hletter (by decide)
  · exact hn ▸ hletter (by decide)
  · exact hr ▸ hletter (by decide)
  · exact ht ▸ hletter (by decide)
  -- the other control characters are spelled by their code
  · have hcode := Spells.code (isHex4_of_lt hcontrol) (Or.inl (by omega)) h
    rwa [Char.ofNat_toNat] at hcode
  · simp only [Bool.or_eq_true, decide_eq_true_eq, not_or] at hself
    exact .plain ⟨by omega, hself.1, hself.2⟩ h

/-- What is written for the characters of a text spells the text. -/
theorem spells_flatMap (cs : List Char) : Spells cs (cs.flatMap escapeChar) := by
  induction cs with
  | nil => exact .nil
  | cons c cs ih => exact spells_escapeChar c ih

theorem isString_quote (s : String) : IsString s (quote s) :=
  ⟨_, spells_flatMap s.toList, rfl⟩

/-! ## Numbers -/

theorem isDigit_digitChar : ∀ d < 10, IsDigit (Numeral.digitChar d)
    ∧ (Numeral.digitChar d).toNat - 0x30 = d := by
  decide

theorem decimalValue_append (cs : List Char) (c : Char) :
    decimalValue (cs ++ [c]) = decimalValue cs * 10 + (c.toNat - 0x30) := by
  simp [decimalValue]

/-- A numeral is the text of its number: by induction along its digits, the last of which is the
remainder by ten. -/
theorem isNatural_digits (n : Nat) : IsNatural n (Numeral.digits 10 n) := by
  induction n using Nat.strongRecOn with
  | _ n ih =>
    rw [Numeral.digits]
    split_ifs with hsmall
    · obtain ⟨hdigit, hvalue⟩ := isDigit_digitChar n (by omega)
      refine ⟨⟨⟨by simp, by simpa using hdigit⟩, ?_⟩, by simpa [decimalValue] using hvalue⟩
      simp
    · obtain ⟨⟨⟨hnonempty, hdigits⟩, hzero⟩, hvalue⟩ := ih (n / 10) (by omega)
      obtain ⟨hdigit, hlast⟩ := isDigit_digitChar (n % 10) (by omega)
      refine ⟨⟨⟨by simp, ?_⟩, ?_⟩, ?_⟩
      · intro c hc
        rcases List.mem_append.mp hc with hc | hc
        · exact hdigits c hc
        · rw [List.mem_singleton.mp hc]
          exact hdigit
      · -- a zero in front would make the number without its last digit zero
        intro hhead
        rw [List.head?_append_of_ne_nil _ hnonempty] at hhead
        rw [hzero hhead] at hvalue
        have : n / 10 = 0 := hvalue.symm
        omega
      · rw [decimalValue_append, hvalue, hlast]
        omega

/-! ## Objects -/

theorem blank_startLine (layout : Layout) (depth : Nat) : Blank (layout.startLine depth) := by
  cases layout with
  | compact => simp [Layout.startLine, Blank]
  | lines =>
    intro c hc
    rcases List.mem_cons.mp hc with rfl | hc
    · exact Or.inr (Or.inl rfl)
    · exact Or.inl (List.eq_of_mem_replicate hc)

theorem Layout.separator_eq (layout : Layout) :
    ∃ b, Blank b ∧ layout.separator = ':' :: b := by
  cases layout with
  | compact => exact ⟨[], blank_nil, rfl⟩
  | lines => exact ⟨[' '], by simp [Blank], rfl⟩

/-- A member as it is written. -/
def writeMember (layout : Layout) (depth : Nat) (m : String × Value) : List Char :=
  quote m.1 ++ (layout.separator ++ m.2.write layout depth)

theorem memberText_write (layout : Layout) (depth : Nat) (m : String × Value) :
    MemberText (m.1.toList.flatMap escapeChar, m.2.write layout depth)
      (writeMember layout depth m) := by
  obtain ⟨b, hb, hseparator⟩ := layout.separator_eq
  exact ⟨[], b, blank_nil, hb, by simp [writeMember, quote, hseparator]⟩

/-- The members of an object are written with commas between them, in either layout. -/
theorem parted_writeMembers (layout : Layout) (depth : Nat) {b : List Char} (hb : Blank b)
    (m : String × Value) (ms : List (String × Value)) :
    Parted ((m :: ms).map (writeMember layout depth))
      (layout.startLine depth
        ++ (writeMember layout depth m ++ (writeMembers layout depth ms ++ b))) := by
  induction ms generalizing m with
  | nil =>
    rw [writeMembers, List.nil_append]
    exact .one (blank_startLine layout depth) hb
  | cons n ms ih =>
    have hmore := Parted.more (t := writeMember layout depth m) (blank_startLine layout depth)
      blank_nil (ih n)
    simpa [writeMembers, writeMember] using hmore

/-- The members of an object as they are written. -/
def writtenMembers (layout : Layout) (depth : Nat) (ms : List (String × Value)) :
    List (List Char × List Char) :=
  ms.map fun m => (m.1.toList.flatMap escapeChar, m.2.write layout depth)

/-- An object is written with its members, in their order. -/
theorem objectText_write (layout : Layout) (depth : Nat) (ms : List (String × Value)) :
    ObjectText (writtenMembers layout (depth + 1) ms) ((Value.object ms).write layout depth) := by
  refine ⟨ms.map (writeMember layout (depth + 1)), ?_⟩
  cases ms with
  | nil => exact ⟨[], .nil, .none blank_nil, rfl⟩
  | cons m ms =>
    refine ⟨_, ?_, parted_writeMembers layout (depth + 1) (blank_startLine layout depth) m ms, ?_⟩
    · rw [writtenMembers, List.forall₂_map_left_iff, List.forall₂_map_right_iff, List.forall₂_same]
      exact fun m _ => memberText_write layout (depth + 1) m
    · simp [Value.write, writeMember]

/-- An object has the names that were written, each with the text of its value. -/
theorem isObject_write (layout : Layout) (depth : Nat) (ms : List (String × Value)) :
    IsObject (ms.map fun m => (m.1, m.2.write layout (depth + 1)))
      ((Value.object ms).write layout depth) := by
  refine ⟨_, objectText_write layout depth ms, ?_⟩
  rw [writtenMembers, List.forall₂_map_left_iff, List.forall₂_map_right_iff, List.forall₂_same]
  exact fun m _ => ⟨spells_flatMap _, rfl⟩

/-- A record is written with its members in the order that they are given in. -/
theorem isRecord_write {μ : Type} {known : List String} {name : μ → String}
    {IsText : μ → List Char → Prop} {toJson : μ → Value} (layout : Layout) (depth : Nat)
    {ms : List μ} (hknown : ∀ m ∈ ms, name m ∈ known)
    (htext : ∀ m ∈ ms, IsText m ((toJson m).write layout (depth + 1))) :
    IsRecord known name IsText ms
      ((Value.object (ms.map fun m => (name m, toJson m))).write layout depth) := by
  refine ⟨_, isObject_write layout depth _, ?_, ?_⟩
  · simp only [List.map_map, List.mem_map, Function.comp_apply]
    rintro _ ⟨m, hm, rfl⟩ hother
    exact absurd (hknown m hm) hother
  · rw [List.filter_eq_self.mpr]
    · rw [List.map_map, List.forall₂_map_right_iff, List.forall₂_same]
      exact fun m hm => ⟨rfl, htext m hm⟩
    · simp only [List.map_map, List.mem_map, Function.comp_apply]
      rintro _ ⟨m, hm, rfl⟩
      simpa using hknown m hm

end TunnelHost.Json
