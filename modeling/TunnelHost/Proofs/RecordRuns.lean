import TunnelHost.Proofs.JsonSkipping

/-!
# Records, member by member

What becomes of a record is settled member by member, whether its members are good or bad: the first
that is at fault decides. `Shape.Runs` says so for objects, whose members come in any order, and
`Shape.Picks` for lists, whose elements come in the declared order. Neither looks at the text around
the members, so that two texts can be compared by their members alone.

- `Upcoming`: what is left of an object or a list while its parts are read.
- `Decodes`, `Decoded`: what the inside of a key means, if anything.
- `Shape.Runs`, `Shape.reads_of_runs`: objects.
- `Shape.Picks`, `Shape.reads_of_picks`: lists.
- `Shape.Settled`: every value of every member has an outcome; then so has every object and list.
- `IsForm`, `Shape.reads_form`: records in either form of which nothing is required.
-/

namespace TunnelHost.Json

variable {τ α β : Type}

/-! ## From member to member -/

/-- What is left of the inside of an object, before its first member or after some member. -/
inductive Upcoming : (first : Bool) → List (List Char) → List Char → Prop where
  | start {parts : List (List Char)} {left : List Char} :
      Parted parts left → Upcoming true parts left
  | done {b : List Char} : Blank b → Upcoming false [] b
  | next {b left part : List Char} {parts : List (List Char)} :
      Blank b → Parted (part :: parts) left → Upcoming false (part :: parts) (b ++ ',' :: left)

/-- After the last member only white space is left. -/
theorem blanks_of_upcoming_nil {first : Bool} {left : List Char} (h : Upcoming first [] left)
    {c : Char} (hc : isSpace c = false) (rest : List Char) :
    blanks (left ++ c :: rest) = c :: rest := by
  have hblank : Blank left := by
    cases h with
    | start h =>
      cases h with
      | none hb => exact hb
    | done hb => exact hb
  rw [blanks_append_cons hblank hc]

theorem ends_of_upcoming {parts : List (List Char)} {left rest : List Char}
    (h : Upcoming false parts left) (hrest : Ends rest) : Ends (left ++ rest) := by
  cases h with
  | done hb => exact ends_append hb hrest
  | next hb _ =>
    rw [List.append_assoc]
    exact ends_append hb (ends_comma _)

theorem Parted.upcoming {part left : List Char} {parts : List (List Char)}
    (h : Parted (part :: parts) left) :
    ∃ b left', Blank b ∧ Upcoming false parts left' ∧ left = b ++ (part ++ left') := by
  cases h with
  | one hb hb' => exact ⟨_, _, hb, .done hb', rfl⟩
  | more hb hb' hmore => exact ⟨_, _, hb, .next hb' hmore, rfl⟩

/-- The next member is come upon, after a comma unless it is the first. -/
theorem nextKey_of_upcoming {first : Bool} {part left : List Char} {parts : List (List Char)}
    {m : List Char × List Char} (h : Upcoming first (part :: parts) left) (hm : MemberText m part)
    (rest : List Char) :
    ∃ b b' left', Blank b ∧ Blank b' ∧ Upcoming false parts left' ∧ left'.length < left.length
      ∧ Shape.nextKey first (left ++ rest)
        = .ok (some (m.1 ++ '"' :: (b ++ ':' :: (b' ++ (m.2 ++ (left' ++ rest)))))) := by
  obtain ⟨b, b', hb, hb', rfl⟩ := hm
  -- at the start the key comes at once, later behind a comma
  cases h with
  | start h =>
    obtain ⟨b₀, left', hb₀, hup, rfl⟩ := h.upcoming
    refine ⟨b, b', left', hb, hb', hup, by simp; omega, ?_⟩
    simp only [Shape.nextKey, List.append_assoc, List.cons_append]
    rw [blanks_append_cons hb₀ (by decide)]
    simp
  | next hb₁ h =>
    obtain ⟨b₀, left', hb₀, hup, rfl⟩ := h.upcoming
    refine ⟨b, b', left', hb, hb', hup, by simp; omega, ?_⟩
    have hquote (cs : List Char) : blanks (b₀ ++ '"' :: cs) = '"' :: cs := by
      rw [blanks_append_cons hb₀ (by decide)]
    simp only [Shape.nextKey, List.append_assoc, List.cons_append]
    rw [blanks_append_cons hb₁ (by decide)]
    simp [hquote]

/-! ## Members and their keys -/

/-- What stands between the quotes of a key: the text of a name, or a fault. -/
def Decodes (key : Except Cause String) (text : List Char) : Prop :=
  match key with
  | .ok name => Spells name.toList text
  | .error cause => ∀ rest, ∃ unread, string (text ++ '"' :: rest) = .error ⟨cause, unread⟩

/-- A member of an object, and the same with its key decoded. -/
def Decoded (m : Except Cause String × List Char) (r : List Char × List Char) : Prop :=
  Decodes m.1 r.1 ∧ m.2 = r.2

/-- Every value has an outcome. -/
def Settles (r : Reader α) : Prop := ∀ text, IsValue text → ∃ o, Reads r text o

/-- The text of a record with members of some names: an object; or a list of the values, if the
names are the first of those that are known. -/
def IsForm (known : List String) (ms : List (String × List Char)) (text : List Char) : Prop :=
  IsObject ms text
    ∨ ms.map (·.1) <+: known ∧ (∀ m ∈ ms, IsValue m.2)
      ∧ ∃ inside, Parted (ms.map (·.2)) inside ∧ text = '[' :: (inside ++ [']'])

/-- Members whose keys spell names. -/
def named (ms : List (String × List Char)) : List (Except Cause String × List Char) :=
  ms.map fun m => (.ok m.1, m.2)

namespace Shape

variable (s : Shape τ)

/-! ## What becomes of the members of an object -/

/-- What becomes of a record whose members are read one after the other, where some have been seen:
the outcome of the first that is at fault, or the record at the end. -/
inductive Runs : (seen : List String) → τ → List (Except Cause String × List Char) →
    Except Cause τ → Prop
  | complete {seen : List String} {value : τ} (hmissing : s.missing? seen = none) :
      Runs seen value [] (.ok value)
  | misses {seen : List String} {value : τ} {name : String}
      (hmissing : s.missing? seen = some name) :
      Runs seen value [] (.error (.missingField name))
  | badKey (seen : List String) (value : τ) (cause : Cause) (text : List Char)
      (ms : List (Except Cause String × List Char)) :
      Runs seen value ((.error cause, text) :: ms) (.error cause)
  | unknown {seen : List String} {value : τ} {name : String} {text : List Char}
      {ms : List (Except Cause String × List Char)} {o : Except Cause τ}
      (hfind : s.fields.find? (·.name == name) = none) (hvalue : IsValue text)
      (hrest : Runs seen value ms o) : Runs seen value ((.ok name, text) :: ms) o
  | again {seen : List String} {name : String} {f : Field τ}
      (hfind : s.fields.find? (·.name == name) = some f) (hseen : f.name ∈ seen) (value : τ)
      (text : List Char) (ms : List (Except Cause String × List Char)) :
      Runs seen value ((.ok name, text) :: ms) (.error (.duplicateField f.name))
  | fails {seen : List String} {value : τ} {name : String} {f : Field τ} {text : List Char}
      {cause : Cause} (hfind : s.fields.find? (·.name == name) = some f) (hseen : f.name ∉ seen)
      (hread : Reads (f.read value) text (.error cause))
      (ms : List (Except Cause String × List Char)) :
      Runs seen value ((.ok name, text) :: ms) (.error cause)
  | reads {seen : List String} {value value' : τ} {name : String} {f : Field τ} {text : List Char}
      {ms : List (Except Cause String × List Char)} {o : Except Cause τ}
      (hfind : s.fields.find? (·.name == name) = some f) (hseen : f.name ∉ seen)
      (hread : Reads (f.read value) text (.ok value')) (hrest : Runs (f.name :: seen) value' ms o) :
      Runs seen value ((.ok name, text) :: ms) o

/-- What becomes of a record whose members are read from a list, from the member with number `index`
on. -/
inductive Picks : List (Field τ) → (index : Nat) → τ → List (List Char) → Except Cause τ → Prop
  | complete {fields : List (Field τ)} {index : Nat} {value : τ}
      (hrequired : fields.findIdx? (·.required) = none) : Picks fields index value [] (.ok value)
  | misses {fields : List (Field τ)} {index i : Nat} {value : τ}
      (hrequired : fields.findIdx? (·.required) = some i) :
      Picks fields index value [] (.error (.wrongLength (index + i) s.wantedLength))
  | long (index : Nat) (value : τ) (text : List Char) (texts : List (List Char)) :
      Picks [] (index + 1) value (text :: texts) (.error .trailingCharacters)
  | fails {f : Field τ} {fields : List (Field τ)} {index : Nat} {value : τ} {text : List Char}
      {cause : Cause} (hread : Reads (f.read value) text (.error cause))
      (texts : List (List Char)) : Picks (f :: fields) index value (text :: texts) (.error cause)
  | reads {f : Field τ} {fields : List (Field τ)} {index : Nat} {value value' : τ}
      {text : List Char} {texts : List (List Char)} {o : Except Cause τ}
      (hread : Reads (f.read value) text (.ok value'))
      (hrest : Picks fields (index + 1) value' texts o) :
      Picks (f :: fields) index value (text :: texts) o

variable {s}

/-! ## Objects -/

theorem name_of_find? {name : String} {f : Field τ}
    (h : s.fields.find? (·.name == name) = some f) : f.name = name := by
  simpa using List.find?_some h

/-- Nothing is missing where nothing is required. -/
theorem missing?_eq_none (hlenient : ∀ f ∈ s.fields, f.required = false) (seen : List String) :
    s.missing? seen = none := by
  rw [missing?, Option.map_eq_none_iff, List.find?_eq_none]
  intro f hf
  simp [hlenient f hf]

section

variable {fuel : Nat} {first : Bool} {seen : List String} {value : τ} {name : String}
  {cs key b b' text rest : List Char}

/-- A member of no known name is passed over. -/
theorem members_unknown
    (hkey : nextKey first cs = .ok (some (key ++ '"' :: (b ++ ':' :: (b' ++ (text ++ rest))))))
    (hspells : Spells name.toList key) (hb : Blank b) (hb' : Blank b')
    (hfind : s.fields.find? (·.name == name) = none) (hvalue : IsValue text) (hrest : Ends rest) :
    s.members (fuel + 1) first seen value cs = s.members fuel false seen value rest := by
  simp [members, hkey, string_of_spells hspells, colon_append hb, hfind,
    skipValue_of_isValue hvalue hb' hrest, bind, Except.bind]

/-- A member that was there before is a fault. -/
theorem members_repeated {f : Field τ}
    (hkey : nextKey first cs = .ok (some (key ++ '"' :: (b ++ ':' :: (b' ++ (text ++ rest))))))
    (hspells : Spells name.toList key)
    (hfind : s.fields.find? (·.name == name) = some f) (hseen : seen.contains f.name) :
    ∃ unread, s.members (fuel + 1) first seen value cs
      = .error ⟨.duplicateField f.name, unread⟩ := by
  rw [List.contains_iff_mem] at hseen
  exact ⟨_, by simp [members, hkey, string_of_spells hspells, hfind, hseen, bind, Except.bind]; rfl⟩

/-- A known member is read, and remembered. -/
theorem members_known {f : Field τ}
    (hkey : nextKey first cs = .ok (some (key ++ '"' :: (b ++ ':' :: (b' ++ (text ++ rest))))))
    (hspells : Spells name.toList key) (hb : Blank b)
    (hfind : s.fields.find? (·.name == name) = some f) (hseen : ¬ seen.contains f.name) :
    s.members (fuel + 1) first seen value cs
      = f.read value (b' ++ (text ++ rest)) >>= fun p =>
        s.members fuel false (f.name :: seen) p.1 p.2 := by
  rw [List.contains_iff_mem] at hseen
  simp [members, hkey, string_of_spells hspells, colon_append hb, hfind, hseen, bind, Except.bind]

end

/-- What is left of the inside of an object, with the members that are to come. -/
def Ahead (first : Bool) (ms : List (Except Cause String × List Char)) (left : List Char) : Prop :=
  ∃ raw parts, List.Forall₂ Decoded ms raw
    ∧ List.Forall₂ MemberText raw parts ∧ Upcoming first parts left

/-- With no member ahead the brace comes next. -/
theorem Ahead.nil {first : Bool} {left : List Char} (h : Ahead first [] left) (rest : List Char) :
    blanks (left ++ '\x7d' :: rest) = '\x7d' :: rest := by
  obtain ⟨raw, parts, hraw, hparts, hup⟩ := h
  cases hraw
  cases hparts
  exact blanks_of_upcoming_nil hup (by decide) rest

/-- With a member ahead its key comes next, and the other members after its value. -/
theorem Ahead.cons {first : Bool} {m : Except Cause String × List Char}
    {ms : List (Except Cause String × List Char)} {left : List Char}
    (h : Ahead first (m :: ms) left) (rest : List Char) :
    ∃ key b b' left', Decodes m.1 key ∧ Blank b ∧ Blank b' ∧ Ahead false ms left'
      ∧ left'.length < left.length ∧ Ends (left' ++ '\x7d' :: rest)
      ∧ nextKey first (left ++ '\x7d' :: rest)
        = .ok (some (key ++ '"' :: (b ++ ':' :: (b' ++ (m.2 ++ (left' ++ '\x7d' :: rest)))))) := by
  obtain ⟨raw, parts, hraw, hparts, hup⟩ := h
  obtain ⟨r, raw', ⟨hkey, htext⟩, hraw', rfl⟩ := List.forall₂_cons_left_iff.mp hraw
  obtain ⟨part, parts', hm, hparts', rfl⟩ := List.forall₂_cons_left_iff.mp hparts
  obtain ⟨b, b', left', hb, hb', hup', hshorter, hnext⟩ :=
    nextKey_of_upcoming hup hm ('\x7d' :: rest)
  rw [← htext] at hnext
  exact ⟨r.1, b, b', left', hkey, hb, hb', ⟨raw', parts', hraw', hparts', hup'⟩, hshorter,
    ends_of_upcoming hup' (ends_brace rest), hnext⟩

/-- The reader of members does what becomes of them, wherever they stand. -/
theorem members_of_runs {seen : List String} {value : τ}
    {ms : List (Except Cause String × List Char)} {o : Except Cause τ} (h : s.Runs seen value ms o)
    {first : Bool} {left : List Char} (hahead : Ahead first ms left) {fuel : Nat}
    (hfuel : left.length < fuel) (rest : List Char) :
    Yields (s.members fuel first seen value (left ++ '\x7d' :: rest)) rest o := by
  obtain _ | fuel := fuel
  · omega
  -- the text left shrinks at every member, so the fuel lasts
  induction h generalizing first left fuel with
  | complete hmissing =>
    simp only [members, nextKey, hahead.nil rest, hmissing, bind, Except.bind]
    exact rfl
  | misses hmissing =>
    simp only [members, nextKey, hahead.nil rest, hmissing, bind, Except.bind]
    exact ⟨_, rfl⟩
  | badKey seen value cause text ms =>
    obtain ⟨key, b, b', left', hbad, -, -, -, -, -, hkey⟩ := hahead.cons rest
    obtain ⟨unread, hfault⟩ := hbad (b ++ ':' :: (b' ++ (text ++ (left' ++ '\x7d' :: rest))))
    exact ⟨unread, by simp [members, hkey, hfault, bind, Except.bind]⟩
  | unknown hfind hvalue _ ih =>
    obtain ⟨key, b, b', left', hspells, hb, hb', hahead', hshorter, hends, hkey⟩ :=
      hahead.cons rest
    rw [members_unknown hkey hspells hb hb' hfind hvalue hends]
    obtain _ | fuel := fuel
    · omega
    exact ih hahead' fuel (by omega)
  | again hfind hseen value text ms =>
    obtain ⟨key, b, b', left', hspells, -, -, -, -, -, hkey⟩ := hahead.cons rest
    exact members_repeated hkey hspells hfind (List.contains_iff_mem.mpr hseen)
  | fails hfind hseen hread ms =>
    obtain ⟨key, b, b', left', hspells, hb, hb', -, -, hends, hkey⟩ := hahead.cons rest
    rw [members_known hkey hspells hb hfind (by rwa [List.contains_iff_mem])]
    obtain ⟨unread, hfault⟩ := hread b' _ hb' hends
    exact ⟨unread, by rw [hfault]; rfl⟩
  | reads hfind hseen hread _ ih =>
    obtain ⟨key, b, b', left', hspells, hb, hb', hahead', hshorter, hends, hkey⟩ :=
      hahead.cons rest
    rw [members_known hkey hspells hb hfind (by rwa [List.contains_iff_mem]),
      show _ = Except.ok (_, _) from hread b' _ hb' hends]
    obtain _ | fuel := fuel
    · omega
    exact ih hahead' fuel (by omega)

/-- An object becomes what becomes of its members. -/
theorem reads_of_runs {raw : List (List Char × List Char)} {text : List Char}
    (h : ObjectText raw text) {ms : List (Except Cause String × List Char)}
    (hraw : List.Forall₂ Decoded ms raw) {o : Except Cause τ}
    (hruns : s.Runs [] s.initial ms o) : Reads s.read text o := by
  obtain ⟨parts, inside, hparts, hinside, rfl⟩ := h
  intro b rest hb _
  have hfuel : inside.length < (inside ++ '\x7d' :: rest).length + 1 := by
    rw [List.length_append]
    omega
  have hmembers := members_of_runs hruns ⟨raw, parts, hraw, hparts, .start hinside⟩ hfuel rest
  simp only [read, List.cons_append, List.append_assoc, List.nil_append]
  rw [blanks_append_cons hb (by decide)]
  exact hmembers

/-- If the keys spell names, those are the keys. -/
theorem reads_of_runs_named {ms : List (String × List Char)} {text : List Char}
    (h : IsObject ms text) {o : Except Cause τ} (hruns : s.Runs [] s.initial (named ms) o) :
    Reads s.read text o := by
  obtain ⟨raw, hobject, hraw⟩ := h
  refine reads_of_runs hobject ?_ hruns
  rw [named, List.forall₂_map_left_iff]
  exact hraw

/-! ## Lists -/

/-- Before an element that is not the first one, there is a comma. -/
theorem exists_comma_of_upcoming {text left : List Char} {texts : List (List Char)}
    (h : Upcoming false (text :: texts) left) (htext : IsValue text) (rest : List Char) :
    ∃ tail left', Upcoming false texts left' ∧ blanks (left ++ ']' :: rest) = ',' :: tail
      ∧ blanks tail = text ++ (left' ++ ']' :: rest) := by
  obtain ⟨c, cs, rfl, hspace, -⟩ := htext.starts
  cases h with
  | @next b left _ _ hb h =>
    obtain ⟨b', left', hb', hup, rfl⟩ := h.upcoming
    refine ⟨b' ++ (c :: cs ++ (left' ++ ']' :: rest)), left', hup, ?_, ?_⟩
    · rw [List.append_assoc, List.cons_append, blanks_append_cons hb (by decide),
        List.append_assoc, List.append_assoc]
    · exact blanks_append_cons hb' hspace _

/-- The next element of a list, up to which there is only white space and perhaps a comma. -/
theorem elements_of_upcoming {f : Field τ} {fields : List (Field τ)} {index : Nat} {value : τ}
    {text : List Char} {texts : List (List Char)} {first : Bool} {left : List Char}
    (h : Upcoming first (text :: texts) left) (hfirst : first = true ↔ index = 0)
    (htext : IsValue text) (rest : List Char) :
    ∃ left', Upcoming false texts left'
      ∧ s.elements (f :: fields) index value (left ++ ']' :: rest)
        = f.read value (text ++ (left' ++ ']' :: rest)) >>= fun p =>
          s.elements fields (index + 1) p.1 p.2 := by
  obtain ⟨c, cs, rfl, hspace, hbracket⟩ := htext.starts
  cases h with
  | start h =>
    obtain ⟨b, left', hb, hup, rfl⟩ := h.upcoming
    refine ⟨left', hup, ?_⟩
    have hblanks : blanks (b ++ (c :: cs ++ left') ++ ']' :: rest)
        = c :: (cs ++ (left' ++ ']' :: rest)) := by
      rw [List.append_assoc, List.append_assoc, List.cons_append, blanks_append_cons hb hspace]
    rw [elements, hblanks]
    split
    · next heq => cases heq
    · next heq => exact absurd (List.cons.inj heq).1 hbracket
    · next heq =>
      cases heq
      -- the first item has no comma before it
      rw [if_pos (hfirst.mp rfl)]
      rfl
  | next hb h =>
    obtain ⟨tail, left', hup, hcomma, hblanks⟩ :=
      exists_comma_of_upcoming (.next hb h) htext rest
    refine ⟨left', hup, ?_⟩
    have hindex : index ≠ 0 := fun h => Bool.false_ne_true (hfirst.mpr h)
    rw [elements, hcomma]
    split
    · next heq => cases heq
    · next heq => exact absurd (List.cons.inj heq).1 (by decide)
    · next heq =>
      cases heq
      rw [if_neg hindex, if_pos rfl, hblanks]
      split
      · next heq => exact absurd (List.cons.inj heq).1 hbracket
      · next heq => cases heq
      · rfl

/-- The reader of elements does what becomes of them. -/
theorem elements_of_picks {fields : List (Field τ)} {index : Nat} {value : τ}
    {texts : List (List Char)} {o : Except Cause τ} (h : s.Picks fields index value texts o)
    (htexts : ∀ t ∈ texts, IsValue t) {first : Bool} {left : List Char}
    (hup : Upcoming first texts left) (hfirst : first = true ↔ index = 0) (rest : List Char) :
    Yields (s.elements fields index value (left ++ ']' :: rest)) rest o := by
  induction h generalizing first left with
  | @complete fields index value hrequired =>
    have hend := blanks_of_upcoming_nil hup (c := ']') (by decide) rest
    cases fields with
    | nil =>
      simp only [elements, endOfList, hend, bind, Except.bind]
      exact rfl
    | cons f fields =>
      simp only [elements, hend, hrequired]
      exact rfl
  | @misses fields index i value hrequired =>
    have hend := blanks_of_upcoming_nil hup (c := ']') (by decide) rest
    cases fields with
    | nil => cases hrequired
    | cons f fields =>
      simp only [elements, hend, hrequired]
      exact ⟨_, rfl⟩
  | long index value text texts =>
    -- where the list should end, there is a comma, and a value after it
    have htext := htexts _ (List.mem_cons_self ..)
    cases hup with
    | start h => exact absurd (hfirst.mp rfl) (Nat.succ_ne_zero index)
    | next hb h =>
      obtain ⟨tail, left', -, hcomma, hblanks⟩ :=
        exists_comma_of_upcoming (.next hb h) htext rest
      obtain ⟨c, cs, rfl, -, hbracket⟩ := htext.starts
      rw [List.cons_append] at hblanks
      simp only [elements, endOfList, hcomma, hblanks, bind, Except.bind]
      split
      · next heq =>
        split at heq
        · next hhead => exact absurd (List.cons.inj hhead).1 hbracket
        · cases heq
          exact ⟨_, rfl⟩
      · next heq =>
        split at heq
        · cases heq
        · cases heq
  | fails hread texts =>
    obtain ⟨left', hup', helements⟩ :=
      elements_of_upcoming hup hfirst (htexts _ (List.mem_cons_self ..)) rest
    obtain ⟨unread, hfault⟩ := hread [] _ blank_nil (ends_of_upcoming hup' (ends_bracket rest))
    rw [List.nil_append] at hfault
    exact ⟨unread, by rw [helements, hfault]; rfl⟩
  | reads hread _ ih =>
    obtain ⟨left', hup', helements⟩ :=
      elements_of_upcoming hup hfirst (htexts _ (List.mem_cons_self ..)) rest
    have hvalue : _ = Except.ok (_, _) :=
      hread [] _ blank_nil (ends_of_upcoming hup' (ends_bracket rest))
    rw [List.nil_append] at hvalue
    rw [helements, hvalue]
    exact ih (fun t ht => htexts t (List.mem_cons_of_mem _ ht)) hup' (by simp)

/-- A list becomes what becomes of its elements. -/
theorem reads_of_picks {texts : List (List Char)} {inside : List Char} (h : Parted texts inside)
    (htexts : ∀ t ∈ texts, IsValue t) {o : Except Cause τ}
    (hpicks : s.Picks s.fields 0 s.initial texts o) :
    Reads s.read ('[' :: (inside ++ [']'])) o := by
  intro b rest hb _
  have helements := elements_of_picks hpicks htexts (.start h) (by simp) rest
  simp only [read, List.cons_append, List.append_assoc, List.nil_append]
  rw [blanks_append_cons hb (by decide)]
  exact helements

/-! ## Outcomes for all members -/

/-- Every value of every member has an outcome. -/
def Settled (s : Shape τ) : Prop := ∀ f ∈ s.fields, ∀ value, Settles (f.read value)

/-- Every object has an outcome. The induction is on its members. -/
theorem exists_runs (hs : s.Settled) {ms : List (Except Cause String × List Char)}
    (hms : ∀ m ∈ ms, IsValue m.2) (seen : List String) (value : τ) :
    ∃ o, s.Runs seen value ms o := by
  induction ms generalizing seen value with
  | nil =>
    cases hmissing : s.missing? seen with
    | none => exact ⟨_, .complete hmissing⟩
    | some name => exact ⟨_, .misses hmissing⟩
  | cons m ms ih =>
    obtain ⟨_ | name, text⟩ := m
    · exact ⟨_, .badKey seen value _ text ms⟩
    obtain ⟨hvalue, hms⟩ := List.forall_mem_cons.mp hms
    cases hfind : s.fields.find? (·.name == name) with
    | none =>
      obtain ⟨o, hrest⟩ := ih hms seen value
      exact ⟨o, .unknown hfind hvalue hrest⟩
    | some f =>
      -- a name met twice ends the run, a new one is read
      by_cases hseen : f.name ∈ seen
      · exact ⟨_, .again hfind hseen value text ms⟩
      · obtain ⟨_ | value', hread⟩ := hs f (List.mem_of_find?_eq_some hfind) value text hvalue
        · exact ⟨_, .fails hfind hseen hread ms⟩
        · obtain ⟨o, hrest⟩ := ih hms (f.name :: seen) value'
          exact ⟨o, .reads hfind hseen hread hrest⟩

/-- Every list has an outcome. The induction is on its items. -/
theorem exists_picks {fields : List (Field τ)} (hs : ∀ f ∈ fields, ∀ value, Settles (f.read value))
    {texts : List (List Char)} (htexts : ∀ t ∈ texts, IsValue t) {index : Nat}
    (hindex : fields = [] → index ≠ 0) (value : τ) :
    ∃ o, s.Picks fields index value texts o := by
  induction texts generalizing fields index value with
  | nil =>
    cases hrequired : fields.findIdx? (·.required) with
    | none => exact ⟨_, .complete hrequired⟩
    | some i => exact ⟨_, .misses hrequired⟩
  | cons text texts ih =>
    obtain ⟨hvalue, htexts⟩ := List.forall_mem_cons.mp htexts
    cases fields with
    | nil =>
      obtain _ | index := index
      · exact absurd rfl (hindex rfl)
      · exact ⟨_, .long index value text texts⟩
    | cons f fields =>
      obtain ⟨hf, hs⟩ := List.forall_mem_cons.mp hs
      obtain ⟨_ | value', hread⟩ := hf value text hvalue
      · exact ⟨_, .fails hread texts⟩
      · obtain ⟨o, hrest⟩ := ih hs htexts (fun _ => Nat.succ_ne_zero index) value'
        exact ⟨o, .reads hread hrest⟩

/-! ## Either form -/

/-- If names are not used twice, a member is found by its name. -/
theorem find?_of_mem {fields : List (Field τ)} (hnodup : (fields.map Field.name).Nodup)
    {f : Field τ} (hf : f ∈ fields) : fields.find? (·.name == f.name) = some f := by
  induction fields with
  | nil => cases hf
  | cons g fields ih =>
    obtain ⟨hg, hnodup⟩ := List.nodup_cons.mp hnodup
    rcases List.mem_cons.mp hf with rfl | hf
    · rw [List.find?_cons_of_pos]
      exact beq_self_eq_true _
    · rw [List.find?_cons_of_neg, ih hnodup hf]
      intro heq
      exact hg (eq_of_beq heq ▸ List.mem_map_of_mem hf)

/-- Of a record of which nothing is required, the first members come to the same in a list as in an
object. -/
theorem picks_of_runs (hnodup : (s.fields.map Field.name).Nodup)
    (hlenient : ∀ f ∈ s.fields, f.required = false) (passed : List (Field τ))
    {fields : List (Field τ)} (hfields : s.fields = passed ++ fields)
    {ms : List (String × List Char)}
    (hms : ms.map (·.1) <+: fields.map Field.name) {seen : List String}
    (hseen : ∀ n ∈ seen, n ∈ passed.map Field.name) {value : τ} {o : Except Cause τ}
    (h : s.Runs seen value (named ms) o) :
    s.Picks fields passed.length value (ms.map (·.2)) o := by
  induction ms generalizing passed fields seen value with
  | nil =>
    cases h with
    | complete _ =>
      refine .complete (List.findIdx?_eq_none_iff.mpr fun f hf => ?_)
      exact hlenient f (hfields ▸ List.mem_append_right passed hf)
    | misses hmissing =>
      rw [missing?_eq_none hlenient] at hmissing
      cases hmissing
  | cons m ms ih =>
    obtain _ | ⟨f, fields⟩ := fields
    · cases List.prefix_nil.mp hms
    obtain ⟨hname, hms⟩ := List.cons_prefix_cons.mp hms
    change m.1 = f.name at hname
    -- the next element of the list is the member of this name, which has not been seen
    have hfresh : f.name ∉ passed.map Field.name := by
      rw [hfields, List.map_append, List.nodup_append] at hnodup
      intro hmem
      exact hnodup.2.2 _ hmem _ (List.mem_cons_self ..) rfl
    have hfind : s.fields.find? (·.name == m.1) = some f := by
      rw [hname]
      exact find?_of_mem hnodup (hfields ▸ List.mem_append_right _ (List.mem_cons_self ..))
    cases h with
    | unknown hnone => cases hfind.symm.trans hnone
    | again hsome hmem =>
      cases hfind.symm.trans hsome
      exact absurd (hseen _ hmem) hfresh
    | fails hsome _ hread =>
      cases hfind.symm.trans hsome
      exact .fails hread _
    | reads hsome _ hread hrest =>
      cases hfind.symm.trans hsome
      refine .reads hread ?_
      have hpicks := ih (passed ++ [f]) (by rw [hfields, List.append_assoc]; rfl) hms
        (by
          intro n hn
          rw [List.map_append, List.mem_append]
          rcases List.mem_cons.mp hn with rfl | hn
          · exact Or.inr (List.mem_singleton.mpr rfl)
          · exact Or.inl (hseen n hn)) hrest
      rwa [List.length_append] at hpicks

/-- A record of which nothing is required becomes what becomes of its members, in either form. -/
theorem reads_form (hnodup : (s.fields.map Field.name).Nodup)
    (hlenient : ∀ f ∈ s.fields, f.required = false) {ms : List (String × List Char)}
    {text : List Char} (h : IsForm (s.fields.map Field.name) ms text) {o : Except Cause τ}
    (hruns : s.Runs [] s.initial (named ms) o) : Reads s.read text o := by
  rcases h with hobject | ⟨hnames, hvalues, inside, hparted, rfl⟩
  · exact reads_of_runs_named hobject hruns
  · refine reads_of_picks hparted ?_ ?_
    · rw [List.forall_mem_map]
      exact hvalues
    · exact picks_of_runs hnodup hlenient [] rfl hnames (fun _ hn => absurd hn List.not_mem_nil)
        hruns

end Shape

end TunnelHost.Json
