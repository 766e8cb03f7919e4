import TunnelHost.Proofs.JsonMeaning
import TunnelHost.Proofs.JsonVerdicts
import TunnelHost.Proofs.RecordMembers

/-!
# Members that are left out

A text of a record may leave members out: any of them if it is an object, the last ones if it is a
list. If a member has a value that changes nothing while the record is in its initial form, leaving
the member out is the same as giving it that value. If it is required, nothing makes up for it. The
other members may be any, good or bad, and so may the order and the white space of the text.

- `Adds`, `Lacks`, `Gives`: the texts in question.
- `Shape.Idle`: a value that changes nothing.
- `Shape.runs_inserted`, `Shape.picks_appended`: one member more, in an object and in a list.
- `Shape.Runs.accepted_induction`, `Shape.Picks.accepted_induction`: records that are accepted, and
  from it what these have and what they keep.
- `Shape.reads_adds`, `Shape.reads_lacks_idle`, `Shape.reads_lacks_required`,
  `Shape.reads_gives_bad`: what becomes of the texts.
- `adds_write`, `lacks_write`, `gives_write`: objects that are written so.
-/

namespace TunnelHost.Json

variable {τ α : Type}

/-! ## The texts -/

/-- Members of any kind. -/
def AreMembers (raw : List (List Char × List Char)) : Prop := ∀ m ∈ raw, Quotable m.1 ∧ IsValue m.2

/-- A list of values. -/
def ListText (texts : List (List Char)) (text : List Char) : Prop :=
  (∀ t ∈ texts, IsValue t) ∧ ∃ inside, Parted texts inside ∧ text = '[' :: (inside ++ [']'])

/-- Two texts of a record, of which the second gives a value for one member more: somewhere between
the members of an object, or after the elements of a list. -/
inductive Adds (known : List String) (name : String) (value : List Char) :
    List Char → List Char → Prop
  | object {before after : List (List Char × List Char)} {key text text' : List Char}
      (hmembers : AreMembers (before ++ after)) (hkey : Spells name.toList key)
      (hlacks : ∀ m ∈ before ++ after, ¬ Spells name.toList m.1)
      (htext : ObjectText (before ++ after) text)
      (htext' : ObjectText (before ++ (key, value) :: after) text') :
      Adds known name value text text'
  | list {texts : List (List Char)} {text text' : List Char}
      (hnext : known[texts.length]? = some name) (htext : ListText texts text)
      (htext' : ListText (texts ++ [value]) text') : Adds known name value text text'

/-- A text of a record in which a member is left out. -/
inductive Lacks (known : List String) (name : String) : List Char → Prop
  | object {raw : List (List Char × List Char)} {text : List Char} (hmembers : AreMembers raw)
      (hlacks : ∀ m ∈ raw, ¬ Spells name.toList m.1) (htext : ObjectText raw text) :
      Lacks known name text
  | list {texts : List (List Char)} {text : List Char}
      (hshort : ∀ i, known[i]? = some name → texts.length ≤ i) (htext : ListText texts text) :
      Lacks known name text

/-- A text of a record in which a member has a given value. -/
inductive Gives (known : List String) (name : String) (value : List Char) : List Char → Prop
  | object {raw : List (List Char × List Char)} {key text : List Char} (hmembers : AreMembers raw)
      (hkey : Spells name.toList key) (hmember : (key, value) ∈ raw) (htext : ObjectText raw text) :
      Gives known name value text
  | list {texts : List (List Char)} {i : Nat} {text : List Char} (hname : known[i]? = some name)
      (hvalue : texts[i]? = some value) (htext : ListText texts text) : Gives known name value text

/-- A value of which a text consists, with white space around it. -/
def Encloses (s : String) (text : List Char) : Prop :=
  ∃ b b', Blank b ∧ Blank b' ∧ s.toList = b ++ (text ++ b')

/-- What becomes of a text is what becomes of its value, apart from the place of a fault. -/
theorem mapError_read {s : String} {text : List Char} {r : Reader α} {o : Except Cause α}
    (hs : Encloses s text) (h : Reads r text o) : (read r s).mapError Fault.cause = o := by
  obtain ⟨b, b', hb, hb', hs⟩ := hs
  cases o with
  | ok a =>
    rw [read_of_reads h hb hb' hs]
    rfl
  | error cause =>
    obtain ⟨unread, hfault⟩ := read_of_reads_error h hb hb' hs
    rw [hfault]
    rfl

/-- What is read of a member is put into the record. -/
theorem exists_put_of_reads {required : Bool} {name : String} {r : Reader α} {put : τ → α → τ}
    {value value' : τ} {text : List Char}
    (h : Reads ((Field.of required name r put).read value) text (.ok value')) :
    ∃ a, value' = put value a := by
  have hread : (r (text ++ []) >>= fun p => .ok (put value p.1, p.2)) = .ok (value', []) :=
    h [] [] blank_nil (ends_of_blank blank_nil)
  cases hr : r (text ++ []) with
  | error fault =>
    rw [hr] at hread
    cases hread
  | ok p =>
    rw [hr] at hread
    exact ⟨p.1, (Prod.mk.inj (Except.ok.inj hread)).1.symm⟩

namespace Shape

variable {s : Shape τ}

/-- A value of a member that changes nothing in a record of which one part is in its initial form.
No other member changes that part. -/
structure Idle (s : Shape τ) (initial : τ → Prop) (f : Field τ) (text : List Char) : Prop where
  mem : f ∈ s.fields
  lenient : f.required = false
  isValue : IsValue text
  reads : ∀ value, initial value → Reads (f.read value) text (.ok value)
  keeps : ∀ g ∈ s.fields, g.name ≠ f.name → ∀ value value' text', initial value →
    Reads (g.read value) text' (.ok value') → initial value'

variable {P : τ → Prop} {f : Field τ} {text : List Char} {seen seen' : List String}
  {value value' : τ} {o : Except Cause τ}

/-- What a member that may be left out has in the initial form changes nothing. -/
theorem idle_of {β : Type} {get : τ → β} {b : β} {name : String} {r : Reader β} {put : τ → β → τ}
    (hmem : .of false name r put ∈ s.fields) (hvalue : IsValue text) (hread : Reads r text (.ok b))
    (hput : ∀ value, get value = b → put value b = value)
    (hget : ∀ g ∈ s.fields, g.name ≠ name → ∀ value value' text',
      Reads (g.read value) text' (.ok value') → get value' = get value) :
    s.Idle (get · = b) (.of false name r put) text where
  mem := hmem
  lenient := rfl
  isValue := hvalue
  reads value hinitial := by
    have hreads := reads_put hread false name put value
    rwa [Except.map, hput value hinitial] at hreads
  keeps g hg hname value value' text' hinitial hreads :=
    (hget g hg hname value value' text' hreads).trans hinitial

/-! ## Objects -/

section Objects

variable {ms before after : List (Except Cause String × List Char)}

/-- Whether something is missing does not depend on a member that may be left out. -/
theorem missing?_congr {name : String}
    (hlenient : ∀ g ∈ s.fields, g.name = name → g.required = false)
    (hseen : ∀ n, n ≠ name → (n ∈ seen' ↔ n ∈ seen)) : s.missing? seen' = s.missing? seen := by
  have hfind : ∀ fields : List (Field τ), (∀ g ∈ fields, g.name = name → g.required = false) →
      fields.find? (fun g => g.required && !seen'.contains g.name)
        = fields.find? (fun g => g.required && !seen.contains g.name) := by
    intro fields
    induction fields with
    | nil => intro _; rfl
    | cons g fields ih =>
      intro hfields
      obtain ⟨hg, hfields⟩ := List.forall_mem_cons.mp hfields
      have hsame : (g.required && !seen'.contains g.name)
          = (g.required && !seen.contains g.name) := by
        -- the name that differs is not required, and so never the missing one
        by_cases hname : g.name = name
        · rw [hg hname]
          rfl
        · rw [Bool.eq_iff_iff]
          simp [hseen g.name hname]
      rw [List.find?_cons, List.find?_cons, hsame, ih hfields]
  rw [missing?, missing?, hfind s.fields hlenient]

theorem name_ne_of_find? {g : Field τ} {name name' : String}
    (hfind : s.fields.find? (·.name == name) = some g)
    (hne : (.ok name : Except Cause String) ≠ .ok name') : g.name ≠ name' := fun heq =>
  hne (congrArg Except.ok ((name_of_find? hfind).symm.trans heq))

/-- The members that come after do not depend on it either. -/
theorem runs_of_seen {name : String} (hlenient : ∀ g ∈ s.fields, g.name = name → g.required = false)
    (hms : ∀ m ∈ ms, m.1 ≠ .ok name) (hseen : ∀ n, n ≠ name → (n ∈ seen' ↔ n ∈ seen))
    (h : s.Runs seen value ms o) : s.Runs seen' value ms o := by
  induction h generalizing seen' with
  | complete hmissing => exact .complete ((missing?_congr hlenient hseen).trans hmissing)
  | misses hmissing => exact .misses ((missing?_congr hlenient hseen).trans hmissing)
  | badKey seen value cause text ms => exact .badKey seen' value cause text ms
  | unknown hfind hvalue _ ih =>
    exact .unknown hfind hvalue (ih (List.forall_mem_cons.mp hms).2 hseen)
  | @again seen _ g hfind hmem value text ms =>
    have hname := name_ne_of_find? hfind (List.forall_mem_cons.mp hms).1
    exact .again hfind ((hseen _ hname).mpr hmem) value text ms
  | @fails seen _ _ g _ _ hfind hmem hread ms =>
    have hname := name_ne_of_find? hfind (List.forall_mem_cons.mp hms).1
    exact .fails hfind (fun h => hmem ((hseen _ hname).mp h)) hread ms
  | @reads seen _ _ _ g _ _ _ hfind hmem hread _ ih =>
    have hname := name_ne_of_find? hfind (List.forall_mem_cons.mp hms).1
    refine .reads hfind (fun h => hmem ((hseen _ hname).mp h)) hread
      (ih (List.forall_mem_cons.mp hms).2 fun n hn => ?_)
    simp [hseen n hn]

/-- Among any members, one that changes nothing may stand anywhere. -/
theorem runs_inserted (hnodup : (s.fields.map Field.name).Nodup) (hidle : s.Idle P f text)
    (hms : ∀ m ∈ before ++ after, m.1 ≠ .ok f.name) (hseen : f.name ∉ seen) (hvalue : P value)
    (h : s.Runs seen value (before ++ after) o) :
    s.Runs seen value (before ++ (.ok f.name, text) :: after) o := by
  have hfound := find?_of_mem hnodup hidle.mem
  induction before generalizing seen value with
  | nil =>
    refine .reads hfound hseen (hidle.reads value hvalue) ?_
    -- having seen the name makes no difference to members that do not have it
    refine runs_of_seen ?_ hms ?_ h
    · intro g hg hname
      have hg := find?_of_mem hnodup hg
      rw [hname, hfound] at hg
      cases hg
      exact hidle.lenient
    · intro n hn
      simp [hn]
  | cons m before ih =>
    obtain ⟨hm, hothers⟩ := List.forall_mem_cons.mp hms
    cases h with
    | badKey => exact .badKey _ _ _ _ _
    | unknown hfind hother hrest => exact .unknown hfind hother (ih hothers hseen hvalue hrest)
    | again hfind hmem => exact .again hfind hmem _ _ _
    | fails hfind hmem hread => exact .fails hfind hmem hread _
    | @reads _ _ _ _ g _ _ _ hfind hmem hread hrest =>
      have hname := name_ne_of_find? hfind hm
      have hvalue' := hidle.keeps g (List.mem_of_find?_eq_some hfind) hname _ _ _ hvalue hread
      refine .reads hfind hmem hread (ih hothers ?_ hvalue' hrest)
      intro hmem
      rcases List.mem_cons.mp hmem with heq | hmem
      · exact hname heq.symm
      · exact hseen hmem

/-- Induction over a record that is accepted, of which no member is at fault. -/
@[elab_as_elim]
theorem Runs.accepted_induction
    {motive : ∀ seen value ms, s.Runs seen value ms (.ok value') → Prop}
    (complete : ∀ {seen} (hmissing : s.missing? seen = none),
      motive seen value' [] (.complete hmissing))
    (unknown : ∀ {seen value name text ms}
      (hfind : s.fields.find? (·.name == name) = none) (hvalue : IsValue text)
      (hrest : s.Runs seen value ms (.ok value')), motive seen value ms hrest →
      motive seen value ((.ok name, text) :: ms) (.unknown hfind hvalue hrest))
    (reads : ∀ {seen value value₁ name g text ms}
      (hfind : s.fields.find? (·.name == name) = some g) (hseen : g.name ∉ seen)
      (hread : Reads (g.read value) text (.ok value₁))
      (hrest : s.Runs (g.name :: seen) value₁ ms (.ok value')),
      motive (g.name :: seen) value₁ ms hrest →
      motive seen value ((.ok name, text) :: ms) (.reads hfind hseen hread hrest))
    (h : s.Runs seen value ms (.ok value')) : motive seen value ms h := by
  -- the outcome has to be a variable for the induction, with the equation carried along
  suffices hall : ∀ {o} (h : s.Runs seen value ms o) (ho : o = .ok value'),
      motive seen value ms (ho ▸ h) from hall h rfl
  clear h
  intro o h ho
  induction h with
  | complete hmissing =>
    cases ho
    exact complete hmissing
  | unknown hfind hvalue hrest ih => exact unknown hfind hvalue (ho ▸ hrest) (ih ho)
  | reads hfind hseen hread hrest ih => exact reads hfind hseen hread (ho ▸ hrest) (ih ho)
  | misses => cases ho
  | badKey => cases ho
  | again => cases ho
  | fails => cases ho

/-- What is left out stays as it was. -/
theorem Runs.keeps (hidle : s.Idle P f text) (h : s.Runs seen value ms (.ok value'))
    (hms : ∀ m ∈ ms, m.1 ≠ .ok f.name) (hvalue : P value) : P value' := by
  induction h using Runs.accepted_induction with
  | complete => exact hvalue
  | unknown _ _ _ ih => exact ih (List.forall_mem_cons.mp hms).2 hvalue
  | @reads _ _ _ _ g _ _ hfind _ hread _ ih =>
    obtain ⟨hm, hms⟩ := List.forall_mem_cons.mp hms
    have hname := name_ne_of_find? hfind hm
    exact ih hms (hidle.keeps g (List.mem_of_find?_eq_some hfind) hname _ _ _ hvalue hread)

/-- If a record is accepted, all members that are required were there. -/
theorem Runs.required (h : s.Runs seen value ms (.ok value')) (hf : f ∈ s.fields)
    (hrequired : f.required = true) : f.name ∈ seen ∨ ∃ m ∈ ms, m.1 = .ok f.name := by
  induction h using Runs.accepted_induction with
  | complete hmissing =>
    rw [missing?, Option.map_eq_none_iff, List.find?_eq_none] at hmissing
    exact Or.inl (by simpa [hrequired] using hmissing f hf)
  | unknown _ _ _ ih =>
    refine ih.imp_right ?_
    rintro ⟨m, hm, heq⟩
    exact ⟨m, List.mem_cons_of_mem _ hm, heq⟩
  | reads hfind _ _ _ ih =>
    rcases ih with hmem | ⟨m, hm, heq⟩
    · rcases List.mem_cons.mp hmem with heq | hmem
      · refine Or.inr ⟨_, List.mem_cons_self .., ?_⟩
        exact congrArg Except.ok ((name_of_find? hfind).symm.trans heq.symm)
      · exact Or.inl hmem
    · exact Or.inr ⟨m, List.mem_cons_of_mem _ hm, heq⟩

/-- If a record is accepted, all members that are known were read. -/
theorem Runs.each (h : s.Runs seen value ms (.ok value')) {name : String}
    (hfind : s.fields.find? (·.name == name) = some f) (hmem : (.ok name, text) ∈ ms) :
    ∃ v v', Reads (f.read v) text (.ok v') := by
  induction h using Runs.accepted_induction with
  | complete => cases hmem
  | unknown hnone _ _ ih =>
    rcases List.mem_cons.mp hmem with heq | hmem
    · cases heq
      cases hfind.symm.trans hnone
    · exact ih hmem
  | reads hsome _ hread _ ih =>
    rcases List.mem_cons.mp hmem with heq | hmem
    · cases heq
      cases hfind.symm.trans hsome
      exact ⟨_, _, hread⟩
    · exact ih hmem

end Objects

/-! ## Lists -/

section Lists

variable {fields : List (Field τ)} {index : Nat} {texts : List (List Char)}

/-- After the elements of a list, one that changes nothing may stand. -/
theorem picks_appended (hidle : s.Idle P f text) (hnext : fields[texts.length]? = some f)
    (hfields : ∀ g ∈ fields, g ∈ s.fields) (hnodup : (fields.map Field.name).Nodup)
    (hvalue : P value) (h : s.Picks fields index value texts o) :
    s.Picks fields index value (texts ++ [text]) o := by
  induction h with
  | @complete fields index value hrequired =>
    obtain _ | ⟨g, fields⟩ := fields
    · cases hnext
    obtain rfl : g = f := Option.some.inj hnext
    rw [List.findIdx?_cons, if_neg (by simp [hidle.lenient]), Option.map_eq_none_iff] at hrequired
    exact .reads (hidle.reads value hvalue) (.complete hrequired)
  | @misses fields index i value hrequired =>
    obtain _ | ⟨g, fields⟩ := fields
    · cases hnext
    obtain rfl : g = f := Option.some.inj hnext
    -- the member that is missing comes later, with the same number in the longer list
    rw [List.findIdx?_cons, if_neg (by simp [hidle.lenient]), Option.map_eq_some_iff] at hrequired
    obtain ⟨j, hj, rfl⟩ := hrequired
    have hmisses : s.Picks fields (index + 1) value [] _ := .misses hj
    rw [show index + 1 + j = index + (j + 1) by omega] at hmisses
    exact .reads (hidle.reads value hvalue) hmisses
  | long => cases hnext
  | fails hread texts => exact .fails hread _
  | @reads g fields index value value' t texts o hread _ ih =>
    obtain ⟨hg, hfields⟩ := List.forall_mem_cons.mp hfields
    obtain ⟨hfresh, hnodup⟩ := List.nodup_cons.mp hnodup
    have hname : g.name ≠ f.name := fun heq =>
      hfresh (heq ▸ List.mem_map_of_mem (List.mem_of_getElem? hnext))
    exact .reads hread (ih hnext hfields hnodup (hidle.keeps g hg hname _ _ _ hvalue hread))

/-- Induction over a list that is accepted, of which no element is at fault. -/
@[elab_as_elim]
theorem Picks.accepted_induction
    {motive : ∀ fields index value texts, s.Picks fields index value texts (.ok value') → Prop}
    (complete : ∀ {fields index} (hrequired : fields.findIdx? Field.required = none),
      motive fields index value' [] (.complete hrequired))
    (reads : ∀ {g fields index value value₁ text texts}
      (hread : Reads (g.read value) text (.ok value₁))
      (hrest : s.Picks fields (index + 1) value₁ texts (.ok value')),
      motive fields (index + 1) value₁ texts hrest →
      motive (g :: fields) index value (text :: texts) (.reads hread hrest))
    {fields : List (Field τ)} {index : Nat} {value : τ} {texts : List (List Char)}
    (h : s.Picks fields index value texts (.ok value')) : motive fields index value texts h := by
  -- the outcome is generalised, so that the impossible cases go by `cases`
  suffices hall : ∀ {o} (h : s.Picks fields index value texts o) (ho : o = .ok value'),
      motive fields index value texts (ho ▸ h) from hall h rfl
  clear h
  intro o h ho
  induction h with
  | complete hrequired =>
    cases ho
    exact complete hrequired
  | reads hread hrest ih => exact reads hread (ho ▸ hrest) (ih ho)
  | misses => cases ho
  | long => cases ho
  | fails => cases ho

/-- What is left out stays as it was. -/
theorem Picks.keeps (hidle : s.Idle P f text) (h : s.Picks fields index value texts (.ok value'))
    (hfields : ∀ g ∈ fields, g ∈ s.fields)
    (hshort : ∀ i, (fields.map Field.name)[i]? = some f.name → texts.length ≤ i)
    (hvalue : P value) : P value' := by
  induction h using Picks.accepted_induction with
  | complete => exact hvalue
  | @reads g fields _ _ _ _ texts hread _ ih =>
    obtain ⟨hg, hfields⟩ := List.forall_mem_cons.mp hfields
    have hname : g.name ≠ f.name := fun heq =>
      absurd (hshort 0 (congrArg some heq)) (Nat.not_succ_le_zero _)
    refine ih hfields (fun i hi => ?_) (hidle.keeps g hg hname _ _ _ hvalue hread)
    exact Nat.le_of_succ_le_succ (hshort (i + 1) hi)

/-- If a list is accepted, all members that are required were there. -/
theorem Picks.required (h : s.Picks fields index value texts (.ok value')) {i : Nat}
    (hf : fields[i]? = some f) (hrequired : f.required = true) : i < texts.length := by
  induction h using Picks.accepted_induction generalizing i with
  | complete hnone =>
    have hfalse := List.findIdx?_eq_none_iff.mp hnone f (List.mem_of_getElem? hf)
    rw [hrequired] at hfalse
    cases hfalse
  | reads _ _ ih =>
    obtain _ | i := i
    · exact Nat.succ_pos _
    · exact Nat.succ_lt_succ (ih hf)

/-- If a list is accepted, all its elements were read. -/
theorem Picks.each (h : s.Picks fields index value texts (.ok value')) {i : Nat}
    (hf : fields[i]? = some f) (htext : texts[i]? = some text) :
    ∃ v v', Reads (f.read v) text (.ok v') := by
  induction h using Picks.accepted_induction generalizing i with
  | complete => cases htext
  | reads hread _ ih =>
    obtain _ | i := i
    · cases Option.some.inj hf
      cases Option.some.inj htext
      exact ⟨_, _, hread⟩
    · exact ih hf htext

end Lists

/-! ## Either form -/

section Texts

variable {raw : List (List Char × List Char)} {ms : List (Except Cause String × List Char)}
  {text' part : List Char} {name : String}

/-- The keys of an object mean names, or are faults. -/
theorem exists_decoded (hraw : AreMembers raw) : ∃ ms, List.Forall₂ Decoded ms raw := by
  induction raw with
  | nil => exact ⟨[], .nil⟩
  | cons r raw ih =>
    obtain ⟨⟨hkey, -⟩, hraw⟩ := List.forall_mem_cons.mp hraw
    obtain ⟨key, hkey⟩ := exists_decodes hkey
    obtain ⟨ms, hms⟩ := ih hraw
    exact ⟨(key, r.2) :: ms, .cons ⟨hkey, rfl⟩ hms⟩

section Decoded

variable (hms : List.Forall₂ Decoded ms raw)
include hms

theorem isValue_of_decoded (hraw : AreMembers raw) : ∀ m ∈ ms, IsValue m.2 := by
  intro m hm
  obtain ⟨r, hr, -, heq⟩ := forall₂_mem_left hms hm
  exact heq ▸ (hraw r hr).2

/-- A name that no key spells is not among the decoded keys. -/
theorem name_ne_of_decoded (hlacks : ∀ r ∈ raw, ¬ Spells name.toList r.1) :
    ∀ m ∈ ms, m.1 ≠ .ok name := by
  intro m hm heq
  obtain ⟨r, hr, hkey, -⟩ := forall₂_mem_left hms hm
  rw [heq] at hkey
  exact hlacks r hr hkey

end Decoded

/-- What becomes of an object of any members. -/
theorem exists_reads_object (hs : s.Settled) (hraw : AreMembers raw) (htext : ObjectText raw text) :
    ∃ ms o, List.Forall₂ Decoded ms raw ∧ s.Runs [] s.initial ms o ∧ Reads s.read text o := by
  obtain ⟨ms, hms⟩ := exists_decoded hraw
  obtain ⟨o, hruns⟩ := exists_runs hs (isValue_of_decoded hms hraw) [] s.initial
  exact ⟨ms, o, hms, hruns, reads_of_runs htext hms hruns⟩

/-- What becomes of a list of any values. -/
theorem exists_reads_list (hs : s.Settled) (hf : f ∈ s.fields) {texts : List (List Char)}
    (htext : ListText texts text) :
    ∃ o, s.Picks s.fields 0 s.initial texts o ∧ Reads s.read text o := by
  obtain ⟨hvalues, inside, hinside, rfl⟩ := htext
  obtain ⟨o, hpicks⟩ := exists_picks hs hvalues (fun hnil => absurd hf (hnil ▸ List.not_mem_nil))
    s.initial
  exact ⟨o, hpicks, reads_of_picks hinside hvalues hpicks⟩

theorem fields_getElem?_of_known (hnodup : (s.fields.map Field.name).Nodup) (hf : f ∈ s.fields)
    {i : Nat} (hi : (s.fields.map Field.name)[i]? = some f.name) : s.fields[i]? = some f := by
  rw [List.getElem?_map, Option.map_eq_some_iff] at hi
  obtain ⟨g, hg, hname⟩ := hi
  have hfind := find?_of_mem hnodup (List.mem_of_getElem? hg)
  rw [hname, find?_of_mem hnodup hf] at hfind
  rw [hg, hfind]

/-- Leaving a member out is the same as giving it a value that changes nothing. -/
theorem reads_adds (hnodup : (s.fields.map Field.name).Nodup) (hs : s.Settled)
    (hidle : s.Idle P f part) (hinitial : P s.initial)
    (h : Adds (s.fields.map Field.name) f.name part text text') :
    ∃ o, Reads s.read text o ∧ Reads s.read text' o := by
  cases h with
  | @object before after key _ _ hmembers hkey hlacks htext htext' =>
    -- both texts have the same other members, so what is known of one run holds of the other
    obtain ⟨before', hbefore⟩ :=
      exists_decoded fun m hm => hmembers m (List.mem_append_left after hm)
    obtain ⟨after', hafter⟩ :=
      exists_decoded fun m hm => hmembers m (List.mem_append_right before hm)
    have hms := List.rel_append hbefore hafter
    obtain ⟨o, hruns⟩ := exists_runs hs (isValue_of_decoded hms hmembers) [] s.initial
    have hruns' := runs_inserted hnodup hidle (name_ne_of_decoded hms hlacks) List.not_mem_nil
      hinitial hruns
    have hown : Decoded (.ok f.name, part) (key, part) := ⟨hkey, rfl⟩
    exact ⟨o, reads_of_runs htext hms hruns,
      reads_of_runs htext' (List.rel_append hbefore (.cons hown hafter)) hruns'⟩
  | list hnext htext htext' =>
    obtain ⟨o, hpicks, hreads⟩ := exists_reads_list hs hidle.mem htext
    obtain ⟨hvalues, inside, hinside, rfl⟩ := htext'
    exact ⟨o, hreads, reads_of_picks hinside hvalues
      (picks_appended hidle (fields_getElem?_of_known hnodup hidle.mem hnext) (fun _ hg => hg)
        hnodup hinitial hpicks)⟩

/-- What is left out stays as it was. -/
theorem reads_lacks_idle (hs : s.Settled) (hidle : s.Idle P f part) (hinitial : P s.initial)
    (h : Lacks (s.fields.map Field.name) f.name text) :
    ∃ o, Reads s.read text o ∧ ∀ value, o = .ok value → P value := by
  cases h with
  | object hmembers hlacks htext =>
    obtain ⟨ms, o, hms, hruns, hreads⟩ := exists_reads_object hs hmembers htext
    refine ⟨o, hreads, ?_⟩
    rintro value rfl
    exact hruns.keeps hidle (name_ne_of_decoded hms hlacks) hinitial
  | list hshort htext =>
    obtain ⟨o, hpicks, hreads⟩ := exists_reads_list hs hidle.mem htext
    refine ⟨o, hreads, ?_⟩
    rintro value rfl
    exact hpicks.keeps hidle (fun _ hg => hg) hshort hinitial

/-- What is required cannot be left out. -/
theorem reads_lacks_required (hs : s.Settled) (hf : f ∈ s.fields) (hrequired : f.required = true)
    (h : Lacks (s.fields.map Field.name) f.name text) :
    ∃ cause, Reads s.read text (.error cause) := by
  cases h with
  | object hmembers hlacks htext =>
    obtain ⟨ms, _ | value, hms, hruns, hreads⟩ := exists_reads_object hs hmembers htext
    · exact ⟨_, hreads⟩
    · obtain hseen | ⟨m, hm, hname⟩ := hruns.required hf hrequired
      · cases hseen
      · exact absurd hname (name_ne_of_decoded hms hlacks m hm)
  | list hshort htext =>
    obtain ⟨_ | value, hpicks, hreads⟩ := exists_reads_list hs hf htext
    · exact ⟨_, hreads⟩
    · obtain ⟨i, hi⟩ := List.mem_iff_getElem?.mp hf
      have hlt := hpicks.required hi hrequired
      have hle := hshort i (by rw [List.getElem?_map, hi]; rfl)
      omega

/-- What is given for a member has to be a value that its reader takes. -/
theorem reads_gives_bad (hnodup : (s.fields.map Field.name).Nodup) (hs : s.Settled)
    (hf : f ∈ s.fields) (hbad : ∀ value value', ¬ Reads (f.read value) part (.ok value'))
    (h : Gives (s.fields.map Field.name) f.name part text) :
    ∃ cause, Reads s.read text (.error cause) := by
  cases h with
  | @object raw key _ hmembers hkey hmember htext =>
    obtain ⟨before, after, rfl⟩ := List.append_of_mem hmember
    obtain ⟨before', hbefore⟩ := exists_decoded fun m hm => hmembers m (List.mem_append_left _ hm)
    obtain ⟨after', hafter⟩ := exists_decoded fun m hm =>
      hmembers m (List.mem_append_right _ (List.mem_cons_of_mem _ hm))
    have hown : Decoded (.ok f.name, part) (key, part) := ⟨hkey, rfl⟩
    have hms := List.rel_append hbefore (.cons hown hafter)
    obtain ⟨_ | value, hruns⟩ := exists_runs hs (isValue_of_decoded hms hmembers) [] s.initial
    · exact ⟨_, reads_of_runs htext hms hruns⟩
    -- an accepted run would have read the bad part
    · obtain ⟨v, v', hread⟩ := hruns.each (find?_of_mem hnodup hf)
        (List.mem_append_right _ (List.mem_cons_self ..))
      exact absurd hread (hbad v v')
  | list hname hvalue htext =>
    obtain ⟨_ | value, hpicks, hreads⟩ := exists_reads_list hs hf htext
    · exact ⟨_, hreads⟩
    · obtain ⟨v, v', hread⟩ :=
        hpicks.each (fields_getElem?_of_known hnodup hf hname) hvalue
      exact absurd hread (hbad v v')

end Texts

end Shape

/-! ## Written objects -/

section Written

variable {layout : Layout} {depth : Nat} {name : String} {ms before after : List (String × Value)}

theorem isValue_quote (s : String) : IsValue (quote s) := .string (spells_flatMap s.toList).quotable

theorem encloses_compact (v : Value) : Encloses v.compact (v.write .compact 0) :=
  ⟨[], [], blank_nil, blank_nil, by rw [Value.compact, String.toList_ofList]; simp⟩

theorem areMembers_written (hvalues : ∀ m ∈ ms, IsValue (m.2.write layout depth)) :
    AreMembers (writtenMembers layout depth ms) := by
  intro r hr
  obtain ⟨m, hm, rfl⟩ := List.mem_map.mp hr
  exact ⟨(spells_flatMap m.1.toList).quotable, hvalues m hm⟩

/-- What is written under other names spells none of its own. -/
theorem not_spells_written (hname : name ∉ ms.map Prod.fst) :
    ∀ r ∈ writtenMembers layout depth ms, ¬ Spells name.toList r.1 := by
  intro r hr hspells
  obtain ⟨m, hm, rfl⟩ := List.mem_map.mp hr
  have hsame := String.toList_injective (hspells.unique (spells_flatMap m.1.toList))
  exact hname (List.mem_map.mpr ⟨m, hm, hsame.symm⟩)

/-- An object is written without a member, and with it. -/
theorem adds_write (known : List String) (value : Value)
    (hvalues : ∀ m ∈ before ++ after, IsValue (m.2.write layout (depth + 1)))
    (hname : name ∉ (before ++ after).map Prod.fst) :
    Adds known name (value.write layout (depth + 1))
      ((Value.object (before ++ after)).write layout depth)
      ((Value.object (before ++ (name, value) :: after)).write layout depth) := by
  have happend : writtenMembers layout (depth + 1) (before ++ after)
      = writtenMembers layout (depth + 1) before ++ writtenMembers layout (depth + 1) after :=
    List.map_append
  have hmembers := areMembers_written hvalues
  have hlacks : ∀ r ∈ writtenMembers layout (depth + 1) (before ++ after),
      ¬ Spells name.toList r.1 := not_spells_written hname
  have htext := objectText_write layout depth (before ++ after)
  rw [happend] at hmembers hlacks htext
  refine .object hmembers (spells_flatMap name.toList) hlacks htext ?_
  have htext' := objectText_write layout depth (before ++ (name, value) :: after)
  rwa [writtenMembers, List.map_append] at htext'

theorem lacks_write (known : List String)
    (hvalues : ∀ m ∈ ms, IsValue (m.2.write layout (depth + 1))) (hname : name ∉ ms.map Prod.fst) :
    Lacks known name ((Value.object ms).write layout depth) :=
  .object (areMembers_written hvalues) (not_spells_written hname) (objectText_write layout depth ms)

theorem gives_write (known : List String) (value : Value)
    (hvalues : ∀ m ∈ ms, IsValue (m.2.write layout (depth + 1))) (hmember : (name, value) ∈ ms) :
    Gives known name (value.write layout (depth + 1)) ((Value.object ms).write layout depth) :=
  .object (areMembers_written hvalues) (spells_flatMap name.toList)
    (List.mem_map.mpr ⟨_, hmember, rfl⟩) (objectText_write layout depth ms)

end Written

end TunnelHost.Json
