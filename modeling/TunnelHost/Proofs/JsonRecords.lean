import TunnelHost.Proofs.RecordRuns

/-!
# Reading records

Where every member is good, or at fault in a known way, more can be said of a record than what
becomes of it: each known member makes an entry, which changes the record or finds fault with it,
and the entries are taken in their order, whatever stands between them.

- `Entry`, `Shape.enter`: the entries of a record, taken one after the other.
- `Carries`: the entries that some members make.
- `Shape.runs_of_carries`: the run over the members, by induction on them.
- `Shape.reads_record`: the reader of a record.
- `Shape.enter_map`, `get_foldl`: a record whose members may be left out, none of them twice: what
  it becomes, and what one part of it becomes.
-/

namespace TunnelHost.Json

variable {τ μ β : Type}

/-- What a known member does to a record. -/
structure Entry (τ : Type) where
  name : String
  edit : τ → Except Cause τ

namespace Shape

variable (s : Shape τ)

/-- Takes the entries of a record one after the other. None may come twice, and none that is
required may be missing at the end. -/
def enter : (seen : List String) → τ → List (Entry τ) → Except Cause τ
  | seen, value, [] =>
    match s.missing? seen with
    | some name => .error (.missingField name)
    | none => .ok value
  | seen, value, e :: es =>
    if seen.contains e.name then .error (.duplicateField e.name)
    else do enter (e.name :: seen) (← e.edit value) es

/-- A text is what a member has whose value makes the entry. -/
def Takes (text : List Char) (e : Entry τ) : Prop :=
  ∃ f, s.fields.find? (·.name == e.name) = some f
    ∧ ∀ value, Reads (f.read value) text (e.edit value)

/-- The entries that members make. Members that are not known make none. -/
inductive Carries : List (String × List Char) → List (Entry τ) → Prop where
  | nil : Carries [] []
  | skip {name : String} {text : List Char} {ms : List (String × List Char)}
      {es : List (Entry τ)} :
      s.fields.find? (·.name == name) = none → IsValue text → Carries ms es →
      Carries ((name, text) :: ms) es
  | take {e : Entry τ} {text : List Char} {ms : List (String × List Char)}
      {es : List (Entry τ)} :
      s.Takes text e → Carries ms es → Carries ((e.name, text) :: ms) (e :: es)

variable {s}

/-! ## Reading -/

/-- What becomes of members is what their entries make of the record. -/
theorem runs_of_carries {ms : List (String × List Char)} {es : List (Entry τ)}
    (h : s.Carries ms es) (seen : List String) (value : τ) :
    s.Runs seen value (named ms) (s.enter seen value es) := by
  induction h generalizing seen value with
  | nil =>
    rw [enter]
    cases hmissing : s.missing? seen with
    | none => exact .complete hmissing
    | some name => exact .misses hmissing
  | skip hfind hvalue _ ih => exact .unknown hfind hvalue (ih seen value)
  | @take e text ms es htakes _ ih =>
    obtain ⟨name, edit⟩ := e
    obtain ⟨f, hfind, hreads⟩ := htakes
    obtain rfl : f.name = name := name_of_find? hfind
    rw [enter]
    dsimp only
    -- a member that was there before is refused before its value is read
    by_cases hseen : f.name ∈ seen
    · rw [if_pos (List.contains_iff_mem.mpr hseen)]
      exact .again hfind hseen value text _
    · rw [if_neg fun h => hseen (List.contains_iff_mem.mp h)]
      have hread : Reads (f.read value) text (edit value) := hreads value
      cases hedit : edit value with
      | error cause => exact .fails hfind hseen (hedit ▸ hread) _
      | ok value' => exact .reads hfind hseen (hedit ▸ hread) (ih (f.name :: seen) value')

/-- A record carries what its known members carry. The others are passed over. -/
theorem carries_of_known {known : List String} (hknown : s.fields.map (·.name) = known)
    {entry : μ → Entry τ} {IsText : μ → List Char → Prop}
    (htakes : ∀ m text, IsText m text → s.Takes text (entry m))
    {all : List (String × List Char)} {ms : List μ} (hvalues : ∀ r ∈ all, r.1 ∉ known → IsValue r.2)
    (h : List.Forall₂ (fun m r => r.1 = (entry m).name ∧ IsText m r.2) ms
      (all.filter fun r => r.1 ∈ known)) : s.Carries all (ms.map entry) := by
  induction all generalizing ms with
  | nil =>
    cases h
    exact .nil
  | cons r all ih =>
    obtain ⟨hr, hall⟩ := List.forall_mem_cons.mp hvalues
    by_cases hmem : r.1 ∈ known
    · rw [List.filter_cons_of_pos (by simpa using hmem)] at h
      obtain ⟨m, ms', ⟨hname, htext⟩, hms, rfl⟩ := List.forall₂_cons_right_iff.mp h
      obtain ⟨name, text⟩ := r
      cases hname
      exact .take (htakes m text htext) (ih hall hms)
    · rw [List.filter_cons_of_neg (by simpa using hmem)] at h
      -- a name that is not known is the name of no field
      refine .skip ?_ (hr hmem) (ih hall h)
      rw [List.find?_eq_none]
      intro f hf heq
      refine hmem ?_
      rw [← hknown, ← show f.name = r.1 by simpa using heq]
      exact List.mem_map_of_mem hf

/-- A record is read as its known members say, whatever stands between them. -/
theorem reads_record {known : List String} (hknown : s.fields.map (·.name) = known)
    {entry : μ → Entry τ} {IsText : μ → List Char → Prop}
    (htakes : ∀ m text, IsText m text → s.Takes text (entry m)) {ms : List μ} {text : List Char}
    (h : IsRecord known (fun m => (entry m).name) IsText ms text) :
    Reads s.read text (s.enter [] s.initial (ms.map entry)) := by
  obtain ⟨all, hobject, hvalues, hms⟩ := h
  exact reads_of_runs_named hobject
    (runs_of_carries (carries_of_known hknown htakes hvalues hms) [] s.initial)

theorem takes_of_reads {α : Type} (s : Shape τ) {required : Bool} (name : String) {r : Reader α}
    (put : τ → α → τ) {text : List Char} {o : Except Cause α}
    (hfind : s.fields.find? (·.name == name) = some (.of required name r put))
    (h : Reads r text o) : s.Takes text ⟨name, fun value => o.map (put value)⟩ :=
  ⟨_, hfind, fun value => h.map (put value)⟩

end Shape

/-! ## Records of which nothing is required -/

/-- Some member was there twice. -/
def Repeats (o : Except Cause τ) : Prop := ∃ name, o = .error (.duplicateField name)

theorem Repeats.map {o : Except Cause τ} (h : Repeats o) (f : τ → β) : Repeats (o.map f) := by
  obtain ⟨name, rfl⟩ := h
  exact ⟨name, rfl⟩

namespace Shape

variable {s : Shape τ}

/-- Members that change the record and of which none is there twice change it one after the
other. -/
theorem enter_map (hlenient : ∀ f ∈ s.fields, f.required = false) {entry : μ → Entry τ}
    {put : τ → μ → τ} {ms : List μ}
    (hput : ∀ m ∈ ms, ∀ value, (entry m).edit value = .ok (put value m))
    (hnodup : (ms.map fun m => (entry m).name).Nodup) {seen : List String}
    (hseen : ∀ m ∈ ms, (entry m).name ∉ seen) (value : τ) :
    s.enter seen value (ms.map entry) = .ok (ms.foldl put value) := by
  induction ms generalizing seen value with
  | nil => simp only [List.map_nil, enter, missing?_eq_none hlenient, List.foldl_nil]
  | cons m ms ih =>
    obtain ⟨hm, hms⟩ := List.forall_mem_cons.mp hput
    obtain ⟨hfresh, hseen⟩ := List.forall_mem_cons.mp hseen
    obtain ⟨hnew, hnodup⟩ := List.nodup_cons.mp hnodup
    -- a name that was seen is not met again, as no two members share one
    have hrest : ∀ m' ∈ ms, (entry m').name ∉ (entry m).name :: seen := by
      intro m' hm'
      rw [List.mem_cons, not_or]
      exact ⟨fun heq => hnew (List.mem_map.mpr ⟨m', hm', heq⟩), hseen m' hm'⟩
    have hcontains : ¬ seen.contains (entry m).name := by
      rwa [List.contains_iff_mem]
    simp only [List.map_cons, enter, hcontains, hm value, bind, Except.bind, List.foldl_cons,
      if_false, Bool.false_eq_true]
    exact ih hms hnodup hrest (put value m)

/-- A name that comes twice is told, and so is one inside a member. -/
theorem enter_repeats {es : List (Entry τ)}
    (hes : ∀ e ∈ es, ∀ value, (∃ value', e.edit value = .ok value') ∨ Repeats (e.edit value))
    {seen : List String}
    (h : ¬ (es.map (·.name)).Nodup ∨ (∃ e ∈ es, e.name ∈ seen)
      ∨ ∃ e ∈ es, ∀ value, Repeats (e.edit value)) (value : τ) :
    Repeats (s.enter seen value es) := by
  induction es generalizing seen value with
  | nil => simp at h
  | cons e es ih =>
    obtain ⟨he, hes⟩ := List.forall_mem_cons.mp hes
    by_cases hseen : e.name ∈ seen
    · have hcontains : seen.contains e.name := List.contains_iff_mem.mpr hseen
      exact ⟨e.name, by simp only [enter, hcontains, if_true]⟩
    · have hcontains : ¬ seen.contains e.name := by
        rwa [List.contains_iff_mem]
      simp only [enter, hcontains, if_false, Bool.false_eq_true]
      rcases he value with ⟨value', hvalue⟩ | hrepeats
      · simp only [hvalue, bind, Except.bind]
        refine ih hes ?_ value'
        -- what is wrong with the whole is wrong with the rest, or lies between `e` and the rest
        rcases h with hnodup | ⟨e', he', hmem⟩ | ⟨e', he', hrepeats⟩
        · rw [List.map_cons, List.nodup_cons, not_and_or, not_not] at hnodup
          rcases hnodup with hmem | hnodup
          · obtain ⟨e', he', heq⟩ := List.mem_map.mp hmem
            exact Or.inr (Or.inl ⟨e', he', by rw [heq]; exact List.mem_cons_self ..⟩)
          · exact Or.inl hnodup
        · rcases List.mem_cons.mp he' with rfl | he'
          · exact absurd hmem hseen
          · exact Or.inr (Or.inl ⟨e', he', List.mem_cons_of_mem _ hmem⟩)
        · rcases List.mem_cons.mp he' with rfl | he'
          · obtain ⟨name, hname⟩ := hrepeats value
            rw [hvalue] at hname
            cases hname
          · exact Or.inr (Or.inr ⟨e', he', hrepeats⟩)
      · obtain ⟨name, hname⟩ := hrepeats
        exact ⟨name, by simp only [hname, bind, Except.bind]⟩

/-! ### Members that only set a part -/

section

variable (name : μ → String) (put : τ → μ → τ)

/-- What a record becomes of which members are written that each set some part of it. -/
def build (s : Shape τ) (ms : List μ) : Except Cause τ :=
  s.enter [] s.initial (ms.map fun m => ⟨name m, fun value => .ok (put value m)⟩)

variable {name put} {ms : List μ}

/-- Without repetitions the members are put in one after the other. -/
theorem build_of_nodup (hlenient : ∀ f ∈ s.fields, f.required = false)
    (h : (ms.map name).Nodup) : s.build name put ms = .ok (ms.foldl put s.initial) :=
  enter_map hlenient (fun _ _ _ => rfl) h (fun _ _ => List.not_mem_nil) s.initial

/-- A repetition is refused, wherever it is. -/
theorem build_repeats (h : ¬ (ms.map name).Nodup) : Repeats (s.build name put ms) := by
  refine enter_repeats ?_ (Or.inl ?_) s.initial
  · intro e he value
    obtain ⟨m, -, rfl⟩ := List.mem_map.mp he
    exact Or.inl ⟨_, rfl⟩
  · rw [List.map_map]
    exact h

/-- A record is read as what its members build. -/
theorem reads_build {known : List String} (hknown : s.fields.map (·.name) = known)
    {IsText : μ → List Char → Prop}
    (htakes : ∀ m text, IsText m text → s.Takes text ⟨name m, fun value => .ok (put value m)⟩)
    {text : List Char} (h : IsRecord known name IsText ms text) :
    Reads s.read text (s.build name put ms) :=
  reads_record hknown htakes h

end

end Shape

/-! ## One part of a record -/

/-- What one part of a record becomes: the value of the member for it, or what it was. -/
theorem get_foldl (get : τ → β) {put : τ → μ → τ} (value? : μ → Option β) {name : μ → String}
    (own : String) (hput : ∀ value m, get (put value m) = (value? m).getD (get value))
    (hown : ∀ m b, value? m = some b → name m = own) {ms : List μ}
    (hnodup : (ms.map name).Nodup) (value : τ) :
    get (ms.foldl put value) = (ms.findSome? value?).getD (get value) := by
  induction ms generalizing value with
  | nil => rfl
  | cons m ms ih =>
    obtain ⟨hnew, hnodup⟩ := List.nodup_cons.mp hnodup
    rw [List.foldl_cons, ih hnodup, hput, List.findSome?_cons]
    cases hm : value? m with
    | none => rfl
    | some b =>
      have hnone : ms.findSome? value? = none := by
        rw [List.findSome?_eq_none_iff]
        intro m' hm'
        cases hother : value? m' with
        | none => rfl
        | some b' =>
          have heq : name m' = name m := (hown m' b' hother).trans (hown m b hm).symm
          exact absurd (List.mem_map.mpr ⟨m', hm', heq⟩) hnew
      rw [hnone]
      rfl

end TunnelHost.Json
