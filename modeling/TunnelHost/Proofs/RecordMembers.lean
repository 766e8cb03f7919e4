import TunnelHost.Proofs.RecordRuns

/-!
# One member of a record

What becomes of a record in which the value of one member is anything at all and the others are
good: that member decides. So a statement about all values of a member is one about its reader.

- `Writes`: the texts of such a record.
- `Shape.Harmless`: a good member.
- `Shape.Decides`: the outcome for one part is that for the record.
- `Shape.runs_among`, `Shape.reads_writes`: a member among good ones.
-/

namespace TunnelHost.Json

variable {τ α : Type}

/-- The text of a record of which one member has a given value and all others are good. None that
is known is there twice. -/
def Writes (known : List String) (Good : String × List Char → Prop) (own : String)
    (value text : List Char) : Prop :=
  ∃ before after, IsForm known (before ++ (own, value) :: after) text
    ∧ (before ++ (own, value) :: after).Pairwise (fun m m' => m.1 = m'.1 → m.1 ∉ known)
    ∧ ∀ m ∈ before ++ after, m.1 ≠ own ∧ Good m

/-- A record with one member. -/
theorem writes_alone {known : List String} {Good : String × List Char → Prop} {own : String}
    {key : List Char} (hkey : Spells own.toList key) (value : List Char) :
    Writes known Good own value ('\x7b' :: ('"' :: (key ++ '"' :: ':' :: value) ++ ['\x7d'])) := by
  refine ⟨[], [], .inl ⟨[(key, value)], ?_, .cons ⟨hkey, rfl⟩ .nil⟩,
    List.pairwise_singleton _ _, by simp⟩
  exact ⟨_, _, .cons ⟨[], [], blank_nil, blank_nil, rfl⟩ .nil, .one blank_nil blank_nil, by simp⟩

namespace Shape

variable {s : Shape τ}

/-! ## A member among good ones -/

/-- A member that leaves a record good: it is not known, or its value is read, and one part of the
record is not touched by it. -/
def Harmless (s : Shape τ) (P : τ → Prop) (get : τ → α) (m : String × List Char) : Prop :=
  (s.fields.find? (·.name == m.1) = none ∧ IsValue m.2)
    ∨ ∃ f, s.fields.find? (·.name == m.1) = some f ∧ ∀ value, P value →
        ∃ value', Reads (f.read value) m.2 (.ok value') ∧ P value' ∧ get value' = get value

/-- The outcome for one part is that for the record, which is good apart from it. -/
def Decides (P : τ → Prop) (get : τ → α) (o : Except Cause α) (out : Except Cause τ) : Prop :=
  match o with
  | .ok a => ∃ value, out = .ok value ∧ P value ∧ get value = a
  | .error cause => out = .error cause

variable {P : τ → Prop} {get : τ → α} {before after ms : List (String × List Char)}
  {own : String} {text : List Char} {o : Except Cause α} {seen : List String} {value : τ}

/-- A part of the part that decides decides itself. -/
theorem Decides.inner {γ : Type} {Q : α → Prop} {part : α → γ} {o' : Except Cause γ}
    {out : Except Cause τ} (hinner : Decides Q part o' o) (houter : Decides P get o out) :
    Decides P (fun value => part (get value)) o' out := by
  cases o' with
  | error cause =>
    cases hinner
    exact houter
  | ok c =>
    obtain ⟨a, rfl, -, rfl⟩ := hinner
    obtain ⟨value, rfl, hvalue, rfl⟩ := houter
    exact ⟨value, rfl, hvalue, rfl⟩

theorem mem_known {name : String} {f : Field τ} (h : s.fields.find? (·.name == name) = some f) :
    name ∈ s.fields.map Field.name :=
  name_of_find? h ▸ List.mem_map_of_mem (List.mem_of_find?_eq_some h)

theorem find?_eq_none_of_not_mem {name : String} (h : name ∉ s.fields.map Field.name) :
    s.fields.find? (·.name == name) = none := by
  cases hfind : s.fields.find? (·.name == name) with
  | none => rfl
  | some f => exact absurd (mem_known hfind) h

/-- A member is harmless if its value can be read, and if putting it in keeps the rest. -/
theorem harmless_of_reads {β : Type} {name : String} {required : Bool} {r : Reader β}
    {put : τ → β → τ} (hfind : s.fields.find? (·.name == name) = some (.of required name r put))
    {b : β} (hread : Reads r text (.ok b))
    (hkeeps : ∀ value, P value → P (put value b) ∧ get (put value b) = get value) :
    s.Harmless P get (name, text) :=
  Or.inr ⟨_, hfind, fun value hvalue => ⟨put value b, hread.map (put value), hkeeps value hvalue⟩⟩

/-- Good members run before whatever comes after them. -/
theorem runs_harmless {rest : List (Except Cause String × List Char)} {Q : Except Cause τ → Prop}
    (hms : ∀ m ∈ ms, s.Harmless P get m)
    (hpairwise : ms.Pairwise fun m m' => m.1 = m'.1 → m.1 ∉ s.fields.map Field.name)
    (hseen : ∀ m ∈ ms, m.1 ∉ seen) (hvalue : P value)
    (hrest : ∀ seen' value',
      (∀ n ∈ seen', n ∈ seen ∨ n ∈ s.fields.map Field.name ∧ ∃ m ∈ ms, m.1 = n) → P value' →
        get value' = get value → ∃ out, s.Runs seen' value' rest out ∧ Q out) :
    ∃ out, s.Runs seen value (named ms ++ rest) out ∧ Q out := by
  induction ms generalizing seen value with
  | nil => exact hrest seen value (fun n hn => Or.inl hn) hvalue rfl
  | cons m ms ih =>
    obtain ⟨hm, hms⟩ := List.forall_mem_cons.mp hms
    obtain ⟨hfresh, hseen⟩ := List.forall_mem_cons.mp hseen
    obtain ⟨hhead, hpairwise⟩ := List.pairwise_cons.mp hpairwise
    rcases hm with ⟨hfind, hother⟩ | ⟨f, hfind, hread⟩
    · obtain ⟨out, hruns, hout⟩ := ih hms hpairwise hseen hvalue fun seen' value' hseen' =>
        hrest seen' value' fun n hn => (hseen' n hn).imp_right fun ⟨hknown, m', hm', hn⟩ =>
          ⟨hknown, m', List.mem_cons_of_mem _ hm', hn⟩
      exact ⟨out, .unknown hfind hother hruns, hout⟩
    · obtain ⟨value', hread, hvalue', hget⟩ := hread value hvalue
      have hname := name_of_find? hfind
      have hknown := mem_known hfind
      have hseen' : ∀ m' ∈ ms, m'.1 ∉ f.name :: seen := by
        intro m' hm' hmem
        rcases List.mem_cons.mp hmem with heq | hmem
        · exact hhead m' hm' (heq.trans hname).symm hknown
        · exact hseen m' hm' hmem
      -- what is true after the other members is passed on, with the name of this one among those
      -- seen
      have hafter : ∀ seen' value'', (∀ n ∈ seen', n ∈ f.name :: seen
          ∨ n ∈ s.fields.map Field.name ∧ ∃ m' ∈ ms, m'.1 = n) → P value'' →
          get value'' = get value' → ∃ out, s.Runs seen' value'' rest out ∧ Q out := by
        intro seen' value'' hnames hgood heq
        refine hrest seen' value'' (fun n hn => ?_) hgood (heq.trans hget)
        rcases hnames n hn with hn | ⟨hn, m', hm', heq⟩
        · rcases List.mem_cons.mp hn with rfl | hn
          · exact Or.inr ⟨hname ▸ hknown, m, List.mem_cons_self .., hname.symm⟩
          · exact Or.inl hn
        · exact Or.inr ⟨hn, m', List.mem_cons_of_mem _ hm', heq⟩
      obtain ⟨out, hruns, hout⟩ := ih hms hpairwise hseen' hvalue' hafter
      exact ⟨out, .reads hfind (hname ▸ hfresh) hread hruns, hout⟩

/-- Among good members, one decides what becomes of the record. -/
theorem runs_among (hlenient : ∀ f ∈ s.fields, f.required = false) {f : Field τ}
    (hfind : s.fields.find? (·.name == own) = some f) {put : τ → α → τ}
    (hread : ∀ value, Reads (f.read value) text (o.map (put value)))
    (hput : ∀ value a, P value → P (put value a) ∧ get (put value a) = a)
    (hgood : ∀ m ∈ before ++ after, s.Harmless P get m)
    (hpairwise : (before ++ (own, text) :: after).Pairwise
      fun m m' => m.1 = m'.1 → m.1 ∉ s.fields.map Field.name) (hvalue : P value) :
    ∃ out, s.Runs [] value (named (before ++ (own, text) :: after)) out ∧ Decides P get o out := by
  obtain ⟨hbefore, hown, hapart⟩ := List.pairwise_append.mp hpairwise
  obtain ⟨hhead, hafter⟩ := List.pairwise_cons.mp hown
  obtain rfl := name_of_find? hfind
  have hknown := mem_known hfind
  have hsplit : named (before ++ (f.name, text) :: after)
      = named before ++ (.ok f.name, text) :: named after := List.map_append
  rw [hsplit]
  refine runs_harmless (fun m hm => hgood m (List.mem_append_left _ hm)) hbefore
    (fun _ _ => List.not_mem_nil) hvalue fun seen value hnames hvalue _ => ?_
  -- only names of known members before this one have been seen
  have hfresh : ∀ m ∈ (f.name, text) :: after, m.1 ∉ seen := by
    intro m hm hmem
    rcases hnames _ hmem with hmem | ⟨hm', m', hbefore', heq⟩
    · exact List.not_mem_nil hmem
    · exact hapart m' hbefore' m hm heq (heq ▸ hm')
  obtain ⟨hseen, hfresh⟩ := List.forall_mem_cons.mp hfresh
  have hreadOwn := hread value
  cases o with
  | error cause => exact ⟨_, .fails hfind hseen hreadOwn _, rfl⟩
  | ok a =>
    obtain ⟨hput, hget⟩ := hput value a hvalue
    have hseen' : ∀ m ∈ after, m.1 ∉ f.name :: seen := by
      intro m hm hmem
      rcases List.mem_cons.mp hmem with heq | hmem
      · exact hhead m hm heq.symm hknown
      · exact hfresh m hm hmem
    have hend : ∃ out, s.Runs (f.name :: seen) (put value a) (named after ++ []) out
        ∧ Decides P get (.ok a) out :=
      runs_harmless (fun m hm => hgood m (List.mem_append_right _ hm)) hafter hseen' hput
        fun seen value' _ hvalue' hget' =>
          ⟨.ok value', .complete (missing?_eq_none hlenient _), value', rfl, hvalue',
            hget'.trans hget⟩
    rw [List.append_nil] at hend
    obtain ⟨out, hruns, hout⟩ := hend
    exact ⟨out, .reads hfind hseen hreadOwn hruns, hout⟩

/-- Among good members, one decides what is read. -/
theorem reads_writes {Good : String × List Char → Prop} {object : List Char}
    (hnodup : (s.fields.map Field.name).Nodup) (hlenient : ∀ f ∈ s.fields, f.required = false)
    (hgood : ∀ m, m.1 ≠ own → Good m → s.Harmless P get m) {required : Bool} {r : Reader α}
    {put : τ → α → τ} (hfind : s.fields.find? (·.name == own) = some (.of required own r put))
    (hread : Reads r text o)
    (hput : ∀ value a, P value → P (put value a) ∧ get (put value a) = a) (hinitial : P s.initial)
    (h : Writes (s.fields.map Field.name) Good own text object) :
    ∃ out, Reads s.read object out ∧ Decides P get o out := by
  obtain ⟨before, after, hform, hpairwise, hall⟩ := h
  obtain ⟨out, hruns, hout⟩ := runs_among hlenient hfind (fun value => hread.map (put value)) hput
    (fun m hm => hgood m (hall m hm).1 (hall m hm).2) hpairwise hinitial
  exact ⟨out, reads_form hnodup hlenient hform hruns, hout⟩

end Shape

end TunnelHost.Json
