import TunnelHost.Config.Reader
import TunnelHost.Proofs.ConfigTexts
import TunnelHost.Proofs.JsonRecords
import TunnelHost.Proofs.JsonWriting

/-!
# Loading partial configurations

A text in which some members of a configuration are written is loaded as the default configuration
with what is written put into it, unless a known member is there twice.

- `reads_policy`, `reads_word64`, `reads_word16`: the values.
- `BufferSection.build_of_nodup` and its kin: a section is what its members make of it.
- `ConfigMember.entry`: what a section does to a configuration.
- `Config.ofJsonUnchecked_of_unrepeated`, `Config.ofJsonUnchecked_repeats`: the reader's outcome.
- `Config.ofJson_isText`: the outcome of loading.
-/

namespace TunnelHost

open Json (Reads Entry Repeats)
open Json.Shape (takes_of_reads reads_build)

/-! ## Reading the values -/

theorem IndexPolicy.ofName?_name (p : IndexPolicy) : ofName? p.name = some p := by
  cases p with
  | any => rfl
  | positiveOnly => rfl

theorem readPolicyName_append {p : IndexPolicy} {inside : List Char}
    (h : Json.Spells p.name.toList inside) (rest : List Char) :
    readPolicyName (inside ++ '"' :: rest) = .ok (p, rest) := by
  simp [readPolicyName, Json.string_of_spells h, p.ofName?_name, bind, Except.bind]

/-- A policy is read in both of its forms. -/
theorem reads_policy {p : IndexPolicy} {text : List Char} (h : p.IsText text) :
    Reads readPolicy text (.ok p) := by
  intro b rest hb _
  rcases h with ⟨inside, hspells, rfl⟩ | ⟨raw, ⟨parts, inside, hparts, hinside, rfl⟩, hraw⟩
  -- the name alone
  · simp only [readPolicy, List.cons_append, List.append_assoc, List.nil_append]
    rw [Json.blanks_append_cons hb (by decide)]
    exact readPolicyName_append hspells rest
  -- an object with the name for its only key
  · obtain ⟨r, raw', ⟨hspells, hnull⟩, hnil, rfl⟩ := List.forall₂_cons_left_iff.mp hraw
    cases hnil
    obtain ⟨part, parts', ⟨b₁, b₂, hb₁, hb₂, rfl⟩, hnil, rfl⟩ :=
      List.forall₂_cons_left_iff.mp hparts
    cases hnil
    cases hinside with
    | @one _ b₀ b₃ hb₀ hb₃ =>
      have hkey (rest : List Char) :
          readPolicyKey (b₀ ++ '"' :: (r.1 ++ '"' :: rest)) = .ok (p, rest) := by
        rw [readPolicyKey, Json.blanks_append_cons hb₀ (by decide)]
        exact readPolicyName_append hspells rest
      have hunit (rest : List Char) :
          Json.unit (b₂ ++ (Json.nullText ++ rest)) = .ok ((), rest) := by
        rw [Json.unit, Json.nullText, List.cons_append, Json.blanks_append_cons hb₂ (by decide)]
        rfl
      have hend : Json.blanks (b₃ ++ '\x7d' :: rest) = '\x7d' :: rest := by
        rw [Json.blanks_append_cons hb₃ (by decide)]
      simp only [← hnull, readPolicy, List.cons_append, List.append_assoc, List.nil_append]
      rw [Json.blanks_append_cons hb (by decide)]
      simp [hkey, Json.colon_append hb₁, hunit, hend, bind, Except.bind, Json.Yields]

theorem reads_word64 {n : UInt64} {text : List Char} (h : Json.IsNatural n.toNat text) :
    Reads readWord64 text (.ok n) := by
  have hword : Reads readWord64 text (.ok (UInt64.ofNat n.toNat)) :=
    (Json.reads_natural "usize" h n.toNat_lt (Nat.le_refl _)).map UInt64.ofNat
  rwa [UInt64.ofNat_toNat] at hword

theorem reads_word16 {n : UInt16} {text : List Char} (h : Json.IsNatural n.toNat text) :
    Reads readWord16 text (.ok n) := by
  have hword : Reads readWord16 text (.ok (UInt16.ofNat n.toNat)) :=
    (Json.reads_natural "u16" h n.toNat_lt (by decide)).map UInt16.ofNat
  rwa [UInt16.ofNat_toNat] at hword

/-! ## Reading the sections -/

section

variable {text : List Char}

def BufferSection.put (s : BufferSection) : BufferMember → BufferSection
  | .capacity n => { s with capacity := n }

/-- The text of a member sets its value in the section on output buffers. -/
theorem BufferMember.takes (m : BufferMember) (text : List Char) (h : m.IsText text) :
    BufferSection.shape.Takes text ⟨m.name, fun s => .ok (s.put m)⟩ := by
  cases m with
  | capacity n =>
    exact takes_of_reads BufferSection.shape "capacity" (fun s n => { s with capacity := n }) rfl
      (reads_word64 h)

/-- Members that are not repeated make up the section, with the defaults for the rest. -/
theorem BufferSection.build_of_nodup {ms : List BufferMember}
    (h : (ms.map BufferMember.name).Nodup) :
    shape.build BufferMember.name put ms = .ok (ofMembers ms) := by
  have hcapacity : (ms.foldl put {}).capacity = _ :=
    Json.get_foldl capacity BufferMember.capacity? "capacity" (fun _ m => by cases m; rfl)
      (fun m _ hm => by rw [BufferMember.capacity?_eq_some_iff.mp hm]; rfl) h {}
  have hparts : ms.foldl put {} = ofMembers ms := by
    show BufferSection.mk (ms.foldl put {}).capacity = _
    rw [hcapacity]
    rfl
  rw [Json.Shape.build_of_nodup (by decide) h, ← hparts]
  rfl

def SessionSection.put (s : SessionSection) : SessionMember → SessionSection
  | .policy policy => { s with policy }
  | .keepAlive n => { s with keepAlive := n }

theorem SessionMember.takes (m : SessionMember) (text : List Char) (h : m.IsText text) :
    SessionSection.shape.Takes text ⟨m.name, fun s => .ok (s.put m)⟩ := by
  cases m with
  | policy p =>
    exact takes_of_reads SessionSection.shape "index_policy" (fun s policy => { s with policy }) rfl
      (reads_policy h)
  | keepAlive n =>
    exact takes_of_reads SessionSection.shape "default_keep_alive"
      (fun s n => { s with keepAlive := n }) rfl (reads_word16 h)

/-- Members that are not repeated make up the section, in whatever order they come. -/
theorem SessionSection.build_of_nodup {ms : List SessionMember}
    (h : (ms.map SessionMember.name).Nodup) :
    shape.build SessionMember.name put ms = .ok (ofMembers ms) := by
  have hpolicy : (ms.foldl put {}).policy = _ :=
    Json.get_foldl policy SessionMember.policy? "index_policy" (fun _ m => by cases m <;> rfl)
      (fun m _ hm => by rw [SessionMember.policy?_eq_some_iff.mp hm]; rfl) h {}
  have hkeepAlive : (ms.foldl put {}).keepAlive = _ :=
    Json.get_foldl keepAlive SessionMember.keepAlive? "default_keep_alive"
      (fun _ m => by cases m <;> rfl)
      (fun m _ hm => by rw [SessionMember.keepAlive?_eq_some_iff.mp hm]; rfl) h {}
  have hparts : ms.foldl put {} = ofMembers ms := by
    show SessionSection.mk (ms.foldl put {}).policy (ms.foldl put {}).keepAlive = _
    rw [hpolicy, hkeepAlive]
    rfl
  rw [Json.Shape.build_of_nodup (by decide) h, ← hparts]
  rfl

def LogSection.put (s : LogSection) : LogMember → LogSection
  | .level level => { s with level }
  | .format format => { s with format }
  | .target target => { s with target }

theorem LogMember.takes (m : LogMember) (text : List Char) (h : m.IsText text) :
    LogSection.shape.Takes text ⟨m.name, fun s => .ok (s.put m)⟩ := by
  cases m with
  | level s =>
    exact takes_of_reads LogSection.shape "level" (fun s level => { s with level }) rfl
      (Json.reads_text h)
  | format s =>
    exact takes_of_reads LogSection.shape "format" (fun s format => { s with format }) rfl
      (Json.reads_text h)
  | target b =>
    cases h
    exact takes_of_reads LogSection.shape "target" (fun s target => { s with target }) rfl
      (Json.reads_boolean b)

/-- Members that are not repeated make up the section, in whatever order they come. -/
theorem LogSection.build_of_nodup {ms : List LogMember}
    (h : (ms.map LogMember.name).Nodup) :
    shape.build LogMember.name put ms = .ok (ofMembers ms) := by
  have hlevel : (ms.foldl put {}).level = _ :=
    Json.get_foldl level LogMember.level? "level" (fun _ m => by cases m <;> rfl)
      (fun m _ hm => by rw [LogMember.level?_eq_some_iff.mp hm]; rfl) h {}
  have hformat : (ms.foldl put {}).format = _ :=
    Json.get_foldl format LogMember.format? "format" (fun _ m => by cases m <;> rfl)
      (fun m _ hm => by rw [LogMember.format?_eq_some_iff.mp hm]; rfl) h {}
  have htarget : (ms.foldl put {}).target = _ :=
    Json.get_foldl target LogMember.target? "target" (fun _ m => by cases m <;> rfl)
      (fun m _ hm => by rw [LogMember.target?_eq_some_iff.mp hm]; rfl) h {}
  have hparts : ms.foldl put {} = ofMembers ms := by
    show LogSection.mk (ms.foldl put {}).level (ms.foldl put {}).format (ms.foldl put {}).target = _
    rw [hlevel, hformat, htarget]
    rfl
  rw [Json.Shape.build_of_nodup (by decide) h, ← hparts]
  rfl

/-! ## Reading the configuration -/

/-- What a section does to the configuration: it sets its part, unless a member is there twice. -/
def ConfigMember.entry : ConfigMember → Entry Config
  | buffer ms =>
    ⟨"buffer", fun c => (BufferSection.shape.build BufferMember.name BufferSection.put ms).map
      fun buffer => { c with buffer }⟩
  | session ms =>
    ⟨"session", fun c => (SessionSection.shape.build SessionMember.name SessionSection.put ms).map
      fun session => { c with session }⟩
  | log ms =>
    ⟨"log", fun c => (LogSection.shape.build LogMember.name LogSection.put ms).map
      fun log => { c with log }⟩

def Config.put (c : Config) : ConfigMember → Config
  | .buffer ms => { c with buffer := .ofMembers ms }
  | .session ms => { c with session := .ofMembers ms }
  | .log ms => { c with log := .ofMembers ms }

namespace ConfigMember

theorem name_entry (m : ConfigMember) : m.entry.name = m.name := by
  cases m with
  | buffer => rfl
  | session => rfl
  | log => rfl

/-- The text of a section does to a configuration what its entry says. -/
theorem takes (m : ConfigMember) (text : List Char) (h : m.IsText text) :
    Config.shape.Takes text m.entry := by
  cases m with
  | buffer ms =>
    exact takes_of_reads Config.shape "buffer" (fun c buffer => { c with buffer }) rfl
      (reads_build rfl BufferMember.takes h)
  | session ms =>
    exact takes_of_reads Config.shape "session" (fun c session => { c with session }) rfl
      (reads_build rfl SessionMember.takes h)
  | log ms =>
    exact takes_of_reads Config.shape "log" (fun c log => { c with log }) rfl
      (reads_build rfl LogMember.takes h)

/-- A section without repetitions is put in its place. -/
theorem edit_of_unrepeated {m : ConfigMember} (h : m.Unrepeated) (c : Config) :
    m.entry.edit c = .ok (c.put m) := by
  cases m with
  | buffer ms =>
    show (BufferSection.shape.build _ _ ms).map _ = _
    rw [BufferSection.build_of_nodup h]
    rfl
  | session ms =>
    show (SessionSection.shape.build _ _ ms).map _ = _
    rw [SessionSection.build_of_nodup h]
    rfl
  | log ms =>
    show (LogSection.shape.build _ _ ms).map _ = _
    rw [LogSection.build_of_nodup h]
    rfl

/-- A section with a repetition is refused for that. -/
theorem edit_repeats {m : ConfigMember} (h : ¬ m.Unrepeated) (c : Config) :
    Repeats (m.entry.edit c) := by
  cases m with
  | buffer ms => exact (Json.Shape.build_repeats h).map _
  | session ms => exact (Json.Shape.build_repeats h).map _
  | log ms => exact (Json.Shape.build_repeats h).map _

end ConfigMember

end

namespace Config

variable {ms : List ConfigMember}

/-- Sections put in their places one after the other make up the configuration. -/
theorem foldl_put (h : (ms.map ConfigMember.name).Nodup) : ms.foldl put {} = ofMembers ms := by
  -- each section is set by the members of its own name, so it can be followed by itself
  have hown {α β : Type} {f : α → β} {value? : ConfigMember → Option α} {own : String}
      (hvalue : ∀ m a, value? m = some a → m.name = own) :
      ∀ m b, (Option.map f ∘ value?) m = some b → m.name = own := by
    intro m b hm
    obtain ⟨a, ha, -⟩ := Option.map_eq_some_iff.mp hm
    exact hvalue m a ha
  have hbuffer : (ms.foldl put {}).buffer
      = .ofMembers ((ms.findSome? ConfigMember.buffer?).getD []) := by
    rw [Json.get_foldl buffer (Option.map BufferSection.ofMembers ∘ ConfigMember.buffer?) "buffer"
      (fun _ m => by cases m <;> rfl)
      (hown fun m _ hm => by rw [ConfigMember.buffer?_eq_some_iff.mp hm]; rfl) h,
      ← List.map_findSome?]
    cases ms.findSome? ConfigMember.buffer? <;> rfl
  have hsession : (ms.foldl put {}).session
      = .ofMembers ((ms.findSome? ConfigMember.session?).getD []) := by
    rw [Json.get_foldl session (Option.map SessionSection.ofMembers ∘ ConfigMember.session?)
      "session" (fun _ m => by cases m <;> rfl)
      (hown fun m _ hm => by rw [ConfigMember.session?_eq_some_iff.mp hm]; rfl) h,
      ← List.map_findSome?]
    cases ms.findSome? ConfigMember.session? <;> rfl
  have hlog : (ms.foldl put {}).log
      = .ofMembers ((ms.findSome? ConfigMember.log?).getD []) := by
    rw [Json.get_foldl log (Option.map LogSection.ofMembers ∘ ConfigMember.log?) "log"
      (fun _ m => by cases m <;> rfl)
      (hown fun m _ hm => by rw [ConfigMember.log?_eq_some_iff.mp hm]; rfl) h,
      ← List.map_findSome?]
    cases ms.findSome? ConfigMember.log? <;> rfl
  show Config.mk (ms.foldl put {}).buffer (ms.foldl put {}).session (ms.foldl put {}).log = _
  rw [hbuffer, hsession, hlog, ofMembers]

theorem not_required : ∀ f ∈ shape.fields, f.required = false := by decide

/-- Without repetitions the sections make up the configuration. -/
theorem enter_of_unrepeated (h : Unrepeated ms) :
    shape.enter [] {} (ms.map ConfigMember.entry) = .ok (ofMembers ms) := by
  rw [← foldl_put h.1]
  refine Json.Shape.enter_map not_required (fun m hm c => ?_) ?_ (fun _ _ => List.not_mem_nil) {}
  · exact ConfigMember.edit_of_unrepeated (h.2 m hm) c
  · simpa only [ConfigMember.name_entry] using h.1

/-- A repetition anywhere, of a section or within one, is refused. -/
theorem enter_repeats (h : ¬ Unrepeated ms) :
    Repeats (shape.enter [] {} (ms.map ConfigMember.entry)) := by
  have hentries : ∀ e ∈ ms.map ConfigMember.entry, ∀ c,
      (∃ c', e.edit c = .ok c') ∨ Repeats (e.edit c) := by
    intro e he c
    obtain ⟨m, -, rfl⟩ := List.mem_map.mp he
    by_cases hm : m.Unrepeated
    · exact Or.inl ⟨_, ConfigMember.edit_of_unrepeated hm c⟩
    · exact Or.inr (ConfigMember.edit_repeats hm c)
  refine Json.Shape.enter_repeats hentries ?_ {}
  rw [Unrepeated, not_and_or] at h
  rcases h with h | h
  · refine Or.inl ?_
    simpa only [List.map_map, Function.comp_def, ConfigMember.name_entry] using h
  · simp only [not_forall] at h
    obtain ⟨m, hm, hrepeated⟩ := h
    exact Or.inr (Or.inr ⟨m.entry, List.mem_map_of_mem hm, ConfigMember.edit_repeats hrepeated⟩)

/-- An object is read as its sections say, whatever stands between them. -/
theorem reads_of_isRecord {text : List Char}
    (h : Json.IsRecord ["buffer", "session", "log"] ConfigMember.name ConfigMember.IsText ms text) :
    Reads shape.read text (shape.enter [] {} (ms.map ConfigMember.entry)) := by
  have hname : ConfigMember.name = fun m => m.entry.name :=
    funext fun m => m.name_entry.symm
  rw [hname] at h
  exact Json.Shape.reads_record rfl ConfigMember.takes h

/-- A text in which nothing is written twice is read as the configuration that it describes. -/
theorem ofJsonUnchecked_of_unrepeated {s : String} (hs : IsText ms s.toList) (h : Unrepeated ms) :
    ofJsonUnchecked s = .ok (ofMembers ms) := by
  obtain ⟨b, object, b', hb, hb', hobject, hs⟩ := hs
  have hreads := reads_of_isRecord hobject
  rw [enter_of_unrepeated h] at hreads
  exact Json.read_of_reads hreads hb hb' hs

/-- A repeated member is named when the text is refused. -/
theorem ofJsonUnchecked_repeats {s : String} (hs : IsText ms s.toList) (h : ¬ Unrepeated ms) :
    ∃ name unread, ofJsonUnchecked s = .error ⟨.duplicateField name, unread⟩ := by
  obtain ⟨b, object, b', hb, hb', hobject, hs⟩ := hs
  have hreads := reads_of_isRecord hobject
  obtain ⟨name, hname⟩ := enter_repeats h
  rw [hname] at hreads
  exact ⟨name, Json.read_of_reads_error hreads hb hb' hs⟩

/-! ## Loading the configuration -/

/-- The outcome of loading a text in which some sections and members are written, in any order and
among any others: the defaults and what is written, if the values are valid, and a fault of the
text if a known section or member is there twice. -/
theorem ofJson_isText {s : String} (hs : IsText ms s.toList) :
    (Unrepeated ms → (∀ m ∈ ms, m.Valid) → ofJson s = .ok (ofMembers ms))
      ∧ (¬ Unrepeated ms → ∃ name unread, ofJson s
        = .error (.unreadable (Json.Fault.describe ⟨.duplicateField name, unread⟩ s))) := by
  constructor
  · intro hunrepeated hvalid
    rw [ofJson, ofJsonUnchecked_of_unrepeated hs hunrepeated]
    have hchecked := validate_of_usable (usable_ofMembers hvalid)
    simp [hchecked, Except.mapError, bind, Except.bind, pure, Except.pure]
  · intro hrepeated
    obtain ⟨name, unread, hfault⟩ := ofJsonUnchecked_repeats hs hrepeated
    refine ⟨name, unread, ?_⟩
    simp [ofJson, hfault, Except.mapError, bind, Except.bind]

/-- A text with blanks and a member that is not known. -/
theorem isText_level :
    IsText [.log [.level "DEBUG"]]
      "\x7b\"x\":[null], \"log\":\x7b\"level\":\"DEBUG\"\x7d\x7d".toList := by
  have hblank : Json.Blank [] := by simp [Json.Blank]
  have hspace : Json.Blank [' '] := by simp [Json.Blank]
  have hlog : (ConfigMember.log [.level "DEBUG"]).IsText "\x7b\"level\":\"DEBUG\"\x7d".toList := by
    refine ⟨[("level", "\"DEBUG\"".toList)], ⟨[("level".toList, "\"DEBUG\"".toList)],
      ⟨["\"level\":\"DEBUG\"".toList], _, ?_, .one hblank hblank, rfl⟩, ?_⟩, ?_, ?_⟩
    · exact .cons ⟨[], [], hblank, hblank, rfl⟩ .nil
    · exact .cons ⟨Json.spells_flatMap "level".toList, rfl⟩ .nil
    · simp
    · exact .cons ⟨rfl, Json.isString_quote "DEBUG"⟩ .nil
  have hother : Json.IsValue "[null]".toList :=
    .list (.one hblank hblank) fun t ht => List.mem_singleton.mp ht ▸ .null
  -- another member stands before the section, and white space between them
  refine ⟨[], _, [], hblank, hblank,
    ⟨[("x", "[null]".toList), ("log", "\x7b\"level\":\"DEBUG\"\x7d".toList)],
      ⟨[("x".toList, "[null]".toList), ("log".toList, "\x7b\"level\":\"DEBUG\"\x7d".toList)],
        ⟨["\"x\":[null]".toList, "\"log\":\x7b\"level\":\"DEBUG\"\x7d".toList], _, ?_,
          .more hblank hblank (.one hspace hblank), rfl⟩, ?_⟩, ?_, ?_⟩, rfl⟩
  · exact .cons ⟨[], [], hblank, hblank, rfl⟩ (.cons ⟨[], [], hblank, hblank, rfl⟩ .nil)
  · exact .cons ⟨Json.spells_flatMap "x".toList, rfl⟩
      (.cons ⟨Json.spells_flatMap "log".toList, rfl⟩ .nil)
  · intro r hr hunknown
    rcases List.mem_cons.mp hr with rfl | hr
    · exact hother
    · rw [List.mem_singleton.mp hr] at hunknown
      simp at hunknown
  · exact .cons ⟨rfl, hlog⟩ .nil

/-- A text with a section twice. -/
theorem isText_twice :
    IsText [.log [], .log []] "\x7b\"log\":\x7b\x7d,\"log\":\x7b\x7d\x7d".toList := by
  have hblank : Json.Blank [] := by simp [Json.Blank]
  have hlog : (ConfigMember.log []).IsText "\x7b\x7d".toList :=
    ⟨[], ⟨[], ⟨[], [], .nil, .none hblank, rfl⟩, .nil⟩, by simp, .nil⟩
  have hpart : Json.MemberText ("log".toList, "\x7b\x7d".toList) "\"log\":\x7b\x7d".toList :=
    ⟨[], [], hblank, hblank, rfl⟩
  have hkey := Json.spells_flatMap "log".toList
  refine ⟨[], _, [], hblank, hblank,
    ⟨[("log", "\x7b\x7d".toList), ("log", "\x7b\x7d".toList)],
      ⟨[("log".toList, "\x7b\x7d".toList), ("log".toList, "\x7b\x7d".toList)],
        ⟨_, _, .cons hpart (.cons hpart .nil), .more hblank hblank (.one hblank hblank), rfl⟩,
        .cons ⟨hkey, rfl⟩ (.cons ⟨hkey, rfl⟩ .nil)⟩, by simp, ?_⟩, rfl⟩
  exact .cons ⟨rfl, hlog⟩ (.cons ⟨rfl, hlog⟩ .nil)

theorem ofJson_isText_sample :
    ofJson "\x7b\"x\":[null], \"log\":\x7b\"level\":\"DEBUG\"\x7d\x7d"
        = .ok { log := { level := "DEBUG" } }
      ∧ ∃ name unread, ofJson "\x7b\"log\":\x7b\x7d,\"log\":\x7b\x7d\x7d"
        = .error (.unreadable (Json.Fault.describe ⟨.duplicateField name, unread⟩
          "\x7b\"log\":\x7b\x7d,\"log\":\x7b\x7d\x7d")) := by
  refine ⟨(ofJson_isText isText_level).1 ⟨by simp, ?_⟩ ?_, (ofJson_isText isText_twice).2 ?_⟩
  · simp [ConfigMember.Unrepeated]
  · simp only [List.forall_mem_singleton, ConfigMember.Valid, LogMember.Valid]
    decide
  · intro h
    exact absurd h.1 (by simp)

end Config

end TunnelHost
