import TunnelHost.Proofs.ConfigRules
import TunnelHost.Proofs.JsonGrammar

/-!
# The texts of configurations

A configuration may be written in part, in any order, with other members anywhere and with white
space around every token. What is written then takes the place of a default.

- `BufferMember`, `SessionMember`, `LogMember`, `ConfigMember`: the members that may be written,
  with the texts of their values.
- `Config.IsText`: the texts in which some members are written.
- `Config.ofMembers`: the defaults and what is written.
- `Config.Unrepeated`: no member is written twice.
- `Config.usable_ofMembers`: valid values make a usable configuration.
-/

namespace TunnelHost

/-! ## What may be written -/

/-- A member of the section on output buffers, with its value. -/
inductive BufferMember where
  | capacity (n : UInt64)

/-- A member of the section on the creation of sessions, with its value. -/
inductive SessionMember where
  | policy (p : IndexPolicy)
  | keepAlive (n : UInt16)

/-- A member of the section on logging, with its value. -/
inductive LogMember where
  | level (s : String)
  | format (s : String)
  | target (b : Bool)

/-- A section, with the members that are written in it. -/
inductive ConfigMember where
  | buffer (ms : List BufferMember)
  | session (ms : List SessionMember)
  | log (ms : List LogMember)

/-- The texts of a policy: its name, or an object whose only key is the name. -/
def IndexPolicy.IsText (p : IndexPolicy) (text : List Char) : Prop :=
  Json.IsString p.name text ∨ Json.IsObject [(p.name, Json.nullText)] text

namespace BufferMember

def name : BufferMember → String
  | capacity _ => "capacity"

/-- The texts of the value. -/
def IsText : BufferMember → List Char → Prop
  | capacity n => Json.IsNatural n.toNat

def Valid : BufferMember → Prop
  | capacity n => 148 ≤ n.toNat ∧ n.toNat ≤ 65535

def capacity? : BufferMember → Option UInt64
  | capacity n => some n

theorem capacity?_eq_some_iff {m : BufferMember} {n : UInt64} :
    m.capacity? = some n ↔ m = .capacity n := by
  cases m
  simp [capacity?]

end BufferMember

namespace SessionMember

def name : SessionMember → String
  | policy _ => "index_policy"
  | keepAlive _ => "default_keep_alive"

/-- The texts of the value. -/
def IsText : SessionMember → List Char → Prop
  | policy p => p.IsText
  | keepAlive n => Json.IsNatural n.toNat

def Valid : SessionMember → Prop
  | policy _ => True
  | keepAlive n => 1 ≤ n.toNat

def policy? : SessionMember → Option IndexPolicy
  | policy p => some p
  | _ => none

def keepAlive? : SessionMember → Option UInt16
  | keepAlive n => some n
  | _ => none

theorem policy?_eq_some_iff {m : SessionMember} {p : IndexPolicy} :
    m.policy? = some p ↔ m = .policy p := by
  cases m <;> simp [policy?]

theorem keepAlive?_eq_some_iff {m : SessionMember} {n : UInt16} :
    m.keepAlive? = some n ↔ m = .keepAlive n := by
  cases m <;> simp [keepAlive?]

end SessionMember

namespace LogMember

def name : LogMember → String
  | level _ => "level"
  | format _ => "format"
  | target _ => "target"

/-- The texts of the value. -/
def IsText : LogMember → List Char → Prop
  | level s => Json.IsString s
  | format s => Json.IsString s
  | target b => fun text => text = Json.booleanText b

def Valid : LogMember → Prop
  | level s => Text.lower s ∈ ["trace", "debug", "info", "warn", "error"]
  | format s => s ∈ ["json", "text"]
  | target _ => True

def level? : LogMember → Option String
  | level s => some s
  | _ => none

def format? : LogMember → Option String
  | format s => some s
  | _ => none

def target? : LogMember → Option Bool
  | target b => some b
  | _ => none

theorem level?_eq_some_iff {m : LogMember} {s : String} : m.level? = some s ↔ m = .level s := by
  cases m <;> simp [level?]

theorem format?_eq_some_iff {m : LogMember} {s : String} : m.format? = some s ↔ m = .format s := by
  cases m <;> simp [format?]

theorem target?_eq_some_iff {m : LogMember} {b : Bool} : m.target? = some b ↔ m = .target b := by
  cases m <;> simp [target?]

end LogMember

namespace ConfigMember

def name : ConfigMember → String
  | buffer _ => "buffer"
  | session _ => "session"
  | log _ => "log"

/-- The texts of the section. -/
def IsText : ConfigMember → List Char → Prop
  | buffer ms => Json.IsRecord ["capacity"] BufferMember.name BufferMember.IsText ms
  | session ms =>
    Json.IsRecord ["index_policy", "default_keep_alive"] SessionMember.name SessionMember.IsText ms
  | log ms => Json.IsRecord ["level", "format", "target"] LogMember.name LogMember.IsText ms

/-- Every value in the section is valid. -/
def Valid : ConfigMember → Prop
  | buffer ms => ∀ m ∈ ms, m.Valid
  | session ms => ∀ m ∈ ms, m.Valid
  | log ms => ∀ m ∈ ms, m.Valid

/-- No member of the section is written twice. -/
def Unrepeated : ConfigMember → Prop
  | buffer ms => (ms.map BufferMember.name).Nodup
  | session ms => (ms.map SessionMember.name).Nodup
  | log ms => (ms.map LogMember.name).Nodup

def buffer? : ConfigMember → Option (List BufferMember)
  | buffer ms => some ms
  | _ => none

def session? : ConfigMember → Option (List SessionMember)
  | session ms => some ms
  | _ => none

def log? : ConfigMember → Option (List LogMember)
  | log ms => some ms
  | _ => none

theorem buffer?_eq_some_iff {m : ConfigMember} {ms : List BufferMember} :
    m.buffer? = some ms ↔ m = .buffer ms := by
  cases m <;> simp [buffer?]

theorem session?_eq_some_iff {m : ConfigMember} {ms : List SessionMember} :
    m.session? = some ms ↔ m = .session ms := by
  cases m <;> simp [session?]

theorem log?_eq_some_iff {m : ConfigMember} {ms : List LogMember} :
    m.log? = some ms ↔ m = .log ms := by
  cases m <;> simp [log?]

end ConfigMember

/-! ## What it means -/

/-- The section with what is written in it, and its defaults for the rest. -/
def BufferSection.ofMembers (ms : List BufferMember) : BufferSection where
  capacity := (ms.findSome? BufferMember.capacity?).getD 2000

/-- The section with what is written in it, and its defaults for the rest. -/
def SessionSection.ofMembers (ms : List SessionMember) : SessionSection where
  policy := (ms.findSome? SessionMember.policy?).getD .any
  keepAlive := (ms.findSome? SessionMember.keepAlive?).getD 25

/-- The section with what is written in it, and its defaults for the rest. -/
def LogSection.ofMembers (ms : List LogMember) : LogSection where
  level := (ms.findSome? LogMember.level?).getD "info"
  format := (ms.findSome? LogMember.format?).getD "text"
  target := (ms.findSome? LogMember.target?).getD true

namespace Config

/-- The texts in which the sections `ms` are written, in that order: an object, with anything else
between them and with white space around every token. -/
def IsText (ms : List ConfigMember) (text : List Char) : Prop :=
  ∃ b object b', Json.Blank b ∧ Json.Blank b'
    ∧ Json.IsRecord ["buffer", "session", "log"] ConfigMember.name ConfigMember.IsText ms object
    ∧ text = b ++ (object ++ b')

/-- The configuration with what is written, and the defaults for the rest. -/
def ofMembers (ms : List ConfigMember) : Config where
  buffer := .ofMembers ((ms.findSome? ConfigMember.buffer?).getD [])
  session := .ofMembers ((ms.findSome? ConfigMember.session?).getD [])
  log := .ofMembers ((ms.findSome? ConfigMember.log?).getD [])

/-- Neither a section nor a member of a section is written twice. -/
def Unrepeated (ms : List ConfigMember) : Prop :=
  (ms.map ConfigMember.name).Nodup ∧ ∀ m ∈ ms, m.Unrepeated

end Config

/-! ## Valid values -/

/-- What holds of the default and of every value that is written holds of what is used. -/
theorem getD_findSome? {μ β : Type} (p : β → Prop) {value? : μ → Option β} {ms : List μ}
    {otherwise : β} (hotherwise : p otherwise) (h : ∀ m ∈ ms, ∀ b, value? m = some b → p b) :
    p ((ms.findSome? value?).getD otherwise) := by
  cases hfind : ms.findSome? value? with
  | none => exact hotherwise
  | some b =>
    obtain ⟨m, hm, hb⟩ := List.exists_of_findSome?_eq_some hfind
    exact h m hm b hb

/-- The capacity is valid if what is written of it is: so is its default. -/
theorem BufferSection.capacity_ofMembers {ms : List BufferMember} (h : ∀ m ∈ ms, m.Valid) :
    148 ≤ (ofMembers ms).capacity.toNat ∧ (ofMembers ms).capacity.toNat ≤ 65535 := by
  refine getD_findSome? (fun n : UInt64 => 148 ≤ n.toNat ∧ n.toNat ≤ 65535) (by decide) ?_
  intro m hm n hn
  obtain rfl := BufferMember.capacity?_eq_some_iff.mp hn
  exact h _ hm

theorem SessionSection.keepAlive_ofMembers {ms : List SessionMember} (h : ∀ m ∈ ms, m.Valid) :
    1 ≤ (ofMembers ms).keepAlive.toNat := by
  refine getD_findSome? (fun n : UInt16 => 1 ≤ n.toNat) (by decide) ?_
  intro m hm n hn
  obtain rfl := SessionMember.keepAlive?_eq_some_iff.mp hn
  exact h _ hm

/-- The level is valid if what is written of it is: so is its default. -/
theorem LogSection.level_ofMembers {ms : List LogMember} (h : ∀ m ∈ ms, m.Valid) :
    Text.lower (ofMembers ms).level ∈ ["trace", "debug", "info", "warn", "error"] := by
  refine getD_findSome?
    (fun s => Text.lower s ∈ ["trace", "debug", "info", "warn", "error"]) (by decide) ?_
  intro m hm s hs
  obtain rfl := LogMember.level?_eq_some_iff.mp hs
  exact h _ hm

theorem LogSection.format_ofMembers {ms : List LogMember} (h : ∀ m ∈ ms, m.Valid) :
    (ofMembers ms).format ∈ ["json", "text"] := by
  refine getD_findSome? (fun s => s ∈ ["json", "text"]) (by decide) ?_
  intro m hm s hs
  obtain rfl := LogMember.format?_eq_some_iff.mp hs
  exact h _ hm

/-- Valid values and defaults make a usable configuration. -/
theorem Config.usable_ofMembers {ms : List ConfigMember} (h : ∀ m ∈ ms, m.Valid) :
    Usable (ofMembers ms) := by
  have hbuffer : ∀ m ∈ (ms.findSome? ConfigMember.buffer?).getD [], m.Valid := by
    refine getD_findSome? (fun ms => ∀ m ∈ ms, BufferMember.Valid m) (by simp) ?_
    intro m hm _ hms
    obtain rfl := ConfigMember.buffer?_eq_some_iff.mp hms
    exact h _ hm
  have hsession : ∀ m ∈ (ms.findSome? ConfigMember.session?).getD [], m.Valid := by
    refine getD_findSome? (fun ms => ∀ m ∈ ms, SessionMember.Valid m) (by simp) ?_
    intro m hm _ hms
    obtain rfl := ConfigMember.session?_eq_some_iff.mp hms
    exact h _ hm
  have hlog : ∀ m ∈ (ms.findSome? ConfigMember.log?).getD [], m.Valid := by
    refine getD_findSome? (fun ms => ∀ m ∈ ms, LogMember.Valid m) (by simp) ?_
    intro m hm _ hms
    obtain rfl := ConfigMember.log?_eq_some_iff.mp hms
    exact h _ hm
  constructor
  case capacity => exact BufferSection.capacity_ofMembers hbuffer
  case keepAlive => exact SessionSection.keepAlive_ofMembers hsession
  case level => exact LogSection.level_ofMembers hlog
  case format => exact LogSection.format_ofMembers hlog

end TunnelHost
