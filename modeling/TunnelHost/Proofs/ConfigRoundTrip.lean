import TunnelHost.Config.Writer
import TunnelHost.Proofs.ConfigLoading
import TunnelHost.Proofs.JsonWriting

/-!
# Writing a configuration and loading it again

A configuration that is written is loaded as itself if it keeps the rules, and is refused for the
rule that it breaks if it does not. Nothing is lost or added on the way, in either layout.

- `Config.members`: all members of a configuration, with their values.
- `Config.isText_write`: what is written is a text with these members.
- `Config.Reloads`: what has to hold of a text of the configuration.
- `Config.reloads_toJson`: it holds of both texts that are written.
-/

namespace TunnelHost

open Json (Layout)

/-- The value of the member. -/
def BufferMember.toJson : BufferMember → Json.Value
  | capacity n => .integer n.toNat

/-- The value of the member. -/
def SessionMember.toJson : SessionMember → Json.Value
  | policy p => .string p.name
  | keepAlive n => .integer n.toNat

/-- The value of the member. -/
def LogMember.toJson : LogMember → Json.Value
  | level s => .string s
  | format s => .string s
  | target b => .boolean b

/-- The value of the section. -/
def ConfigMember.toJson : ConfigMember → Json.Value
  | buffer ms => .object (ms.map fun m => (m.name, m.toJson))
  | session ms => .object (ms.map fun m => (m.name, m.toJson))
  | log ms => .object (ms.map fun m => (m.name, m.toJson))

section

variable (layout : Layout) (depth : Nat)

theorem isNatural_write (n : Nat) :
    Json.IsNatural n ((Json.Value.integer n).write layout depth) := by
  have hwrite : (Json.Value.integer n).write layout depth = Numeral.digits 10 n := by
    simp [Json.Value.write, Numeral.decimalInt, Numeral.decimal]
  rw [hwrite]
  exact Json.isNatural_digits n

theorem isString_write (s : String) :
    Json.IsString s ((Json.Value.string s).write layout depth) := by
  rw [Json.Value.write]
  exact Json.isString_quote s

theorem BufferMember.isText_write (m : BufferMember) : m.IsText (m.toJson.write layout depth) := by
  cases m with
  | capacity n => exact isNatural_write layout depth n.toNat

theorem SessionMember.isText_write (m : SessionMember) :
    m.IsText (m.toJson.write layout depth) := by
  cases m with
  | policy p => exact Or.inl (isString_write layout depth p.name)
  | keepAlive n => exact isNatural_write layout depth n.toNat

theorem LogMember.isText_write (m : LogMember) : m.IsText (m.toJson.write layout depth) := by
  cases m with
  | level s => exact isString_write layout depth s
  | format s => exact isString_write layout depth s
  | target b =>
    cases b with
    | true => exact Json.Value.write.eq_2 ..
    | false => exact Json.Value.write.eq_3 ..

/-- A section is written as one of its texts, in either layout. -/
theorem ConfigMember.isText_write (m : ConfigMember) : m.IsText (m.toJson.write layout depth) := by
  cases m with
  | buffer ms =>
    exact Json.isRecord_write layout depth (fun m _ => by cases m; simp [BufferMember.name])
      fun m _ => m.isText_write layout (depth + 1)
  | session ms =>
    exact Json.isRecord_write layout depth (fun m _ => by cases m <;> simp [SessionMember.name])
      fun m _ => m.isText_write layout (depth + 1)
  | log ms =>
    exact Json.isRecord_write layout depth (fun m _ => by cases m <;> simp [LogMember.name])
      fun m _ => m.isText_write layout (depth + 1)

end

namespace Config

/-- All members of a configuration, in declared order. -/
def members (c : Config) : List ConfigMember :=
  [.buffer [.capacity c.buffer.capacity],
    .session [.policy c.session.policy, .keepAlive c.session.keepAlive],
    .log [.level c.log.level, .format c.log.format, .target c.log.target]]

/-- Nothing is lost when a configuration is taken apart into its members. -/
theorem ofMembers_members (c : Config) : ofMembers c.members = c := rfl

/-- Every member is written once. -/
theorem unrepeated_members (c : Config) : Unrepeated c.members := by
  refine ⟨show ["buffer", "session", "log"].Nodup by decide, ?_⟩
  simp only [members, List.forall_mem_cons, List.not_mem_nil, false_imp_iff, implies_true, and_true]
  exact ⟨show ["capacity"].Nodup by decide,
    show ["index_policy", "default_keep_alive"].Nodup by decide,
    show ["level", "format", "target"].Nodup by decide⟩

/-- Whatever is written as an object of sections is a text with these sections. -/
theorem isText_write (ms : List ConfigMember) (layout : Layout) :
    IsText ms ((Json.Value.object (ms.map fun m => (m.name, m.toJson))).write layout 0) := by
  refine ⟨[], _, [], by simp [Json.Blank], by simp [Json.Blank], ?_, (List.append_nil _).symm⟩
  exact Json.isRecord_write layout 0 (fun m _ => by cases m <;> simp [ConfigMember.name])
    fun m _ => m.isText_write layout 1

theorem toJson_eq (c : Config) :
    c.toJson = .object (c.members.map fun m => (m.name, m.toJson)) := rfl

/-- What has to hold of a text of the configuration: it is loaded as the configuration exactly if
that keeps the rules, is otherwise refused for the rule that is broken, and is never taken for a
text of something else. -/
structure Reloads (c : Config) (s : String) : Prop where
  accepted : ofJson s = .ok c ↔ c.validate = .ok ()
  refused : ∀ e, c.validate = .error e → ofJson s = .error e
  readable : ∀ reason, ofJson s ≠ .error (.unreadable reason)

/-- The check never says that a text cannot be read. -/
theorem validate_ne_unreadable (c : Config) (reason : String) :
    c.validate ≠ .error (.unreadable reason) := by
  intro h
  obtain ⟨b, -, hb⟩ := mapError_eq_error_iff.mp h
  cases hb

/-- A text of all the members of a configuration is loaded as the check of that configuration says.
-/
theorem ofJson_of_isText_members {c : Config} {s : String} (h : IsText c.members s.toList) :
    ofJson s = c.validate.map fun _ => c := by
  have hread := ofJsonUnchecked_of_unrepeated h c.unrepeated_members
  rw [ofMembers_members] at hread
  rw [ofJson, hread]
  cases hchecked : c.validate <;> simp [Except.mapError, Except.map, bind, Except.bind, hchecked,
    pure, Except.pure]

/-- Such a text is loaded as the configuration, or refused for the rule that the configuration
breaks. -/
theorem reloads_of_isText_members {c : Config} {s : String} (h : IsText c.members s.toList) :
    c.Reloads s := by
  have hload := ofJson_of_isText_members h
  -- the text is loaded as the check says, so each law is read off from it
  cases hchecked : c.validate with
  | ok =>
    have hok : ofJson s = .ok c := by
      rw [hload, hchecked]
      rfl
    constructor
    case accepted => exact ⟨fun _ => hchecked, fun _ => hok⟩
    case refused =>
      intro e he
      rw [hchecked] at he
      cases he
    case readable =>
      intro reason hreason
      rw [hok] at hreason
      cases hreason
  | error e =>
    have hrefused : ofJson s = .error e := by
      rw [hload, hchecked]
      rfl
    constructor
    case accepted => simp [hrefused, hchecked]
    case refused =>
      intro e' he'
      rw [hchecked] at he'
      cases he'
      exact hrefused
    case readable =>
      intro reason hreason
      rw [hrefused] at hreason
      cases hreason
      exact c.validate_ne_unreadable reason hchecked

/-- A configuration is loaded from what is written of it, on one line or over several, exactly if it
keeps the rules, and otherwise refused for the rule that it breaks. -/
theorem reloads_toJson (c : Config) : c.Reloads c.toJson.compact ∧ c.Reloads c.toJson.pretty := by
  constructor
  · refine reloads_of_isText_members ?_
    rw [Json.Value.compact, String.toList_ofList, toJson_eq]
    exact isText_write c.members .compact
  · refine reloads_of_isText_members ?_
    rw [Json.Value.pretty, String.toList_ofList, toJson_eq]
    exact isText_write c.members .lines

end Config

end TunnelHost
