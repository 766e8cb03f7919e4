import TunnelHost.Config.Basic
import TunnelHost.Proofs.Results

/-!
# The rules of a configuration

Five rules say which configurations a host can be run with. They have an order, and the first one
that is broken is the one that is told of.

- `ConfigRule`: the rules, with what each demands and what is told when it is broken.
- `ConfigRule.FirstBroken`: the rule that is told of.
- `Config.Usable`: no rule is broken.
- `Config.validate_eq_ok_iff_usable`, `Config.validate_eq_error_iff`: the rules in the program.
-/

namespace TunnelHost

/-- No rule is broken: output buffers hold the largest handshake message and no more than a
datagram, the interval between keep-alive messages is not zero, the level is known in any case of
its letters, and the format is known. -/
structure Config.Usable (c : Config) : Prop where
  capacity : 148 ≤ c.buffer.capacity.toNat ∧ c.buffer.capacity.toNat ≤ 65535
  keepAlive : 1 ≤ c.session.keepAlive.toNat
  level : Text.lower c.log.level ∈ ["trace", "debug", "info", "warn", "error"]
  format : c.log.format ∈ ["json", "text"]

/-- The rules. -/
inductive ConfigRule where
  | leastCapacity
  | mostCapacity
  | keepAlive
  | level
  | format
  deriving DecidableEq, Repr

namespace ConfigRule

/-- The rules in their order. -/
def all : List ConfigRule := [leastCapacity, mostCapacity, keepAlive, level, format]

/-- The rules that come before a rule. -/
def before (r : ConfigRule) : List ConfigRule := all.takeWhile (· ≠ r)

/-- What a rule demands. -/
def Holds (c : Config) : ConfigRule → Prop
  | leastCapacity => 148 ≤ c.buffer.capacity.toNat
  | mostCapacity => c.buffer.capacity.toNat ≤ 65535
  | keepAlive => 1 ≤ c.session.keepAlive.toNat
  | level => Text.lower c.log.level ∈ ["trace", "debug", "info", "warn", "error"]
  | format => c.log.format ∈ ["json", "text"]

/-- What is told of a broken rule: the member, and what stands there. -/
def reason (c : Config) : ConfigRule → String
  | leastCapacity =>
    "buffer.capacity must be at least 148 bytes, got "
      ++ Numeral.decimal c.buffer.capacity.toNat
  | mostCapacity =>
    "buffer.capacity must be at most 65535 bytes, got "
      ++ Numeral.decimal c.buffer.capacity.toNat
  | keepAlive => "session.default_keep_alive must be greater than 0"
  | level => "Unknown log level '" ++ Text.lower c.log.level ++ "'"
  | format => "Unknown log format '" ++ c.log.format ++ "', expected json or text"

/-- A rule is broken, and those before it are not. -/
structure FirstBroken (c : Config) (r : ConfigRule) : Prop where
  broken : ¬ r.Holds c
  earlier : ∀ q ∈ r.before, q.Holds c

/-- Either no rule is broken or one is the first to be. -/
theorem usable_or_firstBroken (c : Config) : c.Usable ∨ ∃ r, FirstBroken c r := by
  by_cases hleast : leastCapacity.Holds c
  · by_cases hmost : mostCapacity.Holds c
    · by_cases hkeepAlive : keepAlive.Holds c
      · by_cases hlevel : level.Holds c
        · by_cases hformat : format.Holds c
          · exact .inl ⟨⟨hleast, hmost⟩, hkeepAlive, hlevel, hformat⟩
          · exact .inr ⟨format, hformat, by simp [before, all, hleast, hmost, hkeepAlive, hlevel]⟩
        · exact .inr ⟨level, hlevel, by simp [before, all, hleast, hmost, hkeepAlive]⟩
      · exact .inr ⟨keepAlive, hkeepAlive, by simp [before, all, hleast, hmost]⟩
    · exact .inr ⟨mostCapacity, hmost, by simp [before, all, hleast]⟩
  · exact .inr ⟨leastCapacity, hleast, by simp [before, all]⟩

end ConfigRule

/-! ## The sections in the program -/

section Sections

variable {c : Config}

theorem Breach.message_capacityTooSmall (n : UInt64) :
    message (.capacityTooSmall n)
      = "buffer.capacity must be at least 148 bytes, got " ++ Numeral.decimal n.toNat := by
  have hbound : Numeral.decimal leastCapacity = "148" := by
    simp [Numeral.decimal, leastCapacity, Numeral.digits, Numeral.digitChar]
  have hfront : "buffer.capacity must be at least " ++ "148" ++ " bytes, got "
      = "buffer.capacity must be at least 148 bytes, got " := by decide
  show "buffer.capacity must be at least " ++ Numeral.decimal leastCapacity ++ " bytes, got "
    ++ Numeral.decimal n.toNat = _
  rw [hbound, hfront]

theorem Breach.message_capacityTooLarge (n : UInt64) :
    message (.capacityTooLarge n)
      = "buffer.capacity must be at most 65535 bytes, got " ++ Numeral.decimal n.toNat := by
  have hbound : Numeral.decimal mostCapacity = "65535" := by
    simp [Numeral.decimal, mostCapacity, Numeral.digits, Numeral.digitChar]
  have hfront : "buffer.capacity must be at most " ++ "65535" ++ " bytes, got "
      = "buffer.capacity must be at most 65535 bytes, got " := by decide
  show "buffer.capacity must be at most " ++ Numeral.decimal mostCapacity ++ " bytes, got "
    ++ Numeral.decimal n.toNat = _
  rw [hbound, hfront]

theorem BufferSection.check_eq_ok (hleast : ConfigRule.leastCapacity.Holds c)
    (hmost : ConfigRule.mostCapacity.Holds c) : c.buffer.check = .ok () := by
  rw [check, leastCapacity, mostCapacity, if_neg (Nat.not_lt.mpr hleast),
    if_neg (Nat.not_lt.mpr hmost)]

theorem BufferSection.check_of_small (h : ¬ ConfigRule.leastCapacity.Holds c) :
    c.buffer.check = .error (.capacityTooSmall c.buffer.capacity) := by
  rw [check, leastCapacity, if_pos (Nat.not_le.mp h)]

theorem BufferSection.check_of_large (hleast : ConfigRule.leastCapacity.Holds c)
    (h : ¬ ConfigRule.mostCapacity.Holds c) :
    c.buffer.check = .error (.capacityTooLarge c.buffer.capacity) := by
  rw [check, leastCapacity, mostCapacity, if_neg (Nat.not_lt.mpr hleast),
    if_pos (Nat.not_le.mp h)]

theorem SessionSection.keepAlive_eq_zero_iff :
    c.session.keepAlive = 0 ↔ ¬ ConfigRule.keepAlive.Holds c := by
  rw [ConfigRule.Holds, ← UInt16.toNat_inj, Nat.not_le, Nat.lt_one_iff]
  exact Iff.rfl

theorem SessionSection.check_eq_ok (h : ConfigRule.keepAlive.Holds c) :
    c.session.check = .ok () := by
  rw [check, if_neg fun hzero => keepAlive_eq_zero_iff.mp hzero h]

theorem SessionSection.check_of_zero (h : ¬ ConfigRule.keepAlive.Holds c) :
    c.session.check = .error .keepAliveZero := by
  rw [check, if_pos (keepAlive_eq_zero_iff.mpr h)]

theorem LogSection.level_contains_iff :
    levelNames.contains (Text.lower c.log.level) = true ↔ ConfigRule.level.Holds c :=
  List.contains_iff_mem

theorem LogSection.format_contains_iff :
    formatNames.contains c.log.format = true ↔ ConfigRule.format.Holds c :=
  List.contains_iff_mem

theorem LogSection.check_eq_ok (hlevel : ConfigRule.level.Holds c)
    (hformat : ConfigRule.format.Holds c) : c.log.check = .ok () := by
  simp only [check, level_contains_iff.mpr hlevel, format_contains_iff.mpr hformat, Bool.not_true,
    Bool.false_eq_true, if_false]

/-- An unknown level is named in lower case. -/
theorem LogSection.check_of_level (h : ¬ ConfigRule.level.Holds c) :
    c.log.check = .error (.unknownLevel (Text.lower c.log.level)) := by
  have hunknown := Bool.eq_false_iff.mpr (mt level_contains_iff.mp h)
  simp only [check, hunknown, Bool.not_false, if_true]

/-- An unknown format is named as it stands, if the level is known. -/
theorem LogSection.check_of_format (hlevel : ConfigRule.level.Holds c)
    (h : ¬ ConfigRule.format.Holds c) : c.log.check = .error (.unknownFormat c.log.format) := by
  have hunknown := Bool.eq_false_iff.mpr (mt format_contains_iff.mp h)
  simp only [check, level_contains_iff.mpr hlevel, hunknown, Bool.not_true, Bool.not_false,
    Bool.false_eq_true, if_false, if_true]

end Sections

/-! ## All rules in the program -/

namespace Config

variable {c : Config}

theorem validate_of_usable (h : c.Usable) : c.validate = .ok () := by
  rw [validate, check, BufferSection.check_eq_ok h.capacity.1 h.capacity.2,
    SessionSection.check_eq_ok h.keepAlive, LogSection.check_eq_ok h.level h.format]
  rfl

/-- Of several broken rules the first is told. -/
theorem validate_of_firstBroken {r : ConfigRule} (h : ConfigRule.FirstBroken c r) :
    c.validate = .error (.invalid (r.reason c)) := by
  have earlier : ∀ q, q ∈ r.before → q.Holds c := h.earlier
  rw [validate, check]
  -- the checks before the broken one pass, since their rules hold
  cases r with
  | leastCapacity =>
    rw [BufferSection.check_of_small h.broken]
    show Except.error (ConfigError.invalid (Breach.message _)) = _
    exact congrArg (Except.error ∘ ConfigError.invalid) (Breach.message_capacityTooSmall _)
  | mostCapacity =>
    rw [BufferSection.check_of_large (earlier .leastCapacity (by decide)) h.broken]
    show Except.error (ConfigError.invalid (Breach.message _)) = _
    exact congrArg (Except.error ∘ ConfigError.invalid) (Breach.message_capacityTooLarge _)
  | keepAlive =>
    rw [BufferSection.check_eq_ok (earlier .leastCapacity (by decide))
        (earlier .mostCapacity (by decide)), SessionSection.check_of_zero h.broken]
    rfl
  | level =>
    rw [BufferSection.check_eq_ok (earlier .leastCapacity (by decide))
        (earlier .mostCapacity (by decide)),
      SessionSection.check_eq_ok (earlier .keepAlive (by decide)),
      LogSection.check_of_level h.broken]
    rfl
  | format =>
    rw [BufferSection.check_eq_ok (earlier .leastCapacity (by decide))
        (earlier .mostCapacity (by decide)),
      SessionSection.check_eq_ok (earlier .keepAlive (by decide)),
      LogSection.check_of_format (earlier .level (by decide)) h.broken]
    rfl

/-- The check passes for usable configurations only. -/
theorem validate_eq_ok_iff_usable : c.validate = .ok () ↔ c.Usable := by
  constructor
  · intro hvalid
    rcases ConfigRule.usable_or_firstBroken c with husable | ⟨r, hr⟩
    · exact husable
    · rw [validate_of_firstBroken hr] at hvalid
      cases hvalid
  · exact validate_of_usable

/-- The check fails with the first rule that is broken, and says what stands there. -/
theorem validate_eq_error_iff {e : ConfigError} :
    c.validate = .error e ↔ ∃ r, ConfigRule.FirstBroken c r ∧ e = .invalid (r.reason c) := by
  constructor
  · intro hinvalid
    rcases ConfigRule.usable_or_firstBroken c with husable | ⟨r, hr⟩
    · rw [validate_of_usable husable] at hinvalid
      cases hinvalid
    · rw [validate_of_firstBroken hr] at hinvalid
      cases hinvalid
      exact ⟨r, hr, rfl⟩
  · rintro ⟨r, hr, rfl⟩
    exact validate_of_firstBroken hr

end Config

end TunnelHost
