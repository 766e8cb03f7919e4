import TunnelHost.CommandLine.Run
import TunnelHost.Proofs.ConfigRules
import TunnelHost.Proofs.HostMotions

/-!
# Configurations that are accepted can be used

A configuration comes from a text, a file or a default one, with overrides or without. Whichever way
it comes, it is checked last, so what the program accepts breaks no rule: a bridge can be created
with it, and sessions get buffers of a capacity within bounds. A bridge is created with no other
configuration, and an attempt with one takes no context.

- `Config.Accepted`: the ways by which the program comes to a configuration.
- `Config.usable_of_ofJson`, `Config.usable_of_override` and others: each of them.
- `Host.step_addBridge_of_usable`, `Host.step_addBridge_of_not_usable`: creating a bridge.
- `Host.usable_of_sessionAt`: the sessions of every host.
- `Config.accepted_usable`: all of it.
-/

namespace TunnelHost

open CommandLine (Invocation Site)

namespace Config

/-- The ways by which the program comes to a configuration: a text, a file without and with
overrides, overrides on any configuration to begin with, and what an invocation finds. -/
inductive Accepted : Config → Prop
  | text {s : String} {c : Config} (h : ofJson s = .ok c) : Accepted c
  | file {path : String} {entry : FileEntry} {c : Config} (h : ofFile path entry = .ok c) :
      Accepted c
  | fileWith {path : String} {entry : FileEntry} {texts : Surroundings} {c : Config}
      (h : ofFileWith path entry texts = .ok c) : Accepted c
  | overridden {start : Config} {texts : Surroundings} {c : Config}
      (h : start.override texts = (c, .ok ())) : Accepted c
  | invocation {i : Invocation} {site : Site} {c : Config} (h : i.config site = .ok c) : Accepted c

/-! ## Each of the ways -/

variable {c : Config}

/-- A configuration that is read and then checked is one that was read, and it is usable. -/
theorem usable_of_bind {x : Except ConfigError Config}
    (h : (do let c ← x; c.validate; return c) = .ok c) : c.Usable := by
  obtain ⟨d, -, hrest⟩ := bind_eq_ok_iff.mp h
  obtain ⟨_, hvalid, hreturn⟩ := bind_eq_ok_iff.mp hrest
  have hd : d = c := Except.ok.inj hreturn
  rw [← hd]
  exact validate_eq_ok_iff_usable.mp hvalid

theorem usable_of_ofJson {s : String} (h : ofJson s = .ok c) : c.Usable := usable_of_bind h

theorem usable_of_ofFile {path : String} {entry : FileEntry} (h : ofFile path entry = .ok c) :
    c.Usable := by
  obtain ⟨s, -, htext⟩ := bind_eq_ok_iff.mp h
  exact usable_of_bind htext

/-- Overrides that succeed end with a check of what is left. -/
theorem usable_of_override {start : Config} {texts : Surroundings}
    (h : start.override texts = (c, .ok ())) : c.Usable := by
  rw [override] at h
  split at h
  next d happlied =>
    obtain ⟨hd, hvalid⟩ := Prod.mk.inj h
    rw [hd] at hvalid
    exact validate_eq_ok_iff_usable.mp hvalid
  next d e happlied => cases h

/-- Overrides are checked again, so what comes of them is usable. -/
theorem usable_of_withOverrides {start : Config} {texts : Surroundings}
    (h : start.withOverrides texts = .ok c) : c.Usable := by
  rw [withOverrides] at h
  cases hoverride : start.override texts with
  | mk d result =>
    rw [hoverride] at h
    cases result with
    | error e => cases h
    | ok u =>
      cases h
      exact usable_of_override hoverride

theorem usable_of_ofFileWith {path : String} {entry : FileEntry} {texts : Surroundings}
    (h : ofFileWith path entry texts = .ok c) : c.Usable := by
  obtain ⟨d, -, hoverrides⟩ := bind_eq_ok_iff.mp h
  exact usable_of_withOverrides hoverrides

/-- The configuration of an invocation, whether there is a file or not. -/
theorem usable_of_invocation {i : Invocation} {site : Site} (h : i.config site = .ok c) :
    c.Usable := by
  rw [Invocation.config] at h
  split at h
  · exact usable_of_ofFileWith (mapError_eq_ok_iff.mp h)
  · exact usable_of_withOverrides (mapError_eq_ok_iff.mp h)

/-- **Whatever way a configuration was accepted, it is usable.** -/
theorem usable_of_accepted (h : Accepted c) : c.Usable := by
  cases h with
  | text h => exact usable_of_ofJson h
  | file h => exact usable_of_ofFile h
  | fileWith h => exact usable_of_ofFileWith h
  | overridden h => exact usable_of_override h
  | invocation h => exact usable_of_invocation h

/-- A usable configuration passes the check where nothing is overridden. -/
theorem accepted_of_usable (h : c.Usable) : Accepted c := by
  have hnone : c.override (fun _ => none) = (c, c.validate) := rfl
  rw [validate_of_usable h] at hnone
  exact .overridden hnone

end Config

/-! ## Bridges and sessions -/

namespace Host

variable {β : Type} {E : Engine β} {c : Config}

theorem nextContext_engineFor (h : Host E) (name : String) :
    (h.engineFor name).2.nextContext = h.nextContext := by
  rw [engineFor]
  split <;> rfl

theorem nextContext_forgetBridge (h : Host E) (name : String) :
    (h.forgetBridge name).1.nextContext = h.nextContext := by
  rw [forgetBridge]
  split <;> rfl

theorem nextContext_withBridge (h : Host E) (name : String) (engine : Nat) (c : Config) :
    (h.withBridge name engine c).nextContext = h.nextContext + 1 :=
  nextContext_forgetBridge (h.withRegistry engine c) name

/-- A bridge with a usable configuration takes the next context. -/
theorem step_addBridge_of_usable (h : Host E) (name engine : String) (husable : c.Usable) :
    (∃ text family, (h.step (.addBridge name engine c)).2
        = .bridge ⟨h.nextContext⟩ text family E.name)
      ∧ (h.step (.addBridge name engine c)).1.nextContext = h.nextContext + 1 := by
  have hcontext := nextContext_engineFor { h with clock := h.clock + 1 } engine
  simp only [step, act, addBridge_of_validate (Config.validate_of_usable husable)]
  constructor
  · exact ⟨_, _, congrArg (fun n => Answer.bridge ⟨n⟩ _ _ _) hcontext⟩
  · rw [nextContext_withBridge, hcontext]

/-- Without one there is no bridge, and no context is taken. -/
theorem step_addBridge_of_not_usable (h : Host E) (name engine : String) (hbroken : ¬ c.Usable) :
    (∃ e, c.validate = .error e
        ∧ (h.step (.addBridge name engine c)).2 = .hostError (.config e))
      ∧ (h.step (.addBridge name engine c)).1.nextContext = h.nextContext := by
  have hcontext := nextContext_engineFor { h with clock := h.clock + 1 } engine
  obtain ⟨r, hr⟩ := (ConfigRule.usable_or_firstBroken c).resolve_left hbroken
  have hinvalid := Config.validate_of_firstBroken hr
  simp only [step, act, addBridge_of_error hinvalid]
  exact ⟨⟨_, hinvalid, rfl⟩, hcontext⟩

/-- Every session that a host ever has comes from a usable configuration. -/
theorem usable_of_sessionAt {before : List (Step β)} {holder : Holder} {s : Session E}
    (hs : (after E before).sessionAt holder = some s) : s.family.value.config.Usable := by
  -- the invariant of hosts for a property that all sessions have
  have hkept : Session.Kept fun _ : Session E => True :=
    ⟨fun _ _ _ _ _ _ _ _ => trivial, fun _ _ _ _ _ _ => trivial⟩
  have hchecked := ((keeps_after hkept before).sessionAt hs).sound.checked
  exact Config.validate_eq_ok_iff_usable.mp (Config.validate_eq_ok_iff.mpr hchecked)

end Host

/-- **What is accepted can be used.** The configurations that the program accepts, by whichever
way, are those that break no rule, and of a broken one the first is told. A bridge is created with
these and takes the next context; with any other there is the error of the check, and no context
is taken. Whatever a host has done, its sessions have buffers of 148 to 65535 octets; and an
invocation that comes to a configuration can create its bridge. -/
theorem Config.accepted_usable {β : Type} (E : Engine β) :
    (∀ c, Config.Accepted c ↔ c.Usable)
    ∧ (∀ c : Config, (c.validate = .ok () ↔ c.Usable)
        ∧ ∀ e, c.validate = .error e ↔
            ∃ r, ConfigRule.FirstBroken c r ∧ e = .invalid (r.reason c))
    ∧ (∀ (h : Host E) (name engine : String) (c : Config),
        let next := h.step (.addBridge name engine c)
        (c.Usable → (∃ text family, next.2 = .bridge ⟨h.nextContext⟩ text family E.name)
          ∧ next.1.nextContext = h.nextContext + 1)
        ∧ (¬ c.Usable → (∃ e, c.validate = .error e ∧ next.2 = .hostError (.config e))
          ∧ next.1.nextContext = h.nextContext))
    ∧ (∀ (before : List (Step β)) (holder : Holder) (s : Session E),
        (Host.after E before).sessionAt holder = some s →
          s.family.value.config.Usable ∧ 148 ≤ s.capacity ∧ s.capacity ≤ 65535)
    ∧ ∀ (i : Invocation) (site : Site) (c : Config), i.config site = .ok c →
        ∃ b h, ({} : Host Noise.engine).addBridge "" 0 c = .ok (b, h) := by
  refine ⟨?_, ?_, ?_, ?_, ?_⟩
  · intro c
    exact ⟨usable_of_accepted, accepted_of_usable⟩
  · intro c
    exact ⟨validate_eq_ok_iff_usable, fun e => validate_eq_error_iff⟩
  · intro h name engine c next
    exact ⟨fun husable => h.step_addBridge_of_usable name engine husable,
      fun hbroken => h.step_addBridge_of_not_usable name engine hbroken⟩
  · intro before holder s hs
    -- sessions come of bridges, and bridges of configurations that passed the check
    have husable := Host.usable_of_sessionAt hs
    exact ⟨husable, husable.capacity⟩
  · intro i site c hconfig
    have hvalid := validate_of_usable (usable_of_invocation hconfig)
    exact ⟨_, _, Host.addBridge_of_validate hvalid⟩

end TunnelHost
