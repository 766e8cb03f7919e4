import TunnelHost.CommandLine.Run
import TunnelHost.Proofs.ConfigRules
import TunnelHost.Proofs.LetterCase
import TunnelHost.Proofs.Overrides

/-!
# Names in settings

Policies and levels are given by name, and names are compared in lower case. By Unicode's mapping
that could let look-alikes pass for letters, but none of the names has a letter for which there is
one. So a name is recognised exactly if it is written with its own letters, in upper or lower case.
The program looks at the level twice, once to check it and once to set up the filter of events; what
the check lets pass is the level that is then used.

- `IndexPolicy.spelledAs_iff`: the texts that name a policy.
- `Level.Named`: a text names a level.
- `LogSection.level_known_iff`: the levels that the check lets pass.
- `CommandLine.levelOf_of_named`: the level that is used.
- `CommandLine.rules_filterOf`, `CommandLine.admits_filterOf`: where it is used, and what for.
- `Config.names_exact`: all of it.
-/

namespace TunnelHost

open Text (SameLetters Trims)

/-! ## Policies -/

namespace IndexPolicy

/-- The spellings of policies are lower-case names that no look-alike can stand for. -/
theorem isPlainName_of_mem_spellings {policy : IndexPolicy} {name : String}
    (h : name ∈ policy.spellings) :
    Text.IsPlainName name.toList ∧ name.toList.map Char.toLower = name.toList := by
  have hall : ∀ policy ∈ [any, positiveOnly], ∀ name ∈ policy.spellings,
      Text.IsPlainName name.toList ∧ name.toList.map Char.toLower = name.toList := by decide
  refine hall policy ?_ name h
  cases policy <;> decide

/-- A policy is named by the letters of one of its spellings. -/
theorem spelledAs_iff {policy : IndexPolicy} {s : String} :
    policy.SpelledAs s ↔ ∃ core, Trims s.toList core
      ∧ ∃ name ∈ policy.spellings, SameLetters core name.toList := by
  -- a text is compared by its lower-case form, which is taken once the blanks are gone
  have hfolded (core : List Char) : Text.lower (String.ofList core) ∈ policy.spellings
      ↔ ∃ name ∈ policy.spellings, SameLetters core name.toList := by
    constructor
    · intro h
      obtain ⟨hplain, hlower⟩ := isPlainName_of_mem_spellings h
      have hsame := (Text.lower_eq_iff hplain hlower (String.ofList core)).mp rfl
      rw [String.toList_ofList] at hsame
      exact ⟨_, h, hsame⟩
    · rintro ⟨name, hname, hsame⟩
      obtain ⟨hplain, hlower⟩ := isPlainName_of_mem_spellings hname
      rw [(Text.lower_eq_iff hplain hlower (String.ofList core)).mpr
        (by rw [String.toList_ofList]; exact hsame)]
      exact hname
  simp only [SpelledAs, hfolded]

/-- A policy is accepted in any of its spellings. -/
theorem ofText_eq_ok_iff {policy : IndexPolicy} {s : String} :
    ofText s = .ok policy ↔ policy.SpelledAs s := by
  rw [← ofText?_eq_some_iff, ofText]
  cases ofText? s with
  | none => exact ⟨fun h => (by cases h), fun h => (by cases h)⟩
  | some p => rw [Except.ok.injEq, Option.some.injEq]

/-- What is told of a text that names no policy. -/
theorem ofText_of_not_spelledAs {s : String} (h : ∀ policy : IndexPolicy, ¬ policy.SpelledAs s) :
    (ofText s).mapError ConfigError.ofBreach = .error (.invalid ("Unknown index policy '"
      ++ Text.lower (Text.trim s) ++ "', expected any_i32 or positive_only")) := by
  have hnone : ofText? s = none := by
    rw [Option.eq_none_iff_forall_ne_some]
    exact fun policy hpolicy => h policy (ofText?_eq_some_iff.mp hpolicy)
  have hnames : "', expected " ++ any.name ++ " or " ++ positiveOnly.name
      = "', expected any_i32 or positive_only" := by decide
  rw [ofText, hnone, ← hnames, ← String.append_assoc, ← String.append_assoc, ← String.append_assoc]
  rfl

end IndexPolicy

/-! ## Levels -/

namespace Level

/-- A text names a level. Blanks around the name are not passed over. -/
def Named (s : String) (level : Level) : Prop := SameLetters s.toList level.name.toList

theorem mem_all (level : Level) : level ∈ all := by
  cases level <;> decide

/-- The names of levels are lower-case names that no look-alike can stand for. -/
theorem isPlainName_name (level : Level) : Text.IsPlainName level.name.toList
    ∧ level.name.toList.map Char.toLower = level.name.toList := by
  have hall : ∀ level ∈ all, Text.IsPlainName level.name.toList
      ∧ level.name.toList.map Char.toLower = level.name.toList := by decide
  exact hall level level.mem_all

/-- A text names a level if its letters in lower case do. -/
theorem lower_eq_name_iff {s : String} {level : Level} :
    Text.lower s = level.name ↔ Named s level :=
  Text.lower_eq_iff level.isPlainName_name.1 level.isPlainName_name.2 s

theorem name_inj {a b : Level} (h : a.name = b.name) : a = b := by
  have hall : ∀ a ∈ all, ∀ b ∈ all, a.name = b.name → a = b := by decide
  exact hall a a.mem_all b b.mem_all h

/-- The names that the documentation lists are those of the levels. -/
theorem mem_names_iff {name : String} :
    name ∈ ["trace", "debug", "info", "warn", "error"] ↔ ∃ level : Level, level.name = name := by
  constructor
  · have hnames : ∀ name ∈ ["trace", "debug", "info", "warn", "error"],
        ∃ level ∈ all, level.name = name := by decide
    intro h
    obtain ⟨level, -, hlevel⟩ := hnames name h
    exact ⟨level, hlevel⟩
  · have hnames : ∀ level ∈ all, level.name ∈ ["trace", "debug", "info", "warn", "error"] := by
      decide
    rintro ⟨level, rfl⟩
    exact hnames level level.mem_all

/-- The names of levels are those that the configuration allows. -/
theorem exists_named_iff {s : String} : (∃ level, Named s level) ↔
    ∃ name ∈ ["trace", "debug", "info", "warn", "error"], SameLetters s.toList name.toList := by
  simp only [mem_names_iff]
  constructor
  · rintro ⟨level, h⟩
    exact ⟨level.name, ⟨level, rfl⟩, h⟩
  · rintro ⟨_, ⟨level, rfl⟩, h⟩
    exact ⟨level, h⟩

end Level

/-- The check lets a level pass exactly if it is named. -/
theorem LogSection.level_known_iff {s : String} :
    Text.lower s ∈ ["trace", "debug", "info", "warn", "error"] ↔ ∃ level, Level.Named s level := by
  rw [Level.mem_names_iff]
  refine exists_congr fun level => ?_
  rw [← Level.lower_eq_name_iff, eq_comm]

namespace LogSection

variable {l : LogSection}

/-- What is told of a level that is not named. -/
theorem check_of_not_named (h : ∀ level, ¬ Level.Named l.level level) :
    l.check.mapError ConfigError.ofBreach
      = .error (.invalid ("Unknown log level '" ++ Text.lower l.level ++ "'")) := by
  have hunknown : ¬ ConfigRule.level.Holds { log := l } := fun hlevel =>
    not_exists.mpr h (level_known_iff.mp hlevel)
  have herror : l.check = .error (.unknownLevel (Text.lower l.level)) :=
    check_of_level (c := { log := l }) hunknown
  rw [herror]
  rfl

theorem named_of_check (h : l.check = .ok ()) : ∃ level, Level.Named l.level level := by
  by_contra hnone
  have herror := check_of_not_named (not_exists.mp hnone)
  rw [h] at herror
  cases herror

/-- A section with a known format is accepted exactly if its level is named. -/
theorem check_eq_ok_iff (hformat : l.format ∈ ["json", "text"]) :
    l.check = .ok () ↔ ∃ level, Level.Named l.level level := by
  refine ⟨named_of_check, fun hnamed => ?_⟩
  exact check_eq_ok (c := { log := l }) (level_known_iff.mpr hnamed) hformat

end LogSection

/-! ## The filter -/

namespace CommandLine

variable {l : LogSection} {level : Level}

theorem levelOf_of_named (h : Level.Named l.level level) : levelOf l = level := by
  have hfind : ∀ level ∈ Level.all, Level.all.find? (·.name == level.name) = some level := by decide
  rw [levelOf, Level.lower_eq_name_iff.mpr h, hfind level level.mem_all, Option.getD_some]

/-- The level that stands in for one that is not known is used for no other known one. -/
theorem levelOf_eq_info_iff (h : ∃ level, Level.Named l.level level) :
    levelOf l = .info ↔ Level.Named l.level .info := by
  obtain ⟨level, hlevel⟩ := h
  rw [levelOf_of_named hlevel]
  constructor
  · rintro rfl
    exact hlevel
  · intro hinfo
    refine Level.name_inj ?_
    rw [← Level.lower_eq_name_iff.mpr hlevel, ← Level.lower_eq_name_iff.mpr hinfo]

/-- The rule of the level is the only one for all events, and the engine's rule stands before it. -/
theorem rules_filterOf (l : LogSection) (surroundings : Surroundings) :
    ∃ closer, (filterOf l surroundings).1.rules
        = ⟨"boringtun", none, some .warn⟩ :: ⟨"", none, some (levelOf l)⟩ :: closer
      ∧ ∀ r ∈ closer, ¬ (r.origin = "" ∧ r.field = none) := by
  have hengine : Noise.engine.name = "boringtun" := rfl
  simp only [filterOf, Filter.add, hengine]
  -- whatever the rules of the text are, adding a rule drops those that it covers
  generalize (Filter.ofText _).1.rules = rules
  refine ⟨(rules.filter fun old => !old.covers ⟨"", none, some (levelOf l)⟩).filter
    fun old => !old.covers ⟨"boringtun", none, some .warn⟩, ?_, ?_⟩
  · rw [List.filter_cons_of_pos (by rfl)]
  · rintro r hr ⟨horigin, hfield⟩
    have hother := (List.mem_filter.mp (List.mem_filter.mp hr).1).2
    simp [Filter.Rule.covers, horigin, hfield] at hother

/-- An event on which no closer rule bears is told exactly if it is at least as severe as the
level. -/
theorem admits_filterOf {surroundings : Surroundings} {e : Event}
    (he : ∀ r ∈ (filterOf l surroundings).1.rules, r.bears e = true →
      r.origin = "" ∧ r.field = none) :
    (filterOf l surroundings).1.admits e = true ↔ e.level.rank ≤ (levelOf l).rank := by
  obtain ⟨closer, hrules, hcloser⟩ := rules_filterOf l surroundings
  rw [hrules] at he
  have hbears : Filter.Rule.bears ⟨"", none, some (levelOf l)⟩ e = true := by
    simp [Filter.Rule.bears]
  -- the rule for the engine's own messages does not bear on events from elsewhere
  have hengine : Filter.Rule.bears ⟨"boringtun", none, some .warn⟩ e = false := by
    rw [Bool.eq_false_iff]
    intro h
    have := (he _ (List.mem_cons_self ..) h).1
    revert this
    decide
  -- by assumption nothing closer bears on the event
  have hrest : closer.filter (·.bears e) = [] := by
    rw [List.filter_eq_nil_iff]
    intro r hr h
    exact hcloser r hr (he r (List.mem_cons_of_mem _ (List.mem_cons_of_mem _ hr)) h)
  have hrule : (filterOf l surroundings).1.ruleFor? e = some ⟨"", none, some (levelOf l)⟩ := by
    rw [Filter.ruleFor?, hrules, List.filter_cons_of_neg (by simp [hengine]),
      List.filter_cons_of_pos (by exact hbears), hrest]
    rfl
  rw [Filter.admits, hrule]
  simp [Filter.Rule.admits]

end CommandLine

open CommandLine (levelOf filterOf)

/-- **Names in settings have no look-alikes.** Once the blanks at its ends are gone, a text is the
one policy or the other exactly if it has the letters of one of its spellings, in which only the
case of ASCII letters does not matter; of any other text it is told that it is no policy. Likewise
for levels, where no blanks are passed over. The filter of a run has one rule for all events, and
its level is the very one that the accepted name is the name of; so only that name leads to the
level that would stand in for an unknown one. -/
theorem Config.names_exact :
    (∀ (s : String) (policy : IndexPolicy), IndexPolicy.ofText s = .ok policy ↔
        ∃ core, Trims s.toList core ∧ ∃ name ∈ policy.spellings, SameLetters core name.toList)
    ∧ (∀ s : String, (∀ policy : IndexPolicy, IndexPolicy.ofText s ≠ .ok policy) →
        (IndexPolicy.ofText s).mapError ConfigError.ofBreach = .error (.invalid
          ("Unknown index policy '" ++ Text.lower (Text.trim s)
            ++ "', expected any_i32 or positive_only")))
    ∧ (∀ l : LogSection, l.format ∈ ["json", "text"] →
        (l.check = .ok () ↔ ∃ name ∈ ["trace", "debug", "info", "warn", "error"],
          SameLetters l.level.toList name.toList)
        ∧ (l.check ≠ .ok () → l.check.mapError ConfigError.ofBreach
            = .error (.invalid ("Unknown log level '" ++ Text.lower l.level ++ "'"))))
    ∧ (∀ (l : LogSection) (level : Level) (surroundings : Surroundings),
        SameLetters l.level.toList level.name.toList →
        let filter := (filterOf l surroundings).1
        levelOf l = level
          ∧ (∀ least, ⟨"", none, least⟩ ∈ filter.rules ↔ least = some level)
          ∧ ∀ e : Event, (∀ r ∈ filter.rules, r.bears e = true → r.origin = "" ∧ r.field = none) →
              (filter.admits e = true ↔ e.level.rank ≤ level.rank))
    ∧ ∀ l : LogSection, l.check = .ok () →
        (levelOf l = .info ↔ SameLetters l.level.toList "info".toList) := by
  refine ⟨?_, ?_, ?_, ?_, ?_⟩
  · intro s policy
    rw [IndexPolicy.ofText_eq_ok_iff, IndexPolicy.spelledAs_iff]
  · intro s hs
    refine IndexPolicy.ofText_of_not_spelledAs fun policy hpolicy => ?_
    exact hs policy (IndexPolicy.ofText_eq_ok_iff.mpr hpolicy)
  · intro l hformat
    refine ⟨?_, fun hrefused => ?_⟩
    · rw [LogSection.check_eq_ok_iff hformat, Level.exists_named_iff]
    · rw [Ne, LogSection.check_eq_ok_iff hformat] at hrefused
      exact LogSection.check_of_not_named (not_exists.mp hrefused)
  · intro l level surroundings hnamed filter
    have hlevel : levelOf l = level := CommandLine.levelOf_of_named hnamed
    obtain ⟨closer, hrules, hcloser⟩ := CommandLine.rules_filterOf l surroundings
    refine ⟨hlevel, fun least => ?_, fun e he => ?_⟩
    · rw [show filter.rules = _ from hrules, hlevel]
      simp only [List.mem_cons, Filter.Rule.mk.injEq, true_and]
      constructor
      -- the engine's rule has a target, and the closer rules are not for all events
      · rintro (⟨horigin, -⟩ | hleast | hother)
        · exact absurd horigin (by decide)
        · exact hleast
        · exact absurd ⟨rfl, rfl⟩ (hcloser _ hother)
      · exact fun hleast => .inr (.inl hleast)
    · rw [← hlevel]
      exact CommandLine.admits_filterOf he
  · intro l hl
    exact CommandLine.levelOf_eq_info_iff (LogSection.named_of_check hl)

/-- A policy between blanks beyond ASCII, a level in mixed case, and one whose first letter only
looks right. -/
theorem Config.names_exact_mixed :
    IndexPolicy.ofText "\u2003Any_I32\u0085" = .ok .any
      ∧ LogSection.check { level := "WaRn" } = .ok () ∧ levelOf { level := "WaRn" } = .warn
      ∧ LogSection.check { level := "\u0130NFO" } ≠ .ok () := by
  obtain ⟨hpolicy, -, hlevel, hused, -⟩ := names_exact
  have htrims : Trims "\u2003Any_I32\u0085".toList "Any_I32".toList :=
    Text.trimChars_eq_iff.mp (by decide +kernel)
  refine ⟨?_, ?_, ?_, ?_⟩
  · exact (hpolicy _ .any).mpr ⟨_, htrims, "any_i32", by decide, by decide⟩
  · exact (hlevel { level := "WaRn" } (by decide)).1.mpr ⟨"warn", by decide, by decide⟩
  · exact (hused { level := "WaRn" } .warn (fun _ => none) (by decide)).1
  · rw [Ne, (hlevel { level := "\u0130NFO" } (by decide)).1]
    decide

end TunnelHost
