import TunnelHost.Main
import TunnelHost.Proofs.ArgumentWords
import TunnelHost.Proofs.UsableConfig

/-!
# What an invocation comes to

The words behind the program's name are read before anything is looked at, and some of them end the
matter there. What the others settle decides what is done: a default configuration is written, or
else one is loaded, and then it is all that is checked, or a command is performed with it.

- `Outcome.ofHalt_code`: how a run ends that its words end.
- `Concludes`: how a run ends otherwise.
- `Invocation.run_concludes`: so ends every run, with any site.
- `program_of_halt`, `program_of_settings`: what the program does, with a look around and without.
- `survey_of_generate`, `survey_of_not_generate`: what it writes there.
- `respond_words`: all of it.
-/

namespace TunnelHost.CommandLine

/-! ## Without a look around -/

/-- Asking for help or for the version is no failure, and everything else that ends the reading is.
-/
theorem Outcome.ofHalt_code (halt : Halt) :
    (Outcome.ofHalt halt).code = if halt = .help ∨ halt = .version then 0 else 1 := by
  cases halt with
  | help => rfl
  | version => rfl
  | missingKey => rfl
  | unknown word => rfl

/-- Nothing is written when the arguments are not understood. -/
theorem Outcome.ofHalt_written (halt : Halt) : (Outcome.ofHalt halt).written = none := by
  cases halt with
  | help => rfl
  | version => rfl
  | missingKey => rfl
  | unknown word => rfl

/-- Words behind the one that ends the matter change nothing. Only the lack of a key is no longer
there if a word follows. -/
theorem Divides.append {settings : List Setting} {halt : Halt} {words : List String}
    (h : Divides settings (some halt) words) (hkey : halt ≠ .missingKey) (more : List String) :
    Divides settings (some halt) (words ++ more) := by
  -- the induction is on every list of words, so that this one ends early is kept as an equation
  generalize hsome : some halt = ended at h
  induction h with
  | nothing => cases hsome
  | pathless hrole => cases hsome
  | path hrole _ ih => exact .path hrole (ih hsome)
  | generate hrole _ ih => exact .generate hrole (ih hsome)
  | check hrole _ ih => exact .check hrole (ih hsome)
  | command hrole _ ih => exact .command hrole (ih hsome)
  | checkKey hrole _ ih => exact .checkKey hrole (ih hsome)
  | keyless hrole => exact absurd (Option.some.inj hsome) hkey
  | help hrole => exact .help hrole
  | version hrole => exact .version hrole
  | unknown hrole => exact .unknown hrole

theorem ofArguments_of_halt {settings : List Setting} {halt : Halt} {words : List String}
    (h : Divides settings (some halt) words) : Invocation.ofArguments words = .error halt :=
  Invocation.read_of_divides h {}

theorem ofArguments_of_settings {settings : List Setting} {words : List String}
    (h : Divides settings none words) : Invocation.ofArguments words = .ok (settled settings) := by
  rw [Invocation.ofArguments, Invocation.read_of_divides h, foldl_apply]
  rfl

/-- The program does nothing but print the outcome. -/
theorem program_of_halt {settings : List Setting} {halt : Halt} {words : List String}
    (h : Divides settings (some halt) words) : program words = conclude (.ofHalt halt) 0 := by
  rw [program, ofArguments_of_halt h]

/-! ## With a look around -/

/-- How an invocation ends. What is asked for is looked at in this order: a default configuration, a
configuration to work with, a check of it, and a command. -/
structure Concludes (i : Invocation) (site : Site) (o : Outcome) : Prop where
  /-- A default configuration is written, and nothing else is done. -/
  generated : i.generate = true → site.writeFault = none →
    o = { Outcome.say ("Generated default configuration at " ++ Text.quoted i.path) with
          written := some Config.defaultText }
  /-- It cannot be written. -/
  unwritable : i.generate = true → ∀ fault, site.writeFault = some fault →
    o = .ofFailure (.ofConfig fault.toError)
  /-- There is no configuration to work with. -/
  unloadable : i.generate = false → ∀ f, i.config site = .error f → o = .ofFailure f
  /-- It was all that was to be checked. -/
  checked : i.generate = false → ∀ c, i.config site = .ok c → i.check = true →
    o = .say "Configuration is valid"
  /-- There is no command. -/
  unasked : i.generate = false → ∀ c, i.config site = .ok c → i.check = false → i.command = none →
    o.code = 1 ∧ o.output = some (.text manual) ∧ o.failure = none ∧ o.written = none
  /-- The command is performed with a bridge of the configuration. -/
  performed : i.generate = false → ∀ c, i.config site = .ok c → i.check = false →
    ∀ command, i.command = some command →
    ∃ bridge host, ({} : Host Noise.engine).addBridge "" 0 c = .ok (bridge, host)
      ∧ o.code = (command.perform host bridge site).code
      ∧ o.output = (command.perform host bridge site).output
      ∧ o.failure = (command.perform host bridge site).failure
      ∧ o.written = none

namespace Invocation

variable {i : Invocation} {site : Site} {c : Config}

/-- When a configuration is asked for, nothing else is done. -/
theorem run_of_generate (hgenerate : i.generate = true) : i.run site = i.writeDefault site := by
  rw [run, hgenerate]
  rfl

/-- Without a check the command is performed. -/
theorem run_of_unchecked (hgenerate : i.generate = false) (hc : i.config site = .ok c)
    (hcheck : i.check = false) : i.run site = i.perform site c := by
  rw [run, hgenerate, hc, hcheck]
  rfl

/-- What is told on the way is all that a performed command leaves beside its own outcome. -/
theorem perform_of_command (site : Site) {command : Command} (husable : c.Usable)
    (hcommand : i.command = some command) :
    ∃ bridge host, ({} : Host Noise.engine).addBridge "" 0 c = .ok (bridge, host)
      ∧ (i.perform site c).code = (command.perform host bridge site).code
      ∧ (i.perform site c).output = (command.perform host bridge site).output
      ∧ (i.perform site c).failure = (command.perform host bridge site).failure
      ∧ (i.perform site c).written = (command.perform host bridge site).written := by
  obtain ⟨bridge, host, hbridge⟩ :
      ∃ b h, ({} : Host Noise.engine).addBridge "" 0 c = .ok (b, h) :=
    ⟨_, _, Host.addBridge_of_validate (Config.validate_of_usable husable)⟩
  refine ⟨bridge, host, hbridge, ?_⟩
  rw [perform, hcommand, hbridge]
  exact ⟨rfl, rfl, rfl, rfl⟩

end Invocation

/-- No command writes the configuration. -/
theorem Command.written_perform (command : Command) (host : Host Noise.engine) (bridge : Bridge)
    (site : Site) : (command.perform host bridge site).written = none := by
  cases command with
  | generateKey => rfl
  | publicKey =>
    rw [Command.perform]
    split
    · rfl
    · split
      · rfl
      · rfl
  | checkKey text =>
    rw [Command.perform]
    split
    · rfl
    · rfl
  | selfTest =>
    rw [Command.perform]
    split
    · rfl
    · rfl

/-- Every invocation ends in one of these ways, whatever it finds. A bridge can always be started:
a configuration that is loaded is one that can be used. -/
theorem Invocation.run_concludes (i : Invocation) (site : Site) :
    Concludes i site (i.run site) where
  generated hgenerate hfault := by
    rw [run_of_generate hgenerate, writeDefault, hfault]
    rfl
  unwritable hgenerate fault hfault := by
    rw [run_of_generate hgenerate, writeDefault, hfault]
    rfl
  unloadable hgenerate f hf := by
    rw [run, hgenerate, hf]
    rfl
  checked hgenerate c hc hcheck := by
    rw [run, hgenerate, hc, hcheck]
    rfl
  unasked hgenerate c hc hcheck hcommand := by
    rw [run_of_unchecked hgenerate hc hcheck, perform, hcommand,
      -- a configuration that was loaded has been checked, so the bridge does not fail
      Host.addBridge_of_validate (Config.validate_of_usable (Config.usable_of_invocation hc))]
    exact ⟨rfl, rfl, rfl, rfl⟩
  performed hgenerate c hc hcheck command hcommand := by
    obtain ⟨bridge, host, hbridge, hcode, houtput, hfailure, hwritten⟩ :=
      perform_of_command site (Config.usable_of_invocation hc) hcommand
    rw [run_of_unchecked hgenerate hc hcheck]
    exact ⟨bridge, host, hbridge, hcode, houtput, hfailure,
      hwritten.trans (command.written_perform host bridge site)⟩

/-! ## The program -/

/-- A default configuration is written to the path, and standard input is left alone. -/
theorem survey_of_generate {i : Invocation} (hgenerate : i.generate = true) :
    survey i = i.lookAround (writeAt i.path Config.defaultText) (pure []) := by
  simp [survey, hgenerate]

/-- Nothing is written, and standard input is read only for the command that needs it. -/
theorem survey_of_not_generate {i : Invocation} (hgenerate : i.generate = false) :
    survey i = i.lookAround (pure none)
      (if i.command = some .publicKey ∧ i.check = false then readInput else pure []) := by
  simp [survey, hgenerate]

/-- The program looks around once, for the invocation that was settled, and what it finds is all
that its outcome depends on. -/
theorem program_of_settings {settings : List Setting} {words : List String}
    (h : Divides settings none words) :
    program words = (do
      let site ← survey (settled settings)
      let start ← IO.monoNanosNow
      let o ← IO.lazyPure fun _ => respond (fun _ => site) words
      let stop ← IO.monoNanosNow
      conclude o (stop - start)) := by
  simp only [program, respond, ofArguments_of_settings h]

/-! ## The law -/

/-- **Words are read from the left, and what they settle decides what is done.** Words fall into
pieces in one way: a word that asks for a value takes the next one, whatever it is. If one of them
ends the matter, it does so with any site, words behind it change nothing, nothing is written, and
the exit code is zero exactly if the manual or the version is asked for. Otherwise the last path,
the last command and the options, wherever they stand, make an invocation. What is found for it
decides the outcome: a default configuration is written, or there is none to work with, or it is
checked, or the command is performed, in this order. -/
theorem respond_words :
    (∀ words : List String, ∃! p : List Setting × Option Halt, Divides p.1 p.2 words)
    ∧ (∀ (settings : List Setting) (halt : Halt) (words : List String),
        Divides settings (some halt) words →
        (∀ site, respond site words = .ofHalt halt)
          ∧ (Outcome.ofHalt halt).code = (if halt = .help ∨ halt = .version then 0 else 1)
          ∧ (Outcome.ofHalt halt).written = none
          ∧ (halt ≠ .missingKey → ∀ more, Divides settings (some halt) (words ++ more)))
    ∧ ∀ (settings : List Setting) (words : List String), Divides settings none words →
        ∀ site : Invocation → Site,
          Concludes (settled settings) (site (settled settings)) (respond site words) := by
  refine ⟨?_, ?_, ?_⟩
  · intro words
    -- one division exists, and any two agree
    obtain ⟨settings, halt, h⟩ := exists_divides words
    refine ⟨(settings, halt), h, ?_⟩
    intro p hp
    obtain ⟨hsettings, hhalt⟩ := hp.unique h
    exact Prod.ext hsettings hhalt
  · intro settings halt words h
    refine ⟨?_, Outcome.ofHalt_code halt, Outcome.ofHalt_written halt, h.append⟩
    intro site
    rw [respond, ofArguments_of_halt h]
  · intro settings words h site
    rw [respond, ofArguments_of_settings h]
    exact (settled settings).run_concludes (site (settled settings))

/-- A word that would ask for the manual, as a path and as a key. -/
theorem respond_words_values :
    let site : Invocation → Site := fun _ => {
      entry := .absent
      writeFault := none
      surroundings := fun _ => none
      input := []
      secrets := fun _ => .zero }
    respond site ["-c", "--help", "genkey", "--check", "-c"] = .say "Configuration is valid"
      ∧ respond site ["check-key", "-h", "bogus", "-g"] = .ofHalt (.unknown "bogus") := by
  intro site
  have hsettings : Divides [.path "--help", .command .generateKey, .check] none
      ["-c", "--help", "genkey", "--check", "-c"] :=
    .path rfl (.command rfl (.check rfl (.pathless rfl)))
  have hhalt : Divides [.command (.checkKey "-h")] (some (.unknown "bogus"))
      ["check-key", "-h", "bogus", "-g"] :=
    .checkKey rfl (.unknown rfl)
  obtain ⟨-, hends, hconcludes⟩ := respond_words
  have hchecked := hconcludes _ _ hsettings site
  exact ⟨hchecked.checked rfl {} rfl rfl, (hends _ _ _ hhalt).1 site⟩

end TunnelHost.CommandLine
