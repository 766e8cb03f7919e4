import TunnelHost.CommandLine.SelfTest
import TunnelHost.Log.Directive

/-!
# Runs

What an invocation leads to, given what it finds around it.

- `Site`: what an invocation finds.
- `Invocation.config`: the configuration that it works with.
- `filterOf`: which events are told.
- `Invocation.run`: the outcome.
- `respond`: the outcome for the words behind the program's name.
-/

namespace TunnelHost.CommandLine

/-- What an invocation finds around it. -/
structure Site where
  /-- What stands at the path of the configuration. -/
  entry : FileEntry
  /-- Why nothing can be written there. -/
  writeFault : Option FileFault
  surroundings : Surroundings
  /-- What is on standard input. -/
  input : List UInt8
  /-- New private keys, as many as are needed. -/
  secrets : Nat → Key

/-- The variable with the rules of the log filter. -/
def filterVariable : String := "RUST_LOG"

/-- The level of a configuration. -/
def levelOf (s : LogSection) : Level :=
  let folded := Text.lower s.level
  (Level.all.find? (·.name == folded)).getD .info

/-- The filter of a run, with complaints about its text. The configured level settles what is not
settled more closely; of the protocol engine's own events, only warnings and errors are told, unless
a part of it is named. -/
def filterOf (s : LogSection) (surroundings : Surroundings) : Filter × List String :=
  let (rules, complaints) := Filter.ofText ((surroundings filterVariable).getD "")
  ((rules.add ⟨"", none, some (levelOf s)⟩).add ⟨Noise.engine.name, none, some .warn⟩, complaints)

/-- The event of the start. -/
def startEvent : Event := { level := .debug, origin := "wg_bridge", message := versionLine }

/-- What a command comes to, with a bridge to work with. -/
def Command.perform (host : Host Noise.engine) (bridge : Bridge) (site : Site) : Command → Outcome
  | .generateKey => { output := some (.secretKey (site.secrets 0)) }
  | .publicKey =>
    match textOfBytes? site.input with
    | none =>
      .ofFailure (.under "Failed to read private key from stdin" ⟨FileFault.notText.message, []⟩)
    | some s =>
      match Key.publicTextOfText s with
      | .ok key => .say key
      | .error e => .ofFailure ⟨e.message, []⟩
  | .checkKey s =>
    if Key.isText (Text.trim s) then .say "valid" else { Outcome.say "invalid" with code := 1 }
  | .selfTest =>
    match SelfTest.run host bridge (site.secrets 0) (site.secrets 1) with
    | (events, none) => { output := some .passed, events }
    | (events, some fault) => { Outcome.ofFailure fault.failure with events }

namespace Invocation

/-- The configuration of an invocation: that of its file or, if there is none, the default one, in
either case with overrides. -/
def config (i : Invocation) (site : Site) : Except Failure Config :=
  if site.entry.isPresent then
    (Config.ofFileWith i.path site.entry site.surroundings).mapError fun e =>
      .under ("Failed to load configuration from " ++ i.path) (.ofConfig e)
  else
    (Config.withOverrides site.surroundings {}).mapError fun e =>
      .under "Invalid environment override" (.ofConfig e)

/-- Writes a default configuration. -/
def writeDefault (i : Invocation) (site : Site) : Outcome :=
  match Config.toFile site.writeFault with
  | .error e => .ofFailure (.ofConfig e)
  | .ok text =>
    { Outcome.say ("Generated default configuration at " ++ Text.quoted i.path) with
      written := some text }

/-- Goes on with a configuration: starts a bridge and performs the command. Events are told from
here on. -/
def perform (i : Invocation) (site : Site) (c : Config) : Outcome :=
  let (filter, complaints) := filterOf c.log site.surroundings
  let tell (events : List Event) (o : Outcome) : Outcome :=
    { o with complaints, events := (events ++ o.events).filter filter.admits, log := c.log }
  match ({} : Host Noise.engine).addBridge "" 0 c with
  | .error e => tell [startEvent] (.ofFailure (.ofHost e))
  | .ok (bridge, host) =>
    let o := match i.command with
      | none => { code := 1, output := some (.text manual) }
      | some command => command.perform host bridge site
    tell [startEvent, Bridge.created Noise.engine bridge.context c] o

/-- What an invocation leads to. -/
def run (i : Invocation) (site : Site) : Outcome :=
  if i.generate then i.writeDefault site
  else
    match i.config site with
    | .error f => .ofFailure f
    | .ok c => if i.check then .say "Configuration is valid" else i.perform site c

end Invocation

/-- What the words behind the program's name lead to. Words that end the matter do so before
anything is looked at. -/
def respond (site : Invocation → Site) (words : List String) : Outcome :=
  match Invocation.ofArguments words with
  | .error halt => .ofHalt halt
  | .ok i => i.run (site i)

end TunnelHost.CommandLine
