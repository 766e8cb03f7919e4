import TunnelHost.Config.File
import TunnelHost.CommandLine.Arguments
import TunnelHost.CommandLine.Manual
import TunnelHost.Error

/-!
# Outcomes of a run

What a run of the program leaves behind.

- `Failure`: an error with its causes, and `Failure.text`, the form in which it is reported.
- `Output`: what is printed.
- `Outcome`: everything together.
- `Outcome.ofHalt`: the outcome when the arguments end the matter.
-/

namespace TunnelHost.CommandLine

/-! ## Failures -/

/-- An error in words, with the errors that caused it, each by the next. -/
structure Failure where
  top : String
  causes : List String := []
  deriving DecidableEq, Repr

namespace Failure

/-- A cause in its place: lines after the first are set in as far as the first is. -/
def indent (start further : String) (cause : String) : String :=
  start ++ further.intercalate (cause.splitOn "\n")

/-- The causes of a failure. Several are numbered from zero. -/
def causeLines (causes : List String) : List String :=
  match causes with
  | [cause] => [indent "    " "\n    " cause]
  | _ =>
    causes.zipIdx.map fun (cause, n) =>
      let number := Numeral.decimal n
      let blanks := String.ofList (List.replicate (5 - number.length) ' ')
      indent (blanks ++ number ++ ": ") "\n       " cause

/-- The failure as it is reported. -/
def text (f : Failure) : String :=
  let causes := if f.causes.isEmpty then "" else
    "\n\nCaused by:\n" ++ "\n".intercalate (causeLines f.causes)
  "Error: " ++ f.top ++ causes

/-- A failure under which another one is the cause. -/
def under (top : String) (f : Failure) : Failure := ⟨top, f.top :: f.causes⟩

/-- A configuration error with its causes: what the system said is one of its own. -/
def ofConfig (e : ConfigError) : Failure :=
  match e with
  | .system reason => ⟨e.message, [reason]⟩
  | _ => ⟨e.message, []⟩

/-- An error of any part, of which the part's own error is the cause. -/
def ofHost (e : HostError) : Failure :=
  match e with
  | .session inner => ⟨e.message, [inner.message]⟩
  | .engine inner => ⟨e.message, [inner.message]⟩
  | .registry inner => ⟨e.message, [inner.message]⟩
  | .key inner => ⟨e.message, [inner.message]⟩
  | .config inner => under e.message (ofConfig inner)

end Failure

/-! ## Outcomes -/

/-- What is printed on standard output. -/
inductive Output where
  | text (s : String)
  /-- A new private key, on a line of its own. -/
  | secretKey (k : Key)
  /-- The self-test passed; how long it took is filled in when it is printed. -/
  | passed
  deriving DecidableEq

/-- What a run leaves behind. -/
structure Outcome where
  /-- The exit code. -/
  code : Nat := 0
  output : Option Output := none
  /-- Complaints about the log filter, before any event. -/
  complaints : List String := []
  /-- The events that are told. -/
  events : List Event := []
  /-- How events are told. -/
  log : LogSection := {}
  /-- What is told on standard error at the end. -/
  failure : Option String := none
  /-- What the configuration file is given. -/
  written : Option String := none

namespace Outcome

/-- The outcome of a failure. -/
def ofFailure (f : Failure) : Outcome := { code := 1, failure := some f.text }

/-- A line on standard output, and nothing else. -/
def say (line : String) : Outcome := { output := some (.text (line ++ "\n")) }

/-- The outcome when the arguments end the matter. -/
def ofHalt : Halt → Outcome
  | .help => { output := some (.text manual) }
  | .version => say versionLine
  | .missingKey => { code := 1, failure := some "check-key requires a key argument" }
  | .unknown word =>
    { code := 1, output := some (.text manual), failure := some ("Unknown argument: " ++ word) }

end Outcome

end TunnelHost.CommandLine
