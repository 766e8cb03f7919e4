/-!
# Arguments

What the program is asked to do, by the words behind its name. Words are read from the left; a later
word wins over an earlier one that settles the same thing, except that some words end the matter at
once.

- `Command`: the commands.
- `Invocation`: what the program is asked to do.
- `Halt`: why the words are not read to their end.
- `Invocation.ofArguments`: the reader.
-/

namespace TunnelHost.CommandLine

/-- What can be asked for by name. -/
inductive Command where
  /-- A new private key. -/
  | generateKey
  /-- The public key of the private key on standard input. -/
  | publicKey
  /-- Whether a text is a key text. -/
  | checkKey (text : String)
  /-- An exchange between two sessions. -/
  | selfTest
  deriving DecidableEq, Repr

/-- What the program is asked to do. -/
structure Invocation where
  /-- Where the configuration stands. -/
  path : String := "/etc/wg-bridge/config.json"
  /-- Whether only a default configuration is to be written. -/
  generate : Bool := false
  /-- Whether only the configuration is to be checked. -/
  check : Bool := false
  command : Option Command := none
  deriving DecidableEq, Repr

/-- Why words are not read to their end. -/
inductive Halt where
  /-- The manual is asked for. -/
  | help
  /-- The version is asked for. -/
  | version
  /-- A key is to be checked, and there is none. -/
  | missingKey
  /-- A word that means nothing. -/
  | unknown (word : String)
  deriving DecidableEq, Repr

namespace Invocation

/-- Reads further words. An option for a path that is the last word changes nothing. -/
def read (i : Invocation) : List String → Except Halt Invocation
  | [] => .ok i
  | word :: rest =>
    match word, rest with
    | "-c", path :: rest => read { i with path } rest
    | "--config", path :: rest => read { i with path } rest
    | "-c", [] => .ok i
    | "--config", [] => .ok i
    | "check-key", text :: rest => read { i with command := some (.checkKey text) } rest
    | "check-key", [] => .error .missingKey
    | "-g", rest => read { i with generate := true } rest
    | "--generate-config", rest => read { i with generate := true } rest
    | "--check", rest => read { i with check := true } rest
    | "-h", _ => .error .help
    | "--help", _ => .error .help
    | "-v", _ => .error .version
    | "--version", _ => .error .version
    | "genkey", rest => read { i with command := some .generateKey } rest
    | "pubkey", rest => read { i with command := some .publicKey } rest
    | "selftest", rest => read { i with command := some .selfTest } rest
    | word, _ => .error (.unknown word)

/-- What the words behind the program's name ask for. -/
def ofArguments (words : List String) : Except Halt Invocation := read {} words

end Invocation

end TunnelHost.CommandLine
