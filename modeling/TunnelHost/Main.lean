import Std.Time.DateTime.Timestamp
import TunnelHost.CommandLine.Run
import TunnelHost.Text.Time

/-!
# The program

Reads what an invocation needs from the system, and prints what comes of it. Everything that is
decided on the way is decided in `TunnelHost.CommandLine`.

- `Invocation.lookAround`, `survey`: what an invocation finds.
- `conclude`: printing an outcome.
- `program`, `main`: the program.
-/

namespace TunnelHost.CommandLine

/-- The fault of a refusal by the system. -/
def faultOf : IO.Error → FileFault
  | .noFileOrDirectory _ code message => .ofSystem message code.toNat
  | .permissionDenied _ code message => .ofSystem message code.toNat
  | .inappropriateType _ code message => .ofSystem message code.toNat
  | .resourceExhausted _ code message => .ofSystem message code.toNat
  | .invalidArgument _ code message => .ofSystem message code.toNat
  | .alreadyExists _ code message => .ofSystem message code.toNat
  | .otherError code message => .ofSystem message code.toNat
  | .hardwareFault code message => .ofSystem message code.toNat
  | .unsupportedOperation code message => .ofSystem message code.toNat
  | .resourceBusy code message => .ofSystem message code.toNat
  | e => .system (toString e) 0

/-- Codes from here on stand for negative ones, which come from looking for a path at all. -/
def leastLookupCode : Nat := Nat.pow 2 31

/-- What stands at a path. What cannot be reached counts as nothing. -/
def entryAt (path : String) : IO FileEntry := do
  try
    return .file (← IO.FS.readBinFile path).toList
  catch e =>
    match faultOf e with
    | .system message code =>
      return if leastLookupCode ≤ code then .absent else .unreadable (.system message code)
    | fault => return .unreadable fault

/-- Writes a text to a path; tells why it cannot. -/
def writeAt (path text : String) : IO (Option FileFault) := do
  try
    IO.FS.writeFile path text
    return none
  catch e => return some (faultOf e)

/-- A new private key. -/
def newKey : IO Key := do
  let bytes ← IO.getRandomBytes 32
  return (Key.ofBytes? bytes.toList).getD .zero

/-- Everything on standard input. -/
def readInput : IO (List UInt8) := do
  return (← (← IO.getStdin).readBinToEnd).toList

/-- The variables that matter, with their texts. -/
def readSurroundings : IO Surroundings := do
  let names := filterVariable :: Override.all.map Override.name
  let found ← names.filterMapM fun name => do
    return (← IO.getEnv name).map fun text => (name, text)
  return Surroundings.ofList found

/-- What an invocation finds, with what it writes before and what it takes from standard input. -/
def Invocation.lookAround (i : Invocation) (write : IO (Option FileFault))
    (input : IO (List UInt8)) : IO Site := do
  let entry ← entryAt i.path
  let writeFault ← write
  let input ← input
  let first ← newKey
  let second ← newKey
  let surroundings ← readSurroundings
  return {
    entry
    writeFault
    surroundings
    input
    secrets := fun n => if n = 0 then first else second }

/-- What an invocation finds. A default configuration is written here, if it is asked for. -/
def survey (i : Invocation) : IO Site :=
  i.lookAround (if i.generate then writeAt i.path Config.defaultText else pure none)
    (if i.command = some .publicKey ∧ !i.generate ∧ !i.check then readInput else pure [])

/-- An event as it is written at a moment. -/
def eventText (log : LogSection) (moment : String) (e : Event) : String :=
  if log.format = "json" then
    match e.toJson log.target with
    | .object members => (Json.Value.object (("timestamp", .string moment) :: members)).compact
    | other => other.compact
  else
    let line := e.line log.target
    moment ++ " " ++ (if e.level.label.length < 5 then " " else "") ++ line

/-- Prints an outcome; gives its exit code. -/
def conclude (o : Outcome) (elapsed : Nat) : IO UInt32 := do
  let out ← IO.getStdout
  let err ← IO.getStderr
  for complaint in o.complaints do
    err.putStrLn complaint
  for e in o.events do
    let now ← Std.Time.Timestamp.now
    let moment := Text.momentText now.toNanosecondsSinceUnixEpoch.val.toNat
    err.putStrLn (eventText o.log moment e)
  match o.output with
  | none => pure ()
  | some (.text s) => out.putStr s
  | some (.secretKey k) => out.putStrLn k.toText
  | some .passed => out.putStrLn ("selftest passed in " ++ Text.spanText elapsed)
  match o.failure with
  | none => pure ()
  | some s => err.putStrLn s
  return UInt32.ofNat o.code

/-- The program, given the words behind its name. -/
def program (words : List String) : IO UInt32 := do
  match Invocation.ofArguments words with
  | .error halt => conclude (.ofHalt halt) 0
  | .ok i =>
    let site ← survey i
    let start ← IO.monoNanosNow
    let o ← IO.lazyPure fun _ => i.run site
    let stop ← IO.monoNanosNow
    conclude o (stop - start)

end TunnelHost.CommandLine

/-- The program. -/
def main (words : List String) : IO UInt32 := TunnelHost.CommandLine.program words
