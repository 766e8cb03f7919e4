import TunnelHost.Config.Override
import TunnelHost.Config.Reader
import TunnelHost.Config.Writer

/-!
# Configuration files

A configuration may stand in a file, and a file with the default configuration can be asked for.
What the system says of the file is given; nothing is read or written here.

- `FileFault`: why a file cannot be read as a text, or be written.
- `FileEntry`: what stands at a path.
- `Config.ofFile`, `Config.ofFileWith`: the configuration of a file, without and with overrides.
- `Config.toFile`: the text that a new file gets.
-/

namespace TunnelHost

/-- Why a file cannot be read as a text, or be written. -/
inductive FileFault where
  /-- The system refused, with a message and a number for it. -/
  | system (message : String) (code : Nat)
  /-- The bytes are no UTF-8 text. -/
  | notText
  deriving DecidableEq, Repr

namespace FileFault

/-- There is nothing at the path, or no directory to put it in. -/
def missing : FileFault := .system "No such file or directory" 2

/-- A part of the path that should be a directory is none. -/
def notDirectory : FileFault := .system "Not a directory" 20

/-- The path, or a part of it, has more bytes than the system allows. -/
def nameTooLong : FileFault := .system "File name too long" 36

/-- There is a directory at the path. -/
def directory : FileFault := .system "Is a directory" 21

/-- The faults that a path alone brings about. -/
def ofPath : List FileFault := [missing, notDirectory, nameTooLong, directory]

/-- The number that the system has for the fault. -/
def code? : FileFault → Option Nat
  | system _ code => some code
  | notText => none

/-- The fault of a refusal by the system. What is wrong with a path is told in the same words,
whatever was asked of the system. -/
def ofSystem (message : String) (code : Nat) : FileFault :=
  (ofPath.find? fun fault => fault.code? == some code).getD (.system message code)

/-- The fault in words. -/
def message : FileFault → String
  | system message code => message ++ " (os error " ++ Numeral.decimal code ++ ")"
  | notText => "stream did not contain valid UTF-8"

/-- The error of a configuration whose file has the fault. -/
def toError (f : FileFault) : ConfigError := .system f.message

end FileFault

/-- The text of some bytes. -/
def textOfBytes? (bytes : List UInt8) : Option String := String.fromUTF8? ⟨bytes.toArray⟩

/-- What stands at a path. -/
inductive FileEntry where
  /-- Nothing, as far as can be seen. -/
  | absent
  /-- Something that cannot be read. -/
  | unreadable (fault : FileFault)
  | file (bytes : List UInt8)

namespace FileEntry

/-- Whether anything can be seen at the path. -/
def isPresent : FileEntry → Bool
  | absent => false
  | unreadable _ => true
  | file _ => true

/-- The text of what stands at a path. -/
def text (path : String) : FileEntry → Except ConfigError String
  | absent => .error (.fileNotFound path)
  | unreadable fault => .error fault.toError
  | file bytes =>
    match textOfBytes? bytes with
    | some s => .ok s
    | none => .error FileFault.notText.toError

end FileEntry

namespace Config

/-- The configuration of a file's text, checked. A text that is no configuration is reported with
the path. -/
def ofFileText (path s : String) : Except ConfigError Config := do
  let c ← (ofJsonUnchecked s).mapError fun fault =>
    .unreadable ("Failed to parse JSON: " ++ fault.describe s ++ " at " ++ Text.quoted path)
  c.validate
  return c

/-- The configuration of a file, checked. -/
def ofFile (path : String) (entry : FileEntry) : Except ConfigError Config := do
  ofFileText path (← entry.text path)

/-- The configuration with its overrides applied, checked. -/
def withOverrides (texts : Surroundings) (c : Config) : Except ConfigError Config :=
  let (c, result) := c.override texts
  result.map fun _ => c

/-- The configuration of a file with overrides applied, checked before and after. -/
def ofFileWith (path : String) (entry : FileEntry) (texts : Surroundings) :
    Except ConfigError Config := do
  (← ofFile path entry).withOverrides texts

/-- What a new file gets, unless it cannot be written: the default configuration. -/
def toFile (fault : Option FileFault) : Except ConfigError String :=
  match fault with
  | some fault => .error fault.toError
  | none => .ok defaultText

end Config

end TunnelHost
