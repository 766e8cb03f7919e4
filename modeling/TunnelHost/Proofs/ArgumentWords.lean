import Mathlib.Data.List.Induction
import TunnelHost.CommandLine.Arguments

/-!
# Words and settings

The words behind the program's name fall into pieces, each of which settles something. A piece is
one word, or two where the first asks for a value: then the second is that value, whatever it looks
like. Behind the last setting there may be a word that ends the matter, with anything after it.
Every list of words falls into pieces in exactly one way, and what is read from it is what the
pieces settle.

- `Role`, `roles`: what the single words are for.
- `Setting`: what a piece settles.
- `Divides`: the pieces of a list of words.
- `Divides.unique`, `exists_divides`: there is one way to find them.
- `read_of_divides`: the reader finds it.
- `foldl_apply`: the last path and the last command count, and options count wherever they stand.
-/

namespace TunnelHost.CommandLine

/-! ## Pieces -/

/-- What a word is for, unless it is the value that the word before it asks for. -/
inductive Role where
  /-- The next word is a path. -/
  | path
  | generate
  | check
  /-- A command without a value. -/
  | command (c : Command)
  /-- The next word is a key to be checked. -/
  | key
  | help
  | version
  /-- The word means nothing. -/
  | unknown
  deriving DecidableEq, Repr

/-- The words that mean something. -/
def roles : List (String × Role) :=
  [("-c", .path), ("--config", .path), ("-g", .generate), ("--generate-config", .generate),
    ("--check", .check), ("-h", .help), ("--help", .help), ("-v", .version),
    ("--version", .version), ("genkey", .command .generateKey), ("pubkey", .command .publicKey),
    ("selftest", .command .selfTest), ("check-key", .key)]

/-- The role of a word. -/
def roleOf (word : String) : Role := (roles.lookup word).getD .unknown

/-- What a piece settles. -/
inductive Setting where
  | path (path : String)
  | generate
  | check
  | command (c : Command)
  deriving DecidableEq, Repr

/-- The settings that words make, from left to right, and why they are not read to their end if they
are not. An option for a path that has none makes no setting. -/
inductive Divides : List Setting → Option Halt → List String → Prop where
  | nothing : Divides [] none []
  | pathless {word : String} : roleOf word = .path → Divides [] none [word]
  | path {word path : String} {settings : List Setting} {halt : Option Halt} {rest : List String} :
      roleOf word = .path → Divides settings halt rest →
      Divides (.path path :: settings) halt (word :: path :: rest)
  | generate {word : String} {settings : List Setting} {halt : Option Halt} {rest : List String} :
      roleOf word = .generate → Divides settings halt rest →
      Divides (.generate :: settings) halt (word :: rest)
  | check {word : String} {settings : List Setting} {halt : Option Halt} {rest : List String} :
      roleOf word = .check → Divides settings halt rest →
      Divides (.check :: settings) halt (word :: rest)
  | command {word : String} {c : Command} {settings : List Setting} {halt : Option Halt}
      {rest : List String} :
      roleOf word = .command c → Divides settings halt rest →
      Divides (.command c :: settings) halt (word :: rest)
  | checkKey {word text : String} {settings : List Setting} {halt : Option Halt}
      {rest : List String} :
      roleOf word = .key → Divides settings halt rest →
      Divides (.command (.checkKey text) :: settings) halt (word :: text :: rest)
  | keyless {word : String} : roleOf word = .key → Divides [] (some .missingKey) [word]
  | help {word : String} {rest : List String} :
      roleOf word = .help → Divides [] (some .help) (word :: rest)
  | version {word : String} {rest : List String} :
      roleOf word = .version → Divides [] (some .version) (word :: rest)
  | unknown {word : String} {rest : List String} :
      roleOf word = .unknown → Divides [] (some (.unknown word)) (word :: rest)

/-! ## One way -/

/-- What may come of words that begin with a word of some role. -/
def RoleSpec (word : String) (rest : List String) (settings : List Setting) (halt : Option Halt) :
    Role → Prop
  | .path => (rest = [] ∧ settings = [] ∧ halt = none)
      ∨ ∃ path rest' settings', rest = path :: rest' ∧ settings = .path path :: settings'
          ∧ Divides settings' halt rest'
  | .generate => ∃ settings', settings = .generate :: settings' ∧ Divides settings' halt rest
  | .check => ∃ settings', settings = .check :: settings' ∧ Divides settings' halt rest
  | .command c => ∃ settings', settings = .command c :: settings' ∧ Divides settings' halt rest
  | .key => (rest = [] ∧ settings = [] ∧ halt = some .missingKey)
      ∨ ∃ text rest' settings', rest = text :: rest'
          ∧ settings = .command (.checkKey text) :: settings' ∧ Divides settings' halt rest'
  | .help => settings = [] ∧ halt = some .help
  | .version => settings = [] ∧ halt = some .version
  | .unknown => settings = [] ∧ halt = some (.unknown word)

/-- The role of the first word tells how a division of the words begins. -/
theorem Divides.role_spec {word : String} {rest : List String} {settings : List Setting}
    {halt : Option Halt} {role : Role} (h : Divides settings halt (word :: rest))
    (hrole : roleOf word = role) : RoleSpec word rest settings halt role := by
  subst hrole
  cases h with
  | pathless hrole => rw [hrole]; exact .inl ⟨rfl, rfl, rfl⟩
  | path hrole h => rw [hrole]; exact .inr ⟨_, _, _, rfl, rfl, h⟩
  | generate hrole h => rw [hrole]; exact ⟨_, rfl, h⟩
  | check hrole h => rw [hrole]; exact ⟨_, rfl, h⟩
  | command hrole h => rw [hrole]; exact ⟨_, rfl, h⟩
  | checkKey hrole h => rw [hrole]; exact .inr ⟨_, _, _, rfl, rfl, h⟩
  | keyless hrole => rw [hrole]; exact .inl ⟨rfl, rfl, rfl⟩
  | help hrole => rw [hrole]; exact ⟨rfl, rfl⟩
  | version hrole => rw [hrole]; exact ⟨rfl, rfl⟩
  | unknown hrole => rw [hrole]; exact ⟨rfl, rfl⟩

/-- There is at most one way: the role of the first word leaves one for the first piece. -/
theorem Divides.unique {settings settings' : List Setting} {halt halt' : Option Halt}
    {words : List String} (h : Divides settings halt words) (h' : Divides settings' halt' words) :
    settings = settings' ∧ halt = halt' := by
  -- the role of the first word decides which rule either division begins with
  induction h generalizing settings' with
  | nothing =>
    cases h' with
    | nothing => exact ⟨rfl, rfl⟩
  | pathless hrole =>
    rcases h'.role_spec hrole with ⟨-, rfl, rfl⟩ | ⟨_, _, _, hrest, -⟩
    · exact ⟨rfl, rfl⟩
    · cases hrest
  | path hrole _ ih =>
    rcases h'.role_spec hrole with ⟨hrest, -⟩ | ⟨_, _, _, hrest, rfl, hafter⟩
    · cases hrest
    · cases hrest
      obtain ⟨rfl, rfl⟩ := ih hafter
      exact ⟨rfl, rfl⟩
  | generate hrole _ ih =>
    obtain ⟨_, rfl, hafter⟩ := h'.role_spec hrole
    obtain ⟨rfl, rfl⟩ := ih hafter
    exact ⟨rfl, rfl⟩
  | check hrole _ ih =>
    obtain ⟨_, rfl, hafter⟩ := h'.role_spec hrole
    obtain ⟨rfl, rfl⟩ := ih hafter
    exact ⟨rfl, rfl⟩
  | command hrole _ ih =>
    obtain ⟨_, rfl, hafter⟩ := h'.role_spec hrole
    obtain ⟨rfl, rfl⟩ := ih hafter
    exact ⟨rfl, rfl⟩
  | checkKey hrole _ ih =>
    rcases h'.role_spec hrole with ⟨hrest, -⟩ | ⟨_, _, _, hrest, rfl, hafter⟩
    · cases hrest
    · cases hrest
      obtain ⟨rfl, rfl⟩ := ih hafter
      exact ⟨rfl, rfl⟩
  | keyless hrole =>
    rcases h'.role_spec hrole with ⟨-, rfl, rfl⟩ | ⟨_, _, _, hrest, -⟩
    · exact ⟨rfl, rfl⟩
    · cases hrest
  | help hrole =>
    obtain ⟨rfl, rfl⟩ := h'.role_spec hrole
    exact ⟨rfl, rfl⟩
  | version hrole =>
    obtain ⟨rfl, rfl⟩ := h'.role_spec hrole
    exact ⟨rfl, rfl⟩
  | unknown hrole =>
    obtain ⟨rfl, rfl⟩ := h'.role_spec hrole
    exact ⟨rfl, rfl⟩

/-- There is a way for all words: by recursion on what is left behind the first piece. -/
theorem exists_divides (words : List String) : ∃ settings halt, Divides settings halt words := by
  match words with
  | [] => exact ⟨[], none, .nothing⟩
  | word :: rest =>
    -- each role has its rule; those of paths and keys look at the next word as well
    cases hrole : roleOf word with
    | path =>
      match rest with
      | [] => exact ⟨_, _, .pathless hrole⟩
      | _ :: rest =>
        obtain ⟨_, _, h⟩ := exists_divides rest
        exact ⟨_, _, .path hrole h⟩
    | generate =>
      obtain ⟨_, _, h⟩ := exists_divides rest
      exact ⟨_, _, .generate hrole h⟩
    | check =>
      obtain ⟨_, _, h⟩ := exists_divides rest
      exact ⟨_, _, .check hrole h⟩
    | command c =>
      obtain ⟨_, _, h⟩ := exists_divides rest
      exact ⟨_, _, .command hrole h⟩
    | key =>
      match rest with
      | [] => exact ⟨_, _, .keyless hrole⟩
      | _ :: rest =>
        obtain ⟨_, _, h⟩ := exists_divides rest
        exact ⟨_, _, .checkKey hrole h⟩
    | help => exact ⟨_, _, .help hrole⟩
    | version => exact ⟨_, _, .version hrole⟩
    | unknown => exact ⟨_, _, .unknown hrole⟩
termination_by words.length

/-! ## The reader -/

/-- A word with a role is in the table. -/
theorem mem_roles {word : String} {role : Role} (h : roleOf word = role) (hrole : role ≠ .unknown) :
    (word, role) ∈ roles := by
  rw [roleOf] at h
  cases hlookup : roles.lookup word with
  | none =>
    rw [hlookup] at h
    exact absurd h.symm hrole
  | some found =>
    rw [hlookup, Option.getD_some] at h
    obtain ⟨before, after, hsplit, -⟩ := List.lookup_eq_some_iff.mp hlookup
    rw [hsplit, ← h]
    simp

namespace Invocation

/-- An invocation with one more thing settled. -/
def apply (i : Invocation) : Setting → Invocation
  | .path path => { i with path }
  | .generate => { i with generate := true }
  | .check => { i with check := true }
  | .command c => { i with command := some c }

section Read

variable (i : Invocation) {word : String} (rest : List String)

theorem read_path (h : roleOf word = .path) (path : String) :
    i.read (word :: path :: rest) = (i.apply (.path path)).read rest := by
  obtain rfl | rfl : word = "-c" ∨ word = "--config" := by
    simpa [roles] using mem_roles h (by decide)
  · rfl
  · rfl

theorem read_pathless (h : roleOf word = .path) : i.read [word] = .ok i := by
  obtain rfl | rfl : word = "-c" ∨ word = "--config" := by
    simpa [roles] using mem_roles h (by decide)
  · rfl
  · rfl

theorem read_generate (h : roleOf word = .generate) :
    i.read (word :: rest) = (i.apply .generate).read rest := by
  obtain rfl | rfl : word = "-g" ∨ word = "--generate-config" := by
    simpa [roles] using mem_roles h (by decide)
  · simp [read, apply]
  · simp [read, apply]

theorem read_check (h : roleOf word = .check) :
    i.read (word :: rest) = (i.apply .check).read rest := by
  obtain rfl : word = "--check" := by
    simpa [roles] using mem_roles h (by decide)
  simp [read, apply]

theorem read_command {c : Command} (h : roleOf word = .command c) :
    i.read (word :: rest) = (i.apply (.command c)).read rest := by
  obtain ⟨rfl, rfl⟩ | ⟨rfl, rfl⟩ | ⟨rfl, rfl⟩ : word = "genkey" ∧ c = .generateKey
      ∨ word = "pubkey" ∧ c = .publicKey ∨ word = "selftest" ∧ c = .selfTest := by
    simpa [roles] using mem_roles h (by simp)
  · simp [read, apply]
  · simp [read, apply]
  · simp [read, apply]

theorem read_key (h : roleOf word = .key) (text : String) :
    i.read (word :: text :: rest) = (i.apply (.command (.checkKey text))).read rest := by
  obtain rfl : word = "check-key" := by
    simpa [roles] using mem_roles h (by decide)
  rfl

theorem read_keyless (h : roleOf word = .key) : i.read [word] = .error .missingKey := by
  obtain rfl : word = "check-key" := by
    simpa [roles] using mem_roles h (by decide)
  rfl

theorem read_help (h : roleOf word = .help) : i.read (word :: rest) = .error .help := by
  obtain rfl | rfl : word = "-h" ∨ word = "--help" := by
    simpa [roles] using mem_roles h (by decide)
  · simp [read]
  · simp [read]

theorem read_version (h : roleOf word = .version) :
    i.read (word :: rest) = .error .version := by
  obtain rfl | rfl : word = "-v" ∨ word = "--version" := by
    simpa [roles] using mem_roles h (by decide)
  · simp [read]
  · simp [read]

/-- A word without a role ends the matter: it is none of the words in the table. -/
theorem read_unknown (h : roleOf word = .unknown) :
    i.read (word :: rest) = .error (.unknown word) := by
  -- every word that the reader looks for has an entry, and every entry a role
  have hknown : ∀ entry ∈ roles, roleOf entry.1 ≠ .unknown := by decide
  have hne : ∀ entry ∈ roles, ¬ word = entry.1 := by
    rintro entry hmem rfl
    exact hknown entry hmem h
  simp only [roles, List.forall_mem_cons] at hne
  simp [read, hne]

end Read

/-- What is read is what the pieces settle, one after the other, unless they end early. -/
theorem read_of_divides {settings : List Setting} {halt : Option Halt} {words : List String}
    (h : Divides settings halt words) (i : Invocation) :
    i.read words = halt.elim (.ok (settings.foldl apply i)) .error := by
  induction h generalizing i with
  | nothing => rfl
  | pathless hrole => exact i.read_pathless hrole
  | path hrole _ ih => rw [i.read_path _ hrole, ih, List.foldl_cons]
  | generate hrole _ ih => rw [i.read_generate _ hrole, ih, List.foldl_cons]
  | check hrole _ ih => rw [i.read_check _ hrole, ih, List.foldl_cons]
  | command hrole _ ih => rw [i.read_command _ hrole, ih, List.foldl_cons]
  | checkKey hrole _ ih => rw [i.read_key _ hrole, ih, List.foldl_cons]
  | keyless hrole => exact i.read_keyless hrole
  | help hrole => exact i.read_help _ hrole
  | version hrole => exact i.read_version _ hrole
  | unknown hrole => exact i.read_unknown _ hrole

end Invocation

/-! ## What counts -/

namespace Setting

/-- The path, if this is one. -/
def path? : Setting → Option String
  | .path found => some found
  | _ => none

/-- The command, if this is one. -/
def command? : Setting → Option Command
  | .command c => some c
  | _ => none

end Setting

/-- What settings come to, in whatever order they stand: the last path, the last command, and every
option that is there at all. -/
def settled (settings : List Setting) : Invocation where
  path := (settings.filterMap Setting.path?).getLast?.getD "/etc/wg-bridge/config.json"
  generate := decide (Setting.generate ∈ settings)
  check := decide (Setting.check ∈ settings)
  command := (settings.filterMap Setting.command?).getLast?

/-- One more setting behind others. -/
theorem settled_append (settings : List Setting) (setting : Setting) :
    settled (settings ++ [setting]) = (settled settings).apply setting := by
  cases setting with
  | path path => simp [settled, Invocation.apply, Setting.path?, Setting.command?]
  | generate => simp [settled, Invocation.apply, Setting.path?, Setting.command?]
  | check => simp [settled, Invocation.apply, Setting.path?, Setting.command?]
  | command c => simp [settled, Invocation.apply, Setting.path?, Setting.command?]

/-- By induction from the right: the setting that was applied last is the last one. -/
theorem foldl_apply (settings : List Setting) :
    settings.foldl Invocation.apply {} = settled settings := by
  induction settings using List.reverseRecOn with
  | nil => rfl
  | append_singleton settings setting ih =>
    rw [List.foldl_append, ih, settled_append]
    rfl

end TunnelHost.CommandLine
