import TunnelHost.Text.Alphanumeric
import TunnelHost.Text.Blank
import TunnelHost.Text.Numeral

/-!
# Patterns

A rule of a filter may ask for a field whose value fits a pattern, which is a regular expression. No
value is ever compared with one, so that only their form is of interest: which texts are patterns.

The text of a field ends at its first closing brace. Forms that need one (counted repetitions, code
points in braces) are therefore no patterns, and neither is what asks for properties of characters
that need a table: classes such as digits, and letters of either case, unless the pattern is about
bytes.

- `Pattern.Mode`: how a part of a pattern is read.
- `Pattern.Parts`: how deep the parts of a whole are nested, for which there is a limit.
- `Pattern.readEscape`, `Pattern.skipClass`, `Pattern.openGroup`: the parts.
- `Pattern.step`, `Pattern.run`: one part, and all of them.
- `Pattern.check`: whether a text is a pattern.
-/

namespace TunnelHost.Pattern

/-- How a part of a pattern is read. -/
structure Mode where
  /-- A letter stands for both of its cases. -/
  caseless : Bool := false
  /-- Blanks and comments mean nothing. -/
  spaced : Bool := false
  /-- The pattern is about characters; about bytes otherwise. -/
  wide : Bool := true
  deriving DecidableEq, Repr

/-- Why a text is no pattern. -/
inductive Fault where
  | malformed
  /-- A pattern, but one that asks for the edge of a word of any script. -/
  | wordEdge
  deriving DecidableEq, Repr

/-- The fault in words. -/
def Fault.message : Fault → String
  | .malformed => "error building NFA"
  | .wordEdge =>
    "unsupported regex feature for DFAs: cannot build DFAs for regexes with Unicode word "
      ++ "boundaries; switch to ASCII word boundaries, or heuristically enable Unicode word "
      ++ "boundaries or use a different regex engine"

/-- Drops blanks and comments. A comment goes on to the end of its line. -/
def dropNotes (comment : Bool) : List Char → List Char
  | [] => []
  | c :: cs =>
    if comment then dropNotes (c != '\n') cs
    else if Text.isBlank c then dropNotes false cs
    else if c = '#' then dropNotes true cs
    else c :: cs

/-- What is left when all that means nothing is dropped. -/
def Mode.next (m : Mode) (cs : List Char) : List Char :=
  if m.spaced then dropNotes false cs else cs

/-- The character that is seen behind the present one. Seeing passes over blanks and one number
sign, and so stops inside of a comment that is not empty. -/
def Mode.peek? (m : Mode) (cs : List Char) : Option Char :=
  if m.spaced then
    match cs.dropWhile Text.isBlank with
    | '#' :: rest =>
      match rest.dropWhile Text.isBlank with
      | c :: _ => some c
      | [] => cs.head?
    | c :: _ => some c
    | [] => cs.head?
  else cs.head?

/-! ## Depth -/

/-- The parts of a whole that have been read. A part without parts of its own has depth zero. -/
structure Parts where
  count : Nat := 0
  /-- The depth of the deepest part. -/
  deepest : Nat := 0
  deriving DecidableEq, Repr

/-- Adds a part of the given depth. -/
def Parts.add (p : Parts) (depth : Nat) : Parts := ⟨p.count + 1, max p.deepest depth⟩

/-- The depth of the whole, which adds to that of its parts only if there are several. -/
def Parts.depth (p : Parts) : Nat := if p.count ≤ 1 then p.deepest else p.deepest + 1

/-- The depth of two wholes that are joined, if there is a first one. -/
def joinDepth (first : Option Nat) (second : Nat) : Nat :=
  match first with
  | some first => max first second + 1
  | none => second

/-- The greatest depth that a pattern may have. -/
def maxDepth : Nat := 250

/-! ## Characters and escapes -/

/-- What a single part of a pattern stands for. -/
inductive Atom where
  /-- A character by its code point, or a byte by its two digits. -/
  | code (value : Nat) (asByte : Bool)
  /-- A class of bytes. -/
  | kind
  /-- A place in the text, such as its start. -/
  | position
  /-- The edge of a word. -/
  | wordEdge
  deriving DecidableEq, Repr

/-- Reads hexadecimal digits, as many as are wanted. -/
def readHex (m : Mode) : (wanted value : Nat) → List Char → Option (Nat × List Char)
  | 0, value, cs => some (value, cs)
  | wanted + 1, value, cs =>
    match m.next cs with
    | [] => none
    | c :: rest =>
      (Numeral.digitValue? 16 c).bind fun d => readHex m wanted (value * 16 + d) rest

/-- Reads a code point of so many digits. -/
def readCode (m : Mode) (digits : Nat) (cs : List Char) : Option (Atom × List Char) :=
  match readHex m digits 0 cs with
  | some (value, rest) =>
    if Nat.isValidChar value then some (.code value (digits == 2), rest) else none
  | none => none

/-- The letters that stand for control characters. -/
def controls : List (Char × Nat) :=
  [('a', 7), ('t', 9), ('n', 10), ('v', 11), ('f', 12), ('r', 13)]

/-- Reads an escape after its backslash. -/
def readEscape (m : Mode) : List Char → Option (Atom × List Char)
  | [] => none
  | 'x' :: rest => readCode m 2 rest
  | 'u' :: rest => readCode m 4 rest
  | 'U' :: rest => readCode m 8 rest
  | 'A' :: rest => some (.position, rest)
  | 'z' :: rest => some (.position, rest)
  | 'b' :: '\x7b' :: _ => none
  | c :: rest =>
    if ['d', 's', 'w'].contains c then if m.wide then none else some (.kind, rest)
    else if ['b', 'B', '<', '>'].contains c then some (.wordEdge, rest)
    else
      match controls.lookup c with
      | some value => some (.code value false, rest)
      | none =>
        if c.toNat < 0x80 && !c.isAlphanum then some (.code c.toNat false, rest) else none

/-! ## Classes -/

/-- Whether a class may hold a code. -/
def Mode.holds (m : Mode) (code : Nat) : Bool := if m.wide then !m.caseless else code < 0x80

/-- Reads a character or an escape of a class. -/
def readMember (m : Mode) : List Char → Option (Atom × List Char)
  | [] => none
  | '\\' :: rest =>
    match readEscape m rest with
    | some (.code value asByte, rest) =>
      if m.holds value then some (.code value asByte, rest) else none
    | some (.kind, rest) => some (.kind, rest)
    | _ => none
  | c :: rest => if m.holds c.toNat then some (.code c.toNat false, rest) else none

/-- Reads the upper end of a range and passes over it. -/
def skipRange (m : Mode) (low : Atom) (cs : List Char) : Option (List Char) :=
  match low, readMember m cs with
  | .code low _, some (.code high _, rest) => if low ≤ high then some rest else none
  | _, _ => none

/-- Passes over a member of a class, or a range of them. A hyphen before what is seen as a bracket
or a second hyphen makes no range. -/
def skipMember (m : Mode) (cs : List Char) : Option (List Char) :=
  match readMember m cs with
  | none => none
  | some (low, rest) =>
    match m.next rest with
    | [] => none
    | '-' :: rest =>
      if m.peek? rest = some ']' || m.peek? rest = some '-' then some ('-' :: rest)
      else skipRange m low (m.next rest)
    | rest => some rest

/-- The classes that have names. -/
def classNames : List String :=
  ["alnum", "alpha", "ascii", "blank", "cntrl", "digit", "graph", "lower", "print", "punct",
    "space", "upper", "word", "xdigit"]

/-- Passes over a named class after its bracket. The flag tells whether it stands for all others. -/
def skipNamed : List Char → Option (Bool × List Char)
  | ':' :: rest =>
    let (negated, rest) := match rest with
      | '^' :: rest => (true, rest)
      | _ => (false, rest)
    match rest.dropWhile (· != ':') with
    | ':' :: ']' :: after =>
      if classNames.contains (String.ofList (rest.takeWhile (· != ':'))) then some (negated, after)
      else none
    | _ => none
  | _ => none

/-- How far a class has been read. -/
inductive Stage where
  /-- Its bracket is open. -/
  | opened
  /-- It is known to stand for all others. -/
  | negated
  /-- Only hyphens have been read, at least one. -/
  | hyphens
  | inside
  deriving DecidableEq, Repr

/-- Whether nothing has been read of the class, so that a bracket cannot close it. -/
def Stage.isBare : Stage → Bool
  | .opened => true
  | .negated => true
  | _ => false

/-- A class that is open: its members since the last operator, and the depth of what stands before
that. -/
structure Bracket where
  members : Parts := {}
  left : Option Nat := none
  deriving DecidableEq, Repr

/-- Adds a member of the given depth. -/
def Bracket.add (b : Bracket) (depth : Nat) : Bracket := { b with members := b.members.add depth }

/-- The depth of what has been read. -/
def Bracket.depth (b : Bracket) : Nat := joinDepth b.left b.members.depth

/-- Passes over the rest of a class, which is at the given stage, and of those around it. Gives the
depth of the outermost. Each turn reads a character, so a `fuel` of the text's length and one more
is enough. -/
def skipClass (m : Mode) :
    (fuel : Nat) → (outer : List Bracket) → Bracket → Stage → List Char → Option (Nat × List Char)
  | 0, _, _, _, _ => none
  | fuel + 1, outer, b, stage, cs =>
    match m.next cs with
    | [] => none
    | c :: rest =>
      if c = '^' && stage = .opened then
        if m.wide then skipClass m fuel outer b .negated rest else none
      else if c = '-' && stage != .inside then
        if m.holds c.toNat then skipClass m fuel outer (b.add 0) .hyphens rest else none
      else if c = ']' && stage.isBare then
        if m.holds c.toNat then skipClass m fuel outer (b.add 0) .inside rest else none
      else if c = ']' then
        match outer with
        | [] => some (b.depth + 1, rest)
        | around :: outer => skipClass m fuel outer (around.add (b.depth + 1)) .inside rest
      else if c = '[' then
        match skipNamed rest with
        | some (negated, after) =>
          if m.holds 0 && (m.wide || !negated) then
            skipClass m fuel outer (b.add 0) .inside after
          else none
        | none => skipClass m fuel (b :: outer) {} .opened rest
      else if ['&', '-', '~'].contains c && rest.head? = some c then
        skipClass m fuel outer ⟨{}, some b.depth⟩ .inside (rest.drop 1)
      else
        match skipMember m (c :: rest) with
        | some rest => skipClass m fuel outer (b.add 0) .inside rest
        | none => none

/-! ## Groups -/

/-- Whether a character may stand in the name of a group behind its first one. -/
def isNameChar (c : Char) : Bool :=
  c == '_' || c == '.' || c == '[' || c == ']' || Text.isAlphanumeric c

/-- Reads the name of a group and the bracket that closes it. -/
def readName (cs : List Char) : Option (List Char × List Char) :=
  match cs.takeWhile (· != '>'), cs.dropWhile (· != '>') with
  | c :: name, _ :: rest =>
    if (c == '_' || Text.isAlphabetic c) && name.all isNameChar then some (c :: name, rest)
    else none
  | _, _ => none

/-- Sets one of the flags by its letter. -/
def Mode.set (m : Mode) (value : Bool) : Char → Mode
  | 'i' => { m with caseless := value }
  | 'x' => { m with spaced := value }
  | 'u' => { m with wide := value }
  | _ => m

/-- The letters of flags, and the hyphen after which flags are taken away. -/
def flagLetters : List Char := ['i', 'm', 's', 'U', 'u', 'R', 'x', '-']

/-- Reads flags up to the colon of a group, or to the bracket after which they hold for the rest of
the group around them. Tells which of the two it was. -/
def readFlags (seen : List Char) (m : Mode) : List Char → Option (Mode × Bool × List Char)
  | [] => none
  | c :: rest =>
    if c = ':' || c = ')' then
      if seen.head? = some '-' || (c = ')' && seen.isEmpty) then none else some (m, c == ':', rest)
    else if flagLetters.contains c && !seen.contains c then
      readFlags (c :: seen) (m.set (!seen.contains '-') c) rest
    else none

/-! ## Whole patterns -/

/-- A group that is open, or the pattern itself. -/
structure Group where
  mode : Mode := {}
  /-- The parts since the last bar. -/
  parts : Parts := {}
  /-- The depth of the deepest alternative before the last bar. -/
  left : Option Nat := none
  /-- The depth of the last part, if it may be repeated. -/
  last : Option Nat := none
  deriving DecidableEq, Repr

/-- Adds a part of the given depth, which may be repeated. -/
def Group.add (g : Group) (depth : Nat) : Group :=
  { g with parts := g.parts.add depth, last := some depth }

/-- The depth of what has been read. -/
def Group.depth (g : Group) : Nat := joinDepth g.left g.parts.depth

/-- Ends an alternative. -/
def Group.bar (g : Group) : Group :=
  let left := match g.left with
    | some left => max left g.parts.depth
    | none => g.parts.depth
  { mode := g.mode, left := some left }

/-- What is known when a part of a pattern has been read. -/
structure State where
  group : Group := {}
  /-- The groups around it, the innermost first. -/
  outer : List Group := []
  /-- The names of groups. -/
  names : List (List Char) := []
  /-- Whether the edge of a word of any script is asked for. -/
  wordEdge : Bool := false
  deriving DecidableEq, Repr

/-- Goes into a group. -/
def State.enter (s : State) (m : Mode) : State :=
  { s with group := { mode := m }, outer := s.group :: s.outer }

/-- Goes into a group with a name that is new. -/
def State.enterNamed (s : State) (cs : List Char) : Option (State × List Char) :=
  match readName cs with
  | some (name, rest) =>
    if s.names.contains name then none
    else some ({ s.enter s.group.mode with names := name :: s.names }, rest)
  | none => none

/-- Sets the mode for the rest of the group. This is a part that cannot be repeated. -/
def State.setMode (s : State) (m : Mode) : State :=
  { s with group := { s.group.add 0 with mode := m, last := none } }

/-- Reads the start of a group after its bracket, or flags for the rest of the group around them. -/
def openGroup (s : State) (cs : List Char) : Option (State × List Char) :=
  match s.group.mode.next cs with
  | '?' :: '=' :: _ => none
  | '?' :: '!' :: _ => none
  | '?' :: '<' :: '=' :: _ => none
  | '?' :: '<' :: '!' :: _ => none
  | '?' :: 'P' :: '<' :: rest => s.enterNamed rest
  | '?' :: '<' :: rest => s.enterNamed rest
  | '?' :: rest =>
    match readFlags [] s.group.mode rest with
    | some (m, true, rest) => some (s.enter m, rest)
    | some (m, false, rest) => some (s.setMode m, rest)
    | none => none
  | rest => some (s.enter s.group.mode, rest)

/-- Goes out of the innermost group. -/
def State.leave (s : State) : Option State :=
  match s.outer with
  | [] => none
  | around :: outer => some { s with group := around.add (s.group.depth + 1), outer }

/-- Repeats the last part. -/
def State.repeatLast (s : State) : Option State :=
  s.group.last.map fun depth =>
    let g := s.group
    { s with group :=
      { g with
        parts := { g.parts with deepest := max g.parts.deepest (depth + 1) }
        last := some (depth + 1) } }

/-- Goes on behind a part of the given depth that may be repeated. -/
def State.behind (s : State) (depth : Nat) (rest : List Char) : Option (State × List Char) :=
  some ({ s with group := s.group.add depth }, rest)

/-- Goes on behind an atom. -/
def State.behindAtom (s : State) (a : Atom) (rest : List Char) : Option (State × List Char) :=
  let m := s.group.mode
  match a with
  | .code value asByte =>
    let allowed := if m.wide then !m.caseless else !asByte || value < 0x80
    if allowed then s.behind 0 rest else none
  | .kind => s.behind 0 rest
  | .position => s.behind 0 rest
  | .wordEdge => { s with wordEdge := s.wordEdge || m.wide }.behind 0 rest

/-- Reads one part of a pattern. -/
def step (s : State) (c : Char) (rest : List Char) : Option (State × List Char) :=
  let m := s.group.mode
  match c with
  | '(' => openGroup s rest
  | ')' => s.leave.map fun s => (s, rest)
  | '|' => some ({ s with group := s.group.bar }, rest)
  | '[' =>
    (skipClass m (rest.length + 1) [] {} .opened rest).bind fun (depth, rest) => s.behind depth rest
  | '\x7b' => none
  | '\\' => (readEscape m rest).bind fun (a, rest) => s.behindAtom a rest
  | '.' => if m.wide then s.behind 0 rest else none
  | '^' => s.behind 0 rest
  | '$' => s.behind 0 rest
  | c =>
    if c = '?' || c = '*' || c = '+' then
      s.repeatLast.map fun s => (s, if rest.head? = some '?' then rest.drop 1 else rest)
    else s.behindAtom (.code c.toNat false) rest

/-- Reads a pattern to its end. Each turn reads a character, so a `fuel` of the text's length and
one more is enough. -/
def run : (fuel : Nat) → State → List Char → Option State
  | 0, _, _ => none
  | fuel + 1, s, cs =>
    match s.group.mode.next cs with
    | [] => some s
    | c :: rest =>
      match step s c rest with
      | some (s, rest) => run fuel s rest
      | none => none

/-- Whether a text is a pattern that can be used. -/
def check (cs : List Char) : Except Fault Unit :=
  match run (cs.length + 1) {} cs with
  | none => .error .malformed
  | some s =>
    if !s.outer.isEmpty || s.group.depth > maxDepth then .error .malformed
    else if s.wordEdge then .error .wordEdge
    else .ok ()

end TunnelHost.Pattern
