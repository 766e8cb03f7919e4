import TunnelHost.Address.Ip

/-!
# Reading addresses

Addresses are read in two dialects. The strict one reads an address that stands alone; the loose
one reads an address with a prefix length. They differ in two points only, which `Dialect` names.

- `number?`: a numeral with at most so many digits, below a limit.
- `ip4?`, `ip6?`: an address of either version at the front of a text.
- `Ip.ofText?`: the address of a whole text, in the strict dialect.
-/

namespace TunnelHost.Address

/-- How freely an address may be written. -/
structure Dialect where
  /-- Whether an octet may have zeros in front. -/
  leadingZeros : Bool
  /-- Whether `::` may stand for no group at all. -/
  emptyGap : Bool

/-- The dialect of addresses that stand alone. -/
def strict : Dialect := ⟨false, false⟩

/-- The dialect of addresses with a prefix length. -/
def loose : Dialect := ⟨true, true⟩

/-- Reads a numeral of any length, below a limit. -/
def anyNumber? (base limit : Nat) (cs : List Char) : Option (Nat × List Char) :=
  match Numeral.leadingDigits base cs with
  | ([], _) => none
  | (ds, rest) =>
    let n := Numeral.ofDigits base ds
    if n < limit then some (n, rest) else none

/-- Reads a numeral of at most `most` digits, below a limit. -/
def number? (base most limit : Nat) (cs : List Char) : Option (Nat × List Char) :=
  if most < (Numeral.leadingDigits base cs).1.length then none else anyNumber? base limit cs

/-- Whether a text starts with a zero that is followed by another digit. -/
def startsPadded (cs : List Char) : Bool :=
  match (Numeral.leadingDigits 10 cs).1 with
  | 0 :: _ :: _ => true
  | _ => false

/-- Reads an octet. -/
def octet? (d : Dialect) (cs : List Char) : Option (Nat × List Char) :=
  if !d.leadingZeros && startsPadded cs then none else number? 10 3 256 cs

/-- Reads a character that has to be there. -/
def mark? (mark : Char) : List Char → Option (List Char)
  | c :: rest => if c = mark then some rest else none
  | [] => none

/-- Reads further octets, each after a dot. -/
def octetsAfter? (d : Dialect) : (count : Nat) → List Char → Option (List Nat × List Char)
  | 0, cs => some ([], cs)
  | count + 1, cs => do
    let (n, rest) ← octet? d (← mark? '.' cs)
    let (ns, rest) ← octetsAfter? d count rest
    some (n :: ns, rest)

/-- Reads the four octets of an address of the fourth version. -/
def octets? (d : Dialect) (cs : List Char) : Option (List Nat × List Char) := do
  let (n, rest) ← octet? d cs
  let (ns, rest) ← octetsAfter? d 3 rest
  some (n :: ns, rest)

/-- Reads an address of the fourth version. -/
def ip4? (d : Dialect) (cs : List Char) : Option (Ip4 × List Char) := do
  let (ns, rest) ← octets? d cs
  some (Ip.ofOctets ns, rest)

/-- Groups at the front of a text, and whether the last two were written as four octets. -/
structure GroupRun where
  groups : List Nat
  octetsLast : Bool
  rest : List Char

/-- Where a group may start: at once for the first, after a colon for the others. -/
def groupStart? (first : Bool) (cs : List Char) : Option (List Char) :=
  if first then some cs else mark? ':' cs

/-- Reads as many groups as are there, at most `most`. Where two more are allowed, four octets may
stand for them and end the run. -/
def groupRun (d : Dialect) : (most : Nat) → (first : Bool) → List Char → GroupRun
  | 0, _, cs => ⟨[], false, cs⟩
  | most + 1, first, cs =>
    match groupStart? first cs with
    | none => ⟨[], false, cs⟩
    | some start =>
      match if 1 ≤ most then octets? d start else none with
      | some (ns, rest) => ⟨Ip.split 16 2 (Ip.join 8 ns), true, rest⟩
      | none =>
        match number? 16 4 (Nat.pow 2 16) start with
        | none => ⟨[], false, cs⟩
        | some (n, rest) =>
          let run := groupRun d most false rest
          { run with groups := n :: run.groups }

/-- Reads the eight groups of an address of the sixth version. Fewer have to be completed by `::`,
which stands for as many zeros as are missing. -/
def groups? (d : Dialect) (cs : List Char) : Option (List Nat × List Char) :=
  let head := groupRun d 8 true cs
  if head.groups.length = 8 then some (head.groups, head.rest)
  else if head.octetsLast then none
  else do
    let rest ← mark? ':' (← mark? ':' head.rest)
    let missing := 8 - head.groups.length
    let tail := groupRun d (if d.emptyGap then missing else missing - 1) true rest
    let zeros := List.replicate (missing - tail.groups.length) 0
    some (head.groups ++ zeros ++ tail.groups, tail.rest)

/-- Reads an address of the sixth version. -/
def ip6? (d : Dialect) (cs : List Char) : Option (Ip6 × List Char) := do
  let (ns, rest) ← groups? d cs
  some (Ip.ofGroups ns, rest)

/-- The value of a reading that has used up its text. -/
def whole? {α : Type} : Option (α × List Char) → Option α
  | some (a, []) => some a
  | _ => none

/-- Reads an address of either version. -/
def ip? (d : Dialect) (cs : List Char) : Option (Ip × List Char) :=
  match ip4? d cs with
  | some (a, rest) => some (.v4 a, rest)
  | none => (ip6? d cs).map fun (a, rest) => (.v6 a, rest)

/-- The address of a text. -/
def ofChars? (cs : List Char) : Option Ip := whole? (ip? strict cs)

end TunnelHost.Address

namespace TunnelHost.Ip

/-- The address of a text. -/
def ofText? (s : String) : Option Ip := Address.ofChars? s.toList

end TunnelHost.Ip
