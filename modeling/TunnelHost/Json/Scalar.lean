import TunnelHost.Decimal.Shortest
import TunnelHost.Json.Fault

/-!
# Words, numbers and strings of a JSON text

Readers of the parts of a JSON text that hold no other values. A reader takes the characters that
are left and returns what it read with the characters after it.

- `blanks`: drops white space. JSON knows four characters of it.
- `word`: the rest of `null`, `true` or `false`.
- `number`: a number, as an integer while it fits 64 bits and as a double otherwise.
- `string`: a string after its opening quote, with its escapes resolved.
- `skipNumber`, `skipString`: the same without the value, for members nobody asked for. A skipped
  string may hold half of a surrogate pair, a skipped number may have any size.
-/

namespace TunnelHost.Json

/-- A reader of a value at the front of a text. -/
abbrev Reader (α : Type) := List Char → Except Fault (α × List Char)

/-- White space between tokens. -/
def isSpace (c : Char) : Bool := c == ' ' || c == '\n' || c == '\t' || c == '\r'

/-- Drops white space. -/
def blanks (cs : List Char) : List Char := cs.dropWhile isSpace

/-- Reads the letters of a word. -/
def word : List Char → List Char → Except Fault (List Char)
  | [], cs => .ok cs
  | _ :: _, [] => .error (.before .endInValue [])
  | w :: ws, c :: cs => if c = w then word ws cs else .error (.after .expectedWord (c :: cs))

/-! ## Numbers -/

/-- A number as it is stored while a text is read. -/
inductive Number where
  /-- Below `2^64`. -/
  | natural (value : Nat)
  /-- Down to `-2^63`, minus zero aside. -/
  | negative (value : Int)
  | floating (value : Float)

/-- What a number is called in a message. -/
def Number.found : Number → Found
  | .natural value => .integer value
  | .negative value => .integer value
  | .floating value => .floating (Decimal.write value)

/-- One more than the largest significand that is kept exactly. -/
def wordLimit : Nat := Nat.pow 2 64

/-- Appends digits to a significand while it stays below the limit. Returns the significand and the
number of digits that found room; the first digit without room and all after it are left out. -/
def fill (significand : Nat) : List Nat → Nat × Nat
  | [] => (significand, 0)
  | d :: ds =>
    let next := significand * 10 + d
    if next < wordLimit then
      let (s, n) := fill next ds
      (s, n + 1)
    else (significand, 0)

/-- `significand · 10^exponent` as a double, by one multiplication or division with a power of ten
of at most 308; `none` if it is too large. Smaller exponents are reached in steps. -/
def scale (significand : Nat) (exponent : Int) : Option Float :=
  let f := (UInt64.ofNat significand).toFloat
  if 0 ≤ exponent then
    if exponent ≤ 308 then
      let scaled := f * Float.ofScientific 1 false exponent.toNat
      if scaled.isInf then none else some scaled
    else if significand = 0 then some f else none
  else shrink f (-exponent).toNat (1 + (-exponent).toNat / 308)
where
  /-- Divides by `10^n`, by at most `10^308` at a time. -/
  shrink (f : Float) (n : Nat) : (fuel : Nat) → Option Float
    | 0 => some f
    | fuel + 1 =>
      if n ≤ 308 then some (f / Float.ofScientific 1 false n)
      else if f == 0 then some f
      else shrink (f / Float.ofScientific 1 false 308) (n - 308) fuel

/-- The number with the given sign, magnitude and exponent, or the fault that it is too large. -/
def float (positive : Bool) (significand : Nat) (exponent : Int) (rest : List Char) :
    Except Fault (Number × List Char) :=
  match scale significand exponent with
  | some f => .ok (.floating (if positive then f else -f), rest)
  | none => .error (.before .numberOutOfRange rest)

/-- One more than the largest exponent that is kept exactly. -/
def exponentLimit : Nat := Nat.pow 2 31

/-- Reads the digits of an exponent up to the first that makes it reach the limit; `none` then. -/
def exponentDigits (value : Nat) : List Char → Option Nat × List Char
  | [] => (some value, [])
  | c :: cs =>
    match Numeral.digitValue? 10 c with
    | some d =>
      if value * 10 + d < exponentLimit then exponentDigits (value * 10 + d) cs else (none, cs)
    | none => (some value, c :: cs)

/-- Keeps an exponent in 32 bits. -/
def clampExponent (e : Int) : Int := max (-2147483648) (min 2147483647 e)

/-- The sign of an exponent and what follows it. -/
def exponentSign : List Char → Bool × List Char
  | '+' :: cs => (true, cs)
  | '-' :: cs => (false, cs)
  | cs => (true, cs)

/-- Reads an exponent after its letter. -/
def exponent (positive : Bool) (significand : Nat) (start : Int) (cs : List Char) :
    Except Fault (Number × List Char) :=
  let (upward, cs) := exponentSign cs
  match cs with
  | [] => .error (.before .endInValue [])
  | c :: rest =>
    match Numeral.digitValue? 10 c with
    | none => .error (.after .invalidNumber (c :: rest))
    | some d =>
      match exponentDigits d rest with
      | (some e, rest) =>
        float positive significand (clampExponent (if upward then start + e else start - e)) rest
      | (none, rest) =>
        if significand ≠ 0 && upward then .error (.before .numberOutOfRange rest)
        else .ok (.floating (if positive then 0.0 else -0.0), (Numeral.leadingDigits 10 rest).2)

/-- Reads digits after a decimal point. -/
def fraction (positive : Bool) (significand : Nat) (start : Int) (cs : List Char) :
    Except Fault (Number × List Char) :=
  match Numeral.leadingDigits 10 cs with
  | ([], []) => .error (.before .endInValue [])
  | ([], c :: rest) => .error (.after .invalidNumber (c :: rest))
  | (ds, rest) =>
    let (s, n) := fill significand ds
    match rest with
    | 'e' :: rest => exponent positive s (start - n) rest
    | 'E' :: rest => exponent positive s (start - n) rest
    | _ => float positive s (start - n) rest

/-- The integer with the given sign and magnitude. Minus zero and magnitudes beyond `2^63` below
zero are doubles. -/
def integer (positive : Bool) (magnitude : Nat) : Number :=
  if positive then .natural magnitude
  else if 0 < magnitude && magnitude ≤ Nat.pow 2 63 then .negative (-(magnitude : Int))
  else .floating (-(UInt64.ofNat magnitude).toFloat)

/-- Reads a number after its sign. -/
def number (positive : Bool) : Reader Number
  | [] => .error (.before .endInValue [])
  | c :: cs =>
    match Numeral.leadingDigits 10 (c :: cs) with
    | ([], _) => .error (.after .invalidNumber (c :: cs))
    | (0 :: _ :: _, _) => .error (.after .invalidNumber cs)
    | (ds, rest) =>
      let (s, n) := fill 0 ds
      let dropped : Int := ds.length - n
      match rest with
      | '.' :: rest => fraction positive s dropped rest
      | 'e' :: rest => exponent positive s dropped rest
      | 'E' :: rest => exponent positive s dropped rest
      | _ => if dropped = 0 then .ok (integer positive s, rest) else float positive s dropped rest

/-- Skips an exponent after its letter. -/
def skipExponent (cs : List Char) : Except Fault (List Char) :=
  let (_, cs) := exponentSign cs
  match Numeral.leadingDigits 10 cs with
  | ([], _) => .error (.after .invalidNumber cs)
  | (_, rest) => .ok rest

/-- Skips a number after its sign. -/
def skipNumber (cs : List Char) : Except Fault (List Char) :=
  match Numeral.leadingDigits 10 cs with
  | ([], _) => .error (.after .invalidNumber cs)
  | (0 :: _ :: _, _) => .error (.after .invalidNumber (cs.drop 1))
  | (_, '.' :: rest) =>
    match Numeral.leadingDigits 10 rest with
    | ([], _) => .error (.after .invalidNumber rest)
    | (_, 'e' :: rest) => skipExponent rest
    | (_, 'E' :: rest) => skipExponent rest
    | (_, rest) => .ok rest
  | (_, 'e' :: rest) => skipExponent rest
  | (_, 'E' :: rest) => skipExponent rest
  | (_, rest) => .ok rest

/-! ## Strings -/

/-- The character of an escape of one letter. -/
def simpleEscape? (c : Char) : Option Char :=
  if c = '"' then some '"'
  else if c = '\\' then some '\\'
  else if c = '/' then some '/'
  else if c = 'b' then some '\x08'
  else if c = 'f' then some '\x0c'
  else if c = 'n' then some '\n'
  else if c = 'r' then some '\x0d'
  else if c = 't' then some '\t'
  else none

/-- The value of four hexadecimal digits. -/
def hex4? (a b c d : Char) : Option Nat := do
  let a ← Numeral.digitValue? 16 a
  let b ← Numeral.digitValue? 16 b
  let c ← Numeral.digitValue? 16 c
  let d ← Numeral.digitValue? 16 d
  some (Numeral.ofDigits 16 [a, b, c, d])

/-- First half of a surrogate pair. -/
def isLeading (n : Nat) : Bool := 0xd800 ≤ n && n ≤ 0xdbff

/-- Second half of a surrogate pair. -/
def isTrailing (n : Nat) : Bool := 0xdc00 ≤ n && n ≤ 0xdfff

/-- The character of a surrogate pair. -/
def pairChar (leading trailing : Nat) : Char :=
  Char.ofNat ((leading - 0xd800) * 0x400 + (trailing - 0xdc00) + 0x10000)

/-- The fault of an escape whose four digits are not all digits. They count as read, whatever they
are; with fewer than four bytes left the text ends in the string. -/
def badHex (cs : List Char) : Fault :=
  if Text.byteCount cs < 4 then .before .endInString [] else ⟨.invalidEscape, Text.byteCount cs - 4⟩

/-- Puts a character in front of what was read after it. -/
def prepend (c : Char) : Except Fault (List Char × List Char) → Except Fault (List Char × List Char)
  | .ok (cs, rest) => .ok (c :: cs, rest)
  | .error fault => .error fault

/-- Reads a string after its opening quote. -/
def string : Reader (List Char)
  | [] => .error (.before .endInString [])
  | '"' :: rest => .ok ([], rest)
  | '\\' :: 'u' :: a :: b :: c :: d :: rest =>
    match hex4? a b c d with
    | none => .error (badHex (a :: b :: c :: d :: rest))
    | some n =>
      if isTrailing n then .error (.before .loneSurrogate rest)
      else if isLeading n then
        match rest with
        | '\\' :: 'u' :: e :: f :: g :: h :: rest =>
          match hex4? e f g h with
          | none => .error (badHex (e :: f :: g :: h :: rest))
          | some m =>
            if isTrailing m then prepend (pairChar n m) (string rest)
            else .error (.before .loneSurrogate rest)
        | '\\' :: 'u' :: short => .error (badHex short)
        | ['\\'] => .error (.before .endInString [])
        | '\\' :: other => .error (.after .endOfEscape other)
        | [] => .error (.before .endInString [])
        | other => .error (.after .endOfEscape other)
      else prepend (Char.ofNat n) (string rest)
  | '\\' :: 'u' :: short => .error (badHex short)
  | ['\\'] => .error (.before .endInString [])
  | '\\' :: c :: rest =>
    match simpleEscape? c with
    | some e => prepend e (string rest)
    | none => .error (.after .invalidEscape (c :: rest))
  | c :: rest =>
    if c.toNat < 0x20 then .error (.after .controlCharacter (c :: rest))
    else prepend c (string rest)

theorem string_quote (rest : List Char) : string ('"' :: rest) = .ok ([], rest) := by
  rw [string]

/-- Skips a string after its opening quote. A control character in it is reported before it is
read. -/
def skipString : List Char → Except Fault (List Char)
  | [] => .error (.before .endInString [])
  | '"' :: rest => .ok rest
  | '\\' :: 'u' :: a :: b :: c :: d :: rest =>
    match hex4? a b c d with
    | none => .error (badHex (a :: b :: c :: d :: rest))
    | some _ => skipString rest
  | '\\' :: 'u' :: short => .error (badHex short)
  | ['\\'] => .error (.before .endInString [])
  | '\\' :: c :: rest =>
    match simpleEscape? c with
    | some _ => skipString rest
    | none => .error (.after .invalidEscape (c :: rest))
  | c :: rest =>
    if c.toNat < 0x20 then .error (.before .controlCharacter (c :: rest))
    else skipString rest

theorem skipString_quote (rest : List Char) : skipString ('"' :: rest) = .ok rest := by
  rw [skipString]

end TunnelHost.Json
