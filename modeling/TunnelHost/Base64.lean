import TunnelHost.Text.Numeral

/-!
# Base64

The standard alphabet with mandatory padding. Three bytes are four symbols; a last group of one or
two bytes is padded to four characters, and the bits that its last symbol does not need are zero.
Both rules are checked, so every byte list has one written form.

- `encode`: the written form of a byte list.
- `decode`: the byte list of a text given by its bytes, or the first fault in it.
- `Fault`: what can be wrong, with offsets counted in bytes.
-/

namespace TunnelHost.Base64

/-- What is wrong with a text. -/
inductive Fault where
  /-- A byte that is no symbol, or padding where a symbol has to stand. -/
  | symbol (byte : UInt8) (offset : Nat)
  /-- The text stops after the first symbol of a group. -/
  | length (count : Nat)
  /-- The last symbol carries bits that belong to no byte. -/
  | lastSymbol (byte : UInt8) (offset : Nat)
  /-- The last group is not padded to four characters. -/
  | padding
  deriving DecidableEq, Repr

/-- The fault in words. -/
def Fault.message : Fault → String
  | .symbol byte offset =>
    "Invalid symbol " ++ Numeral.decimal byte.toNat ++ ", offset " ++ Numeral.decimal offset ++ "."
  | .length count => "Invalid input length: " ++ Numeral.decimal count
  | .lastSymbol byte offset =>
    "Invalid last symbol " ++ Numeral.decimal byte.toNat ++ ", offset "
      ++ Numeral.decimal offset ++ "."
  | .padding => "Invalid padding"

/-! ## Symbols -/

/-- The padding byte, `=`. -/
def pad : UInt8 := 61

/-- The symbol of a six-bit value. -/
def symbol (v : Nat) : UInt8 :=
  if v < 26 then UInt8.ofNat (65 + v)
  else if v < 52 then UInt8.ofNat (71 + v)
  else if v < 62 then UInt8.ofNat (v - 4)
  else if v = 62 then 43
  else 47

/-- The value of a symbol, `none` for a byte outside the alphabet. Padding is outside. -/
def value? (b : UInt8) : Option Nat :=
  let n := b.toNat
  if 65 ≤ n && n ≤ 90 then some (n - 65)
  else if 97 ≤ n && n ≤ 122 then some (n - 71)
  else if 48 ≤ n && n ≤ 57 then some (n + 4)
  else if n = 43 then some 62
  else if n = 47 then some 63
  else none

/-- The value of the symbol at `offset`. -/
def valueAt (offset : Nat) (b : UInt8) : Except Fault Nat :=
  match value? b with
  | some v => .ok v
  | none => .error (.symbol b offset)

/-! ## Writing -/

/-- The written form of a byte list, as bytes of ASCII text. -/
def encodeBytes : List UInt8 → List UInt8
  | [] => []
  | [x] => [symbol (x.toNat / 4), symbol (x.toNat % 4 * 16), pad, pad]
  | [x, y] =>
    [symbol (x.toNat / 4), symbol (x.toNat % 4 * 16 + y.toNat / 16),
      symbol (y.toNat % 16 * 4), pad]
  | x :: y :: z :: rest =>
    symbol (x.toNat / 4) :: symbol (x.toNat % 4 * 16 + y.toNat / 16)
      :: symbol (y.toNat % 16 * 4 + z.toNat / 64) :: symbol (z.toNat % 64) :: encodeBytes rest

/-- The written form of a byte list. -/
def encode (bytes : List UInt8) : String :=
  String.ofList ((encodeBytes bytes).map fun b => Char.ofNat b.toNat)

/-! ## Reading -/

/-- The three bytes of four symbol values. -/
def join (a b c d : Nat) : List UInt8 :=
  [UInt8.ofNat (a * 4 + b / 16), UInt8.ofNat (b % 16 * 16 + c / 4), UInt8.ofNat (c % 4 * 64 + d)]

/-- What has been read of the last group: the symbols so far, each with its byte, and the place of
the first padding character if one was met. -/
structure Group where
  symbols : List (UInt8 × Nat) := []
  firstPad : Option Nat := none
  pads : Nat := 0

/-- Reads one more character of the last group, which starts at `start`. Padding may not stand in
the first two places, and after padding only padding may follow; the fault then names the first
padding character. -/
def Group.add (start : Nat) (g : Group) (b : UInt8) : Except Fault Group :=
  let place := g.symbols.length + g.pads
  if b == pad then
    if place < 2 then .error (.symbol b (start + place))
    else .ok { g with firstPad := g.firstPad.or (some place), pads := g.pads + 1 }
  else
    match g.firstPad with
    | some p => .error (.symbol pad (start + p))
    | none => do
      let v ← valueAt (start + place) b
      .ok { g with symbols := g.symbols ++ [(b, v)] }

/-- The bytes of a last group that has been read to its end. -/
def Group.finish (start : Nat) (g : Group) : Except Fault (List UInt8) :=
  if g.symbols.length < 2 then .error (.length (start + g.symbols.length))
  else if (g.symbols.length + g.pads) % 4 ≠ 0 then .error .padding
  else
    match g.symbols with
    | [(_, a), (sb, b)] =>
      if b % 16 = 0 then .ok ((join a b 0 0).take 1) else .error (.lastSymbol sb (start + 1))
    | [(_, a), (_, b), (sc, c)] =>
      if c % 4 = 0 then .ok ((join a b c 0).take 2) else .error (.lastSymbol sc (start + 2))
    | [(_, a), (_, b), (_, c), (_, d)] => .ok (join a b c d)
    | _ => .error .padding

/-- Reads groups of four until at most four characters are left, which form the last group. -/
def decodeFrom (start : Nat) : List UInt8 → Except Fault (List UInt8)
  | a :: b :: c :: d :: e :: rest => do
    let va ← valueAt start a
    let vb ← valueAt (start + 1) b
    let vc ← valueAt (start + 2) c
    let vd ← valueAt (start + 3) d
    let more ← decodeFrom (start + 4) (e :: rest)
    .ok (join va vb vc vd ++ more)
  | last => do
    let g ← last.foldlM (Group.add start) {}
    g.finish start

/-- Reads a text given by its bytes. A single character left over after the groups of four is
looked at first, so that a foreign last byte (a line end, say) is named rather than the length. -/
def decode (text : List UInt8) : Except Fault (List UInt8) :=
  match text.getLast? with
  | none => .ok []
  | some last =>
    if text.length % 4 = 1 && last != pad && (value? last).isNone then
      .error (.symbol last (text.length - 1))
    else decodeFrom 0 text

/-- The bytes of a text. -/
def decodeText (s : String) : Except Fault (List UInt8) :=
  decode s.toUTF8.toList

end TunnelHost.Base64
