import TunnelHost.Text.Numeral

/-!
# Shortest decimals

The fewest decimal digits that read back as the same double, and among those the nearest.

A finite double is `m · 2^q`. The reals that round to it form an interval around it: half a step
down and half a step up, where the step down is halved once more when `m` is the least mantissa of
its binade; the ends belong to it exactly when `m` is even. On the grid of multiples of `10^k` a
point lies in the interval only if one of the value's two neighbours on that grid does, so it is
enough to test those two, from the coarsest grid to the finest.

- `Binary.ofFloat`: a double as mantissa and exponent.
- `Interval`: the interval in whole units of a common fraction.
- `shortest`: digits and decimal exponent.
- `write`: the text of a double.
-/

namespace TunnelHost.Decimal

/-- A non-negative finite double `mantissa · 2^exponent`. `narrow` tells that the next smaller
double is only half as far away as the next larger one. -/
structure Binary where
  mantissa : Nat
  exponent : Int
  narrow : Bool

/-- The mantissa and exponent of the magnitude of a finite double. -/
def Binary.ofFloat (x : Float) : Binary :=
  let bits := x.toBits.toNat
  let biased : Nat := bits / Nat.pow 2 52 % 2048
  let fraction : Nat := bits % Nat.pow 2 52
  if biased = 0 then ⟨fraction, -1074, false⟩
  else ⟨Nat.pow 2 52 + fraction, Int.ofNat biased - 1075, fraction = 0 && 1 < biased⟩

/-- The interval that rounds to a double, over a common denominator: from `low` to `high` around
`value`, ends included if `closed`. -/
structure Interval where
  low : Nat
  value : Nat
  high : Nat
  denominator : Nat
  closed : Bool

/-- The interval of a double, in quarters of its step. -/
def Binary.interval (b : Binary) : Interval :=
  let (up, down) :=
    if 0 ≤ b.exponent then (Nat.pow 2 b.exponent.toNat, 1)
    else (1, Nat.pow 2 (-b.exponent).toNat)
  let lower := if b.narrow then 1 else 2
  { low := (4 * b.mantissa - lower) * up
    value := 4 * b.mantissa * up
    high := (4 * b.mantissa + 2) * up
    denominator := 4 * down
    closed := b.mantissa % 2 = 0 }

/-- Numerator and denominator of one step of the grid of multiples of `10^k`. -/
def grid (k : Int) : Nat × Nat :=
  if 0 ≤ k then (Nat.pow 10 k.toNat, 1) else (1, Nat.pow 10 (-k).toNat)

/-- Whether the point `n · 10^k` rounds to the double. -/
def Interval.contains (i : Interval) (n : Nat) (k : Int) : Bool :=
  let (num, den) := grid k
  let point := n * num * i.denominator
  let low := i.low * den
  let high := i.high * den
  if i.closed then low ≤ point && point ≤ high else low < point && point < high

/-- The nearer of the value's two neighbours on the grid of multiples of `10^k`, among those that
round to the double. Of two equally near ones the even one is taken. -/
def Interval.pick? (i : Interval) (k : Int) : Option Nat :=
  let (num, den) := grid k
  let unit := num * i.denominator
  let n := i.value * den / unit
  let rest := i.value * den % unit
  match 0 < n && i.contains n k, i.contains (n + 1) k with
  | true, true =>
    if 2 * rest < unit then some n
    else if unit < 2 * rest then some (n + 1)
    else if n % 2 = 0 then some n else some (n + 1)
  | true, false => some n
  | false, true => some (n + 1)
  | false, false => none

/-- Tries the grids from `10^k` on to ever finer ones, `fuel` of them. -/
def Interval.search (i : Interval) : (fuel : Nat) → Int → Nat × Int
  | 0, k => (0, k)
  | fuel + 1, k =>
    match i.pick? k with
    | some n => (n, k)
    | none => i.search fuel (k - 1)

/-- The number of decimal digits before the point, for a value of at least one; a lower bound of
the place of the first digit otherwise. -/
def Interval.magnitude (i : Interval) : Int :=
  let whole := i.value / i.denominator
  if 0 < whole then ((Numeral.digits 10 whole).length : Int)
  else 1 - ((Numeral.digits 10 (i.denominator / i.value)).length : Int)

/-- The shortest digits `n` and exponent `k` with `n · 10^k` reading back as the double. Two grids
above the value's own magnitude and nineteen below it are more than any double needs. -/
def shortest (b : Binary) : Nat × Int :=
  let i := b.interval
  i.search 22 (i.magnitude + 1)

/-- A run of zeros. -/
def zeros (n : Nat) : List Char := List.replicate n '0'

/-- How a decimal is laid out: positional for exponents of the first digit from `least` up to but
not including `most`, with a sign and no padding on the exponent otherwise. -/
structure Layout where
  least : Int
  most : Int

/-- Lays out digits whose first stands at place `e` (`0` is the units place). A whole number keeps
one zero after the point. -/
def Layout.write (l : Layout) (ds : List Char) (e : Int) : List Char :=
  if l.least ≤ e && e < l.most then
    if 0 ≤ e then
      let whole := e.toNat + 1
      if ds.length ≤ whole then ds ++ zeros (whole - ds.length) ++ ['.', '0']
      else ds.take whole ++ ['.'] ++ ds.drop whole
    else ['0', '.'] ++ zeros ((-e).toNat - 1) ++ ds
  else
    let point := if ds.length ≤ 1 then ds else ds.take 1 ++ ['.'] ++ ds.drop 1
    let sign := if 0 ≤ e then '+' else '-'
    point ++ ['e', sign] ++ Numeral.digits 10 e.natAbs

/-- Drops zeros at the end of a numeral. -/
def dropZeroEnd (ds : List Char) : List Char :=
  (ds.reverse.dropWhile (· == '0')).reverse

/-- Numbers in messages are positional from `0.00001` up to sixteen digits before the point. -/
def messageLayout : Layout := ⟨-5, 16⟩

/-- The text of a finite double. -/
def write (x : Float) : String :=
  let sign := if x.toBits.toNat / Nat.pow 2 63 = 1 then ['-'] else []
  let b := Binary.ofFloat x
  if b.mantissa = 0 then String.ofList (sign ++ ['0', '.', '0'])
  else
    let (n, k) := shortest b
    let ds := Numeral.digits 10 n
    String.ofList (sign ++ messageLayout.write (dropZeroEnd ds) (k + ds.length - 1))

end TunnelHost.Decimal
