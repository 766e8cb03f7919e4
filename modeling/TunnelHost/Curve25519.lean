/-!
# Curve25519

Scalar multiplication of the base point on the Montgomery curve `y² = x³ + 486662x² + x` over the
prime `2^255 - 19`, by x-coordinates only. Private scalars are clamped first.

- `clamp`: the scalar of a private key.
- `ladder`: the x-coordinate of a multiple of a point.
- `publicPoint`: the x-coordinate of the public key of a private key.
-/

namespace TunnelHost.Curve25519

/-- The order of the field. -/
def prime : Nat := Nat.pow 2 255 - 19

/-- `x` to the power `e`, modulo the prime. -/
def power (x : Nat) (e : Nat) : Nat :=
  if _h : e = 0 then 1
  else
    let half := power (x * x % prime) (e / 2)
    if e % 2 = 1 then half * x % prime else half
termination_by e
decreasing_by exact Nat.div_lt_self (by omega) (by omega)

/-- The inverse of a field element, and zero for zero. -/
def inverse (x : Nat) : Nat := power x (prime - 2)

/-- Difference of two field elements, both below the prime. -/
def sub (a b : Nat) : Nat := (a + (prime - b)) % prime

/-- The number of a byte list, least significant byte first. -/
def ofBytes : List UInt8 → Nat
  | [] => 0
  | b :: rest => b.toNat + 256 * ofBytes rest

/-- The first `count` bytes of a number, least significant byte first. -/
def toBytes : (count : Nat) → Nat → List UInt8
  | 0, _ => []
  | count + 1, n => UInt8.ofNat (n % 256) :: toBytes count (n / 256)

/-- The scalar of a private key: a multiple of eight with its highest bit at place 254. -/
def clamp (n : Nat) : Nat := n % Nat.pow 2 254 / 8 * 8 + Nat.pow 2 254

/-- Two points `(x₂ : z₂)` and `(x₃ : z₃)` whose difference is the point multiplied. -/
structure Pair where
  x₂ : Nat
  z₂ : Nat
  x₃ : Nat
  z₃ : Nat

/-- The two points the other way round. -/
def Pair.swap (p : Pair) : Pair := ⟨p.x₃, p.z₃, p.x₂, p.z₂⟩

/-- Doubles the first point and adds the two; `u` is the x-coordinate of their difference. -/
def Pair.step (u : Nat) (p : Pair) : Pair :=
  let a := (p.x₂ + p.z₂) % prime
  let aa := a * a % prime
  let b := sub p.x₂ p.z₂
  let bb := b * b % prime
  let e := sub aa bb
  let c := (p.x₃ + p.z₃) % prime
  let d := sub p.x₃ p.z₃
  let da := d * a % prime
  let cb := c * b % prime
  let s := (da + cb) % prime
  let t := sub da cb
  { x₂ := aa * bb % prime
    z₂ := e * ((aa + 121665 * e) % prime) % prime
    x₃ := s * s % prime
    z₃ := u * (t * t % prime) % prime }

/-- Works through the scalar's lowest `bits` bits, the highest of them first. -/
def climb (scalar u : Nat) : (bits : Nat) → Pair → Pair
  | 0, p => p
  | bits + 1, p =>
    if scalar.testBit bits then climb scalar u bits ((p.swap.step u).swap)
    else climb scalar u bits (p.step u)

/-- The x-coordinate of `scalar` times the point with x-coordinate `u`. -/
def ladder (scalar u : Nat) : Nat :=
  let p := climb scalar u 255 ⟨1, 0, u, 1⟩
  p.x₂ * inverse p.z₂ % prime

/-- The x-coordinate of the base point. -/
def basePoint : Nat := 9

/-- The 32 bytes of the public key of a private key given by its bytes. -/
def publicPoint (privateKey : List UInt8) : List UInt8 :=
  toBytes 32 (ladder (clamp (ofBytes privateKey)) basePoint)

theorem length_toBytes (count n : Nat) : (toBytes count n).length = count := by
  induction count generalizing n with
  | zero => rfl
  | succ count ih => simp [toBytes, ih]

/-- A public point is always written in 32 bytes. -/
theorem length_publicPoint (privateKey : List UInt8) : (publicPoint privateKey).length = 32 :=
  length_toBytes 32 _

end TunnelHost.Curve25519
