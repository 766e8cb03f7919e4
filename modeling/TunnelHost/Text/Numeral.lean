/-!
# Numerals

Natural numbers as digits in a base, most significant digit first and without leading zeros.

- `digitChar`, `digitValue?`: one digit, and the way back. Letters of either case count.
- `leadingDigits`: the digits at the front of a text.
- `digits`: the numeral of a number.
- `ofDigits`: the number of a list of digit values.
- `decimal`, `decimalInt`: the numerals people read.
-/

namespace TunnelHost.Numeral

/-- The digit of a value below sixteen; letters are lower case. -/
def digitChar (d : Nat) : Char :=
  if d < 10 then Char.ofNat (48 + d) else Char.ofNat (87 + d)

/-- The value of a digit in a base of at most sixteen, `none` if it is no digit of that base. -/
def digitValue? (base : Nat) (c : Char) : Option Nat :=
  let n := c.toNat
  let v? :=
    if 48 ≤ n && n ≤ 57 then some (n - 48)
    else if 97 ≤ n && n ≤ 102 then some (n - 87)
    else if 65 ≤ n && n ≤ 70 then some (n - 55)
    else none
  v?.filter (· < base)

/-- The digits of a base at the front of a text, as values, and what follows them. -/
def leadingDigits (base : Nat) : List Char → List Nat × List Char
  | [] => ([], [])
  | c :: cs =>
    match digitValue? base c with
    | some d => let (ds, rest) := leadingDigits base cs; (d :: ds, rest)
    | none => ([], c :: cs)

/-- The digits of `n` in `base`. A base below two has no numerals; one digit then stands for all. -/
def digits (base n : Nat) : List Char :=
  if _h : n < base ∨ base < 2 then [digitChar n]
  else digits base (n / base) ++ [digitChar (n % base)]
termination_by n
decreasing_by exact Nat.div_lt_self (by omega) (by omega)

/-- The number whose digit values, most significant first, are `ds`. -/
def ofDigits (base : Nat) (ds : List Nat) : Nat :=
  ds.foldl (fun n d => n * base + d) 0

/-- The decimal numeral of a natural number. -/
def decimal (n : Nat) : String :=
  String.ofList (digits 10 n)

/-- The decimal numeral of an integer; a minus sign precedes a negative one. -/
def decimalInt : Int → String
  | .ofNat n => decimal n
  | .negSucc n => "-" ++ decimal (n + 1)

end TunnelHost.Numeral
