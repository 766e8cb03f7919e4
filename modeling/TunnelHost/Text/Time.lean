import TunnelHost.Text.Numeral

/-!
# Times in writing

Moments and spans, both given in nanoseconds.

- `padded`: a numeral of a least width.
- `Date.ofDays`: the date of a day since the start of 1970.
- `momentText`: a moment since the start of 1970, by date and time of day.
- `spanText`: a span in the largest unit of which it has at least one.
-/

namespace TunnelHost.Text

/-- A decimal numeral with zeros in front of it up to a width. -/
def padded (width n : Nat) : String :=
  let digits := Numeral.digits 10 n
  String.ofList (List.replicate (width - digits.length) '0' ++ digits)

/-- A date of the Gregorian calendar. -/
structure Date where
  year : Nat
  month : Nat
  day : Nat
  deriving DecidableEq, Repr

/-- The date that lies a number of days after the first day of 1970. Years are counted from March
on, so that a leap day is the last of its year; 400 years have 146097 days. -/
def Date.ofDays (days : Nat) : Date :=
  let shifted := days + 719468
  let inEra := shifted % 146097
  let yearOfEra := (inEra - inEra / 1460 + inEra / 36524 - inEra / 146096) / 365
  let inYear := inEra - (365 * yearOfEra + yearOfEra / 4 - yearOfEra / 100)
  let fromMarch := (5 * inYear + 2) / 153
  let month := if fromMarch < 10 then fromMarch + 3 else fromMarch - 9
  let year := yearOfEra + shifted / 146097 * 400
  { year := if month ≤ 2 then year + 1 else year
    month
    day := inYear - (153 * fromMarch + 2) / 5 + 1 }

/-- A moment, given by the nanoseconds since the start of 1970, to the microsecond. -/
def momentText (nanoseconds : Nat) : String :=
  let seconds := nanoseconds / Nat.pow 10 9
  let date := Date.ofDays (seconds / 86400)
  padded 4 date.year ++ "-" ++ padded 2 date.month ++ "-" ++ padded 2 date.day
    ++ "T" ++ padded 2 (seconds / 3600 % 24) ++ ":" ++ padded 2 (seconds / 60 % 60)
    ++ ":" ++ padded 2 (seconds % 60)
    ++ "." ++ padded 6 (nanoseconds / 1000 % Nat.pow 10 6) ++ "Z"

/-- A span in a unit of `10 ^ places` nanoseconds, without zeros at the end. -/
def spanIn (places : Nat) (unit : String) (nanoseconds : Nat) : String :=
  let rest := (padded places (nanoseconds % Nat.pow 10 places)).toList
  let rest := (rest.reverse.dropWhile (· == '0')).reverse
  let fraction := if nanoseconds % Nat.pow 10 places = 0 then "" else "." ++ String.ofList rest
  Numeral.decimal (nanoseconds / Nat.pow 10 places) ++ fraction ++ unit

/-- A span in the largest unit of which it has at least one. -/
def spanText (nanoseconds : Nat) : String :=
  if Nat.pow 10 9 ≤ nanoseconds then spanIn 9 "s" nanoseconds
  else if Nat.pow 10 6 ≤ nanoseconds then spanIn 6 "ms" nanoseconds
  else if Nat.pow 10 3 ≤ nanoseconds then spanIn 3 "µs" nanoseconds
  else Numeral.decimal nanoseconds ++ "ns"

end TunnelHost.Text
