import TunnelHost.Json.Scalar

/-!
# Skipping values

Members that a record does not know are passed over, whatever they hold and however deep it is
nested. The brackets that are open are kept in a list, so no depth is too great.

- `Bracket`: what is open.
- `skipFrom`: passes over tokens until the value that was begun is complete.
- `skipValue`: passes over one value.
-/

namespace TunnelHost.Json

/-- A container that has been opened and not yet closed. -/
inductive Bracket where
  | list
  | object
  deriving DecidableEq, Repr

/-- What comes next while a value is skipped. -/
inductive Awaited where
  /-- A value. -/
  | value
  /-- A comma or the end of the innermost container, or nothing if none is open. -/
  | delimiter

/-- Reads the colon between a key and its value. -/
def colon (cs : List Char) : Except Fault (List Char) :=
  match blanks cs with
  | ':' :: rest => .ok rest
  | [] => .error (.before .endInObject [])
  | other => .error (.after .expectedColon other)

/-- Skips a key and its colon. -/
def skipKey (cs : List Char) : Except Fault (List Char) :=
  match blanks cs with
  | '"' :: rest => do colon (← skipString rest)
  | [] => .error (.before .endInObject [])
  | other => .error (.after .keyMustBeString other)

/-- Passes over tokens until no container is open. Each turn reads at least one character, so a
`fuel` of the text's length and one more is enough. -/
def skipFrom : (fuel : Nat) → Awaited → List Bracket → List Char → Except Fault (List Char)
  | _, .delimiter, [], cs => .ok cs
  | 0, _, _, _ => .error (.before .endInValue [])
  | fuel + 1, .value, opened, cs =>
    match blanks cs with
    | [] => .error (.before .endInValue [])
    | 'n' :: rest => do skipFrom fuel .delimiter opened (← word ['u', 'l', 'l'] rest)
    | 't' :: rest => do skipFrom fuel .delimiter opened (← word ['r', 'u', 'e'] rest)
    | 'f' :: rest => do skipFrom fuel .delimiter opened (← word ['a', 'l', 's', 'e'] rest)
    | '"' :: rest => do skipFrom fuel .delimiter opened (← skipString rest)
    | '-' :: rest => do skipFrom fuel .delimiter opened (← skipNumber rest)
    | '[' :: rest =>
      match blanks rest with
      | [] => .error (.before .endInList [])
      | ']' :: rest => skipFrom fuel .delimiter opened rest
      | _ => skipFrom fuel .value (.list :: opened) rest
    | '{' :: rest =>
      match blanks rest with
      | [] => .error (.before .endInObject [])
      | '}' :: rest => skipFrom fuel .delimiter opened rest
      | _ => do skipFrom fuel .value (.object :: opened) (← skipKey rest)
    | c :: rest =>
      if (Numeral.digitValue? 10 c).isSome then do
        skipFrom fuel .delimiter opened (← skipNumber (c :: rest))
      else .error (.after .expectedValue (c :: rest))
  | fuel + 1, .delimiter, .list :: opened, cs =>
    match blanks cs with
    | [] => .error (.before .endInList [])
    | ',' :: rest => skipFrom fuel .value (.list :: opened) rest
    | ']' :: rest => skipFrom fuel .delimiter opened rest
    | other => .error (.after .expectedListCommaOrEnd other)
  | fuel + 1, .delimiter, .object :: opened, cs =>
    match blanks cs with
    | [] => .error (.before .endInObject [])
    | ',' :: rest => do skipFrom fuel .value (.object :: opened) (← skipKey rest)
    | '}' :: rest => skipFrom fuel .delimiter opened rest
    | other => .error (.after .expectedObjectCommaOrEnd other)

theorem skipFrom_closed (fuel : Nat) (cs : List Char) :
    skipFrom fuel .delimiter [] cs = .ok cs := by
  rw [skipFrom]

/-- Passes over one value. -/
def skipValue (cs : List Char) : Except Fault (List Char) :=
  skipFrom (cs.length + 1) .value [] cs

end TunnelHost.Json
