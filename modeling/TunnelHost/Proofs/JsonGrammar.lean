import Mathlib.Data.List.Forall2

/-!
# The grammar of JSON texts

What a JSON text is, apart from any program that reads it. Texts are lists of characters.

- `Blank`: white space, which may stand between any two tokens.
- `IsInteger`, `IsNatural`, `IsNumber`: numbers, and the integers without a sign with their values.
- `Spells`, `Quotable`: what may stand between quotes. The first says which characters are meant;
  the second admits halves of surrogate pairs, which mean no character.
- `IsString`, `booleanText`, `nullText`: the texts of other values that hold no values.
- `Parted`, `MemberText`: the parts of a list or an object, with their commas and colons.
- `IsValue`: any value at all.
- `IsObject`: an object, with the names and the value texts of its members.
- `IsRecord`: an object of which some members are known and the others are not.
- `forall₂_mem_left`, `forall₂_mem_right`: of two lists side by side, what stands beside an element.
-/

namespace TunnelHost

/-! ## Lists side by side -/

section

variable {α β : Type} {R : α → β → Prop} {xs : List α} {ys : List β} (h : List.Forall₂ R xs ys)

include h

theorem forall₂_mem_left {x : α} (hx : x ∈ xs) : ∃ y ∈ ys, R x y := by
  induction h with
  | nil => cases hx
  | cons hxy _ ih =>
    cases hx with
    | head => exact ⟨_, List.mem_cons_self .., hxy⟩
    | tail _ hx =>
      obtain ⟨y, hy, hxy⟩ := ih hx
      exact ⟨y, List.mem_cons_of_mem _ hy, hxy⟩

theorem forall₂_mem_right {y : β} (hy : y ∈ ys) : ∃ x ∈ xs, R x y :=
  forall₂_mem_left (R := flip R) h.flip hy

end

namespace Json

/-- White space. -/
def Blank (cs : List Char) : Prop := ∀ c ∈ cs, c = ' ' ∨ c = '\n' ∨ c = '\t' ∨ c = '\r'

theorem blank_nil : Blank [] := List.forall_mem_nil _

/-! ## Numbers -/

/-- A decimal digit. -/
def IsDigit (c : Char) : Prop := 0x30 ≤ c.toNat ∧ c.toNat ≤ 0x39

instance (c : Char) : Decidable (IsDigit c) :=
  inferInstanceAs (Decidable (0x30 ≤ c.toNat ∧ c.toNat ≤ 0x39))

/-- Some decimal digits, at least one. -/
def IsDigits (cs : List Char) : Prop := cs ≠ [] ∧ ∀ c ∈ cs, IsDigit c

/-- The number that decimal digits stand for. -/
def decimalValue (cs : List Char) : Nat := cs.foldl (fun n c => n * 10 + (c.toNat - 0x30)) 0

/-- Digits of which the first is no zero, or a zero alone. -/
def IsInteger (cs : List Char) : Prop := IsDigits cs ∧ (cs.head? = some '0' → cs = ['0'])

/-- The text of a natural number. -/
def IsNatural (n : Nat) (cs : List Char) : Prop := IsInteger cs ∧ decimalValue cs = n

/-- A decimal point with digits after it, or nothing. -/
def IsFraction (cs : List Char) : Prop := cs = [] ∨ ∃ ds, IsDigits ds ∧ cs = '.' :: ds

/-- An exponent, or nothing. -/
def IsExponent (cs : List Char) : Prop :=
  cs = [] ∨ ∃ letter sign ds, (letter = 'e' ∨ letter = 'E')
    ∧ (sign = [] ∨ sign = ['+'] ∨ sign = ['-']) ∧ IsDigits ds ∧ cs = letter :: (sign ++ ds)

/-- A number. -/
def IsNumber (cs : List Char) : Prop :=
  ∃ sign whole fraction exponent, (sign = [] ∨ sign = ['-']) ∧ IsInteger whole
    ∧ IsFraction fraction ∧ IsExponent exponent ∧ cs = sign ++ (whole ++ (fraction ++ exponent))

/-! ## Strings -/

/-- A character that stands for itself between quotes. -/
def IsPlain (c : Char) : Prop := 0x20 ≤ c.toNat ∧ c ≠ '"' ∧ c ≠ '\\'

/-- The escapes of one letter, each with the character that it means. -/
def letterEscapes : List (Char × Char) :=
  [('"', '"'), ('\\', '\\'), ('/', '/'), ('b', '\x08'), ('f', '\x0c'), ('n', '\n'), ('r', '\x0d'),
    ('t', '\t')]

/-- A hexadecimal digit of either case, and its value. -/
def IsHexDigit (d : Nat) (c : Char) : Prop :=
  (d < 10 ∧ c.toNat = 0x30 + d)
    ∨ (10 ≤ d ∧ d < 16 ∧ (c.toNat = 0x61 + (d - 10) ∨ c.toNat = 0x41 + (d - 10)))

/-- Four hexadecimal digits, and the number that they stand for. -/
def IsHex4 (n : Nat) (cs : List Char) : Prop :=
  ∃ d₁ d₂ d₃ d₄ c₁ c₂ c₃ c₄, IsHexDigit d₁ c₁ ∧ IsHexDigit d₂ c₂ ∧ IsHexDigit d₃ c₃
    ∧ IsHexDigit d₄ c₄ ∧ n = ((d₁ * 16 + d₂) * 16 + d₃) * 16 + d₄ ∧ cs = [c₁, c₂, c₃, c₄]

/-- The texts that may stand between quotes for some characters. A character beyond the first plane
can be written as a surrogate pair. -/
inductive Spells : List Char → List Char → Prop where
  | nil : Spells [] []
  | plain {c : Char} {cs text : List Char} :
      IsPlain c → Spells cs text → Spells (c :: cs) (c :: text)
  | letter {l c : Char} {cs text : List Char} :
      (l, c) ∈ letterEscapes → Spells cs text → Spells (c :: cs) ('\\' :: l :: text)
  | code {n : Nat} {x cs text : List Char} :
      IsHex4 n x → n < 0xd800 ∨ 0xe000 ≤ n → Spells cs text →
      Spells (Char.ofNat n :: cs) ('\\' :: 'u' :: (x ++ text))
  | pair {n m : Nat} {x y cs text : List Char} :
      IsHex4 n x → 0xd800 ≤ n → n < 0xdc00 → IsHex4 m y → 0xdc00 ≤ m → m < 0xe000 →
      Spells cs text →
      Spells (Char.ofNat ((n - 0xd800) * 0x400 + (m - 0xdc00) + 0x10000) :: cs)
        ('\\' :: 'u' :: (x ++ '\\' :: 'u' :: (y ++ text)))

/-- The texts that may stand between quotes at all. -/
inductive Quotable : List Char → Prop where
  | nil : Quotable []
  | plain {c : Char} {text : List Char} : IsPlain c → Quotable text → Quotable (c :: text)
  | letter {l c : Char} {text : List Char} :
      (l, c) ∈ letterEscapes → Quotable text → Quotable ('\\' :: l :: text)
  | code {n : Nat} {x text : List Char} :
      IsHex4 n x → Quotable text → Quotable ('\\' :: 'u' :: (x ++ text))

/-- The text of a string. -/
def IsString (s : String) (text : List Char) : Prop :=
  ∃ inside, Spells s.toList inside ∧ text = '"' :: (inside ++ ['"'])

/-! ## Values -/

/-- The text of a truth value. -/
def booleanText : Bool → List Char
  | true => ['t', 'r', 'u', 'e']
  | false => ['f', 'a', 'l', 's', 'e']

/-- The text of the value that is nothing. -/
def nullText : List Char := ['n', 'u', 'l', 'l']

/-- Texts with a comma between any two, and white space around each. -/
inductive Parted : List (List Char) → List Char → Prop where
  | none {b : List Char} : Blank b → Parted [] b
  | one {t b b' : List Char} : Blank b → Blank b' → Parted [t] (b ++ (t ++ b'))
  | more {t u b b' text : List Char} {ts : List (List Char)} :
      Blank b → Blank b' → Parted (u :: ts) text →
      Parted (t :: u :: ts) (b ++ (t ++ (b' ++ ',' :: text)))

/-- A member of an object: what stands between the quotes of its key, and the text of its value. -/
def MemberText (m : List Char × List Char) (text : List Char) : Prop :=
  ∃ b b', Blank b ∧ Blank b' ∧ text = '"' :: (m.1 ++ '"' :: (b ++ ':' :: (b' ++ m.2)))

/-- An object with the given members. -/
def ObjectText (ms : List (List Char × List Char)) (text : List Char) : Prop :=
  ∃ parts inside, List.Forall₂ MemberText ms parts ∧ Parted parts inside
    ∧ text = '\x7b' :: (inside ++ ['\x7d'])

/-- A value of any kind and any depth. -/
inductive IsValue : List Char → Prop where
  | null : IsValue nullText
  | boolean {b : Bool} : IsValue (booleanText b)
  | number {text : List Char} : IsNumber text → IsValue text
  | string {text : List Char} : Quotable text → IsValue ('"' :: (text ++ ['"']))
  | list {ts : List (List Char)} {inside : List Char} :
      Parted ts inside → (∀ t ∈ ts, IsValue t) → IsValue ('[' :: (inside ++ [']']))
  | object {ms : List (List Char × List Char)} {text : List Char} :
      ObjectText ms text → (∀ m ∈ ms, Quotable m.1) → (∀ m ∈ ms, IsValue m.2) → IsValue text

/-- An object whose keys spell names, in the order of its members. -/
def IsObject (ms : List (String × List Char)) (text : List Char) : Prop :=
  ∃ raw, ObjectText raw text
    ∧ List.Forall₂ (fun m r => Spells m.1.toList r.1 ∧ m.2 = r.2) ms raw

/-- The text of a record: an object with the known members `ms`, in that order, and any others of
any kind before, between and after them. -/
def IsRecord {μ : Type} (known : List String) (name : μ → String) (IsText : μ → List Char → Prop)
    (ms : List μ) (text : List Char) : Prop :=
  ∃ all, IsObject all text ∧ (∀ r ∈ all, r.1 ∉ known → IsValue r.2)
    ∧ List.Forall₂ (fun m r => r.1 = name m ∧ IsText m r.2) ms (all.filter fun r => r.1 ∈ known)

end Json

end TunnelHost
