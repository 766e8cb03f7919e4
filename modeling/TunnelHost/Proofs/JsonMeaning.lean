import TunnelHost.Proofs.JsonSkipping
import TunnelHost.Proofs.JsonWriting

/-!
# What JSON texts mean

The grammar gives a text at most one meaning: where an element of a list or a member of an object
ends does not depend on who reads it, because a text that is passed over as a value ends there. So a
value that is written, in either layout, is the one value that its text means.

- `Means`: a text means a value. Numbers are integers, and members keep their order.
- `MeansSpec`, `means_spec`: the texts of a value, by its shape.
- `Kind`, `Means.kind_eq`: the first character of a text tells the kind of what it means.
- `Delimited`: texts of which it is settled where they end.
- `Delimited.parted_unique`, `IsObject.unique`: there is one way to part a text.
- `Means.unique`: a text means at most one value.
- `means_write`, `means_write_iff`: what is written means what was written, and nothing else.
-/

namespace TunnelHost.Json

/-! ## Values -/

/-- Induction on values, with the elements of a list and the values of an object at hand. -/
theorem Value.induct {P : Value → Prop} (null : P .null) (boolean : ∀ b, P (.boolean b))
    (integer : ∀ n, P (.integer n)) (string : ∀ s, P (.string s))
    (list : ∀ items : List Value, (∀ v ∈ items, P v) → P (.list items))
    (object : ∀ ms : List (String × Value), (∀ m ∈ ms, P m.2) → P (.object ms)) (v : Value) :
    P v := by
  refine @Value.rec P (fun vs => ∀ v ∈ vs, P v) (fun ms => ∀ m ∈ ms, P m.2) (fun m => P m.2)
    null boolean integer string list object ?_ ?_ ?_ ?_ ?_ v
  · exact List.forall_mem_nil _
  · exact fun v vs hv hvs => List.forall_mem_cons.mpr ⟨hv, hvs⟩
  · exact List.forall_mem_nil _
  · exact fun m ms hm hms => List.forall_mem_cons.mpr ⟨hm, hms⟩
  · exact fun _ _ hv => hv

/-- A text means a value. -/
inductive Means : Value → List Char → Prop where
  | null : Means .null nullText
  | boolean (b : Bool) : Means (.boolean b) (booleanText b)
  | natural {n : Nat} {text : List Char} : IsNatural n text → Means (.integer n) text
  | negative {n : Nat} {text : List Char} : IsNatural n text → Means (.integer (-n)) ('-' :: text)
  | string {s : String} {text : List Char} : IsString s text → Means (.string s) text
  | list {items : List (Value × List Char)} {inside : List Char} :
      Parted (items.map fun i => i.2) inside → (∀ i ∈ items, Means i.1 i.2) →
      Means (.list (items.map fun i => i.1)) ('[' :: (inside ++ [']']))
  | object {members : List (String × Value × List Char)} {text : List Char} :
      IsObject (members.map fun m => (m.1, m.2.2)) text → (∀ m ∈ members, Means m.2.1 m.2.2) →
      Means (.object (members.map fun m => (m.1, m.2.1))) text

/-- The texts of a value, by its shape. -/
def MeansSpec : Value → List Char → Prop
  | .null, text => text = nullText
  | .boolean b, text => text = booleanText b
  | .integer n, text => (∃ m : Nat, n = m ∧ IsNatural m text)
      ∨ ∃ (m : Nat) (ds : List Char), n = -m ∧ IsNatural m ds ∧ text = '-' :: ds
  | .string s, text => IsString s text
  | .list vs, text => ∃ items : List (Value × List Char), ∃ inside,
      vs = items.map (fun i => i.1) ∧ Parted (items.map fun i => i.2) inside
        ∧ (∀ i ∈ items, Means i.1 i.2) ∧ text = '[' :: (inside ++ [']'])
  | .object ms, text => ∃ members : List (String × Value × List Char),
      ms = members.map (fun m => (m.1, m.2.1)) ∧ IsObject (members.map fun m => (m.1, m.2.2)) text
        ∧ ∀ m ∈ members, Means m.2.1 m.2.2

/-- The kind of a value tells what its texts look like. -/
theorem means_spec {v : Value} {text : List Char} (h : Means v text) : MeansSpec v text := by
  cases h with
  | null => exact rfl
  | boolean b => exact rfl
  | natural h => exact .inl ⟨_, rfl, h⟩
  | negative h => exact .inr ⟨_, _, rfl, h, rfl⟩
  | string h => exact h
  | list h hitems => exact ⟨_, _, rfl, h, hitems, rfl⟩
  | object h hmembers => exact ⟨_, rfl, h, hmembers⟩

/-! ## Texts of values are texts of the grammar -/

/-- A natural number is a number, with a sign or without. -/
theorem IsNatural.isNumber {n : Nat} {text : List Char} (h : IsNatural n text) (sign : List Char)
    (hsign : sign = [] ∨ sign = ['-']) : IsNumber (sign ++ text) :=
  ⟨sign, text, [], [], hsign, h.1, .inl rfl, .inl rfl, by simp⟩

/-- What spells something may stand between quotes. -/
theorem Spells.quotable {cs inside : List Char} (h : Spells cs inside) : Quotable inside := by
  induction h with
  | nil => exact .nil
  | plain hc _ ih => exact .plain hc ih
  | letter hl _ ih => exact .letter hl ih
  | code hx _ _ ih => exact .code hx ih
  | pair hx _ _ hy _ _ _ ih => exact .code hx (.code hy ih)

theorem IsString.isValue {s : String} {text : List Char} (h : IsString s text) : IsValue text := by
  obtain ⟨inside, hspells, rfl⟩ := h
  exact .string hspells.quotable

/-- An object with values for its members is a value. -/
theorem IsObject.isValue {ms : List (String × List Char)} {text : List Char} (h : IsObject ms text)
    (hvalues : ∀ m ∈ ms, IsValue m.2) : IsValue text := by
  obtain ⟨raw, hraw, hms⟩ := h
  refine .object hraw ?_ ?_
  · intro r hr
    obtain ⟨m, -, hspells, -⟩ := forall₂_mem_right hms hr
    exact hspells.quotable
  · intro r hr
    obtain ⟨m, hm, -, hvalue⟩ := forall₂_mem_right hms hr
    exact hvalue ▸ hvalues m hm

/-- A text that means something is a value of the grammar. -/
theorem Means.isValue {v : Value} {text : List Char} (h : Means v text) : IsValue text := by
  induction h with
  | null => exact .null
  | boolean => exact .boolean
  | natural h => exact .number (h.isNumber [] (.inl rfl))
  | negative h => exact .number (h.isNumber ['-'] (.inr rfl))
  | string h => exact h.isValue
  | list h _ ih =>
    refine .list h fun t ht => ?_
    obtain ⟨i, hi, rfl⟩ := List.mem_map.mp ht
    exact ih i hi
  | object h _ ih =>
    refine h.isValue fun m hm => ?_
    obtain ⟨i, hi, rfl⟩ := List.mem_map.mp hm
    exact ih i hi

/-! ## Kinds -/

/-- The kinds of values. -/
inductive Kind where
  | null
  | boolean
  | number
  | string
  | list
  | object
  deriving DecidableEq, Repr

/-- The kind of a value. -/
def Value.kind : Value → Kind
  | .null => .null
  | .boolean _ => .boolean
  | .integer _ => .number
  | .string _ => .string
  | .list _ => .list
  | .object _ => .object

/-- A value, by its kind. -/
def Value.KindSpec (v : Value) : Kind → Prop
  | .null => v = .null
  | .boolean => ∃ b, v = .boolean b
  | .number => ∃ n, v = .integer n
  | .string => ∃ s, v = .string s
  | .list => ∃ vs, v = .list vs
  | .object => ∃ ms, v = .object ms

theorem Value.kind_spec (v : Value) : v.KindSpec v.kind := by
  cases v with
  | null => exact rfl
  | boolean b => exact ⟨b, rfl⟩
  | integer n => exact ⟨n, rfl⟩
  | string s => exact ⟨s, rfl⟩
  | list vs => exact ⟨vs, rfl⟩
  | object ms => exact ⟨ms, rfl⟩

/-- The kind of the values whose texts start with a character. -/
def Kind.ofChar (c : Char) : Kind :=
  if c = 'n' then .null
  else if c = 't' ∨ c = 'f' then .boolean
  else if c = '"' then .string
  else if c = '[' then .list
  else if c = '\x7b' then .object
  else .number

/-- Numbers start with digits, and nothing else does. -/
theorem Kind.ofChar_of_isDigit {c : Char} (h : IsDigit c) : ofChar c = .number := by
  have hne : ∀ c', ¬ IsDigit c' → c ≠ c' := by
    rintro c' hc' rfl
    exact hc' h
  rw [ofChar, if_neg (hne 'n' (by decide)), if_neg, if_neg (hne '"' (by decide)),
    if_neg (hne '[' (by decide)), if_neg (hne '\x7b' (by decide))]
  exact not_or.mpr ⟨hne 't' (by decide), hne 'f' (by decide)⟩

/-- A natural number starts with a digit. -/
theorem IsNatural.exists_digit {n : Nat} {text : List Char} (h : IsNatural n text) :
    ∃ c cs, text = c :: cs ∧ IsDigit c := by
  cases text with
  | nil => exact absurd rfl h.1.1.1
  | cons c cs => exact ⟨c, cs, rfl, h.1.1.2 c (List.mem_cons_self ..)⟩

/-- The first character of a text tells the kind of its value. -/
theorem Means.first {v : Value} {text : List Char} (h : Means v text) :
    ∃ c cs, text = c :: cs ∧ Kind.ofChar c = v.kind := by
  cases h with
  | null => exact ⟨_, _, rfl, rfl⟩
  | boolean b =>
    cases b with
    | true => exact ⟨_, _, rfl, rfl⟩
    | false => exact ⟨_, _, rfl, rfl⟩
  | natural h =>
    obtain ⟨c, cs, rfl, hc⟩ := h.exists_digit
    exact ⟨c, cs, rfl, Kind.ofChar_of_isDigit hc⟩
  | negative _ => exact ⟨_, _, rfl, rfl⟩
  | string h =>
    obtain ⟨inside, -, rfl⟩ := h
    exact ⟨_, _, rfl, rfl⟩
  | list _ _ => exact ⟨_, _, rfl, rfl⟩
  | object h _ =>
    obtain ⟨raw, ⟨parts, inside, -, -, rfl⟩, -⟩ := h
    exact ⟨_, _, rfl, rfl⟩

/-- Two values with one text are of one kind. -/
theorem Means.kind_eq {v w : Value} {text : List Char} (hv : Means v text) (hw : Means w text) :
    v.kind = w.kind := by
  obtain ⟨c, cs, rfl, hc⟩ := hv.first
  obtain ⟨c', cs', htext, hc'⟩ := hw.first
  cases htext
  rw [← hc, ← hc']

/-- What the other value of a text is like, by the kind of the one. -/
theorem Means.other {v w : Value} {text : List Char} (hv : Means v text) (hw : Means w text) :
    w.KindSpec v.kind := by
  rw [hv.kind_eq hw]
  exact w.kind_spec

/-! ## Where texts end -/

/-- Texts that do not start with white space and that something passes over to their end, whatever
may follow. -/
structure Delimited (P : List Char → Prop) (skip : List Char → Except Fault (List Char)) : Prop where
  starts : ∀ {text : List Char}, P text → ∃ c cs, text = c :: cs ∧ isSpace c = false
  skips : ∀ {text b rest : List Char}, P text → Blank b → Ends rest →
    skip (b ++ (text ++ rest)) = .ok rest

theorem blanks_of_blank_append {b text : List Char} (hb : Blank b)
    (htext : ∃ c cs, text = c :: cs ∧ isSpace c = false) : blanks (b ++ text) = text := by
  obtain ⟨c, cs, rfl, hc⟩ := htext
  exact blanks_append_cons hb hc cs

/-- Values can be told from what follows them. -/
theorem delimited_isValue : Delimited IsValue skipValue where
  starts h := by
    obtain ⟨c, cs, htext, hc, -⟩ := h.starts
    exact ⟨c, cs, htext, hc⟩
  skips h hb hrest := skipValue_of_isValue h hb hrest

/-- A member of an object whose key and value are in the grammar. -/
def IsMember (m : List Char × List Char) (text : List Char) : Prop :=
  MemberText m text ∧ Quotable m.1 ∧ IsValue m.2

theorem delimited_isMember :
    Delimited (fun text => ∃ m, IsMember m text) fun cs => skipKey cs >>= skipValue where
  starts h := by
    obtain ⟨m, ⟨b, b', -, -, rfl⟩, -⟩ := h
    exact ⟨_, _, rfl, by decide⟩
  skips h hb hrest := by
    obtain ⟨m, hmember, hkey, hvalue⟩ := h
    obtain ⟨b', hb', hskip, -⟩ := skipKey_append hb hmember hkey _
    rw [hskip]
    exact skipValue_of_isValue hvalue hb' hrest

namespace Delimited

variable {P : List Char → Prop} {skip : List Char → Except Fault (List Char)} (h : Delimited P skip)

include h

/-- Where one text is followed by another, there is one place to cut. -/
theorem cut {t t' b b' rest rest' : List Char} (ht : P t) (ht' : P t') (hb : Blank b)
    (hb' : Blank b') (hrest : Ends rest) (hrest' : Ends rest')
    (heq : b ++ (t ++ rest) = b' ++ (t' ++ rest')) : t = t' ∧ rest = rest' := by
  have hskip := h.skips ht hb hrest
  rw [heq, h.skips ht' hb' hrest', Except.ok.injEq] at hskip
  subst hskip
  rw [← List.append_assoc, ← List.append_assoc, List.append_cancel_right_eq] at heq
  refine ⟨?_, rfl⟩
  rw [← blanks_of_blank_append hb (h.starts ht), heq, blanks_of_blank_append hb' (h.starts ht')]

theorem not_blank {t b rest : List Char} (ht : P t) : ¬ Blank (b ++ (t ++ rest)) := by
  intro hblank
  obtain ⟨c, cs, rfl, hc⟩ := h.starts ht
  have hspace := isSpace_iff.mpr (hblank c (by simp))
  rw [hc] at hspace
  cases hspace

/-- There is one way to part a text at its commas: by induction along one way, which cuts off the
same first part as the other. -/
theorem parted_unique {ts ts' : List (List Char)} {inside inside' : List Char}
    (hparted : Parted ts inside) (hparted' : Parted ts' inside') (heq : inside = inside')
    (hts : ∀ t ∈ ts, P t) (hts' : ∀ t ∈ ts', P t) : ts = ts' := by
  have hcomma {b text : List Char} : ¬ Blank (b ++ ',' :: text) := by
    intro hblank
    have hspace := isSpace_iff.mpr (hblank ',' (by simp))
    exact absurd hspace (by decide)
  induction hparted generalizing ts' inside' with
  | none hb =>
    cases hparted' with
    | none _ => rfl
    | one _ _ => exact absurd (heq ▸ hb) (h.not_blank (hts' _ (List.mem_cons_self ..)))
    | more _ _ _ => exact absurd (heq ▸ hb) (h.not_blank (hts' _ (List.mem_cons_self ..)))
  | @one t b c hb hc =>
    have ht := hts t (List.mem_cons_self ..)
    cases hparted' with
    | none hb' => exact absurd (heq ▸ hb') (h.not_blank ht)
    | @one t' b' c' hb' hc' =>
      have hcut := h.cut ht (hts' t' (List.mem_cons_self ..)) hb hb' (ends_of_blank hc)
        (ends_of_blank hc') heq
      rw [hcut.1]
    | @more t' u' b' c' text' us' hb' hc' hmore' =>
      -- what is left is blank by the one way and has a comma by the other
      have hcut := h.cut ht (hts' t' (List.mem_cons_self ..)) hb hb' (ends_of_blank hc)
        (ends_append hc' (ends_comma text')) heq
      exact absurd (hcut.2 ▸ hc) hcomma
  | @more t u b c text us hb hc hmore ih =>
    have ht := hts t (List.mem_cons_self ..)
    cases hparted' with
    | none hb' => exact absurd (heq ▸ hb') (h.not_blank ht)
    | @one t' b' c' hb' hc' =>
      have hcut := h.cut ht (hts' t' (List.mem_cons_self ..)) hb hb'
        (ends_append hc (ends_comma text)) (ends_of_blank hc') heq
      exact absurd (hcut.2 ▸ hc') hcomma
    | @more t' u' b' c' text' us' hb' hc' hmore' =>
      obtain ⟨rfl, hrest⟩ := h.cut ht (hts' t' (List.mem_cons_self ..)) hb hb'
        (ends_append hc (ends_comma text)) (ends_append hc' (ends_comma text')) heq
      have hafter : text = text' := by
        have hblanks := congrArg blanks hrest
        rw [blanks_append_cons hc (by decide), blanks_append_cons hc' (by decide)] at hblanks
        exact (List.cons.inj hblanks).2
      rw [ih hmore' hafter (fun s hs => hts s (List.mem_cons_of_mem _ hs))
        (fun s hs => hts' s (List.mem_cons_of_mem _ hs))]

end Delimited

/-! ## One meaning for a text -/

theorem IsNatural.unique {n m : Nat} {text : List Char} (h : IsNatural n text)
    (h' : IsNatural m text) : n = m :=
  h.2.symm.trans h'.2

theorem booleanText_inj {b b' : Bool} (h : booleanText b = booleanText b') : b = b' := by
  revert b b'
  decide

/-- What stands between quotes spells one text only. -/
theorem Spells.unique {cs ds inside : List Char} (h : Spells cs inside) (h' : Spells ds inside) :
    cs = ds := by
  have hread := string_of_spells h []
  rw [string_of_spells h' [], Except.ok.injEq, Prod.mk.injEq] at hread
  exact hread.1.symm

theorem IsString.unique {s t : String} {text : List Char} (h : IsString s text)
    (h' : IsString t text) : s = t := by
  obtain ⟨inside, hspells, rfl⟩ := h
  obtain ⟨inside', hspells', htext⟩ := h'
  rw [List.cons.injEq, List.append_cancel_right_eq] at htext
  obtain ⟨-, rfl⟩ := htext
  exact String.toList_inj.mp (hspells.unique hspells')

/-- A member has one key and one value. -/
theorem IsMember.unique {m n : List Char × List Char} {text : List Char} (hm : IsMember m text)
    (hn : IsMember n text) : m = n := by
  obtain ⟨⟨b, b', hb, hb', rfl⟩, hkey, hvalue⟩ := hm
  obtain ⟨⟨c, c', hc, hc', htext⟩, hkey', hvalue'⟩ := hn
  have htext := (List.cons.inj htext).2
  -- both keys end where a reader of strings stops, and both values begin behind the colon
  have hafter := skipString_of_quotable hkey (b ++ ':' :: (b' ++ m.2))
  rw [htext, skipString_of_quotable hkey', Except.ok.injEq] at hafter
  rw [hafter, List.append_cancel_right_eq] at htext
  have hcolon := colon_append hb (b' ++ m.2)
  rw [← hafter, colon_append hc, Except.ok.injEq] at hcolon
  refine Prod.ext htext ?_
  rw [← blanks_of_blank_append hb' (delimited_isValue.starts hvalue), ← hcolon,
    blanks_of_blank_append hc' (delimited_isValue.starts hvalue')]

/-- An object has its members in one way only. -/
theorem ObjectText.unique {ms ns : List (List Char × List Char)} {text : List Char}
    (hms : ObjectText ms text) (hns : ObjectText ns text)
    (hgood : ∀ m ∈ ms, Quotable m.1 ∧ IsValue m.2) (hgood' : ∀ n ∈ ns, Quotable n.1 ∧ IsValue n.2) :
    ms = ns := by
  obtain ⟨parts, inside, hparts, hparted, rfl⟩ := hms
  obtain ⟨parts', inside', hparts', hparted', htext⟩ := hns
  have hinside : inside = inside' := List.append_cancel_right (List.cons.inj htext).2
  have hmembers : List.Forall₂ IsMember ms parts :=
    ((List.forall₂_and_left ms parts).mpr ⟨hgood, hparts⟩).imp fun _ _ h => ⟨h.2, h.1⟩
  have hmembers' : List.Forall₂ IsMember ns parts' :=
    ((List.forall₂_and_left ns parts').mpr ⟨hgood', hparts'⟩).imp fun _ _ h => ⟨h.2, h.1⟩
  -- members are delimited, so the commas between them can only be read in one way
  have hsame : parts = parts' := by
    refine delimited_isMember.parted_unique hparted hparted' hinside ?_ ?_
    · intro part hpart
      obtain ⟨m, -, hm⟩ := forall₂_mem_right hmembers hpart
      exact ⟨m, hm⟩
    · intro part hpart
      obtain ⟨m, -, hm⟩ := forall₂_mem_right hmembers' hpart
      exact ⟨m, hm⟩
  subst hsame
  exact List.left_unique_forall₂' (fun _ _ _ h h' => h.unique h') hmembers hmembers'

/-- An object has one list of members. -/
theorem IsObject.unique {ms ns : List (String × List Char)} {text : List Char}
    (hms : IsObject ms text) (hns : IsObject ns text) (hvalues : ∀ m ∈ ms, IsValue m.2)
    (hvalues' : ∀ n ∈ ns, IsValue n.2) : ms = ns := by
  have hgood {ms : List (String × List Char)} {raw : List (List Char × List Char)}
      (hvalues : ∀ m ∈ ms, IsValue m.2)
      (h : List.Forall₂ (fun m r => Spells m.1.toList r.1 ∧ m.2 = r.2) ms raw) :
      ∀ r ∈ raw, Quotable r.1 ∧ IsValue r.2 := by
    intro r hr
    obtain ⟨m, hm, hspells, hvalue⟩ := forall₂_mem_right h hr
    exact ⟨hspells.quotable, hvalue ▸ hvalues m hm⟩
  obtain ⟨raw, hraw, hspelled⟩ := hms
  obtain ⟨raw', hraw', hspelled'⟩ := hns
  have hsame := hraw.unique hraw' (hgood hvalues hspelled) (hgood hvalues' hspelled')
  subst hsame
  refine List.left_unique_forall₂' ?_ hspelled hspelled'
  rintro ⟨s, t⟩ ⟨s', t'⟩ r ⟨hs, ht⟩ ⟨hs', ht'⟩
  exact Prod.ext (String.toList_inj.mp (hs.unique hs')) (ht.trans ht'.symm)

/-- Two lists that agree in one respect agree in all that is settled by it. -/
theorem map_eq_of_map_eq {α β γ : Type} {f : α → β} {g : α → γ} {xs ys : List α}
    (hsettled : ∀ x ∈ xs, ∀ y ∈ ys, f x = f y → g x = g y) (h : xs.map f = ys.map f) :
    xs.map g = ys.map g := by
  induction xs generalizing ys with
  | nil =>
    cases ys with
    | nil => rfl
    | cons y ys => cases h
  | cons x xs ih =>
    cases ys with
    | nil => cases h
    | cons y ys =>
      rw [List.map_cons, List.map_cons, List.cons.injEq] at h ⊢
      refine ⟨hsettled x (List.mem_cons_self ..) y (List.mem_cons_self ..) h.1, ih ?_ h.2⟩
      exact fun x hx y hy => hsettled x (List.mem_cons_of_mem _ hx) y (List.mem_cons_of_mem _ hy)

/-- **A text means at most one value.** By induction on the first meaning; the second is of the same
kind, and has its parts at the same places. -/
theorem Means.unique {v w : Value} {text : List Char} (hv : Means v text) (hw : Means w text) :
    v = w := by
  induction hv generalizing w with
  | null =>
    have hother : w = .null := Means.null.other hw
    exact hother.symm
  | boolean b =>
    obtain ⟨b', rfl⟩ := (Means.boolean b).other hw
    rw [booleanText_inj (means_spec hw)]
  | natural h =>
    obtain ⟨n', rfl⟩ := (Means.natural h).other hw
    rcases means_spec hw with ⟨m, rfl, hm⟩ | ⟨m, ds, -, -, rfl⟩
    · rw [h.unique hm]
    · -- a sign is no digit
      obtain ⟨c, cs, htext, hc⟩ := h.exists_digit
      cases htext
      exact absurd hc (by decide)
  | negative h =>
    obtain ⟨n', rfl⟩ := (Means.negative h).other hw
    rcases means_spec hw with ⟨m, rfl, hm⟩ | ⟨m, ds, rfl, hm, htext⟩
    · obtain ⟨c, cs, htext, hc⟩ := hm.exists_digit
      cases htext
      exact absurd hc (by decide)
    · cases htext
      rw [h.unique hm]
  | string h =>
    obtain ⟨s', rfl⟩ := (Means.string h).other hw
    rw [h.unique (means_spec hw)]
  | list h hitems ih =>
    obtain ⟨ws, rfl⟩ := (Means.list h hitems).other hw
    obtain ⟨items', inside', rfl, h', hitems', htext⟩ := means_spec hw
    have hinside := List.append_cancel_right (List.cons.inj htext).2
    have htexts := delimited_isValue.parted_unique h h' hinside
      (List.forall_mem_map.mpr fun i hi => (hitems i hi).isValue)
      (List.forall_mem_map.mpr fun i hi => (hitems' i hi).isValue)
    -- the same texts stand at the same places, so the induction hypothesis settles the values
    refine congrArg Value.list (map_eq_of_map_eq (fun i hi j hj hij => ?_) htexts)
    have hj := hitems' j hj
    rw [← hij] at hj
    exact ih i hi hj
  | object h hmembers ih =>
    obtain ⟨ms, rfl⟩ := (Means.object h hmembers).other hw
    obtain ⟨members', rfl, h', hmembers'⟩ := means_spec hw
    have htexts := h.unique h' (List.forall_mem_map.mpr fun m hm => (hmembers m hm).isValue)
      (List.forall_mem_map.mpr fun m hm => (hmembers' m hm).isValue)
    refine congrArg Value.object (map_eq_of_map_eq (fun m hm n hn hmn => ?_) htexts)
    obtain ⟨hname, htext⟩ := Prod.mk.inj hmn
    exact Prod.ext hname (ih m hm (htext ▸ hmembers' n hn))

/-! ## What is written -/

/-- The items of a list are written with commas between them, in either layout. -/
theorem parted_writeItems (layout : Layout) (depth : Nat) {b : List Char} (hb : Blank b) (v : Value)
    (vs : List Value) :
    Parted ((v :: vs).map fun w => w.write layout depth)
      (layout.startLine depth ++ (v.write layout depth ++ (writeItems layout depth vs ++ b))) := by
  induction vs generalizing v with
  | nil =>
    rw [writeItems, List.nil_append]
    exact .one (blank_startLine layout depth) hb
  | cons w vs ih =>
    have hmore := Parted.more (t := v.write layout depth) (blank_startLine layout depth)
      blank_nil (ih w)
    simpa [writeItems] using hmore

/-- An integer is written as JSON writes it, with its sign. -/
theorem means_decimalInt (n : Int) : Means (.integer n) (Numeral.decimalInt n).toList := by
  cases n with
  | ofNat n =>
    rw [Numeral.decimalInt, Numeral.decimal, String.toList_ofList]
    exact .natural (isNatural_digits n)
  | negSucc n =>
    simp only [Numeral.decimalInt, Numeral.decimal, String.toList_append, String.toList_ofList]
    exact Means.negative (isNatural_digits (n + 1))

/-- A list means its items if each of them means what it should. -/
theorem means_write_list (layout : Layout) (depth : Nat) {vs : List Value}
    (hvs : ∀ v ∈ vs, Means v (v.write layout (depth + 1))) :
    Means (.list vs) ((Value.list vs).write layout depth) := by
  let items := vs.map fun v => (v, v.write layout (depth + 1))
  have hitems : ∀ i ∈ items, Means i.1 i.2 := List.forall_mem_map.mpr hvs
  have htexts : items.map (fun i => i.2) = vs.map fun v => v.write layout (depth + 1) :=
    List.map_map
  have hvalues : items.map (fun i => i.1) = vs := by
    rw [List.map_map]
    exact List.map_id vs
  -- an empty list is written without an inner line
  cases vs with
  | nil =>
    have hparted : Parted (items.map fun i => i.2) [] := .none blank_nil
    exact Means.list hparted hitems
  | cons v vs =>
    have hparted := parted_writeItems layout (depth + 1) (blank_startLine layout depth) v vs
    rw [← htexts] at hparted
    have hlist := Means.list hparted hitems
    rw [hvalues] at hlist
    simpa [Value.write] using hlist

/-- What is written, in either layout and inside any containers, means what was written. -/
theorem means_write (v : Value) (layout : Layout) (depth : Nat) :
    Means v (v.write layout depth) := by
  induction v using Value.induct generalizing depth with
  | null => exact .null
  | boolean b =>
    cases b with
    | true => exact .boolean true
    | false => exact .boolean false
  | integer n => exact means_decimalInt n
  | string s => exact .string (isString_quote s)
  | list vs ih => exact means_write_list layout depth fun v hv => ih v hv (depth + 1)
  | object ms ih =>
    -- each member with its value and with its text, one level further in
    let members := ms.map fun m => (m.1, m.2, m.2.write layout (depth + 1))
    have hmembers : ∀ m ∈ members, Means m.2.1 m.2.2 :=
      List.forall_mem_map.mpr fun m hm => ih m hm (depth + 1)
    have hwritten : IsObject (members.map fun m => (m.1, m.2.2))
        ((Value.object ms).write layout depth) := by
      rw [List.map_map]
      exact isObject_write layout depth ms
    have hvalues : members.map (fun m => (m.1, m.2.1)) = ms := by
      rw [List.map_map]
      exact List.map_id ms
    have hobject := Means.object hwritten hmembers
    rw [hvalues] at hobject
    exact hobject

/-- What is written means nothing else. -/
theorem means_write_iff {v w : Value} {layout : Layout} {depth : Nat} :
    Means w (v.write layout depth) ↔ w = v := by
  constructor
  · exact fun h => h.unique (means_write v layout depth)
  · rintro rfl
    exact means_write w layout depth

end TunnelHost.Json
