import TunnelHost.Text.Blank

/-!
# What is left without blanks

Dropping blanks at both ends is pinned down by what is left: the text is that with nothing but
blanks around it, and it neither starts nor ends with a blank. Blanks inside stay.

- `Trims`: this description.
- `trimChars_eq_iff`: the program keeps to it, and nothing else does.
- `trimChars_spaced`: blanks around a text do not matter.
-/

namespace TunnelHost.Text

/-- Only blanks. -/
def AllBlank (cs : List Char) : Prop := ∀ c ∈ cs, isBlank c = true

/-- `core` is `cs` without the blanks at its two ends. -/
structure Trims (cs core : List Char) : Prop where
  around : ∃ front back, AllBlank front ∧ AllBlank back ∧ cs = front ++ core ++ back
  first : ∀ c ∈ core.head?, isBlank c = false
  last : ∀ c ∈ core.getLast?, isBlank c = false

/-! ## At the start -/

theorem dropWhile_isBlank_append {front rest : List Char} (hfront : AllBlank front)
    (hrest : ∀ c ∈ rest.head?, isBlank c = false) : (front ++ rest).dropWhile isBlank = rest := by
  induction front with
  | nil =>
    cases rest with
    | nil => rfl
    | cons c cs => rw [List.nil_append, List.dropWhile_cons, hrest c rfl, if_neg Bool.false_ne_true]
  | cons c front ih =>
    obtain ⟨hc, hfront⟩ := List.forall_mem_cons.mp hfront
    rw [List.cons_append, List.dropWhile_cons, if_pos hc, ih hfront]

/-- What is dropped in front is blank, and what is left does not begin with a blank. -/
theorem dropWhile_isBlank_split (cs : List Char) :
    ∃ front, AllBlank front ∧ cs = front ++ cs.dropWhile isBlank ∧
      ∀ c ∈ (cs.dropWhile isBlank).head?, isBlank c = false := by
  induction cs with
  | nil => exact ⟨[], List.forall_mem_nil _, rfl, fun c hc => by cases hc⟩
  | cons c cs ih =>
    by_cases hc : isBlank c = true
    · obtain ⟨front, hfront, hcs, hfirst⟩ := ih
      rw [List.dropWhile_cons, if_pos hc]
      exact ⟨c :: front, List.forall_mem_cons.mpr ⟨hc, hfront⟩, congrArg (c :: ·) hcs, hfirst⟩
    · rw [List.dropWhile_cons, if_neg hc]
      refine ⟨[], List.forall_mem_nil _, rfl, ?_⟩
      intro d hd
      cases hd
      exact Bool.eq_false_iff.mpr hc

/-! ## At the end -/

theorem dropBlankEnd_eq_nil {cs : List Char} (h : AllBlank cs) : dropBlankEnd cs = [] := by
  induction cs with
  | nil => rfl
  | cons c cs ih =>
    obtain ⟨hc, hcs⟩ := List.forall_mem_cons.mp h
    rw [dropBlankEnd, ih hcs, hc]
    rfl

/-- The blanks at the end go, up to the last character that is none. -/
theorem dropBlankEnd_append {core back : List Char} (hback : AllBlank back)
    (hlast : ∀ c ∈ core.getLast?, isBlank c = false) : dropBlankEnd (core ++ back) = core := by
  induction core with
  | nil => exact dropBlankEnd_eq_nil hback
  | cons c core ih =>
    rw [List.cons_append, dropBlankEnd]
    cases core with
    | nil =>
      rw [List.nil_append, dropBlankEnd_eq_nil hback]
      dsimp only
      rw [hlast c rfl, if_neg Bool.false_ne_true]
    | cons d core =>
      rw [ih fun e he => hlast e (by rw [List.getLast?_cons_cons]; exact he)]

/-- What is dropped at the end is blank, and what is left does not end with a blank. -/
theorem dropBlankEnd_split (cs : List Char) :
    ∃ back, AllBlank back ∧ cs = dropBlankEnd cs ++ back ∧
      ∀ c ∈ (dropBlankEnd cs).getLast?, isBlank c = false := by
  induction cs with
  | nil => exact ⟨[], List.forall_mem_nil _, rfl, fun c hc => by cases hc⟩
  | cons c cs ih =>
    obtain ⟨back, hback, hcs, hlast⟩ := ih
    rw [dropBlankEnd]
    cases hrest : dropBlankEnd cs with
    -- nothing but blanks follows, so that `c` decides
    | nil =>
      rw [hrest, List.nil_append] at hcs
      dsimp only
      split
      · next hc => exact ⟨c :: back, List.forall_mem_cons.mpr ⟨hc, hback⟩, by rw [hcs]; rfl,
          fun d hd => by cases hd⟩
      · next hc =>
        refine ⟨back, hback, by rw [hcs]; rfl, ?_⟩
        intro d hd
        cases hd
        exact Bool.eq_false_iff.mpr hc
    | cons d rest =>
      rw [hrest] at hcs hlast
      refine ⟨back, hback, congrArg (c :: ·) hcs, ?_⟩
      intro e he
      rw [List.getLast?_cons_cons] at he
      exact hlast e he

/-! ## At both -/

/-- Trimming takes the blanks away at both ends, and no more. -/
theorem trims_trimChars (cs : List Char) : Trims cs (trimChars cs) := by
  obtain ⟨front, hfront, hcs, hfirst⟩ := dropWhile_isBlank_split cs
  obtain ⟨back, hback, hrest, hlast⟩ := dropBlankEnd_split (cs.dropWhile isBlank)
  refine ⟨⟨front, back, hfront, hback, ?_⟩, ?_, hlast⟩
  · rw [trimChars, List.append_assoc, ← hrest]
    exact hcs
  · intro c hc
    refine hfirst c ?_
    rw [hrest]
    rw [trimChars] at hc
    cases hcore : dropBlankEnd (cs.dropWhile isBlank) with
    | nil =>
      rw [hcore] at hc
      cases hc
    | cons d core =>
      rw [hcore] at hc
      exact hc

/-- What is left is what the description says. -/
theorem trimChars_eq_iff {cs core : List Char} : trimChars cs = core ↔ Trims cs core := by
  constructor
  · intro h
    rw [← h]
    exact trims_trimChars cs
  · rintro ⟨⟨front, back, hfront, hback, rfl⟩, hfirst, hlast⟩
    -- what is only blanks goes at the start already
    by_cases hcore : core = []
    · subst hcore
      have hall : AllBlank (front ++ [] ++ back) := by
        rw [List.append_nil]
        exact List.forall_mem_append.mpr ⟨hfront, hback⟩
      have hdrop : (front ++ [] ++ back ++ []).dropWhile isBlank = [] :=
        dropWhile_isBlank_append hall fun c hc => by cases hc
      rw [List.append_nil] at hdrop
      rw [trimChars, hdrop]
      rfl
    · obtain ⟨c, rest, rfl⟩ := List.exists_cons_of_ne_nil hcore
      have hdrop : (front ++ (c :: rest ++ back)).dropWhile isBlank = c :: rest ++ back :=
        dropWhile_isBlank_append hfront hfirst
      rw [trimChars, List.append_assoc, hdrop, dropBlankEnd_append hback hlast]

/-! ## Texts with blanks around them -/

section

variable {a : List Char}

/-- Nothing is left if there was nothing but blanks. -/
theorem trimChars_eq_nil_iff : trimChars a = [] ↔ AllBlank a := by
  rw [trimChars_eq_iff]
  constructor
  · rintro ⟨⟨front, back, hfront, hback, rfl⟩, -, -⟩
    rw [List.append_nil]
    exact List.forall_mem_append.mpr ⟨hfront, hback⟩
  · intro h
    have hnone : ∀ c ∈ (none : Option Char), isBlank c = false := fun _ hc => nomatch hc
    exact ⟨⟨a, [], h, List.forall_mem_nil _, by simp⟩, hnone, hnone⟩

/-- Without a blank at either end nothing is taken away. -/
theorem trimChars_eq_self (hfirst : ∀ c ∈ a.head?, isBlank c = false)
    (hlast : ∀ c ∈ a.getLast?, isBlank c = false) : trimChars a = a :=
  trimChars_eq_iff.mpr
    ⟨⟨[], [], List.forall_mem_nil _, List.forall_mem_nil _, by simp⟩, hfirst, hlast⟩

/-- Blanks that are put around a text are taken away again. -/
theorem trimChars_spaced {front back : List Char} (hfront : AllBlank front)
    (hback : AllBlank back) :
    trimChars (front ++ a ++ back) = trimChars a := by
  obtain ⟨⟨front', back', hfront', hback', ha⟩, hfirst, hlast⟩ := trims_trimChars a
  refine trimChars_eq_iff.mpr ⟨⟨front ++ front', back' ++ back, ?_, ?_, ?_⟩, hfirst, hlast⟩
  · exact List.forall_mem_append.mpr ⟨hfront, hfront'⟩
  · exact List.forall_mem_append.mpr ⟨hback', hback⟩
  · calc front ++ a ++ back
        = front ++ (front' ++ trimChars a ++ back') ++ back := by rw [← ha]
      _ = front ++ front' ++ trimChars a ++ (back' ++ back) := by simp only [List.append_assoc]

end

end TunnelHost.Text
