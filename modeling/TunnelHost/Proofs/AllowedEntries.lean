import TunnelHost.Address.AllowedList
import TunnelHost.Proofs.AddressReading
import TunnelHost.Proofs.Blanks
import TunnelHost.Proofs.Results

/-!
# Lists of networks

A list of networks is read entry by entry. What two lists joined by a comma mean follows from what
each of them means, and blanks do not matter anywhere.

- `Text.pieces_append`, `Text.pieces_joinWith`: the pieces of a text between marks.
- `AllowedList.written`: the pieces that hold more than blanks.
- `AllowedList.ofChars_eq_ok_iff`, `AllowedList.ofChars_eq_error_iff`: the networks of a list, and
  the entry that spoils it.
- `AllowedList.Spaced`: the same entries with blanks around and between them.
- `AllowedList.ofText_joined`: the law of joined lists.
-/

namespace TunnelHost

/-! ## Pieces -/

namespace Text

variable {mark : Char} {a b : List Char} {ts : List (List Char)}

/-- Without a mark there is a single piece. -/
theorem pieces_of_not_mem (h : mark ∉ a) : pieces mark a = [a] := by
  induction a with
  | nil => rfl
  | cons c cs ih =>
    obtain ⟨hc, hcs⟩ := not_or.mp fun hmem => h (List.mem_cons.mpr hmem)
    rw [pieces, if_neg (Ne.symm hc), ih hcs]

theorem pieces_ne_nil (mark : Char) (a : List Char) : pieces mark a ≠ [] := by
  cases a with
  | nil => exact List.cons_ne_nil _ _
  | cons c cs =>
    rw [pieces]
    split
    · exact List.cons_ne_nil _ _
    · split
      · exact List.cons_ne_nil _ _
      · exact List.cons_ne_nil _ _

/-- A mark parts the pieces before it from those after it. -/
theorem pieces_append (mark : Char) (a b : List Char) :
    pieces mark (a ++ mark :: b) = pieces mark a ++ pieces mark b := by
  induction a with
  | nil => exact if_pos rfl
  | cons c cs ih =>
    rw [List.cons_append, pieces, pieces, ih]
    by_cases hc : c = mark
    · rw [if_pos hc, if_pos hc, List.cons_append]
    · rw [if_neg hc, if_neg hc]
      cases hpieces : pieces mark cs with
      | nil => exact absurd hpieces (pieces_ne_nil mark cs)
      | cons piece rest => rfl

/-- What was joined is found again. -/
theorem pieces_joinWith (hne : ts ≠ []) (h : ∀ t ∈ ts, mark ∉ t) :
    pieces mark (Ip.joinWith mark ts) = ts := by
  induction ts with
  | nil => exact absurd rfl hne
  | cons t ts ih =>
    obtain ⟨ht, hts⟩ := List.forall_mem_cons.mp h
    cases ts with
    | nil => exact pieces_of_not_mem ht
    | cons u us =>
      have hjoin : Ip.joinWith mark (t :: u :: us) = t ++ mark :: Ip.joinWith mark (u :: us) := rfl
      rw [hjoin, pieces_append, pieces_of_not_mem ht, ih (List.cons_ne_nil u us) hts]
      rfl

/-- The pieces of a text and their marks are all of it. -/
theorem joinWith_pieces (mark : Char) (a : List Char) : Ip.joinWith mark (pieces mark a) = a := by
  induction a with
  | nil => rfl
  | cons c cs ih =>
    rw [pieces]
    split_ifs with hc
    · rw [Address.joinWith_cons, List.nil_append, hc]
      cases hpieces : pieces mark cs with
      | nil => exact absurd hpieces (pieces_ne_nil mark cs)
      | cons piece rest =>
        rw [hpieces, Address.joinWith_cons] at ih
        rw [List.flatMap_cons, List.cons_append, ih]
    · cases hpieces : pieces mark cs with
      | nil => exact absurd hpieces (pieces_ne_nil mark cs)
      | cons piece rest =>
        rw [hpieces, Address.joinWith_cons] at ih
        rw [Address.joinWith_cons, List.cons_append, ih]

end Text

/-! ## Readings one after the other -/

section

variable {α β ε : Type} {f : α → Except ε β}

/-- All results come about if each of them does. -/
theorem mapM_eq_ok_iff {xs : List α} {ys : List β} :
    xs.mapM f = .ok ys ↔ List.Forall₂ (fun x y => f x = .ok y) xs ys := by
  induction xs generalizing ys with
  | nil =>
    rw [List.mapM_nil, List.forall₂_nil_left_iff]
    show Except.ok [] = .ok ys ↔ _
    simp [eq_comm]
  | cons x xs ih =>
    simp only [List.mapM_cons, bind_eq_ok_iff, ih, List.forall₂_cons_left_iff]
    constructor
    · rintro ⟨y, hy, ys', hys, h⟩
      cases h
      exact ⟨y, ys', hy, hys, rfl⟩
    · rintro ⟨y, ys', hy, hys, rfl⟩
      exact ⟨y, hy, ys', hys, rfl⟩

/-- The first failure is the one that is told. -/
theorem mapM_eq_error_iff {xs : List α} {e : ε} :
    xs.mapM f = .error e ↔ ∃ before x after, xs = before ++ x :: after
      ∧ (∀ y ∈ before, ∃ z, f y = .ok z) ∧ f x = .error e := by
  induction xs with
  | nil =>
    constructor
    · intro h
      cases h
    · rintro ⟨before, x, after, h, -⟩
      simp at h
  | cons x xs ih =>
    simp only [List.mapM_cons, bind_eq_error_iff, ih]
    constructor
    -- the first fails, or a later one, or the rest comes out well, which is no failure
    · rintro (hx | ⟨y, hy, ⟨before, bad, after, rfl, hbefore, hbad⟩ | ⟨ys, -, h⟩⟩)
      · exact ⟨[], x, xs, rfl, List.forall_mem_nil _, hx⟩
      · exact ⟨x :: before, bad, after, rfl, List.forall_mem_cons.mpr ⟨⟨y, hy⟩, hbefore⟩, hbad⟩
      · cases h
    · rintro ⟨before, bad, after, hxs, hbefore, hbad⟩
      cases before with
      | nil =>
        cases hxs
        exact .inl hbad
      | cons y before =>
        cases hxs
        obtain ⟨⟨z, hz⟩, hbefore⟩ := List.forall_mem_cons.mp hbefore
        exact .inr ⟨z, hz, .inl ⟨before, bad, after, rfl, hbefore, hbad⟩⟩

end

namespace AllowedList

open Address

variable {s : List Char} {networks : List Network} {b : Breach}

/-! ## Entries -/

/-- The pieces of a list that hold more than blanks, as they are written. -/
def written (s : List Char) : List (List Char) :=
  (Text.pieces ',' s).filter fun piece => piece.any fun c => !Text.isBlank c

/-- Among the signs that networks are written with there are no commas and no blanks. -/
theorem plain_of_bounds {c : Char} (h : 0x2e ≤ c.toNat ∧ c.toNat ≤ 0x66) :
    c ≠ ',' ∧ Text.isBlank c = false := by
  constructor
  · rintro rfl
    exact absurd h.1 (by decide)
  · rw [← Bool.not_eq_true]
    intro hblank
    simp only [Text.isBlank, Bool.or_eq_true, Bool.and_eq_true, decide_eq_true_eq,
      beq_iff_eq] at hblank
    omega

theorem isEmpty_trimChars (piece : List Char) :
    (!(Text.trimChars piece).isEmpty) = piece.any fun c => !Text.isBlank c := by
  rw [Bool.eq_iff_iff, Bool.not_eq_true', List.isEmpty_eq_false_iff, ne_eq,
    Text.trimChars_eq_nil_iff, List.any_eq_true]
  simp [Text.AllBlank]

theorem entries_eq (s : List Char) : entries s = (written s).map Text.trimChars := by
  rw [entries, written, List.filter_map]
  congr 2
  exact funext isEmpty_trimChars

/-- An entry is accepted if it is a network in the grammar, and as this network. -/
theorem ofEntry_eq_ok_iff {entry : List Char} {net : Network} :
    ofEntry entry = .ok net ↔ IsEntry entry net.address net.length := by
  rw [← Network.ofChars?_eq_some_iff, ofEntry]
  cases Network.ofChars? entry with
  | some found => simp
  | none => simp

/-- An entry that is refused is named in the message. -/
theorem ofEntry_eq_error_iff {entry : List Char} : ofEntry entry = .error b ↔
    (∀ net, ofEntry entry ≠ .ok net) ∧ b = .badNetwork (String.ofList entry) := by
  rw [ofEntry]
  cases Network.ofChars? entry with
  | some found => simp
  | none => simp [eq_comm]

/-- A list is accepted if each of its entries is, and its networks are those of its entries in their
order. -/
theorem ofChars_eq_ok_iff : ofChars s = .ok networks ↔
    List.Forall₂ (fun piece net => IsEntry (Text.trimChars piece) net.address net.length)
      (written s) networks := by
  rw [ofChars, entries_eq, mapM_eq_ok_iff, List.forall₂_map_left_iff]
  simp only [ofEntry_eq_ok_iff]

/-- A list is refused for the first of its entries that is no network. -/
theorem ofChars_eq_error_iff : ofChars s = .error b ↔
    ∃ before bad after, written s = before ++ bad :: after
      ∧ (∀ piece ∈ before, ∃ net : Network,
          IsEntry (Text.trimChars piece) net.address net.length)
      ∧ (∀ net : Network, ¬ IsEntry (Text.trimChars bad) net.address net.length)
      ∧ b = .badNetwork (String.ofList (Text.trimChars bad)) := by
  rw [ofChars, entries_eq, mapM_eq_error_iff]
  simp only [ofEntry_eq_ok_iff, ofEntry_eq_error_iff, ne_eq, List.map_eq_append_iff,
    List.map_eq_cons_iff]
  constructor
  · rintro ⟨_, _, _, ⟨before, _, hwritten, rfl, bad, after, rfl, rfl, rfl⟩, hbefore, hbad, hb⟩
    refine ⟨before, bad, after, hwritten, ?_, hbad, hb⟩
    exact fun piece hpiece => hbefore _ (List.mem_map_of_mem hpiece)
  · rintro ⟨before, bad, after, hwritten, hbefore, hbad, hb⟩
    refine ⟨_, _, _, ⟨before, _, hwritten, rfl, bad, after, rfl, rfl, rfl⟩, ?_, hbad, hb⟩
    intro entry hentry
    obtain ⟨piece, hpiece, rfl⟩ := List.mem_map.mp hentry
    exact hbefore piece hpiece

/-! ## Joined lists -/

/-- A comma parts the entries before it from those after it. -/
theorem entries_append (s t : List Char) : entries (s ++ ',' :: t) = entries s ++ entries t := by
  rw [entries, Text.pieces_append, List.map_append, List.filter_append]
  rfl

/-- What becomes of two results in a row: both, or the failure that comes first. -/
def both {ε α : Type} : Except ε (List α) → Except ε (List α) → Except ε (List α)
  | .ok xs, .ok ys => .ok (xs ++ ys)
  | .error e, _ => .error e
  | .ok _, .error e => .error e

/-- Lists with a comma between them are read one after the other. -/
theorem ofChars_append (s t : List Char) :
    ofChars (s ++ ',' :: t) = both (ofChars s) (ofChars t) := by
  rw [ofChars, entries_append, List.mapM_append, ← ofChars, ← ofChars]
  cases ofChars s with
  | error e => rfl
  | ok xs =>
    cases ofChars t with
    | error e => rfl
    | ok ys => rfl

/-! ## Blanks -/

/-- The same pieces, with blanks around each of them and pieces of blanks only in between. -/
inductive Spaced : List (List Char) → List (List Char) → Prop where
  | nil : Spaced [] []
  | blank {w : List Char} {ps qs : List (List Char)} :
      Text.AllBlank w → Spaced ps qs → Spaced ps (w :: qs)
  | piece {p front back : List Char} {ps qs : List (List Char)} :
      Text.AllBlank front → Text.AllBlank back → Spaced ps qs →
      Spaced (p :: ps) ((front ++ p ++ back) :: qs)

theorem not_comma_mem_of_allBlank {w : List Char} (h : Text.AllBlank w) : ',' ∉ w :=
  fun hc => absurd (h _ hc) (by decide)

theorem Spaced.not_comma_mem {ps qs : List (List Char)} (h : Spaced ps qs)
    (hps : ∀ p ∈ ps, ',' ∉ p) : ∀ q ∈ qs, ',' ∉ q := by
  induction h with
  | nil => exact List.forall_mem_nil _
  | blank hw _ ih => exact List.forall_mem_cons.mpr ⟨not_comma_mem_of_allBlank hw, ih hps⟩
  | piece hfront hback _ ih =>
    obtain ⟨hp, hps⟩ := List.forall_mem_cons.mp hps
    refine List.forall_mem_cons.mpr ⟨?_, ih hps⟩
    simp only [List.mem_append, not_or]
    exact ⟨⟨not_comma_mem_of_allBlank hfront, hp⟩, not_comma_mem_of_allBlank hback⟩

/-- The entries of pieces that were joined. No piece at all and a single empty one are the same. -/
theorem entries_joinWith {ps : List (List Char)} (hps : ∀ p ∈ ps, ',' ∉ p) :
    entries (Ip.joinWith ',' ps) = (ps.map Text.trimChars).filter fun p => !p.isEmpty := by
  cases ps with
  | nil => rfl
  | cons p ps => rw [entries, Text.pieces_joinWith (List.cons_ne_nil p ps) hps]

/-- Blanks around the pieces, and pieces of blanks, change no entry. -/
theorem entries_spaced {ps qs : List (List Char)} (h : Spaced ps qs) (hps : ∀ p ∈ ps, ',' ∉ p) :
    entries (Ip.joinWith ',' qs) = entries (Ip.joinWith ',' ps) := by
  rw [entries_joinWith hps, entries_joinWith (h.not_comma_mem hps)]
  clear hps
  induction h with
  | nil => rfl
  | blank hw _ ih => rw [List.map_cons, Text.trimChars_eq_nil_iff.mpr hw, ← ih]; rfl
  | piece hfront hback _ ih =>
    rw [List.map_cons, List.map_cons, Text.trimChars_spaced hfront hback, List.filter_cons,
      List.filter_cons, ih]

/-- Two lists with a comma between them mean what both mean, one after the other, unless the first
is refused, or else the second. A list has one network for each piece that is not blank, in their
order. Blanks around pieces, and blank pieces, change nothing. What is told of a refused list is the
first entry that is no network, without the blanks around it, whatever comes after it. -/
theorem ofText_joined :
    (∀ s t : String, ofText (s ++ "," ++ t) = both (ofText s) (ofText t))
      ∧ (∀ s networks, ofText s = .ok networks ↔
          List.Forall₂ (fun piece net => IsEntry (Text.trimChars piece) net.address net.length)
            (written s.toList) networks)
      ∧ (∀ ps qs : List (List Char), Spaced ps qs → (∀ p ∈ ps, ',' ∉ p) →
          ofText (String.ofList (Ip.joinWith ',' qs)) = ofText (String.ofList (Ip.joinWith ',' ps)))
      ∧ ∀ s b, ofText s = .error b ↔
          ∃ before bad after, written s.toList = before ++ bad :: after
            ∧ (∀ piece ∈ before, ∃ net : Network,
                IsEntry (Text.trimChars piece) net.address net.length)
            ∧ (∀ net : Network, ¬ IsEntry (Text.trimChars bad) net.address net.length)
            ∧ b = .badNetwork (String.ofList (Text.trimChars bad))
            ∧ b.message = "Invalid allowed IP '" ++ String.ofList (Text.trimChars bad) ++ "'" := by
  refine ⟨?_, fun s networks => ofChars_eq_ok_iff, ?_, ?_⟩
  · intro s t
    have hjoin : (s ++ "," ++ t).toList = s.toList ++ ',' :: t.toList := by
      simp only [String.toList_append, List.append_assoc]
      rfl
    rw [ofText, hjoin]
    exact ofChars_append s.toList t.toList
  · intro ps qs hspaced hps
    rw [ofText, ofText, String.toList_ofList, String.toList_ofList, ofChars, ofChars,
      entries_spaced hspaced hps]
  · intro s b
    rw [ofText, ofChars_eq_error_iff]
    constructor
    · rintro ⟨before, bad, after, hwritten, hbefore, hbad, rfl⟩
      exact ⟨before, bad, after, hwritten, hbefore, hbad, rfl, rfl⟩
    · rintro ⟨before, bad, after, hwritten, hbefore, hbad, hb, -⟩
      exact ⟨before, bad, after, hwritten, hbefore, hbad, hb⟩

end AllowedList

end TunnelHost
