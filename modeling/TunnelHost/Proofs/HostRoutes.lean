import TunnelHost.Proofs.AllowedEntries

/-!
# The two ways to write a host route

A network of one address is written as the bare address, or with the full prefix length after it.
The second way is read in the loose dialect, so that it is open to more texts: those with a zero in
front of an octet, and those with `::` beside all eight groups. Nothing else sets the two apart.

- `PaddedOctet`, `IdleGap`: the two liberties of the loose dialect, as they show in a text.
- `isQuad_strict_iff`, `isEight_strict_iff`: an address of the loose dialect is one of the strict
  dialect exactly if the text takes no such liberty.
- `AllowedList.host_routes_differ`: the two ways are not open to the same texts.
- `AllowedList.host_route_spellings`: where they differ, and that they mean the same.
-/

namespace TunnelHost.Address

open Text (pieces)

variable {d : Dialect} {text : List Char} {ts us : List (List Char)} {ns ms : List Nat}
  {quad : Bool}

/-! ## Liberties of the loose dialect -/

/-- A zero stands in front of an octet in the last of some texts. -/
def PaddedLast (ts : List (List Char)) : Prop :=
  ∃ t ∈ ts.getLast?, ∃ octet ∈ pieces '.' t, Padded octet

/-- There are octets, after the last colon if there is one, and a zero stands in front of one. -/
def PaddedOctet (text : List Char) : Prop := '.' ∈ text ∧ PaddedLast (pieces ':' text)

/-- The number of groups that are written; octets count for two. -/
def groupCount (text : List Char) : Nat :=
  (pieces ':' text).countP (fun piece => !piece.isEmpty) + if '.' ∈ text then 1 else 0

/-- Two colons stand side by side though all eight groups are written. -/
def IdleGap (text : List Char) : Prop := [] ∈ pieces ':' text ∧ groupCount text = 8

/-! ## Octets -/

/-- Four octets are the pieces of their text. -/
theorem isQuad_iff : IsQuad d text ns ↔
    (pieces '.' text).length = 4 ∧ List.Forall₂ (IsOctet d) (pieces '.' text) ns := by
  constructor
  · rintro ⟨ts, hlength, hts, rfl⟩
    have hdots : ∀ t ∈ ts, '.' ∉ t := by
      intro t ht
      obtain ⟨n, -, hoctet⟩ := forall₂_mem_left hts ht
      exact hoctet.numeral.not_dot_mem
    have hne : ts ≠ [] := by
      rintro rfl
      cases hlength
    rw [Text.pieces_joinWith hne hdots]
    exact ⟨hlength, hts⟩
  · rintro ⟨hlength, hpieces⟩
    exact ⟨_, hlength, hpieces, (Text.joinWith_pieces '.' text).symm⟩

/-- The strict dialect refuses zeros in front of an octet, and nothing else about it. -/
theorem isOctet_strict_iff {n : Nat} :
    IsOctet strict text n ↔ ¬ Padded text ∧ IsOctet loose text n := by
  constructor
  · exact fun h => ⟨h.plain rfl, h.loosen⟩
  · exact fun ⟨hplain, h⟩ => ⟨h.numeral, h.lt, fun _ => hplain⟩

theorem isQuad_strict_iff :
    IsQuad strict text ns ↔ IsQuad loose text ns ∧ ∀ octet ∈ pieces '.' text, ¬ Padded octet := by
  have hoctets : List.Forall₂ (IsOctet strict) (pieces '.' text) ns ↔
      (∀ octet ∈ pieces '.' text, ¬ Padded octet)
        ∧ List.Forall₂ (IsOctet loose) (pieces '.' text) ns := by
    rw [← List.forall₂_and_left]
    exact ⟨.imp fun _ _ => isOctet_strict_iff.mp, .imp fun _ _ => isOctet_strict_iff.mpr⟩
  rw [isQuad_iff, isQuad_iff, hoctets, and_assoc, and_comm (a := List.Forall₂ _ _ _)]

theorem IsQuad.dot_mem (h : IsQuad d text ns) : '.' ∈ text := by
  by_contra hdot
  have hlength := (isQuad_iff.mp h).1
  rw [Text.pieces_of_not_mem hdot] at hlength
  cases hlength

/-- Of four octets alone, a zero in front of one of them is all that can be amiss. -/
theorem IsQuad.paddedOctet_iff (h : IsQuad d text ns) :
    PaddedOctet text ↔ ∃ octet ∈ pieces '.' text, Padded octet := by
  have hcolon : ':' ∉ text := fun hc => (h.isSign _ hc).2 rfl
  simp [PaddedOctet, PaddedLast, Text.pieces_of_not_mem hcolon, h.dot_mem]

/-! ## Groups -/

theorem Groups.ne_nil (h : Groups d ts ns quad) : ∀ t ∈ ts, t ≠ [] := by
  induction h with
  | nil => exact List.forall_mem_nil _
  | quad h => exact List.forall_mem_singleton.mpr (List.ne_nil_of_mem h.dot_mem)
  | cons h _ ih => exact List.forall_mem_cons.mpr ⟨h.1, ih⟩

/-- Four octets are one text for two groups. -/
theorem Groups.length_eq (h : Groups d ts ns quad) :
    ns.length = ts.length + if quad then 1 else 0 := by
  induction h with
  | nil => rfl
  | quad h => rfl
  | cons _ _ ih =>
    rw [List.length_cons, List.length_cons, ih]
    omega

theorem Groups.ne_nil_of_length (h : Groups d ts ns quad) (hfull : ns.length = 8) : ts ≠ [] := by
  rintro rfl
  cases h
  cases hfull

theorem Groups.pieces_eq (h : Groups d ts ns quad) (hne : ts ≠ []) :
    pieces ':' (Ip.joinWith ':' ts) = ts :=
  Text.pieces_joinWith hne fun t ht hc => (h.isSign t ht _ hc).2 rfl

/-- There is a dot among groups exactly if octets stand for the last two. -/
theorem Groups.dot_mem_iff (h : Groups d ts ns quad) :
    '.' ∈ Ip.joinWith ':' ts ↔ quad = true := by
  induction h with
  | nil => simp [Ip.joinWith]
  | quad h => exact iff_of_true h.dot_mem rfl
  | @cons t n ts ns quad h _ ih =>
    have hjoin : '.' ∈ Ip.joinWith ':' (t :: ts) ↔ '.' ∈ Ip.joinWith ':' ts := by
      cases ts with
      | nil => exact iff_of_false h.not_dot_mem List.not_mem_nil
      | cons u us => simp [Ip.joinWith, h.not_dot_mem]
    rw [hjoin, ih]

/-- Of the pieces between colons, those that are not empty are the groups. -/
theorem Groups.count_pieces (h : Groups d ts ns quad) :
    (pieces ':' (Ip.joinWith ':' ts)).countP (fun piece => !piece.isEmpty) = ts.length := by
  by_cases hne : ts = []
  · subst hne
    rfl
  · rw [h.pieces_eq hne, List.countP_eq_length]
    intro t ht
    simpa using h.ne_nil t ht

/-- Only octets among the groups can be padded, and they come last. -/
theorem groups_strict_iff : Groups strict ts ns quad ↔
    Groups loose ts ns quad ∧ (quad = true → ¬ PaddedLast ts) := by
  constructor
  · intro h
    refine ⟨h.loosen, ?_⟩
    induction h with
    | nil => exact fun hquad => nomatch hquad
    | quad h =>
      rintro - ⟨t, ht, octet, hoctet, hpadded⟩
      cases ht
      exact (isQuad_strict_iff.mp h).2 octet hoctet hpadded
    | @cons t n ts ns quad _ hts ih =>
      intro hquad
      -- octets stand in the last text only, so there is a text after this one
      cases ts with
      | nil => cases hts; cases hquad
      | cons u us => rw [PaddedLast, List.getLast?_cons_cons]; exact ih hquad
  · rintro ⟨h, hplain⟩
    induction h with
    | nil => exact .nil
    | @quad t ns h =>
      refine .quad (isQuad_strict_iff.mpr ⟨h, fun octet hoctet hpadded => ?_⟩)
      exact hplain rfl ⟨t, rfl, octet, hoctet, hpadded⟩
    | @cons t n ts ns quad ht hts ih =>
      refine .cons ht (ih fun hquad => ?_)
      cases ts with
      | nil => cases hts; cases hquad
      | cons u us => rw [PaddedLast, ← List.getLast?_cons_cons]; exact hplain hquad

/-! ## Eight groups -/

/-- Padding shows in a row of groups if it is in the octets at its end. -/
theorem Groups.paddedOctet_iff (h : Groups d ts ns quad) (hne : ts ≠ []) :
    PaddedOctet (Ip.joinWith ':' ts) ↔ quad = true ∧ PaddedLast ts := by
  rw [PaddedOctet, h.dot_mem_iff, h.pieces_eq hne]

theorem Groups.not_idleGap (h : Groups d ts ns quad) (hne : ts ≠ []) :
    ¬ IdleGap (Ip.joinWith ':' ts) := by
  rintro ⟨hempty, -⟩
  rw [h.pieces_eq hne] at hempty
  exact h.ne_nil _ hempty rfl

section gap

variable (hts : Groups d ts ns false) (hus : Groups d us ms quad)

include hts hus

/-- There are dots beside a gap if octets end the groups. -/
theorem dot_mem_gap_iff :
    '.' ∈ Ip.joinWith ':' ts ++ ':' :: ':' :: Ip.joinWith ':' us ↔ quad = true := by
  simp [hts.dot_mem_iff, hus.dot_mem_iff]

/-- Padding beside a gap is in the octets at the end. -/
theorem paddedOctet_gap_iff :
    PaddedOctet (Ip.joinWith ':' ts ++ ':' :: ':' :: Ip.joinWith ':' us) ↔
      quad = true ∧ PaddedLast us := by
  rw [PaddedOctet, dot_mem_gap_iff hts hus]
  refine and_congr_right fun hquad => ?_
  have hne : us ≠ [] := by
    rintro rfl
    cases hus
    cases hquad
  have hlast : (pieces ':' (Ip.joinWith ':' ts ++ ':' :: ':' :: Ip.joinWith ':' us)).getLast? =
      us.getLast? := by
    rw [Text.pieces_append, ← List.nil_append (':' :: Ip.joinWith ':' us), Text.pieces_append,
      hus.pieces_eq hne, ← List.append_assoc, List.getLast?_append_of_ne_nil _ hne]
  rw [PaddedLast, hlast, PaddedLast]

/-- A gap is idle if all eight groups are written beside it. -/
theorem idleGap_gap_iff :
    IdleGap (Ip.joinWith ':' ts ++ ':' :: ':' :: Ip.joinWith ':' us) ↔
      ns.length + ms.length = 8 := by
  -- the empty pieces beside the gap count for no group
  have hcount : groupCount (Ip.joinWith ':' ts ++ ':' :: ':' :: Ip.joinWith ':' us) =
      ns.length + ms.length := by
    rw [groupCount, Text.pieces_append, ← List.nil_append (':' :: Ip.joinWith ':' us),
      Text.pieces_append, List.countP_append, List.countP_append, hts.count_pieces,
      hus.count_pieces, hts.length_eq, hus.length_eq]
    simp only [List.nil_append, dot_mem_gap_iff hts hus]
    show ts.length + (0 + us.length) + _ = _
    simp only [Bool.false_eq_true, if_false]
    omega
  rw [IdleGap, hcount]
  refine and_iff_right_of_imp fun _ => ?_
  rw [Text.pieces_append]
  refine List.mem_append_right _ ?_
  rw [← List.nil_append (':' :: Ip.joinWith ':' us), Text.pieces_append]
  exact List.mem_cons_self ..

end gap

/-- **The dialects differ in two ways only**: the strict one refuses padded octets and idle gaps. -/
theorem isEight_strict_iff : IsEight strict text ns ↔
    IsEight loose text ns ∧ ¬ PaddedOctet text ∧ ¬ IdleGap text := by
  constructor
  · intro h
    cases h with
    | @full ts _ quad hts hfull =>
      have hne := hts.ne_nil_of_length hfull
      refine ⟨.full hts.loosen hfull, ?_, hts.not_idleGap hne⟩
      rw [hts.paddedOctet_iff hne]
      exact fun ⟨hquad, hpadded⟩ => (groups_strict_iff.mp hts).2 hquad hpadded
    | gap hts hus hfront hmost =>
      -- one group less than eight may stand beside the two colons, so that they are not idle
      have hmost : _ ≤ 7 := hmost
      refine ⟨.gap hts.loosen hus.loosen hfront (Nat.le_trans hmost (by decide)), ?_, ?_⟩
      · rw [paddedOctet_gap_iff hts hus]
        exact fun ⟨hquad, hpadded⟩ => (groups_strict_iff.mp hus).2 hquad hpadded
      · rw [idleGap_gap_iff hts hus]
        omega
  · rintro ⟨h, hplain, hgap⟩
    cases h with
    | @full ts _ quad hts hfull =>
      rw [hts.paddedOctet_iff (hts.ne_nil_of_length hfull), not_and] at hplain
      exact .full (groups_strict_iff.mpr ⟨hts, hplain⟩) hfull
    | gap hts hus hfront hmost =>
      have hmost : _ ≤ 8 := hmost
      rw [paddedOctet_gap_iff hts hus, not_and] at hplain
      rw [idleGap_gap_iff hts hus] at hgap
      refine .gap (groups_strict_iff.mpr ⟨hts, fun hquad => nomatch hquad⟩)
        (groups_strict_iff.mpr ⟨hus, hplain⟩) hfront ?_
      show _ ≤ 7
      omega

/-! ## Entries with and without a prefix length -/

/-- A numeral below the limit is what the reader takes in full. -/
theorem isNumeral_iff_number? {base most limit n : Nat} (hn : n < limit) :
    IsNumeral base most text n ↔ number? base most limit text = some (n, []) := by
  rw [number?_eq_some_iff]
  constructor
  · exact fun h => ⟨text, (List.append_nil text).symm, h, hn, .nil⟩
  · rintro ⟨t, htext, h, -, -⟩
    rw [htext, List.append_nil]
    exact h

/-- Without a slash a network is an address of the strict dialect, of which all bits count. -/
theorem isEntry_bare_iff {a : Ip} {n : Nat} (hslash : '/' ∉ text) :
    IsEntry text a n ↔ IsAddress strict text a ∧ n = width a := by
  constructor
  · intro h
    cases h with
    | explicit _ _ _ => exact absurd (List.mem_append_right _ (List.mem_cons_self ..)) hslash
    | bare h => exact ⟨h, rfl⟩
  · rintro ⟨h, rfl⟩
    exact .bare h

/-- With a slash it is an address of the loose dialect and a prefix length. -/
theorem isEntry_explicit_iff {l : List Char} {a : Ip} {n : Nat} (hslash : '/' ∉ text) :
    IsEntry (text ++ '/' :: l) a n ↔
      IsAddress loose text a ∧ IsNumeral 10 (lengthDigits a) l n ∧ n ≤ width a := by
  constructor
  · intro h
    generalize hwhole : text ++ '/' :: l = whole at h
    cases h with
    | explicit ht hl hn =>
      obtain ⟨rfl, -, rfl⟩ :=
        (List.append_cons_inj_of_notMem ht.not_slash_mem hl.not_slash_mem).mp hwhole.symm
      exact ⟨ht, hl, hn⟩
    | bare h =>
      rw [← hwhole] at h
      exact absurd (List.mem_append_right _ (List.mem_cons_self ..)) h.not_slash_mem
  · exact fun ⟨ht, hl, hn⟩ => .explicit ht hl hn

/-- With all bits counted, the explicit form is the bare one in the loose dialect. -/
theorem isEntry_explicit_host_iff {l : List Char} {a : Ip} {n : Nat} (hslash : '/' ∉ text)
    (hl : number? 10 (lengthDigits a) (width a + 1) l = some (width a, [])) :
    IsEntry (text ++ '/' :: l) a n ↔ IsAddress loose text a ∧ n = width a := by
  rw [isEntry_explicit_iff hslash]
  refine and_congr_right fun _ => ?_
  constructor
  · rintro ⟨hnumeral, hn⟩
    rw [isNumeral_iff_number? (Nat.lt_succ_of_le hn), hl] at hnumeral
    cases hnumeral
    rfl
  · rintro rfl
    exact ⟨(isNumeral_iff_number? (Nat.lt_succ_self _)).mpr hl, Nat.le_refl _⟩

/-- An address of version 4 is refused for padding only. -/
theorem isAddress_v4_iff {x : Ip4} : IsAddress strict text (.v4 x) ↔
    IsAddress loose text (.v4 x) ∧ ¬ PaddedOctet text := by
  constructor
  · intro h
    cases h with
    | v4 h =>
      rw [h.paddedOctet_iff, not_exists]
      exact ⟨.v4 h.loosen, fun octet ho => (isQuad_strict_iff.mp h).2 octet ho.1 ho.2⟩
  · rintro ⟨h, hplain⟩
    cases h with
    | v4 h =>
      rw [h.paddedOctet_iff, not_exists] at hplain
      exact .v4 (isQuad_strict_iff.mpr ⟨h, fun octet ho hpadded => hplain octet ⟨ho, hpadded⟩⟩)

/-- An address of version 6 is refused for padding or an idle gap. -/
theorem isAddress_v6_iff {x : Ip6} : IsAddress strict text (.v6 x) ↔
    IsAddress loose text (.v6 x) ∧ ¬ PaddedOctet text ∧ ¬ IdleGap text := by
  constructor
  · intro h
    cases h with
    | v6 h =>
      obtain ⟨h, hplain⟩ := isEight_strict_iff.mp h
      exact ⟨.v6 h, hplain⟩
  · rintro ⟨h, hplain⟩
    cases h with
    | v6 h => exact .v6 (isEight_strict_iff.mpr ⟨h, hplain⟩)

end TunnelHost.Address

namespace TunnelHost.AllowedList

open Address

/-! ## Lists of one entry -/

/-- A list without commas holds one network if its text is one. -/
theorem ofChars_eq_singleton_iff {a : List Char} {net : Network} (hcomma : ',' ∉ a)
    (htrim : Text.trimChars a = a) : ofChars a = .ok [net] ↔ IsEntry a net.address net.length := by
  rw [ofChars_eq_ok_iff, written, Text.pieces_of_not_mem hcomma, List.filter_singleton,
    ← isEmpty_trimChars, htrim]
  cases a with
  | nil =>
    -- an empty text has no entry, and is none
    have hnone : ¬ IsEntry [] net.address net.length := by
      rw [← Network.ofChars?_eq_some_iff]
      intro h
      cases h
    refine iff_of_false ?_ hnone
    intro h
    cases h
  | cons c cs => simp [htrim]

/-- What follows a trimmed text is trimmed with it, if there are no blanks in it. -/
theorem trimChars_append {a tail : List Char} (ha : Text.trimChars a = a) (hne : tail ≠ [])
    (htail : ∀ c ∈ tail, Text.isBlank c = false) : Text.trimChars (a ++ tail) = a ++ tail := by
  refine Text.trimChars_eq_self ?_ ?_
  · intro c hc
    cases a with
    | nil => exact htail c (List.mem_of_mem_head? hc)
    | cons d ds => exact (Text.trimChars_eq_iff.mp ha).first c hc
  · intro c hc
    rw [List.getLast?_append_of_ne_nil _ hne] at hc
    exact htail c (List.mem_of_mem_getLast? hc)

section

variable {a : String} (hcomma : ',' ∉ a.toList) (hslash : '/' ∉ a.toList) (htrim : Text.trim a = a)

include htrim in
theorem trimChars_of_trim : Text.trimChars a.toList = a.toList := by
  have htoList := congrArg String.toList htrim
  rwa [Text.trim, String.toList_ofList] at htoList

include hcomma hslash htrim

/-- An address alone is accepted in the strict dialect. -/
theorem ofText_bare_iff {net : Network} : ofText a = .ok [net] ↔
    IsAddress strict a.toList net.address ∧ net.length = width net.address := by
  rw [ofText, ofChars_eq_singleton_iff hcomma (trimChars_of_trim htrim), isEntry_bare_iff hslash]

/-- With the full prefix length it is accepted in the loose dialect. -/
theorem ofText_explicit_iff {net : Network} {tail : String} {l : List Char}
    (htail : tail.toList = '/' :: l)
    (hl : number? 10 (lengthDigits net.address) (width net.address + 1) l =
      some (width net.address, [])) :
    ofText (a ++ tail) = .ok [net] ↔
      IsAddress loose a.toList net.address ∧ net.length = width net.address := by
  -- the full prefix length brings neither a comma nor a blank with it
  have hnumeral := (isNumeral_iff_number? (Nat.lt_succ_self _)).mpr hl
  have hplain : ∀ c ∈ '/' :: l, c ≠ ',' ∧ Text.isBlank c = false :=
    fun c hc => plain_of_bounds (hnumeral.bounds_slash c hc)
  have hnone : ',' ∉ a.toList ++ '/' :: l := fun hmem =>
    (List.mem_append.mp hmem).elim hcomma fun hmem => (hplain _ hmem).1 rfl
  have htrimmed := trimChars_append (trimChars_of_trim htrim) (List.cons_ne_nil '/' l)
    fun c hc => (hplain c hc).2
  rw [ofText, String.toList_append, htail, ofChars_eq_singleton_iff hnone htrimmed,
    isEntry_explicit_host_iff hslash hl]

end

/-- A host route that is written as a bare address can be written with its prefix length as well,
and means the same. The other way round, that holds unless a zero stands in front of an octet or
`::` beside all eight groups. -/
theorem host_route_spellings {a : String} (hcomma : ',' ∉ a.toList) (hslash : '/' ∉ a.toList)
    (htrim : Text.trim a = a) :
    (∀ x n, ofText a = .ok [.v4 x n] ↔
        ofText (a ++ "/32") = .ok [.v4 x n] ∧ ¬ PaddedOctet a.toList)
      ∧ ∀ x n, ofText a = .ok [.v6 x n] ↔
        ofText (a ++ "/128") = .ok [.v6 x n] ∧ ¬ PaddedOctet a.toList ∧ ¬ IdleGap a.toList := by
  constructor
  · intro x n
    rw [ofText_bare_iff hcomma hslash htrim, ofText_explicit_iff hcomma hslash htrim rfl rfl]
    show IsAddress strict a.toList (.v4 x) ∧ _ ↔ (IsAddress loose a.toList (.v4 x) ∧ _) ∧ _
    rw [isAddress_v4_iff, and_right_comm]
  · intro x n
    rw [ofText_bare_iff hcomma hslash htrim, ofText_explicit_iff hcomma hslash htrim rfl rfl]
    show IsAddress strict a.toList (.v6 x) ∧ _ ↔ (IsAddress loose a.toList (.v6 x) ∧ _) ∧ _
    rw [isAddress_v6_iff, and_right_comm]

/-- An address that ends in octets, both ways. -/
theorem host_route_spellings_octets :
    (',' ∉ "64:ff9b::192.0.2.33".toList ∧ '/' ∉ "64:ff9b::192.0.2.33".toList
        ∧ Text.trim "64:ff9b::192.0.2.33" = "64:ff9b::192.0.2.33")
      ∧ ofText "64:ff9b::192.0.2.33" = .ok [.v6 0x0064ff9b0000000000000000c0000221 128]
      ∧ ofText ("64:ff9b::192.0.2.33" ++ "/128") = .ok [.v6 0x0064ff9b0000000000000000c0000221 128]
      ∧ ¬ PaddedOctet "64:ff9b::192.0.2.33".toList ∧ ¬ IdleGap "64:ff9b::192.0.2.33".toList := by
  have hread : ofText "64:ff9b::192.0.2.33" =
      .ok [.v6 0x0064ff9b0000000000000000c0000221 128] := rfl
  exact ⟨by decide, hread,
    ((host_route_spellings (by decide) (by decide) (by decide)).2 _ _).mp hread⟩

/-- The two ways are not open to the same texts. With its prefix length, an address may have a zero
in front of an octet, or `::` beside all eight groups; alone, it may not. -/
theorem host_routes_differ :
    (¬ ∀ a : String, ',' ∉ a.toList → '/' ∉ a.toList → Text.trim a = a →
        ∀ x n, ofText a = .ok [.v4 x n] ↔ ofText (a ++ "/32") = .ok [.v4 x n])
      ∧ ¬ ∀ a : String, ',' ∉ a.toList → '/' ∉ a.toList → Text.trim a = a →
        ∀ x n, ofText a = .ok [.v6 x n] ↔ ofText (a ++ "/128") = .ok [.v6 x n] := by
  constructor
  · intro h
    have hsame := h "01.2.3.4" (by decide) (by decide) (by decide) 0x01020304 32
    have hread : ofText ("01.2.3.4" ++ "/32") = .ok [.v4 0x01020304 32] := rfl
    have hbare : ofText "01.2.3.4" = .error (.badNetwork "01.2.3.4") := rfl
    rw [hread, hbare] at hsame
    exact absurd (hsame.mpr rfl) (by simp)
  · intro h
    have hsame := h "::1:2:3:4:5:6:7:8" (by decide) (by decide) (by decide)
      0x00010002000300040005000600070008 128
    have hread : ofText ("::1:2:3:4:5:6:7:8" ++ "/128") =
        .ok [.v6 0x00010002000300040005000600070008 128] := rfl
    have hbare : ofText "::1:2:3:4:5:6:7:8" = .error (.badNetwork "::1:2:3:4:5:6:7:8") := rfl
    rw [hread, hbare] at hsame
    exact absurd (hsame.mpr rfl) (by simp)

end TunnelHost.AllowedList
