import TunnelHost.Key
import TunnelHost.Proofs.Results

/-!
# Base64, there and back

Reading undoes writing, and what can be read was written: a text that is accepted is the written
form of the bytes it stands for, with its padding and without bits to spare. So byte lists and
accepted texts correspond one to one, and key texts are exactly the texts of keys.

- `Group.Holds`: the loop invariant of a last group, which keeps every character that was read.
- `decode_encodeBytes`, `eq_encodeBytes_of_decode`: the two directions, for texts given by bytes.
- `decodeText_eq_ok_iff`: both, for texts.
- `Key.ofText?_eq_some_iff`, `Key.isText_iff`: the same for keys.
-/

namespace TunnelHost

namespace Base64

/-! ## Symbols -/

theorem value?_symbol {v : Nat} (h : v < 64) : value? (symbol v) = some v := by
  have hall : ∀ n < 64, value? (symbol n) = some n := by decide
  exact hall v h

theorem value?_pad : value? pad = none := rfl

/-- A byte of the alphabet is the symbol of its value. -/
theorem symbol_of_value? {b : UInt8} {v : Nat} (h : value? b = some v) : v < 64 ∧ symbol v = b := by
  have hall : ∀ n < 256, ∀ w ∈ value? (UInt8.ofNat n), w < 64 ∧ symbol w = UInt8.ofNat n := by
    decide +kernel
  have hb := hall b.toNat b.toNat_lt
  rw [UInt8.ofNat_toNat] at hb
  exact hb v h

theorem symbol_ne_pad {v : Nat} (h : v < 64) : symbol v ≠ pad := by
  intro hpad
  have := value?_symbol h
  rw [hpad, value?_pad] at this
  cases this

theorem valueAt_symbol {v : Nat} (h : v < 64) (offset : Nat) :
    valueAt offset (symbol v) = .ok v := by
  rw [valueAt, value?_symbol h]

/-- A byte that is accepted at some place has a value. -/
theorem value?_of_valueAt {offset : Nat} {b : UInt8} {v : Nat} (h : valueAt offset b = .ok v) :
    value? b = some v := by
  unfold valueAt at h
  cases hb : value? b with
  | none =>
    rw [hb] at h
    cases h
  | some w =>
    rw [hb] at h
    cases h
    rfl

/-- Symbols and padding are ASCII characters. -/
theorem symbol_lt {v : Nat} (h : v < 64) : (symbol v).toNat < 128 := by
  have hall : ∀ n < 64, (symbol n).toNat < 128 := by decide
  exact hall v h

/-! ## Groups of bytes -/

/-- Three bytes out of four values, when nothing is lost. -/
theorem join_of_bytes (x y z : UInt8) :
    join (x.toNat / 4) (x.toNat % 4 * 16 + y.toNat / 16) (y.toNat % 16 * 4 + z.toNat / 64)
      (z.toNat % 64) = [x, y, z] := by
  have hx := x.toNat_lt
  have hy := y.toNat_lt
  have hz := z.toNat_lt
  have h₁ : x.toNat / 4 * 4 + (x.toNat % 4 * 16 + y.toNat / 16) / 16 = x.toNat := by omega
  have h₂ : (x.toNat % 4 * 16 + y.toNat / 16) % 16 * 16 + (y.toNat % 16 * 4 + z.toNat / 64) / 4
      = y.toNat := by omega
  have h₃ : (y.toNat % 16 * 4 + z.toNat / 64) % 4 * 64 + z.toNat % 64 = z.toNat := by omega
  rw [join, h₁, h₂, h₃]
  simp only [UInt8.ofNat_toNat]

/-- Four values are found again in the three bytes made of them. -/
theorem encodeBytes_join {a b c d : Nat} (ha : a < 64) (hb : b < 64) (hc : c < 64) (hd : d < 64)
    (rest : List UInt8) :
    encodeBytes (join a b c d ++ rest)
      = symbol a :: symbol b :: symbol c :: symbol d :: encodeBytes rest := by
  have h₁ : (a * 4 + b / 16) % 2 ^ 8 / 4 = a := by omega
  have h₂ : (a * 4 + b / 16) % 2 ^ 8 % 4 * 16 + (b % 16 * 16 + c / 4) % 2 ^ 8 / 16 = b := by omega
  have h₃ : (b % 16 * 16 + c / 4) % 2 ^ 8 % 16 * 4 + (c % 4 * 64 + d) % 2 ^ 8 / 64 = c := by omega
  have h₄ : (c % 4 * 64 + d) % 2 ^ 8 % 64 = d := by omega
  simp only [join, List.cons_append, List.nil_append, encodeBytes, UInt8.toNat_ofNat', h₁, h₂, h₃,
    h₄]

/-- Two values are found again in the one byte made of them, if the second has no bits to spare. -/
theorem encodeBytes_take_one {a b : Nat} (ha : a < 64) (hb : b < 64) (hspare : b % 16 = 0) :
    encodeBytes ((join a b 0 0).take 1) = [symbol a, symbol b, pad, pad] := by
  have h₁ : (a * 4 + b / 16) % 2 ^ 8 / 4 = a := by omega
  have h₂ : (a * 4 + b / 16) % 2 ^ 8 % 4 * 16 = b := by omega
  simp only [join, List.take_succ_cons, List.take_zero, encodeBytes, UInt8.toNat_ofNat', h₁, h₂]

/-- Three values are found again in the two bytes made of them, if the last has no bits to spare. -/
theorem encodeBytes_take_two {a b c : Nat} (ha : a < 64) (hb : b < 64) (hc : c < 64)
    (hspare : c % 4 = 0) :
    encodeBytes ((join a b c 0).take 2) = [symbol a, symbol b, symbol c, pad] := by
  have h₁ : (a * 4 + b / 16) % 2 ^ 8 / 4 = a := by omega
  have h₂ : (a * 4 + b / 16) % 2 ^ 8 % 4 * 16 + (b % 16 * 16 + c / 4) % 2 ^ 8 / 16 = b := by omega
  have h₃ : (b % 16 * 16 + c / 4) % 2 ^ 8 % 16 * 4 = c := by omega
  simp only [join, List.take_succ_cons, List.take_zero, encodeBytes, UInt8.toNat_ofNat', h₁, h₂, h₃]

/-- Encoded text comes in groups of four. -/
theorem length_encodeBytes_mod (bytes : List UInt8) : (encodeBytes bytes).length % 4 = 0 := by
  fun_induction encodeBytes bytes with
  | case1 => rfl
  | case2 => simp
  | case3 => simp
  | case4 x y z rest ih =>
    simp only [List.length_cons]
    omega

/-- Encoded text is ASCII. -/
theorem encodeBytes_lt (bytes : List UInt8) : ∀ b ∈ encodeBytes bytes, b.toNat < 128 := by
  have hpad : pad.toNat < 128 := by decide
  -- a case for each number of bytes that are left, of which three make up a whole group
  fun_induction encodeBytes bytes with
  | case1 => simp
  | case2 x =>
    have hx := x.toNat_lt
    have h₁ := symbol_lt (v := x.toNat / 4) (by omega)
    have h₂ := symbol_lt (v := x.toNat % 4 * 16) (by omega)
    simp [h₁, h₂, hpad]
  | case3 x y =>
    have hx := x.toNat_lt
    have hy := y.toNat_lt
    have h₁ := symbol_lt (v := x.toNat / 4) (by omega)
    have h₂ := symbol_lt (v := x.toNat % 4 * 16 + y.toNat / 16) (by omega)
    have h₃ := symbol_lt (v := y.toNat % 16 * 4) (by omega)
    simp [h₁, h₂, h₃, hpad]
  | case4 x y z rest ih =>
    have hx := x.toNat_lt
    have hy := y.toNat_lt
    have hz := z.toNat_lt
    have h₁ := symbol_lt (v := x.toNat / 4) (by omega)
    have h₂ := symbol_lt (v := x.toNat % 4 * 16 + y.toNat / 16) (by omega)
    have h₃ := symbol_lt (v := y.toNat % 16 * 4 + z.toNat / 64) (by omega)
    have h₄ := symbol_lt (v := z.toNat % 64) (by omega)
    simp only [List.forall_mem_cons]
    exact ⟨h₁, h₂, h₃, h₄, ih⟩

/-! ## Reading the last group -/

/-- What a last group is when some text has been read of it: its symbols with their values,
followed by the padding, give the text back. -/
structure Group.Holds (g : Group) (text : List UInt8) : Prop where
  text_eq : text = g.symbols.map (·.1) ++ List.replicate g.pads pad
  values : ∀ s ∈ g.symbols, value? s.1 = some s.2
  unpadded : g.firstPad = none → g.pads = 0

theorem Group.holds_empty : Group.Holds {} [] := by
  refine ⟨rfl, ?_, fun _ => rfl⟩
  intro s hs
  cases hs

/-- Reading a character keeps it. -/
theorem Group.holds_add {start : Nat} {g g' : Group} {text : List UInt8} {b : UInt8}
    (h : g.Holds text) (hadd : Group.add start g b = .ok g') : g'.Holds (text ++ [b]) := by
  unfold Group.add at hadd
  by_cases hpad : b = pad
  -- padding goes to the end of what was read
  · rw [if_pos (beq_iff_eq.mpr hpad)] at hadd
    split at hadd
    · cases hadd
    · cases hadd
      refine ⟨?_, h.values, ?_⟩
      · rw [h.text_eq, hpad, List.replicate_succ', List.append_assoc]
      · intro hnone
        cases hf : g.firstPad <;> simp [hf] at hnone
  -- a symbol is read only before all padding, so it goes to the end as well
  · rw [if_neg (by simpa using hpad)] at hadd
    cases hf : g.firstPad with
    | some p =>
      rw [hf] at hadd
      cases hadd
    | none =>
      rw [hf] at hadd
      obtain ⟨v, hv, hadd⟩ := bind_eq_ok_iff.mp hadd
      cases hadd
      have hpads := h.unpadded hf
      refine ⟨?_, ?_, fun _ => hpads⟩
      · rw [h.text_eq, hpads]
        simp
      · intro s hs
        rcases List.mem_append.mp hs with hs | hs
        · exact h.values s hs
        · rw [List.mem_singleton.mp hs]
          exact value?_of_valueAt hv

/-- What the last group holds, it holds of all the text that was read. -/
theorem Group.holds_foldlM {start : Nat} {g g' : Group} {text rest : List UInt8}
    (h : g.Holds text) (hfold : rest.foldlM (Group.add start) g = .ok g') :
    g'.Holds (text ++ rest) := by
  induction rest generalizing g text with
  | nil =>
    cases hfold
    rw [List.append_nil]
    exact h
  | cons b rest ih =>
    rw [List.foldlM_cons] at hfold
    obtain ⟨next, hadd, hmore⟩ := bind_eq_ok_iff.mp hfold
    have hholds := ih (Group.holds_add h hadd) hmore
    rw [List.append_assoc] at hholds
    exact hholds

/-- A group of at most four characters that is read to its end is the written form of its bytes. -/
theorem Group.eq_encodeBytes_of_finish {start : Nat} {g : Group} {text bytes : List UInt8}
    (h : g.Holds text) (hlength : text.length ≤ 4) (hfinish : g.finish start = .ok bytes) :
    text = encodeBytes bytes := by
  obtain ⟨symbols, firstPad, pads⟩ := g
  have htext := h.text_eq
  have hvalue : ∀ s v, (s, v) ∈ symbols → v < 64 ∧ symbol v = s := fun s v hs =>
    symbol_of_value? (h.values (s, v) hs)
  have hcount : symbols.length + pads ≤ 4 := by
    rw [htext] at hlength
    simpa using hlength
  unfold Group.finish at hfinish
  dsimp only at htext hfinish
  split at hfinish
  · cases hfinish
  · split at hfinish
    · cases hfinish
    · have hfour : symbols.length + pads = 4 := by omega
      -- with the padding there are four characters, and at least two of them are symbols
      rcases symbols with _ | ⟨⟨sa, a⟩, _ | ⟨⟨sb, b⟩, _ | ⟨⟨sc, c⟩, _ | ⟨⟨sd, d⟩, _ | ⟨s, more⟩⟩⟩⟩⟩
      · simp at *
      · simp at *
      -- two symbols: one byte
      · have hpads : pads = 2 := by
          simp only [List.length_cons, List.length_nil] at hfour
          omega
        subst hpads
        dsimp only at hfinish
        split at hfinish
        next hspare =>
          cases hfinish
          obtain ⟨ha, rfl⟩ := hvalue sa a (by simp)
          obtain ⟨hb, rfl⟩ := hvalue sb b (by simp)
          rw [htext, encodeBytes_take_one ha hb hspare]
          rfl
        next => cases hfinish
      -- three symbols: two bytes
      · have hpads : pads = 1 := by
          simp only [List.length_cons, List.length_nil] at hfour
          omega
        subst hpads
        dsimp only at hfinish
        split at hfinish
        next hspare =>
          cases hfinish
          obtain ⟨ha, rfl⟩ := hvalue sa a (by simp)
          obtain ⟨hb, rfl⟩ := hvalue sb b (by simp)
          obtain ⟨hc, rfl⟩ := hvalue sc c (by simp)
          rw [htext, encodeBytes_take_two ha hb hc hspare]
          rfl
        next => cases hfinish
      -- four symbols: three bytes
      · have hpads : pads = 0 := by
          simp only [List.length_cons, List.length_nil] at hfour
          omega
        subst hpads
        cases hfinish
        obtain ⟨ha, rfl⟩ := hvalue sa a (by simp)
        obtain ⟨hb, rfl⟩ := hvalue sb b (by simp)
        obtain ⟨hc, rfl⟩ := hvalue sc c (by simp)
        obtain ⟨hd, rfl⟩ := hvalue sd d (by simp)
        have := encodeBytes_join ha hb hc hd []
        rw [List.append_nil] at this
        rw [htext, this]
        rfl
      · simp only [List.length_cons] at hfour
        omega

/-! ## Reading whole texts -/

/-- What can be read was written. -/
theorem eq_encodeBytes_of_decodeFrom {start : Nat} {text bytes : List UInt8}
    (h : decodeFrom start text = .ok bytes) : text = encodeBytes bytes := by
  fun_induction decodeFrom start text generalizing bytes with
  | case1 start a b c d e rest ih =>
    obtain ⟨va, ha, h⟩ := bind_eq_ok_iff.mp h
    obtain ⟨vb, hb, h⟩ := bind_eq_ok_iff.mp h
    obtain ⟨vc, hc, h⟩ := bind_eq_ok_iff.mp h
    obtain ⟨vd, hd, h⟩ := bind_eq_ok_iff.mp h
    obtain ⟨more, hmore, h⟩ := bind_eq_ok_iff.mp h
    cases h
    obtain ⟨hla, rfl⟩ := symbol_of_value? (value?_of_valueAt ha)
    obtain ⟨hlb, rfl⟩ := symbol_of_value? (value?_of_valueAt hb)
    obtain ⟨hlc, rfl⟩ := symbol_of_value? (value?_of_valueAt hc)
    obtain ⟨hld, rfl⟩ := symbol_of_value? (value?_of_valueAt hd)
    rw [encodeBytes_join hla hlb hlc hld, ← ih hmore]
  | case2 start last hlast =>
    -- `hlast` says that no fifth character follows
    have hlength : last.length ≤ 4 := by
      rcases last with _ | ⟨a, _ | ⟨b, _ | ⟨c, _ | ⟨d, _ | ⟨e, rest⟩⟩⟩⟩⟩
      all_goals first | exact absurd rfl (hlast _ _ _ _ _ _) | simp
    obtain ⟨g, hfold, hfinish⟩ := bind_eq_ok_iff.mp h
    exact Group.eq_encodeBytes_of_finish (Group.holds_foldlM Group.holds_empty hfold) hlength
      hfinish

/-! ## Reading what was written -/

theorem Group.add_symbol {v : Nat} (hv : v < 64) (start : Nat) (g : Group)
    (hfirst : g.firstPad = none) :
    Group.add start g (symbol v) = .ok { g with symbols := g.symbols ++ [(symbol v, v)] } := by
  have hpad : (symbol v == pad) = false := by simpa using symbol_ne_pad hv
  rw [Group.add, hpad, hfirst, valueAt_symbol hv]
  rfl

theorem Group.add_pad (start : Nat) (g : Group) (hplace : 2 ≤ g.symbols.length + g.pads) :
    Group.add start g pad = .ok { g with
      firstPad := g.firstPad.or (some (g.symbols.length + g.pads)), pads := g.pads + 1 } := by
  have hlt : ¬ g.symbols.length + g.pads < 2 := by omega
  rw [Group.add, if_pos (beq_self_eq_true pad), if_neg hlt]

/-- Symbols in front of any padding are taken in, with their values. -/
theorem Group.foldlM_symbols (start : Nat) {values : List Nat} (hvalues : ∀ v ∈ values, v < 64)
    (g : Group) (hfirst : g.firstPad = none) :
    (values.map symbol).foldlM (Group.add start) g
      = .ok { g with symbols := g.symbols ++ values.map fun v => (symbol v, v) } := by
  induction values generalizing g with
  | nil => simp [pure, Except.pure]
  | cons v values ih =>
    have hv := hvalues v List.mem_cons_self
    have hrest : ∀ w ∈ values, w < 64 := fun w hw => hvalues w (List.mem_cons_of_mem v hw)
    rw [List.map_cons, List.foldlM_cons, Group.add_symbol hv start g hfirst]
    have hmore := ih hrest { g with symbols := g.symbols ++ [(symbol v, v)] } hfirst
    rw [List.append_assoc] at hmore
    exact hmore

/-- A last group of four characters is read from its symbols, then its padding. -/
theorem decodeFrom_group (start : Nat) {values : List Nat} (hvalues : ∀ v ∈ values, v < 64)
    (pads : List UInt8) (hfour : values.length + pads.length = 4) :
    decodeFrom start (values.map symbol ++ pads)
      = (pads.foldlM (Group.add start) { symbols := values.map fun v => (symbol v, v) }).bind
          (Group.finish start) := by
  rw [decodeFrom.eq_2]
  · rw [List.foldlM_append, Group.foldlM_symbols start hvalues {} rfl, List.nil_append]
    rfl
  · intro a b c d e rest hlong
    have := congrArg List.length hlong
    simp only [List.length_append, List.length_map, List.length_cons] at this
    omega

theorem encodeBytes_ne_nil {bytes : List UInt8} (h : bytes ≠ []) : encodeBytes bytes ≠ [] := by
  rcases bytes with _ | ⟨x, _ | ⟨y, _ | ⟨z, rest⟩⟩⟩
  · exact absurd rfl h
  · exact List.cons_ne_nil _ _
  · exact List.cons_ne_nil _ _
  · exact List.cons_ne_nil _ _

/-- What was written can be read. The empty text is no group, so `decode` looks for it first. -/
theorem decodeFrom_encodeBytes {bytes : List UInt8} (h : bytes ≠ []) (start : Nat) :
    decodeFrom start (encodeBytes bytes) = .ok bytes := by
  fun_induction encodeBytes bytes generalizing start with
  | case1 => exact absurd rfl h
  | case2 x =>
    have hx := x.toNat_lt
    have hjoin := join_of_bytes x 0 0
    simp only [UInt8.toNat_zero, Nat.zero_div, Nat.zero_mod, Nat.zero_mul, Nat.add_zero] at hjoin
    -- the second symbol carries what is left of the byte, and nothing else
    have hspare : x.toNat % 4 * 16 % 16 = 0 := by omega
    have hvalues : ∀ v ∈ [x.toNat / 4, x.toNat % 4 * 16], v < 64 := by
      simp only [List.forall_mem_cons, List.not_mem_nil, false_imp_iff, implies_true, and_true]
      omega
    have hgroup := decodeFrom_group start hvalues [pad, pad] rfl
    simp only [List.foldlM_cons, List.foldlM_nil] at hgroup
    rw [Group.add_pad _ _ (by simp)] at hgroup
    simp only [bind, Except.bind] at hgroup
    rw [Group.add_pad _ _ (by simp)] at hgroup
    simpa [Group.finish, hspare, hjoin, pure, Except.pure] using hgroup
  | case3 x y =>
    have hx := x.toNat_lt
    have hy := y.toNat_lt
    have hjoin := join_of_bytes x y 0
    simp only [UInt8.toNat_zero, Nat.zero_div, Nat.zero_mod, Nat.add_zero] at hjoin
    have hspare : y.toNat % 16 * 4 % 4 = 0 := by omega
    have hvalues : ∀ v ∈ [x.toNat / 4, x.toNat % 4 * 16 + y.toNat / 16, y.toNat % 16 * 4],
        v < 64 := by
      simp only [List.forall_mem_cons, List.not_mem_nil, false_imp_iff, implies_true, and_true]
      omega
    have hgroup := decodeFrom_group start hvalues [pad] rfl
    simp only [List.foldlM_cons, List.foldlM_nil] at hgroup
    rw [Group.add_pad _ _ (by simp)] at hgroup
    simpa [Group.finish, hspare, hjoin, pure, Except.pure, bind, Except.bind] using hgroup
  | case4 x y z rest ih =>
    have hx := x.toNat_lt
    have hy := y.toNat_lt
    have hz := z.toNat_lt
    have hjoin := join_of_bytes x y z
    have ha : x.toNat / 4 < 64 := by omega
    have hb : x.toNat % 4 * 16 + y.toNat / 16 < 64 := by omega
    have hc : y.toNat % 16 * 4 + z.toNat / 64 < 64 := by omega
    have hd : z.toNat % 64 < 64 := by omega
    by_cases hrest : rest = []
    -- the last group
    · subst hrest
      have hvalues : ∀ v ∈ [x.toNat / 4, x.toNat % 4 * 16 + y.toNat / 16,
          y.toNat % 16 * 4 + z.toNat / 64, z.toNat % 64], v < 64 := by
        simp only [List.forall_mem_cons]
        exact ⟨ha, hb, hc, hd, by simp⟩
      have hgroup := decodeFrom_group start hvalues [] rfl
      simpa [encodeBytes, Group.finish, hjoin, pure, Except.pure, Except.bind] using hgroup
    -- more groups follow
    · obtain ⟨e, more, hmore⟩ := List.exists_cons_of_ne_nil (encodeBytes_ne_nil hrest)
      have hread := ih hrest (start + 4)
      rw [hmore] at hread ⊢
      rw [decodeFrom, valueAt_symbol ha, valueAt_symbol hb, valueAt_symbol hc, valueAt_symbol hd,
        hread]
      exact congrArg (fun bytes => Except.ok (bytes ++ rest)) hjoin

/-- Reading undoes writing. -/
theorem decode_encodeBytes (bytes : List UInt8) : decode (encodeBytes bytes) = .ok bytes := by
  by_cases h : bytes = []
  · subst h
    rfl
  · have hmod : ¬ (encodeBytes bytes).length % 4 = 1 := by
      rw [length_encodeBytes_mod]
      decide
    rw [decode, List.getLast?_eq_some_getLast (encodeBytes_ne_nil h)]
    simp only [hmod, decide_false, Bool.false_and, Bool.false_eq_true, if_false]
    exact decodeFrom_encodeBytes h 0

/-- What can be read was written. -/
theorem eq_encodeBytes_of_decode {text bytes : List UInt8} (h : decode text = .ok bytes) :
    text = encodeBytes bytes := by
  unfold decode at h
  cases hlast : text.getLast? with
  | none =>
    rw [hlast] at h
    cases h
    exact List.getLast?_eq_none_iff.mp hlast
  | some last =>
    rw [hlast] at h
    dsimp only at h
    split at h
    · cases h
    · exact eq_encodeBytes_of_decodeFrom h

/-- **Decoding undoes encoding**, and accepts nothing else. -/
theorem decode_eq_ok_iff {text bytes : List UInt8} :
    decode text = .ok bytes ↔ text = encodeBytes bytes := by
  refine ⟨eq_encodeBytes_of_decode, ?_⟩
  intro h
  rw [h]
  exact decode_encodeBytes bytes

/-! ## Texts -/

theorem toList_loop (bytes : ByteArray) (i : Nat) (read : List UInt8) :
    ByteArray.toList.loop bytes i read = read.reverse ++ bytes.data.toList.drop i := by
  -- the loop puts bytes in front of those it has read, so these stand the other way round
  fun_induction ByteArray.toList.loop bytes i read with
  | case1 i read hi ih =>
    have hi' : i < bytes.data.toList.length := hi
    rw [ih, List.reverse_cons, List.append_assoc, List.drop_eq_getElem_cons hi']
    have hget : bytes.get! i = bytes.data.toList[i] := by
      rw [Array.getElem_toList]
      exact getElem!_pos bytes.data i hi'
    rw [hget]
    rfl
  | case2 i read hi =>
    have hi' : bytes.data.toList.length ≤ i := by
      have : ¬ i < bytes.data.toList.length := hi
      omega
    rw [List.drop_eq_nil_of_le hi', List.append_nil]

theorem toList_eq (bytes : ByteArray) : bytes.toList = bytes.data.toList := by
  rw [ByteArray.toList, toList_loop]
  rfl

/-- A character of ASCII is a single byte. -/
theorem utf8EncodeChar_ofNat {b : UInt8} (h : b.toNat < 128) :
    String.utf8EncodeChar (Char.ofNat b.toNat) = [b] := by
  have hall : ∀ n < 128, String.utf8EncodeChar (Char.ofNat n) = [UInt8.ofNat n] := by decide
  have hb := hall b.toNat h
  rw [UInt8.ofNat_toNat] at hb
  exact hb

/-- The bytes of an ASCII text are the bytes it was made of. -/
theorem toUTF8_ofList_map {bytes : List UInt8} (h : ∀ b ∈ bytes, b.toNat < 128) :
    (String.ofList (bytes.map fun b => Char.ofNat b.toNat)).toUTF8.toList = bytes := by
  rw [toList_eq, String.toUTF8_eq_toByteArray, String.toByteArray_ofList, List.utf8Encode,
    List.data_toByteArray, List.flatMap_map, List.toList_toArray]
  induction bytes with
  | nil => rfl
  | cons b bytes ih =>
    have hrest : ∀ c ∈ bytes, c.toNat < 128 := fun c hc => h c (List.mem_cons_of_mem b hc)
    rw [List.flatMap_cons, utf8EncodeChar_ofNat (h b List.mem_cons_self), ih hrest]
    rfl

theorem toUTF8_encode (bytes : List UInt8) : (encode bytes).toUTF8.toList = encodeBytes bytes :=
  toUTF8_ofList_map (encodeBytes_lt bytes)

/-- Texts with the same bytes are the same. -/
theorem toUTF8_toList_inj {s t : String} : s.toUTF8.toList = t.toUTF8.toList ↔ s = t := by
  refine ⟨fun h => ?_, fun h => h ▸ rfl⟩
  rw [toList_eq, toList_eq] at h
  exact String.toByteArray_inj.mp (ByteArray.ext (Array.toList_inj.mp h))

/-- A text is accepted for a byte list exactly if it is its written form. -/
theorem decodeText_eq_ok_iff {s : String} {bytes : List UInt8} :
    decodeText s = .ok bytes ↔ s = encode bytes := by
  rw [decodeText, decode_eq_ok_iff, ← toUTF8_encode, toUTF8_toList_inj]

example : encode [0, 255] = "AP8=" := by decide +kernel

end Base64

namespace Key

/-- A key is any 32 bytes. -/
theorem ofBytes?_eq_some_iff {bytes : List UInt8} {k : Key} :
    ofBytes? bytes = some k ↔ bytes = k.bytes := by
  unfold ofBytes?
  split
  next h =>
    rw [Option.some.injEq]
    refine ⟨fun hk => hk ▸ rfl, fun hk => ?_⟩
    cases k
    cases hk
    rfl
  next h =>
    refine ⟨fun hk => (by cases hk), fun hk => ?_⟩
    exact absurd (hk ▸ k.length_bytes) h

/-- A text gives a key exactly if it is the text of that key. -/
theorem ofText?_eq_some_iff {s : String} {k : Key} : ofText? s = some k ↔ s = k.toText := by
  unfold ofText?
  cases hs : Base64.decodeText s with
  | ok bytes =>
    rw [Base64.decodeText_eq_ok_iff] at hs
    simp only [ofBytes?_eq_some_iff]
    refine ⟨fun hk => hs.trans (hk ▸ rfl), fun hk => ?_⟩
    have hread := Base64.decodeText_eq_ok_iff.mpr hs
    rw [Base64.decodeText_eq_ok_iff.mpr hk] at hread
    exact (Except.ok.inj hread).symm
  | error fault =>
    refine ⟨fun hk => (by cases hk), fun hk => ?_⟩
    rw [Base64.decodeText_eq_ok_iff.mpr hk] at hs
    cases hs

/-- Key texts are the texts of keys. -/
theorem isText_iff {s : String} : isText s = true ↔ ∃ k : Key, s = k.toText := by
  rw [isText, Option.isSome_iff_exists]
  simp only [ofText?_eq_some_iff]

/-- The text of a key gives the key back. -/
@[simp]
theorem ofText?_toText (k : Key) : ofText? k.toText = some k :=
  ofText?_eq_some_iff.mpr rfl

end Key

end TunnelHost
