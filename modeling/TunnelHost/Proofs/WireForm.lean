import Mathlib.Algebra.Group.Nat.Defs
import TunnelHost.Noise.Message

/-!
# Messages on the wire

Every kind of message is told from its octets again, and its octets give back what went into it. The
numbers that stand in a message unprotected are read back as they were written, as long as they fit
their places; the counter of a data message has eight octets.

- `readLittleEndian?_littleEndian`, `word?_append`: numbers.
- `Initiation.length_octets`, `Response.length_octets`, `length_dataOctets`: how long messages are.
- `Packet.ofOctets?_initiation`, `Packet.ofOctets?_response`, `Packet.ofOctets?_data`: their kinds.
- `Initiation.ofOctets?_octets`, `Response.ofOctets?_octets`, `Sealing.open?_octets`: what went into
  them.
- `Sealing.length_of_open?`: a content is as long as what was sealed.
-/

namespace TunnelHost.Noise

/-! ## Numbers -/

section Numbers

@[simp] theorem length_littleEndian (count n : Nat) : (littleEndian count n).length = count := by
  rw [littleEndian, List.length_map, Curve25519.length_toBytes]

/-- A number that fits its octets is read again from them. -/
theorem readLittleEndian?_littleEndian {count n : Nat} (h : n < 256 ^ count) :
    readLittleEndian? (littleEndian count n) = some n := by
  induction count generalizing n with
  | zero =>
    have hzero : n = 0 := by simpa using h
    rw [hzero]
    rfl
  | succ count ih =>
    -- the lowest byte comes first, the rest is the quotient
    have hrest : n / 256 < 256 ^ count := by
      rw [Nat.div_lt_iff_lt_mul (by decide), ← Nat.pow_succ]
      exact h
    have hcons : littleEndian (count + 1) n
        = .plain (UInt8.ofNat (n % 256)) :: littleEndian count (n / 256) := rfl
    have hbyte : (UInt8.ofNat (n % 256)).toNat = n % 256 := by
      rw [UInt8.toNat_ofNat']
      omega
    rw [hcons, readLittleEndian?, ih hrest]
    show some ((UInt8.ofNat (n % 256)).toNat + 256 * (n / 256)) = some n
    rw [hbyte, Nat.mod_add_div]

/-- A word that was written at a place is read there. -/
theorem word?_append {before after : List Octet} {place : Nat} (hplace : before.length = place)
    (w : UInt32) : word? (before ++ littleEndian 4 w.toNat ++ after) place = some w := by
  have htake : ((before ++ littleEndian 4 w.toNat ++ after).drop place).take 4
      = littleEndian 4 w.toNat := by
    rw [List.append_assoc, List.drop_left' hplace, List.take_left' (length_littleEndian 4 _)]
  have hread : readLittleEndian? (littleEndian 4 w.toNat) = some w.toNat :=
    readLittleEndian?_littleEndian w.toNat_lt
  rw [word?, htake, hread]
  exact congrArg some UInt32.ofNat_toNat

end Numbers

/-! ## Lengths -/

@[simp] theorem Initiation.length_core (m : Initiation) :
    m.core.length = initiationLength - unusedLength := by
  simp [core, initiationLength, unusedLength]

@[simp] theorem Initiation.length_octets (m : Initiation) : m.octets.length = initiationLength := by
  rw [octets, List.length_append, length_core, length_littleEndian]
  decide

@[simp] theorem Response.length_core (m : Response) :
    m.core.length = responseLength - unusedLength := by
  simp [core, responseLength, unusedLength]

@[simp] theorem Response.length_octets (m : Response) : m.octets.length = responseLength := by
  rw [octets, List.length_append, length_core, length_littleEndian]
  decide

namespace Sealing

variable (s : Sealing) (content : List Octet)

@[simp] theorem length_contentOctets : (s.contentOctets content).length = content.length :=
  List.length_mapIdx

@[simp] theorem length_octets : (s.octets content).length = content.length + tagLength := by
  simp [octets, tagOctets]

end Sealing

@[simp] theorem length_dataOctets (receiver : UInt32) (s : Sealing) (content : List Octet) :
    (dataOctets receiver s content).length = content.length + dataOverhead := by
  simp only [dataOctets, List.length_append, length_littleEndian, Sealing.length_octets,
    dataOverhead, headerLength]
  omega

/-! ## Kinds -/

namespace Packet

/-- A datagram whose first word says one of the four kinds. -/
theorem take_of_word {n : Nat} {octets rest : List Octet} (h : octets = littleEndian 4 n ++ rest)
    (hn : n < 256 ^ 4) :
    ¬ octets.length < 4 ∧ readLittleEndian? (octets.take 4) = some n := by
  have hlength : (littleEndian 4 n).length = 4 := length_littleEndian 4 n
  refine ⟨?_, ?_⟩
  · rw [h, List.length_append, hlength]
    omega
  · rw [h, List.take_left' hlength]
    exact readLittleEndian?_littleEndian hn

/-- An initiation is read as one. -/
theorem ofOctets?_initiation (m : Initiation) :
    ofOctets? m.octets = some (.initiation m.sender) := by
  have hsplit : m.octets = littleEndian 4 1 ++ littleEndian 4 m.sender.toNat
      ++ (((List.range' 8 (initiationLength - unusedLength - 8)).map (.initiation m))
        ++ littleEndian unusedLength 0) := by
    rw [Initiation.octets, Initiation.core, List.append_assoc _ _ (littleEndian unusedLength 0)]
  obtain ⟨hlong, hkind⟩ := take_of_word (hsplit.trans (List.append_assoc _ _ _)) (by decide)
  have hword : word? m.octets 4 = some m.sender := by
    rw [hsplit]
    exact word?_append (length_littleEndian 4 1) m.sender
  rw [ofOctets?, if_neg hlong, hkind]
  rw [if_pos m.length_octets, hword]
  rfl

/-- A response is read as one, with the index of what it answers. -/
theorem ofOctets?_response (m : Response) :
    ofOctets? m.octets = some (.response m.sender m.answered.sender) := by
  have hsplit : m.octets = littleEndian 4 2 ++ littleEndian 4 m.sender.toNat
      ++ (littleEndian 4 m.answered.sender.toNat
        ++ ((List.range' 12 (responseLength - unusedLength - 12)).map (.response m)
          ++ littleEndian unusedLength 0)) := by
    simp only [Response.octets, Response.core, List.append_assoc]
  obtain ⟨hlong, hkind⟩ := take_of_word (hsplit.trans (List.append_assoc _ _ _)) (by decide)
  have hsender : word? m.octets 4 = some m.sender := by
    rw [hsplit]
    exact word?_append (length_littleEndian 4 2) m.sender
  have hreceiver : word? m.octets 8 = some m.answered.sender := by
    rw [hsplit, ← List.append_assoc]
    exact word?_append (by simp) m.answered.sender
  rw [ofOctets?, if_neg hlong, hkind]
  rw [if_pos m.length_octets, hsender, hreceiver]
  rfl

/-- A counter is read back if it has no more than eight octets. -/
theorem ofOctets?_data (receiver : UInt32) {s : Sealing} (hcounter : s.counter < 2 ^ 64)
    (content : List Octet) :
    ofOctets? (dataOctets receiver s content)
      = some (.data receiver s.counter (s.octets content)) := by
  have hword : dataOctets receiver s content = littleEndian 4 4
      ++ (littleEndian 4 receiver.toNat ++ (littleEndian 8 s.counter ++ s.octets content)) := by
    rw [dataOctets, List.append_assoc, List.append_assoc]
  obtain ⟨hlong, hkind⟩ := take_of_word hword (by decide)
  have hreceiver : word? (dataOctets receiver s content) 4 = some receiver := by
    rw [dataOctets, List.append_assoc _ (littleEndian 8 s.counter)]
    exact word?_append (length_littleEndian 4 4) receiver
  -- the counter fits its eight octets, so it is read again from them
  have hread : readLittleEndian? (((dataOctets receiver s content).drop 8).take 8)
      = some s.counter := by
    have hheader : (littleEndian 4 4 ++ littleEndian 4 receiver.toNat).length = 8 := by simp
    rw [dataOctets, List.append_assoc _ (littleEndian 8 s.counter), List.drop_left' hheader,
      List.take_left' (length_littleEndian 8 _)]
    exact readLittleEndian?_littleEndian hcounter
  have hbody : (dataOctets receiver s content).drop headerLength = s.octets content := by
    rw [dataOctets]
    exact List.drop_left' (by simp [headerLength])
  have hleast : dataOverhead ≤ (dataOctets receiver s content).length := by
    rw [length_dataOctets]
    omega
  rw [ofOctets?, if_neg hlong, hkind]
  rw [if_pos hleast, hreceiver, hread, hbody]
  rfl

end Packet

/-! ## What went into a message -/

/-- An initiation is told from its octets. -/
theorem Initiation.ofOctets?_octets (m : Initiation) : ofOctets? m.octets = some m := by
  have hplace : m.octets[8]? = some (.initiation m 8) := by
    simp [octets, core, initiationLength, unusedLength]
  have hcore : m.octets.take (initiationLength - unusedLength) = m.core :=
    List.take_left' m.length_core
  rw [ofOctets?, hplace]
  dsimp only
  rw [if_pos hcore]

/-- A response is told from its octets. -/
theorem Response.ofOctets?_octets (m : Response) : ofOctets? m.octets = some m := by
  have hplace : m.octets[12]? = some (.response m 12) := by
    simp [octets, core, responseLength, unusedLength]
  have hcore : m.octets.take (responseLength - unusedLength) = m.core :=
    List.take_left' m.length_core
  rw [ofOctets?, hplace]
  dsimp only
  rw [if_pos hcore]

namespace Sealing

variable {key : TransportKey} {counter : Nat}

/-- What was sealed is opened again. -/
theorem mapM_content?_contentOctets (s : Sealing) (content : List Octet) :
    (s.contentOctets content).mapM Octet.content? = some content := by
  have hcontent : ∀ (place : Nat → Nat) (content : List Octet),
      (content.mapIdx fun i o => Octet.sealed s (place i) o).mapM Octet.content?
        = some content := by
    intro place content
    induction content generalizing place with
    | nil => rfl
    | cons o rest ih =>
      rw [List.mapIdx_cons, List.mapM_cons]
      show ((_ : List Octet).mapM Octet.content?).bind _ = _
      rw [ih fun i => place (i + 1)]
      rfl
  exact hcontent id content

/-- What was sealed with a key and a counter is opened with them. -/
theorem open?_octets (content : List Octet) :
    open? key counter (octets ⟨key, counter, content.length⟩ content) = some content := by
  have hlength : (octets ⟨key, counter, content.length⟩ content).length - tagLength
      = content.length := by
    rw [length_octets]
    omega
  have htake : (octets ⟨key, counter, content.length⟩ content).take content.length
      = contentOctets ⟨key, counter, content.length⟩ content :=
    List.take_left' (length_contentOctets _ content)
  have hopened : ((octets ⟨key, counter, content.length⟩ content).take content.length).mapM
      Octet.content? = some content := by
    rw [htake]
    exact mapM_content?_contentOctets _ content
  unfold open?
  simp only [hlength, hopened, if_true]

/-- What is opened is as long as what was sealed. -/
theorem length_of_open? {body content : List Octet} (h : open? key counter body = some content) :
    body.length = content.length + tagLength := by
  unfold open? at h
  dsimp only at h
  split at h
  next content' _ =>
    by_cases hbody : body = octets ⟨key, counter, body.length - tagLength⟩ content'
    · rw [if_pos hbody] at h
      cases h
      rw [hbody, length_octets]
    · rw [if_neg hbody] at h
      cases h
  · cases h

end Sealing

end TunnelHost.Noise
