import TunnelHost.Proofs.Blanks
import TunnelHost.Proofs.Invocations
import TunnelHost.Proofs.KeyTexts

/-!
# One notion of a valid key

Keys come in as texts and as bytes, alone, on a command line and on standard input. Some are checked
and some are put to use, and blanks around a text are sometimes forgiven. All of this rests on one
notion: 32 bytes, or the base64 form of 32 bytes. What is no key is told by the same distinction
everywhere: a text that is the base64 form of other bytes has a wrong length, and any other text is
malformed.

- `Key.publicTextOfBytes_eq_ok_iff`, `Key.areBytes_iff`: bytes.
- `Key.publicTextOfText_of_encode`, `Key.publicTextOfText_of_not_encode`: texts.
- `Base64.trim_spaced_encode`: blanks around a written form.
- `CommandLine.code_checkKey_iff`, `CommandLine.code_publicKey_iff`: the commands.
- `Key.validators_agree`: all of it.
-/

namespace TunnelHost

/-! ## Bytes -/

namespace Key

variable {bytes : List UInt8} {s key : String}

/-- The public key text of a key's bytes. -/
theorem publicTextOfBytes_bytes (k : Key) : publicTextOfBytes k.bytes = .ok k.publicKey.toText := by
  rw [publicTextOfBytes, ofBytes?_eq_some_iff.mpr rfl]

/-- Bytes of another length are refused with their length. -/
theorem publicTextOfBytes_of_length_ne (h : bytes.length ≠ keyLength) :
    publicTextOfBytes bytes = .error (.wrongLength bytes.length) := by
  rw [publicTextOfBytes, ofBytes?, dif_neg h]

theorem exists_bytes_eq (h : bytes.length = keyLength) : ∃ k : Key, k.bytes = bytes :=
  ⟨⟨bytes, h⟩, rfl⟩

/-- Bytes have a public key if they make up a key, and it is the public key of that. -/
theorem publicTextOfBytes_eq_ok_iff :
    publicTextOfBytes bytes = .ok key ↔ ∃ k : Key, bytes = k.bytes ∧ key = k.publicKey.toText := by
  constructor
  · intro h
    by_cases hlength : bytes.length = keyLength
    · obtain ⟨k, rfl⟩ := exists_bytes_eq hlength
      rw [publicTextOfBytes_bytes] at h
      exact ⟨k, rfl, (Except.ok.inj h).symm⟩
    · rw [publicTextOfBytes_of_length_ne hlength] at h
      cases h
  · rintro ⟨k, rfl, rfl⟩
    exact publicTextOfBytes_bytes k

/-- It is the length alone that decides. -/
theorem length_eq_iff_publicTextOfBytes :
    bytes.length = keyLength ↔ ∃ key, publicTextOfBytes bytes = .ok key := by
  constructor
  · intro h
    obtain ⟨k, rfl⟩ := exists_bytes_eq h
    exact ⟨_, publicTextOfBytes_bytes k⟩
  · rintro ⟨key, h⟩
    obtain ⟨k, rfl, -⟩ := publicTextOfBytes_eq_ok_iff.mp h
    exact k.length_bytes

/-- The fault of bytes is their number. -/
theorem publicTextOfBytes_eq_error_iff {e : KeyError} :
    publicTextOfBytes bytes = .error e ↔
      bytes.length ≠ keyLength ∧ e = .wrongLength bytes.length := by
  constructor
  · intro h
    by_cases hlength : bytes.length = keyLength
    · obtain ⟨k, rfl⟩ := exists_bytes_eq hlength
      rw [publicTextOfBytes_bytes] at h
      cases h
    · rw [publicTextOfBytes_of_length_ne hlength] at h
      exact ⟨hlength, (Except.error.inj h).symm⟩
  · rintro ⟨hlength, rfl⟩
    exact publicTextOfBytes_of_length_ne hlength

/-- The check of bytes, which goes by way of their text, comes to a look at their number. -/
theorem areBytes_iff : areBytes bytes = true ↔ bytes.length = keyLength := by
  rw [areBytes, isText_iff]
  constructor
  · rintro ⟨k, hk⟩
    have hread := Base64.decodeText_eq_ok_iff.mpr hk
    rw [Base64.decodeText_eq_ok_iff.mpr rfl] at hread
    rw [Except.ok.inj hread]
    exact k.length_bytes
  · intro h
    obtain ⟨k, rfl⟩ := exists_bytes_eq h
    exact ⟨k, rfl⟩

end Key

/-! ## Texts -/

namespace Base64

theorem isBlank_letter (d : Fin 64) : Text.isBlank (letter d) = false := by
  revert d
  decide +kernel

/-- A written form has no blanks: its characters are letters of the alphabet and signs of
padding. -/
theorem isBlank_of_mem_encode {bytes : List UInt8} {c : Char} (hc : c ∈ (encode bytes).toList) :
    Text.isBlank c = false := by
  obtain ⟨digits, pads, hwritten⟩ := exists_written bytes
  rw [encode, String.toList_ofList, hwritten.text_eq, List.map_append, List.map_map,
    List.map_replicate, List.mem_append] at hc
  rcases hc with hc | hc
  · obtain ⟨d, -, rfl⟩ := List.mem_map.mp hc
    rw [Function.comp_apply, ofNat_symbol]
    exact isBlank_letter d
  · rw [List.eq_of_mem_replicate hc]
    rfl

/-- Blanks around an encoded text are all that trimming takes away. -/
theorem trim_spaced_encode (bytes : List UInt8) {front back : List Char}
    (hfront : Text.AllBlank front) (hback : Text.AllBlank back) :
    Text.trim (String.ofList (front ++ (encode bytes).toList ++ back)) = encode bytes := by
  have hfirst : ∀ c ∈ (encode bytes).toList.head?, Text.isBlank c = false :=
    fun c hc => isBlank_of_mem_encode (List.mem_of_mem_head? hc)
  have hlast : ∀ c ∈ (encode bytes).toList.getLast?, Text.isBlank c = false :=
    fun c hc => isBlank_of_mem_encode (List.mem_of_mem_getLast? hc)
  rw [Text.trim, String.toList_ofList, Text.trimChars_spaced hfront hback,
    Text.trimChars_eq_self hfirst hlast, String.ofList_toList]

end Base64

namespace Key

variable {bytes : List UInt8} {s key : String}

/-- A text that is the written form of some bytes counts as these. -/
theorem publicTextOfText_of_encode (h : Text.trim s = Base64.encode bytes) :
    publicTextOfText s = publicTextOfBytes bytes := by
  rw [publicTextOfText, Base64.decodeText_eq_ok_iff.mpr h]

/-- Any other text is malformed. -/
theorem publicTextOfText_of_not_encode (h : ¬ ∃ bytes, Text.trim s = Base64.encode bytes) :
    ∃ reason, publicTextOfText s = .error (.malformed reason) := by
  cases hdecode : Base64.decodeText (Text.trim s) with
  | ok bytes => exact absurd ⟨bytes, Base64.decodeText_eq_ok_iff.mp hdecode⟩ h
  | error fault =>
    refine ⟨fault.message, ?_⟩
    rw [publicTextOfText, hdecode]

/-- A text has a public key if it is that of a key, up to blanks around it. -/
theorem publicTextOfText_eq_ok_iff :
    publicTextOfText s = .ok key ↔
      ∃ k : Key, ofText? (Text.trim s) = some k ∧ publicTextOfBytes k.bytes = .ok key := by
  constructor
  · intro h
    by_cases hwritten : ∃ bytes, Text.trim s = Base64.encode bytes
    · obtain ⟨bytes, hbytes⟩ := hwritten
      rw [publicTextOfText_of_encode hbytes] at h
      obtain ⟨k, rfl, -⟩ := publicTextOfBytes_eq_ok_iff.mp h
      exact ⟨k, ofText?_eq_some_iff.mpr hbytes, h⟩
    · obtain ⟨reason, hmalformed⟩ := publicTextOfText_of_not_encode hwritten
      rw [hmalformed] at h
      cases h
  · rintro ⟨k, hk, h⟩
    rw [publicTextOfText_of_encode (ofText?_eq_some_iff.mp hk)]
    exact h

/-- Texts that give a public key are the key texts, blanks around them aside. -/
theorem exists_publicTextOfText_iff :
    (∃ key, publicTextOfText s = .ok key) ↔ isText (Text.trim s) = true := by
  rw [isText, Option.isSome_iff_exists]
  constructor
  · rintro ⟨key, h⟩
    obtain ⟨k, hk, -⟩ := publicTextOfText_eq_ok_iff.mp h
    exact ⟨k, hk⟩
  · rintro ⟨k, hk⟩
    exact ⟨_, publicTextOfText_eq_ok_iff.mpr ⟨k, hk, publicTextOfBytes_bytes k⟩⟩

/-- A text is refused for its length if it encodes bytes of another one. -/
theorem publicTextOfText_eq_wrongLength_iff {n : Nat} :
    publicTextOfText s = .error (.wrongLength n) ↔
      n ≠ keyLength ∧ ∃ bytes, bytes.length = n ∧ Text.trim s = Base64.encode bytes := by
  constructor
  · intro h
    by_cases hwritten : ∃ bytes, Text.trim s = Base64.encode bytes
    · obtain ⟨bytes, hbytes⟩ := hwritten
      rw [publicTextOfText_of_encode hbytes] at h
      obtain ⟨hlength, heq⟩ := publicTextOfBytes_eq_error_iff.mp h
      cases heq
      exact ⟨hlength, bytes, rfl, hbytes⟩
    · obtain ⟨reason, hmalformed⟩ := publicTextOfText_of_not_encode hwritten
      rw [hmalformed] at h
      cases h
  · rintro ⟨hlength, bytes, rfl, hbytes⟩
    rw [publicTextOfText_of_encode hbytes]
    exact publicTextOfBytes_of_length_ne hlength

/-- A text is malformed if it encodes nothing. -/
theorem exists_malformed_iff :
    (∃ reason, publicTextOfText s = .error (.malformed reason)) ↔
      ¬ ∃ bytes, Text.trim s = Base64.encode bytes := by
  constructor
  · rintro ⟨reason, h⟩ ⟨bytes, hbytes⟩
    rw [publicTextOfText_of_encode hbytes] at h
    obtain ⟨-, heq⟩ := publicTextOfBytes_eq_error_iff.mp h
    cases heq
  · exact publicTextOfText_of_not_encode

end Key

/-! ## Commands -/

/-- The bytes of a text are those of a text, and of this one. -/
theorem textOfBytes?_toUTF8 (s : String) : textOfBytes? s.toUTF8.toList = some s := by
  rw [textOfBytes?, Base64.toList_eq, String.fromUTF8?]
  exact dif_pos s.isValidUTF8

namespace CommandLine

variable {host : Host Noise.engine} {bridge : Bridge} {site : Site} {s : String}

/-- The command that checks a key succeeds for the texts of keys, trimmed. -/
theorem code_checkKey_iff :
    (Command.perform host bridge site (.checkKey s)).code = 0
      ↔ Key.isText (Text.trim s) = true := by
  rw [Command.perform]
  split
  next h => exact ⟨fun _ => h, fun _ => rfl⟩
  next h => exact ⟨fun hcode => (by cases hcode), fun htext => absurd htext h⟩

/-- What is on standard input counts as the argument does. -/
theorem code_publicKey_iff (hinput : site.input = s.toUTF8.toList) :
    (Command.perform host bridge site .publicKey).code = 0 ↔ Key.isText (Text.trim s) = true := by
  simp only [Command.perform, hinput, textOfBytes?_toUTF8]
  rw [← Key.exists_publicTextOfText_iff]
  cases hkey : Key.publicTextOfText s with
  | ok key => exact ⟨fun _ => ⟨key, rfl⟩, fun _ => rfl⟩
  | error e =>
    constructor
    · intro hcode
      cases hcode
    · rintro ⟨key, h⟩
      cases h

/-- What an invocation with a command comes to, if that is performed at all. -/
theorem code_run {i : Invocation} {c : Config} {command : Command} (hgenerate : i.generate = false)
    (hcheck : i.check = false) (hc : i.config site = .ok c) (hcommand : i.command = some command) :
    ∃ host bridge, (i.run site).code = (command.perform host bridge site).code := by
  obtain ⟨bridge, host, -, hcode, -⟩ :=
    (i.run_concludes site).performed hgenerate c hc hcheck command hcommand
  exact ⟨host, bridge, hcode⟩

/-- A command that is not performed does not matter, nor does the input. -/
theorem run_of_unperformed {i : Invocation}
    (h : ¬ (i.generate = false ∧ i.check = false ∧ ∃ c, i.config site = .ok c))
    (command : Option Command) (input : List UInt8) :
    { i with command }.run { site with input } = i.run site := by
  have hconfig : { i with command }.config { site with input } = i.config site := rfl
  rw [Invocation.run, Invocation.run, hconfig]
  cases hgenerate : i.generate with
  | true => rfl
  | false =>
    cases hc : i.config site with
    | error f => rfl
    | ok c =>
      have hcheck : i.check = true := by
        by_contra hcheck
        exact h ⟨hgenerate, Bool.eq_false_iff.mpr hcheck, c, hc⟩
      simp only [hcheck, if_true, Bool.false_eq_true, if_false]

/-- Two invocations that differ in the command alone exit with zero for the same texts, whether the
command is performed or not. -/
theorem code_checkKey_eq_zero_iff_publicKey (i : Invocation) (site : Site) (s : String) :
    ({ i with command := some (.checkKey s) }.run site).code = 0 ↔
      ({ i with command := some .publicKey }.run { site with input := s.toUTF8.toList }).code
        = 0 := by
  by_cases hperformed : i.generate = false ∧ i.check = false ∧ ∃ c, i.config site = .ok c
  · obtain ⟨hgenerate, hcheck, c, hc⟩ := hperformed
    obtain ⟨host, bridge, hchecked⟩ :=
      code_run (i := { i with command := some (.checkKey s) }) hgenerate hcheck hc rfl
    have hc' : i.config { site with input := s.toUTF8.toList } = .ok c := hc
    obtain ⟨host', bridge', hderived⟩ :=
      code_run (i := { i with command := some .publicKey }) hgenerate hcheck hc' rfl
    rw [hchecked, hderived, code_checkKey_iff, code_publicKey_iff rfl]
  · have hchecked := run_of_unperformed hperformed (some (.checkKey s)) site.input
    have hderived := run_of_unperformed hperformed (some .publicKey) s.toUTF8.toList
    rw [hchecked, hderived]

end CommandLine

open CommandLine (Command Invocation Site respond)

/-- **Keys are valid or not, however they are looked at.** A text gives a public key exactly if it
is accepted as a key text once the blanks around it are gone, and it gives the public key of the
bytes that are then read. Otherwise its fault is a wrong length exactly if it is the base64 form of
so many bytes, and no base64 in all other cases. Bytes are accepted exactly if there are 32 of them,
and exactly then they give a public key; their fault is their number. The base64 form of bytes of
any number, with any blanks around it, counts as the bytes do. So the two commands of one invocation
exit with zero for the same texts, and if they are performed, for the key texts. -/
theorem Key.validators_agree :
    (∀ s key : String, publicTextOfText s = .ok key ↔
      ∃ k : Key, ofText? (Text.trim s) = some k ∧ publicTextOfBytes k.bytes = .ok key)
    ∧ (∀ s : String, (∃ key, publicTextOfText s = .ok key) ↔ isText (Text.trim s) = true)
    ∧ (∀ (s : String) (n : Nat), publicTextOfText s = .error (.wrongLength n) ↔
        n ≠ 32 ∧ ∃ bytes, bytes.length = n ∧ Text.trim s = Base64.encode bytes)
    ∧ (∀ s : String, (∃ reason, publicTextOfText s = .error (.malformed reason)) ↔
        ¬ ∃ bytes, Text.trim s = Base64.encode bytes)
    ∧ (∀ bytes : List UInt8, (areBytes bytes = true ↔ bytes.length = 32)
        ∧ (bytes.length = 32 ↔ ∃ key, publicTextOfBytes bytes = .ok key)
        ∧ (bytes.length ≠ 32 → publicTextOfBytes bytes = .error (.wrongLength bytes.length)))
    ∧ (∀ (bytes : List UInt8) (front back : List Char), Text.AllBlank front → Text.AllBlank back →
        publicTextOfText (String.ofList (front ++ (Base64.encode bytes).toList ++ back))
          = publicTextOfBytes bytes)
    ∧ ∀ (words words' : List String) (i : Invocation) (site : Site) (s : String),
        Invocation.ofArguments words = .ok { i with command := some (.checkKey s) } →
        Invocation.ofArguments words' = .ok { i with command := some .publicKey } →
        let checked := respond (fun _ => site) words
        let derived := respond (fun _ => { site with input := s.toUTF8.toList }) words'
        (checked.code = 0 ↔ derived.code = 0)
          ∧ (i.generate = false → i.check = false → (∃ c, i.config site = .ok c) →
              (checked.code = 0 ↔ isText (Text.trim s) = true)) := by
  refine ⟨fun s key => publicTextOfText_eq_ok_iff, fun s => exists_publicTextOfText_iff,
    fun s n => publicTextOfText_eq_wrongLength_iff, fun s => exists_malformed_iff, ?_, ?_, ?_⟩
  · intro bytes
    exact ⟨areBytes_iff, length_eq_iff_publicTextOfBytes, publicTextOfBytes_of_length_ne⟩
  · intro bytes front back hfront hback
    exact publicTextOfText_of_encode (Base64.trim_spaced_encode bytes hfront hback)
  · intro words words' i site s hwords hwords'
    -- both commands run after the same configuration was loaded, and differ only in what they print
    simp only [respond, hwords, hwords']
    refine ⟨CommandLine.code_checkKey_eq_zero_iff_publicKey i site s, ?_⟩
    rintro hgenerate hcheck ⟨c, hc⟩
    obtain ⟨host, bridge, hcode⟩ := CommandLine.code_run
      (i := { i with command := some (.checkKey s) }) hgenerate hcheck hc rfl
    rw [hcode, CommandLine.code_checkKey_iff]

namespace Key

/-- A place with no file and no variables. -/
def bareSite : Site where
  entry := .absent
  writeFault := none
  surroundings := fun _ => none
  input := []
  secrets := fun _ => zero

/-- A key text between blanks of two kinds, the second of them outside ASCII. -/
theorem validators_agree_spaced :
    let s := " BRAbJjE8R1JdaHN+iZSfqrXAy9bh7PcCDRgjLjlET1o=\u2028"
    (respond (fun _ => bareSite) ["-c", "pubkey", "check-key", s]).code = 0
      ∧ (respond (fun _ => { bareSite with input := s.toUTF8.toList })
          ["pubkey", "-c", "pubkey"]).code = 0 := by
  intro s
  have htext : isText (Text.trim s) = true := by decide +kernel
  obtain ⟨hsame, hvalid⟩ := validators_agree.2.2.2.2.2.2 ["-c", "pubkey", "check-key", s]
    ["pubkey", "-c", "pubkey"] { path := "pubkey" } bareSite s rfl rfl
  have hchecked := (hvalid rfl rfl ⟨{}, rfl⟩).mpr htext
  exact ⟨hchecked, hsame.mp hchecked⟩

end Key

end TunnelHost
