import TunnelHost.PeerDefinition
import TunnelHost.Proofs.ConfigRoundTrip
import TunnelHost.Proofs.EndpointTexts
import TunnelHost.Proofs.RecordOmissions

/-!
# Peer definitions in JSON

A definition is read back from the text that it is written as, whatever its texts and numbers are.
A text may leave out what it has no value for. This is the same as `null` for all but the index,
which is zero then and may not be `null`. The two keys and the allowed addresses cannot be left out.

- `PeerDefinition.reads_int64`, `PeerDefinition.reads_endpoint`: the values.
- `PeerDefinition.settled`: every value of every member has an outcome.
- `PeerDefinition.reads_write`: a definition as it is written.
- `PeerDefinition.parts_of_reads`: reading a member leaves the other parts alone.
- `PeerDefinition.idle_presharedKey` and its kin: values that are the same as none.
- `PeerDefinition.definitions_survive`: the properties.
-/

namespace TunnelHost

open Json (Cause Reads Settles IsString nullText)

namespace PeerDefinition

variable {text : List Char}

/-! ## Values -/

/-- An endpoint is read from whatever string there is. -/
theorem reads_of_stringFor {o : Except Cause String}
    (h : Reads (Json.stringFor "socket address") text o) :
    Reads readEndpoint text
      (o >>= fun s => (Endpoint.ofText? s).elim (.error .notAnEndpoint) .ok) := by
  intro b rest hb hrest
  refine (h b rest hb hrest).bind fun s => ?_
  dsimp only
  cases Endpoint.ofText? s with
  | none => exact ⟨_, rfl⟩
  | some e => exact rfl

/-- An endpoint is read from its text. -/
theorem reads_endpoint {e : Endpoint} (h : IsString e.text text) :
    Reads readEndpoint text (.ok e) := by
  have hread := reads_of_stringFor (Json.reads_stringFor "socket address" h)
  have hvalue : (Except.ok e.text >>= fun s =>
      (Endpoint.ofText? s).elim (.error Cause.notAnEndpoint) .ok) = .ok e := by
    show (Endpoint.ofText? e.text).elim _ _ = _
    rw [Endpoint.ofText?_text]
    rfl
  rwa [hvalue] at hread

/-- An integer is read as it is written. -/
theorem reads_int64 (i : Int64) :
    Reads readInt64 (Numeral.decimalInt i.toInt).toList (.ok i) := by
  have hleast : -(Nat.pow 2 63 : Int) ≤ i.toInt := i.le_toInt
  have hmost : i.toInt < Nat.pow 2 63 := i.toInt_lt
  have hinteger : Reads Json.integer64 (Numeral.decimalInt i.toInt).toList (.ok i.toInt) := by
    -- the sign decides how the number is written
    cases hi : i.toInt with
    | ofNat n =>
      rw [hi] at hmost
      rw [Numeral.decimalInt, Numeral.decimal, String.toList_ofList]
      exact Json.reads_integer64_natural (Json.isNatural_digits n) (Int.ofNat_lt.mp hmost)
    | negSucc n =>
      rw [hi] at hleast
      have htext : (Numeral.decimalInt (.negSucc n)).toList = '-' :: Numeral.digits 10 (n + 1) := by
        simp [Numeral.decimalInt, Numeral.decimal]
      rw [htext]
      have hn : n + 1 ≤ Nat.pow 2 63 := Int.ofNat_le.mp (Int.neg_le_neg_iff.mp hleast)
      exact Json.reads_integer64_negative (Json.isNatural_digits (n + 1)) (Nat.succ_pos n) hn
  have hread : Reads readInt64 _ (.ok (Int64.ofInt i.toInt)) := hinteger.map Int64.ofInt
  rwa [Int64.ofInt_toInt] at hread

theorem reads_index_zero : Reads readInt64 ['0'] (.ok 0) := by
  have hzero : Json.IsNatural 0 ['0'] := ⟨Json.isInteger_zero, rfl⟩
  exact (Json.reads_integer64_natural hzero (by decide)).map Int64.ofInt

/-- There is no index in `null`. -/
theorem reads_index_null : Reads readInt64 nullText (.error (.wrongType .null "i64")) := by
  intro b rest hb _
  have hblanks : Json.blanks (b ++ (nullText ++ rest)) = nullText ++ rest :=
    Json.blanks_append_cons hb (by decide) _
  rw [readInt64, Json.integer64, Json.numeric, hblanks]
  exact ⟨_, rfl⟩

/-! ## Every value -/

theorem settles_endpoint : Settles readEndpoint := by
  intro text h
  obtain ⟨o, hread⟩ := Json.settles_stringFor "socket address" text h
  exact ⟨_, reads_of_stringFor hread⟩

theorem settles_word16 : Settles readWord16 := by
  intro text h
  obtain ⟨o, hread⟩ := Json.settles_numeric "u16" _ text h
  exact ⟨_, hread.map UInt16.ofNat⟩

theorem settles_int64 : Settles readInt64 := by
  intro text h
  obtain ⟨o, hread⟩ := Json.settles_numeric "i64" _ text h
  exact ⟨_, hread.map Int64.ofInt⟩

/-- Every value of every member has an outcome. -/
theorem settled : shape.Settled := by
  have htext := Json.settles_stringFor "a string"
  intro f hf
  simp only [shape, List.mem_cons, List.not_mem_nil, or_false] at hf
  rcases hf with rfl | rfl | rfl | rfl | rfl | rfl | rfl
  · exact Json.settles_of htext true _ _
  · exact Json.settles_of htext true _ _
  · exact Json.settles_of (Json.settles_optional htext) false _ _
  · exact Json.settles_of htext true _ _
  · exact Json.settles_of (Json.settles_optional settles_word16) false _ _
  · exact Json.settles_of settles_int64 false _ _
  · exact Json.settles_of (Json.settles_optional settles_endpoint) false _ _

/-! ## Values that are the same as none -/

/-- Reading a member leaves the parts alone that other members are for. -/
theorem parts_of_reads {p p' : PeerDefinition} {f : Json.Field PeerDefinition}
    (hf : f ∈ shape.fields) (h : Reads (f.read p) text (.ok p')) :
    (f.name ≠ "preshared_key" → p'.presharedKey = p.presharedKey)
      ∧ (f.name ≠ "keep_alive" → p'.keepAlive = p.keepAlive)
      ∧ (f.name ≠ "index" → p'.index = p.index)
      ∧ (f.name ≠ "endpoint" → p'.endpoint = p.endpoint) := by
  simp only [shape, List.mem_cons, List.not_mem_nil, or_false] at hf
  rcases hf with rfl | rfl | rfl | rfl | rfl | rfl | rfl
  · obtain ⟨privateKey, rfl⟩ := Json.exists_put_of_reads h
    exact ⟨fun _ => rfl, fun _ => rfl, fun _ => rfl, fun _ => rfl⟩
  · obtain ⟨publicKey, rfl⟩ := Json.exists_put_of_reads h
    exact ⟨fun _ => rfl, fun _ => rfl, fun _ => rfl, fun _ => rfl⟩
  · obtain ⟨presharedKey, rfl⟩ := Json.exists_put_of_reads h
    exact ⟨fun hne => absurd rfl hne, fun _ => rfl, fun _ => rfl, fun _ => rfl⟩
  · obtain ⟨allowed, rfl⟩ := Json.exists_put_of_reads h
    exact ⟨fun _ => rfl, fun _ => rfl, fun _ => rfl, fun _ => rfl⟩
  · obtain ⟨keepAlive, rfl⟩ := Json.exists_put_of_reads h
    exact ⟨fun _ => rfl, fun hne => absurd rfl hne, fun _ => rfl, fun _ => rfl⟩
  · obtain ⟨index, rfl⟩ := Json.exists_put_of_reads h
    exact ⟨fun _ => rfl, fun _ => rfl, fun hne => absurd rfl hne, fun _ => rfl⟩
  · obtain ⟨endpoint, rfl⟩ := Json.exists_put_of_reads h
    exact ⟨fun _ => rfl, fun _ => rfl, fun _ => rfl, fun hne => absurd rfl hne⟩

/-- `null` for the shared key is as good as nothing. -/
theorem idle_presharedKey :
    ∃ f, f.name = "preshared_key" ∧ shape.Idle (·.presharedKey = none) f nullText := by
  refine ⟨_, rfl, Json.Shape.idle_of (.tail _ (.tail _ (.head _))) .null Json.reads_optional_null
    ?_ fun g hg hne p p' text' h => (parts_of_reads hg h).1 hne⟩
  rintro ⟨⟩ rfl
  rfl

theorem idle_keepAlive :
    ∃ f, f.name = "keep_alive" ∧ shape.Idle (·.keepAlive = none) f nullText := by
  refine ⟨_, rfl, Json.Shape.idle_of (.tail _ (.tail _ (.tail _ (.tail _ (.head _))))) .null
    Json.reads_optional_null ?_ fun g hg hne p p' text' h => (parts_of_reads hg h).2.1 hne⟩
  rintro ⟨⟩ rfl
  rfl

/-- Zero for the index is as good as nothing. -/
theorem idle_index : ∃ f, f.name = "index" ∧ shape.Idle (·.index = 0) f ['0'] := by
  refine ⟨_, rfl, Json.Shape.idle_of (.tail _ (.tail _ (.tail _ (.tail _ (.tail _ (.head _))))))
    (.number ?_) reads_index_zero ?_ fun g hg hne p p' text' h => (parts_of_reads hg h).2.2.1 hne⟩
  · exact ⟨[], _, [], [], .inl rfl, Json.isInteger_zero, .inl rfl, .inl rfl, rfl⟩
  · rintro ⟨⟩ rfl
    rfl

/-- `null` for the endpoint is as good as nothing. -/
theorem idle_endpoint :
    ∃ f, f.name = "endpoint" ∧ shape.Idle (·.endpoint = none) f nullText := by
  refine ⟨_, rfl,
    Json.Shape.idle_of (.tail _ (.tail _ (.tail _ (.tail _ (.tail _ (.tail _ (.head _))))))) .null
      Json.reads_optional_null ?_ fun g hg hne p p' text' h => (parts_of_reads hg h).2.2.2 hne⟩
  rintro ⟨⟩ rfl
  rfl

/-! ## What is written -/

section Writing

variable (layout : Json.Layout) (depth : Nat)

/-- A shared key is read again as it is written, and so is its absence. -/
theorem reads_write_presharedKey (x : Option String) :
    Reads (Json.optional Json.text) ((Json.Value.ofString? x).write layout depth) (.ok x) := by
  cases x with
  | none => exact Json.reads_optional_null
  | some s =>
    have hstring := isString_write layout depth s
    exact Json.reads_optional_string (Json.reads_text hstring) hstring

theorem reads_write_endpoint (x : Option Endpoint) :
    Reads (Json.optional readEndpoint)
      ((Json.Value.ofString? (x.map Endpoint.text)).write layout depth) (.ok x) := by
  cases x with
  | none => exact Json.reads_optional_null
  | some e =>
    have hstring := isString_write layout depth e.text
    exact Json.reads_optional_string (reads_endpoint hstring) hstring

/-- An interval as it is written. -/
def keepAliveJson : Option UInt16 → Json.Value
  | some n => .integer n.toNat
  | none => .null

theorem reads_write_keepAlive (x : Option UInt16) :
    Reads (Json.optional readWord16) ((keepAliveJson x).write layout depth) (.ok x) := by
  cases x with
  | none => exact Json.reads_optional_null
  | some n =>
    have hnatural := isNatural_write layout depth n.toNat
    exact Json.reads_optional_natural (reads_word16 hnatural) hnatural

theorem reads_write_index (i : Int64) :
    Reads readInt64 ((Json.Value.integer i.toInt).write layout depth) (.ok i) := by
  rw [Json.Value.write]
  exact reads_int64 i

/-- Member by member, a definition is read as it was written. -/
theorem reads_write (p : PeerDefinition) :
    Reads shape.read (p.toJson.write layout depth) (.ok p) := by
  have htext (s : String) := Json.reads_text (isString_write layout (depth + 1) s)
  refine Json.Shape.reads_of_runs_named (Json.isObject_write layout depth _) ?_
  refine .reads rfl (by decide) (Json.reads_put (htext p.privateKey) true _ _ _) ?_
  refine .reads rfl (by decide) (Json.reads_put (htext p.publicKey) true _ _ _) ?_
  refine .reads rfl (by decide)
    (Json.reads_put (reads_write_presharedKey layout (depth + 1) p.presharedKey) false _ _ _) ?_
  refine .reads rfl (by decide) (Json.reads_put (htext p.allowed) true _ _ _) ?_
  refine .reads rfl (by decide)
    (Json.reads_put (reads_write_keepAlive layout (depth + 1) p.keepAlive) false _ _ _) ?_
  refine .reads rfl (by decide)
    (Json.reads_put (reads_write_index layout (depth + 1) p.index) false _ _ _) ?_
  refine .reads rfl (by decide)
    (Json.reads_put (reads_write_endpoint layout (depth + 1) p.endpoint) false _ _ _) ?_
  exact .complete rfl

/-- **Definitions are read again as they are written**, in either layout. -/
theorem ofJson_write (p : PeerDefinition) :
    ofJson (String.ofList (p.toJson.write layout 0)) = .ok p := by
  refine Json.read_of_reads (reads_write layout 0 p) Json.blank_nil Json.blank_nil ?_
  rw [String.toList_ofList, List.append_nil, List.nil_append]

end Writing

/-! ## Omissions -/

/-- What becomes of a text, apart from the place of a fault. -/
def outcome (s : String) : Except Cause PeerDefinition := (ofJson s).mapError Json.Fault.cause

/-- The names of the members. -/
def names : List String :=
  ["private_key", "public_key", "preshared_key", "allowed_ips", "keep_alive", "index", "endpoint"]

section Omissions

variable {s s' : String} {text text' part : List Char} {name : String}
  {P : PeerDefinition → Prop} {p : PeerDefinition}

theorem nodup_names : (shape.fields.map Json.Field.name).Nodup := by decide

theorem exists_fault_of_reads {cause : Cause} (hs : Json.Encloses s text)
    (h : Reads shape.read text (.error cause)) : ∃ fault, ofJson s = .error fault := by
  obtain ⟨b, b', hb, hb', hs⟩ := hs
  obtain ⟨unread, hfault⟩ := Json.read_of_reads_error h hb hb' hs
  exact ⟨_, hfault⟩

/-- A member that is as good as nothing changes no outcome. -/
theorem outcome_adds (hidle : ∃ f, f.name = name ∧ shape.Idle P f part) (hinitial : P shape.initial)
    (hs : Json.Encloses s text) (hs' : Json.Encloses s' text')
    (h : Json.Adds names name part text text') : outcome s = outcome s' := by
  obtain ⟨f, rfl, hidle⟩ := hidle
  obtain ⟨o, hreads, hreads'⟩ := Json.Shape.reads_adds nodup_names settled hidle hinitial h
  exact (Json.mapError_read hs hreads).trans (Json.mapError_read hs' hreads').symm

/-- Without an index it is zero. -/
theorem index_of_lacks (hs : Json.Encloses s text) (h : Json.Lacks names "index" text)
    (hp : ofJson s = .ok p) : p.index = 0 := by
  obtain ⟨f, hname, hidle⟩ := idle_index
  rw [← hname] at h
  obtain ⟨o, hreads, hkeeps⟩ := Json.Shape.reads_lacks_idle settled hidle rfl h
  refine hkeeps p ?_
  rw [← Json.mapError_read hs hreads]
  exact congrArg (Except.mapError Json.Fault.cause) hp

/-- The keys and the list of networks must be there. -/
theorem fault_of_lacks (hname : name ∈ ["private_key", "public_key", "allowed_ips"])
    (hs : Json.Encloses s text) (h : Json.Lacks names name text) :
    ∃ fault, ofJson s = .error fault := by
  have hfield : ∃ f ∈ shape.fields, f.name = name ∧ f.required = true := by
    simp only [List.mem_cons, List.not_mem_nil, or_false] at hname
    rcases hname with rfl | rfl | rfl
    · exact ⟨_, .head _, rfl, rfl⟩
    · exact ⟨_, .tail _ (.head _), rfl, rfl⟩
    · exact ⟨_, .tail _ (.tail _ (.tail _ (.head _))), rfl, rfl⟩
  obtain ⟨f, hf, rfl, hrequired⟩ := hfield
  obtain ⟨cause, hreads⟩ := Json.Shape.reads_lacks_required settled hf hrequired h
  exact exists_fault_of_reads hs hreads

/-- `null` is no index. -/
theorem fault_of_index_null (hs : Json.Encloses s text)
    (h : Json.Gives names "index" nullText text) : ∃ fault, ofJson s = .error fault := by
  have hfield : ∃ f ∈ shape.fields, f.name = "index" ∧
      ∀ p p', ¬ Reads (f.read p) nullText (.ok p') := by
    refine ⟨_, .tail _ (.tail _ (.tail _ (.tail _ (.tail _ (.head _))))), rfl, fun p p' h => ?_⟩
    cases h.unique (Json.reads_put reads_index_null false _ _ _)
  obtain ⟨f, hf, hname, hbad⟩ := hfield
  rw [← hname] at h
  obtain ⟨cause, hreads⟩ := Json.Shape.reads_gives_bad nodup_names settled hf hbad h
  exact exists_fault_of_reads hs hreads

end Omissions

/-- **Definitions survive.** Any definition, and so any that a text gives, is read back as it was
from the text that it is written as, on one line or several. For two texts of which the second gives
`null` for a shared key, an interval or an endpoint that the first leaves out, the outcome is the
same: the same definition, or a fault with the same cause. Likewise for an index of zero. An index
that is left out is zero, one that is `null` is a fault, and so is leaving out either key or the
allowed addresses, whatever else there is. The texts may be objects, with other members of any kind
in any order, or lists. -/
theorem definitions_survive :
    (∀ p : PeerDefinition, ofJson p.toJson.compact = .ok p ∧ ofJson p.toJson.pretty = .ok p)
    ∧ (∀ s s' text text', Json.Encloses s text → Json.Encloses s' text' →
        (∀ name ∈ ["preshared_key", "keep_alive", "endpoint"],
          Json.Adds names name nullText text text' → outcome s = outcome s')
        ∧ (Json.Adds names "index" ['0'] text text' → outcome s = outcome s'))
    ∧ ∀ s text, Json.Encloses s text →
        (Json.Lacks names "index" text → ∀ p, ofJson s = .ok p → p.index = 0)
        ∧ (Json.Gives names "index" nullText text → ∃ fault, ofJson s = .error fault)
        ∧ ∀ name ∈ ["private_key", "public_key", "allowed_ips"],
            Json.Lacks names name text → ∃ fault, ofJson s = .error fault := by
  refine ⟨fun p => ⟨ofJson_write .compact p, ofJson_write .lines p⟩, ?_, ?_⟩
  · intro s s' text text' hs hs'
    refine ⟨fun name hname h => ?_, outcome_adds idle_index rfl hs hs'⟩
    -- each of the three fields starts with the value that `null` gives
    simp only [List.mem_cons, List.not_mem_nil, or_false] at hname
    rcases hname with rfl | rfl | rfl
    · exact outcome_adds idle_presharedKey rfl hs hs' h
    · exact outcome_adds idle_keepAlive rfl hs hs' h
    · exact outcome_adds idle_endpoint rfl hs hs' h
  · intro s text hs
    exact ⟨fun h p hp => index_of_lacks hs h hp, fault_of_index_null hs,
      fun name hname => fault_of_lacks hname hs⟩

/-- A definition whose private key is written with an escape, with an address of the sixth version.
It has no shared key, no interval, and an index of zero. -/
def sparseSample : PeerDefinition := ⟨"a\"b", "", none, "", none, 0, some (.v6 1 0 9)⟩

/-- Two of its members. -/
def keyMembers : List (String × Json.Value) :=
  [("private_key", .string "a\"b"), ("public_key", .string "")]

/-- Two more. -/
def otherMembers : List (String × Json.Value) :=
  [("allowed_ips", .string ""), ("endpoint", .string "[::1]:9")]

/-- Four members are a text of the definition. With `null` for the shared key among them the text is
one of the same definition. Without the private key, or with `null` for the index, it is none. -/
theorem definitions_survive_sparse :
    let sparse := (Json.Value.object (keyMembers ++ otherMembers)).compact
    let keyed :=
      (Json.Value.object (keyMembers ++ ("preshared_key", .null) :: otherMembers)).compact
    let keyless := (Json.Value.object otherMembers).compact
    let unindexed := (Json.Value.object (("index", .null) :: (keyMembers ++ otherMembers))).compact
    ofJson sparseSample.toJson.compact = .ok sparseSample
      ∧ ofJson sparse = .ok sparseSample ∧ outcome keyed = .ok sparseSample
      ∧ sparseSample.index = 0
      ∧ (∃ fault, ofJson keyless = .error fault) ∧ ∃ fault, ofJson unindexed = .error fault := by
  intro sparse keyed keyless unindexed
  have hothers : ∀ m ∈ otherMembers, Json.IsValue (m.2.write .compact 1) := by
    intro m hm
    simp only [otherMembers, List.mem_cons, List.not_mem_nil, or_false] at hm
    rcases hm with rfl | rfl <;> exact Json.isValue_quote _
  have hmembers : ∀ m ∈ keyMembers ++ otherMembers, Json.IsValue (m.2.write .compact 1) := by
    intro m hm
    rcases List.mem_append.mp hm with hm | hm
    · simp only [keyMembers, List.mem_cons, List.not_mem_nil, or_false] at hm
      rcases hm with rfl | rfl <;> exact Json.isValue_quote _
    · exact hothers m hm
  have hindexed : ∀ m ∈ ("index", Json.Value.null) :: (keyMembers ++ otherMembers),
      Json.IsValue (m.2.write .compact 1) := List.forall_mem_cons.mpr ⟨.null, hmembers⟩
  -- the text without a shared key is read once, and the others are held against it
  have hsparse : ofJson sparse = .ok sparseSample := by decide +kernel
  obtain ⟨hround, hsame, hleft⟩ := definitions_survive
  have hkeyed := (hsame sparse keyed _ _ (Json.encloses_compact _) (Json.encloses_compact _)).1
    "preshared_key" (by decide) (Json.adds_write names .null hmembers (by decide))
  have hindex := (hleft sparse _ (Json.encloses_compact _)).1
    (Json.lacks_write names hmembers (by decide))
  have hkeyless := (hleft keyless _ (Json.encloses_compact _)).2.2
    "private_key" (by decide) (Json.lacks_write names hothers (by decide))
  have hunindexed := (hleft unindexed _ (Json.encloses_compact _)).2.1
    (Json.gives_write names .null hindexed List.mem_cons_self)
  refine ⟨(hround sparseSample).1, hsparse, ?_, hindex _ hsparse, hkeyless, hunindexed⟩
  rw [← hkeyed, outcome, hsparse]
  rfl

end PeerDefinition

end TunnelHost
