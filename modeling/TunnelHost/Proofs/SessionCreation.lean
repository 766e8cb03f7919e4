import TunnelHost.Host.Step
import TunnelHost.Proofs.Base64
import TunnelHost.Proofs.RegistryLookup

/-!
# Creating a session

A session is created if a session family is registered, what it is created from passes five checks
and the engine does not refuse. The checks have an order, and the first one that fails is the one
that is told of.

- `SessionCheck`: the checks, with what each demands and the error of its failure.
- `SessionCheck.FirstToFail`: the check that is told of.
- `SessionInput.Conveys`: what the engine is told of what it is given.
- `SessionInput.check_eq_ok_iff`, `SessionInput.check_eq_error_iff`: the checks in the program.
- `Host.Creates`: what an attempt leads to, with everything that it changes.
- `Host.createSession_outcome`: attempts in the program.
-/

namespace TunnelHost

/-! ## The checks -/

/-- The checks on what a session is created from. -/
inductive SessionCheck where
  | privateKey
  | publicKey
  | presharedKey
  | keepAlive
  | index
  deriving DecidableEq, Repr

namespace SessionCheck

/-- The checks in their order. -/
def all : List SessionCheck := [privateKey, publicKey, presharedKey, keepAlive, index]

/-- The checks that come before a check. -/
def before (c : SessionCheck) : List SessionCheck := all.takeWhile (· ≠ c)

/-- What a check demands. A key text is the base64 form of 32 bytes. -/
def Holds (policy : IndexPolicy) (i : SessionInput) : SessionCheck → Prop
  | privateKey => ∃ k : Key, i.privateKey = k.toText
  | publicKey => ∃ k : Key, i.publicKey = k.toText
  | presharedKey => i.presharedKey = "" ∨ ∃ k : Key, i.presharedKey = k.toText
  | keepAlive => 1 ≤ i.keepAlive ∧ i.keepAlive ≤ 65535
  | index =>
    (-2147483648 ≤ i.index ∧ i.index ≤ 2147483647) ∧ (policy = .positiveOnly → 1 ≤ i.index)

/-- The error of a check that fails, with the number that was given. -/
def fault (i : SessionInput) : SessionCheck → SessionError
  | privateKey => .invalidPrivateKey
  | publicKey => .invalidPublicKey
  | presharedKey => .invalidPresharedKey
  | keepAlive => .invalidKeepAlive i.keepAlive
  | index =>
    .invalidIndex i.index <|
      if -2147483648 ≤ i.index ∧ i.index ≤ 2147483647 then "must be at least 1"
      else "must fit in a signed 32-bit integer"

/-- A check fails, and those before it do not. -/
structure FirstToFail (policy : IndexPolicy) (i : SessionInput) (c : SessionCheck) : Prop where
  fails : ¬ c.Holds policy i
  earlier : ∀ d ∈ c.before, d.Holds policy i

/-- Either every check holds or one is the first to fail. -/
theorem holds_or_firstToFail (policy : IndexPolicy) (i : SessionInput) :
    (∀ c : SessionCheck, c.Holds policy i) ∨ ∃ c, FirstToFail policy i c := by
  -- in the order of the checks, so that those before a failing one are known to hold
  by_cases h₁ : privateKey.Holds policy i
  · by_cases h₂ : publicKey.Holds policy i
    · by_cases h₃ : presharedKey.Holds policy i
      · by_cases h₄ : keepAlive.Holds policy i
        · by_cases h₅ : index.Holds policy i
          · left
            intro c
            cases c with
            | privateKey => exact h₁
            | publicKey => exact h₂
            | presharedKey => exact h₃
            | keepAlive => exact h₄
            | index => exact h₅
          · exact .inr ⟨index, h₅, by simp [before, all, h₁, h₂, h₃, h₄]⟩
        · exact .inr ⟨keepAlive, h₄, by simp [before, all, h₁, h₂, h₃]⟩
      · exact .inr ⟨presharedKey, h₃, by simp [before, all, h₁, h₂]⟩
    · exact .inr ⟨publicKey, h₂, by simp [before, all, h₁]⟩
  · exact .inr ⟨privateKey, h₁, by simp [before, all]⟩

end SessionCheck

/-! ## What the engine is told -/

namespace SessionInput

/-- What the engine is told of what a session is created from: the key texts as they are, no
pre-shared key for an empty text, the same interval, and the index as a word, which gives the signed
number back. -/
structure Conveys (i : SessionInput) (a : TunnelArguments) : Prop where
  privateKey : a.privateKey = i.privateKey
  publicKey : a.publicKey = i.publicKey
  presharedKey : a.presharedKey = if i.presharedKey = "" then none else some i.presharedKey
  keepAlive : (a.keepAlive.toNat : Int) = i.keepAlive
  index : (a.index.toNat : Int) = i.index % 4294967296
  signed : a.index.toBitVec.toInt = i.index

/-- There is only one way to tell it. -/
theorem Conveys.unique {i : SessionInput} {a a' : TunnelArguments} (h : i.Conveys a)
    (h' : i.Conveys a') : a = a' := by
  have hkeepAlive : a.keepAlive = a'.keepAlive := by
    have := h.keepAlive.trans h'.keepAlive.symm
    exact UInt16.toNat_inj.mp (by omega)
  have hindex : a.index = a'.index := by
    have := h.index.trans h'.index.symm
    exact UInt32.toNat_inj.mp (by omega)
  cases a
  cases a'
  have hpriv := h.privateKey.trans h'.privateKey.symm
  have hpub := h.publicKey.trans h'.publicKey.symm
  have hpre := h.presharedKey.trans h'.presharedKey.symm
  dsimp only at hkeepAlive hindex hpriv hpub hpre
  rw [hkeepAlive, hindex, hpriv, hpub, hpre]

/-! ## Each check in the program -/

section Each

variable (i : SessionInput) (policy : IndexPolicy)

theorem checkKey_eq_ok {s : String} (fault : SessionError) (h : ∃ k : Key, s = k.toText) :
    checkKey s fault = .ok () := by
  rw [checkKey, if_pos (Key.isText_iff.mpr h)]

theorem checkKey_eq_error {s : String} (fault : SessionError) (h : ¬ ∃ k : Key, s = k.toText) :
    checkKey s fault = .error fault := by
  rw [checkKey, if_neg (mt Key.isText_iff.mp h)]

/-- A shared key passes as it is, and an empty one as none. -/
theorem checkPreshared_eq_ok {s : String} (h : s = "" ∨ ∃ k : Key, s = k.toText) :
    checkPreshared s = .ok (if s = "" then none else some s) := by
  rw [checkPreshared]
  by_cases hempty : s = ""
  · rw [if_pos hempty, if_pos (String.isEmpty_iff.mpr hempty)]
  · have hkey := h.resolve_left hempty
    rw [if_neg hempty, if_neg (mt String.isEmpty_iff.mp hempty), if_pos (Key.isText_iff.mpr hkey)]

theorem checkPreshared_eq_error {s : String} (h : ¬ (s = "" ∨ ∃ k : Key, s = k.toText)) :
    checkPreshared s = .error .invalidPresharedKey := by
  obtain ⟨hempty, hkey⟩ := not_or.mp h
  rw [checkPreshared, if_neg (mt String.isEmpty_iff.mp hempty), if_neg (mt Key.isText_iff.mp hkey)]

theorem checkKeepAlive_eq_ok {value : Int} (h : 1 ≤ value ∧ value ≤ 65535) :
    checkKeepAlive value = .ok (UInt16.ofNat value.toNat) := by
  have hrange : (1 ≤ value && value ≤ 65535) = true := by simp; omega
  rw [checkKeepAlive, if_pos hrange]

theorem checkKeepAlive_eq_error {value : Int} (h : ¬ (1 ≤ value ∧ value ≤ 65535)) :
    checkKeepAlive value = .error (.invalidKeepAlive value) := by
  have hrange : ¬ (1 ≤ value && value ≤ 65535) = true := by simp; omega
  rw [checkKeepAlive, if_neg hrange]

/-- An index that the policy allows passes as a word. -/
theorem checkIndex_eq_ok (h : SessionCheck.index.Holds policy i) :
    checkIndex policy i.index = .ok (IndexPolicy.word i.index) := by
  obtain ⟨hfits, hpositive⟩ := h
  have hfits' : IndexPolicy.fits i.index = true := by simp [IndexPolicy.fits]; omega
  have hpositive' : ¬ (policy = .positiveOnly && decide (i.index < 1)) = true := by
    simp only [Bool.and_eq_true, decide_eq_true_eq]
    intro hlow
    have := hpositive hlow.1
    omega
  simp only [checkIndex, IndexPolicy.check, hfits', Bool.not_true, Bool.false_eq_true, if_false]
  rw [if_neg hpositive']
  rfl

/-- An index that is refused is told with the reason: out of range, or not as the policy has it. -/
theorem checkIndex_eq_error (h : ¬ SessionCheck.index.Holds policy i) :
    checkIndex policy i.index = .error (SessionCheck.index.fault i) := by
  by_cases hfits : -2147483648 ≤ i.index ∧ i.index ≤ 2147483647
  · have hfits' : IndexPolicy.fits i.index = true := by simp [IndexPolicy.fits]; omega
    have hpositive : ¬ (policy = .positiveOnly → 1 ≤ i.index) := fun hpositive =>
      h ⟨hfits, hpositive⟩
    obtain ⟨hpolicy, hone⟩ := Decidable.not_imp_iff_and_not.mp hpositive
    have hlow : (policy = .positiveOnly && decide (i.index < 1)) = true := by
      simp only [hpolicy, decide_true, Bool.true_and, decide_eq_true_eq]
      omega
    simp only [checkIndex, IndexPolicy.check, hfits', Bool.not_true, Bool.false_eq_true, if_false]
    rw [if_pos hlow, SessionCheck.fault, if_pos hfits]
    rfl
  · have hfits' : IndexPolicy.fits i.index = false := by simp [IndexPolicy.fits]; omega
    simp only [checkIndex, IndexPolicy.check, hfits', Bool.not_false, if_true]
    rw [SessionCheck.fault, if_neg hfits]
    rfl

end Each

/-! ## All checks in the program -/

/-- What the engine is told of what passes all checks. -/
def told (i : SessionInput) : TunnelArguments where
  privateKey := i.privateKey
  publicKey := i.publicKey
  presharedKey := if i.presharedKey = "" then none else some i.presharedKey
  keepAlive := UInt16.ofNat i.keepAlive.toNat
  index := IndexPolicy.word i.index

/-- What the engine is told conveys what passed the checks. -/
theorem conveys_told {i : SessionInput} {policy : IndexPolicy}
    (hkeepAlive : SessionCheck.keepAlive.Holds policy i)
    (hindex : SessionCheck.index.Holds policy i) : i.Conveys i.told := by
  obtain ⟨hleast, hmost⟩ := hkeepAlive
  obtain ⟨⟨hlow, hhigh⟩, -⟩ := hindex
  have hword : ((IndexPolicy.word i.index).toNat : Int) = i.index % 4294967296 := by
    rw [IndexPolicy.word, UInt32.toNat_ofNat']
    omega
  refine ⟨rfl, rfl, rfl, ?_, hword, ?_⟩
  · show ((UInt16.ofNat i.keepAlive.toNat).toNat : Int) = i.keepAlive
    rw [UInt16.toNat_ofNat']
    omega
  -- the upper half of the words stands for the negative numbers
  · show (IndexPolicy.word i.index).toBitVec.toInt = i.index
    rw [BitVec.toInt_eq_toNat_cond, UInt32.toNat_toBitVec]
    split <;> omega

/-- What passes every check is told to the engine. -/
theorem check_of_holds {i : SessionInput} {policy : IndexPolicy}
    (h : ∀ c : SessionCheck, c.Holds policy i) : i.check policy = .ok i.told := by
  rw [check, checkKey_eq_ok _ (h .privateKey), checkKey_eq_ok _ (h .publicKey),
    checkPreshared_eq_ok (h .presharedKey), checkKeepAlive_eq_ok (h .keepAlive),
    checkIndex_eq_ok i policy (h .index)]
  rfl

/-- Of what does not, the first check that fails is told. -/
theorem check_of_firstToFail {i : SessionInput} {policy : IndexPolicy} {c : SessionCheck}
    (h : c.FirstToFail policy i) : i.check policy = .error (c.fault i) := by
  have earlier : ∀ d, d ∈ c.before → d.Holds policy i := h.earlier
  -- every check before the failing one lets the program go on to the next
  unfold check
  cases c with
  | privateKey =>
    rw [checkKey_eq_error _ h.fails]
    rfl
  | publicKey =>
    rw [checkKey_eq_ok _ (earlier .privateKey (by decide)), checkKey_eq_error _ h.fails]
    rfl
  | presharedKey =>
    rw [checkKey_eq_ok _ (earlier .privateKey (by decide)),
      checkKey_eq_ok _ (earlier .publicKey (by decide)), checkPreshared_eq_error h.fails]
    rfl
  | keepAlive =>
    rw [checkKey_eq_ok _ (earlier .privateKey (by decide)),
      checkKey_eq_ok _ (earlier .publicKey (by decide)),
      checkPreshared_eq_ok (earlier .presharedKey (by decide)), checkKeepAlive_eq_error h.fails]
    rfl
  | index =>
    rw [checkKey_eq_ok _ (earlier .privateKey (by decide)),
      checkKey_eq_ok _ (earlier .publicKey (by decide)),
      checkPreshared_eq_ok (earlier .presharedKey (by decide)),
      checkKeepAlive_eq_ok (earlier .keepAlive (by decide)), checkIndex_eq_error i policy h.fails]
    rfl

/-- The checks pass together if each passes. -/
theorem check_eq_ok_iff {i : SessionInput} {policy : IndexPolicy} {a : TunnelArguments} :
    i.check policy = .ok a ↔ (∀ c : SessionCheck, c.Holds policy i) ∧ i.Conveys a := by
  refine ⟨fun h => ?_, fun ⟨hall, ha⟩ => ?_⟩
  · rcases SessionCheck.holds_or_firstToFail policy i with hall | ⟨c, hc⟩
    · rw [check_of_holds hall] at h
      cases h
      exact ⟨hall, conveys_told (hall .keepAlive) (hall .index)⟩
    · rw [check_of_firstToFail hc] at h
      cases h
  · rw [check_of_holds hall, ha.unique (conveys_told (hall .keepAlive) (hall .index))]

/-- They fail with the fault of the first that fails. -/
theorem check_eq_error_iff {i : SessionInput} {policy : IndexPolicy} {e : SessionError} :
    i.check policy = .error e ↔ ∃ c : SessionCheck, c.FirstToFail policy i ∧ e = c.fault i := by
  refine ⟨fun h => ?_, fun ⟨c, hc, he⟩ => ?_⟩
  · rcases SessionCheck.holds_or_firstToFail policy i with hall | ⟨c, hc⟩
    · rw [check_of_holds hall] at h
      cases h
    · rw [check_of_firstToFail hc] at h
      cases h
      exact ⟨c, hc, rfl⟩
  · rw [check_of_firstToFail hc, he]

end SessionInput

/-! ## The family in the registry -/

theorem Content.family?_eq_some_iff {c : Content} {f : SessionFamily} :
    c.family? = some f ↔ c = .family f := by
  cases c <;> simp [Content.family?]

namespace Session

variable {β : Type} {E : Engine β} {id : Nat} {family : Handle SessionFamily}
  {a : TunnelArguments} {state state' : E.State}

theorem create?_of_refused (h : E.create a state = (state', none)) :
    create? id family a state = (state', none) := by
  rw [create?, h]
  rfl

theorem create?_of_created {tunnel : E.Handle} (h : E.create a state = (state', some tunnel)) :
    create? id family a state
      = (state', some { id, arguments := a, family, tunnel, output := .zeroed E.zero _ }) := by
  rw [create?, h]
  rfl

end Session

namespace Host

variable {β : Type} {E : Engine β}

/-- A bridge's registry holds a session family. -/
def Offers (h : Host E) (b : Bridge) (family : Handle SessionFamily) : Prop :=
  ∃ context, (h.registryOf b).find? familyKey
    = some ⟨⟨family.serial, .family family.value⟩, context⟩

/-- A registry that is gone is as good as an empty one. -/
theorem family_eq_getAs (h : Host E) (b : Bridge) :
    h.family b = (h.registryOf b).getAs familyKey (familyTypeName E) Content.family? := by
  rw [family, registryOf]
  cases h.board.registry? b.registry with
  | none => rfl
  | some r => rfl

/-- What a bridge's registry may hold where the family belongs. -/
theorem absent_or_foreign_or_offers (h : Host E) (b : Bridge) :
    (h.registryOf b).find? familyKey = none
      ∨ (∃ x, (h.registryOf b).find? familyKey = some x ∧ x.handle.value.family? = none)
      ∨ ∃ family, h.Offers b family := by
  cases hfind : (h.registryOf b).find? familyKey with
  | none => exact .inl rfl
  | some x =>
    cases hfamily : x.handle.value.family? with
    | none => exact .inr (.inl ⟨x, rfl, hfamily⟩)
    | some f =>
      refine .inr (.inr ⟨⟨x.handle.serial, f⟩, x.context, ?_⟩)
      rw [hfind, ← Content.family?_eq_some_iff.mp hfamily]

theorem family_of_offers {h : Host E} {b : Bridge} {family : Handle SessionFamily}
    (hoffers : h.Offers b family) : h.family b = .ok family := by
  obtain ⟨context, hfind⟩ := hoffers
  rw [family_eq_getAs, Registry.getAs_of_find?_some _ _ _ _ hfind]
  rfl

/-- A family is found where the registry offers one. -/
theorem family_eq_ok_iff {h : Host E} {b : Bridge} {family : Handle SessionFamily} :
    h.family b = .ok family ↔ h.Offers b family := by
  refine ⟨fun hfamily => ?_, family_of_offers⟩
  rcases h.absent_or_foreign_or_offers b with hnone | ⟨x, hfind, hforeign⟩ | ⟨family', hoffers⟩
  · rw [family_eq_getAs, Registry.getAs_of_find?_none _ _ _ _ hnone] at hfamily
    cases hfamily
  · rw [family_eq_getAs, Registry.getAs_of_find?_some _ _ _ _ hfind, hforeign] at hfamily
    cases hfamily
  · rw [family_of_offers hoffers] at hfamily
    cases hfamily
    exact hoffers

/-! ## Attempts -/

/-- What an attempt to create a session leads to: the host after it, and the session or the error.
-/
inductive Creates (h : Host E) (b : Bridge) (i : SessionInput) :
    Host E → Except HostError (Session E) → Prop
  /-- No family is registered; nothing changes. -/
  | absent (hnone : (h.registryOf b).find? familyKey = none) :
      Creates h b i h (.error (.registry (.notFound familyKey)))
  /-- Something else is registered in its place; nothing changes. -/
  | foreign (x : Reference Content) (hfind : (h.registryOf b).find? familyKey = some x)
      (hforeign : x.handle.value.family? = none) :
      Creates h b i h (.error (.registry (.wrongType familyKey (familyTypeName E))))
  /-- A check fails; nothing changes. -/
  | invalid (family : Handle SessionFamily) (hfamily : h.Offers b family) (c : SessionCheck)
      (hc : c.FirstToFail family.value.config.session.policy i) :
      Creates h b i h (.error (.session (c.fault i)))
  /-- The engine is asked once, and refuses. Only its own state may change. -/
  | refused (family : Handle SessionFamily) (hfamily : h.Offers b family)
      (hchecks : ∀ c : SessionCheck, c.Holds family.value.config.session.policy i)
      (a : TunnelArguments) (ha : i.Conveys a) (state : E.State)
      (hengine : E.create a (h.engineState family.value.engine) = (state, none)) :
      Creates h b i (h.setEngine family.value.engine state)
        (.error (.session .creationFailed))
  /-- The engine is asked once, and does not refuse. The session gets the next id. -/
  | created (family : Handle SessionFamily) (hfamily : h.Offers b family)
      (hchecks : ∀ c : SessionCheck, c.Holds family.value.config.session.policy i)
      (a : TunnelArguments) (ha : i.Conveys a) (state : E.State) (tunnel : E.Handle)
      (hengine : E.create a (h.engineState family.value.engine) = (state, some tunnel)) :
      Creates h b i
        { h.setEngine family.value.engine state with nextSession := h.nextSession + 1 }
        (.ok { id := h.nextSession, arguments := a, family, tunnel, output := .zeroed E.zero _ })

/-- Every creation has an outcome. -/
theorem exists_creates (h : Host E) (b : Bridge) (i : SessionInput) :
    ∃ h' result, Creates h b i h' result := by
  rcases h.absent_or_foreign_or_offers b with hnone | ⟨x, hfind, hforeign⟩ | ⟨family, hfamily⟩
  · exact ⟨_, _, .absent hnone⟩
  · exact ⟨_, _, .foreign x hfind hforeign⟩
  · rcases SessionCheck.holds_or_firstToFail family.value.config.session.policy i with
      hchecks | ⟨c, hc⟩
    · have ha := SessionInput.conveys_told (hchecks .keepAlive) (hchecks .index)
      rcases hengine : E.create i.told (h.engineState family.value.engine) with ⟨state, _ | tunnel⟩
      · exact ⟨_, _, .refused family hfamily hchecks i.told ha state hengine⟩
      · exact ⟨_, _, .created family hfamily hchecks i.told ha state tunnel hengine⟩
    · exact ⟨_, _, .invalid family hfamily c hc⟩

/-- The outcome is what the relation says. -/
theorem createSession_of_creates {h h' : Host E} {b : Bridge} {i : SessionInput}
    {result : Except HostError (Session E)} (hcreates : Creates h b i h' result) :
    h.createSession b i = (h', result) := by
  unfold createSession
  -- the cases are the ways that a creation may end, in the order of its checks
  cases hcreates with
  | absent hnone =>
    rw [family_eq_getAs, Registry.getAs_of_find?_none _ _ _ _ hnone]
  | foreign x hfind hforeign =>
    rw [family_eq_getAs, Registry.getAs_of_find?_some _ _ _ _ hfind, hforeign]
  | invalid family hfamily c hc =>
    rw [family_of_offers hfamily]
    dsimp only
    rw [SessionInput.check_of_firstToFail hc]
  | refused family hfamily hchecks a ha state hengine =>
    rw [family_of_offers hfamily]
    dsimp only
    rw [SessionInput.check_eq_ok_iff.mpr ⟨hchecks, ha⟩]
    dsimp only
    rw [Session.create?_of_refused hengine]
  | created family hfamily hchecks a ha state tunnel hengine =>
    rw [family_of_offers hfamily]
    dsimp only
    rw [SessionInput.check_eq_ok_iff.mpr ⟨hchecks, ha⟩]
    dsimp only
    rw [Session.create?_of_created hengine]

/-- The relation tells all outcomes, and each of them once. -/
theorem createSession_eq_iff {h h' : Host E} {b : Bridge} {i : SessionInput}
    {result : Except HostError (Session E)} :
    h.createSession b i = (h', result) ↔ Creates h b i h' result := by
  refine ⟨fun heq => ?_, createSession_of_creates⟩
  -- there is something that the attempt leads to, and nothing else can be equal to it
  obtain ⟨h'', result', hcreates⟩ := exists_creates h b i
  rw [createSession_of_creates hcreates] at heq
  cases heq
  exact hcreates

/-- **What creating a session leads to.** For every engine and every state of a host, an attempt
leads to what `Creates` says and to nothing else. It succeeds exactly if a family is registered,
every check holds and the engine, told what it is given, does not refuse. With any other error
than a refusal the host is as it was, engines, ids and registries included. -/
theorem createSession_outcome (h : Host E) (b : Bridge) (i : SessionInput) :
    (∀ h' result, h.createSession b i = (h', result) ↔ Creates h b i h' result)
      ∧ ((∃ s, (h.createSession b i).2 = .ok s) ↔
          ∃ family, h.Offers b family
            ∧ (∀ c : SessionCheck, c.Holds family.value.config.session.policy i)
            ∧ ∃ a tunnel, i.Conveys a
              ∧ (E.create a (h.engineState family.value.engine)).2 = some tunnel)
      ∧ ∀ e, (h.createSession b i).2 = .error e → e ≠ .session .creationFailed →
          (h.createSession b i).1 = h := by
  have hcreates : Creates h b i (h.createSession b i).1 (h.createSession b i).2 :=
    createSession_eq_iff.mp rfl
  refine ⟨fun h' result => createSession_eq_iff, ⟨?_, ?_⟩, ?_⟩
  · intro ⟨s, hs⟩
    rw [hs] at hcreates
    -- the host has to be a variable to tell the cases of the outcome
    generalize (h.createSession b i).1 = h' at hcreates
    cases hcreates with
    | created family hfamily hchecks a ha state tunnel hengine =>
      exact ⟨family, hfamily, hchecks, a, tunnel, ha, by rw [hengine]⟩
  · intro ⟨family, hfamily, hchecks, a, tunnel, ha, hengine⟩
    have hcreated := createSession_of_creates
      (.created family hfamily hchecks a ha _ tunnel (Prod.ext rfl hengine))
    rw [hcreated]
    exact ⟨_, rfl⟩
  · intro e he hrefused
    rw [he] at hcreates
    generalize (h.createSession b i).1 = h' at hcreates ⊢
    cases hcreates with
    | absent => rfl
    | foreign => rfl
    | invalid => rfl
    | refused => exact absurd rfl hrefused

end Host

end TunnelHost
