import TunnelHost.Proofs.HandleConservation
import TunnelHost.Proofs.VeiledHost

/-!
# Secrets of sessions

Private keys and shared keys are kept by sessions and handed to engines, and show nowhere else. Two
runs over scripted engines that differ in nothing but these keys look the same, all along: answers,
errors, envelopes and routes, events that are reported, lines that handlers are told, and what is
told of sessions, peers and bridges in words.

- `SessionInput.Swaps`, `Step.Swaps`, `Scripted.Move.Swaps`: other keys in place of keys, and other
  texts in place of those that are none.
- `Answer.redacted`, `Scripted.redacted`: everything but the secrets themselves.
- `Scripted.Sight`, `Scripted.sights`: what can be seen of a run.
- `Scripted.veil`: scripted engines do not look into secrets.
- `Scripted.secrets_unseen`: the law. Steps with other secrets have the same veil, and a veil
  changes nothing of what can be seen.
-/

namespace TunnelHost

variable {β : Type}

/-! ## Other secrets -/

/-- Another shared key: both are absent, or none is, and both are keys, or none is. -/
structure SwapsShared (s s' : String) : Prop where
  absent : s.isEmpty = s'.isEmpty
  valid : Key.isText s = Key.isText s'

/-- The same with other secrets. -/
structure SessionInput.Swaps (i i' : SessionInput) : Prop where
  privateKey : Key.isText i.privateKey = Key.isText i'.privateKey
  presharedKey : SwapsShared i.presharedKey i'.presharedKey
  publicKey : i.publicKey = i'.publicKey
  keepAlive : i.keepAlive = i'.keepAlive
  index : i.index = i'.index

/-- The same peer with other secrets. -/
structure PeerDefinition.Swaps (d d' : PeerDefinition) : Prop where
  privateKey : Key.isText d.privateKey = Key.isText d'.privateKey
  presharedKey : SwapsShared (d.presharedKey.getD "") (d'.presharedKey.getD "")
  publicKey : d.publicKey = d'.publicKey
  allowed : d.allowed = d'.allowed
  keepAlive : d.keepAlive = d'.keepAlive
  index : d.index = d'.index
  endpoint : d.endpoint = d'.endpoint

/-- The same step, perhaps with other secrets. -/
inductive Step.Swaps : Step β → Step β → Prop where
  | same (s : Step β) : Swaps s s
  | addSession (name bridge : String) {i i' : SessionInput} (h : i.Swaps i') :
      Swaps (.addSession name bridge i) (.addSession name bridge i')
  | definePeer (name bridge : String) {d d' : PeerDefinition} (h : d.Swaps d') :
      Swaps (.definePeer name bridge d) (.definePeer name bridge d')

theorem Key.standIn_congr {s s' : String} (h : isText s = isText s') :
    standIn s = standIn s' := by
  rw [standIn, h, standIn]

/-- A swap of shared keys does not show in the stand-ins. -/
theorem SwapsShared.veiled {s s' : String} (h : SwapsShared s s') :
    SessionInput.veiledPreshared s = SessionInput.veiledPreshared s' := by
  rw [SessionInput.veiledPreshared, SessionInput.veiledPreshared, h.absent,
    Key.standIn_congr h.valid]

/-- A swap of secrets does not show in the veiled step. -/
theorem Step.Swaps.veiled {s s' : Step β} (h : s.Swaps s') : s.veiled = s'.veiled := by
  cases h with
  | same => rfl
  | addSession name bridge h =>
    simp only [Step.veiled, SessionInput.veiled, Key.standIn_congr h.privateKey,
      h.presharedKey.veiled, h.publicKey, h.keepAlive, h.index]
  | definePeer name bridge h =>
    simp only [Step.veiled, PeerDefinition.veiled, Key.standIn_congr h.privateKey,
      h.presharedKey.veiled, h.publicKey, h.allowed, h.keepAlive, h.index, h.endpoint]

/-! ## Everything but secrets -/

/-- The arguments with blanks for secrets. It still shows whether there is a shared key. -/
def TunnelArguments.redacted (a : TunnelArguments) : TunnelArguments :=
  { a with privateKey := "", presharedKey := a.presharedKey.map fun _ => "" }

/-- What is learned from a step, with blanks for secrets. -/
def Answer.redacted (a : Answer β) : Answer β := a.mapArguments TunnelArguments.redacted

/-- Blanks show as much of a stand-in as of the secret. -/
theorem TunnelArguments.redacted_veiled (a : TunnelArguments) : a.veiled.redacted = a.redacted := by
  rw [redacted, veiled, redacted, Option.map_map]
  rfl

/-- Two changes of arguments, one after the other, are one. -/
theorem Host.mapArguments_mapArguments {E : Engine β}
    {f g k : TunnelArguments → TunnelArguments} {hide hide' hide'' : E.State → E.State}
    (hk : ∀ a, g (f a) = k a) (hhide : ∀ s, hide' (hide s) = hide'' s) (h : Host E) :
    (h.mapArguments f hide).mapArguments g hide' = h.mapArguments k hide'' := by
  have hsession : ∀ s : Session E, (s.mapArguments f).mapArguments g = s.mapArguments k :=
    fun s => congrArg (fun arguments => { s with arguments }) (hk s.arguments)
  have hpeer : ∀ p : Peer E, (p.mapArguments f).mapArguments g = p.mapArguments k :=
    fun p => congrArg (fun session => { p with session }) (hsession p.session)
  have hengines : (h.engines.map hide).map hide' = h.engines.map hide'' := by
    rw [List.map_map]
    exact List.map_congr_left fun s _ => hhide s
  rw [mapArguments, mapArguments, mapArguments, hengines, mapNamed_mapNamed hsession,
    mapNamed_mapNamed hpeer]

namespace Scripted

/-- The same move, perhaps with other secrets. -/
inductive Move.Swaps : Move → Move → Prop where
  | step {s s' : Step UInt8} (h : s.Swaps s') : Swaps (.step s) (.step s')
  | direct (id : Nat) (d : Direction) : Swaps (.direct id d) (.direct id d)

/-- The state of an engine with blanks for the secrets that it has recorded. -/
def State.redacted (s : State) : State :=
  { s with created := s.created.map TunnelArguments.redacted }

/-- A host with blanks for secrets. Everything else that it has in hand is there. -/
def redacted (h : Host engine) : Host engine :=
  h.mapArguments TunnelArguments.redacted State.redacted

/-- What can be seen of a move, and of the host after it. -/
structure Sight where
  /-- What is learned, if anything is. -/
  answer : Option (Answer UInt8)
  reports : List Event
  /-- All names, sessions, peers, bridges, registries and engines, the calls of handlers and all
  counters. -/
  host : Host engine
  /-- Sessions, peers and bridges in words. -/
  sessionTexts : List (String × String)
  peerTexts : List (String × String)
  bridgeTexts : List (String × String)

/-- What can be seen of a move, given how a network is put into words. -/
def sight (networkText : Network → String) (h : Host engine) (m : Move) : Sight where
  answer := match m with
    | .step s => some (h.step s).2.redacted
    | .direct _ _ => none
  reports := match m with
    | .step s => h.reports s
    | .direct _ _ => []
  host := redacted (enact h m)
  sessionTexts := mapNamed Session.describe (enact h m).sessions
  peerTexts := mapNamed (Peer.describe networkText) (enact h m).peers
  bridgeTexts := mapNamed (enact h m).describeBridge (enact h m).bridges

/-- What can be seen of several moves. -/
def sights (networkText : Network → String) (h : Host engine) : List Move → List Sight
  | [] => []
  | m :: rest => sight networkText h m :: sights networkText (enact h m) rest

/-! ## The scripted engine looks at no secrets -/

/-- The state of an engine that has recorded stand-ins. -/
def State.veiled (s : State) : State :=
  { s with created := s.created.map TunnelArguments.veiled }

/-- The scripted engine creates the same of stand-ins, and records them. -/
theorem create_veiled (a : TunnelArguments) (s : State) :
    create a.veiled s.veiled = ((create a s).1.veiled, (create a s).2) := by
  have hcreated : s.veiled.created ++ [a.veiled]
      = (s.created ++ [a]).map TunnelArguments.veiled := by
    rw [List.map_append]
    rfl
  unfold create
  rw [hcreated, show s.veiled.refusing = s.refusing from rfl]
  cases s.refusing <;> rfl

theorem next_veiled (s : State) : s.veiled.next = (s.next.1, s.next.2.veiled) := by
  rw [State.next, State.next, show s.veiled.script = s.script from rfl]
  cases s.script <;> rfl

theorem play_veiled {capacity : Nat} (r : Request UInt8) (handle : Nat)
    (buffer : Buffer UInt8 capacity) (s : State) :
    play r handle buffer s.veiled
      = { play r handle buffer s with state := (play r handle buffer s).state.veiled } := by
  unfold play
  rw [show s.veiled.record r buffer.contents = (s.record r buffer.contents).veiled from rfl,
    next_veiled]

/-- The scripted engine does not look into what it records. -/
def veil : engine.Veil where
  hide := State.veiled
  initial := rfl
  create := create_veiled
  run := fun _ request tunnel buffer state => play_veiled request tunnel buffer state
  release := fun _ _ => rfl

/-- The move without secrets. -/
def Move.veiled : Move → Move
  | .step s => .step s.veiled
  | .direct id d => .direct id d

theorem Move.Swaps.veiled {m m' : Move} (h : m.Swaps m') : m.veiled = m'.veiled := by
  cases h with
  | step h => exact congrArg Move.step h.veiled
  | direct id d => rfl

theorem apply_veiled (s : State) (d : Direction) : d.apply s.veiled = (d.apply s).veiled := by
  cases d <;> rfl

/-- A veiled move leads from a veiled host to a veiled host. -/
theorem enact_veiled (h : Host engine) (m : Move) :
    enact (h.veiled veil) m.veiled = (enact h m).veiled veil := by
  cases m with
  | step s => exact congrArg Prod.fst (Host.step_veiled veil h s)
  | direct id d =>
    have hstate : d.apply ((h.veiled veil).engineState id) = (d.apply (h.engineState id)).veiled :=
      (congrArg d.apply (Host.engineState_veiled veil h id)).trans (apply_veiled _ d)
    exact (congrArg ((h.veiled veil).setEngine id) hstate).trans
      (Host.setEngine_veiled veil h id _)

/-! ## What can be seen -/

theorem State.redacted_veiled (s : State) : s.veiled.redacted = s.redacted := by
  rw [redacted, veiled, List.map_map, redacted]
  exact congrArg (fun created => { s with created })
    (List.map_congr_left fun a _ => TunnelArguments.redacted_veiled a)

theorem redacted_veiled (h : Host engine) : redacted (h.veiled veil) = redacted h :=
  Host.mapArguments_mapArguments TunnelArguments.redacted_veiled State.redacted_veiled h

/-- **A veil changes nothing of what can be seen.** -/
theorem sight_veiled (networkText : Network → String) (h : Host engine) (m : Move) :
    sight networkText (h.veiled veil) m.veiled = sight networkText h m := by
  have hsessions : mapNamed Session.describe ((enact h m).veiled veil).sessions
      = mapNamed Session.describe (enact h m).sessions :=
    mapNamed_mapNamed Session.describe_veiled _
  have hpeers : mapNamed (Peer.describe networkText) ((enact h m).veiled veil).peers
      = mapNamed (Peer.describe networkText) (enact h m).peers :=
    mapNamed_mapNamed (Peer.describe_veiled networkText) _
  unfold sight
  rw [enact_veiled, redacted_veiled, hsessions, hpeers]
  cases m with
  | step s =>
    have hanswer : (h.step s).2.veiled.redacted = (h.step s).2.redacted :=
      Answer.mapArguments_mapArguments TunnelArguments.redacted_veiled _
    dsimp only [Move.veiled]
    rw [Host.step_veiled, Host.reports_veiled, hanswer]
    rfl
  | direct id d => rfl

/-- **What can be seen is the same of veiled moves.** -/
theorem sights_veiled (networkText : Network → String) (h : Host engine) (moves : List Move) :
    sights networkText (h.veiled veil) (moves.map Move.veiled) = sights networkText h moves := by
  induction moves generalizing h with
  | nil => rfl
  | cons m rest ih =>
    rw [List.map_cons, sights, sights, sight_veiled, enact_veiled, ih]

/-- **Secrets show nowhere**: what can be seen of a run is what can be seen of the same run with
other secrets. -/
theorem secrets_unseen (networkText : Network → String) {moves moves' : List Move}
    (h : List.Forall₂ Move.Swaps moves moves') :
    sights networkText {} moves = sights networkText {} moves' := by
  have hveiled : moves.map Move.veiled = moves'.map Move.veiled := by
    induction h with
    | nil => rfl
    | cons hm _ ih => rw [List.map_cons, List.map_cons, hm.veiled, ih]
  have hempty : ({} : Host engine) = ({} : Host engine).veiled veil := rfl
  calc sights networkText {} moves
      = sights networkText ({} : Host engine) (moves.map Move.veiled) :=
        (sights_veiled networkText {} moves).symm
    _ = sights networkText ({} : Host engine) (moves'.map Move.veiled) := by rw [hveiled]
    _ = sights networkText {} moves' := sights_veiled networkText {} moves'

/-- A run with secrets of a host's own, secrets that are shared, and a text that is no key: two
sessions, one of which is refused, and a peer that calls. -/
def confiding (own shared wrong : String) : List Move :=
  let input : SessionInput :=
    { privateKey := own
      publicKey := "yb35g17ryfpD/SA9B4ovqyegIUZpzu1DW+DcWbYeHws="
      presharedKey := shared, keepAlive := 25, index := 1 }
  [.step (.addBridge "b" "e" {}), .step (.addSession "s" "b" input),
    .step (.addSession "t" "b" { input with presharedKey := wrong }),
    .step (.wrapSession "p" "s" "10.0.0.0/8" none), .step (.callPeer "p" .handshake none),
    .step (.unwrapPeer "p" "s")]

/-- The sample moves differ in their secrets only. -/
theorem confiding_swaps {own own' shared shared' wrong wrong' : String}
    (hown : Key.isText own = Key.isText own') (hshared : SwapsShared shared shared')
    (hwrong : SwapsShared wrong wrong') :
    List.Forall₂ Move.Swaps (confiding own shared wrong) (confiding own' shared' wrong') := by
  have hcalls : List.Forall₂ Move.Swaps _ _ :=
    .cons (.step (.same (.wrapSession "p" "s" "10.0.0.0/8" none)))
      (.cons (.step (.same (.callPeer "p" .handshake none)))
        (.cons (.step (.same (.unwrapPeer "p" "s"))) .nil))
  exact .cons (.step (.same _))
    (.cons (.step (.addSession "s" "b" ⟨hown, hshared, rfl, rfl, rfl⟩))
      (.cons (.step (.addSession "t" "b" ⟨hown, hwrong, rfl, rfl, rfl⟩)) hcalls))

theorem secrets_unseen_confiding :
    let moves := confiding "BRAbJjE8R1JdaHN+iZSfqrXAy9bh7PcCDRgjLjlET1o="
      "KjVAS1ZhbHeCjZijrrnEz9rl8PsGERwnMj1IU15pdH8=" "wrong"
    let moves' := confiding "KjVAS1ZhbHeCjZijrrnEz9rl8PsGERwnMj1IU15pdH8="
      "BRAbJjE8R1JdaHN+iZSfqrXAy9bh7PcCDRgjLjlET1o=" "no better"
    List.Forall₂ Move.Swaps moves moves'
    ∧ (staged moves).engines.map State.created ≠ (staged moves').engines.map State.created
    ∧ sights Network.text {} moves = sights Network.text {} moves' := by
  intro moves moves'
  have hswaps : List.Forall₂ Move.Swaps moves moves' :=
    confiding_swaps (by decide +kernel) ⟨by decide, by decide +kernel⟩
      ⟨by decide, by decide +kernel⟩
  exact ⟨hswaps, by decide +kernel, secrets_unseen Network.text hswaps⟩

end Scripted

end TunnelHost
