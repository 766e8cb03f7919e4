import TunnelHost.Host.Report
import TunnelHost.Proofs.Base64
import TunnelHost.Proofs.HostCalls

/-!
# A veil over secrets

Two texts that a session is created from are secret: its private key, and the key that both sides
share. A veil lets a stand-in take the place of each, which tells no more than whether there was a
key. What checks a session, and what tells of it, cannot tell one from the other.

- `Key.standIn`: the stand-in of a text.
- `SessionInput.veiled`, `Session.veiled`, `Peer.veiled`, `Answer.veiled`, `Step.veiled`: what holds
  secrets, without them.
- `SessionInput.check_veiled`: a veiled input passes or fails the checks as before.
- `Session.describe_veiled`, `Peer.describe_veiled`, `Session.created_veiled`: texts are the same.
-/

namespace TunnelHost

variable {β : Type} {E : Engine β}

/-! ## Stand-ins -/

/-- What stands in for a secret text: one key for all keys, and one text for all that are none. -/
def Key.standIn (s : String) : String := if Key.isText s then Key.zero.toText else "?"

/-- A stand-in is a key if the secret is. -/
theorem Key.isText_standIn (s : String) : isText (standIn s) = isText s := by
  cases hs : isText s with
  | true =>
    rw [standIn, hs, if_pos rfl, isText_iff]
    exact ⟨zero, rfl⟩
  | false =>
    rw [standIn, hs, if_neg Bool.false_ne_true]
    decide +kernel

/-- A stand-in is never empty: one that is would stand for no key. -/
theorem Key.isEmpty_standIn (s : String) : (standIn s).isEmpty = false := by
  rw [standIn]
  split
  · decide +kernel
  · decide

/-- What a tunnel is created from, without secrets. -/
def TunnelArguments.veiled (a : TunnelArguments) : TunnelArguments :=
  { a with
    privateKey := Key.standIn a.privateKey
    presharedKey := a.presharedKey.map Key.standIn }

namespace SessionInput

/-- The stand-in of a shared key, which may be absent. -/
def veiledPreshared (s : String) : String := if s.isEmpty then "" else Key.standIn s

/-- What a session is created from, without secrets. -/
def veiled (i : SessionInput) : SessionInput :=
  { i with
    privateKey := Key.standIn i.privateKey
    presharedKey := veiledPreshared i.presharedKey }

theorem checkKey_standIn (s : String) (fault : SessionError) :
    checkKey (Key.standIn s) fault = checkKey s fault := by
  rw [checkKey, Key.isText_standIn, checkKey]

/-- The check of a shared key says the same of a stand-in, and of its absence. -/
theorem checkPreshared_veiled (s : String) :
    checkPreshared (veiledPreshared s) = (checkPreshared s).map (Option.map Key.standIn) := by
  rw [checkPreshared, checkPreshared, veiledPreshared]
  cases hempty : s.isEmpty with
  | true => rfl
  | false =>
    rw [if_neg Bool.false_ne_true, if_neg Bool.false_ne_true, Key.isEmpty_standIn,
      if_neg Bool.false_ne_true, Key.isText_standIn]
    split <;> rfl

/-- **Checks cannot tell a stand-in from a secret.** -/
theorem check_veiled (i : SessionInput) (policy : IndexPolicy) :
    i.veiled.check policy = (i.check policy).map TunnelArguments.veiled := by
  simp only [check, veiled, checkKey_standIn, checkPreshared_veiled]
  -- the first check that fails settles it, with the veil and without
  cases checkKey i.privateKey .invalidPrivateKey with
  | error e => rfl
  | ok _ =>
  cases checkKey i.publicKey .invalidPublicKey with
  | error e => rfl
  | ok _ =>
  cases checkPreshared i.presharedKey with
  | error e => rfl
  | ok presharedKey =>
  cases checkKeepAlive i.keepAlive with
  | error e => rfl
  | ok keepAlive =>
  cases checkIndex policy i.index with
  | error e => rfl
  | ok index => rfl

end SessionInput

/-- A definition of a peer, without secrets. A shared key that is absent is as good as an empty
one. -/
def PeerDefinition.veiled (d : PeerDefinition) : PeerDefinition :=
  { d with
    privateKey := Key.standIn d.privateKey
    presharedKey := some (SessionInput.veiledPreshared (d.presharedKey.getD "")) }

theorem Peer.inputOf_veiled (d : PeerDefinition) (family : Option SessionFamily) :
    inputOf d.veiled family = (inputOf d family).veiled := rfl

/-! ## What keeps secrets

They are among the arguments that sessions keep. -/

/-- A session with something else for its arguments. -/
def Session.mapArguments (f : TunnelArguments → TunnelArguments) (s : Session E) : Session E :=
  { s with arguments := f s.arguments }

/-- A peer with something else for the arguments of its session. -/
def Peer.mapArguments (f : TunnelArguments → TunnelArguments) (p : Peer E) : Peer E :=
  { p with session := p.session.mapArguments f }

/-- What is learned of a session, with something else for its arguments. -/
def SessionView.mapArguments (f : TunnelArguments → TunnelArguments) (v : SessionView) :
    SessionView :=
  { v with arguments := f v.arguments }

/-- What is learned from a step, with something else for the arguments of a session. -/
def Answer.mapArguments (f : TunnelArguments → TunnelArguments) : Answer β → Answer β
  | .session view => .session (view.mapArguments f)
  | .peer view allowed endpoint => .peer (view.mapArguments f) allowed endpoint
  | a => a

/-- A session without secrets. -/
def Session.veiled (s : Session E) : Session E := s.mapArguments TunnelArguments.veiled

/-- A peer without secrets. -/
def Peer.veiled (p : Peer E) : Peer E := p.mapArguments TunnelArguments.veiled

/-- What is learned from a step, without secrets. -/
def Answer.veiled (a : Answer β) : Answer β := a.mapArguments TunnelArguments.veiled

/-- A step without secrets. -/
def Step.veiled : Step β → Step β
  | .addSession name bridge input => .addSession name bridge input.veiled
  | .definePeer name bridge definition => .definePeer name bridge definition.veiled
  | s => s

/-- One change of the arguments after another. -/
theorem Answer.mapArguments_mapArguments {f g k : TunnelArguments → TunnelArguments}
    (hk : ∀ a, g (f a) = k a) (a : Answer β) :
    (a.mapArguments f).mapArguments g = a.mapArguments k := by
  cases a with
  | session view =>
    exact congrArg (fun arguments => session { view with arguments }) (hk view.arguments)
  | peer view allowed endpoint =>
    exact congrArg (fun arguments => peer { view with arguments } allowed endpoint)
      (hk view.arguments)
  | _ => rfl

/-! ## Texts -/

/-- The words on a session tell nothing of its secrets. -/
theorem Session.describe_veiled (s : Session E) : s.veiled.describe = s.describe := by
  obtain ⟨id, ⟨privateKey, publicKey, presharedKey, keepAlive, index⟩, family, tunnel, output⟩ := s
  cases presharedKey <;> rfl

/-- Nor do those on a peer. -/
theorem Peer.describe_veiled (networkText : Network → String) (p : Peer E) :
    p.veiled.describe networkText = p.describe networkText := by
  unfold describe
  rw [show p.veiled.session = p.session.veiled from rfl,
    show p.veiled.allowed = p.allowed from rfl, show p.veiled.endpoint = p.endpoint from rfl,
    Session.describe_veiled]

theorem Session.view_veiled (s : Session E) :
    s.veiled.view = s.view.mapArguments TunnelArguments.veiled := by
  rw [view, describe_veiled]
  rfl

theorem Session.created_veiled (s : Session E) : s.veiled.created = s.created := by
  obtain ⟨id, ⟨privateKey, publicKey, presharedKey, keepAlive, index⟩, family, tunnel, output⟩ := s
  cases presharedKey <;> rfl

end TunnelHost
