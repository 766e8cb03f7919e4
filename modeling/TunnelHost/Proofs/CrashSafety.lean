import TunnelHost.Proofs.TunnelSafety

/-!
# What makes a host crash

The sessions of the protocol engine crash in one case only. Packets that are written, the ones
that wait and everything that timers do is safe, because a packet is refused that would not fit
the buffer once it is sealed. A datagram is handed on as it is, and crashes the session if it is a
data message for one of its transport sessions and its body does not fit the buffer, forged or
not.

- `Noise.read_crash_iff`: the datagrams that crash a host.
- `Noise.calls_safe`: without overlong datagrams, nothing does.
-/

namespace TunnelHost

namespace Noise

variable {timers : Timers}

/-- The tunnel of a session. -/
def tunnelOf (s : Session (timed timers)) : Tunnel := s.tunnel

/-! ## Datagrams -/

/-- **The datagrams that crash a host.** In every host that steps have led to, a session or a peer
that is handed a datagram crashes exactly if the datagram is a data message for one of its
transport sessions whose body is longer than its buffer; nothing else that a datagram holds
matters, and the buffer holds between 148 and 65535 octets. -/
theorem read_crash_iff (timers : Timers) (before : List (TunnelHost.Step Octet)) (holder : Holder)
    (s : Session (timed timers)) (hs : (Host.after (timed timers) before).sessionAt holder = some s)
    (datagram : List Octet) (source : Option Endpoint) :
    (((Host.after (timed timers) before).step (holder.call (.read datagram) source)).2 = .crash
      ↔ ∃ receiver counter body, Packet.ofOctets? datagram = some (.data receiver counter body)
          ∧ (tunnelOf s).slot receiver ≠ none ∧ s.capacity < body.length)
      ∧ 148 ≤ s.capacity ∧ s.capacity ≤ 65535 :=
  (contract timers).crash_of_read before hs datagram source

/-! ### A forged data message -/

/-- Two sessions of one bridge, with buffers of the least capacity and keys that match. -/
def sampleSetup : List (TunnelHost.Step Octet) :=
  [.addBridge "b" "e" { buffer := { capacity := 148 } },
    .addSession "a" "b"
      { privateKey := "BRAbJjE8R1JdaHN+iZSfqrXAy9bh7PcCDRgjLjlET1o="
        publicKey := "yb35g17ryfpD/SA9B4ovqyegIUZpzu1DW+DcWbYeHws="
        presharedKey := "", keepAlive := 25, index := 1 },
    .addSession "c" "b"
      { privateKey := "KjVAS1ZhbHeCjZijrrnEz9rl8PsGERwnMj1IU15pdH8="
        publicKey := "FO4OB/NOOhcDDG7s9m03BegNHhU/egyls0XoPOnWJkM="
        presharedKey := "", keepAlive := 25, index := 2 }]

/-- The initiation that the first of them sends. -/
def sampleInitiation : List Octet :=
  match ((Host.after (timed .idle) sampleSetup).step (.call "a" .handshake)).2 with
  | .envelope e => e.data?.getD []
  | _ => []

/-- The second of them has answered it, and awaits data messages. -/
def sampleRun : List (TunnelHost.Step Octet) :=
  sampleSetup ++ [.call "a" .handshake, .call "c" (.read sampleInitiation)]

/-- A data message that nobody sealed: the header names a receiver whose place is taken, and 149
octets follow it. -/
def forgedMessage : List Octet :=
  littleEndian 4 4 ++ littleEndian 4 1 ++ List.replicate 157 (.plain 0)

/-- The session that awaits data messages. -/
def sampleSession : Session (timed .idle) :=
  ((Host.after (timed .idle) sampleRun).sessionAt (.session "c")).get (by decide +kernel)

theorem sessionAt_sampleRun :
    (Host.after (timed .idle) sampleRun).sessionAt (.session "c") = some sampleSession :=
  (Option.some_get _).symm

theorem capacity_sampleSession : sampleSession.capacity = 148 := by decide +kernel

/-- The forged message is longer than the buffer of the session, and its receiver is one of the
session's own. -/
theorem bursts_forgedMessage :
    (tunnelOf sampleSession).Bursts sampleSession.capacity forgedMessage := by
  refine ⟨1, 0, List.replicate 149 (.plain 0), by decide +kernel, ?_, ?_⟩
  · have hslot : ((tunnelOf sampleSession).slot 1).isSome = true := by decide +kernel
    exact Option.isSome_iff_ne_none.mp hslot
  · rw [capacity_sampleSession, List.length_replicate]
    decide

/-- The forged message crashes the session that awaits data messages. -/
theorem read_crash_iff_forged :
    (Host.after (timed .idle) sampleRun).sessionAt (.session "c") = some sampleSession
      ∧ ((Host.after (timed .idle) sampleRun).step
          (.call "c" (.read forgedMessage))).2 = .crash := by
  have hcrash := read_crash_iff .idle sampleRun (.session "c") sampleSession sessionAt_sampleRun
    forgedMessage none
  exact ⟨sessionAt_sampleRun, hcrash.1.mpr bursts_forgedMessage⟩

/-- So it is not true that no datagram crashes a host. -/
theorem not_forall_read_ne_crash :
    ¬ ∀ (before : List (TunnelHost.Step Octet)) (name : String) (s : Session engine),
        (Host.after engine before).sessions.lookup name = some s →
          ∀ datagram : List Octet,
            ((Host.after engine before).step (.call name (.read datagram))).2 ≠ .crash := by
  intro hsafe
  have hcrash := ((contract .idle).crash_of_read sampleRun sessionAt_sampleRun forgedMessage none).1
  exact hsafe sampleRun "c" sampleSession sessionAt_sampleRun forgedMessage
    (hcrash.mpr bursts_forgedMessage)

/-! ## Calls -/

/-- **The guard on written packets is enough.** In every host that steps have led to, and with
whatever timers, calls of a session or peer do not crash, in any order, as long as no datagram is
longer than the header of a data message and the buffer together. What waits in the tunnel after
them fits the buffer once it is sealed. -/
theorem calls_safe (timers : Timers) (before : List (TunnelHost.Step Octet)) (holder : Holder)
    (s : Session (timed timers)) (hs : (Host.after (timed timers) before).sessionAt holder = some s)
    (calls : List (Request Octet × Option Endpoint))
    (hcalls : ∀ c ∈ calls, ∀ d, c.1 = .read d → d.length ≤ s.capacity + 16) :
    (∀ a ∈ ((Host.after (timed timers) before).run (callsOf holder calls)).2, a ≠ .crash)
      ∧ ∃ s', ((Host.after (timed timers) before).run
            (callsOf holder calls)).1.sessionAt holder = some s'
          ∧ s'.capacity = s.capacity
          ∧ ∀ packet ∈ (tunnelOf s').queue, packet.length + 32 ≤ s.capacity :=
  (contract timers).calls_survive before hs calls hcalls

/-- Each kind of call once, with a datagram of the greatest length, on the session that awaits data
messages. -/
theorem calls_safe_sample :
    let host := (Host.after (timed .idle) sampleRun)
    let calls : List (Request Octet × Option Endpoint) :=
      [(.write (List.replicate 116 (.plain 69)), none), (.tick, none), (.handshake, none),
        (.read [], none), (.read (forgedMessage.take 164), none)]
    host.sessionAt (.session "c") = some sampleSession
      ∧ ∀ a ∈ (host.run (callsOf (.session "c") calls)).2, a ≠ .crash := by
  intro host calls
  have hcalls : ∀ c ∈ calls, ∀ d, c.1 = .read d → d.length ≤ sampleSession.capacity + 16 := by
    intro c hc d hd
    rw [capacity_sampleSession]
    simp only [calls, List.mem_cons, List.not_mem_nil, or_false] at hc
    rcases hc with rfl | rfl | rfl | rfl | rfl
    all_goals cases hd
    · decide
    · rw [List.length_take]
      exact Nat.min_le_left _ _
  exact ⟨sessionAt_sampleRun,
    (calls_safe .idle sampleRun (.session "c") sampleSession sessionAt_sampleRun calls hcalls).1⟩

end Noise

end TunnelHost
