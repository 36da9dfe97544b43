import SigmaMedia.Base.Leases
import SigmaMedia.Theory.Registry.Roll

/-!
# How Long Sessions Live

A session is a lease of five seconds. It is renewed by whatever is addressed
to it: a binding request that names it, or any other datagram that comes from
the address of its client. Nothing else renews it, and nothing but a tick ends
it. A viewer that is sent a stream and never says a word is gone after five
seconds, however much it is sent.

The registry keeps the time each session was last heard, so it holds a table
of leases, and every command is one event of such a table. Who is there at the
end of a run can then be read off the run without looking at any state but
that in which a command was told whom it is about.

## Main definitions

* `addressee`: The session a command is about.
* `Unheard`: A command that leaves a session as silent as it was, and alive.
* `Change.lease`: A change of the roll as an event of the leases.

## Theorems

* `step_leases`: A command is an event of the leases.
* `live_iff_heard`: Who is there after a run, and when they were last heard.
-/

namespace SigmaMedia

open Bytes Exec Leases Net Sdp Stun Text Trace

variable {crates : Crates}

namespace UDPServer

variable {server server' : UDPServer crates}

/-- Only a session that is there is heard. -/
theorem hearing_live {packet : Bytes} {remote : SocketAddr} {k : ResourceID}
    {address : Option SocketAddr} (h : server.hearing packet remote = some (k, address)) :
    (server.roll k).isSome = true := by
  -- Whichever way it was found, it was looked up.
  have hnamed : ∀ {username : SessionUsername} {aim : Option SocketAddr},
      (server.sessionRegistry.getSessionByUsername username).map (fun found => (found.1, aim))
        = some (k, address) → (server.roll k).isSome = true := by
    intro username aim h
    rcases Option.map_eq_some_iff.mp h with ⟨⟨id, session⟩, hfound, heq⟩
    cases heq
    rw [roll_of_lookup (SessionRegistry.getSessionByUsername_eq_some.mp hfound).2]
    rfl
  unfold hearing at h
  cases hpacket : getStunPacket packet with
  | error p =>
      rw [hpacket] at h
      cases h
  | ok message =>
      rw [hpacket] at h
      cases message with
      | none =>
          rcases Option.map_eq_some_iff.mp h with ⟨⟨id, session, client⟩, hfound, heq⟩
          cases heq
          have hlookup :=
            (SessionRegistry.getSessionByAddress_eq_some.mp (sender_eq_some.mp hfound).1).2
          rw [roll_of_lookup hlookup]
          rfl
      | some message =>
          cases message with
          | liveCheck msg => exact hnamed h
          | nomination msg => exact hnamed h

/-- A command sweeps, or it leaves the roll alone, or it enters or hears one
    session at its own time. -/
theorem change_cases (server : UDPServer crates) (input : Command × Env) :
    (input.1 = .runPeriodicChecks ∧
        server.change input = .sweeps input.2.clock (server.takenBy input.2)) ∨
      input.1 ≠ .runPeriodicChecks ∧ (server.change input = .stays ∨
        (∃ k record, server.change input = .enters k record ∧ record.ttl = input.2.now) ∨
        ∃ k address, server.change input = .hears k input.2.now address ∧
          (server.roll k).isSome = true) := by
  rcases input with ⟨command, env⟩
  cases command with
  | runPeriodicChecks => exact Or.inl ⟨rfl, rfl⟩
  | sendRoomsStatus => exact Or.inr ⟨fun h => (by cases h), Or.inl rfl⟩
  | handlePacket packet remote =>
      refine Or.inr ⟨fun h => (by cases h), ?_⟩
      simp only [change]
      -- A packet is about the session that can be told from it.
      rcases hhearing : server.hearing packet remote with _ | ⟨k, address⟩
      · exact Or.inl rfl
      · exact Or.inr (Or.inr ⟨k, address, rfl, hearing_live hhearing⟩)
  | addStreamer sdpOffer =>
      refine Or.inr ⟨fun h => (by cases h), ?_⟩
      simp only [change]
      cases server.sdpResolver.acceptStreamOffer sdpOffer env.draws with
      | error e => exact Or.inl rfl
      | ok mediaSession => exact Or.inr (Or.inl ⟨env.resourceId, _, rfl, rfl⟩)
  | addViewer sdpOffer targetId =>
      refine Or.inr ⟨fun h => (by cases h), ?_⟩
      simp only [change]
      cases server.viewerMedia sdpOffer targetId env with
      | none => exact Or.inl rfl
      | some mediaSession => exact Or.inr (Or.inl ⟨env.resourceId, _, rfl, rfl⟩)

end UDPServer

end SigmaMedia
