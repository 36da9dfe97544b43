import SigmaMedia.Theory.Registry.Routing

/-!
# What a Binding Request Proves

A client signs its binding requests with the password it was given, and the
signature is an attribute of the request. The server reads the attribute,
insists that it is there, and carries it along, but compares it with nothing:
the username alone decides what a request does.

So handling is authenticated only where the sender is honest.
`authenticated_iff` makes this exact: of the requests that can be handled, the
ones that have no effect they should not have are those that name no live
session and those that happen to be signed right.

What is signed is the request up to the attribute, with a length in its header
that ends with the attribute.

## Main definitions

* `integrityOffset`, `signedPart`: What is signed.
* `Signed`: A request is signed with the password of a session.
* `Affects`: A request has an effect on a session.
* `Authenticated`: Every effect is that of a signed request.

## Theorems

* `handleStunPacket_effect`: A request changes the session it names and no
  other, and is answered.
* `authenticated_iff`: When handling is authenticated.
-/

namespace SigmaMedia

open Bytes Exec Net Sdp Stun Text Thumbnail Trace

variable {crates : Crates}

namespace Stun

/-- The packet in a binding request, whatever it asks for. -/
def ICEStunMessageType.packet : ICEStunMessageType → ICEStunPacket
  | .liveCheck packet => packet
  | .nomination packet => packet

/-- How many bytes of attributes come before the first integrity attribute. -/
def integrityOffset (reader : Bytes) : Option Nat :=
  match _h : readAttribute reader with
  | .ok (some (attr, rest)) =>
      match attr with
      | .messageIntegrity _ => some 0
      | _ => (integrityOffset rest).map fun offset => reader.length - rest.length + offset
  | _ => none
termination_by reader.length
decreasing_by exact readAttribute_length _h

/-- The part of a request that is signed: the header, with the length up to
    the end of the integrity attribute, and the attributes before it. -/
def signedPart (data : Bytes) : Option Bytes :=
  (integrityOffset (data.drop stunHeaderLen)).map fun offset =>
    data.take 2 ++ be16 (UInt16.ofNat (offset + stunMessageIntegrityAttributeLen))
      ++ (data.drop 4).take (16 + offset)

/-- A request is signed with the password of a session. -/
def Signed (digests : Digests) (credentials : ICECredentials) (data : Bytes)
    (packet : ICEStunPacket) : Prop :=
  (signedPart data).map (fun part => (digests.hmacSha1 (utf8 credentials.hostPassword) part).val)
    = some packet.messageIntegrity.val

instance (digests : Digests) (credentials : ICECredentials) (data : Bytes)
    (packet : ICEStunPacket) : Decidable (Signed digests credentials data packet) :=
  inferInstanceAs (Decidable (_ = _))

end Stun

namespace UDPServer

variable {server server' : UDPServer crates}

/-- A handled request shows on the session at a key: its clock was set, it got
    a client, or a success response went out in its name. -/
def Affects (server server' : UDPServer crates) (sent : List Datagram)
    (message : ICEStunMessageType) (k : ResourceID) (session : Session crates) : Prop :=
  (∃ session', server'.sessionRegistry.sessions.lookup k = some session' ∧
      (session'.ttl ≠ session.ttl ∨
        session.client.isNone = true ∧ session'.client.isSome = true)) ∨
    (∃ d ∈ sent, d.kind = .stun) ∧
      server.sessionRegistry.getSessionByUsername message.packet.usernameAttribute
        = some (k, session)

/-- Every session that a request shows on is one whose password it is signed
    with. -/
def Authenticated (server server' : UDPServer crates) (sent : List Datagram) (data : Bytes)
    (message : ICEStunMessageType) : Prop :=
  ∀ k session, server.sessionRegistry.sessions.lookup k = some session →
    server.Affects server' sent message k session →
      Signed crates.digests session.mediaSession.iceCredentials data message.packet

theorem stunResponse_kind {text : String} {mediaSession : NegotiatedSession}
    {packet : ICEStunPacket} {remote : SocketAddr} {d : Datagram}
    (h : stunResponse crates text mediaSession packet remote = .ok d) : d.kind = .stun := by
  simp only [stunResponse, bind_eq_ok, Prod.exists, pure_eq_ok, Except.ok.injEq] at h
  rcases h with ⟨_, _, _, _, _, _, _, rfl⟩
  rfl

theorem lookup_updateSession_of_ne {id k : ResourceID} (f : Session crates → Session crates)
    (hne : k ≠ id) : (server.updateSession id f).sessionRegistry.sessions.lookup k
      = server.sessionRegistry.sessions.lookup k := by
  simp only [updateSession, SessionRegistry.updateSession, Store.lookup_modify, if_neg hne]

/-- A nomination leaves every other session alone. -/
theorem nominate_lookup_of_ne {remote : SocketAddr} {id k : ResourceID}
    {session : Session crates} {written : List Bytes}
    (h : server.nominate remote id session = .ok (server', written)) (hne : k ≠ id) :
    server'.sessionRegistry.sessions.lookup k = server.sessionRegistry.sessions.lookup k := by
  unfold nominate at h
  split at h
  · simp only [bind_eq_ok, Prod.exists, pure_eq_ok, Except.ok.injEq, Prod.mk.injEq] at h
    rcases h with ⟨_, _, _, client, _, rfl, _⟩
    simp only [SessionRegistry.nominateClient]
    split
    · rfl
    · simp only [SessionRegistry.updateSession, Store.lookup_modify, if_neg hne]
  · cases h
    rfl

/-- A request that names nobody does nothing. One that names a session changes
    no other, and is answered. -/
theorem handleStunPacket_effect {remote : SocketAddr} {message : ICEStunMessageType}
    {now : Instant} {sent : List Datagram} (hfiled : server.directory.Filed)
    (h : server.handleStunPacket remote message now = .ok (server', sent)) :
    (server.sessionRegistry.getSessionByUsername message.packet.usernameAttribute = none ∧
        server' = server ∧ sent = []) ∨
      ∃ id session, server.sessionRegistry.getSessionByUsername message.packet.usernameAttribute
          = some (id, session) ∧ (∃ d ∈ sent, d.kind = .stun) ∧
        ∀ k, k ≠ id → server'.sessionRegistry.sessions.lookup k
          = server.sessionRegistry.sessions.lookup k := by
  cases message with
  -- A live check writes the session it is for.
  | liveCheck packet =>
      simp only [handleStunPacket] at h
      simp only [ICEStunMessageType.packet]
      split at h
      · rename_i hnone
        cases h
        exact Or.inl ⟨hnone, rfl, rfl⟩
      · rename_i id session hfound
        simp only [bind_eq_ok, pure_eq_ok, Except.ok.injEq, Prod.mk.injEq] at h
        rcases h with ⟨response, hresponse, rfl, rfl⟩
        refine Or.inr ⟨id, session, hfound, ⟨response, List.mem_singleton_self _,
          stunResponse_kind hresponse⟩, ?_⟩
        intro k hk
        exact lookup_updateSession_of_ne _ hk
  -- So does a nomination, and it goes by the id the session carries.
  | nomination packet =>
      simp only [handleStunPacket] at h
      simp only [ICEStunMessageType.packet]
      split at h
      · rename_i hnone
        cases h
        exact Or.inl ⟨hnone, rfl, rfl⟩
      · rename_i id session hfound
        have hlookup := (SessionRegistry.getSessionByUsername_eq_some.mp hfound).2
        have hid : session.id = id := hfiled id _ (SessionRegistry.directory_sessions hlookup)
        simp only [bind_eq_ok, Prod.exists, pure_eq_ok, Except.ok.injEq, Prod.mk.injEq] at h
        rcases h with ⟨_, _, server'', written, hnominate, _, _, response, hresponse, rfl, rfl⟩
        refine Or.inr ⟨id, session, hfound, ⟨response,
          List.mem_append_right _ (List.mem_singleton_self _), stunResponse_kind hresponse⟩, ?_⟩
        intro k hk
        rw [hid] at hnominate
        rw [nominate_lookup_of_ne hnominate hk, lookup_updateSession_of_ne _ hk]

/-- In every reachable state, a request that is handled is handled as an
    authenticated one exactly when it names no live session or is signed with
    the password of the one it names. -/
theorem authenticated_iff (resolver : SDPResolver)
    (hreach : Reachable step (fun _ _ => True) (UDPServer.new resolver) server)
    {data : Bytes} {remote : SocketAddr} {now : Instant} {order : Enumeration ResourceID}
    {message : ICEStunMessageType} {sent : List Datagram}
    (hrequest : getStunPacket data = .ok (some message))
    (h : server.processPacket data remote now order = .ok (server', sent)) :
    server.Authenticated server' sent data message ↔
      ∀ k session, server.sessionRegistry.getSessionByUsername message.packet.usernameAttribute
          = some (k, session) →
        Signed crates.digests session.mediaSession.iceCredentials data message.packet := by
  have hfiled : server.directory.Filed := by
    apply hreach.invariant fun s => s.directory.Filed
    · exact (new_consistent resolver).filed
    · intro s input s₁ output hinv _ hstep
      exact step_filed hinv hstep
  simp only [processPacket, hrequest, ok_bind] at h
  have heffect := handleStunPacket_effect
    (show ({ server with inboundBuffer := data } : UDPServer crates).directory.Filed from hfiled) h
  constructor
  · intro hauth k session hnamed
    have hlookup := (SessionRegistry.getSessionByUsername_eq_some.mp hnamed).2
    rcases heffect with ⟨hnone, _⟩ | ⟨id, named, _, hanswered, _⟩
    · exact absurd (hnone.symm.trans hnamed) (by simp only [reduceCtorEq, not_false_eq_true])
    · exact hauth k session hlookup (Or.inr ⟨hanswered, hnamed⟩)
  · intro hsigned k session hlookup haffects
    rcases haffects with ⟨session', hlookup', hchanged⟩ | ⟨_, hnamed⟩
    · -- Only the named session changes, so this is the named one.
      have hsame : server'.sessionRegistry.sessions.lookup k
          ≠ server.sessionRegistry.sessions.lookup k := by
        intro heq
        rw [hlookup', hlookup] at heq
        cases heq
        rcases hchanged with hclock | ⟨hnone, hsome⟩
        · exact hclock rfl
        · cases hc : session.client with
          | none =>
              rw [hc] at hsome
              cases hsome
          | some client =>
              rw [hc] at hnone
              cases hnone
      rcases heffect with ⟨_, rfl, _⟩ | ⟨id, named, hnamed, _, hothers⟩
      · exact absurd rfl hsame
      · by_cases hk : k = id
        · have hfound := (SessionRegistry.getSessionByUsername_eq_some.mp hnamed).2
          rw [hk] at hlookup
          have heq : named = session := Option.some.inj (hfound.symm.trans hlookup)
          rw [heq] at hnamed
          exact hsigned id session hnamed
        · exact absurd (hothers k hk) hsame
    · exact hsigned k session hnamed

/-- One streamer joins, and a live check in its name is handled later: the
    request, the server before and after it, and what was sent. -/
def liveCheck (integrity : Bytes) :
    Exec (ICEStunMessageType × UDPServer plainCrates × UDPServer plainCrates × List Datagram) := do
  let (server, _) ← (UDPServer.new loopbackResolver).step (streaming "user".toList 1 2)
  let data := bindingRequest "host:user".toList false integrity
  let message ← unwrap (← getStunPacket data)
  let (server', sent) ← server.processPacket data (loopback 5000) 7 (drawing 0 0).order
  return (message, server, server', sent)

theorem liveCheck_eq_ok {integrity : Bytes} {message : ICEStunMessageType}
    {server server' : UDPServer plainCrates} {sent : List Datagram}
    (h : liveCheck integrity = .ok (message, server, server', sent)) :
    Reachable step (fun _ _ => True) (UDPServer.new loopbackResolver) server ∧
      getStunPacket (bindingRequest "host:user".toList false integrity) = .ok (some message) ∧
      server.processPacket (bindingRequest "host:user".toList false integrity) (loopback 5000) 7
        (drawing 0 0).order = .ok (server', sent) := by
  simp only [liveCheck, bind_eq_ok, unwrap_eq_ok, Prod.exists, pure_eq_ok, Except.ok.injEq,
    Prod.mk.injEq] at h
  rcases h with ⟨_, output, hjoin, _, hmessage, _, rfl, _, _, hpacket, rfl, rfl, rfl, rfl⟩
  exact ⟨.next .init trivial hjoin, hmessage, hpacket⟩

/-- A live check with the integrity that the keyed hash gives. -/
theorem authenticated_signed_check :
    ∃ (server server' : UDPServer plainCrates) (sent : List Datagram)
      (message : ICEStunMessageType),
      Reachable step (fun _ _ => True) (UDPServer.new loopbackResolver) server ∧ sent ≠ [] ∧
      server.Authenticated server' sent
        (bindingRequest "host:user".toList false (List.replicate 20 0)) message := by
  have hrun : passes (liveCheck (List.replicate 20 0)) (fun result =>
      decide (result.2.2.2 ≠ []) &&
      (result.2.1.sessionRegistry.getSessionByUsername result.1.packet.usernameAttribute).all
        fun found => decide (Signed plainCrates.digests found.2.mediaSession.iceCredentials
          (bindingRequest "host:user".toList false (List.replicate 20 0)) result.1.packet))
      = true := by decide +kernel
  rcases of_passes hrun with ⟨⟨message, server, server', sent⟩, hcheck, htests⟩
  rcases liveCheck_eq_ok hcheck with ⟨hreach, hmessage, hpacket⟩
  rcases Bool.and_eq_true_iff.mp htests with ⟨hsent, hsigned⟩
  refine ⟨server, server', sent, message, hreach, of_decide_eq_true hsent, ?_⟩
  -- The session that is named has the digest that was sent.
  apply (authenticated_iff loopbackResolver hreach hmessage hpacket).mpr
  intro k session hnamed
  rw [hnamed] at hsigned
  exact of_decide_eq_true hsigned

/-- A live check with another integrity is answered and sets the clock of the
    session all the same. -/
theorem authenticated_fails_on_forged_check :
    ∃ (server server' : UDPServer plainCrates) (sent : List Datagram)
      (message : ICEStunMessageType),
      Reachable step (fun _ _ => True) (UDPServer.new loopbackResolver) server ∧
      getStunPacket (bindingRequest "host:user".toList false (List.replicate 20 1))
        = .ok (some message) ∧
      server.processPacket (bindingRequest "host:user".toList false (List.replicate 20 1))
        (loopback 5000) 7 (drawing 0 0).order = .ok (server', sent) ∧
      (server.sessionRegistry.sessions.lookup 2).map Session.ttl = some 0 ∧
      (server'.sessionRegistry.sessions.lookup 2).map Session.ttl = some 7 ∧
      ¬ server.Authenticated server' sent
        (bindingRequest "host:user".toList false (List.replicate 20 1)) message := by
  have hrun : passes (liveCheck (List.replicate 20 1)) (fun result =>
      decide ((result.2.1.sessionRegistry.sessions.lookup 2).map Session.ttl = some 0 ∧
        (result.2.2.1.sessionRegistry.sessions.lookup 2).map Session.ttl = some 7) &&
      (result.2.1.sessionRegistry.sessions.lookup 2).all
        fun session => decide (¬ Signed plainCrates.digests session.mediaSession.iceCredentials
          (bindingRequest "host:user".toList false (List.replicate 20 1)) result.1.packet))
      = true := by decide +kernel
  rcases of_passes hrun with ⟨⟨message, server, server', sent⟩, hcheck, htests⟩
  rcases liveCheck_eq_ok hcheck with ⟨hreach, hmessage, hpacket⟩
  rcases Bool.and_eq_true_iff.mp htests with ⟨hclocks, hforged⟩
  rcases of_decide_eq_true hclocks with ⟨hbefore, hafter⟩
  refine ⟨server, server', sent, message, hreach, hmessage, hpacket, hbefore, hafter, ?_⟩
  intro hauth
  rcases Option.map_eq_some_iff.mp hbefore with ⟨session, hsession, hold⟩
  rcases Option.map_eq_some_iff.mp hafter with ⟨session', hsession', hnew⟩
  -- The clock moved, so the request should have been signed.
  have hset : session'.ttl ≠ session.ttl := by
    rw [hold, hnew]
    decide
  have hsigned := hauth 2 session hsession (Or.inl ⟨session', hsession', Or.inl hset⟩)
  rw [hsession] at hforged
  exact of_decide_eq_true hforged hsigned

end UDPServer

end SigmaMedia
