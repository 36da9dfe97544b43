import SigmaMedia.Theory.Registry.Roll

/-!
# What Holds of Every Session

The rule for properties of single sessions. A datagram touches sessions in a
handful of ways, spread over four functions and a loop, and a property that
survives each of them holds of every session afterwards, whoever was touched
and in which order.

What is asked of the property is collected in `Withstands`, one field for each
way, with all that is known where it happens. The packet that is decoded is
the one that was unprotected by the session's own cipher; a client that is
made is made for the sender of the datagram.

## Main definitions

* `Everyone`: All sessions have a property.
* `Withstands`: A property survives what a datagram does to a session.

## Theorems

* `everyone_updateSession`: Writing one session.
* `processPacket_everyone`: A datagram.
* `step_everyone`: Any command.
* `step_resolver`, `feed_resolver`: What offers are answered with stays.
-/

namespace SigmaMedia

open Bytes Exec Net Rtp Sdp Stun Text Thumbnail Trace

variable {crates : Crates}

/-- A session whose client's connection is in another state. -/
def Session.withState (session : Session crates) (client : Client crates.dtls)
    (sslState : ClientSslState crates.dtls) : Session crates :=
  { session with client := some { client with sslState } }

/-- A property of sessions survives what a datagram does to one of them. -/
structure Withstands (server : UDPServer crates) (packet : Bytes) (remote : SocketAddr)
    (P : Session crates → Prop) : Prop where
  /-- It is heard. -/
  touched : ∀ session now, P session → P { session with ttl := now }
  /-- It gets a client, the sender of the datagram. -/
  nominated : ∀ session client written, P session → session.client = none →
    Client.new crates.dtls remote = .ok (.ok client, written) →
    P { session with client := some client }
  /-- Its client reads the datagram. -/
  read : ∀ session client client' result written, P session → session.client = some client →
    client.readPacket packet = .ok (client', result, written) →
    P { session with client := some client' }
  /-- Its client's datagram is unprotected. -/
  received : ∀ session client stream, P session → session.client = some client →
    client.sslState = .established stream →
    P (session.withState client (.established { stream with
      srtpInbound := (crates.dtls.unprotect stream.srtpInbound packet).state }))
  /-- The packet in it is shown to the thumbnail extractor of the sender as
      well. -/
  watched : ∀ id session now client stream streamer extractor, P { session with ttl := now } →
    server.sender remote = some (id, session, client) →
    client.sslState = .established stream → session.connectionType = .streamer streamer →
    (crates.dtls.unprotect stream.srtpInbound packet).isOk = true →
    UDPServer.watch streamer session (crates.dtls.unprotect stream.srtpInbound packet).buffer
      = .ok extractor →
    P { Session.withState { session with ttl := now } client (.established { stream with
          srtpInbound := (crates.dtls.unprotect stream.srtpInbound packet).state }) with
        connectionType := .streamer { streamer with thumbnailExtractor := extractor } }
  /-- A packet is protected for its client. -/
  sent : ∀ session client stream plaintext, P session → session.client = some client →
    client.sslState = .established stream →
    P (session.withState client (.established { stream with
      srtpOutbound := (crates.dtls.protect stream.srtpOutbound plaintext).state }))

namespace UDPServer

/-- All sessions have a property. -/
def Everyone (P : Session crates → Prop) (server : UDPServer crates) : Prop :=
  ∀ k session, server.sessionRegistry.sessions.lookup k = some session → P session

variable {before server server' : UDPServer crates} {P : Session crates → Prop}

theorem everyone_updateSession (h : server.Everyone P) {id : ResourceID}
    {f : Session crates → Session crates}
    (hf : ∀ session, server.sessionRegistry.sessions.lookup id = some session →
      P session → P (f session)) : (server.updateSession id f).Everyone P := by
  intro k session hk
  simp only [updateSession, SessionRegistry.updateSession, Store.lookup_modify] at hk
  by_cases hid : k = id
  · rw [if_pos hid, hid, Option.map_eq_some_iff] at hk
    rcases hk with ⟨before, hbefore, rfl⟩
    exact hf before hbefore (h id before hbefore)
  · rw [if_neg hid] at hk
    exact h k session hk

section Datagram

variable {packet : Bytes} {remote : SocketAddr}

theorem forward_everyone (hP : Withstands before packet remote P) (heveryone : server.Everyone P)
    {sender : SocketAddr} {id : ResourceID} {sent : List Datagram}
    (h : server.forward sender id = .ok (server', sent)) : server'.Everyone P := by
  simp only [forward, bind_eq_ok, expect_eq_ok, Prod.exists] at h
  rcases h with ⟨_, _, _, viewer, hviewer, h⟩
  cases hclient : viewer.client with
  | none =>
      rw [hclient] at h
      cases h
      exact heveryone
  | some client =>
      simp only [hclient] at h
      cases hstate : client.sslState with
      | handshake mid =>
          rw [hstate] at h
          cases h
          exact heveryone
      | shutdown =>
          rw [hstate] at h
          cases h
          exact heveryone
      | established stream =>
          simp only [hstate, bind_eq_ok] at h
          rcases h with ⟨plaintext, _, h⟩
          -- Only the keys it sends with have moved on, sent or not.
          have hsent : (server.updateSession id fun session => session.withState client
              (.established { stream with
                srtpOutbound := (crates.dtls.protect stream.srtpOutbound plaintext).state })
              ).Everyone P := by
            refine everyone_updateSession heveryone ?_
            intro session hsession hheld
            rw [SessionRegistry.getSession, hsession] at hviewer
            cases hviewer
            exact hP.sent viewer client stream plaintext hheld hclient hstate
          split at h
          · cases h
            exact hsent
          · cases h
            exact hsent

theorem forwardAll_everyone (hP : Withstands before packet remote P) (heveryone : server.Everyone P)
    {sender : SocketAddr} {ids : List ResourceID} {sent : List Datagram}
    (h : server.forwardAll sender ids = .ok (server', sent)) : server'.Everyone P := by
  induction ids generalizing server sent with
  | nil =>
      cases h
      exact heveryone
  | cons id ids ih =>
      simp only [forwardAll, bind_eq_ok, Prod.exists, pure_eq_ok, Except.ok.injEq,
        Prod.mk.injEq] at h
      rcases h with ⟨server₁, sent₁, hone, server₂, sent₂, hrest, rfl, _⟩
      exact ih (forward_everyone hP heveryone hone) hrest

/-- The packet of a streamer that goes on to the viewers was shown to its
    extractor first. -/
theorem handleMedia_watched {id : ResourceID} {session : Session crates}
    {client : Client crates.dtls} {streamer : Streamer crates}
    {stream : EstablishedStream crates.dtls} {order : Enumeration ResourceID}
    {sent : List Datagram}
    (h : server.handleMedia remote id session client streamer stream order
      = .ok (server', sent)) :
    ((crates.dtls.unprotect stream.srtpInbound server.inboundBuffer).isOk = false ∧
        server' = server.unprotected id client stream) ∨
      (crates.dtls.unprotect stream.srtpInbound server.inboundBuffer).isOk = true ∧
        ∃ extractor ids, watch streamer session
            (crates.dtls.unprotect stream.srtpInbound server.inboundBuffer).buffer
              = .ok extractor ∧
          ((server.unprotected id client stream).extracted id streamer extractor).forwardAll
            remote ids = .ok (server', sent) := by
  unfold handleMedia at h
  simp only [] at h
  by_cases hok : (crates.dtls.unprotect stream.srtpInbound server.inboundBuffer).isOk = true
  · rw [if_pos hok] at h
    simp only [bind_eq_ok, expect_eq_ok] at h
    rcases h with ⟨extractor, hwatch, room, _, hall⟩
    exact Or.inr ⟨hok, extractor, _, hwatch, hall⟩
  · rw [if_neg hok] at h
    cases h
    exact Or.inl ⟨Bool.eq_false_iff.mpr hok, rfl⟩

theorem handleMedia_everyone (hP : Withstands before server.inboundBuffer remote P)
    (heveryone : server.Everyone P) {id : ResourceID} {session : Session crates} {now : Instant}
    {client : Client crates.dtls} {streamer : Streamer crates}
    {stream : EstablishedStream crates.dtls} {order : Enumeration ResourceID}
    {sent : List Datagram} (hsender : before.sender remote = some (id, session, client))
    (hlookup : server.sessionRegistry.sessions.lookup id = some { session with ttl := now })
    (hstate : client.sslState = .established stream)
    (hkind : session.connectionType = .streamer streamer)
    (h : server.handleMedia remote id session client streamer stream order
      = .ok (server', sent)) : server'.Everyone P := by
  have hclient := (sender_eq_some.mp hsender).2
  have hfound : ∀ session', server.sessionRegistry.sessions.lookup id = some session' →
      session' = { session with ttl := now } := by
    intro session' hsession'
    rw [hlookup] at hsession'
    exact (Option.some.inj hsession').symm
  rcases handleMedia_watched h with ⟨_, rfl⟩ | ⟨hok, extractor, ids, hwatch, hall⟩
  · refine everyone_updateSession heveryone ?_
    intro session' hsession' hheld
    rw [hfound session' hsession'] at hheld ⊢
    exact hP.received _ client stream hheld hclient hstate
  · refine forwardAll_everyone hP ?_ hall
    -- Both writes go to the session that sent the packet.
    intro k session' hk
    simp only [extracted, unprotected, updateSession, SessionRegistry.updateSession,
      Store.lookup_modify] at hk
    by_cases hid : k = id
    · rw [if_pos hid, if_pos hid, hid, hlookup, Option.map_some, Option.map_some,
        Option.some.injEq] at hk
      rw [← hk]
      exact hP.watched id session now client stream streamer extractor
        (heveryone id _ hlookup) hsender hstate hkind hok hwatch
    · rw [if_neg hid, if_neg hid] at hk
      exact heveryone k session' hk

theorem handleDatagram_everyone {arrival : Arrival} {sent : List Datagram}
    (hP : Withstands server arrival.data arrival.remote P) (heveryone : server.Everyone P)
    (h : server.handleDatagram arrival = .ok (server', sent)) : server'.Everyone P := by
  rcases hsender : server.sender arrival.remote with _ | ⟨id, session, client⟩
  · rw [handleDatagram_of_none hsender] at h
    cases h
    exact heveryone
  · rcases sender_eq_some.mp hsender with ⟨hfound, hclient⟩
    have hlookup := (SessionRegistry.getSessionByAddress_eq_some.mp hfound).2
    have hheld : (server.touched arrival id).sessionRegistry.sessions.lookup id
        = some { session with ttl := arrival.now } := lookup_touched hlookup
    -- First the session is heard of, whatever happens then.
    have htouched : (server.touched arrival id).Everyone P := by
      have hbuffer : ({ server with inboundBuffer := arrival.data } :
        UDPServer crates).Everyone P := heveryone
      exact everyone_updateSession hbuffer fun session' _ h => hP.touched session' _ h
    -- By the state of the connection, and who is at its other end.
    cases hstate : client.sslState with
    | handshake mid =>
        rw [handleDatagram_handshake hsender hstate] at h
        simp only [continueHandshake, bind_eq_ok, Prod.exists, pure_eq_ok, Except.ok.injEq,
          Prod.mk.injEq] at h
        rcases h with ⟨client', result, written, hread, rfl, _⟩
        refine everyone_updateSession htouched ?_
        intro session' hsession' h
        rw [hheld] at hsession'
        cases hsession'
        exact hP.read _ client client' result written h hclient hread
    | established stream =>
        cases hkind : session.connectionType with
        | viewer viewer =>
            have hdone : ∀ mid, client.sslState ≠ .handshake mid := by
              intro mid h
              rw [hstate] at h
              cases h
            rw [handleDatagram_viewer hsender hkind hdone] at h
            cases h
            exact htouched
        | streamer streamer =>
            rw [handleDatagram_streamer hsender hkind hstate] at h
            exact handleMedia_everyone hP htouched hsender hheld hstate hkind h
    | shutdown =>
        cases hkind : session.connectionType with
        | viewer viewer =>
            have hdone : ∀ mid, client.sslState ≠ .handshake mid := by
              intro mid h
              rw [hstate] at h
              cases h
            rw [handleDatagram_viewer hsender hkind hdone] at h
            cases h
            exact htouched
        | streamer streamer =>
            rw [handleDatagram_shutdown hsender hkind hstate] at h
            cases h

theorem nominate_everyone (hP : Withstands before packet remote P) (heveryone : server.Everyone P)
    {id : ResourceID} {session : Session crates} {written : List Bytes}
    (hlookup : server.sessionRegistry.sessions.lookup id = some session)
    (h : server.nominate remote id session = .ok (server', written)) : server'.Everyone P := by
  unfold nominate at h
  -- Whoever has a client keeps it.
  cases hclient : session.client with
  | some client =>
      rw [hclient, Option.isNone_some] at h
      cases h
      exact heveryone
  | none =>
      simp only [hclient, Option.isNone_none, if_true, bind_eq_ok, Prod.exists, expectOk_eq_ok,
        pure_eq_ok, Except.ok.injEq, Prod.mk.injEq] at h
      rcases h with ⟨_, written', hnew, client, rfl, rfl, _⟩
      have hnominated : (server.updateSession id fun session => { session with
          client := some client }).Everyone P := by
        refine everyone_updateSession heveryone ?_
        intro session' hsession' h
        rw [hlookup] at hsession'
        cases hsession'
        exact hP.nominated session client written' h hclient hnew
      simp only [SessionRegistry.nominateClient, hlookup]
      exact hnominated

theorem handleStunPacket_everyone {message : ICEStunMessageType} {now : Instant}
    {sent : List Datagram} (hP : Withstands before packet remote P) (heveryone : server.Everyone P)
    (h : server.handleStunPacket remote message now = .ok (server', sent)) :
    server'.Everyone P := by
  have htouched : ∀ id, (server.updateSession id fun session =>
      { session with ttl := now }).Everyone P := fun id =>
    everyone_updateSession heveryone fun session _ h => hP.touched session now h
  -- Either kind of request touches the session first, and a nomination may go
  -- on.
  cases message with
  | liveCheck msg =>
      simp only [handleStunPacket] at h
      split at h
      · cases h
        exact heveryone
      · simp only [bind_eq_ok, pure_eq_ok, Except.ok.injEq, Prod.mk.injEq] at h
        rcases h with ⟨_, _, rfl, _⟩
        exact htouched _
  | nomination msg =>
      simp only [handleStunPacket] at h
      split at h
      · cases h
        exact heveryone
      · simp only [SessionRegistry.getSession, bind_eq_ok, unwrap_eq_ok, Prod.exists, pure_eq_ok,
          Except.ok.injEq, Prod.mk.injEq] at h
        rcases h with ⟨session, hsession, server'', written, hnominate, _, _, _, _, rfl, _⟩
        exact nominate_everyone hP (htouched _) hsession hnominate

/-- What survives everything a datagram does holds of everyone after it. -/
theorem processPacket_everyone {now : Instant} {order : Enumeration ResourceID}
    {sent : List Datagram} (hP : Withstands server packet remote P) (heveryone : server.Everyone P)
    (h : server.processPacket packet remote now order = .ok (server', sent)) :
    server'.Everyone P := by
  simp only [processPacket, bind_eq_ok] at h
  rcases h with ⟨message, _, h⟩
  have hbuffer : ({ server with inboundBuffer := packet } : UDPServer crates).Everyone P :=
    heveryone
  cases message with
  | none =>
      have hother : server.handleDatagram ⟨packet, remote, now, order⟩ = .ok (server', sent) := h
      exact handleDatagram_everyone hP heveryone hother
  | some message => exact handleStunPacket_everyone hP hbuffer h

end Datagram

/-- A tick stamps those it leaves. -/
theorem runPeriodicChecks_everyone {env : Env} {output : Output}
    (hfiled : server.directory.Filed)
    (hstamped : ∀ session now, P session → P (stamped session now))
    (heveryone : server.Everyone P) (h : server.runPeriodicChecks env = .ok (server', output)) :
    server'.Everyone P := by
  have hids : ∀ k session, server.sessionRegistry.sessions.lookup k = some session →
      session.id = k := fun k session hk => hfiled k _ (SessionRegistry.directory_sessions hk)
  rcases runPeriodicChecks_eq hids env with ⟨output', hticks⟩
  rw [hticks] at h
  cases h
  intro k session hk
  rw [lookup_swept] at hk
  rcases Option.bind_eq_some_iff.mp hk with ⟨before, hbefore, hleft⟩
  rw [Option.ite_none_left_eq_some, Option.some.injEq] at hleft
  rw [← hleft.2]
  exact hstamped before _ (heveryone k before hbefore)

/-- What holds of those who join and survives everything that is done to those
    who are there holds of everyone after any command. -/
theorem step_everyone {input : Command × Env} {output : Output} (hfiled : server.directory.Filed)
    (hjoins : ∀ mediaSession session, Session.newStreamer mediaSession input.2.roomId
      input.2.resourceId input.2.now = .ok session → P session)
    (hwatches : ∀ mediaSession targetId,
      P (Session.newViewer targetId mediaSession input.2.resourceId input.2.now))
    (hpacket : ∀ packet remote, input.1 = .handlePacket packet remote →
      Withstands server packet remote P)
    (hstamped : ∀ session now, P session → P (stamped session now))
    (heveryone : server.Everyone P) (h : server.step input = .ok (server', output)) :
    server'.Everyone P := by
  -- A session that is written as a whole has the property, and so does the rest.
  have hinsert : ∀ {registry : SessionRegistry crates} {session : Session crates},
      registry.sessions = server.sessionRegistry.sessions.insert input.2.resourceId session →
      P session → ({ server with sessionRegistry := registry } : UDPServer crates).Everyone P := by
    intro registry session hsessions hsession k found hk
    simp only [hsessions, Store.lookup_insert_eq] at hk
    by_cases hid : k = input.2.resourceId
    · rw [if_pos hid, Option.some.injEq] at hk
      rw [← hk]
      exact hsession
    · rw [if_neg hid] at hk
      exact heveryone k found hk
  rcases input with ⟨command, env⟩
  cases command with
  | handlePacket packet remote =>
      simp only [step, bind_eq_ok, Prod.exists, pure_eq_ok, Except.ok.injEq, Prod.mk.injEq] at h
      rcases h with ⟨_, sent, hprocess, rfl, _⟩
      exact processPacket_everyone (hpacket packet remote rfl) heveryone hprocess
  | addStreamer sdpOffer =>
      simp only [step, addStreamer] at h
      cases haccept : server.sdpResolver.acceptStreamOffer sdpOffer env.draws with
      | error e =>
          rw [haccept] at h
          rw [respond_eq_ok h]
          exact heveryone
      | ok mediaSession =>
          simp only [haccept, bind_eq_ok, Prod.exists, SessionRegistry.addStreamer, pure_eq_ok,
            Except.ok.injEq, Prod.mk.injEq] at h
          rcases h with ⟨registry, _, ⟨session, hnew, rfl, _⟩, hrespond⟩
          rw [respond_eq_ok hrespond]
          exact hinsert rfl (hjoins mediaSession session hnew)
  | addViewer sdpOffer targetId =>
      simp only [step, addViewer] at h
      split at h
      · rw [respond_eq_ok h]
        exact heveryone
      · rename_i mediaSession _
        simp only [bind_eq_ok, Prod.exists, SessionRegistry.addViewer, expect_eq_ok, pure_eq_ok,
          Except.ok.injEq, Prod.mk.injEq] at h
        rcases h with ⟨registry, _, ⟨_, _, rfl, _⟩, hrespond⟩
        rw [respond_eq_ok hrespond]
        exact hinsert rfl (hwatches mediaSession targetId)
  | sendRoomsStatus =>
      cases h
      exact heveryone
  | runPeriodicChecks => exact runPeriodicChecks_everyone hfiled hstamped heveryone h

section Resolver

theorem forwardAll_resolver {sender : SocketAddr} {ids : List ResourceID} {sent : List Datagram}
    (h : server.forwardAll sender ids = .ok (server', sent)) :
    server'.sdpResolver = server.sdpResolver := by
  induction ids generalizing server sent with
  | nil =>
      cases h
      rfl
  | cons id ids ih =>
      simp only [forwardAll, bind_eq_ok, Prod.exists, pure_eq_ok, Except.ok.injEq,
        Prod.mk.injEq] at h
      rcases h with ⟨server₁, sent₁, hone, server₂, sent₂, hrest, rfl, _⟩
      rw [ih hrest]
      -- What is written for one viewer is its session and the outbound buffer.
      simp only [forward, bind_eq_ok, expect_eq_ok, Prod.exists] at hone
      rcases hone with ⟨_, _, _, viewer, _, hone⟩
      split at hone
      · cases hone
        rfl
      · split at hone
        · rcases bind_eq_ok.mp hone with ⟨_, _, hone⟩
          split at hone
          · cases hone
            rfl
          · cases hone
            rfl
        · cases hone
          rfl

theorem handleDatagram_resolver {arrival : Arrival} {sent : List Datagram}
    (h : server.handleDatagram arrival = .ok (server', sent)) :
    server'.sdpResolver = server.sdpResolver := by
  rcases hsender : server.sender arrival.remote with _ | ⟨id, session, client⟩
  · rw [handleDatagram_of_none hsender] at h
    cases h
    rfl
  · -- All that is written is the registry and the buffers.
    have hviewer : ∀ viewer, session.connectionType = .viewer viewer →
        (∀ mid, client.sslState ≠ .handshake mid) →
        server'.sdpResolver = server.sdpResolver := by
      intro viewer hkind hdone
      rw [handleDatagram_viewer hsender hkind hdone] at h
      cases h
      rfl
    cases hstate : client.sslState with
    | handshake mid =>
        rw [handleDatagram_handshake hsender hstate] at h
        simp only [continueHandshake, bind_eq_ok, Prod.exists, pure_eq_ok, Except.ok.injEq,
          Prod.mk.injEq] at h
        rcases h with ⟨_, _, _, _, rfl, _⟩
        rfl
    | established stream =>
        cases hkind : session.connectionType with
        | viewer viewer => exact hviewer viewer hkind fun mid h => (by rw [hstate] at h; cases h)
        | streamer streamer =>
            rw [handleDatagram_streamer hsender hkind hstate] at h
            rcases handleMedia_watched h with ⟨_, rfl⟩ | ⟨_, _, _, _, hall⟩
            · rfl
            · have hresolver := forwardAll_resolver hall
              exact hresolver
    | shutdown =>
        cases hkind : session.connectionType with
        | viewer viewer => exact hviewer viewer hkind fun mid h => (by rw [hstate] at h; cases h)
        | streamer streamer =>
            rw [handleDatagram_shutdown hsender hkind hstate] at h
            cases h

theorem handleStunPacket_resolver {message : ICEStunMessageType} {remote : SocketAddr}
    {now : Instant} {sent : List Datagram}
    (h : server.handleStunPacket remote message now = .ok (server', sent)) :
    server'.sdpResolver = server.sdpResolver := by
  cases message with
  | liveCheck msg =>
      simp only [handleStunPacket] at h
      split at h
      · cases h
        rfl
      · simp only [bind_eq_ok, pure_eq_ok, Except.ok.injEq, Prod.mk.injEq] at h
        rcases h with ⟨_, _, rfl, _⟩
        rfl
  | nomination msg =>
      simp only [handleStunPacket] at h
      split at h
      · cases h
        rfl
      · simp only [bind_eq_ok, Prod.exists, pure_eq_ok, Except.ok.injEq, Prod.mk.injEq] at h
        rcases h with ⟨_, _, _, _, hnominate, _, _, _, _, rfl, _⟩
        -- A nomination writes to the registry.
        unfold nominate at hnominate
        split at hnominate
        · simp only [bind_eq_ok, Prod.exists, pure_eq_ok, Except.ok.injEq,
            Prod.mk.injEq] at hnominate
          rcases hnominate with ⟨_, _, _, _, _, rfl, _⟩
          rfl
        · cases hnominate
          rfl

/-- No command changes what offers are answered with. -/
theorem step_resolver {input : Command × Env} {output : Output}
    (h : server.step input = .ok (server', output)) :
    server'.sdpResolver = server.sdpResolver := by
  rcases input with ⟨command, env⟩
  cases command with
  | handlePacket packet remote =>
      simp only [step, processPacket, bind_eq_ok, Prod.exists, pure_eq_ok, Except.ok.injEq,
        Prod.mk.injEq] at h
      rcases h with ⟨_, sent, ⟨message, _, hprocess⟩, rfl, _⟩
      -- A datagram is a packet or a binding request.
      cases message with
      | none =>
          have hother : server.handleDatagram ⟨packet, remote, env.now, env.order⟩
              = .ok (_, sent) := hprocess
          exact handleDatagram_resolver hother
      | some message =>
          have hresolver := handleStunPacket_resolver hprocess
          exact hresolver
  | addStreamer sdpOffer =>
      simp only [step, addStreamer] at h
      split at h
      · rw [respond_eq_ok h]
      · rcases bind_eq_ok.mp h with ⟨_, _, hrespond⟩
        rw [respond_eq_ok hrespond]
  | addViewer sdpOffer targetId =>
      simp only [step, addViewer] at h
      split at h
      · rw [respond_eq_ok h]
      · rcases bind_eq_ok.mp h with ⟨_, _, hrespond⟩
        rw [respond_eq_ok hrespond]
  | sendRoomsStatus =>
      cases h
      rfl
  | runPeriodicChecks =>
      simp only [step, runPeriodicChecks, bind_eq_ok, pure_eq_ok, Except.ok.injEq,
        Prod.mk.injEq] at h
      rcases h with ⟨_, _, rfl, _⟩
      rfl

theorem feed_resolver {inputs : List (Command × Env)} {outputs : List Output}
    (h : feed step server inputs = .ok (server', outputs)) :
    server'.sdpResolver = server.sdpResolver := by
  refine feed_past (fun _ s => s.sdpResolver = server.sdpResolver) rfl ?_ h
  intro past s os i s₁ o _ hs hstep
  exact (step_resolver hstep).trans hs

end Resolver

end UDPServer

end SigmaMedia
