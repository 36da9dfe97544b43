import SigmaMedia.Theory.Forwarding
import SigmaMedia.Theory.Thumbnail.Collect

/-!
# Connections and Their Failures

A connection goes from its handshake to the established stream and stays
there. That is what the code is after, and it gets there as long as two
things never happen in the middle: a handshake that fails in its set-up
returns while the connection is taken out of the client, so that the client
is left shut down, and a session without keys is unwrapped. The first is
noticed one packet later, by a streamer, where a shut down connection was left
to be handled another day.

The datagrams of an established streamer can stop the server as well, in the
code behind the connection: a packet too short for its header, a payload the
thumbnails are taken from, a room or a viewer that is not there.

`Fine` collects these conditions, on what a datagram finds before it is
handled, and `Handled` is what is wanted of it. The two are equivalent step by
step, for any server at all, and so along any run.

## Main definitions

* `Phase`: How far a connection has got.
* `Steady`: What a phase may become.
* `Client.Continues`, `Client.ReadsSafely`: A packet read by a client.
* `Relays`: A packet of a streamer can be sent on.
* `handleDatagram`: One datagram that is not a binding request.
* `Fine`, `Handled`: What it finds, and what becomes of it.

## Theorems

* `readsSafely_iff`: When a client reads a packet safely.
* `forwardAll_returns_iff`, `forwardAll_phases`: Sending a packet on.
* `handleMedia_returns_iff`, `handleMedia_phases`: A packet of a streamer.
* `handled_iff_fine`: One datagram.
* `handled_along_iff`: A run of datagrams.
-/

namespace SigmaMedia

open Bytes Exec Net Rtp Sdp Text Thumbnail Trace

/-- How far a connection has got. -/
inductive Phase where
  | handshake
  | established
  | shutdown
  deriving DecidableEq, Repr

/-- An established connection stays established, and none is shut down. -/
def Steady (before after : Option Phase) : Prop :=
  (before = some .established → after = some .established) ∧
    (after = some .shutdown → before = some .shutdown)

theorem Steady.refl (phase : Option Phase) : Steady phase phase := ⟨id, id⟩

variable {crates : Crates}

/-- The phase of a connection. -/
def ClientSslState.phase {dtls : Dtls} : ClientSslState dtls → Phase
  | .handshake _ => .handshake
  | .established _ => .established
  | .shutdown => .shutdown

/-- A handshake can be gone on from: its set-up did not fail, and a session it
    ended with has its keys. -/
def Dtls.Usable (dtls : Dtls) : HandshakeOutcome dtls.Handshake dtls.Session → Prop
  | .ok session => (dtls.sessionPair session).isSome = true
  | .setupFailure => False
  | .failure _ => True
  | .wouldBlock _ => True

namespace Client

variable {dtls : Dtls}

/-- If the packet is one more for a handshake, the handshake can be gone on
    from. -/
def Continues (client : Client dtls) (packet : Bytes) : Prop :=
  ∀ mid, client.sslState = .handshake mid →
    dtls.Usable (dtls.handshake mid.handshake (mid.stream.incomingPackets ++ [packet])).outcome

/-- Reading the packet returns, with the state as it was if it returns an
    error, and leaves the connection steady. -/
def ReadsSafely (client : Client dtls) (packet : Bytes) : Prop :=
  ∃ client' result written, client.readPacket packet = .ok (client', result, written) ∧
    ((∃ e, result = .error e) → client'.sslState = client.sslState) ∧
    Steady (some client.sslState.phase) (some client'.sslState.phase)

theorem readsSafely_iff (client : Client dtls) (packet : Bytes) :
    client.ReadsSafely packet ↔ client.Continues packet := by
  unfold ReadsSafely Continues readPacket
  cases hstate : client.sslState with
  | established stream =>
      refine ⟨fun _ mid hmid => (by cases hmid), fun _ => ⟨_, _, _, rfl, ?_, Steady.refl _⟩⟩
      intro h
      rcases h with ⟨e, he⟩
      cases he
  | shutdown =>
      refine ⟨fun _ mid hmid => (by cases hmid),
        fun _ => ⟨_, _, _, rfl, fun _ => rfl, Steady.refl _⟩⟩
  | handshake mid =>
      -- Everything hangs on how the handshake went.
      have hforall : ∀ P : MidHandshakeSslStream dtls → Prop,
          (∀ mid', ClientSslState.handshake mid = .handshake mid' → P mid') ↔ P mid := by
        intro P
        refine ⟨fun h => h mid rfl, ?_⟩
        intro h mid' hmid
        cases hmid
        exact h
      rw [hforall]
      simp only []
      cases houtcome : (dtls.handshake mid.handshake
          (mid.stream.incomingPackets ++ [packet])).outcome with
      | ok session =>
          simp only [Dtls.Usable]
          cases hpair : dtls.sessionPair session with
          | none =>
              refine ⟨?_, fun h => (by cases h)⟩
              intro h
              rcases h with ⟨_, _, _, h, _⟩
              cases h
          | some pair =>
              refine ⟨fun _ => rfl, fun _ => ⟨_, _, _, rfl, ?_, ?_⟩⟩
              · intro h
                rcases h with ⟨e, he⟩
                cases he
              · exact ⟨fun h => (by cases h), fun h => (by cases h)⟩
      | setupFailure =>
          refine ⟨?_, fun h => h.elim⟩
          -- The error is returned with the connection still taken out.
          intro h
          rcases h with ⟨client', result, written, h, _, hsteady⟩
          cases h
          have hbefore := hsteady.2 rfl
          cases hbefore
      | failure handshake =>
          refine ⟨fun _ => trivial, fun _ => ⟨_, _, _, rfl, ?_, Steady.refl _⟩⟩
          intro h
          rcases h with ⟨e, he⟩
          cases he
      | wouldBlock handshake =>
          refine ⟨fun _ => trivial, fun _ => ⟨_, _, _, rfl, ?_, Steady.refl _⟩⟩
          intro h
          rcases h with ⟨e, he⟩
          cases he

end Client

/-- The phase of a session's connection, if it has a client. -/
def Session.phase (session : Session crates) : Option Phase :=
  session.client.map fun client => client.sslState.phase

namespace UDPServer

/-- The phase of the connection at an id. -/
def phaseOf (server : UDPServer crates) (k : ResourceID) : Option Phase :=
  (server.sessionRegistry.sessions.lookup k).bind Session.phase

variable {server server' : UDPServer crates}

theorem phaseOf_updateSession (server : UDPServer crates) (id k : ResourceID)
    (f : Session crates → Session crates) :
    (server.updateSession id f).phaseOf k
      = if k = id then (server.sessionRegistry.sessions.lookup k).bind fun s => (f s).phase
        else server.phaseOf k := by
  simp only [phaseOf, updateSession, SessionRegistry.updateSession, Store.lookup_modify]
  by_cases hk : k = id
  · rw [if_pos hk, if_pos hk]
    cases server.sessionRegistry.sessions.lookup k with
    | none => rfl
    | some session => rfl
  · rw [if_neg hk, if_neg hk]

/-- An update that keeps the phase of its session is not seen. -/
theorem phaseOf_updateSession_same {id : ResourceID} {f : Session crates → Session crates}
    (h : ∀ session, server.sessionRegistry.sessions.lookup id = some session →
      (f session).phase = session.phase) (k : ResourceID) :
    (server.updateSession id f).phaseOf k = server.phaseOf k := by
  rw [phaseOf_updateSession]
  by_cases hk : k = id
  · rw [if_pos hk, phaseOf, hk]
    cases hid : server.sessionRegistry.sessions.lookup id with
    | none => rfl
    | some session => exact h session hid
  · rw [if_neg hk]

/-- A viewer that is there is sent to without a panic: the packet is long
    enough to be rewritten, and the sender is found. -/
theorem forward_returns_iff {remote : SocketAddr} {id k : ResourceID} {o : Outline}
    (haddress : server.directory.addresses remote = some k)
    (hsender : server.directory.sessions k = some o) (hlen : 12 ≤ server.inboundBuffer.length) :
    Returns (server.forward remote id) ↔ id ∈ server.sessionRegistry.sessions := by
  rcases SessionRegistry.directory_sessions_eq_some.mp hsender with ⟨sender, hlookup, _⟩
  have hfound := SessionRegistry.getSessionByAddress_eq_some.mpr ⟨haddress, hlookup⟩
  rw [forward, hfound]
  simp only [expect, ok_bind, SessionRegistry.getSession]
  -- The sender is there; the session of the viewer is expected to be.
  cases hviewer : server.sessionRegistry.sessions.lookup id with
  | none =>
      have hgone : id ∉ server.sessionRegistry.sessions := Finmap.lookup_eq_none.mp hviewer
      refine ⟨?_, fun hlive => absurd hlive hgone⟩
      intro h
      rcases h with ⟨_, h⟩
      cases h
  | some viewer =>
      refine ⟨fun _ => Finmap.mem_of_lookup_eq_some hviewer, fun _ => ?_⟩
      simp only [ok_bind]
      split
      · exact returns_ok _
      · split
        · -- Rewriting needs the twelve bytes of the header.
          rcases (remapRtpHeader_returns_iff server.inboundBuffer sender.mediaSession
            viewer.mediaSession).mpr hlen with ⟨plaintext, hremap⟩
          simp only [hremap, ok_bind]
          split
          · exact returns_ok _
          · exact returns_ok _
        · exact returns_ok _

/-- Sending to a viewer keeps the packet and every phase. -/
theorem forward_phases {remote : SocketAddr} {id : ResourceID} {sent : List Datagram}
    (h : server.forward remote id = .ok (server', sent)) :
    server'.inboundBuffer = server.inboundBuffer ∧ ∀ k, server'.phaseOf k = server.phaseOf k := by
  simp only [forward, bind_eq_ok, expect_eq_ok, Prod.exists] at h
  rcases h with ⟨_, _, _, viewer, hviewer, h⟩
  split at h
  · cases h
    exact ⟨rfl, fun _ => rfl⟩
  · rename_i client hclient
    split at h
    · rename_i stream hstate
      rw [bind_eq_ok] at h
      rcases h with ⟨plaintext, _, h⟩
      -- Protecting a packet moves the cipher state on, and leaves the phase.
      have hphases : ∀ k, (server.updateSession id fun session => { session with
          client := some { client with sslState := .established { stream with
            srtpOutbound := (crates.dtls.protect stream.srtpOutbound plaintext).state } }
          }).phaseOf k = server.phaseOf k := by
        apply phaseOf_updateSession_same
        intro session hsession
        rw [SessionRegistry.getSession, hsession] at hviewer
        cases hviewer
        simp only [Session.phase, hclient, Option.map_some, hstate, ClientSslState.phase]
      split at h
      · cases h
        exact ⟨rfl, hphases⟩
      · cases h
        exact ⟨rfl, hphases⟩
    · cases h
      exact ⟨rfl, fun _ => rfl⟩

/-- Sessions with one directory are the same ids. -/
theorem live_iff_of_directory (h : server'.directory = server.directory) (k : ResourceID) :
    k ∈ server'.sessionRegistry.sessions ↔ k ∈ server.sessionRegistry.sessions := by
  have hk := congrFun (congrArg Directory.sessions h) k
  simp only [directory, SessionRegistry.directory] at hk
  rw [← Finmap.lookup_isSome, ← Finmap.lookup_isSome, ← Option.isSome_map, hk, Option.isSome_map]

theorem forwardAll_returns_iff {remote : SocketAddr} {ids : List ResourceID} {k : ResourceID}
    {o : Outline} (haddress : server.directory.addresses remote = some k)
    (hsender : server.directory.sessions k = some o) (hlen : 12 ≤ server.inboundBuffer.length) :
    Returns (server.forwardAll remote ids) ↔ ∀ id ∈ ids, id ∈ server.sessionRegistry.sessions := by
  induction ids generalizing server with
  | nil => exact ⟨fun _ id hid => absurd hid List.not_mem_nil, fun _ => returns_ok _⟩
  | cons id ids ih =>
      rw [forwardAll, returns_bind, List.forall_mem_cons,
        ← forward_returns_iff haddress hsender hlen]
      -- What the first viewer leaves behind is enough for the others.
      have hnext : ∀ server₁ sent₁, server.forward remote id = .ok (server₁, sent₁) →
          (Returns (server₁.forwardAll remote ids) ↔
            ∀ j ∈ ids, j ∈ server.sessionRegistry.sessions) := by
        intro server₁ sent₁ hone
        have hdir := forward_directory hone
        have hbuffer := (forward_phases hone).1
        rw [ih (hdir ▸ haddress) (hdir ▸ hsender) (hbuffer ▸ hlen)]
        simp only [live_iff_of_directory hdir]
      simp only [returns_bind, pure_eq_ok, returns_ok, and_true, Prod.exists]
      constructor
      · intro h
        rcases h with ⟨server₁, sent₁, hone, server₂, sent₂, hrest⟩
        exact ⟨⟨_, hone⟩, (hnext server₁ sent₁ hone).mp ⟨_, hrest⟩⟩
      · intro h
        rcases h with ⟨⟨⟨server₁, sent₁⟩, hone⟩, hlive⟩
        rcases (hnext server₁ sent₁ hone).mpr hlive with ⟨⟨server₂, sent₂⟩, hrest⟩
        exact ⟨server₁, sent₁, hone, server₂, sent₂, hrest⟩

theorem forwardAll_phases {remote : SocketAddr} {ids : List ResourceID} {sent : List Datagram}
    (h : server.forwardAll remote ids = .ok (server', sent)) (k : ResourceID) :
    server'.phaseOf k = server.phaseOf k := by
  induction ids generalizing server sent with
  | nil =>
      cases h
      rfl
  | cons id ids ih =>
      simp only [forwardAll, bind_eq_ok, Prod.exists, pure_eq_ok, Except.ok.injEq,
        Prod.mk.injEq] at h
      rcases h with ⟨server₁, sent₁, hone, server₂, sent₂, hrest, rfl, _⟩
      rw [ih hrest, (forward_phases hone).2 k]

/-- A packet can be shown to the thumbnail extractor: it has a header, and a
    packet of video survives the extractor. -/
def Watchable (session : Session crates) (streamer : Streamer crates) (rtp : Bytes) : Prop :=
  12 ≤ rtp.length ∧ ∀ header, getRtpHeaderData rtp = .ok header →
    isVideoPacket header session.mediaSession = true →
      Survives streamer.thumbnailExtractor.auDecoder rtp

theorem watch_returns_iff (streamer : Streamer crates) (session : Session crates) (rtp : Bytes) :
    Returns (watch streamer session rtp) ↔ Watchable session streamer rtp := by
  unfold watch Watchable
  rw [← getRtpHeaderData_returns_iff]
  -- The header is read first, and only video goes on to the extractor.
  cases hheader : getRtpHeaderData rtp with
  | error p =>
      exact ⟨fun h => (not_returns_error p h).elim, fun h => (not_returns_error p h.1).elim⟩
  | ok header =>
      simp only [ok_bind, Except.ok.injEq, forall_eq', returns_ok, true_and]
      by_cases hvideo : isVideoPacket header session.mediaSession = true
      · rw [if_pos hvideo, ← tryExtractThumbnail_returns_iff, returns_bind]
        constructor
        · intro h _
          rcases h with ⟨result, hextract, _⟩
          exact ⟨result, hextract⟩
        · intro h
          rcases h hvideo with ⟨result, hextract⟩
          exact ⟨result, hextract, returns_ok _⟩
      · rw [if_neg hvideo]
        exact ⟨fun _ h => absurd h hvideo, fun _ => returns_ok _⟩

/-- A packet of a streamer can be sent on: it can be watched, and the room of
    the streamer is there with all its viewers. -/
def Relays (server : UDPServer crates) (session : Session crates) (streamer : Streamer crates)
    (rtp : Bytes) : Prop :=
  Watchable session streamer rtp ∧
    ∃ room, server.sessionRegistry.rooms.lookup streamer.ownedRoomId = some room ∧
      ∀ id ∈ room.viewerIds, id ∈ server.sessionRegistry.sessions

theorem relays_congr (h : server'.directory = server.directory) (session : Session crates)
    (streamer : Streamer crates) (rtp : Bytes) :
    server'.Relays session streamer rtp ↔ server.Relays session streamer rtp := by
  unfold Relays
  rw [(maps_eq_of_directory h).1]
  simp only [live_iff_of_directory h]

theorem handleMedia_returns_iff {remote : SocketAddr} {id : ResourceID} {session : Session crates}
    {client : Client crates.dtls} {streamer : Streamer crates}
    (stream : EstablishedStream crates.dtls) (order : Enumeration ResourceID)
    (hholds : server.Holds id client (.streamer streamer.ownedRoomId))
    (haddress : server.directory.addresses remote = some id) :
    Returns (server.handleMedia remote id session client streamer stream order) ↔
      ((crates.dtls.unprotect stream.srtpInbound server.inboundBuffer).isOk = true →
        server.Relays session streamer
          (crates.dtls.unprotect stream.srtpInbound server.inboundBuffer).buffer) := by
  unfold handleMedia
  simp only []
  by_cases hok : (crates.dtls.unprotect stream.srtpInbound server.inboundBuffer).isOk = true
  · rw [if_pos hok, returns_bind]
    -- What comes after the watching happens in a server with the same directory.
    have hrest : ∀ extractor (room : Room),
        12 ≤ (crates.dtls.unprotect stream.srtpInbound server.inboundBuffer).buffer.length →
        (Returns (((server.unprotected id client stream).extracted id streamer
          extractor).forwardAll remote (order.list room.viewerIds)) ↔
          ∀ k ∈ room.viewerIds, k ∈ server.sessionRegistry.sessions) := by
      intro extractor room hlen
      have hdir := extracted_unprotected_directory hholds stream extractor
      rcases hholds with ⟨o, ho, _⟩
      rw [← hdir] at haddress ho
      rw [forwardAll_returns_iff haddress ho hlen]
      simp only [order.mem, live_iff_of_directory hdir]
    constructor
    · intro h _
      rcases h with ⟨extractor, hwatch, h⟩
      have hwatchable := (watch_returns_iff streamer session _).mp ⟨extractor, hwatch⟩
      rcases returns_bind.mp h with ⟨room, hroom, h⟩
      exact ⟨hwatchable, room, expect_eq_ok.mp hroom,
        (hrest extractor room hwatchable.1).mp h⟩
    · intro h
      rcases h hok with ⟨hwatchable, room, hroom, hlive⟩
      rcases (watch_returns_iff streamer session _).mpr hwatchable with ⟨extractor, hwatch⟩
      refine ⟨extractor, hwatch, returns_bind.mpr ⟨room, ?_, ?_⟩⟩
      · exact expect_eq_ok.mpr hroom
      · exact (hrest extractor room hwatchable.1).mpr hlive
  · rw [if_neg hok]
    exact ⟨fun _ h => absurd h hok, fun _ => returns_ok _⟩

/-- A packet of a streamer keeps every phase. -/
theorem handleMedia_phases {remote : SocketAddr} {id : ResourceID} {session found : Session crates}
    {client : Client crates.dtls} {streamer : Streamer crates}
    {stream : EstablishedStream crates.dtls} {order : Enumeration ResourceID}
    {sent : List Datagram} (hlookup : server.sessionRegistry.sessions.lookup id = some found)
    (hclient : found.client = some client) (hstate : client.sslState = .established stream)
    (h : server.handleMedia remote id session client streamer stream order
      = .ok (server', sent)) (k : ResourceID) : server'.phaseOf k = server.phaseOf k := by
  -- Three writes, and none of them to a phase: the inbound cipher state, the
  -- extractor, and the outbound states of the viewers.
  have hunprotected : (server.unprotected id client stream).phaseOf k = server.phaseOf k := by
    refine phaseOf_updateSession_same ?_ k
    intro session' hsession'
    rw [hlookup] at hsession'
    cases hsession'
    simp only [Session.phase, hclient, Option.map_some, hstate, ClientSslState.phase]
  rcases handleMedia_eq_ok h with ⟨_, rfl, _⟩ | ⟨_, extractor, room, _, hall⟩
  · exact hunprotected
  · have hextracted : ((server.unprotected id client stream).extracted id streamer
        extractor).phaseOf k = (server.unprotected id client stream).phaseOf k := by
      refine phaseOf_updateSession_same ?_ k
      intro session' _
      rfl
    rw [forwardAll_phases hall, hextracted, hunprotected]

/-- One more packet for a handshake that can be gone on from is steady for
    everybody. -/
theorem continueHandshake_steady {id : ResourceID} {session : Session crates}
    {client : Client crates.dtls} (mid : MidHandshakeSslStream crates.dtls)
    (hlookup : server.sessionRegistry.sessions.lookup id = some session)
    (hclient : session.client = some client)
    (hsafe : client.ReadsSafely server.inboundBuffer) :
    ∃ server' sent, server.continueHandshake id client mid = .ok (server', sent) ∧
      ∀ k, Steady (server.phaseOf k) (server'.phaseOf k) := by
  rcases hsafe with ⟨client', result, written, hread, _, hsteady⟩
  refine ⟨server.updateSession id fun session => { session with client := some client' },
    written.map fun bytes => { kind := .dtls, remote := mid.stream.remote, bytes }, ?_, ?_⟩
  · rw [continueHandshake, hread]
    rfl
  · intro k
    rw [phaseOf_updateSession]
    -- The state of this session moves on, and no other is touched.
    by_cases hk : k = id
    · rw [if_pos hk, phaseOf, hk, hlookup, Option.bind_some, Option.bind_some, Session.phase,
        Session.phase, hclient]
      exact hsteady
    · rw [if_neg hk]
      exact Steady.refl _

/-- A datagram that is not a binding request, with what its handling does not
    decide. -/
structure Arrival where
  data : Bytes
  remote : SocketAddr
  now : Instant
  order : Enumeration ResourceID

/-- The server's step for a datagram that is no binding request. -/
def handleDatagram (server : UDPServer crates) (arrival : Arrival) :
    Exec (UDPServer crates × List Datagram) :=
  { server with inboundBuffer := arrival.data }.handleOtherPackets arrival.remote arrival.now
    arrival.order

/-- The session an address belongs to, if it has a client. -/
def sender (server : UDPServer crates) (remote : SocketAddr) :
    Option (ResourceID × Session crates × Client crates.dtls) := do
  let (id, session) ← server.sessionRegistry.getSessionByAddress remote
  let client ← session.client
  return (id, session, client)

/-- What a datagram finds leads into none of the defects. -/
def Fine (server : UDPServer crates) (arrival : Arrival) : Prop :=
  ∀ id session client, server.sender arrival.remote = some (id, session, client) →
    client.Continues arrival.data ∧
      ∀ streamer, session.connectionType = .streamer streamer →
        client.sslState ≠ .shutdown ∧
        ∀ stream, client.sslState = .established stream →
          (crates.dtls.unprotect stream.srtpInbound arrival.data).isOk = true →
            server.Relays session streamer
              (crates.dtls.unprotect stream.srtpInbound arrival.data).buffer

/-- A datagram is handled as it should be: its sender's client reads it
    safely, the server does not panic, and all connections are steady. -/
def Handled (server : UDPServer crates) (arrival : Arrival) : Prop :=
  (∀ id session client, server.sender arrival.remote = some (id, session, client) →
    client.ReadsSafely arrival.data) ∧
  ∃ server' sent, server.handleDatagram arrival = .ok (server', sent) ∧
    ∀ k, Steady (server.phaseOf k) (server'.phaseOf k)

theorem sender_eq_some {remote : SocketAddr} {id : ResourceID} {session : Session crates}
    {client : Client crates.dtls} :
    server.sender remote = some (id, session, client) ↔
      server.sessionRegistry.getSessionByAddress remote = some (id, session) ∧
        session.client = some client := by
  simp only [sender, Option.bind_eq_bind, Option.bind_eq_some_iff, Prod.exists, Option.pure_def,
    Option.some.injEq, Prod.mk.injEq]
  constructor
  · intro h
    rcases h with ⟨_, _, hfound, _, hclient, rfl, rfl, rfl⟩
    exact ⟨hfound, hclient⟩
  · intro h
    exact ⟨id, session, h.1, client, h.2, rfl, rfl, rfl⟩

/-- A datagram from nowhere, or from a session without a client, is ignored. -/
theorem handleDatagram_of_none {arrival : Arrival} (h : server.sender arrival.remote = none) :
    server.handleDatagram arrival = .ok ({ server with inboundBuffer := arrival.data }, []) := by
  unfold handleDatagram handleOtherPackets
  rcases hfound : server.sessionRegistry.getSessionByAddress arrival.remote with _ | ⟨id, session⟩
  · rfl
  · cases hclient : session.client with
    | none => simp only [hclient]
    | some client =>
        rw [sender_eq_some.mpr ⟨hfound, hclient⟩] at h
        cases h

/-- The server when a datagram has arrived from a client and kept its session
    alive. -/
def touched (server : UDPServer crates) (arrival : Arrival) (id : ResourceID) : UDPServer crates :=
  { server with inboundBuffer := arrival.data }.updateSession id fun session =>
    { session with ttl := arrival.now }

theorem phaseOf_touched (server : UDPServer crates) (arrival : Arrival) (id k : ResourceID) :
    (server.touched arrival id).phaseOf k = server.phaseOf k := by
  refine phaseOf_updateSession_same ?_ k
  intro session _
  rfl

theorem directory_touched (server : UDPServer crates) (arrival : Arrival) (id : ResourceID) :
    (server.touched arrival id).directory = server.directory :=
  directory_touch { server with inboundBuffer := arrival.data } id arrival.now

section Sender

variable {arrival : Arrival} {id : ResourceID} {session : Session crates}
  {client : Client crates.dtls}

theorem lookup_touched (hlookup : server.sessionRegistry.sessions.lookup id = some session) :
    (server.touched arrival id).sessionRegistry.sessions.lookup id
      = some { session with ttl := arrival.now } :=
  lookup_touch arrival.now hlookup

/-- One more packet for a handshake, whoever sent it. -/
theorem handleDatagram_handshake {mid : MidHandshakeSslStream crates.dtls}
    (hsender : server.sender arrival.remote = some (id, session, client))
    (hstate : client.sslState = .handshake mid) :
    server.handleDatagram arrival
      = (server.touched arrival id).continueHandshake id client mid := by
  rcases sender_eq_some.mp hsender with ⟨hfound, hclient⟩
  simp only [handleDatagram, handleOtherPackets, hfound, hclient, hstate]
  cases session.connectionType with
  | viewer viewer => rfl
  | streamer streamer => rfl

/-- What a viewer sends after its handshake. -/
theorem handleDatagram_viewer {viewer : Viewer}
    (hsender : server.sender arrival.remote = some (id, session, client))
    (hkind : session.connectionType = .viewer viewer)
    (hstate : ∀ mid, client.sslState ≠ .handshake mid) :
    server.handleDatagram arrival = .ok (server.touched arrival id, []) := by
  rcases sender_eq_some.mp hsender with ⟨hfound, hclient⟩
  simp only [handleDatagram, handleOtherPackets, hfound, hclient, hkind]
  cases hclientState : client.sslState with
  | handshake mid => exact absurd hclientState (hstate mid)
  | established stream => rfl
  | shutdown => rfl

/-- A handshake that can be gone on from is steady, whoever sent the packet. -/
theorem handleDatagram_handshake_steady {mid : MidHandshakeSslStream crates.dtls}
    (hsender : server.sender arrival.remote = some (id, session, client))
    (hstate : client.sslState = .handshake mid) (hsafe : client.ReadsSafely arrival.data) :
    ∃ server' sent, server.handleDatagram arrival = .ok (server', sent) ∧
      ∀ k, Steady (server.phaseOf k) (server'.phaseOf k) := by
  rcases sender_eq_some.mp hsender with ⟨hfound, hclient⟩
  have hlookup := (SessionRegistry.getSessionByAddress_eq_some.mp hfound).2
  rw [handleDatagram_handshake hsender hstate]
  rcases continueHandshake_steady mid (lookup_touched hlookup) hclient hsafe
    with ⟨server', sent, h, hsteady⟩
  refine ⟨server', sent, h, ?_⟩
  intro k
  rw [← phaseOf_touched server arrival id k]
  exact hsteady k

/-- What a viewer sends after its handshake leaves every connection as it
    was. -/
theorem handleDatagram_viewer_steady {viewer : Viewer}
    (hsender : server.sender arrival.remote = some (id, session, client))
    (hkind : session.connectionType = .viewer viewer)
    (hstate : ∀ mid, client.sslState ≠ .handshake mid) :
    ∃ server' sent, server.handleDatagram arrival = .ok (server', sent) ∧
      ∀ k, Steady (server.phaseOf k) (server'.phaseOf k) := by
  refine ⟨_, _, handleDatagram_viewer hsender hkind hstate, ?_⟩
  intro k
  rw [phaseOf_touched]
  exact Steady.refl _

/-- What a streamer sends after its handshake. -/
theorem handleDatagram_streamer {streamer : Streamer crates}
    {stream : EstablishedStream crates.dtls}
    (hsender : server.sender arrival.remote = some (id, session, client))
    (hkind : session.connectionType = .streamer streamer)
    (hstate : client.sslState = .established stream) :
    server.handleDatagram arrival = (server.touched arrival id).handleMedia arrival.remote id
      session client streamer stream arrival.order := by
  rcases sender_eq_some.mp hsender with ⟨hfound, hclient⟩
  simp only [handleDatagram, handleOtherPackets, hfound, hclient, hkind, hstate]
  rfl

/-- What a streamer sends when its connection is shut down. -/
theorem handleDatagram_shutdown {streamer : Streamer crates}
    (hsender : server.sender arrival.remote = some (id, session, client))
    (hkind : session.connectionType = .streamer streamer)
    (hstate : client.sslState = .shutdown) :
    server.handleDatagram arrival = .error (.todo "Handle shutdown case?") := by
  rcases sender_eq_some.mp hsender with ⟨hfound, hclient⟩
  simp only [handleDatagram, handleOtherPackets, hfound, hclient, hkind, hstate]

/-- The datagram of a streamer with an established connection is handled
    exactly when the packet in it can be sent on. -/
theorem handleDatagram_streamer_iff {streamer : Streamer crates}
    {stream : EstablishedStream crates.dtls}
    (hsender : server.sender arrival.remote = some (id, session, client))
    (hkind : session.connectionType = .streamer streamer)
    (hstate : client.sslState = .established stream) :
    (∃ server' sent, server.handleDatagram arrival = .ok (server', sent) ∧
      ∀ k, Steady (server.phaseOf k) (server'.phaseOf k)) ↔
      ((crates.dtls.unprotect stream.srtpInbound arrival.data).isOk = true →
        server.Relays session streamer
          (crates.dtls.unprotect stream.srtpInbound arrival.data).buffer) := by
  rcases sender_eq_some.mp hsender with ⟨hfound, hclient⟩
  rcases SessionRegistry.getSessionByAddress_eq_some.mp hfound with ⟨haddress, hlookup⟩
  -- Hearing of the session leaves its client and its role.
  have hholds : (server.touched arrival id).Holds id client session.connectionType.role :=
    holds_touch hlookup hclient arrival.now
  rw [hkind] at hholds
  rw [handleDatagram_streamer hsender hkind hstate,
    ← relays_congr (directory_touched server arrival id)]
  refine Iff.trans ?_ (handleMedia_returns_iff stream arrival.order hholds haddress)
  constructor
  · intro h
    rcases h with ⟨server', sent, h, _⟩
    exact ⟨_, h⟩
  · intro h
    rcases h with ⟨⟨server', sent⟩, h⟩
    refine ⟨server', sent, h, ?_⟩
    -- And whatever is relayed, all connections stay as they are.
    intro k
    rw [handleMedia_phases (lookup_touched hlookup) hclient hstate h k, phaseOf_touched]
    exact Steady.refl _

end Sender

/-- Handling a datagram is exactly as good as what it finds. -/
theorem handled_iff_fine (server : UDPServer crates) (arrival : Arrival) :
    server.Handled arrival ↔ server.Fine arrival := by
  rcases hsender : server.sender arrival.remote with _ | ⟨id, session, client⟩
  · refine ⟨fun _ id session client h => ?_, fun _ => ⟨fun id session client h => ?_, ?_⟩⟩
    · rw [hsender] at h
      cases h
    · rw [hsender] at h
      cases h
    · exact ⟨_, _, handleDatagram_of_none hsender, fun k => Steady.refl _⟩
  · unfold Handled Fine
    -- The sender is the one that was found.
    have hforall : ∀ P : ResourceID → Session crates → Client crates.dtls → Prop,
        (∀ id' session' client', server.sender arrival.remote = some (id', session', client') →
          P id' session' client') ↔ P id session client := by
      intro P
      refine ⟨fun h => h id session client hsender, ?_⟩
      intro h id' session' client' hsender'
      rw [hsender] at hsender'
      cases hsender'
      exact h
    rw [hforall, hforall, Client.readsSafely_iff]
    apply and_congr_right
    intro hcontinues
    cases hstate : client.sslState with
    | handshake mid =>
        have hsafe := (client.readsSafely_iff arrival.data).mpr hcontinues
        refine iff_of_true (handleDatagram_handshake_steady hsender hstate hsafe) ?_
        intro streamer _
        exact ⟨fun h => (by cases h), fun stream h => (by cases h)⟩
    | established stream =>
        cases hkind : session.connectionType with
        | viewer viewer =>
            have hdone : ∀ mid, client.sslState ≠ .handshake mid := by
              intro mid h
              rw [hstate] at h
              cases h
            exact iff_of_true (handleDatagram_viewer_steady hsender hkind hdone)
              fun streamer hstreamer => (by cases hstreamer)
        | streamer streamer =>
            rw [handleDatagram_streamer_iff hsender hkind hstate]
            constructor
            · intro h streamer' hstreamer
              cases hstreamer
              refine ⟨fun hshut => (by cases hshut), ?_⟩
              intro stream' hstream
              cases hstream
              exact h
            · intro h
              exact (h streamer rfl).2 stream rfl
    | shutdown =>
        cases hkind : session.connectionType with
        | viewer viewer =>
            have hdone : ∀ mid, client.sslState ≠ .handshake mid := by
              intro mid h
              rw [hstate] at h
              cases h
            exact iff_of_true (handleDatagram_viewer_steady hsender hkind hdone)
              fun streamer hstreamer => (by cases hstreamer)
        | streamer streamer =>
            rw [handleDatagram_shutdown hsender hkind hstate]
            refine iff_of_false ?_ fun h => (h streamer rfl).1 rfl
            intro h
            rcases h with ⟨_, _, h, _⟩
            cases h

/-- A run of datagrams is handled throughout exactly when each of them finds
    the server fine. -/
theorem handled_along_iff (server : UDPServer crates) (arrivals : List Arrival) :
    Along handleDatagram Handled server arrivals ↔ Along handleDatagram Fine server arrivals :=
  along_congr handled_iff_fine server arrivals

/-- Crates whose handshakes start and then fail in their set-up. -/
def failingCrates : Crates :=
  { plainCrates with
    dtls :=
      { Handshake := Unit, Session := Unit, Inbound := Unit, Outbound := Unit,
        accept := fun packets => ⟨.wouldBlock (), packets, []⟩,
        handshake := fun _ _ => ⟨.setupFailure, [], []⟩,
        sessionPair := fun _ => some ((), ()),
        unprotect := fun _ packet => ⟨(), packet, true⟩,
        protect := fun _ packet => ⟨(), packet, true⟩ } }

/-- The first bytes of a handshake record, from the streamer. -/
def handshakeRecord : Arrival :=
  { data := [22, 254, 253], remote := loopback 5000, now := 0, order := (drawing 0 0).order }

/-- A streamer is nominated and its handshake fails in its set-up: the first
    datagram shuts the connection down, and the second stops the server. -/
theorem handled_fails_on_setup_failure :
    ∃ (server server' : UDPServer failingCrates) (outputs : List Output) (sent : List Datagram),
      feed step (UDPServer.new loopbackResolver)
        [streaming "user".toList 1 2, nominating "host:user".toList 5000]
          = .ok (server, outputs) ∧
      server.phaseOf 2 = some .handshake ∧
      server.handleDatagram handshakeRecord = .ok (server', sent) ∧
      server'.phaseOf 2 = some .shutdown ∧
      server'.handleDatagram handshakeRecord = .error (.todo "Handle shutdown case?") ∧
      ¬ Along handleDatagram Handled server [handshakeRecord, handshakeRecord] := by
  have hrun : passes (feed step (UDPServer.new loopbackResolver : UDPServer failingCrates)
      [streaming "user".toList 1 2, nominating "host:user".toList 5000])
      (fun before => decide (before.1.phaseOf 2 = some .handshake) &&
        passes (before.1.handleDatagram handshakeRecord) fun after =>
          decide (after.1.phaseOf 2 = some .shutdown) &&
          decide ((after.1.handleDatagram handshakeRecord).map (fun _ => ())
            = .error (.todo "Handle shutdown case?"))) = true := by decide +kernel
  rcases of_passes hrun with ⟨⟨server, outputs⟩, hfeed, hrest⟩
  rw [Bool.and_eq_true, decide_eq_true_eq] at hrest
  rcases hrest with ⟨hbefore, hrest⟩
  rcases of_passes hrest with ⟨⟨server', sent⟩, hfirst, hrest⟩
  rw [Bool.and_eq_true, decide_eq_true_eq, decide_eq_true_eq] at hrest
  rcases hrest with ⟨hafter, hsecond⟩
  refine ⟨server, server', outputs, sent, hfeed, hbefore, hfirst, hafter, ?_, ?_⟩
  · cases hpanic : server'.handleDatagram handshakeRecord with
    | ok result =>
        rw [hpanic] at hsecond
        cases hsecond
    | error p =>
        rw [hpanic] at hsecond
        cases hsecond
        rfl
  · -- The first step is already unsteady.
    intro h
    rcases h.1.2 with ⟨server₁, sent₁, hone, hsteady⟩
    rw [hfirst] at hone
    cases hone
    have hshut := (hsteady 2).2 hafter
    rw [hbefore] at hshut
    cases hshut

end UDPServer

end SigmaMedia
