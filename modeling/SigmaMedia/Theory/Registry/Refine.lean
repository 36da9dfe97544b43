import SigmaMedia.Core.MainLoop
import SigmaMedia.Theory.Negotiation
import SigmaMedia.Theory.Registry.Directory

/-!
# The Registry Refines the Directory

Every update of the registry is a change of the directory it stands for, or no
change at all. What the server does to a session between being added and being
removed, other than giving it a client, is invisible there: clocks, handshakes,
SRTP sessions and thumbnails are not in it.

So each command has one line to say what it does: nothing, one addition, one
nomination, or a number of removals one after another. `processPacket_directory`
tells the nomination from the rest by the state before the packet.

## Main definitions

* `Session.outline`, `SessionRegistry.directory`: What a registry stands for.
* `nominee`: The session a packet gives a client.
* `Removes`: Removals one after another.

## Theorems

* `directory_updateSession`: An update that keeps the outline is invisible.
* `directory_nominateClient`, `directory_removeSession`,
  `directory_addStreamer`, `directory_addViewer`: The registry's operations.
* `processPacket_directory`, `addStreamer_directory`, `addViewer_directory`,
  `runPeriodicChecks_directory`: The commands.
-/

namespace SigmaMedia

open Bytes Exec Function Net Sdp Stun Text Thumbnail

variable {crates : Crates}

/-- What a connection type says of the role. -/
def ConnectionType.role : ConnectionType crates → Role
  | .viewer v => .viewer v.roomId
  | .streamer s => .streamer s.ownedRoomId

/-- The outline of a session. -/
def Session.outline (session : Session crates) : Outline :=
  { id := session.id, role := session.connectionType.role,
    username := sessionUsername session.mediaSession,
    address := session.client.map Client.remoteAddress }

/-- What a registry stands for. -/
def SessionRegistry.directory (registry : SessionRegistry crates) : Directory :=
  { sessions := fun id => (registry.sessions.lookup id).map Session.outline,
    usernames := fun username => registry.usernameMap.lookup username,
    addresses := fun address => registry.addressMap.lookup address,
    rooms := fun id => registry.rooms.lookup id }

namespace SessionRegistry

variable {registry : SessionRegistry crates}

theorem directory_sessions {id : ResourceID} {session : Session crates}
    (h : registry.sessions.lookup id = some session) :
    registry.directory.sessions id = some session.outline := by
  simp only [directory, h, Option.map_some]

/-- An update that keeps the outline is invisible. -/
theorem directory_updateSession {id : ResourceID} {f : Session crates → Session crates}
    (h : ∀ session, registry.sessions.lookup id = some session →
      (f session).outline = session.outline) :
    (registry.updateSession id f).directory = registry.directory := by
  simp only [directory, updateSession, Directory.mk.injEq, and_true]
  funext k
  rw [Store.lookup_modify]
  by_cases hk : k = id
  · rw [if_pos hk, hk]
    cases hid : registry.sessions.lookup id with
    | none => rfl
    | some session => simp only [Option.map_some, h session hid]
  · rw [if_neg hk]

theorem directory_nominateClient {id : ResourceID} {session : Session crates}
    (h : registry.sessions.lookup id = some session) (client : Client crates.dtls) :
    (registry.nominateClient client id).directory
      = registry.directory.nominate id session.outline client.remoteAddress := by
  simp only [nominateClient, h, directory, updateSession, Directory.nominate, Directory.mk.injEq,
    true_and, and_true]
  constructor
  · funext k
    rw [Store.lookup_modify, update_apply]
    by_cases hk : k = id
    · rw [if_pos hk, if_pos hk, hk, h]
      rfl
    · rw [if_neg hk, if_neg hk]
  · funext address
    rw [Store.lookup_insert_eq, update_apply]

theorem directory_removeSession {registry' : SessionRegistry crates} {id : ResourceID}
    (h : registry.removeSession id = .ok registry') :
    ∃ session, registry.sessions.lookup id = some session ∧
      registry'.directory = registry.directory.remove id session.outline := by
  simp only [removeSession, bind_eq_ok, expect_eq_ok, pure_eq_ok, Except.ok.injEq] at h
  rcases h with ⟨session, hsession, rfl⟩
  refine ⟨session, hsession, ?_⟩
  simp only [directory, Directory.remove, Session.outline, Directory.mk.injEq]
  refine ⟨?_, ?_, ?_, ?_⟩
  · funext k
    rw [Store.lookup_erase_eq, update_apply]
    by_cases hk : k = id
    · rw [if_pos hk, if_pos hk]
      rfl
    · rw [if_neg hk, if_neg hk]
  · funext username
    rw [Store.lookup_erase_eq, update_apply]
  · -- A session without a client was never found by an address.
    cases session.client with
    | none => rfl
    | some client =>
        simp only [Option.map_some]
        funext address
        rw [Store.lookup_erase_eq, update_apply]
  · -- Of the rooms, a viewer is taken out of one, and a streamer takes one along.
    cases session.connectionType with
    | viewer viewer =>
        simp only [ConnectionType.role]
        funext r
        rw [Store.lookup_modify, update_apply]
        by_cases hr : r = viewer.roomId
        · rw [if_pos hr, if_pos hr, hr]
        · rw [if_neg hr, if_neg hr]
    | streamer streamer =>
        simp only [ConnectionType.role]
        funext r
        rw [Store.lookup_erase_eq, update_apply]

theorem directory_addStreamer {registry' : SessionRegistry crates}
    {negotiatedSession : NegotiatedSession} {roomId resourceId id : UInt32} {now : Instant}
    (h : registry.addStreamer negotiatedSession roomId resourceId now = .ok (registry', id)) :
    registry'.directory
      = registry.directory.addStreamer (sessionUsername negotiatedSession) roomId resourceId := by
  simp only [addStreamer, Session.newStreamer, bind_eq_ok, pure_eq_ok, Except.ok.injEq,
    Prod.mk.injEq] at h
  rcases h with ⟨session, ⟨extractor, _, rfl⟩, rfl, _⟩
  simp only [directory, Directory.addStreamer, Directory.mk.injEq, true_and]
  refine ⟨?_, ?_, ?_⟩
  · exact Store.map_lookup_insert Session.outline registry.sessions resourceId _
  · funext username
    rw [Store.lookup_insert_eq, update_apply]
  · funext r
    rw [Store.lookup_insert_eq, update_apply]

theorem directory_addViewer {registry' : SessionRegistry crates}
    {negotiatedSession : NegotiatedSession} {targetRoom resourceId id : UInt32} {now : Instant}
    (h : registry.addViewer negotiatedSession targetRoom resourceId now = .ok (registry', id)) :
    ∃ room, registry.rooms.lookup targetRoom = some room ∧
      registry'.directory = registry.directory.addViewer (sessionUsername negotiatedSession)
        targetRoom room resourceId := by
  simp only [addViewer, bind_eq_ok, expect_eq_ok, pure_eq_ok, Except.ok.injEq,
    Prod.mk.injEq] at h
  rcases h with ⟨room, hroom, rfl, _⟩
  refine ⟨room, hroom, ?_⟩
  simp only [directory, Directory.addViewer, Directory.mk.injEq, true_and]
  refine ⟨?_, ?_, ?_⟩
  · exact Store.map_lookup_insert Session.outline registry.sessions resourceId _
  · funext username
    rw [Store.lookup_insert_eq, update_apply]
  · funext r
    rw [Store.lookup_insert_eq, update_apply]

theorem getSessionByUsername_eq_some {username : SessionUsername} {id : ResourceID}
    {session : Session crates} :
    registry.getSessionByUsername username = some (id, session) ↔
      registry.usernameMap.lookup username = some id ∧
        registry.sessions.lookup id = some session := by
  simp only [getSessionByUsername, Option.bind_eq_bind, Option.bind_eq_some_iff, Option.pure_def,
    Option.some.injEq, Prod.mk.injEq]
  constructor
  · intro h
    rcases h with ⟨id', hid, session', hsession, rfl, rfl⟩
    exact ⟨hid, hsession⟩
  · intro h
    rcases h with ⟨hid, hsession⟩
    exact ⟨id, hid, session, hsession, rfl, rfl⟩

theorem getSessionByAddress_eq_some {remote : SocketAddr} {id : ResourceID}
    {session : Session crates} :
    registry.getSessionByAddress remote = some (id, session) ↔
      registry.addressMap.lookup remote = some id ∧
        registry.sessions.lookup id = some session := by
  simp only [getSessionByAddress, Option.bind_eq_bind, Option.bind_eq_some_iff, Option.pure_def,
    Option.some.injEq, Prod.mk.injEq]
  constructor
  · intro h
    rcases h with ⟨id', hid, session', hsession, rfl, rfl⟩
    exact ⟨hid, hsession⟩
  · intro h
    rcases h with ⟨hid, hsession⟩
    exact ⟨id, hid, session, hsession, rfl, rfl⟩

end SessionRegistry

/-- Whatever comes of a packet, a client stays at its address. -/
theorem Client.readPacket_remoteAddress {client client' : Client crates.dtls} {packet : Bytes}
    {result : Except ClientError Unit} {written : List Bytes}
    (h : client.readPacket packet = .ok (client', result, written)) :
    client'.remoteAddress = client.remoteAddress := by
  -- Every branch writes the state alone.
  unfold Client.readPacket at h
  split at h
  · simp only [] at h
    split at h
    · simp only [bind_eq_ok, Prod.exists, pure_eq_ok, Except.ok.injEq, Prod.mk.injEq] at h
      rcases h with ⟨inbound, outbound, _, rfl, _⟩
      rfl
    · cases h
      rfl
    · cases h
      rfl
    · cases h
      rfl
  · cases h
    rfl
  · cases h
    rfl

theorem Client.new_remoteAddress {client : Client crates.dtls} {remote : SocketAddr}
    {written : List Bytes} (h : Client.new crates.dtls remote = .ok (.ok client, written)) :
    client.remoteAddress = remote := by
  unfold Client.new at h
  simp only [] at h
  split at h
  · cases h
  · cases h
  · cases h
  · cases h
    rfl

namespace UDPServer

/-- What the registry of a server stands for. -/
def directory (server : UDPServer crates) : Directory := server.sessionRegistry.directory

variable {server server' : UDPServer crates}

theorem directory_updateSession {id : ResourceID} {f : Session crates → Session crates}
    (h : ∀ session, server.sessionRegistry.sessions.lookup id = some session →
      (f session).outline = session.outline) :
    (server.updateSession id f).directory = server.directory :=
  SessionRegistry.directory_updateSession h

/-- Touching the clock of a session is invisible. -/
theorem directory_touch (server : UDPServer crates) (id : ResourceID) (now : Instant) :
    (server.updateSession id fun session => { session with ttl := now }).directory
      = server.directory :=
  directory_updateSession fun _ _ => rfl

theorem forward_directory {remote : SocketAddr} {id : ResourceID} {sent : List Datagram}
    (h : server.forward remote id = .ok (server', sent)) :
    server'.directory = server.directory := by
  simp only [forward, bind_eq_ok, expect_eq_ok, Prod.exists] at h
  rcases h with ⟨_, streamerSession, _, viewerSession, hviewer, h⟩
  cases hclient : viewerSession.client with
  | none =>
      rw [hclient] at h
      cases h
      rfl
  | some client =>
      simp only [hclient] at h
      cases hstate : client.sslState with
      | handshake mid =>
          rw [hstate] at h
          cases h
          rfl
      | shutdown =>
          rw [hstate] at h
          cases h
          rfl
      | established stream =>
          simp only [hstate, bind_eq_ok] at h
          rcases h with ⟨out, _, h⟩
          -- The new client is the old one with another outbound session.
          have hsame : ∀ session, server.sessionRegistry.sessions.lookup id = some session →
              ({ session with client := some { client with
                sslState := .established { stream with
                  srtpOutbound := (crates.dtls.protect stream.srtpOutbound out).state } } } :
                Session crates).outline = session.outline := by
            intro session hsession
            rw [SessionRegistry.getSession, hsession] at hviewer
            cases hviewer
            simp only [Session.outline, hclient, Option.map_some]
          have hdir := directory_updateSession hsame
          split at h
          · cases h
            exact hdir
          · cases h
            exact hdir

theorem forwardAll_directory {remote : SocketAddr} {ids : List ResourceID} {sent : List Datagram}
    (h : server.forwardAll remote ids = .ok (server', sent)) :
    server'.directory = server.directory := by
  induction ids generalizing server sent with
  | nil =>
      cases h
      rfl
  | cons id ids ih =>
      simp only [forwardAll, bind_eq_ok, Prod.exists, pure_eq_ok, Except.ok.injEq,
        Prod.mk.injEq] at h
      rcases h with ⟨server₁, sent₁, hone, server₂, sent₂, hrest, rfl, _⟩
      exact (ih hrest).trans (forward_directory hone)

/-- The session at a key has the address and the role it was read with. -/
def Holds (server : UDPServer crates) (id : ResourceID) (client : Client crates.dtls)
    (role : Role) : Prop :=
  ∃ o, server.directory.sessions id = some o ∧ o.address = some client.remoteAddress ∧
    o.role = role

theorem Holds.session {id : ResourceID} {client : Client crates.dtls} {role : Role}
    (h : server.Holds id client role) {session : Session crates}
    (hsession : server.sessionRegistry.sessions.lookup id = some session) :
    session.client.map Client.remoteAddress = some client.remoteAddress ∧
      session.connectionType.role = role := by
  rcases h with ⟨o, ho, haddress, hrole⟩
  rw [directory, SessionRegistry.directory_sessions hsession] at ho
  cases ho
  exact ⟨haddress, hrole⟩

/-- What was read of a session is still there behind its touched clock. -/
theorem holds_touch {id : ResourceID} {session : Session crates} {client : Client crates.dtls}
    (hlookup : server.sessionRegistry.sessions.lookup id = some session)
    (hclient : session.client = some client) (now : Instant) :
    (server.updateSession id fun session => { session with ttl := now }).Holds id client
      session.connectionType.role := by
  unfold Holds
  rw [directory_touch server id now]
  exact ⟨session.outline, SessionRegistry.directory_sessions hlookup,
    by rw [Session.outline, hclient, Option.map_some], rfl⟩

theorem continueHandshake_directory {id : ResourceID} {client : Client crates.dtls}
    {mid : MidHandshakeSslStream crates.dtls} {role : Role} {sent : List Datagram}
    (hholds : server.Holds id client role)
    (h : server.continueHandshake id client mid = .ok (server', sent)) :
    server'.directory = server.directory := by
  simp only [continueHandshake, bind_eq_ok, Prod.exists, pure_eq_ok, Except.ok.injEq,
    Prod.mk.injEq] at h
  rcases h with ⟨client', result, written, hread, rfl, _⟩
  apply directory_updateSession
  intro session hsession
  simp only [Session.outline, Option.map_some, Client.readPacket_remoteAddress hread,
    (hholds.session hsession).1]

/-- The server after a packet of a streamer was unprotected. -/
def unprotected (server : UDPServer crates) (id : ResourceID) (client : Client crates.dtls)
    (stream : EstablishedStream crates.dtls) : UDPServer crates :=
  { server.updateSession id (fun session => { session with
      client := some { client with
        sslState := .established { stream with
          srtpInbound :=
            (crates.dtls.unprotect stream.srtpInbound server.inboundBuffer).state } } })
    with inboundBuffer := (crates.dtls.unprotect stream.srtpInbound server.inboundBuffer).buffer }

/-- The server after its thumbnail extractor saw the packet. -/
def extracted (server : UDPServer crates) (id : ResourceID) (streamer : Streamer crates)
    (extractor : ThumbnailExtractor crates.h264) : UDPServer crates :=
  server.updateSession id fun session => { session with
    connectionType := .streamer { streamer with thumbnailExtractor := extractor } }

/-- What becomes of a packet of a streamer: nothing more if it could not be
    unprotected, and otherwise it is sent on to the viewers of the room. -/
theorem handleMedia_eq_ok {remote : SocketAddr} {id : ResourceID} {session : Session crates}
    {client : Client crates.dtls} {streamer : Streamer crates}
    {stream : EstablishedStream crates.dtls} {order : Enumeration ResourceID}
    {sent : List Datagram}
    (h : server.handleMedia remote id session client streamer stream order
      = .ok (server', sent)) :
    ((crates.dtls.unprotect stream.srtpInbound server.inboundBuffer).isOk = false ∧
        server' = server.unprotected id client stream ∧ sent = []) ∨
      (crates.dtls.unprotect stream.srtpInbound server.inboundBuffer).isOk = true ∧
        ∃ extractor room, server.sessionRegistry.rooms.lookup streamer.ownedRoomId = some room ∧
          ((server.unprotected id client stream).extracted id streamer extractor).forwardAll remote
            (order.list room.viewerIds) = .ok (server', sent) := by
  unfold handleMedia at h
  simp only [] at h
  -- The inbound cipher state is written back either way.
  by_cases hok : (crates.dtls.unprotect stream.srtpInbound server.inboundBuffer).isOk = true
  · rw [if_pos hok] at h
    simp only [bind_eq_ok, expect_eq_ok] at h
    rcases h with ⟨extractor, _, room, hroom, hall⟩
    exact Or.inr ⟨hok, extractor, room, hroom, hall⟩
  · rw [if_neg hok] at h
    cases h
    exact Or.inl ⟨Bool.eq_false_iff.mpr hok, rfl, rfl⟩

theorem unprotected_directory {id : ResourceID} {client : Client crates.dtls} {role : Role}
    (hholds : server.Holds id client role) (stream : EstablishedStream crates.dtls) :
    (server.unprotected id client stream).directory = server.directory := by
  apply directory_updateSession
  intro session hsession
  simp only [Session.outline, Option.map_some, (hholds.session hsession).1]

theorem extracted_directory {id : ResourceID} {client : Client crates.dtls}
    {streamer : Streamer crates}
    (hholds : server.Holds id client (.streamer streamer.ownedRoomId))
    (extractor : ThumbnailExtractor crates.h264) :
    (server.extracted id streamer extractor).directory = server.directory := by
  apply directory_updateSession
  intro session hsession
  have hrole := (hholds.session hsession).2
  rw [Session.outline, Session.outline, hrole]
  rfl

theorem extracted_unprotected_directory {id : ResourceID} {client : Client crates.dtls}
    {streamer : Streamer crates}
    (hholds : server.Holds id client (.streamer streamer.ownedRoomId))
    (stream : EstablishedStream crates.dtls) (extractor : ThumbnailExtractor crates.h264) :
    ((server.unprotected id client stream).extracted id streamer extractor).directory
      = server.directory := by
  have hdir := unprotected_directory hholds stream
  have hholds' : (server.unprotected id client stream).Holds id client
      (.streamer streamer.ownedRoomId) := by
    unfold Holds
    rw [hdir]
    exact hholds
  rw [extracted_directory hholds' extractor, hdir]

theorem handleMedia_directory {remote : SocketAddr} {id : ResourceID} {session : Session crates}
    {client : Client crates.dtls} {streamer : Streamer crates}
    {stream : EstablishedStream crates.dtls} {order : Enumeration ResourceID}
    {sent : List Datagram}
    (hholds : server.Holds id client (.streamer streamer.ownedRoomId))
    (h : server.handleMedia remote id session client streamer stream order
      = .ok (server', sent)) :
    server'.directory = server.directory := by
  rcases handleMedia_eq_ok h with ⟨_, rfl, _⟩ | ⟨_, extractor, room, _, hall⟩
  · exact unprotected_directory hholds stream
  · rw [forwardAll_directory hall, extracted_unprotected_directory hholds stream extractor]

theorem handleOtherPackets_directory {remote : SocketAddr} {now : Instant}
    {order : Enumeration ResourceID} {sent : List Datagram}
    (h : server.handleOtherPackets remote now order = .ok (server', sent)) :
    server'.directory = server.directory := by
  unfold handleOtherPackets at h
  rcases hsender : server.sessionRegistry.getSessionByAddress remote with _ | ⟨id, session⟩
  · rw [hsender] at h
    cases h
    rfl
  · simp only [hsender] at h
    have hlookup := (SessionRegistry.getSessionByAddress_eq_some.mp hsender).2
    cases hclient : session.client with
    | none =>
        rw [hclient] at h
        cases h
        rfl
    | some client =>
        simp only [hclient] at h
        -- The stamp is not kept in the directory, and what follows it only writes
        -- the client of the session that sent the packet.
        have htouch := directory_touch server id now
        have hholds := holds_touch hlookup hclient now
        cases hkind : session.connectionType with
        | viewer viewer =>
            simp only [hkind] at h
            cases hstate : client.sslState with
            | handshake mid =>
                simp only [hstate] at h
                exact (continueHandshake_directory hholds h).trans htouch
            | established stream =>
                simp only [hstate] at h
                cases h
                exact htouch
            | shutdown =>
                simp only [hstate] at h
                cases h
                exact htouch
        | streamer streamer =>
            simp only [hkind] at h
            rw [hkind] at hholds
            cases hstate : client.sslState with
            | handshake mid =>
                simp only [hstate] at h
                exact (continueHandshake_directory hholds h).trans htouch
            | established stream =>
                simp only [hstate] at h
                exact (handleMedia_directory hholds h).trans htouch
            | shutdown =>
                simp only [hstate] at h
                cases h

/-- The session a datagram gives a client: the one a nomination names, if it
    has none yet. -/
def nominee (server : UDPServer crates) (data : Bytes) : Option (ResourceID × Session crates) :=
  match getStunPacket data with
  | .ok (some (.nomination msg)) =>
      (server.sessionRegistry.getSessionByUsername msg.usernameAttribute).filter fun found =>
        found.2.client.isNone
  | _ => none

/-- A session without a client gets one at the address of the sender; any
    other is left as it was. -/
theorem nominate_directory {remote : SocketAddr} {id : ResourceID} {session : Session crates}
    {written : List Bytes} (hsession : server.sessionRegistry.sessions.lookup id = some session)
    (h : server.nominate remote id session = .ok (server', written)) :
    (session.client.isNone = false ∧ server' = server) ∨
      session.client.isNone = true ∧
        server'.directory = server.directory.nominate id session.outline remote := by
  unfold nominate at h
  -- A session that has a client is left as it is.
  by_cases hnone : session.client.isNone = true
  · rw [if_pos hnone] at h
    simp only [bind_eq_ok, Prod.exists, expectOk_eq_ok, pure_eq_ok, Except.ok.injEq,
      Prod.mk.injEq] at h
    rcases h with ⟨_, _, hnew, client, rfl, rfl, _⟩
    have haddress : client.remoteAddress = remote := Client.new_remoteAddress hnew
    refine Or.inr ⟨hnone, ?_⟩
    have hdir := SessionRegistry.directory_nominateClient hsession client
    rw [haddress] at hdir
    exact hdir
  · rw [if_neg hnone] at h
    cases h
    exact Or.inl ⟨Bool.eq_false_iff.mpr hnone, rfl⟩

theorem nominee_eq_some {data : Bytes} {id : ResourceID} {session : Session crates}
    (h : server.nominee data = some (id, session)) :
    server.sessionRegistry.sessions.lookup id = some session ∧ session.client = none := by
  unfold nominee at h
  split at h
  · rcases Option.filter_eq_some_iff.mp h with ⟨hfound, hnone⟩
    exact ⟨(SessionRegistry.getSessionByUsername_eq_some.mp hfound).2,
      Option.isNone_iff_eq_none.mp hnone⟩
  · cases h

/-- A session is found again behind its touched clock. -/
theorem lookup_touch {id : ResourceID} {session : Session crates} (now : Instant)
    (hsession : server.sessionRegistry.sessions.lookup id = some session) :
    (server.updateSession id fun session =>
      { session with ttl := now }).sessionRegistry.sessions.lookup id
        = some { session with ttl := now } := by
  simp only [updateSession, SessionRegistry.updateSession, Store.lookup_modify, if_true, hsession,
    Option.map_some]

theorem handleStunPacket_liveCheck_directory {remote : SocketAddr} {msg : ICEStunPacket}
    {now : Instant} {sent : List Datagram}
    (h : server.handleStunPacket remote (.liveCheck msg) now = .ok (server', sent)) :
    server'.directory = server.directory := by
  simp only [handleStunPacket] at h
  split at h
  · cases h
    rfl
  · simp only [bind_eq_ok, pure_eq_ok, Except.ok.injEq, Prod.mk.injEq] at h
    rcases h with ⟨_, _, rfl, _⟩
    exact directory_touch server _ now

/-- A nomination either finds nobody, or finds a session by its username and
    makes the sender its client if it has none. -/
theorem handleStunPacket_nomination_directory {remote : SocketAddr} {msg : ICEStunPacket}
    {now : Instant} {sent : List Datagram} (hfiled : server.directory.Filed)
    (h : server.handleStunPacket remote (.nomination msg) now = .ok (server', sent)) :
    (server.sessionRegistry.getSessionByUsername msg.usernameAttribute = none ∧
        server'.directory = server.directory) ∨
      ∃ id session, server.sessionRegistry.getSessionByUsername msg.usernameAttribute
          = some (id, session) ∧
        ((session.client.isNone = false ∧ server'.directory = server.directory) ∨
          session.client.isNone = true ∧
            server'.directory = server.directory.nominate id session.outline remote) := by
  simp only [handleStunPacket] at h
  split at h
  · rename_i hnone
    cases h
    exact Or.inl ⟨hnone, rfl⟩
  · rename_i id session hfound
    refine Or.inr ⟨id, session, hfound, ?_⟩
    have hlookup := (SessionRegistry.getSessionByUsername_eq_some.mp hfound).2
    -- The session is looked up again by its own id, which is its key.
    have hid : session.id = id := hfiled id _ (SessionRegistry.directory_sessions hlookup)
    have htouch := lookup_touch now hlookup
    simp only [SessionRegistry.getSession, bind_eq_ok, unwrap_eq_ok, Prod.exists, pure_eq_ok,
      Except.ok.injEq, Prod.mk.injEq] at h
    rcases h with ⟨found, hagain, server'', written, hnominate, _, _, _, _, rfl, _⟩
    rw [hid] at hagain hnominate
    rw [htouch] at hagain
    cases hagain
    have hdir := directory_touch server id now
    rcases nominate_directory htouch hnominate with ⟨hold, rfl⟩ | ⟨hnew, hchange⟩
    · exact Or.inl ⟨hold, hdir⟩
    · rw [hdir] at hchange
      exact Or.inr ⟨hnew, hchange⟩

/-- A datagram changes the directory by the nomination in it, if there is one. -/
theorem processPacket_directory {data : Bytes} {remote : SocketAddr} {now : Instant}
    {order : Enumeration ResourceID} {sent : List Datagram} (hfiled : server.directory.Filed)
    (h : server.processPacket data remote now order = .ok (server', sent)) :
    server'.directory = match server.nominee data with
      | none => server.directory
      | some (id, session) => server.directory.nominate id session.outline remote := by
  simp only [processPacket, bind_eq_ok] at h
  rcases h with ⟨packet, hpacket, h⟩
  unfold nominee
  rw [hpacket]
  cases packet with
  | none =>
      simp only [] at h
      refine (handleOtherPackets_directory h).trans ?_
      rfl
  | some message =>
      cases message with
      | liveCheck msg =>
          simp only [] at h
          refine (handleStunPacket_liveCheck_directory h).trans ?_
          rfl
      | nomination msg =>
          simp only [] at h ⊢
          have hresult := handleStunPacket_nomination_directory
            (show ({ server with inboundBuffer := data } : UDPServer crates).directory.Filed from
              hfiled) h
          -- Only a nomination of a session that has no client yet changes anything.
          rcases hresult with
            ⟨hnone, hsame⟩ | ⟨id, session, hfound, ⟨hold, hsame⟩ | ⟨hnew, hchange⟩⟩
          · rw [hnone]
            exact hsame
          · rw [hfound, Option.filter_some, hold]
            exact hsame
          · rw [hfound, Option.filter_some, hnew]
            exact hchange

theorem respond_eq_ok {env : Env} {answer : Option SDP} {output : Output}
    (h : server.respond env answer = .ok (server', output)) : server' = server := by
  unfold respond at h
  split at h
  · cases h
    rfl
  · cases h

/-- An accepted offer of a streamer adds it with the ids drawn for it. -/
theorem addStreamer_directory {sdpOffer : Text} {env : Env} {output : Output}
    (h : server.addStreamer sdpOffer env = .ok (server', output)) :
    server'.directory = server.directory ∨ ∃ username,
      username.host = env.draws.hostUsername.val ∧
        server'.directory
          = server.directory.addStreamer username env.roomId env.resourceId := by
  unfold addStreamer at h
  split at h
  · rw [respond_eq_ok h]
    exact Or.inl rfl
  · rename_i session haccept
    simp only [bind_eq_ok, Prod.exists] at h
    rcases h with ⟨registry, _, hadd, hrespond⟩
    rw [respond_eq_ok hrespond]
    exact Or.inr ⟨sessionUsername session, acceptStreamOffer_hostUsername haccept,
      SessionRegistry.directory_addStreamer hadd⟩

/-- An accepted offer of a viewer adds it to the room it asked for. -/
theorem addViewer_directory {sdpOffer : Text} {targetId : RoomID} {env : Env} {output : Output}
    (h : server.addViewer sdpOffer targetId env = .ok (server', output)) :
    server'.directory = server.directory ∨ ∃ username room,
      username.host = env.draws.hostUsername.val ∧
        server.directory.rooms targetId = some room ∧
        server'.directory
          = server.directory.addViewer username targetId room env.resourceId := by
  simp only [addViewer] at h
  -- Without a room or a match nothing is entered.
  split at h
  · rw [respond_eq_ok h]
    exact Or.inl rfl
  · rename_i session hsession
    rcases Option.bind_eq_some_iff.mp hsession with ⟨streamerSession, _, haccept⟩
    have hok := toOption_eq_some.mp haccept
    simp only [bind_eq_ok, Prod.exists] at h
    rcases h with ⟨registry, _, hadd, hrespond⟩
    rw [respond_eq_ok hrespond]
    rcases SessionRegistry.directory_addViewer hadd with ⟨room, hroom, hdir⟩
    exact Or.inr ⟨sessionUsername session, room, acceptViewerOffer_hostUsername hok, hroom, hdir⟩

end UDPServer

/-- Removals one after another. -/
inductive Removes : Directory → Directory → Prop
  | refl (d : Directory) : Removes d d
  | step {d d' : Directory} {id : ResourceID} {o : Outline} :
      d.sessions id = some o → Removes (d.remove id o) d' → Removes d d'

/-- What one removal preserves, any number of them preserves. -/
theorem Removes.preserves {P : Directory → Prop}
    (hremove : ∀ d id o, P d → d.sessions id = some o → P (d.remove id o))
    {d d' : Directory} (h : Removes d d') (hd : P d) : P d' := by
  induction h with
  | refl d => exact hd
  | step ho _ ih => exact ih (hremove _ _ _ hd ho)

namespace UDPServer

variable {server server' : UDPServer crates}

theorem readyThumbnail_role {session : Session crates} {now : Instant}
    {streamer : Streamer crates} {picture : ImageData}
    (h : readyThumbnail session now = some (streamer, picture)) :
    session.connectionType.role = .streamer streamer.ownedRoomId := by
  unfold readyThumbnail at h
  split at h
  · cases h
  · rename_i streamer' hkind
    simp only [Option.ite_none_right_eq_some, Option.map_eq_some_iff] at h
    rcases h with ⟨_, _, _, hpair⟩
    cases hpair
    rw [hkind]
    rfl

/-- Taking thumbnails is invisible, as long as the sessions read are the
    sessions there are. -/
theorem saveThumbnails_directory {registry : SessionRegistry crates} {env : Env}
    {entries : List (ResourceID × Session crates)}
    (hentries : ∀ id session, (id, session) ∈ entries →
      registry.directory.sessions id = some session.outline) :
    (saveThumbnails registry env entries).1.directory = registry.directory := by
  induction entries generalizing registry with
  | nil => rfl
  | cons entry rest ih =>
      rcases entry with ⟨id, session⟩
      have hrest : ∀ k found, (k, found) ∈ rest →
          registry.directory.sessions k = some found.outline :=
        fun k found hk => hentries k found (List.mem_cons_of_mem _ hk)
      unfold saveThumbnails
      split
      · exact ih hrest
      · rename_i streamer picture hready
        -- The stamped streamer owns the room its session owned.
        have hstamp : (registry.updateSession id fun session => { session with
            connectionType := .streamer { streamer with
              imageTimestamp := some (env.clock id) } }).directory = registry.directory := by
          apply SessionRegistry.directory_updateSession
          intro found hfound
          have hsame := hentries id session List.mem_cons_self
          rw [SessionRegistry.directory_sessions hfound, Option.some.injEq] at hsame
          have hrole : found.connectionType.role = .streamer streamer.ownedRoomId :=
            (congrArg Outline.role hsame).trans (readyThumbnail_role hready)
          rw [Session.outline, Session.outline, hrole]
          rfl
        simp only []
        rw [← hstamp] at hrest
        rw [ih hrest, hstamp]

theorem removeStale_directory {registry registry' : SessionRegistry crates} {env : Env}
    {sessions : List (ResourceID × Instant)}
    (h : removeStale registry env sessions = .ok registry') :
    Removes registry.directory registry'.directory := by
  -- Over the sessions that were collected: each goes or stays.
  induction sessions generalizing registry with
  | nil =>
      cases h
      exact .refl _
  | cons entry rest ih =>
      rcases entry with ⟨id, ttl⟩
      simp only [removeStale] at h
      split at h
      · rcases bind_eq_ok.mp h with ⟨registry₁, hremove, hrest⟩
        rcases SessionRegistry.directory_removeSession hremove with ⟨session, hsession, hdir⟩
        have hchain := ih hrest
        rw [hdir] at hchain
        exact .step (SessionRegistry.directory_sessions hsession) hchain
      · exact ih h

/-- A tick removes sessions and does nothing else that shows. -/
theorem runPeriodicChecks_directory {env : Env} {output : Output}
    (h : server.runPeriodicChecks env = .ok (server', output)) :
    Removes server.directory server'.directory := by
  simp only [runPeriodicChecks, bind_eq_ok, pure_eq_ok, Except.ok.injEq, Prod.mk.injEq] at h
  rcases h with ⟨registry, hstale, rfl, _⟩
  have hchain := removeStale_directory hstale
  rw [saveThumbnails_directory] at hchain
  · exact hchain
  · intro id session hmem
    exact SessionRegistry.directory_sessions (Enumeration.mem_entries.mp hmem)

end UDPServer

end SigmaMedia
