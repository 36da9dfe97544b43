import SigmaMedia.Theory.Handshake
import SigmaMedia.Theory.Registry.Sweep

/-!
# The Roll of Sessions

What can be said of a session over its whole life is little: when it was last
heard, what it negotiated, what it is there for, where its client is, and when
a thumbnail of it was last taken. A `Record` is that much, and the roll has
one for every session that is there. The connections, the ciphers and the
decoders are left out, and with them everything that happens inside one
packet.

Seen this way a command does one of four things. It leaves the roll alone, it
enters a session, it hears one, or it sweeps all of them. Which of the four it
is can be told from the state before it, and `step_roll` says that this is all
a command does: whatever a packet of a streamer does to the connections of a
room full of viewers, it is the streamer that was heard and nobody else.

## Main definitions

* `Record`, `Roll`: What is kept of a session, and of all of them.
* `Change`, `Change.apply`: What a command can do to the roll.
* `change`: What it does.

## Theorems

* `handleDatagram_roll`, `processPacket_roll`: What a datagram does.
* `step_roll`: What any command does.
-/

namespace SigmaMedia

open Bytes Exec Function Net Rtp Sdp Stun Text Thumbnail Trace

variable {crates : Crates}

/-- What is kept of a session over its life. -/
structure Record where
  ttl : Instant
  mediaSession : NegotiatedSession
  role : Role
  address : Option SocketAddr
  imageTimestamp : Option Instant

/-- The records of the sessions that are there. -/
abbrev Roll := ResourceID → Option Record

/-- The record of a session. -/
def Session.record (session : Session crates) : Record :=
  { ttl := session.ttl, mediaSession := session.mediaSession,
    role := session.connectionType.role, address := session.client.map Client.remoteAddress,
    imageTimestamp := UDPServer.stampOf session }

namespace Record

/-- A record that was just entered. -/
def entered (now : Instant) (mediaSession : NegotiatedSession) (role : Role) : Record :=
  { ttl := now, mediaSession, role, address := none, imageTimestamp := none }

/-- A record that was heard, from an address it is nominated at if it has
    none. -/
def heard (record : Record) (now : Instant) (address : Option SocketAddr) : Record :=
  { record with ttl := now, address := record.address.or address }

/-- A record that was not heard of for too long. -/
def isStale (record : Record) (now : Instant) : Bool := decide (seconds 5 < elapsed record.ttl now)

/-- A record whose thumbnail was taken, if it was. -/
def stamped (record : Record) (taken : Bool) (now : Instant) : Record :=
  if taken then { record with imageTimestamp := some now } else record

end Record

/-- What a command can do to the roll. -/
inductive Change where
  | stays
  | enters (k : ResourceID) (record : Record)
  | hears (k : ResourceID) (now : Instant) (address : Option SocketAddr)
  | sweeps (clock : ResourceID → Instant) (taken : ResourceID → Bool)

/-- What a change does to the roll. -/
def Change.apply : Change → Roll → Roll
  | .stays, roll => roll
  | .enters k record, roll => update roll k (some record)
  | .hears k now address, roll =>
      update roll k ((roll k).map fun record => record.heard now address)
  | .sweeps clock taken, roll => fun k => (roll k).bind fun record =>
      if record.isStale (clock k) then none else some (record.stamped (taken k) (clock k))

/-- A datagram that was about a session, or about none. -/
def Change.ofHearing (now : Instant) : Option (ResourceID × Option SocketAddr) → Change
  | some (k, address) => .hears k now address
  | none => .stays

namespace UDPServer

/-- The roll of a server. -/
def roll (server : UDPServer crates) : Roll :=
  fun k => (server.sessionRegistry.sessions.lookup k).map Session.record

/-- What an offer of a viewer for a room is answered with: nothing, if the room
    is not there or the offer does not go with what its owner negotiated. -/
def viewerMedia (server : UDPServer crates) (sdpOffer : Text) (targetId : RoomID) (env : Env) :
    Option NegotiatedSession := do
  let room ← server.sessionRegistry.getRoom targetId
  let owner ← server.sessionRegistry.getSession room.ownerId
  (server.sdpResolver.acceptViewerOffer sdpOffer owner.mediaSession env.draws).toOption

/-- The session a datagram is about, and where it wants its client to be. -/
def hearing (server : UDPServer crates) (packet : Bytes) (remote : SocketAddr) :
    Option (ResourceID × Option SocketAddr) :=
  match getStunPacket packet with
  | .ok (some (.liveCheck msg)) =>
      (server.sessionRegistry.getSessionByUsername msg.usernameAttribute).map fun found =>
        (found.1, none)
  | .ok (some (.nomination msg)) =>
      (server.sessionRegistry.getSessionByUsername msg.usernameAttribute).map fun found =>
        (found.1, some remote)
  | .ok none => (server.sender remote).map fun found => (found.1, none)
  | .error _ => none

/-- Whether a session has a thumbnail ready at a tick. -/
def takenBy (server : UDPServer crates) (env : Env) (k : ResourceID) : Bool :=
  ((server.sessionRegistry.sessions.lookup k).bind fun session =>
    readyThumbnail session (env.clock k)).isSome

/-- What a command does to the roll. -/
def change (server : UDPServer crates) (input : Command × Env) : Change :=
  match input.1 with
  | .handlePacket packet remote => .ofHearing input.2.now (server.hearing packet remote)
  | .addStreamer sdpOffer =>
      match server.sdpResolver.acceptStreamOffer sdpOffer input.2.draws with
      | .ok mediaSession => .enters input.2.resourceId
          (.entered input.2.now mediaSession (.streamer input.2.roomId))
      | .error _ => .stays
  | .addViewer sdpOffer targetId =>
      match server.viewerMedia sdpOffer targetId input.2 with
      | some mediaSession => .enters input.2.resourceId
          (.entered input.2.now mediaSession (.viewer targetId))
      | none => .stays
  | .sendRoomsStatus => .stays
  | .runPeriodicChecks => .sweeps input.2.clock (server.takenBy input.2)

variable {server server' : UDPServer crates}

theorem roll_eq_some {k : ResourceID} {record : Record} :
    server.roll k = some record ↔
      ∃ session, server.sessionRegistry.sessions.lookup k = some session ∧
        session.record = record := by
  simp only [roll, Option.map_eq_some_iff]

theorem roll_of_lookup {k : ResourceID} {session : Session crates}
    (h : server.sessionRegistry.sessions.lookup k = some session) :
    server.roll k = some session.record := by
  rw [roll, h, Option.map_some]

theorem roll_updateSession (server : UDPServer crates) (id : ResourceID)
    (f : Session crates → Session crates) :
    (server.updateSession id f).roll = update server.roll id
      ((server.sessionRegistry.sessions.lookup id).map fun session => (f session).record) :=
  Store.map_lookup_modify Session.record server.sessionRegistry.sessions id f

/-- An update that keeps the record is not seen. -/
theorem roll_updateSession_same {id : ResourceID} {f : Session crates → Session crates}
    (h : ∀ session, server.sessionRegistry.sessions.lookup id = some session →
      (f session).record = session.record) : (server.updateSession id f).roll = server.roll :=
  Store.map_lookup_modify_same h

/-- A client that stays at its address is not seen. -/
theorem record_client {session : Session crates} {client client' : Client crates.dtls}
    (hclient : session.client = some client)
    (haddress : client'.remoteAddress = client.remoteAddress) :
    ({ session with client := some client' } : Session crates).record = session.record := by
  simp only [Session.record, hclient, Option.map_some, haddress]
  rfl

/-- A session whose clock is touched is heard. -/
theorem roll_touch (server : UDPServer crates) (id : ResourceID) (now : Instant) :
    (server.updateSession id fun session => { session with ttl := now }).roll
      = (Change.hears id now none).apply server.roll := by
  rw [roll_updateSession, Change.apply, roll, Option.map_map]
  congr 2
  funext session
  simp only [Function.comp_def, Session.record, Record.heard, Option.or_none]
  rfl

theorem forward_roll {remote : SocketAddr} {id : ResourceID} {sent : List Datagram}
    (h : server.forward remote id = .ok (server', sent)) : server'.roll = server.roll := by
  simp only [forward, bind_eq_ok, expect_eq_ok, Prod.exists] at h
  rcases h with ⟨_, _, _, viewer, hviewer, h⟩
  cases hclient : viewer.client with
  | none =>
      rw [hclient] at h
      cases h
      rfl
  | some client =>
      simp only [hclient] at h
      cases hstate : client.sslState with
      | handshake mid =>
          rw [hstate] at h
          cases h
          rfl
      | shutdown =>
          rw [hstate] at h
          cases h
          rfl
      | established stream =>
          simp only [hstate, bind_eq_ok] at h
          rcases h with ⟨plaintext, _, h⟩
          -- Only the cipher state of the viewer moves on.
          have hsame : (server.updateSession id fun session => { session with
              client := some { client with sslState := .established { stream with
                srtpOutbound := (crates.dtls.protect stream.srtpOutbound plaintext).state } }
              }).roll = server.roll := by
            apply roll_updateSession_same
            intro session hsession
            rw [SessionRegistry.getSession, hsession] at hviewer
            cases hviewer
            exact record_client hclient rfl
          split at h
          · cases h
            exact hsame
          · cases h
            exact hsame

theorem forwardAll_roll {remote : SocketAddr} {ids : List ResourceID} {sent : List Datagram}
    (h : server.forwardAll remote ids = .ok (server', sent)) : server'.roll = server.roll := by
  induction ids generalizing server sent with
  | nil =>
      cases h
      rfl
  | cons id ids ih =>
      simp only [forwardAll, bind_eq_ok, Prod.exists, pure_eq_ok, Except.ok.injEq,
        Prod.mk.injEq] at h
      rcases h with ⟨server₁, sent₁, hone, server₂, sent₂, hrest, rfl, _⟩
      exact (ih hrest).trans (forward_roll hone)

theorem continueHandshake_roll {id : ResourceID} {session : Session crates}
    {client : Client crates.dtls} {mid : MidHandshakeSslStream crates.dtls}
    {sent : List Datagram} (hlookup : server.sessionRegistry.sessions.lookup id = some session)
    (hclient : session.client = some client)
    (h : server.continueHandshake id client mid = .ok (server', sent)) :
    server'.roll = server.roll := by
  simp only [continueHandshake, bind_eq_ok, Prod.exists, pure_eq_ok, Except.ok.injEq,
    Prod.mk.injEq] at h
  rcases h with ⟨client', _, _, hread, rfl, _⟩
  apply roll_updateSession_same
  intro session' hsession'
  rw [hlookup] at hsession'
  cases hsession'
  exact record_client hclient (Client.readPacket_remoteAddress hread)

theorem handleMedia_roll {remote : SocketAddr} {id : ResourceID}
    {session found : Session crates} {client : Client crates.dtls} {streamer : Streamer crates}
    {stream : EstablishedStream crates.dtls} {order : Enumeration ResourceID}
    {sent : List Datagram} (hlookup : server.sessionRegistry.sessions.lookup id = some found)
    (hclient : found.client = some client) (hkind : found.connectionType = .streamer streamer)
    (h : server.handleMedia remote id session client streamer stream order
      = .ok (server', sent)) : server'.roll = server.roll := by
  have hunprotected : (server.unprotected id client stream).roll = server.roll := by
    apply roll_updateSession_same
    intro session' hsession'
    rw [hlookup] at hsession'
    cases hsession'
    exact record_client hclient rfl
  rcases handleMedia_eq_ok h with ⟨_, rfl, _⟩ | ⟨_, extractor, room, _, hall⟩
  · exact hunprotected
  · -- The extractor is written into the streamer it was read from.
    have hextracted : ((server.unprotected id client stream).extracted id streamer
        extractor).roll = (server.unprotected id client stream).roll := by
      apply roll_updateSession_same
      intro session' hsession'
      have hfound : (server.unprotected id client stream).sessionRegistry.sessions.lookup id
          = (server.sessionRegistry.sessions.lookup id).map fun session => { session with
              client := some { client with sslState := .established { stream with srtpInbound :=
                (crates.dtls.unprotect stream.srtpInbound server.inboundBuffer).state } } } := by
        simp only [unprotected, updateSession, SessionRegistry.updateSession,
          Store.lookup_modify, if_true]
      rw [hfound, hlookup, Option.map_some, Option.some.injEq] at hsession'
      rw [← hsession']
      simp only [Session.record, stampOf, hkind, ConnectionType.role]
    rw [forwardAll_roll hall, hextracted, hunprotected]

/-- A datagram that is not a binding request is heard from the session of its
    sender, and not seen otherwise. -/
theorem handleDatagram_roll {arrival : Arrival} {sent : List Datagram}
    (h : server.handleDatagram arrival = .ok (server', sent)) :
    server'.roll = (Change.ofHearing arrival.now
      ((server.sender arrival.remote).map fun found => (found.1, none))).apply server.roll := by
  rcases hsender : server.sender arrival.remote with _ | ⟨id, session, client⟩
  · rw [handleDatagram_of_none hsender] at h
    cases h
    rfl
  · rcases sender_eq_some.mp hsender with ⟨hfound, hclient⟩
    have hlookup := (SessionRegistry.getSessionByAddress_eq_some.mp hfound).2
    -- Being heard of is all that the roll sees of a packet.
    have htouched : (server.touched arrival id).roll
        = (Change.hears id arrival.now none).apply server.roll := roll_touch _ id arrival.now
    rw [Option.map_some, Change.ofHearing, ← htouched]
    have hheld : (server.touched arrival id).sessionRegistry.sessions.lookup id
        = some { session with ttl := arrival.now } := lookup_touched hlookup
    -- So wherever the connection stands, nothing more is to be seen.
    cases hstate : client.sslState with
    | handshake mid =>
        rw [handleDatagram_handshake hsender hstate] at h
        exact continueHandshake_roll hheld hclient h
    | established stream =>
        cases hkind : session.connectionType with
        | viewer viewer =>
            have hdone : ∀ mid, client.sslState ≠ .handshake mid := by
              intro mid h
              rw [hstate] at h
              cases h
            rw [handleDatagram_viewer hsender hkind hdone] at h
            cases h
            rfl
        | streamer streamer =>
            rw [handleDatagram_streamer hsender hkind hstate] at h
            exact handleMedia_roll hheld hclient hkind h
    | shutdown =>
        cases hkind : session.connectionType with
        | viewer viewer =>
            have hdone : ∀ mid, client.sslState ≠ .handshake mid := by
              intro mid h
              rw [hstate] at h
              cases h
            rw [handleDatagram_viewer hsender hkind hdone] at h
            cases h
            rfl
        | streamer streamer =>
            rw [handleDatagram_shutdown hsender hkind hstate] at h
            cases h

/-- Making the sender of a nomination the client of a session that has none
    is seen as its address. -/
theorem nominate_roll {remote : SocketAddr} {id : ResourceID} {session : Session crates}
    {written : List Bytes} (hlookup : server.sessionRegistry.sessions.lookup id = some session)
    (h : server.nominate remote id session = .ok (server', written)) :
    server'.roll = update server.roll id
      (some { session.record with address := session.record.address.or (some remote) }) := by
  unfold nominate at h
  cases hclient : session.client with
  | some client =>
      rw [hclient, Option.isNone_some] at h
      cases h
      -- A client that is there stays, and the record with it.
      have hsame : ({ session.record with
          address := session.record.address.or (some remote) } : Record) = session.record := by
        simp only [Session.record, hclient, Option.map_some, Option.some_or]
      rw [hsame, ← roll_of_lookup hlookup, update_eq_self]
  | none =>
      simp only [hclient, Option.isNone_none, if_true, bind_eq_ok, Prod.exists, expectOk_eq_ok,
        pure_eq_ok, Except.ok.injEq, Prod.mk.injEq] at h
      rcases h with ⟨_, _, hnew, client, rfl, rfl, _⟩
      -- A new client has the address the nomination came from.
      have haddress : client.remoteAddress = remote := Client.new_remoteAddress hnew
      have hroll := roll_updateSession server id fun session => { session with
        client := some client }
      rw [hlookup, Option.map_some] at hroll
      simp only [SessionRegistry.nominateClient, hlookup]
      refine hroll.trans ?_
      simp only [Session.record, hclient, Option.map_some, Option.map_none, Option.none_or,
        haddress]
      rfl

theorem handleStunPacket_liveCheck_roll {remote : SocketAddr} {msg : ICEStunPacket}
    {now : Instant} {sent : List Datagram}
    (h : server.handleStunPacket remote (.liveCheck msg) now = .ok (server', sent)) :
    server'.roll = (Change.ofHearing now
      ((server.sessionRegistry.getSessionByUsername msg.usernameAttribute).map fun found =>
        (found.1, none))).apply server.roll := by
  simp only [handleStunPacket] at h
  split at h
  · rename_i hnone
    cases h
    rw [hnone]
    rfl
  · rename_i id session hfound
    simp only [bind_eq_ok, pure_eq_ok, Except.ok.injEq, Prod.mk.injEq] at h
    rcases h with ⟨_, _, rfl, _⟩
    rw [hfound]
    exact roll_touch server id now

theorem handleStunPacket_nomination_roll {remote : SocketAddr} {msg : ICEStunPacket}
    {now : Instant} {sent : List Datagram} (hfiled : server.directory.Filed)
    (h : server.handleStunPacket remote (.nomination msg) now = .ok (server', sent)) :
    server'.roll = (Change.ofHearing now
      ((server.sessionRegistry.getSessionByUsername msg.usernameAttribute).map fun found =>
        (found.1, some remote))).apply server.roll := by
  simp only [handleStunPacket] at h
  split at h
  · rename_i hnone
    cases h
    rw [hnone]
    rfl
  · rename_i id session hfound
    have hlookup := (SessionRegistry.getSessionByUsername_eq_some.mp hfound).2
    -- The session is looked up again by its own id, which is its key.
    have hid : session.id = id := hfiled id _ (SessionRegistry.directory_sessions hlookup)
    have htouch := lookup_touch now hlookup
    simp only [SessionRegistry.getSession, bind_eq_ok, unwrap_eq_ok, Prod.exists, pure_eq_ok,
      Except.ok.injEq, Prod.mk.injEq] at h
    rcases h with ⟨found, hagain, server'', written, hnominate, _, _, _, _, rfl, _⟩
    rw [hid] at hagain hnominate
    rw [htouch] at hagain
    cases hagain
    rw [nominate_roll htouch hnominate, roll_touch, hfound]
    simp only [Option.map_some, Change.ofHearing, Change.apply, update_idem,
      roll_of_lookup hlookup]
    rfl

/-- A datagram is heard from the session it is about. -/
theorem processPacket_roll {packet : Bytes} {remote : SocketAddr} {now : Instant}
    {order : Enumeration ResourceID} {sent : List Datagram} (hfiled : server.directory.Filed)
    (h : server.processPacket packet remote now order = .ok (server', sent)) :
    server'.roll
      = (Change.ofHearing now (server.hearing packet remote)).apply server.roll := by
  simp only [processPacket, bind_eq_ok] at h
  rcases h with ⟨message, hmessage, h⟩
  unfold hearing
  rw [hmessage]
  cases message with
  | none =>
      have hother : server.handleDatagram ⟨packet, remote, now, order⟩ = .ok (server', sent) := h
      exact handleDatagram_roll hother
  | some message =>
      -- The datagram in the buffer is nothing the roll would show.
      have hbuffer : ({ server with inboundBuffer := packet } : UDPServer crates).handleStunPacket
          remote message now = .ok (server', sent) := h
      cases message with
      | liveCheck msg =>
          have hroll := handleStunPacket_liveCheck_roll hbuffer
          exact hroll
      | nomination msg =>
          have hfiled' : ({ server with inboundBuffer := packet } :
            UDPServer crates).directory.Filed := hfiled
          have hroll := handleStunPacket_nomination_roll hfiled' hbuffer
          exact hroll

/-- A tick sweeps the roll. -/
theorem runPeriodicChecks_roll {env : Env} {output : Output} (hfiled : server.directory.Filed)
    (h : server.runPeriodicChecks env = .ok (server', output)) :
    server'.roll = (Change.sweeps env.clock (server.takenBy env)).apply server.roll := by
  have hids : ∀ k session, server.sessionRegistry.sessions.lookup k = some session →
      session.id = k := fun k session hk => hfiled k _ (SessionRegistry.directory_sessions hk)
  rcases runPeriodicChecks_eq hids env with ⟨output', hticks⟩
  rw [hticks] at h
  cases h
  funext k
  simp only [roll, lookup_swept, Change.apply, takenBy]
  cases hk : server.sessionRegistry.sessions.lookup k with
  | none => rfl
  | some session =>
      simp only [Option.bind_some, Option.map_some]
      -- A stamp is what a thumbnail leaves behind, and only that.
      have hstamped : (stamped session (env.clock k)).record = session.record.stamped
          (readyThumbnail session (env.clock k)).isSome (env.clock k) := by
        unfold stamped Record.stamped
        cases hready : readyThumbnail session (env.clock k) with
        | none => rfl
        | some ready =>
            rcases ready with ⟨streamer, picture⟩
            have hrole := readyThumbnail_role hready
            simp only [Session.record, stampOf, hrole, Option.isSome_some, if_true]
            rfl
      rw [← hstamped, Record.isStale]
      by_cases hsilent : Silent session (env.clock k)
      · have hstale : decide (seconds 5 < elapsed session.record.ttl (env.clock k)) = true :=
          decide_eq_true hsilent
        rw [if_pos hsilent, hstale, if_pos rfl, Option.map_none]
      · have hstale : decide (seconds 5 < elapsed session.record.ttl (env.clock k)) = false :=
          decide_eq_false hsilent
        rw [if_neg hsilent, hstale, if_neg Bool.false_ne_true, Option.map_some]

theorem respond_output {env : Env} {answer : Option SDP} {output : Output}
    (h : server.respond env answer = .ok (server', output)) : output = .response answer := by
  unfold respond at h
  split at h
  · cases h
    rfl
  · cases h

/-- An accepted offer of a streamer is entered. -/
theorem addStreamer_roll {sdpOffer : Text} {env : Env} {output : Output}
    (h : server.addStreamer sdpOffer env = .ok (server', output)) :
    server'.roll = (server.change (.addStreamer sdpOffer, env)).apply server.roll := by
  unfold addStreamer at h
  simp only [change]
  -- Accepted, the session is entered as it is new.
  cases haccept : server.sdpResolver.acceptStreamOffer sdpOffer env.draws with
  | error e =>
      rw [haccept] at h
      rw [respond_eq_ok h]
      rfl
  | ok mediaSession =>
      simp only [haccept, bind_eq_ok, Prod.exists, SessionRegistry.addStreamer,
        Session.newStreamer, pure_eq_ok, Except.ok.injEq, Prod.mk.injEq] at h
      rcases h with ⟨registry, _, ⟨_, ⟨extractor, _, rfl⟩, rfl, _⟩, hrespond⟩
      rw [respond_eq_ok hrespond]
      exact Store.map_lookup_insert Session.record server.sessionRegistry.sessions env.resourceId _

/-- An offer of a viewer is answered from what the owner of the room
    negotiated. -/
theorem addViewer_of_viewerMedia {sdpOffer : Text} {targetId : RoomID} {env : Env}
    {media : Option NegotiatedSession} (h : server.viewerMedia sdpOffer targetId env = media) :
    server.addViewer sdpOffer targetId env = media.elim (server.respond env none)
      fun mediaSession =>
        server.sessionRegistry.addViewer mediaSession targetId env.resourceId env.now >>=
          fun added => { server with sessionRegistry := added.1 }.respond env
            (some mediaSession.sdpAnswer) := by
  -- The two look-ups in a row are one.
  have hmedia : (do
      let room ← server.sessionRegistry.getRoom targetId
      let session ← server.sessionRegistry.getSession room.ownerId
      some session.mediaSession).bind (fun mediaSession =>
        (server.sdpResolver.acceptViewerOffer sdpOffer mediaSession env.draws).toOption)
      = media := by
    rw [← h]
    simp only [viewerMedia, Option.bind_eq_bind, Option.bind_assoc, Option.bind_some]
  simp only [addViewer, hmedia]
  cases media with
  | none => rfl
  | some mediaSession => rfl

/-- An accepted offer of a viewer is entered. -/
theorem addViewer_roll {sdpOffer : Text} {targetId : RoomID} {env : Env} {output : Output}
    (h : server.addViewer sdpOffer targetId env = .ok (server', output)) :
    server'.roll = (server.change (.addViewer sdpOffer targetId, env)).apply server.roll := by
  simp only [change]
  -- As for a streamer, once the room has been found.
  cases haccept : server.viewerMedia sdpOffer targetId env with
  | none =>
      rw [addViewer_of_viewerMedia haccept] at h
      rw [respond_eq_ok h]
      rfl
  | some mediaSession =>
      rw [addViewer_of_viewerMedia haccept] at h
      simp only [Option.elim_some, bind_eq_ok, Prod.exists, SessionRegistry.addViewer,
        Session.newViewer, expect_eq_ok, pure_eq_ok, Except.ok.injEq, Prod.mk.injEq] at h
      rcases h with ⟨registry, _, ⟨_, _, rfl, _⟩, hrespond⟩
      rw [respond_eq_ok hrespond]
      exact Store.map_lookup_insert Session.record server.sessionRegistry.sessions env.resourceId _

/-- Whatever a command does, this is what is seen of it on the roll. -/
theorem step_roll {input : Command × Env} {output : Output} (hfiled : server.directory.Filed)
    (h : server.step input = .ok (server', output)) :
    server'.roll = (server.change input).apply server.roll := by
  rcases input with ⟨command, env⟩
  -- One lemma for each command.
  cases command with
  | handlePacket packet remote =>
      simp only [step, bind_eq_ok, Prod.exists, pure_eq_ok, Except.ok.injEq, Prod.mk.injEq] at h
      rcases h with ⟨_, sent, hpacket, rfl, _⟩
      exact processPacket_roll hfiled hpacket
  | addStreamer sdpOffer => exact addStreamer_roll h
  | addViewer sdpOffer targetId => exact addViewer_roll h
  | sendRoomsStatus =>
      cases h
      rfl
  | runPeriodicChecks => exact runPeriodicChecks_roll hfiled h

theorem new_filed (resolver : SDPResolver) :
    (UDPServer.new resolver : UDPServer crates).directory.Filed := (new_consistent resolver).filed

end UDPServer

end SigmaMedia
