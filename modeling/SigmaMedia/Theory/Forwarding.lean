import SigmaMedia.Theory.Registry.Routing
import SigmaMedia.Theory.Rtp

/-!
# Who Is Sent What

A packet from a streamer goes to every viewer of its room, rewritten for each.
The loop looks sessions up again on every turn, writes each copy into the one
outbound buffer, and changes the SRTP session of the viewer it has just sent
to. None of this leaks from one viewer to the next.

The argument is a frame argument. Forwarding reads little of a session: its
negotiated media, and the outlet its media leaves by. `receiver` is that
little. A turn of the loop changes the receiver of one viewer, who does not
come again, and nothing of the sender, so every copy can be computed from the
state before the packet. That is `copyTo`, and `forwardAll_sent` says that the
loop sends exactly these.

## Main definitions

* `outlet`, `receiver`: What forwarding reads of a session.
* `copyTo`: The copy a viewer is sent.
* `Streams`: The packet a datagram of a streamer holds.
* `IsCopy`: A datagram is the copy a session is sent.
* `mediaOf`: What was sent as media.

## Theorems

* `forward_sent`: One turn of the loop.
* `forwardAll_sent`: The loop.
* `handleMedia_sent`: A packet of a streamer.
* `processPacket_forwards`: Any datagram that is not a binding request.
-/

namespace SigmaMedia

open Bytes Exec Net Rtp Sdp Stun Text Thumbnail

variable {crates : Crates}

/-- Where the media of a session leaves, once its connection is established:
    the address of its client and the SRTP session. -/
def Session.outlet (session : Session crates) : Option (SocketAddr × crates.dtls.Outbound) :=
  match session.client with
  | none => none
  | some client =>
      match client.sslState with
      | .established stream => some (client.remoteAddress, stream.srtpOutbound)
      | _ => none

namespace SessionRegistry

/-- What forwarding reads of the session at an id. -/
def receiver (registry : SessionRegistry crates) (id : ResourceID) :
    Option (NegotiatedSession × Option (SocketAddr × crates.dtls.Outbound)) :=
  (registry.sessions.lookup id).map fun session => (session.mediaSession, session.outlet)

/-- The negotiated media of the session an address belongs to. -/
def senderMedia (registry : SessionRegistry crates) (remote : SocketAddr) :
    Option NegotiatedSession :=
  (registry.getSessionByAddress remote).map fun found => found.2.mediaSession

/-- The copy of a packet that the viewer at an id is sent, if it is sent one. -/
def copyTo (registry : SessionRegistry crates) (rtp : Bytes) (streamerMedia : NegotiatedSession)
    (id : ResourceID) : Option Datagram :=
  match registry.receiver id with
  | some (viewerMedia, some (remote, outbound)) =>
      match remapRtpHeader rtp streamerMedia viewerMedia with
      | .ok plaintext =>
          let run := crates.dtls.protect outbound plaintext
          if run.isOk then some { kind := .media, remote, bytes := run.buffer } else none
      | .error _ => none
  | _ => none

variable {registry registry' : SessionRegistry crates}

/-- An update at one id is not seen at any other. -/
theorem receiver_updateSession_of_ne {id k : ResourceID} (f : Session crates → Session crates)
    (hne : k ≠ id) : (registry.updateSession id f).receiver k = registry.receiver k := by
  simp only [receiver, updateSession, Store.lookup_modify, if_neg hne]

/-- An update that keeps the media and the outlet is not seen at all. -/
theorem receiver_updateSession {id : ResourceID} {f : Session crates → Session crates}
    (h : ∀ session, registry.sessions.lookup id = some session →
      (f session).mediaSession = session.mediaSession ∧ (f session).outlet = session.outlet)
    (k : ResourceID) : (registry.updateSession id f).receiver k = registry.receiver k := by
  by_cases hk : k = id
  · simp only [receiver, updateSession, Store.lookup_modify, if_pos hk]
    rw [hk]
    cases hid : registry.sessions.lookup id with
    | none => rfl
    | some session =>
        rcases h session hid with ⟨hmedia, houtlet⟩
        simp only [Option.map_some, hmedia, houtlet]
  · exact receiver_updateSession_of_ne f hk

/-- An update that keeps the media of a session keeps everybody's. -/
theorem senderMedia_updateSession (registry : SessionRegistry crates) (id : ResourceID)
    (f : Session crates → Session crates)
    (h : ∀ session, (f session).mediaSession = session.mediaSession) (remote : SocketAddr) :
    (registry.updateSession id f).senderMedia remote = registry.senderMedia remote := by
  simp only [senderMedia, getSessionByAddress, updateSession, Option.bind_eq_bind,
    Store.lookup_modify]
  cases registry.addressMap.lookup remote with
  | none => rfl
  | some k =>
      simp only [Option.bind_some]
      -- If it is the sender that is updated, its media is kept.
      by_cases hk : k = id
      · rw [if_pos hk]
        cases registry.sessions.lookup k with
        | none => rfl
        | some session => simp only [Option.map_some, Option.bind_some, Option.pure_def, h]
      · rw [if_neg hk]

theorem copyTo_congr {id : ResourceID} (h : registry'.receiver id = registry.receiver id)
    (rtp : Bytes) (streamerMedia : NegotiatedSession) :
    registry'.copyTo rtp streamerMedia id = registry.copyTo rtp streamerMedia id := by
  unfold copyTo
  rw [h]

end SessionRegistry

namespace UDPServer

variable {server server' : UDPServer crates}

/-- One turn of the loop sends the copy of its viewer, and leaves the packet,
    the sender and all the other viewers as they were. -/
theorem forward_sent {remote : SocketAddr} {id : ResourceID} {sent : List Datagram}
    {streamerMedia : NegotiatedSession}
    (hsender : server.sessionRegistry.senderMedia remote = some streamerMedia)
    (h : server.forward remote id = .ok (server', sent)) :
    sent = (server.sessionRegistry.copyTo server.inboundBuffer streamerMedia id).toList ∧
      server'.inboundBuffer = server.inboundBuffer ∧
      server'.sessionRegistry.senderMedia remote = some streamerMedia ∧
      ∀ k, k ≠ id → server'.sessionRegistry.receiver k = server.sessionRegistry.receiver k := by
  simp only [forward, bind_eq_ok, expect_eq_ok, Prod.exists] at h
  rcases h with ⟨_, streamerSession, hfound, viewerSession, hviewer, h⟩
  have hmedia : streamerSession.mediaSession = streamerMedia := by
    rw [SessionRegistry.senderMedia, hfound] at hsender
    exact Option.some.inj hsender
  have hreceiver : server.sessionRegistry.receiver id
      = some (viewerSession.mediaSession, viewerSession.outlet) := by
    rw [SessionRegistry.getSession] at hviewer
    rw [SessionRegistry.receiver, hviewer, Option.map_some]
  -- Whenever nothing is sent, nothing was touched.
  have hskip : viewerSession.outlet = none → (server, ([] : List Datagram)) = (server', sent) →
      sent = (server.sessionRegistry.copyTo server.inboundBuffer streamerMedia id).toList ∧
        server'.inboundBuffer = server.inboundBuffer ∧
        server'.sessionRegistry.senderMedia remote = some streamerMedia ∧
        ∀ k, k ≠ id →
          server'.sessionRegistry.receiver k = server.sessionRegistry.receiver k := by
    intro hnone heq
    cases heq
    refine ⟨?_, rfl, hsender, fun _ _ => rfl⟩
    rw [SessionRegistry.copyTo, hreceiver, hnone]
    rfl
  cases hclient : viewerSession.client with
  | none =>
      simp only [hclient, pure_eq_ok, Except.ok.injEq] at h
      exact hskip (by rw [Session.outlet, hclient]) h
  | some client =>
      simp only [hclient] at h
      cases hstate : client.sslState with
      | handshake mid =>
          simp only [hstate, pure_eq_ok, Except.ok.injEq] at h
          exact hskip (by simp only [Session.outlet, hclient, hstate]) h
      | shutdown =>
          simp only [hstate, pure_eq_ok, Except.ok.injEq] at h
          exact hskip (by simp only [Session.outlet, hclient, hstate]) h
      | established stream =>
          simp only [hstate, bind_eq_ok, hmedia] at h
          rcases h with ⟨plaintext, hremap, h⟩
          have houtlet : viewerSession.outlet
              = some (client.remoteAddress, stream.srtpOutbound) := by
            simp only [Session.outlet, hclient, hstate]
          have hcopy : server.sessionRegistry.copyTo server.inboundBuffer streamerMedia id
              = if (crates.dtls.protect stream.srtpOutbound plaintext).isOk = true then
                  some { kind := .media, remote := client.remoteAddress,
                         bytes := (crates.dtls.protect stream.srtpOutbound plaintext).buffer }
                else none := by
            simp only [SessionRegistry.copyTo, hreceiver, houtlet, hremap]
          have hmediaKept := SessionRegistry.senderMedia_updateSession
            server.sessionRegistry id (fun session => { session with client := some { client with
              sslState := .established { stream with
                srtpOutbound := (crates.dtls.protect stream.srtpOutbound plaintext).state } } })
            (fun _ => rfl) remote
          rw [hcopy]
          split at h
          · rename_i hok
            cases h
            rw [if_pos hok]
            exact ⟨rfl, rfl, hmediaKept.trans hsender,
              fun k hk => SessionRegistry.receiver_updateSession_of_ne _ hk⟩
          · rename_i hok
            cases h
            rw [if_neg hok]
            exact ⟨rfl, rfl, hmediaKept.trans hsender,
              fun k hk => SessionRegistry.receiver_updateSession_of_ne _ hk⟩

/-- The loop sends every viewer the copy computed from the state before it. -/
theorem forwardAll_sent {remote : SocketAddr} {ids : List ResourceID} {sent : List Datagram}
    {streamerMedia : NegotiatedSession} (hnodup : ids.Nodup)
    (hsender : server.sessionRegistry.senderMedia remote = some streamerMedia)
    (h : server.forwardAll remote ids = .ok (server', sent)) :
    sent = ids.filterMap
      (server.sessionRegistry.copyTo server.inboundBuffer streamerMedia) := by
  -- The viewers still to come have the receivers they had at the start.
  induction ids generalizing server sent with
  | nil =>
      cases h
      rfl
  | cons id ids ih =>
      simp only [forwardAll, bind_eq_ok, Prod.exists, pure_eq_ok, Except.ok.injEq,
        Prod.mk.injEq] at h
      rcases h with ⟨server₁, sent₁, hone, server₂, sent₂, hrest, rfl, rfl⟩
      rw [List.nodup_cons] at hnodup
      rcases forward_sent hsender hone with ⟨hsent, hbuffer, hsender₁, hothers⟩
      have hlater : ids.filterMap
          (server₁.sessionRegistry.copyTo server₁.inboundBuffer streamerMedia)
            = ids.filterMap (server.sessionRegistry.copyTo server.inboundBuffer streamerMedia) := by
        rw [hbuffer]
        apply List.filterMap_congr
        intro k hk
        have hne : k ≠ id := by
          intro heq
          rw [heq] at hk
          exact hnodup.1 hk
        exact SessionRegistry.copyTo_congr (hothers k hne) _ _
      rw [ih hnodup.2 hsender₁ hrest, hlater, hsent, List.filterMap_cons]
      cases server.sessionRegistry.copyTo server.inboundBuffer streamerMedia id with
      | none => rfl
      | some datagram => rfl

/-- A packet of a streamer that can be unprotected is sent on to the viewers of
    its room, and nothing is sent otherwise. -/
theorem handleMedia_sent {remote : SocketAddr} {id : ResourceID} {session found : Session crates}
    {client : Client crates.dtls} {streamer : Streamer crates}
    {stream : EstablishedStream crates.dtls} {order : Enumeration ResourceID}
    {sent : List Datagram} (hlookup : server.sessionRegistry.sessions.lookup id = some found)
    (hclient : found.client = some client) (hstate : client.sslState = .established stream)
    (hsender : server.sessionRegistry.senderMedia remote = some session.mediaSession)
    (h : server.handleMedia remote id session client streamer stream order
      = .ok (server', sent)) :
    ((crates.dtls.unprotect stream.srtpInbound server.inboundBuffer).isOk = false ∧ sent = []) ∨
      (crates.dtls.unprotect stream.srtpInbound server.inboundBuffer).isOk = true ∧
        ∃ room, server.sessionRegistry.rooms.lookup streamer.ownedRoomId = some room ∧
          sent = (order.list room.viewerIds).filterMap (server.sessionRegistry.copyTo
            (crates.dtls.unprotect stream.srtpInbound server.inboundBuffer).buffer
            session.mediaSession) := by
  rcases handleMedia_eq_ok h with ⟨hfail, _, rfl⟩ | ⟨hok, extractor, room, hroom, hall⟩
  · exact Or.inl ⟨hfail, rfl⟩
  · refine Or.inr ⟨hok, room, hroom, ?_⟩
    -- Unprotecting the packet and showing it to the extractor leaves every
    -- receiver as it was, the streamer's own included.
    have hunprotected : ∀ k, (server.unprotected id client stream).sessionRegistry.receiver k
        = server.sessionRegistry.receiver k := by
      apply SessionRegistry.receiver_updateSession
      intro session' hsession'
      rw [hlookup] at hsession'
      cases hsession'
      refine ⟨rfl, ?_⟩
      simp only [Session.outlet, hclient, hstate]
    have hextracted : ∀ k, ((server.unprotected id client stream).extracted id streamer
        extractor).sessionRegistry.receiver k = server.sessionRegistry.receiver k := by
      intro k
      rw [← hunprotected k]
      apply SessionRegistry.receiver_updateSession
      intro session' _
      exact ⟨rfl, rfl⟩
    have hmedia : ((server.unprotected id client stream).extracted id streamer
        extractor).sessionRegistry.senderMedia remote = some session.mediaSession := by
      rw [← hsender]
      refine (SessionRegistry.senderMedia_updateSession _ _ _ ?_ remote).trans
        (SessionRegistry.senderMedia_updateSession _ _ _ ?_ remote)
      · intro _
        rfl
      · intro _
        rfl
    rw [forwardAll_sent (order.nodup _) hmedia hall]
    apply List.filterMap_congr
    intro k _
    exact SessionRegistry.copyTo_congr (hextracted k) _ _

/-- A datagram holds a packet of a streamer: its sender is found by address, is
    a streamer, has an established connection, and the datagram is unprotected
    to the packet. -/
def Streams (server : UDPServer crates) (data : Bytes) (remote : SocketAddr)
    (session : Session crates) (streamer : Streamer crates) (rtp : Bytes) : Prop :=
  ∃ id client stream,
    server.sessionRegistry.getSessionByAddress remote = some (id, session) ∧
      session.connectionType = .streamer streamer ∧ session.client = some client ∧
      client.sslState = .established stream ∧
      (crates.dtls.unprotect stream.srtpInbound data).isOk = true ∧
      (crates.dtls.unprotect stream.srtpInbound data).buffer = rtp

/-- The packet rewritten for a viewer, as far as it is fixed by the packet: all
    but the second byte and the four of the source. -/
def SameButHeader (plaintext rtp : Bytes) : Prop :=
  plaintext.length = rtp.length ∧
    ∀ i, i ≠ 1 → i < 8 ∨ 12 ≤ i → plaintext[i]? = rtp[i]?

/-- The session at an id is sent a datagram: its connection is established and
    the rewritten packet can be protected, and the datagram is the protected
    packet, addressed to its client. -/
def IsCopy (server : UDPServer crates) (streamerMedia : NegotiatedSession) (rtp : Bytes)
    (id : ResourceID) (datagram : Datagram) : Prop :=
  ∃ viewer client stream plaintext, server.sessionRegistry.getSession id = some viewer ∧
    viewer.client = some client ∧ client.sslState = .established stream ∧
    remapRtpHeader rtp streamerMedia viewer.mediaSession = .ok plaintext ∧
    SameButHeader plaintext rtp ∧
    (crates.dtls.protect stream.srtpOutbound plaintext).isOk = true ∧
    datagram = { kind := .media, remote := client.remoteAddress,
                 bytes := (crates.dtls.protect stream.srtpOutbound plaintext).buffer }

/-- The datagrams that were sent as media. -/
def mediaOf (sent : List Datagram) : List Datagram := sent.filter fun d => d.kind = .media

theorem sameButHeader_of_remap {rtp plaintext : Bytes}
    {streamerMedia viewerMedia : NegotiatedSession}
    (h : remapRtpHeader rtp streamerMedia viewerMedia = .ok plaintext) :
    SameButHeader plaintext rtp := by
  have hlen : 12 ≤ rtp.length :=
    (remapRtpHeader_returns_iff rtp streamerMedia viewerMedia).mp ⟨plaintext, h⟩
  rcases getRtpHeaderData_eq hlen with ⟨header, hheader, _⟩
  rw [remapRtpHeader_eq hheader, Except.ok.injEq] at h
  rw [← h]
  refine ⟨length_rewritten hlen _ _, ?_⟩
  intro i hsecond hssrc
  exact getElem?_rewritten hlen _ _ hsecond hssrc

/-- The copy computed for a viewer is the one it is sent. -/
theorem copyTo_eq_some {rtp : Bytes} {streamerMedia : NegotiatedSession} {id : ResourceID}
    {datagram : Datagram} :
    server.sessionRegistry.copyTo rtp streamerMedia id = some datagram ↔
      server.IsCopy streamerMedia rtp id datagram := by
  constructor
  · intro h
    -- Every step the copy depends on has come out: the viewer is there, has a
    -- client with an established connection, and the packet could be rewritten.
    unfold SessionRegistry.copyTo at h
    split at h
    · rename_i viewerMedia address outbound hreceiver
      rcases Option.map_eq_some_iff.mp hreceiver with ⟨viewer, hviewer, hpair⟩
      rw [Prod.mk.injEq] at hpair
      rcases hpair with ⟨rfl, houtlet⟩
      unfold Session.outlet at houtlet
      split at houtlet
      · cases houtlet
      · rename_i client hclient
        split at houtlet
        · rename_i stream hstate
          cases houtlet
          split at h
          · rename_i plaintext hremap
            simp only [Option.ite_none_right_eq_some, Option.some.injEq] at h
            exact ⟨viewer, client, stream, plaintext, hviewer, hclient, hstate, hremap,
              sameButHeader_of_remap hremap, h.1, h.2.symm⟩
          · cases h
        · cases houtlet
    · cases h
  · intro h
    rcases h with ⟨viewer, client, stream, plaintext, hviewer, hclient, hstate, hremap, _, hok, rfl⟩
    rw [SessionRegistry.getSession] at hviewer
    simp only [SessionRegistry.copyTo, SessionRegistry.receiver, hviewer, Option.map_some,
      Session.outlet, hclient, hstate, hremap, hok, if_true]

/-- Filtering by a partial function and applying it pairs up what has a
    value. -/
theorem forall₂_filterMap {α β : Type} (f : α → Option β) (l : List α) :
    List.Forall₂ (fun a b => f a = some b) (l.filter fun a => (f a).isSome) (l.filterMap f) := by
  induction l with
  | nil => exact .nil
  | cons a l ih =>
      cases ha : f a with
      | none =>
          rw [List.filterMap_cons_none ha,
            List.filter_cons_of_neg (by rw [ha]; exact Bool.false_ne_true)]
          exact ih
      | some b =>
          rw [List.filterMap_cons_some ha, List.filter_cons_of_pos (by rw [ha]; rfl)]
          exact .cons ha ih

/-- Copies are media. -/
theorem mediaOf_copies (registry : SessionRegistry crates) (rtp : Bytes)
    (streamerMedia : NegotiatedSession) (ids : List ResourceID) :
    mediaOf (ids.filterMap (registry.copyTo rtp streamerMedia))
      = ids.filterMap (registry.copyTo rtp streamerMedia) := by
  apply List.filter_eq_self.mpr
  intro datagram hmem
  rcases List.mem_filterMap.mp hmem with ⟨id, _, hcopy⟩
  unfold SessionRegistry.copyTo at hcopy
  split at hcopy
  · split at hcopy
    · simp only [Option.ite_none_right_eq_some, Option.some.injEq] at hcopy
      rw [← hcopy.2]
      rfl
    · cases hcopy
  · cases hcopy

/-- What a handshake writes is not media. -/
theorem continueHandshake_mediaOf {id : ResourceID} {client : Client crates.dtls}
    {mid : MidHandshakeSslStream crates.dtls} {sent : List Datagram}
    (h : server.continueHandshake id client mid = .ok (server', sent)) : mediaOf sent = [] := by
  simp only [continueHandshake, bind_eq_ok, Prod.exists, pure_eq_ok, Except.ok.injEq,
    Prod.mk.injEq] at h
  rcases h with ⟨_, _, written, _, _, rfl⟩
  apply List.filter_eq_nil_iff.mpr
  intro datagram hmem
  rcases List.mem_map.mp hmem with ⟨bytes, _, rfl⟩
  simp only [reduceCtorEq, decide_false, Bool.false_eq_true, not_false_eq_true]

/-- What a datagram holds is settled by what its sender is found to be. -/
theorem Streams.of_sender {data : Bytes} {remote : SocketAddr} {session session' : Session crates}
    {streamer : Streamer crates} {rtp : Bytes} {id : ResourceID}
    (h : server.Streams data remote session' streamer rtp)
    (hfound : server.sessionRegistry.getSessionByAddress remote = some (id, session)) :
    session.connectionType = .streamer streamer ∧ ∃ client stream, session.client = some client ∧
      client.sslState = .established stream ∧
      (crates.dtls.unprotect stream.srtpInbound data).isOk = true := by
  rcases h with ⟨_, client, stream, hfound', hkind, hclient, hstate, hok, _⟩
  rw [hfound] at hfound'
  cases hfound'
  exact ⟨hkind, client, stream, hclient, hstate, hok⟩

/-- Keeping a streamer's session alive makes no difference to what is sent for
    its packet. -/
theorem handleMedia_touch_media {remote : SocketAddr} {now : Instant} {id : ResourceID}
    {session : Session crates} {client : Client crates.dtls} {streamer : Streamer crates}
    {stream : EstablishedStream crates.dtls} {order : Enumeration ResourceID}
    {sent : List Datagram}
    (hsender : server.sessionRegistry.getSessionByAddress remote = some (id, session))
    (hclient : session.client = some client) (hstate : client.sslState = .established stream)
    (h : (server.updateSession id fun session => { session with ttl := now }).handleMedia
      remote id session client streamer stream order = .ok (server', sent)) :
    ((crates.dtls.unprotect stream.srtpInbound server.inboundBuffer).isOk = false ∧ sent = []) ∨
      (crates.dtls.unprotect stream.srtpInbound server.inboundBuffer).isOk = true ∧
        ∃ room, server.sessionRegistry.rooms.lookup streamer.ownedRoomId = some room ∧
          mediaOf sent = (order.list room.viewerIds).filterMap (server.sessionRegistry.copyTo
            (crates.dtls.unprotect stream.srtpInbound server.inboundBuffer).buffer
            session.mediaSession) := by
  have hlookup := (SessionRegistry.getSessionByAddress_eq_some.mp hsender).2
  -- The stamp is neither part of the media session nor of a receiver.
  have hmedia : (server.updateSession id fun session =>
      { session with ttl := now }).sessionRegistry.senderMedia remote
        = some session.mediaSession := by
    refine (SessionRegistry.senderMedia_updateSession _ _ _ ?_ remote).trans ?_
    · intro _
      rfl
    · rw [SessionRegistry.senderMedia, hsender, Option.map_some]
  have hreceiver : ∀ k, (server.updateSession id fun session =>
      { session with ttl := now }).sessionRegistry.receiver k
        = server.sessionRegistry.receiver k := by
    apply SessionRegistry.receiver_updateSession
    intro session' _
    exact ⟨rfl, rfl⟩
  rcases handleMedia_sent (lookup_touch now hlookup) hclient hstate hmedia h with
    hfail | ⟨hok, room, hroom, rfl⟩
  · exact Or.inl hfail
  · refine Or.inr ⟨hok, room, hroom, ?_⟩
    rw [mediaOf_copies]
    apply List.filterMap_congr
    intro k _
    exact SessionRegistry.copyTo_congr (hreceiver k) _ _

/-- What becomes of a datagram that is not a binding request: it holds a packet
    of a streamer and the copies of it are sent, or it does not and no media
    is. -/
theorem handleOtherPackets_media {remote : SocketAddr} {now : Instant}
    {order : Enumeration ResourceID} {sent : List Datagram}
    (h : server.handleOtherPackets remote now order = .ok (server', sent)) :
    (∃ session streamer rtp room,
        server.Streams server.inboundBuffer remote session streamer rtp ∧
        server.sessionRegistry.rooms.lookup streamer.ownedRoomId = some room ∧
        mediaOf sent = (order.list room.viewerIds).filterMap
          (server.sessionRegistry.copyTo rtp session.mediaSession)) ∨
      (¬ ∃ session streamer rtp,
        server.Streams server.inboundBuffer remote session streamer rtp) ∧ mediaOf sent = [] := by
  unfold handleOtherPackets at h
  rcases hsender : server.sessionRegistry.getSessionByAddress remote with _ | ⟨id, session⟩
  · rw [hsender] at h
    cases h
    refine Or.inr ⟨?_, rfl⟩
    intro hstreams
    rcases hstreams with ⟨session, streamer, rtp, _, _, _, hfound, _⟩
    rw [hsender] at hfound
    cases hfound
  simp only [hsender] at h
  rcases hclient : session.client with _ | client
  · rw [hclient] at h
    cases h
    refine Or.inr ⟨?_, rfl⟩
    intro hstreams
    rcases hstreams with ⟨session', streamer, rtp, hstreams⟩
    rcases hstreams.of_sender hsender with ⟨_, _, _, hsome, _⟩
    rw [hclient] at hsome
    cases hsome
  simp only [hclient] at h
  cases hkind : session.connectionType with
  | viewer viewer =>
      -- Whatever a viewer sends, it is not a streamer.
      simp only [hkind] at h
      refine Or.inr ⟨?_, ?_⟩
      · intro hstreams
        rcases hstreams with ⟨session', streamer, rtp, hstreams⟩
        have hstreamer := (hstreams.of_sender hsender).1
        rw [hkind] at hstreamer
        cases hstreamer
      · split at h
        · exact continueHandshake_mediaOf h
        · cases h
          rfl
  | streamer streamer =>
      simp only [hkind] at h
      cases hstate : client.sslState with
      | handshake mid =>
          simp only [hstate] at h
          refine Or.inr ⟨?_, continueHandshake_mediaOf h⟩
          intro hstreams
          rcases hstreams with ⟨session', streamer', rtp, hstreams⟩
          rcases hstreams.of_sender hsender with ⟨_, client', stream, hsome, hestablished, _⟩
          rw [hclient] at hsome
          cases hsome
          rw [hstate] at hestablished
          cases hestablished
      | shutdown =>
          simp only [hstate] at h
          cases h
      | established stream =>
          simp only [hstate] at h
          rcases handleMedia_touch_media hsender hclient hstate h with
            ⟨hfail, rfl⟩ | ⟨hok, room, hroom, hsent⟩
          · refine Or.inr ⟨?_, rfl⟩
            intro hstreams
            rcases hstreams with ⟨session', streamer', rtp, hstreams⟩
            rcases hstreams.of_sender hsender with ⟨_, client', stream', hsome, hestablished, hok⟩
            rw [hclient] at hsome
            cases hsome
            rw [hstate] at hestablished
            cases hestablished
            exact Bool.false_ne_true (hfail.symm.trans hok)
          · exact Or.inl ⟨session, streamer, _, room,
              ⟨id, client, stream, hsender, hkind, hclient, hstate, hok, rfl⟩, hroom, hsent⟩

/-- A datagram holds one packet of one streamer. -/
theorem Streams.unique {data : Bytes} {remote : SocketAddr} {session session' : Session crates}
    {streamer streamer' : Streamer crates} {rtp rtp' : Bytes}
    (h : server.Streams data remote session streamer rtp)
    (h' : server.Streams data remote session' streamer' rtp') :
    session = session' ∧ streamer = streamer' ∧ rtp = rtp' := by
  rcases h with ⟨id, client, stream, hfound, hkind, hclient, hstate, _, rfl⟩
  rcases h' with ⟨id', client', stream', hfound', hkind', hclient', hstate', _, rfl⟩
  rw [hfound] at hfound'
  cases hfound'
  rw [hkind] at hkind'
  cases hkind'
  rw [hclient] at hclient'
  cases hclient'
  rw [hstate] at hstate'
  cases hstate'
  exact ⟨rfl, rfl, rfl⟩

/-- Registries with one directory have the same indexes and rooms. -/
theorem maps_eq_of_directory (h : server'.directory = server.directory) :
    server'.sessionRegistry.rooms = server.sessionRegistry.rooms ∧
      server'.sessionRegistry.usernameMap = server.sessionRegistry.usernameMap ∧
      server'.sessionRegistry.addressMap = server.sessionRegistry.addressMap := by
  refine ⟨?_, ?_, ?_⟩
  · exact Finmap.ext_lookup fun r => congrFun (congrArg Directory.rooms h) r
  · exact Finmap.ext_lookup fun username => congrFun (congrArg Directory.usernames h) username
  · exact Finmap.ext_lookup fun address => congrFun (congrArg Directory.addresses h) address

/-- Media is forwarded exactly: a packet of a streamer goes out once to every
    viewer of its room that can be sent to, rewritten for that viewer and
    addressed to it, and nothing else is sent as media. -/
theorem processPacket_forwards {data : Bytes} {remote : SocketAddr} {now : Instant}
    {order : Enumeration ResourceID} {sent : List Datagram}
    (hother : getStunPacket data = .ok none)
    (h : server.processPacket data remote now order = .ok (server', sent)) :
    (∀ session streamer rtp, server.Streams data remote session streamer rtp →
        ∃ room ids, server.sessionRegistry.getRoom streamer.ownedRoomId = some room ∧
          ids.Nodup ∧
          (∀ id, id ∈ ids ↔
            id ∈ room.viewerIds ∧ ∃ datagram, server.IsCopy session.mediaSession rtp id datagram) ∧
          List.Forall₂ (server.IsCopy session.mediaSession rtp) ids (mediaOf sent)) ∧
      ((¬ ∃ session streamer rtp, server.Streams data remote session streamer rtp) →
        mediaOf sent = []) ∧
      server'.sessionRegistry.rooms = server.sessionRegistry.rooms ∧
      server'.sessionRegistry.usernameMap = server.sessionRegistry.usernameMap ∧
      server'.sessionRegistry.addressMap = server.sessionRegistry.addressMap := by
  simp only [processPacket, hother, ok_bind] at h
  have hdir : server'.directory = server.directory :=
    (handleOtherPackets_directory h).trans rfl
  have hmedia := handleOtherPackets_media h
  refine ⟨?_, ?_, maps_eq_of_directory hdir⟩
  · intro session streamer rtp hstreams
    rcases hmedia with ⟨session', streamer', rtp', room, hstreams', hroom, hsent⟩ | ⟨hnot, _⟩
    · rcases hstreams.unique hstreams' with ⟨rfl, rfl, rfl⟩
      -- The viewers that are sent to, in the order of the loop: those that have
      -- a copy.
      refine ⟨room, (order.list room.viewerIds).filter fun id =>
        (server.sessionRegistry.copyTo rtp session.mediaSession id).isSome, hroom,
        (order.nodup _).filter _, ?_, ?_⟩
      · intro id
        rw [List.mem_filter, order.mem, Option.isSome_iff_exists]
        simp only [copyTo_eq_some]
      · have hpairs := forall₂_filterMap
          (server.sessionRegistry.copyTo rtp session.mediaSession) (order.list room.viewerIds)
        rw [hsent]
        exact hpairs.imp fun _ _ hcopy => copyTo_eq_some.mp hcopy
    · exact absurd ⟨session, streamer, rtp, hstreams⟩ hnot
  · intro hnot
    rcases hmedia with ⟨session, streamer, rtp, room, hstreams, _⟩ | ⟨_, hnone⟩
    · exact absurd ⟨session, streamer, rtp, hstreams⟩ hnot
    · exact hnone

/-- A viewer that joins a room with the given id, and its payload numbers. -/
def watching (ufrag audio video : Text) (roomId resourceId : UInt32) : Command × Env :=
  (.addViewer (offerText ufrag "recvonly".toList audio video) roomId, drawing 0 resourceId)

/-- Two streamers. The first has two viewers, with payload numbers of their own,
    the second has one. All but the second are nominated, each from a port of
    its own, and through with their handshakes. -/
def joined : List (Command × Env) :=
  [streaming "user".toList 1 2, streaming "solo".toList 3 4,
    watching "peer".toList "109".toList "126".toList 1 6,
    watching "pair".toList "110".toList "127".toList 1 8,
    watching "lone".toList "112".toList "125".toList 3 10,
    nominating "host:user".toList 5000, nominating "host:peer".toList 5001,
    nominating "host:pair".toList 5002, nominating "host:lone".toList 5003]
  ++ [5000, 5001, 5002, 5003].map fun port =>
    (.handlePacket [22] (loopback port), drawing 0 0)

/-- A packet of the first streamer goes out to its two viewers, to each with the
    numbers negotiated with it, and to nobody in the other room. -/
theorem processPacket_forwards_two_viewers :
    ∃ (server server' : UDPServer plainCrates) (outputs : List Output) (sent : List Datagram),
      Trace.feed step (UDPServer.new loopbackResolver) joined = .ok (server, outputs) ∧
      server.processPacket [0x80, 0x6f, 0, 1, 0, 0, 0, 0, 0, 0, 0, 7, 0xaa] (loopback 5000) 0
        (drawing 0 0).order = .ok (server', sent) ∧
      mediaOf sent =
        [⟨.media, loopback 5001, [0x80, 0x6d, 0, 1, 0, 0, 0, 0, 0, 0, 0, 1, 0xaa]⟩,
          ⟨.media, loopback 5002, [0x80, 0x6e, 0, 1, 0, 0, 0, 0, 0, 0, 0, 1, 0xaa]⟩] ∧
      (∃ session streamer rtp, server.Streams [0x80, 0x6f, 0, 1, 0, 0, 0, 0, 0, 0, 0, 7, 0xaa]
        (loopback 5000) session streamer rtp) ∧
      server'.sessionRegistry.rooms = server.sessionRegistry.rooms := by
  have hrun : passes (Trace.feed step (UDPServer.new loopbackResolver : UDPServer plainCrates)
      joined) (fun result => passes (result.1.processPacket
        [0x80, 0x6f, 0, 1, 0, 0, 0, 0, 0, 0, 0, 7, 0xaa] (loopback 5000) 0 (drawing 0 0).order)
        fun after => decide (mediaOf after.2 =
          [⟨.media, loopback 5001, [0x80, 0x6d, 0, 1, 0, 0, 0, 0, 0, 0, 0, 1, 0xaa]⟩,
            ⟨.media, loopback 5002, [0x80, 0x6e, 0, 1, 0, 0, 0, 0, 0, 0, 0, 1, 0xaa]⟩]))
      = true := by decide +kernel
  rcases of_passes hrun with ⟨⟨server, outputs⟩, hfeed, hrest⟩
  rcases of_passes hrest with ⟨⟨server', sent⟩, hpacket, hlast⟩
  have hsent := of_decide_eq_true hlast
  have hforwards := processPacket_forwards (by decide +kernel) hpacket
  refine ⟨server, server', outputs, sent, hfeed, hpacket, hsent, ?_, hforwards.2.2.1⟩
  -- Media was sent, so the datagram held a packet of a streamer.
  by_contra hnot
  rw [hforwards.2.1 hnot] at hsent
  cases hsent

end UDPServer

end SigmaMedia
