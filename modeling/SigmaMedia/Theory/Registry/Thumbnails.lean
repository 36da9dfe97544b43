import SigmaMedia.Theory.Registry.Connections
import SigmaMedia.Theory.Registry.Lifetimes

/-!
# Where Thumbnails Come From

A tick takes the last picture of every streamer that is due. The picture is
the streamer's own: its extractor has been shown every video packet that came
from the streamer's client, unprotected with the streamer's keys, in the order
they came, and nothing else. `footage` reads these packets off the commands of
a run. Sessions of the same server do not see each other's packets, so the
extractor of a session is in the state it would be in if it had been alone with
them.

A room is not saved again before two minutes are over. The stamp that says so
is kept with the session, so this is about the time a room is open: a room
that was opened anew starts over.

## Main definitions

* `film`, `Extracts`: An extractor alone with the packets it is shown.
* `footage`: The video packets a command brings from a session.
* `Shown`: All the video a session has sent since it joined.
* `Streamed`: A picture of a room.

## Theorems

* `mem_saved`: What a tick saves.
* `withstands_holds`: A datagram without video leaves an extractor alone.
* `handleDatagram_films`: One with video of a session is shown to its extractor.
* `step_films`, `feed_films`: An extractor goes through every run on its own.
* `shown_of_streamer`: It was shown the video of its session.
* `thumbnails_streamed`: A thumbnail is made of what the streamer sent.
* `thumbnails_paced`: Two thumbnails of a room are two minutes apart.
-/

namespace SigmaMedia

open Bytes Exec Net Rtp Sdp Stun Text Thumbnail Trace

variable {crates : Crates}

/-- An extractor alone with the packets it is shown. It sends nothing. -/
def film (h264 : H264) :
    Option (ThumbnailExtractor h264) → Bytes →
      Exec (Option (ThumbnailExtractor h264) × List Datagram)
  | none, _ => .ok (none, [])
  | some extractor, packet => do
      let (extractor, _) ← extractor.tryExtractThumbnail packet
      return (some extractor, [])

/-- An extractor that was shown some packets, and only those. -/
def Extracts (payloads : List Bytes) (extractor : ThumbnailExtractor crates.h264) : Prop :=
  ∃ first results, ThumbnailExtractor.new = .ok first ∧
    feed ThumbnailExtractor.tryExtractThumbnail first payloads = .ok (extractor, results)

theorem extracts_of_film {h264 : H264} {first : ThumbnailExtractor h264}
    {extractor : Option (ThumbnailExtractor h264)} {payloads : List Bytes}
    {outs : List (List Datagram)}
    (h : feed (film h264) (some first) payloads = .ok (extractor, outs)) :
    ∃ last results, extractor = some last ∧
      feed ThumbnailExtractor.tryExtractThumbnail first payloads = .ok (last, results) := by
  induction payloads generalizing first outs with
  | nil =>
      cases h
      exact ⟨first, [], rfl, rfl⟩
  | cons payload payloads ih =>
      rcases feed_cons_eq_ok.mp h with ⟨next, out, outs', hone, hrest, _⟩
      simp only [film, bind_eq_ok, Prod.exists, pure_eq_ok, Except.ok.injEq, Prod.mk.injEq] at hone
      rcases hone with ⟨extractor', result, hextract, rfl, _⟩
      rcases ih hrest with ⟨last, results, hlast, hfeed⟩
      exact ⟨last, result :: results, hlast, feed_cons hextract hfeed⟩

/-- The extractor of a session, if it has one. -/
def Session.extractor (session : Session crates) : Option (ThumbnailExtractor crates.h264) :=
  match session.connectionType with
  | .streamer streamer => some streamer.thumbnailExtractor
  | .viewer _ => none

/-- A stamp is no business of the extractor's. -/
theorem extractor_stamped (session : Session crates) (now : Instant) :
    (UDPServer.stamped session now).extractor = session.extractor := by
  unfold UDPServer.stamped
  cases hready : UDPServer.readyThumbnail session now with
  | none => rfl
  | some ready =>
      unfold UDPServer.readyThumbnail at hready
      cases hkind : session.connectionType with
      | viewer viewer =>
          rw [hkind] at hready
          cases hready
      | streamer streamer =>
          simp only [hkind, Option.ite_none_right_eq_some, Option.map_eq_some_iff] at hready
          rcases hready with ⟨_, picture, _, rfl⟩
          simp only [Session.extractor, hkind]

/-- A session, if it is the one in question, has a certain extractor. -/
def Session.Holds (k : ResourceID) (extractor : Option (ThumbnailExtractor crates.h264))
    (session : Session crates) : Prop :=
  session.id = k → session.extractor = extractor

namespace UDPServer

variable {server server' : UDPServer crates} {resolver : SDPResolver}
variable {past : List (Command × Env)}

theorem readyThumbnail_eq_some {session : Session crates} {now : Instant}
    {streamer : Streamer crates} {picture : ImageData}
    (h : readyThumbnail session now = some (streamer, picture)) :
    session.connectionType = .streamer streamer ∧
      streamer.thumbnailExtractor.lastPicture = some picture ∧
      ∀ stamp, streamer.imageTimestamp = some stamp → seconds 120 < elapsed stamp now := by
  unfold readyThumbnail at h
  -- A viewer has no thumbnail, and a streamer one that is due.
  cases hkind : session.connectionType with
  | viewer viewer =>
      rw [hkind] at h
      cases h
  | streamer streamer' =>
      simp only [hkind, Option.ite_none_right_eq_some, Option.map_eq_some_iff, Prod.mk.injEq] at h
      rcases h with ⟨hdue, picture', hpicture, rfl, rfl⟩
      refine ⟨rfl, hpicture, ?_⟩
      intro stamp hstamp
      rw [hstamp] at hdue
      exact of_decide_eq_true hdue

/-- What is saved of the sessions, one after another. -/
theorem saveThumbnails_saved (registry : SessionRegistry crates) (env : Env)
    (entries : List (ResourceID × Session crates)) :
    (saveThumbnails registry env entries).2
      = entries.filterMap fun entry => (readyThumbnail entry.2 (env.clock entry.1)).map
          fun ready => (ready.1.ownedRoomId, ready.2) := by
  -- Over the sessions: a stamp is not seen by those that come after.
  induction entries generalizing registry with
  | nil => rfl
  | cons entry rest ih =>
      rcases entry with ⟨id, session⟩
      rw [saveThumbnails, List.filterMap_cons]
      cases readyThumbnail session (env.clock id) with
      | none => exact ih registry
      | some ready => exact congrArg (List.cons _) (ih _)

/-- A step that saves is a tick. -/
theorem step_saved {input : Command × Env} {saved : List (RoomID × ImageData)}
    (h : server.step input = .ok (server', .thumbnails saved)) :
    input.1 = .runPeriodicChecks ∧ saved = (saveThumbnails server.sessionRegistry input.2
      (input.2.order.entries server.sessionRegistry.sessions)).2 := by
  rcases input with ⟨command, env⟩
  cases command with
  | runPeriodicChecks =>
      simp only [step, runPeriodicChecks, bind_eq_ok, pure_eq_ok, Except.ok.injEq, Prod.mk.injEq,
        Output.thumbnails.injEq] at h
      rcases h with ⟨_, _, _, rfl⟩
      exact ⟨rfl, rfl⟩
  | handlePacket packet remote =>
      simp only [step, bind_eq_ok, pure_eq_ok, Except.ok.injEq, Prod.mk.injEq, reduceCtorEq,
        and_false, exists_false] at h
  | addStreamer sdpOffer =>
      simp only [step, addStreamer] at h
      split at h
      · cases respond_output h
      · -- An offer is responded to, accepted or not.
        rcases bind_eq_ok.mp h with ⟨_, _, hrespond⟩
        cases respond_output hrespond
  | addViewer sdpOffer targetId =>
      simp only [step, addViewer] at h
      split at h
      · cases respond_output h
      · rcases bind_eq_ok.mp h with ⟨_, _, hrespond⟩
        cases respond_output hrespond
  | sendRoomsStatus => cases h

/-- What a tick saves is the last picture of a streamer that is due. -/
theorem mem_saved {input : Command × Env} {saved : List (RoomID × ImageData)}
    (h : server.step input = .ok (server', .thumbnails saved)) {room : RoomID}
    {picture : ImageData} (hmem : (room, picture) ∈ saved) :
    ∃ k session streamer, server.sessionRegistry.sessions.lookup k = some session ∧
      readyThumbnail session (input.2.clock k) = some (streamer, picture) ∧
      streamer.ownedRoomId = room := by
  rw [(step_saved h).2, saveThumbnails_saved, List.mem_filterMap] at hmem
  rcases hmem with ⟨⟨k, session⟩, hentry, hsome⟩
  rcases Option.map_eq_some_iff.mp hsome with ⟨⟨streamer, picture'⟩, hready, hpair⟩
  cases hpair
  exact ⟨k, session, streamer, Enumeration.mem_entries.mp hentry, hready, rfl⟩

/-- The extractor of the session at a key. -/
def extractorAt (server : UDPServer crates) (k : ResourceID) :
    Option (ThumbnailExtractor crates.h264) :=
  (server.sessionRegistry.sessions.lookup k).bind Session.extractor

/-- The video packet in a datagram, if it comes from the client of a certain
    session and that session is a streamer's. It is unprotected with the keys
    of the session. -/
def videoFrom (server : UDPServer crates) (k : ResourceID) (packet : Bytes)
    (remote : SocketAddr) : Option Bytes :=
  if (server.sender remote).map Prod.fst = some k then
    (server.streamedPacket packet remote).bind fun (media, _, rtp) =>
      match getRtpHeaderData rtp with
      | .ok header => if isVideoPacket header media then some rtp else none
      | .error _ => none
  else none

/-- The video packets a command brings from a session: one, or none. -/
def footage (k : ResourceID) (server : UDPServer crates) (input : Command × Env) : List Bytes :=
  match input.1 with
  | .handlePacket packet remote =>
      match getStunPacket packet with
      | .ok none => (server.videoFrom k packet remote).toList
      | _ => []
  | _ => []

section Footage

variable {k : ResourceID} {packet : Bytes} {remote : SocketAddr}

theorem everyone_holds (hfiled : server.directory.Filed) :
    server.Everyone (Session.Holds k (server.extractorAt k)) := by
  intro j session hlookup hid
  have hj : session.id = j := hfiled j _ (SessionRegistry.directory_sessions hlookup)
  rw [← hid, hj, extractorAt, hlookup, Option.bind_some]

theorem extractorAt_of_everyone {extractor : Option (ThumbnailExtractor crates.h264)}
    (h : server.Everyone (Session.Holds k extractor)) (hfiled : server.directory.Filed)
    {session : Session crates} (hlookup : server.sessionRegistry.sessions.lookup k = some session) :
    server.extractorAt k = extractor := by
  rw [extractorAt, hlookup, Option.bind_some]
  exact h k session hlookup (hfiled k _ (SessionRegistry.directory_sessions hlookup))

/-- The packet of a streamer whose connection is established. -/
theorem videoFrom_of_sender {id : ResourceID} {session : Session crates}
    {client : Client crates.dtls} {stream : EstablishedStream crates.dtls}
    {streamer : Streamer crates} (hsender : server.sender remote = some (id, session, client))
    (hstate : client.sslState = .established stream)
    (hkind : session.connectionType = .streamer streamer)
    (hok : (crates.dtls.unprotect stream.srtpInbound packet).isOk = true) {header : RTPHeader}
    (hheader : getRtpHeaderData (crates.dtls.unprotect stream.srtpInbound packet).buffer
      = .ok header) :
    server.videoFrom id packet remote
      = if isVideoPacket header session.mediaSession then
          some (crates.dtls.unprotect stream.srtpInbound packet).buffer
        else none := by
  simp only [videoFrom, streamedPacket, hsender, Option.map_some, if_true, Option.bind_eq_bind,
    Option.bind_some, hkind, hstate, if_pos hok, hheader]

/-- A datagram without video from a session leaves its extractor alone. -/
theorem withstands_holds {extractor : Option (ThumbnailExtractor crates.h264)}
    (hfiled : server.directory.Filed) (hnone : server.videoFrom k packet remote = none) :
    Withstands server packet remote (Session.Holds k extractor) where
  touched _ _ h := h
  nominated _ _ _ h _ _ := h
  read _ _ _ _ _ h _ _ := h
  received _ _ _ h _ _ := h
  sent _ _ _ _ h _ _ := h
  watched id session now client stream streamer extractor' h hsender hstate hkind hok hwatch := by
    intro hid
    -- Only the session whose packet this is could be shown it.
    have hbefore : session.extractor = extractor := h hid
    rw [Session.extractor, hkind] at hbefore
    have hlookup := (SessionRegistry.getSessionByAddress_eq_some.mp
      (sender_eq_some.mp hsender).1).2
    have hkey : session.id = id := hfiled id _ (SessionRegistry.directory_sessions hlookup)
    have hsame : id = k := hkey.symm.trans hid
    simp only [watch, bind_eq_ok] at hwatch
    rcases hwatch with ⟨header, hheader, hwatch⟩
    rw [← hsame, videoFrom_of_sender hsender hstate hkind hok hheader] at hnone
    -- It is no video, so the extractor is not asked.
    by_cases hvideo : isVideoPacket header session.mediaSession = true
    · rw [if_pos hvideo] at hnone
      cases hnone
    · rw [if_neg hvideo] at hwatch
      cases hwatch
      exact hbefore

theorem videoFrom_eq_some {payload : Bytes} (h : server.videoFrom k packet remote = some payload) :
    ∃ session client stream streamer header, server.sender remote = some (k, session, client) ∧
      client.sslState = .established stream ∧ session.connectionType = .streamer streamer ∧
      (crates.dtls.unprotect stream.srtpInbound packet).isOk = true ∧
      payload = (crates.dtls.unprotect stream.srtpInbound packet).buffer ∧
      getRtpHeaderData payload = .ok header ∧ isVideoPacket header session.mediaSession = true := by
  simp only [videoFrom, Option.ite_none_right_eq_some, Option.map_eq_some_iff, Prod.exists,
    Option.bind_eq_some_iff, streamedPacket, Option.bind_eq_bind] at h
  rcases h with ⟨⟨id, session, client, hsender, rfl⟩, media, room, rtp,
    ⟨id', session', client', hsender', hpacket⟩, h⟩
  rw [hsender] at hsender'
  cases hsender'
  -- The sender is a streamer, and its connection is established.
  cases hkind : session.connectionType with
  | viewer viewer =>
      simp only [hkind, reduceCtorEq] at hpacket
  | streamer streamer =>
      cases hstate : client.sslState with
      | established stream =>
          simp only [hkind, hstate, Option.ite_none_right_eq_some, Option.some.injEq,
            Prod.mk.injEq] at hpacket
          rcases hpacket with ⟨hok, rfl, rfl, rfl⟩
          cases hheader : getRtpHeaderData
              (crates.dtls.unprotect stream.srtpInbound packet).buffer with
          | error p =>
              simp only [hheader, reduceCtorEq] at h
          | ok header =>
              simp only [hheader, Option.ite_none_right_eq_some, Option.some.injEq] at h
              rcases h with ⟨hvideo, rfl⟩
              exact ⟨session, client, stream, streamer, header, hsender, hstate, hkind, hok, rfl,
                hheader, hvideo⟩
      | handshake mid => simp only [hkind, hstate, reduceCtorEq] at hpacket
      | shutdown => simp only [hkind, hstate, reduceCtorEq] at hpacket

/-- A server that has read nothing knows of nobody who sends video. -/
theorem videoFrom_new (resolver : SDPResolver) (packet : Bytes) (remote : SocketAddr) :
    (UDPServer.new resolver : UDPServer crates).videoFrom k packet remote = none := rfl

/-- Relaying a packet leaves every extractor alone. -/
theorem forwardAll_holds {extractor : Option (ThumbnailExtractor crates.h264)}
    {ids : List ResourceID} {sent : List Datagram}
    (h : server.Everyone (Session.Holds k extractor))
    (hall : server.forwardAll remote ids = .ok (server', sent)) :
    server'.Everyone (Session.Holds k extractor) :=
  forwardAll_everyone (withstands_holds (new_filed server.sdpResolver)
    (videoFrom_new server.sdpResolver [] remote)) h hall

/-- A packet with video of a session is shown to its extractor. -/
theorem handleDatagram_films {arrival : Arrival} {payload : Bytes} {sent : List Datagram}
    {session' : Session crates} (hfiled : server.directory.Filed)
    (hfiled' : server'.directory.Filed)
    (hlookup' : server'.sessionRegistry.sessions.lookup k = some session')
    (hvideo : server.videoFrom k arrival.data arrival.remote = some payload)
    (h : server.handleDatagram arrival = .ok (server', sent)) :
    Shares (film crates.h264) (server.extractorAt k) [payload] (server'.extractorAt k) sent := by
  rcases videoFrom_eq_some hvideo with
    ⟨session, client, stream, streamer, header, hsender, hstate, hkind, hok, rfl, hheader, hkept⟩
  have hlookup := (SessionRegistry.getSessionByAddress_eq_some.mp
    (sender_eq_some.mp hsender).1).2
  rw [handleDatagram_streamer hsender hkind hstate] at h
  -- The packet could be unprotected, so it was shown and relayed.
  rcases handleMedia_watched h with ⟨hfail, _⟩ | ⟨_, extractor, ids, hwatch, hall⟩
  · have hbad : (crates.dtls.unprotect stream.srtpInbound arrival.data).isOk = false := hfail
    rw [hok] at hbad
    cases hbad
  have hshown : watch streamer session
      (crates.dtls.unprotect stream.srtpInbound arrival.data).buffer = .ok extractor := hwatch
  simp only [watch, hheader, ok_bind, if_pos hkept, bind_eq_ok, Prod.exists, pure_eq_ok,
    Except.ok.injEq] at hshown
  rcases hshown with ⟨extractor, result, hextract, rfl⟩
  -- Of all that is written, only this session's extractor is seen here.
  have hheld : (((server.touched arrival k).unprotected k client stream).extracted k streamer
      extractor).Everyone (Session.Holds k (some extractor)) := by
    intro j found hfound hid
    simp only [extracted, unprotected, touched, updateSession, SessionRegistry.updateSession,
      Store.lookup_modify] at hfound
    by_cases hj : j = k
    · rw [hj] at hfound
      simp only [if_true, hlookup, Option.map_some, Option.some.injEq] at hfound
      rw [← hfound]
      rfl
    · simp only [if_neg hj] at hfound
      exact absurd ((hfiled j _ (SessionRegistry.directory_sessions hfound)).symm.trans hid) hj
  -- And relaying it changes no extractor.
  rw [extractorAt_of_everyone (forwardAll_holds hheld hall) hfiled' hlookup', extractorAt, hlookup,
    Option.bind_some, Session.extractor, hkind]
  refine shares_one ?_ (List.nil_sublist _)
  simp only [film, hextract, ok_bind, pure_eq_ok]

/-- A datagram, for any extractor. -/
theorem processPacket_films {env : Env} {sent : List Datagram} {session' : Session crates}
    (hfiled : server.directory.Filed) (hfiled' : server'.directory.Filed)
    (hlookup' : server'.sessionRegistry.sessions.lookup k = some session')
    (h : server.processPacket packet remote env.now env.order = .ok (server', sent)) :
    Shares (film crates.h264) (server.extractorAt k)
      (server.footage k (.handlePacket packet remote, env)) (server'.extractorAt k) sent := by
  -- Where no video comes from the session, all its extractor sees is nothing.
  have hkept : server'.Everyone (Session.Holds k (server.extractorAt k)) →
      Shares (film crates.h264) (server.extractorAt k) [] (server'.extractorAt k) sent := by
    intro heveryone
    rw [extractorAt_of_everyone heveryone hfiled' hlookup']
    exact shares_nil _ _ _
  have hheld := everyone_holds (k := k) hfiled
  simp only [processPacket, bind_eq_ok] at h
  rcases h with ⟨message, hmessage, h⟩
  rcases message with _ | message
  · -- A datagram is for the extractor if it holds video of the session.
    have hother : server.handleDatagram ⟨packet, remote, env.now, env.order⟩
        = .ok (server', sent) := h
    simp only [footage, hmessage]
    rcases hvideo : server.videoFrom k packet remote with _ | payload
    · exact hkept (handleDatagram_everyone (withstands_holds hfiled hvideo) hheld hother)
    · exact handleDatagram_films hfiled hfiled' hlookup' hvideo hother
  · -- A binding request is shown to nobody, whoever sent it.
    simp only [footage, hmessage]
    have hbuffered : ({ server with inboundBuffer := packet } : UDPServer crates).Everyone
      (Session.Holds k (server.extractorAt k)) := hheld
    exact hkept (handleStunPacket_everyone (withstands_holds (new_filed server.sdpResolver)
      (videoFrom_new server.sdpResolver packet remote)) hbuffered h)

end Footage

/-- Any command, for any extractor. -/
theorem step_films {k : ResourceID} {role : Role} {input : Command × Env} {output : Output}
    (hfiled : server.directory.Filed) (henters : ∀ record, server.change input ≠ .enters k record)
    (h : server.step input = .ok (server', output)) (hrole : server'.roleAt k = some role) :
    server.roleAt k = some role ∧
      Shares (film crates.h264) (server.extractorAt k) (server.footage k input)
        (server'.extractorAt k) output.sent := by
  refine ⟨roleAt_of_step hfiled henters h hrole, ?_⟩
  rcases roleAt_eq_some.mp hrole with ⟨session', hlookup', _⟩
  rcases input with ⟨command, env⟩
  -- Commands without a packet may stamp the session at most.
  have hother : (∀ packet remote, command ≠ .handlePacket packet remote) →
      server.footage k (command, env) = [] →
      Shares (film crates.h264) (server.extractorAt k) (server.footage k (command, env))
        (server'.extractorAt k) output.sent := by
    intro hcommand hnone
    have hsame : server'.extractorAt k = server.extractorAt k :=
      lookup_bind_of_command extractor_stamped hfiled hcommand henters hlookup' h
    rw [hnone, hsame]
    exact shares_nil _ _ _
  cases command with
  | handlePacket packet remote =>
      have hfiled' := step_filed hfiled h
      simp only [step, bind_eq_ok, Prod.exists, pure_eq_ok, Except.ok.injEq, Prod.mk.injEq] at h
      rcases h with ⟨_, sent, hprocess, rfl, rfl⟩
      exact processPacket_films hfiled hfiled' hlookup' hprocess
  | addStreamer sdpOffer => exact hother (fun _ _ hc => (by cases hc)) rfl
  | addViewer sdpOffer targetId => exact hother (fun _ _ hc => (by cases hc)) rfl
  | sendRoomsStatus => exact hother (fun _ _ hc => (by cases hc)) rfl
  | runPeriodicChecks => exact hother (fun _ _ hc => (by cases hc)) rfl

/-- An extractor goes through a run on its own. -/
theorem feed_films {k : ResourceID} {role : Role} {inputs : List (Command × Env)}
    {outputs : List Output} (hfiled : server.directory.Filed)
    (hkeeps : Along step (fun s i => ∀ record, s.change i ≠ .enters k record) server inputs)
    (h : feed step server inputs = .ok (server', outputs)) (hrole : server'.roleAt k = some role) :
    Shares (film crates.h264) (server.extractorAt k)
      (observed (footage k) step server inputs).flatten (server'.extractorAt k)
      (outputs.flatMap Output.sent) := by
  have hfiling : ∀ (s : UDPServer crates) input s₁ output, s.directory.Filed →
      (∀ record, s.change input ≠ .enters k record) → s.step input = .ok (s₁, output) →
      s₁.directory.Filed := by
    intro s input s₁ output hs _ hstep
    exact step_filed hs hstep
  -- The extractor is one part of the server, and shares its run.
  have hrun := feed_shares (fun s : UDPServer crates => s.extractorAt k)
    (fun s => s.roleAt k = some role) hfiling
    (fun s input s₁ output hs henters hstep hthere => step_films hs henters hstep hthere)
    hfiled hkeeps h hrole
  exact hrun.2

/-- A streamer that joins has an extractor that was shown nothing. -/
theorem extractorAt_of_admits {input : Command × Env} {output : Output} {k : ResourceID}
    {mediaSession : NegotiatedSession} {room : RoomID}
    (hadmits : server.Admits input.2 input.1 k mediaSession (.streamer room))
    (h : server.step input = .ok (server', output)) :
    ∃ first, ThumbnailExtractor.new = .ok first ∧ server'.extractorAt k = some first := by
  rcases input with ⟨command, env⟩
  cases hadmits with
  | streamer haccept =>
      simp only [step, addStreamer, haccept, bind_eq_ok, Prod.exists, SessionRegistry.addStreamer,
        Session.newStreamer, pure_eq_ok, Except.ok.injEq, Prod.mk.injEq] at h
      -- The extractor is made before the session is entered.
      rcases h with ⟨registry, _, ⟨joining, ⟨first, hnew, rfl⟩, rfl, _⟩, hrespond⟩
      refine ⟨first, hnew, ?_⟩
      rw [respond_eq_ok hrespond, extractorAt]
      simp only [Store.lookup_insert_eq, if_true, Option.bind_some]
      rfl

/-- The video a session has sent in a run since it joined: every packet of it,
    as it was unprotected with the keys of the session, in the order they
    came. -/
def Shown (crates : Crates) (resolver : SDPResolver) (past : List (Command × Env))
    (k : ResourceID) (session : Session crates) (payloads : List Bytes) : Prop :=
  ∃ before input later server₁ outputs₁ server₂ output,
    past = before ++ input :: later ∧
    feed step (UDPServer.new resolver : UDPServer crates) before = .ok (server₁, outputs₁) ∧
    server₁.step input = .ok (server₂, output) ∧
    server₁.Admits input.2 input.1 k session.mediaSession session.connectionType.role ∧
    (∀ c ∈ observed change step server₂ later, ∀ record, c ≠ .enters k record) ∧
    payloads = (observed (footage k) step server₂ later).flatten

/-- The extractor of a streamer was shown the video its client has sent. -/
theorem shown_of_streamer {inputs : List (Command × Env)} {outputs : List Output}
    (h : feed step (UDPServer.new resolver) inputs = .ok (server, outputs)) {k : ResourceID}
    {session : Session crates} {streamer : Streamer crates}
    (hlookup : server.sessionRegistry.sessions.lookup k = some session)
    (hkind : session.connectionType = .streamer streamer) :
    ∃ payloads, Shown crates resolver inputs k session payloads ∧
      Extracts payloads streamer.thumbnailExtractor := by
  rcases run_origin resolver h (roll_of_lookup hlookup) with
    ⟨before, input, later, server₁, outputs₁, server₂, output, rfl, hbefore, hone, hadmits, _,
      hnone⟩
  refine ⟨_, ⟨before, input, later, server₁, outputs₁, server₂, output, rfl, hbefore, hone,
    hadmits, hnone, rfl⟩, ?_⟩
  have hjoined := feed_append_of_ok hbefore (feed_cons hone (feed_nil step server₂))
  -- From where the session joined, its extractor is followed to the end.
  rw [List.append_cons] at h
  rcases feed_append_eq_ok hjoined h with ⟨outputs₂, hlater, _⟩
  have hrole : session.record.role = .streamer streamer.ownedRoomId := by
    rw [Session.record, hkind]
    rfl
  rw [hrole] at hadmits
  rcases extractorAt_of_admits hadmits hone with ⟨first, hnew, hfirst⟩
  rcases feed_films (feed_filed (new_filed resolver) hjoined)
    ((forall_observed_iff_along _ _).mp hnone) hlater (roleAt_eq_some.mpr ⟨session, hlookup, rfl⟩)
    with ⟨outs, hfilm, _⟩
  rw [hfirst] at hfilm
  -- On its own it goes through the same packets.
  rcases extracts_of_film hfilm with ⟨last, results, hlast, hfeed⟩
  have hsame : server.extractorAt k = some streamer.thumbnailExtractor := by
    rw [extractorAt, hlookup, Option.bind_some, Session.extractor, hkind]
  rw [hsame, Option.some.injEq] at hlast
  rw [hlast]
  exact ⟨first, results, hnew, hfeed⟩

/-- A picture of a room: the last one in the video that the streamer of the room
    has sent. An extractor of its own that is shown that video, and nothing
    else, comes to the same picture. -/
def Streamed (server : UDPServer crates) (resolver : SDPResolver) (past : List (Command × Env))
    (room : RoomID) (picture : ImageData) : Prop :=
  ∃ (k : ResourceID) (session : Session crates) (payloads : List Bytes)
    (extractor : ThumbnailExtractor crates.h264),
    server.sessionRegistry.sessions.lookup k = some session ∧
    session.connectionType.role = .streamer room ∧
    Shown crates resolver past k session payloads ∧ Extracts payloads extractor ∧
    extractor.lastPicture = some picture

/-- What a tick saves of a room was streamed to it. -/
theorem streamed_of_saved {outputs : List Output} {input : Command × Env}
    {saved : List (RoomID × ImageData)}
    (hpast : feed step (UDPServer.new resolver) past = .ok (server, outputs))
    (h : server.step input = .ok (server', .thumbnails saved)) {room : RoomID}
    {picture : ImageData} (hmem : (room, picture) ∈ saved) :
    server.Streamed resolver past room picture := by
  rcases mem_saved h hmem with ⟨k, session, streamer, hlookup, hready, rfl⟩
  rcases readyThumbnail_eq_some hready with ⟨hkind, hpicture, _⟩
  rcases shown_of_streamer hpast hlookup hkind with ⟨payloads, hshown, hextracts⟩
  exact ⟨k, session, payloads, streamer.thumbnailExtractor, hlookup, readyThumbnail_role hready,
    hshown, hextracts, hpicture⟩

/-- In every run, what is saved of a room was streamed to it. -/
theorem thumbnails_streamed (resolver : SDPResolver) {inputs : List (Command × Env)}
    {server : UDPServer crates} {outputs : List Output}
    (h : feed step (UDPServer.new resolver) inputs = .ok (server, outputs)) {i : Nat}
    {saved : List (RoomID × ImageData)} (hsaved : outputs[i]? = some (.thumbnails saved))
    {room : RoomID} {picture : ImageData} (hmem : (room, picture) ∈ saved) :
    ∃ (server₁ : UDPServer crates) (outputs₁ : List Output),
      feed step (UDPServer.new resolver) (inputs.take i) = .ok (server₁, outputs₁) ∧
      server₁.Streamed resolver (inputs.take i) room picture := by
  have hout := feed_history (fun _ _ => True)
    (fun past _ output => ∀ saved, output = .thumbnails saved → (room, picture) ∈ saved →
      ∃ (server₁ : UDPServer crates) (outputs₁ : List Output),
        feed step (UDPServer.new resolver) past = .ok (server₁, outputs₁) ∧
        server₁.Streamed resolver past room picture) trivial ?_ h hsaved
  · rcases hout with ⟨_, _, hout⟩
    exact hout saved rfl hmem
  · intro past s os input s₁ o hpast _ hstep
    refine ⟨trivial, ?_⟩
    rintro saved rfl hmem
    exact ⟨s, os, hpast, streamed_of_saved hpast hstep hmem⟩

/-- A tick at the start of the clock. -/
def ticking : Command × Env := (.runPeriodicChecks, drawing 0 0)

/-- What was saved, if anything was. -/
def savedOf : Output → List (RoomID × ImageData)
  | .thumbnails saved => saved
  | _ => []

/-- If the first room is known, it has its picture. -/
theorem exists_saved {output : Output} {room : RoomID} {rooms : List RoomID}
    (h : (savedOf output).map Prod.fst = room :: rooms) :
    ∃ saved picture, output = .thumbnails saved ∧ (room, picture) ∈ saved := by
  rcases List.map_eq_cons_iff.mp h with ⟨⟨_, picture⟩, rest, hsaved, rfl, _⟩
  cases output with
  | thumbnails saved =>
      have hcons : saved = (_, picture) :: rest := hsaved
      refine ⟨saved, picture, rfl, ?_⟩
      rw [hcons]
      exact List.mem_cons_self
  | _ => cases hsaved

/-- A streamer that was filmed has its picture saved at the next tick. -/
theorem thumbnails_streamed_filmed :
    ∃ (server : UDPServer filmingCrates) (outputs : List Output)
      (saved : List (RoomID × ImageData)) (picture : ImageData),
      feed step (UDPServer.new loopbackResolver) (filmed ++ [ticking]) = .ok (server, outputs) ∧
      outputs[6]? = some (.thumbnails saved) ∧ (1, picture) ∈ saved ∧
      ∃ (server₁ : UDPServer filmingCrates) (outputs₁ : List Output),
        feed step (UDPServer.new loopbackResolver) ((filmed ++ [ticking]).take 6)
          = .ok (server₁, outputs₁) ∧
        server₁.Streamed loopbackResolver ((filmed ++ [ticking]).take 6) 1 picture := by
  have hrun : passes (feed step (UDPServer.new loopbackResolver : UDPServer filmingCrates)
      (filmed ++ [ticking]))
      (fun result => decide ((result.2[6]?.map savedOf).map (List.map Prod.fst) = some [1]))
      = true := by decide +kernel
  rcases of_passes hrun with ⟨⟨server, outputs⟩, hfeed, hend⟩
  rcases Option.map_eq_some_iff.mp (of_decide_eq_true hend) with ⟨_, hsaved, hrooms⟩
  rcases Option.map_eq_some_iff.mp hsaved with ⟨output, houtput, rfl⟩
  rcases exists_saved hrooms with ⟨saved, picture, rfl, hmem⟩
  exact ⟨server, outputs, saved, picture, hfeed, houtput, hmem,
    thumbnails_streamed loopbackResolver hfeed houtput hmem⟩

/-- Whoever streams to a room is one session, stamped at some time or after. -/
def StampedSince (room : RoomID) (k : ResourceID) (t : Instant) (roll : Roll) : Prop :=
  ∀ j record, roll j = some record → record.role = .streamer room →
    j = k ∧ ∃ stamp, record.imageTimestamp = some stamp ∧ t ≤ stamp

/-- A thumbnail that is taken is due. -/
theorem due_of_takenBy {env : Env} {k : ResourceID} {record : Record} {stamp : Instant}
    (htaken : server.takenBy env k = true) (hrecord : server.roll k = some record)
    (hstamp : record.imageTimestamp = some stamp) :
    seconds 120 < elapsed stamp (env.clock k) := by
  rcases roll_eq_some.mp hrecord with ⟨session, hsession, rfl⟩
  rw [takenBy, hsession, Option.bind_some] at htaken
  rcases Option.isSome_iff_exists.mp htaken with ⟨⟨streamer, picture⟩, hready⟩
  rcases readyThumbnail_eq_some hready with ⟨hkind, _, hdue⟩
  apply hdue
  simpa only [Session.record, stampOf, hkind] using hstamp

/-- A stamp is not taken back, unless the room is opened anew. -/
theorem step_stampedSince {input : Command × Env} {output : Output}
    (hfiled : server.directory.Filed) (h : server.step input = .ok (server', output))
    {room : RoomID} {k : ResourceID} {t : Instant} (hstamped : StampedSince room k t server.roll)
    (hopen : ∀ j record, server.change input = .enters j record → record.role ≠ .streamer room) :
    StampedSince room k t server'.roll := by
  rw [step_roll hfiled h]
  intro j record hrecord hrole
  rcases server.change_cases input with
    ⟨_, hchange⟩ | ⟨_, hchange | ⟨id, entered, hchange, _⟩ | ⟨id, address, hchange, _⟩⟩
  · -- A tick stamps again only when it is time, which is later.
    simp only [hchange, Change.apply, Option.bind_eq_some_iff, Option.ite_none_left_eq_some,
      Option.some.injEq] at hrecord
    rcases hrecord with ⟨before, hbefore, _, rfl⟩
    by_cases htaken : server.takenBy input.2 j = true
    · rw [Record.stamped, if_pos htaken] at hrole ⊢
      rcases hstamped j before hbefore hrole with ⟨hk, stamp, hstamp, hle⟩
      have hdue := due_of_takenBy htaken hbefore hstamp
      have hlater : stamp ≤ input.2.clock j := by
        rw [elapsed] at hdue
        exact Nat.le_of_lt (Nat.lt_of_sub_pos (Nat.lt_of_le_of_lt (Nat.zero_le _) hdue))
      exact ⟨hk, input.2.clock j, rfl, Nat.le_trans hle hlater⟩
    · rw [Record.stamped, if_neg htaken] at hrole ⊢
      exact hstamped j before hbefore hrole
  · rw [hchange] at hrecord
    exact hstamped j record hrecord hrole
  · simp only [hchange, Change.apply, Function.update_apply] at hrecord
    by_cases hj : j = id
    · rw [if_pos hj, Option.some.injEq] at hrecord
      exact absurd (hrecord ▸ hrole) (hopen id entered hchange)
    · rw [if_neg hj] at hrecord
      exact hstamped j record hrecord hrole
  · simp only [hchange, Change.apply, Function.update_apply] at hrecord
    by_cases hj : j = id
    · rw [if_pos hj, Option.map_eq_some_iff] at hrecord
      rcases hrecord with ⟨before, hbefore, rfl⟩
      exact hstamped j before (hj ▸ hbefore) hrole
    · rw [if_neg hj] at hrecord
      exact hstamped j record hrecord hrole

theorem feed_stampedSince {inputs : List (Command × Env)} {outputs : List Output}
    (hfiled : server.directory.Filed) (h : feed step server inputs = .ok (server', outputs))
    {room : RoomID} {k : ResourceID} {t : Instant} (hstamped : StampedSince room k t server.roll)
    (hopen : ∀ c ∈ observed change step server inputs, ∀ j record, c = .enters j record →
      record.role ≠ .streamer room) : StampedSince room k t server'.roll := by
  induction inputs generalizing server outputs with
  | nil =>
      cases h
      exact hstamped
  | cons input inputs ih =>
      rcases feed_cons_eq_ok.mp h with ⟨server₁, output, outputs', hone, hrest, rfl⟩
      rw [observed_cons hone, List.forall_mem_cons] at hopen
      exact ih (step_filed hfiled hone) hrest (step_stampedSince hfiled hone hstamped hopen.1)
        hopen.2

/-- A room has one streamer. -/
theorem streamer_unique (hcons : server.directory.Consistent) {room : RoomID} {j k : ResourceID}
    {record record' : Record} (hj : server.roll j = some record)
    (hk : server.roll k = some record') (hrole : record.role = .streamer room)
    (hrole' : record'.role = .streamer room) : j = k := by
  rcases roll_eq_some.mp hj with ⟨session, hsession, rfl⟩
  rcases roll_eq_some.mp hk with ⟨session', hsession', rfl⟩
  rcases hcons.owns j _ room (SessionRegistry.directory_sessions hsession) hrole with
    ⟨owned, howned, rfl⟩
  rcases hcons.owns k _ room (SessionRegistry.directory_sessions hsession') hrole' with
    ⟨owned', howned', rfl⟩
  rw [howned, Option.some.injEq] at howned'
  rw [howned']

theorem feed_consistent {inputs : List (Command × Env)} {outputs : List Output}
    (hcons : server.directory.Consistent) (hfresh : Along step FreshIds server inputs)
    (h : feed step server inputs = .ok (server', outputs)) : server'.directory.Consistent := by
  have hkeeps : ∀ (s : UDPServer crates) input s₁ output, s.directory.Consistent →
      s.FreshIds input → s.step input = .ok (s₁, output) → s₁.directory.Consistent := by
    intro s input s₁ output hs hadm hstep
    exact step_consistent hs hadm hstep
  exact feed_along hkeeps hcons hfresh h

/-- A tick leaves a stamp where it takes a picture. -/
theorem stampedSince_of_saved {env : Env} (hcons : server.directory.Consistent)
    {saved : List (RoomID × ImageData)}
    (h : server.step (.runPeriodicChecks, env) = .ok (server', .thumbnails saved)) {room : RoomID}
    {picture : ImageData} (hmem : (room, picture) ∈ saved) :
    ∃ k session streamer, server.sessionRegistry.sessions.lookup k = some session ∧
      readyThumbnail session (env.clock k) = some (streamer, picture) ∧
      session.record.role = .streamer room ∧ StampedSince room k (env.clock k) server'.roll := by
  rcases mem_saved h hmem with ⟨k, session, streamer, hlookup, hready, rfl⟩
  have hrecord := roll_of_lookup hlookup
  have hrole := readyThumbnail_role hready
  have htaken : server.takenBy env k = true := by
    rw [takenBy, hlookup, Option.bind_some, hready]
    rfl
  refine ⟨k, session, streamer, hlookup, hready, hrole, ?_⟩
  rw [step_roll hcons.filed h]
  intro j record hj hjrole
  simp only [change, Change.apply, Option.bind_eq_some_iff, Option.ite_none_left_eq_some,
    Option.some.injEq] at hj
  rcases hj with ⟨before, hbefore, _, rfl⟩
  have hsame : (before.stamped (server.takenBy env j) (env.clock j)).role = before.role := by
    unfold Record.stamped
    split_ifs
    · rfl
    · rfl
  rw [hsame] at hjrole
  have hjk := streamer_unique hcons hbefore hrecord hjrole hrole
  rw [hjk, Record.stamped, if_pos htaken]
  exact ⟨rfl, _, rfl, Nat.le_refl _⟩

/-- Two thumbnails of a room are the last pictures of one session, and more than
    two minutes apart, as long as the room is not opened anew in between. -/
theorem thumbnails_paced (resolver : SDPResolver) {before between : List (Command × Env)}
    {env env' : Env} {server₁ server₂ server₃ server₄ : UDPServer crates}
    {outputs₁ outputs₂ : List Output} {saved saved' : List (RoomID × ImageData)}
    (hbefore : feed step (UDPServer.new resolver) before = .ok (server₁, outputs₁))
    (hfresh : Along step FreshIds (UDPServer.new resolver : UDPServer crates) before)
    (htick : server₁.step (.runPeriodicChecks, env) = .ok (server₂, .thumbnails saved))
    (hbetween : feed step server₂ between = .ok (server₃, outputs₂))
    (htick' : server₃.step (.runPeriodicChecks, env') = .ok (server₄, .thumbnails saved'))
    {room : RoomID} {picture picture' : ImageData} (hmem : (room, picture) ∈ saved)
    (hmem' : (room, picture') ∈ saved')
    (hopen : ∀ c ∈ observed change step server₂ between, ∀ j record, c = .enters j record →
      record.role ≠ .streamer room) :
    ∃ k session streamer session' streamer',
      (server₁.roll k).map Record.role = some (.streamer room) ∧
      server₁.sessionRegistry.sessions.lookup k = some session ∧
      readyThumbnail session (env.clock k) = some (streamer, picture) ∧
      (server₃.roll k).map Record.role = some (.streamer room) ∧
      server₃.sessionRegistry.sessions.lookup k = some session' ∧
      readyThumbnail session' (env'.clock k) = some (streamer', picture') ∧
      seconds 120 < elapsed (env.clock k) (env'.clock k) := by
  have hcons := feed_consistent (new_consistent resolver) hfresh hbefore
  rcases stampedSince_of_saved hcons htick hmem with
    ⟨k, session₁, streamer₁, hlookup₁, hready₁, hrole, hstamped⟩
  have hlater := feed_stampedSince (step_filed hcons.filed htick) hbetween hstamped hopen
  rcases mem_saved htick' hmem' with ⟨j, session, streamer, hlookup, hready, rfl⟩
  have hjrecord := roll_of_lookup hlookup
  rcases hlater j session.record hjrecord (readyThumbnail_role hready) with
    ⟨rfl, stamp, hstamp, hle⟩
  have htaken : server₃.takenBy env' j = true := by
    rw [takenBy, hlookup, Option.bind_some, hready]
    rfl
  have hdue := due_of_takenBy htaken hjrecord hstamp
  refine ⟨j, session₁, streamer₁, session, streamer, ?_, hlookup₁, hready₁, ?_, hlookup, hready, ?_⟩
  · rw [roll_of_lookup hlookup₁, Option.map_some, hrole]
  · rw [hjrecord]
    exact congrArg some (readyThumbnail_role hready)
  exact Nat.lt_of_lt_of_le hdue (Nat.sub_le_sub_left hle _)

/-- Two minutes and a second on. -/
def later : Env := { drawing 0 0 with now := seconds 121, clock := fun _ => seconds 121 }

/-- A packet that keeps the streamer from being silent. -/
def lastPacket : Command × Env := ((videoPacket 0x60 4).1, later)

/-- Hearing of a session enters none. -/
theorem ofHearing_ne_enters (now : Instant) (found : Option (ResourceID × Option SocketAddr))
    {j : ResourceID} {record : Record} : Change.ofHearing now found ≠ .enters j record := by
  intro h
  rcases found with _ | ⟨id, address⟩
  · cases h
  · cases h

/-- The streamer that was filmed has another picture saved after two minutes. -/
theorem thumbnails_paced_filmed :
    ∃ (server₁ server₂ server₃ server₄ : UDPServer filmingCrates) (outputs₁ outputs₂ : List Output)
      (saved saved' : List (RoomID × ImageData)) (picture picture' : ImageData),
      feed step (UDPServer.new loopbackResolver) filmed = .ok (server₁, outputs₁) ∧
      server₁.step ticking = .ok (server₂, .thumbnails saved) ∧
      feed step server₂ [lastPacket] = .ok (server₃, outputs₂) ∧
      server₃.step (.runPeriodicChecks, later) = .ok (server₄, .thumbnails saved') ∧
      (1, picture) ∈ saved ∧ (1, picture') ∈ saved' ∧
      ∃ k session streamer session' streamer',
        (server₁.roll k).map Record.role = some (.streamer 1) ∧
        server₁.sessionRegistry.sessions.lookup k = some session ∧
        readyThumbnail session ((drawing 0 0).clock k) = some (streamer, picture) ∧
        (server₃.roll k).map Record.role = some (.streamer 1) ∧
        server₃.sessionRegistry.sessions.lookup k = some session' ∧
        readyThumbnail session' (later.clock k) = some (streamer', picture') ∧
        seconds 120 < elapsed ((drawing 0 0).clock k) (later.clock k) := by
  have hrun : passes (feed step (UDPServer.new loopbackResolver : UDPServer filmingCrates) filmed)
      (fun result => passes (result.1.step ticking) fun first =>
        passes (feed step first.1 [lastPacket]) fun result' =>
        passes (result'.1.step (.runPeriodicChecks, later)) fun second =>
        decide ((savedOf first.2).map Prod.fst = [1]) &&
        decide ((savedOf second.2).map Prod.fst = [1])) = true := by decide +kernel
  rcases of_passes hrun with ⟨⟨server₁, outputs₁⟩, hbefore, hrest⟩
  rcases of_passes hrest with ⟨⟨server₂, first⟩, htick, hrest⟩
  rcases of_passes hrest with ⟨⟨server₃, outputs₂⟩, hbetween, hrest⟩
  rcases of_passes hrest with ⟨⟨server₄, second⟩, htick', hend⟩
  rw [Bool.and_eq_true, decide_eq_true_eq, decide_eq_true_eq] at hend
  -- Both ticks save a picture of the room.
  rcases exists_saved hend.1 with ⟨saved, picture, rfl, hmem⟩
  rcases exists_saved hend.2 with ⟨saved', picture', rfl, hmem'⟩
  have hfresh : Along step FreshIds (UDPServer.new loopbackResolver : UDPServer filmingCrates)
      filmed := by
    have hunused : ∀ id, (SessionRegistry.new : SessionRegistry filmingCrates).Unused id :=
      fun id => ⟨rfl, rfl, fun k session viewer h => by cases h⟩
    exact ⟨⟨hunused 1, hunused 2⟩, fun _ _ _ => ⟨trivial, fun _ _ _ => ⟨trivial, fun _ _ _ =>
      ⟨trivial, fun _ _ _ => ⟨trivial, fun _ _ _ => ⟨trivial, fun _ _ _ => trivial⟩⟩⟩⟩⟩⟩
  have hopen : ∀ c ∈ observed change step server₂ [lastPacket], ∀ j record,
      c = .enters j record → record.role ≠ .streamer 1 := by
    rcases feed_cons_eq_ok.mp hbetween with ⟨_, _, _, hone, _, _⟩
    rw [observed_cons hone, observed, List.forall_mem_singleton]
    intro j record henters
    -- A packet is heard at most.
    exact absurd henters (ofHearing_ne_enters _ _)
  exact ⟨server₁, server₂, server₃, server₄, outputs₁, outputs₂, saved, saved', picture, picture',
    hbefore, htick, hbetween, htick', hmem, hmem',
    thumbnails_paced loopbackResolver hbefore hfresh htick hbetween htick' hmem hmem' hopen⟩

end UDPServer

end SigmaMedia
