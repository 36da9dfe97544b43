import SigmaMedia.Base.Trace
import SigmaMedia.Theory.Expects
import SigmaMedia.Theory.Negotiation
import SigmaMedia.Theory.Registry.Refine

/-!
# The Maps of the Registry Agree

As long as ids that are drawn are new, the four maps never contradict each
other: sessions are filed under their ids, rooms and streamers belong to each
other one to one, and a room lists exactly the viewers that watch it. Viewers
whose room went away with its streamer stay behind and belong to no room.

This is what the calls of `expect` on the registry rely on, and the step
theorems here say so: in such a state no command, whatever comes with it,
stops at one of them. A tick needs the least: it returns whenever sessions are
filed under their ids.

## Main definitions

* `Coherent`: The maps agree.
* `Unused`, `FreshIds`: Ids that are new where they are drawn.
* `registryExpects`: What the server expects of its registry.
* `liveViewers`: The viewers of a room, counted among the sessions.

## Theorems

* `coherent_iff`: Agreement is consistency of the directory.
* `step_consistent`: Every command preserves it.
* `runPeriodicChecks_returns`: A tick always returns.
* `step_avoids`: No command stops at an `expect` on the registry.
* `reachable_coherent`: Both, and the viewer counts, in every reachable state.
-/

namespace SigmaMedia

open Bytes Exec Net Rtp Sdp Stun Text Thumbnail Trace

variable {crates : Crates}

namespace SessionRegistry

/-- The maps agree. -/
structure Coherent (registry : SessionRegistry crates) : Prop where
  /-- Sessions are filed under their ids. -/
  session_id : ∀ k session, registry.sessions.lookup k = some session → session.id = k
  /-- A room is owned by a live streamer that owns it. -/
  room_owner : ∀ r room, registry.rooms.lookup r = some room →
    room.id = r ∧ ∃ session streamer, registry.sessions.lookup room.ownerId = some session ∧
      session.connectionType = .streamer streamer ∧ streamer.ownedRoomId = r
  /-- A live streamer's room exists and names it as its owner. -/
  streamer_room : ∀ k session streamer, registry.sessions.lookup k = some session →
    session.connectionType = .streamer streamer →
      ∃ room, registry.rooms.lookup streamer.ownedRoomId = some room ∧ room.ownerId = k
  /-- A room lists exactly the live viewers that watch it. -/
  room_viewers : ∀ r room, registry.rooms.lookup r = some room → ∀ k, k ∈ room.viewerIds ↔
    ∃ session viewer, registry.sessions.lookup k = some session ∧
      session.connectionType = .viewer viewer ∧ viewer.roomId = r

/-- An id that no session, no room and no viewer's room has. -/
structure Unused (registry : SessionRegistry crates) (id : UInt32) : Prop where
  session : registry.sessions.lookup id = none
  room : registry.rooms.lookup id = none
  viewer : ∀ k session viewer, registry.sessions.lookup k = some session →
    session.connectionType = .viewer viewer → viewer.roomId ≠ id

/-- Whether a session watches a room. -/
def watches (session : Session crates) (r : RoomID) : Bool :=
  match session.connectionType with
  | .viewer viewer => viewer.roomId = r
  | .streamer _ => false

/-- The viewers of a room, counted among the sessions. -/
def liveViewers (registry : SessionRegistry crates) (r : RoomID) : Finset ResourceID :=
  registry.sessions.keys.filter fun k => (registry.sessions.lookup k).any fun session =>
    watches session r

variable {registry : SessionRegistry crates}

theorem role_eq_streamer {kind : ConnectionType crates} {r : RoomID} :
    kind.role = .streamer r ↔ ∃ streamer, kind = .streamer streamer ∧ streamer.ownedRoomId = r := by
  cases kind with
  | viewer v => simp only [ConnectionType.role, reduceCtorEq, false_and, exists_false]
  | streamer s =>
      simp only [ConnectionType.role, Role.streamer.injEq, ConnectionType.streamer.injEq,
        exists_eq_left']

theorem role_eq_viewer {kind : ConnectionType crates} {r : RoomID} :
    kind.role = .viewer r ↔ ∃ viewer, kind = .viewer viewer ∧ viewer.roomId = r := by
  cases kind with
  | viewer v =>
      simp only [ConnectionType.role, Role.viewer.injEq, ConnectionType.viewer.injEq,
        exists_eq_left']
  | streamer s => simp only [ConnectionType.role, reduceCtorEq, false_and, exists_false]

/-- What the directory has at an id is the outline of what the registry has. -/
theorem directory_sessions_eq_some {k : ResourceID} {o : Outline} :
    registry.directory.sessions k = some o ↔
      ∃ session, registry.sessions.lookup k = some session ∧ session.outline = o := by
  simp only [directory, Option.map_eq_some_iff]

/-- A role in the directory is a kind of session in the registry. -/
theorem exists_role_iff {k : ResourceID} {role : Role} :
    (∃ o, registry.directory.sessions k = some o ∧ o.role = role) ↔
      ∃ session, registry.sessions.lookup k = some session ∧
        session.connectionType.role = role := by
  constructor
  · intro h
    rcases h with ⟨o, ho, hrole⟩
    rcases directory_sessions_eq_some.mp ho with ⟨session, hsession, rfl⟩
    exact ⟨session, hsession, hrole⟩
  · intro h
    rcases h with ⟨session, hsession, hrole⟩
    exact ⟨session.outline, directory_sessions hsession, hrole⟩

/-- The maps agree exactly when the directory is consistent. -/
theorem coherent_iff : registry.Coherent ↔ registry.directory.Consistent := by
  constructor
  · -- Roles and ids of outlines are those of the sessions.
    intro h
    refine ⟨?_, ?_, ?_, ?_⟩
    · intro k o ho
      rcases directory_sessions_eq_some.mp ho with ⟨session, hsession, rfl⟩
      exact h.session_id k session hsession
    · intro r room hroom
      rcases h.room_owner r room hroom with ⟨hid, session, streamer, hsession, hkind, howned⟩
      exact ⟨hid, exists_role_iff.mpr ⟨session, hsession,
        role_eq_streamer.mpr ⟨streamer, hkind, howned⟩⟩⟩
    · intro k o r ho hrole
      rcases directory_sessions_eq_some.mp ho with ⟨session, hsession, rfl⟩
      rcases role_eq_streamer.mp hrole with ⟨streamer, hkind, rfl⟩
      exact h.streamer_room k session streamer hsession hkind
    · intro r room hroom k
      rw [h.room_viewers r room hroom k, exists_role_iff]
      simp only [role_eq_viewer]
      exact ⟨fun ⟨session, viewer, hs, hv⟩ => ⟨session, hs, viewer, hv⟩,
        fun ⟨session, hs, viewer, hv⟩ => ⟨session, viewer, hs, hv⟩⟩
  · intro h
    refine ⟨?_, ?_, ?_, ?_⟩
    · intro k session hsession
      exact h.filed k session.outline (directory_sessions hsession)
    · intro r room hroom
      rcases h.owned r room hroom with ⟨hid, howner⟩
      rcases exists_role_iff.mp howner with ⟨session, hsession, hrole⟩
      rcases role_eq_streamer.mp hrole with ⟨streamer, hkind, howned⟩
      exact ⟨hid, session, streamer, hsession, hkind, howned⟩
    · intro k session streamer hsession hkind
      exact h.owns k session.outline streamer.ownedRoomId (directory_sessions hsession)
        (role_eq_streamer.mpr ⟨streamer, hkind, rfl⟩)
    · intro r room hroom k
      rw [h.listed r room hroom k, exists_role_iff]
      simp only [role_eq_viewer]
      exact ⟨fun ⟨session, hs, viewer, hv⟩ => ⟨session, viewer, hs, hv⟩,
        fun ⟨session, viewer, hs, hv⟩ => ⟨session, hs, viewer, hv⟩⟩

theorem unused_iff {id : UInt32} : registry.Unused id ↔ registry.directory.Fresh id := by
  constructor
  · intro h
    refine ⟨by simp only [directory, h.session, Option.map_none], h.room, ?_⟩
    intro k o ho hrole
    rcases directory_sessions_eq_some.mp ho with ⟨session, hsession, rfl⟩
    rcases role_eq_viewer.mp hrole with ⟨viewer, hkind, hroom⟩
    exact h.viewer k session viewer hsession hkind hroom
  · intro h
    refine ⟨Option.map_eq_none_iff.mp h.session, h.room, ?_⟩
    intro k session viewer hsession hkind hroom
    exact h.viewer k session.outline (directory_sessions hsession)
      (role_eq_viewer.mpr ⟨viewer, hkind, hroom⟩)

/-- A room counts its viewers. -/
theorem Coherent.card_viewerIds (h : registry.Coherent) {r : RoomID} {room : Room}
    (hroom : registry.rooms.lookup r = some room) :
    room.viewerIds.card = (registry.liveViewers r).card := by
  -- The ids in the room are those of its live viewers.
  congr 1
  ext k
  rw [h.room_viewers r room hroom k, liveViewers, Finset.mem_filter, Finmap.mem_keys,
    Finmap.mem_iff, Option.any_eq_true]
  constructor
  · intro h
    rcases h with ⟨session, viewer, hsession, hkind, hr⟩
    exact ⟨⟨session, hsession⟩, session, hsession, by simp only [watches, hkind, hr, decide_true]⟩
  · intro h
    rcases h with ⟨_, session, hsession, hwatches⟩
    unfold watches at hwatches
    split at hwatches
    · rename_i viewer hkind
      exact ⟨session, viewer, hsession, hkind, of_decide_eq_true hwatches⟩
    · cases hwatches

end SessionRegistry

/-- What the server expects of its registry. -/
def registryExpects : List String :=
  ["Session should be established in order to remove it", "Target room should be present",
    "Streamer room should exist", "Streamer session should be established",
    "Viewer session should be established if viewer id belongs to a room"]

namespace UDPServer

/-- The ids drawn for a command are new. -/
def FreshIds (server : UDPServer crates) (input : Command × Env) : Prop :=
  match input.1 with
  | .addStreamer _ => server.sessionRegistry.Unused input.2.roomId ∧
      server.sessionRegistry.Unused input.2.resourceId
  | .addViewer _ _ => server.sessionRegistry.Unused input.2.resourceId
  | _ => True

variable {server server' : UDPServer crates}

/-- Every command preserves consistency. -/
theorem step_consistent {input : Command × Env} {output : Output}
    (hcons : server.directory.Consistent) (hfresh : server.FreshIds input)
    (h : server.step input = .ok (server', output)) : server'.directory.Consistent := by
  rcases input with ⟨command, env⟩
  cases command with
  | handlePacket packet remote =>
      simp only [step, bind_eq_ok, Prod.exists, pure_eq_ok, Except.ok.injEq, Prod.mk.injEq] at h
      rcases h with ⟨_, sent, hpacket, rfl, _⟩
      rw [processPacket_directory hcons.filed hpacket]
      split
      · exact hcons
      · -- A nomination leaves roles and rooms.
        rename_i id session hnominee
        have hsession := (nominee_eq_some hnominee).1
        exact hcons.nominate (SessionRegistry.directory_sessions hsession) remote
  | addStreamer sdpOffer =>
      rcases addStreamer_directory h with hsame | ⟨username, _, hadd⟩
      · rw [hsame]
        exact hcons
      · rw [hadd]
        exact hcons.addStreamer (SessionRegistry.unused_iff.mp hfresh.1)
          (SessionRegistry.unused_iff.mp hfresh.2)
  | addViewer sdpOffer targetId =>
      rcases addViewer_directory h with hsame | ⟨username, room, _, hroom, hadd⟩
      · rw [hsame]
        exact hcons
      · rw [hadd]
        exact hcons.addViewer hroom (SessionRegistry.unused_iff.mp hfresh)
  | sendRoomsStatus =>
      cases h
      exact hcons
  | runPeriodicChecks =>
      -- A sweep is a number of removals.
      exact (runPeriodicChecks_directory h).preserves (fun _ _ _ hd ho => hd.remove ho) hcons

/-- Removing sessions that are there, each once, returns. -/
theorem removeStale_returns {registry : SessionRegistry crates} {env : Env}
    {sessions : List (ResourceID × Instant)} (hnodup : (sessions.map Prod.fst).Nodup)
    (hlive : ∀ id ∈ sessions.map Prod.fst, id ∈ registry.sessions) :
    Returns (removeStale registry env sessions) := by
  induction sessions generalizing registry with
  | nil => exact returns_ok _
  | cons entry rest ih =>
      rcases entry with ⟨id, ttl⟩
      rw [List.map_cons, List.nodup_cons] at hnodup
      have hrest : ∀ k ∈ rest.map Prod.fst, k ∈ registry.sessions :=
        fun k hk => hlive k (List.mem_cons_of_mem _ hk)
      simp only [removeStale]
      split
      · rcases Finmap.mem_iff.mp (hlive id List.mem_cons_self) with ⟨session, hsession⟩
        have hremoved : ∀ registry', registry.removeSession id = .ok registry' →
            registry'.sessions = registry.sessions.erase id := by
          intro registry' hremove
          simp only [SessionRegistry.removeSession, bind_eq_ok, expect_eq_ok, pure_eq_ok,
            Except.ok.injEq] at hremove
          rcases hremove with ⟨_, _, rfl⟩
          rfl
        rcases hremove : registry.removeSession id with p | registry'
        · rw [SessionRegistry.removeSession, hsession] at hremove
          cases hremove
        · rw [ok_bind]
          apply ih hnodup.2
          intro k hk
          -- The others are still there: the id does not come again.
          rw [hremoved registry' hremove, Finmap.mem_erase]
          refine ⟨?_, hrest k hk⟩
          rintro rfl
          exact hnodup.1 hk
      · exact ih hnodup.2 hrest

/-- A tick returns whenever sessions are filed under their ids. -/
theorem runPeriodicChecks_returns (hfiled : server.directory.Filed) (env : Env) :
    Returns (server.runPeriodicChecks env) := by
  simp only [runPeriodicChecks]
  rcases hsaved : saveThumbnails server.sessionRegistry env
    (env.order.entries server.sessionRegistry.sessions) with ⟨registry, saved⟩
  have hdir : registry.directory = server.directory := by
    have hsame : (saveThumbnails server.sessionRegistry env
        (env.order.entries server.sessionRegistry.sessions)).1.directory
          = server.sessionRegistry.directory :=
      saveThumbnails_directory fun id session hmem =>
        SessionRegistry.directory_sessions (Enumeration.mem_entries.mp hmem)
    rw [hsaved] at hsame
    exact hsame
  -- The ids that are collected are the keys.
  have hids : ((registry.getAllSessions env.order).map fun session =>
      (session.id, session.ttl)).map Prod.fst
        = (env.order.entries registry.sessions).map Prod.fst := by
    rw [SessionRegistry.getAllSessions, List.map_map, List.map_map]
    apply List.map_congr_left
    rintro ⟨k, session⟩ hmem
    rw [← hdir] at hfiled
    exact hfiled k _ (SessionRegistry.directory_sessions (Enumeration.mem_entries.mp hmem))
  have hstale : Returns (removeStale registry env ((registry.getAllSessions env.order).map
      fun session => (session.id, session.ttl))) := by
    apply removeStale_returns
    · rw [hids]
      exact Enumeration.nodup_entries env.order registry.sessions
    · rw [hids]
      intro id hid
      rcases List.mem_map.mp hid with ⟨⟨k, session⟩, hmem, rfl⟩
      exact Finmap.mem_iff.mpr ⟨session, Enumeration.mem_entries.mp hmem⟩
  rcases hstale with ⟨registry', hstale⟩
  rw [hstale]
  exact returns_ok _

/-- A viewer is sent to if the sender is found by its address and the viewer
    by its id. -/
theorem forward_avoids {remote : SocketAddr} {id k : ResourceID} {o o' : Outline}
    (haddress : server.directory.addresses remote = some k)
    (hsender : server.directory.sessions k = some o)
    (hviewer : server.directory.sessions id = some o') :
    Avoids registryExpects (server.forward remote id) := by
  rcases SessionRegistry.directory_sessions_eq_some.mp hsender with ⟨sender, hsender, _⟩
  rcases SessionRegistry.directory_sessions_eq_some.mp hviewer with ⟨viewer, hviewer, _⟩
  -- Sender and viewer are both there, so neither look-up fails.
  have hfound := SessionRegistry.getSessionByAddress_eq_some.mpr ⟨haddress, hsender⟩
  unfold forward
  refine (avoids_expect_of_some hfound).bind ?_
  rintro ⟨_, streamerSession⟩ _
  refine (avoids_expect_of_some hviewer).bind fun viewerSession _ => ?_
  split
  · exact avoids_ok _
  · split
    · exact remapRtpHeader_avoids.bind fun out _ => (avoids_ok _).ite (avoids_ok _)
    · exact avoids_ok _

theorem forwardAll_avoids {remote : SocketAddr} {ids : List ResourceID} {k : ResourceID}
    {o : Outline} (haddress : server.directory.addresses remote = some k)
    (hsender : server.directory.sessions k = some o)
    (hviewers : ∀ id ∈ ids, ∃ o', server.directory.sessions id = some o') :
    Avoids registryExpects (server.forwardAll remote ids) := by
  induction ids generalizing server with
  | nil => exact avoids_ok _
  | cons id ids ih =>
      rcases hviewers id List.mem_cons_self with ⟨o', ho'⟩
      refine (forward_avoids haddress hsender ho').bind ?_
      rintro ⟨server₁, sent⟩ hone
      -- One copy leaves the directory as it was.
      have hdir := forward_directory hone
      refine Avoids.bind (ih (by rw [hdir]; exact haddress) (by rw [hdir]; exact hsender) ?_)
        fun _ _ => avoids_ok _
      intro id' hid'
      rw [hdir]
      exact hviewers id' (List.mem_cons_of_mem _ hid')

theorem continueHandshake_avoids {id : ResourceID} {client : Client crates.dtls}
    {mid : MidHandshakeSslStream crates.dtls} :
    Avoids registryExpects (server.continueHandshake id client mid) :=
  Client.readPacket_avoids.bind fun _ _ => avoids_ok _

theorem handleMedia_avoids {remote : SocketAddr} {id : ResourceID} {session : Session crates}
    {client : Client crates.dtls} {streamer : Streamer crates}
    {stream : EstablishedStream crates.dtls} {order : Enumeration ResourceID}
    (hcons : server.directory.Consistent) (haddress : server.directory.addresses remote = some id)
    (hholds : server.Holds id client (.streamer streamer.ownedRoomId)) :
    Avoids registryExpects
      (server.handleMedia remote id session client streamer stream order) := by
  have hsameDirectory := extracted_unprotected_directory hholds stream
  rcases hholds with ⟨o, ho, _, hrole⟩
  rcases hcons.owns id o streamer.ownedRoomId ho hrole with ⟨room, hroom, _⟩
  unfold handleMedia
  refine Avoids.ite ?_ (avoids_ok _)
  refine watch_avoids.bind fun extractor _ => ?_
  refine (avoids_expect_of_some hroom).bind fun room' hroom' => ?_
  have hsame : room' = room := by
    rw [expect_eq_ok] at hroom'
    exact Option.some.inj (hroom'.symm.trans hroom)
  have hdir' := hsameDirectory extractor
  rw [hsame]
  -- Who is found by address and who is listed is read off the same directory.
  rw [← hdir'] at haddress ho
  refine forwardAll_avoids haddress ho fun viewer hviewer => ?_
  rw [Enumeration.mem] at hviewer
  rcases (hcons.listed _ room hroom viewer).mp hviewer with ⟨o', ho', _⟩
  rw [← hdir'] at ho'
  exact ⟨o', ho'⟩

theorem handleOtherPackets_avoids {remote : SocketAddr} {now : Instant}
    {order : Enumeration ResourceID} (hcons : server.directory.Consistent) :
    Avoids registryExpects (server.handleOtherPackets remote now order) := by
  unfold handleOtherPackets
  split
  · exact avoids_ok _
  · rename_i id session hsender
    rcases SessionRegistry.getSessionByAddress_eq_some.mp hsender with ⟨haddress, hlookup⟩
    split
    · exact avoids_ok _
    · rename_i client hclient
      have htouch := directory_touch server id now
      have hholds := holds_touch hlookup hclient now
      simp only []
      split
      · split
        · exact continueHandshake_avoids
        · exact avoids_ok _
      · rename_i streamer hkind
        split
        · exact continueHandshake_avoids
        · rw [hkind] at hholds
          -- Only the packets of a streamer go on to the rooms, and these are as they
          -- were before the stamp.
          refine handleMedia_avoids ?_ ?_ hholds
          · rw [htouch]
            exact hcons
          · rw [htouch]
            exact haddress
        · exact avoids_error fun _ h => by cases h

theorem handleStunPacket_avoids {remote : SocketAddr} {packet : ICEStunMessageType}
    {now : Instant} : Avoids registryExpects (server.handleStunPacket remote packet now) := by
  -- Its expects have messages of their own.
  have hlive : "Failed to create STUN success response" ∉ registryExpects := by decide
  have hnominated : "Should create STUN success response" ∉ registryExpects := by decide
  have hclient : "Should create a Client" ∉ registryExpects := by decide
  unfold handleStunPacket
  split
  · split
    · exact avoids_ok _
    · exact (stunResponse_avoids hlive).bind fun _ _ => avoids_ok _
  · split
    · exact avoids_ok _
    · refine (avoids_unwrap _).bind fun _ _ => ?_
      refine (nominate_avoids hclient).bind fun _ _ => ?_
      refine (avoids_unwrap _).bind fun _ _ => ?_
      exact (stunResponse_avoids hnominated).bind fun _ _ => avoids_ok _

theorem respond_avoids {env : Env} {answer : Option SDP} :
    Avoids registryExpects (server.respond env answer) := by
  have hreply : "Response channel should remain open" ∉ registryExpects := by decide
  unfold respond
  refine (avoids_ok _).ite ?_
  intro m hm h
  cases h
  exact hreply hm

theorem addStreamer_avoids {sdpOffer : Text} {env : Env} :
    Avoids registryExpects (server.addStreamer sdpOffer env) := by
  have hdecoder : "OpenH264 decoder should initialize" ∉ registryExpects := by decide
  unfold addStreamer
  split
  · exact respond_avoids
  · refine Avoids.bind ?_ fun _ _ => respond_avoids
    unfold SessionRegistry.addStreamer Session.newStreamer ThumbnailExtractor.new
    refine Avoids.bind ?_ fun _ _ => avoids_ok _
    refine Avoids.bind ?_ fun _ _ => avoids_ok _
    exact (avoids_expect_of_notMem hdecoder _).bind fun _ _ => avoids_ok _

/-- The room a viewer is added to was looked up before the offer was
    answered. -/
theorem addViewer_avoids {sdpOffer : Text} {targetId : RoomID} {env : Env} :
    Avoids registryExpects (server.addViewer sdpOffer targetId env) := by
  simp only [addViewer]
  split
  · exact respond_avoids
  · rename_i mediaSession hfound
    simp only [Option.bind_eq_bind, Option.bind_eq_some_iff] at hfound
    rcases hfound with ⟨_, ⟨room, hroom, _⟩, _⟩
    refine Avoids.bind ?_ fun _ _ => respond_avoids
    exact (avoids_expect_of_some hroom).bind fun _ _ => avoids_ok _

/-- No command stops at an `expect` on the registry. -/
theorem step_avoids (hcons : server.directory.Consistent) (input : Command × Env) :
    Avoids registryExpects (server.step input) := by
  rcases input with ⟨command, env⟩
  -- One lemma for each command. A tick does not fail at all.
  cases command with
  | handlePacket packet remote =>
      refine Avoids.bind ?_ fun _ _ => avoids_ok _
      refine getStunPacket_avoids.bind fun found _ => ?_
      cases found with
      | none => exact handleOtherPackets_avoids hcons
      | some message => exact handleStunPacket_avoids
  | addStreamer sdpOffer => exact addStreamer_avoids
  | addViewer sdpOffer targetId => exact addViewer_avoids
  | sendRoomsStatus => exact avoids_ok _
  | runPeriodicChecks => exact (runPeriodicChecks_returns hcons.filed env).avoids

/-- At the start there is nobody. -/
theorem new_consistent (resolver : SDPResolver) :
    (UDPServer.new resolver : UDPServer crates).directory.Consistent := by
  refine ⟨?_, ?_, ?_, ?_⟩
  · intro k o h
    cases h
  · intro r room h
    cases h
  · intro k o r h _
    cases h
  · intro r room h
    cases h

/-- A notification has every room once it is there, with the number of its
    viewers among the sessions. -/
theorem mem_roomsStatus (h : server.sessionRegistry.Coherent) {env : Env} {status : RoomStatus} :
    status ∈ server.roomsStatus env ↔
      (∃ room, server.sessionRegistry.rooms.lookup status.id = some room) ∧
        status.viewerCount = (server.sessionRegistry.liveViewers status.id).card := by
  simp only [roomsStatus, SessionRegistry.getRooms, List.map_map, List.mem_map, Prod.exists,
    Enumeration.mem_entries, Function.comp_apply]
  -- The rooms that are listed are the rooms there are.
  constructor
  · intro h
    rcases h with ⟨r, room, hroom, rfl⟩
    have hid : room.id = r := (h.room_owner r room hroom).1
    rw [hid]
    exact ⟨⟨room, hroom⟩, h.card_viewerIds hroom⟩
  · intro h
    rcases h with ⟨⟨room, hroom⟩, hcount⟩
    refine ⟨status.id, room, hroom, ?_⟩
    rw [h.card_viewerIds hroom, ← hcount, (h.room_owner status.id room hroom).1]

/-- In every reachable state the maps agree, no command stops at an `expect`
    on the registry, and viewers are counted right. -/
theorem reachable_coherent (resolver : SDPResolver) {server : UDPServer crates}
    (h : Reachable step FreshIds (UDPServer.new resolver) server) :
    server.sessionRegistry.Coherent ∧
      (∀ input, Avoids registryExpects (server.step input)) ∧
      ∀ env, ∃ rooms, server.step (.sendRoomsStatus, env) = .ok (server, .notification rooms) ∧
        ∀ status, status ∈ rooms ↔
          (∃ room, server.sessionRegistry.rooms.lookup status.id = some room) ∧
            status.viewerCount = (server.sessionRegistry.liveViewers status.id).card := by
  have hcons : server.directory.Consistent := by
    apply h.invariant fun s => s.directory.Consistent
    · exact new_consistent resolver
    · intro s input s₁ output hinv hfresh hstep
      exact step_consistent hinv hfresh hstep
  have hcoherent := SessionRegistry.coherent_iff.mpr hcons
  exact ⟨hcoherent, step_avoids hcons, fun env => ⟨_, rfl, fun _ => mem_roomsStatus hcoherent⟩⟩

/-- Crates that set everything up and leave every packet as it is. -/
def plainCrates : Crates where
  dtls :=
    { Handshake := Unit, Session := Unit, Inbound := Unit, Outbound := Unit,
      accept := fun packets => ⟨.wouldBlock (), packets, []⟩,
      handshake := fun _ _ => ⟨.ok (), [], []⟩,
      sessionPair := fun _ => some ((), ()),
      unprotect := fun _ packet => ⟨(), packet, true⟩,
      protect := fun _ packet => ⟨(), packet, true⟩ }
  h264 :=
    { Decoder := Unit, new := some (), nalUnits := fun unit => [unit],
      decode := fun _ _ => ((), .ok none) }
  digests := { hmacSha1 := fun _ _ => ⟨List.replicate 20 0, rfl⟩, crc32 := fun _ => 0 }

/-- A command that comes at the start of the clock, with the given ids. -/
def drawing (roomId resourceId : UInt32) : Env :=
  { draws := fixedDraws, roomId, resourceId, now := 0, clock := fun _ => 0,
    order := .byNumber UInt32.toNat fun _ _ h => UInt32.toNat_inj.mp h, replyOpen := true }

/-- Nothing is in use at the start, and only what was drawn once a streamer
    has joined. -/
theorem fresh_after_streamer {resolver : SDPResolver} {server : UDPServer crates} {sdpOffer : Text}
    {env : Env} {output : Output} {id : UInt32}
    (h : (UDPServer.new resolver).step (.addStreamer sdpOffer, env) = .ok (server, output))
    (hroom : id ≠ env.roomId) (hsession : id ≠ env.resourceId) : server.directory.Fresh id := by
  rcases addStreamer_directory h with hsame | ⟨username, _, hadd⟩
  · rw [hsame]
    exact ⟨rfl, rfl, fun k o ho => by cases ho⟩
  · rw [hadd]
    -- Only the two ids that were drawn are in use, and nobody watches.
    refine ⟨?_, ?_, ?_⟩
    · simp only [Directory.addStreamer, Function.update_apply, if_neg hsession]
      rfl
    · simp only [Directory.addStreamer, Function.update_apply, if_neg hroom]
      rfl
    · intro k o ho hrole
      simp only [Directory.addStreamer, Function.update_apply] at ho
      split at ho
      · cases ho
        cases hrole
      · cases ho

/-- A streamer and a viewer of its room join. -/
theorem reachable_coherent_one_viewer :
    ∃ server : UDPServer plainCrates,
      Reachable step FreshIds (UDPServer.new loopbackResolver) server ∧
      (server.sessionRegistry.rooms.lookup 1).map Room.viewerIds = some {4} ∧
      server.sessionRegistry.Coherent ∧ ∀ input, Avoids registryExpects (server.step input) := by
  have hrun : passes (feed step (UDPServer.new loopbackResolver : UDPServer plainCrates)
      [(.addStreamer (offerText "user".toList "sendonly".toList "111".toList "96".toList),
          drawing 1 2),
        (.addViewer (offerText "peer".toList "recvonly".toList "109".toList "126".toList) 1,
          drawing 3 4)])
      (fun result => decide ((result.1.sessionRegistry.rooms.lookup 1).map Room.viewerIds
        = some {4})) = true := by decide +kernel
  rcases of_passes hrun with ⟨⟨server, outputs⟩, hfeed, hviewers⟩
  rcases feed_cons_eq_ok.mp hfeed with ⟨server₁, _, _, hfirst, hrest, _⟩
  rcases feed_cons_eq_ok.mp hrest with ⟨server₂, _, _, hsecond, hend, _⟩
  simp only [feed, Except.ok.injEq, Prod.mk.injEq] at hend
  rcases hend with ⟨rfl, _⟩
  -- Nothing is in use at the start.
  have hunused : ∀ id, (SessionRegistry.new : SessionRegistry plainCrates).Unused id :=
    fun id => ⟨rfl, rfl, fun k session viewer h => by cases h⟩
  have hreach₁ : Reachable step FreshIds (UDPServer.new loopbackResolver) server₁ := by
    refine .next .init ?_ hfirst
    exact ⟨hunused 1, hunused 2⟩
  have hfresh : server₁.directory.Fresh 4 :=
    fresh_after_streamer hfirst (by decide) (by decide)
  have hreach : Reachable step FreshIds (UDPServer.new loopbackResolver) server₂ := by
    refine .next hreach₁ ?_ hsecond
    exact SessionRegistry.unused_iff.mpr hfresh
  have hresult := reachable_coherent loopbackResolver hreach
  exact ⟨server₂, hreach, of_decide_eq_true hviewers, hresult.1, hresult.2.1⟩

end UDPServer

end SigmaMedia
