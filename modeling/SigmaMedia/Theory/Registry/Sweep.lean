import SigmaMedia.Theory.Registry.Routing

/-!
# Sweeping in Any Order

A tick goes over the sessions in the order the hash map gives them, and
removes the silent ones on the way. Removals touch all four maps, and two of
them may want to write the same entry: two sessions share an address or a
username, a viewer leaves a room whose owner leaves too. In each of these
cases the second write finds what the first one left and both orders end
alike, so the registry that comes out is a matter of who was silent and of
nothing else.

`without` is a removal as a function of the session that goes. It commutes
with itself for any two sessions, whatever registry it starts from, and a
sweep is a fold of it.

The same tick stamps the sessions whose thumbnail it takes, before it looks
for silent ones. That is the only change to a session that stays.

## Main definitions

* `without`: A registry without a session.
* `stamped`: A session whose thumbnail was taken, if it had one ready.
* `Silent`: A session that was not heard of for too long.

## Theorems

* `removeSession_eq`: A removal of a live session.
* `without_comm`: Removals commute.
* `saveThumbnails_eq`: What taking the thumbnails leaves.
* `removeStale_eq`: What removing the silent sessions leaves.
* `runPeriodicChecks_any_order`: A tick in any order.
-/

namespace SigmaMedia

open Bytes Exec Net Sdp Stun Text Thumbnail Trace

variable {crates : Crates}

namespace SessionRegistry

/-- The address index without a client's entry. -/
def clearAddress (client : Option (Client crates.dtls)) (addressMap : Store SocketAddr ResourceID) :
    Store SocketAddr ResourceID :=
  match client with
  | some client => addressMap.erase client.remoteAddress
  | none => addressMap

/-- The rooms once a session has left them. -/
def leaveRooms (connectionType : ConnectionType crates) (id : ResourceID)
    (rooms : Store RoomID Room) : Store RoomID Room :=
  match connectionType with
  | .viewer viewer => rooms.modify viewer.roomId fun room =>
      { room with viewerIds := room.viewerIds.erase id }
  | .streamer streamer => rooms.erase streamer.ownedRoomId

/-- A registry without a session. -/
def without (registry : SessionRegistry crates) (id : ResourceID) (session : Session crates) :
    SessionRegistry crates :=
  { sessions := registry.sessions.erase id,
    usernameMap := registry.usernameMap.erase (sessionUsername session.mediaSession),
    addressMap := clearAddress session.client registry.addressMap,
    rooms := leaveRooms session.connectionType id registry.rooms }

theorem removeSession_eq {registry : SessionRegistry crates} {id : ResourceID}
    {session : Session crates} (h : registry.sessions.lookup id = some session) :
    registry.removeSession id = .ok (registry.without id session) := by
  rw [removeSession, h]
  rfl

/-- Two addresses are cleared in either order, also if they are one. -/
theorem clearAddress_comm (c d : Option (Client crates.dtls))
    (addressMap : Store SocketAddr ResourceID) :
    clearAddress d (clearAddress c addressMap) = clearAddress c (clearAddress d addressMap) := by
  rcases c with _ | c
  · rfl
  · rcases d with _ | d
    · rfl
    · exact Finmap.erase_erase

/-- Two sessions leave their rooms in either order. -/
theorem leaveRooms_comm (s t : ConnectionType crates) (a b : ResourceID)
    (rooms : Store RoomID Room) :
    leaveRooms t b (leaveRooms s a rooms) = leaveRooms s a (leaveRooms t b rooms) := by
  cases s with
  | viewer s =>
      cases t with
      | viewer t =>
          -- Two viewers may leave the same room.
          refine Store.modify_comm rooms _ _ ?_
          intro room
          rw [Finset.erase_right_comm]
      | streamer t => exact Store.erase_modify rooms _ _ _
  | streamer s =>
      cases t with
      | viewer t => exact (Store.erase_modify rooms _ _ _).symm
      | streamer t => exact Finmap.erase_erase

/-- Removals commute, whatever the two sessions share. -/
theorem without_comm (registry : SessionRegistry crates) (a b : ResourceID)
    (s t : Session crates) :
    (registry.without a s).without b t = (registry.without b t).without a s := by
  simp only [without, SessionRegistry.mk.injEq]
  exact ⟨Finmap.erase_erase, Finmap.erase_erase, clearAddress_comm _ _ _,
    leaveRooms_comm _ _ _ _ _⟩

/-- A removal leaves every other session as it is. -/
theorem lookup_without (registry : SessionRegistry crates) (id k : ResourceID)
    (session : Session crates) : (registry.without id session).sessions.lookup k
      = if k = id then none else registry.sessions.lookup k :=
  Store.lookup_erase_eq registry.sessions id k

/-- A registry without any of the listed sessions. -/
def withoutAll (registry : SessionRegistry crates) (entries : List (ResourceID × Session crates)) :
    SessionRegistry crates :=
  entries.foldl (fun registry entry => registry.without entry.1 entry.2) registry

theorem withoutAll_perm (registry : SessionRegistry crates)
    {entries entries' : List (ResourceID × Session crates)} (h : entries.Perm entries') :
    registry.withoutAll entries = registry.withoutAll entries' :=
  h.foldl_eq' (fun s _ t _ registry => without_comm registry s.1 t.1 s.2 t.2) registry

theorem lookup_withoutAll (registry : SessionRegistry crates)
    (entries : List (ResourceID × Session crates)) (k : ResourceID) :
    (registry.withoutAll entries).sessions.lookup k
      = if k ∈ entries.map Prod.fst then none else registry.sessions.lookup k := by
  induction entries generalizing registry with
  | nil => rw [withoutAll, List.foldl_nil, List.map_nil, if_neg List.not_mem_nil]
  | cons entry entries ih =>
      have hrest := ih (registry.without entry.1 entry.2)
      rw [withoutAll] at hrest ⊢
      rw [List.foldl_cons, hrest, lookup_without, List.map_cons]
      by_cases hk : k = entry.1
      · rw [if_pos hk, ite_self, if_pos (hk ▸ List.mem_cons_self)]
      · by_cases hmem : k ∈ entries.map Prod.fst
        · rw [if_pos hmem, if_pos (List.mem_cons_of_mem _ hmem)]
        · have hout : k ∉ entry.1 :: entries.map Prod.fst := by
            rw [List.mem_cons, not_or]
            exact ⟨hk, hmem⟩
          rw [if_neg hmem, if_neg hk, if_neg hout]

end SessionRegistry

namespace UDPServer

/-- A session whose thumbnail was taken, if it had one ready. -/
def stamped (session : Session crates) (now : Instant) : Session crates :=
  match readyThumbnail session now with
  | none => session
  | some (streamer, _) =>
      { session with connectionType := .streamer { streamer with imageTimestamp := some now } }

/-- A session that was not heard of for too long. -/
def Silent (session : Session crates) (now : Instant) : Prop :=
  seconds 5 < elapsed session.ttl now

instance (session : Session crates) (now : Instant) : Decidable (Silent session now) :=
  inferInstanceAs (Decidable (_ < _))

theorem stamped_id (session : Session crates) (now : Instant) :
    (stamped session now).id = session.id := by
  unfold stamped
  split <;> rfl

theorem silent_stamped (session : Session crates) (now now' : Instant) :
    Silent (stamped session now) now' ↔ Silent session now' := by
  unfold Silent stamped
  split <;> rfl

/-- Taking thumbnails writes sessions only. -/
theorem saveThumbnails_maps (registry : SessionRegistry crates) (env : Env)
    (entries : List (ResourceID × Session crates)) :
    (saveThumbnails registry env entries).1
      = { registry with sessions := (saveThumbnails registry env entries).1.sessions } := by
  induction entries generalizing registry with
  | nil => rfl
  | cons entry rest ih =>
      rcases entry with ⟨id, session⟩
      unfold saveThumbnails
      split
      · exact ih registry
      · exact ih (registry.updateSession id _)

/-- One session's turn: it is stamped, and nothing else is written. -/
theorem saveThumbnails_cons {registry : SessionRegistry crates} (env : Env)
    {id : ResourceID} {session : Session crates} (rest : List (ResourceID × Session crates))
    (hid : registry.sessions.lookup id = some session) :
    ∃ registry₁ : SessionRegistry crates,
      (saveThumbnails registry env ((id, session) :: rest)).1
        = (saveThumbnails registry₁ env rest).1 ∧
      ∀ j, registry₁.sessions.lookup j
        = if j = id then some (stamped session (env.clock id))
          else registry.sessions.lookup j := by
  rw [saveThumbnails]
  unfold stamped
  cases readyThumbnail session (env.clock id) with
  -- Nothing is saved, and nothing stamped.
  | none =>
      refine ⟨registry, rfl, ?_⟩
      intro j
      by_cases hj : j = id
      · rw [if_pos hj, hj, hid]
      · rw [if_neg hj]
  | some ready =>
      -- The stamp is written under the id of the session and nowhere else.
      rcases ready with ⟨streamer, picture⟩
      refine ⟨_, rfl, ?_⟩
      intro j
      rw [SessionRegistry.updateSession, Store.lookup_modify]
      by_cases hj : j = id
      · rw [if_pos hj, if_pos hj, hj, hid, Option.map_some]
      · rw [if_neg hj, if_neg hj]

/-- What taking thumbnails leaves of each session. -/
theorem saveThumbnails_sessions {registry : SessionRegistry crates} (env : Env)
    {entries : List (ResourceID × Session crates)} (hnodup : (entries.map Prod.fst).Nodup)
    (hfound : ∀ id session, (id, session) ∈ entries →
      registry.sessions.lookup id = some session) (k : ResourceID) :
    (saveThumbnails registry env entries).1.sessions.lookup k
      = if k ∈ entries.map Prod.fst then
          (registry.sessions.lookup k).map fun session => stamped session (env.clock k)
        else registry.sessions.lookup k := by
  induction entries generalizing registry with
  | nil => rw [List.map_nil, if_neg List.not_mem_nil, saveThumbnails]
  | cons entry rest ih =>
      rcases entry with ⟨id, session⟩
      rw [List.map_cons, List.nodup_cons] at hnodup
      -- The write at the head is seen at its own key, which does not come again.
      rcases saveThumbnails_cons env rest (hfound id session List.mem_cons_self)
        with ⟨registry₁, hsave, hlookup⟩
      have hrest : ∀ j found, (j, found) ∈ rest → registry₁.sessions.lookup j = some found := by
        intro j found hj
        have hne : j ≠ id := by
          rintro rfl
          exact hnodup.1 (List.mem_map.mpr ⟨_, hj, rfl⟩)
        rw [hlookup, if_neg hne]
        exact hfound j found (List.mem_cons_of_mem _ hj)
      rw [hsave, ih hnodup.2 hrest, hlookup, List.map_cons]
      by_cases hk : k = id
      · have hout : k ∉ rest.map Prod.fst := hk ▸ hnodup.1
        rw [if_neg hout, if_pos hk, if_pos (hk ▸ List.mem_cons_self), hk,
          hfound id session List.mem_cons_self, Option.map_some]
      · rw [if_neg hk]
        simp only [List.mem_cons, hk, false_or]

/-- Taking the thumbnails of all sessions. -/
theorem saveThumbnails_eq (registry : SessionRegistry crates) (env : Env)
    (order : Enumeration ResourceID) (k : ResourceID) :
    (saveThumbnails registry env (order.entries registry.sessions)).1.sessions.lookup k
      = (registry.sessions.lookup k).map fun session => stamped session (env.clock k) := by
  rw [saveThumbnails_sessions env (order.nodup_entries _)
    fun id session hmem => Enumeration.mem_entries.mp hmem]
  by_cases hk : k ∈ (order.entries registry.sessions).map Prod.fst
  · rw [if_pos hk]
  · -- A key that is not listed has no session.
    have hnone : registry.sessions.lookup k = none := by
      rw [Option.eq_none_iff_forall_ne_some]
      intro session hsession
      exact hk (List.mem_map_of_mem (Enumeration.mem_entries.mpr hsession))
    rw [if_neg hk, hnone, Option.map_none]

/-- Removing the silent sessions of a list. -/
theorem removeStale_eq {registry : SessionRegistry crates} (env : Env)
    {entries : List (ResourceID × Session crates)} (hnodup : (entries.map Prod.fst).Nodup)
    (hfound : ∀ id session, (id, session) ∈ entries →
      registry.sessions.lookup id = some session ∧ session.id = id) :
    removeStale registry env (entries.map fun entry => (entry.2.id, entry.2.ttl))
      = .ok (registry.withoutAll
          (entries.filter fun entry => Silent entry.2 (env.clock entry.1))) := by
  induction entries generalizing registry with
  | nil => rfl
  | cons entry rest ih =>
      rcases entry with ⟨id, session⟩
      rw [List.map_cons, List.nodup_cons] at hnodup
      rcases hfound id session List.mem_cons_self with ⟨hid, hown⟩
      rw [List.map_cons, removeStale, hown, List.filter_cons]
      by_cases hsilent : Silent session (env.clock id)
      · -- Removing one session leaves the entries that are still to come.
        have hrest : ∀ j found, (j, found) ∈ rest →
            (registry.without id session).sessions.lookup j = some found ∧ found.id = j := by
          intro j found hj
          have hne : j ≠ id := by
            rintro rfl
            exact hnodup.1 (List.mem_map.mpr ⟨_, hj, rfl⟩)
          rw [SessionRegistry.lookup_without, if_neg hne]
          exact hfound j found (List.mem_cons_of_mem _ hj)
        have hstale : seconds 5 < elapsed session.ttl (env.clock id) := hsilent
        rw [if_pos hstale, if_pos (decide_eq_true hsilent),
          SessionRegistry.removeSession_eq hid, ok_bind]
        exact ih hnodup.2 hrest
      · have hstale : ¬ seconds 5 < elapsed session.ttl (env.clock id) := hsilent
        rw [if_neg hstale, if_neg (by simpa only [decide_eq_true_eq] using hsilent), ok_bind]
        exact ih hnodup.2 fun j found hj => hfound j found (List.mem_cons_of_mem _ hj)

/-- The registry a tick leaves. -/
def swept (registry : SessionRegistry crates) (env : Env) : SessionRegistry crates :=
  let saved := (saveThumbnails registry env (env.order.entries registry.sessions)).1
  saved.withoutAll
    ((env.order.entries saved.sessions).filter fun entry => Silent entry.2 (env.clock entry.1))

theorem runPeriodicChecks_eq {server : UDPServer crates}
    (hfiled : ∀ k session, server.sessionRegistry.sessions.lookup k = some session →
      session.id = k) (env : Env) :
    ∃ output, server.runPeriodicChecks env
      = .ok ({ server with sessionRegistry := swept server.sessionRegistry env }, output) := by
  rcases hsaved : saveThumbnails server.sessionRegistry env
    (env.order.entries server.sessionRegistry.sessions) with ⟨registry, saved⟩
  -- A stamped session is filed where it was.
  have hfound : ∀ id session, (id, session) ∈ env.order.entries registry.sessions →
      registry.sessions.lookup id = some session ∧ session.id = id := by
    intro id session hmem
    have hid := Enumeration.mem_entries.mp hmem
    refine ⟨hid, ?_⟩
    have hlookup := saveThumbnails_eq server.sessionRegistry env env.order id
    rw [hsaved, hid, eq_comm, Option.map_eq_some_iff] at hlookup
    rcases hlookup with ⟨before, hbefore, rfl⟩
    rw [stamped_id]
    exact hfiled id before hbefore
  have hstale := removeStale_eq env (env.order.nodup_entries registry.sessions) hfound
  refine ⟨.thumbnails saved, ?_⟩
  rw [runPeriodicChecks, swept, hsaved]
  simp only [SessionRegistry.getAllSessions, List.map_map, Function.comp_def, hstale, ok_bind,
    pure_eq_ok]

/-- What is left depends on the clock and not on the order. -/
theorem swept_any_order (registry : SessionRegistry crates) {env env' : Env}
    (hclock : env.clock = env'.clock) : swept registry env = swept registry env' := by
  have hsaved : (saveThumbnails registry env (env.order.entries registry.sessions)).1
      = (saveThumbnails registry env' (env'.order.entries registry.sessions)).1 := by
    rw [saveThumbnails_maps, saveThumbnails_maps registry env', SessionRegistry.mk.injEq]
    refine ⟨?_, rfl, rfl, rfl⟩
    apply Finmap.ext_lookup
    intro k
    rw [saveThumbnails_eq, saveThumbnails_eq, hclock]
  rw [swept, swept, hsaved, hclock]
  exact SessionRegistry.withoutAll_perm _ ((Enumeration.perm_entries _ _ _).filter _)

theorem lookup_swept (registry : SessionRegistry crates) (env : Env) (k : ResourceID) :
    (swept registry env).sessions.lookup k
      = (registry.sessions.lookup k).bind fun session =>
          if Silent session (env.clock k) then none else some (stamped session (env.clock k)) := by
  rw [swept, SessionRegistry.lookup_withoutAll, saveThumbnails_eq]
  cases hk : registry.sessions.lookup k with
  | none => rw [Option.map_none, Option.bind_none, ite_self]
  | some session =>
      -- A stamp does not make a session silent, or less so.
      have hmem : k ∈ ((env.order.entries (saveThumbnails registry env
            (env.order.entries registry.sessions)).1.sessions).filter
              fun entry => Silent entry.2 (env.clock entry.1)).map Prod.fst
          ↔ Silent session (env.clock k) := by
        simp only [List.mem_map, List.mem_filter, Prod.exists, Enumeration.mem_entries,
          saveThumbnails_eq, decide_eq_true_eq]
        constructor
        · intro h
          rcases h with ⟨j, found, ⟨hfound, hsilent⟩, rfl⟩
          rw [hk, Option.map_some, Option.some.injEq] at hfound
          rw [← hfound, silent_stamped] at hsilent
          exact hsilent
        · intro hsilent
          exact ⟨k, _, ⟨by rw [hk, Option.map_some], (silent_stamped _ _ _).mpr hsilent⟩, rfl⟩
      rw [Option.map_some, Option.bind_some]
      by_cases hsilent : Silent session (env.clock k)
      · rw [if_pos (hmem.mpr hsilent), if_pos hsilent]
      · rw [if_neg fun h => hsilent (hmem.mp h), if_neg hsilent]

/-- Sessions are removed in any order with the same result, and a tick in any
    order leaves the same registry: that of the sessions that were heard of,
    each as it was but for the stamp of a thumbnail taken. -/
theorem runPeriodicChecks_any_order (server : UDPServer crates)
    (hfiled : ∀ k session, server.sessionRegistry.sessions.lookup k = some session →
      session.id = k) :
    (∀ a b, a ≠ b → a ∈ server.sessionRegistry.sessions → b ∈ server.sessionRegistry.sessions →
      ∃ registry',
        (server.sessionRegistry.removeSession a >>= fun r => r.removeSession b) = .ok registry' ∧
        (server.sessionRegistry.removeSession b >>= fun r => r.removeSession a)
          = .ok registry') ∧
    ∀ env : Env, ∃ registry' : SessionRegistry crates,
      (∀ order, ∃ output, server.runPeriodicChecks { env with order }
        = .ok ({ server with sessionRegistry := registry' }, output)) ∧
      ∀ k, registry'.sessions.lookup k
        = (server.sessionRegistry.sessions.lookup k).bind fun session =>
            if Silent session (env.clock k) then none
            else some (stamped session (env.clock k)) := by
  constructor
  · -- Each of the two is still there when the other is gone.
    intro a b hne ha hb
    rcases Finmap.mem_iff.mp ha with ⟨s, hs⟩
    rcases Finmap.mem_iff.mp hb with ⟨t, ht⟩
    refine ⟨(server.sessionRegistry.without a s).without b t, ?_, ?_⟩
    · rw [SessionRegistry.removeSession_eq hs, ok_bind]
      apply SessionRegistry.removeSession_eq
      rw [SessionRegistry.lookup_without, if_neg hne.symm, ht]
    · rw [SessionRegistry.removeSession_eq ht, ok_bind, SessionRegistry.without_comm]
      apply SessionRegistry.removeSession_eq
      rw [SessionRegistry.lookup_without, if_neg hne, hs]
  · intro env
    refine ⟨swept server.sessionRegistry env, ?_, lookup_swept _ env⟩
    intro order
    -- The registry of the statement is found with the order of the environment.
    have hsame : swept server.sessionRegistry env
        = swept server.sessionRegistry { env with order } := swept_any_order _ rfl
    rw [hsame]
    exact runPeriodicChecks_eq hfiled { env with order }

/-- The ids can be checked key by key. -/
theorem filed_of_keys {registry : SessionRegistry crates}
    (h : registry.sessions.keys.filter
      (fun k => (registry.sessions.lookup k).map Session.id ≠ some k) = ∅) :
    ∀ k session, registry.sessions.lookup k = some session → session.id = k := by
  intro k session hk
  have hkey := Finmap.mem_keys.mpr (Finmap.mem_of_lookup_eq_some hk)
  have hid := not_not.mp (Finset.filter_eq_empty_iff.mp h hkey)
  rw [hk, Option.map_some, Option.some.injEq] at hid
  exact hid

/-- Six seconds on, a streamer and a viewer of its room are both silent. -/
def late : Env := { drawing 0 0 with clock := fun _ => seconds 6 }

/-- A tick that finds both of them silent leaves nothing, in any order. -/
theorem runPeriodicChecks_any_order_two_silent :
    ∃ (server : UDPServer plainCrates) (outputs : List Output),
      feed step (UDPServer.new loopbackResolver)
        [streaming "user".toList 1 2,
          (.addViewer (offerText "peer".toList "recvonly".toList "109".toList "126".toList) 1,
            drawing 3 4)] = .ok (server, outputs) ∧
      2 ∈ server.sessionRegistry.sessions ∧ 4 ∈ server.sessionRegistry.sessions ∧
      ∃ registry' : SessionRegistry plainCrates,
        (∀ order, ∃ output, server.runPeriodicChecks { late with order }
          = .ok ({ server with sessionRegistry := registry' }, output)) ∧
        registry'.sessions.lookup 2 = none ∧ registry'.sessions.lookup 4 = none := by
  have hrun : passes (feed step (UDPServer.new loopbackResolver : UDPServer plainCrates)
      [streaming "user".toList 1 2,
        (.addViewer (offerText "peer".toList "recvonly".toList "109".toList "126".toList) 1,
          drawing 3 4)])
      (fun result =>
        decide (result.1.sessionRegistry.sessions.keys.filter (fun k =>
          (result.1.sessionRegistry.sessions.lookup k).map Session.id ≠ some k) = ∅) &&
        decide ((result.1.sessionRegistry.sessions.lookup 2).map Session.ttl = some 0) &&
        decide ((result.1.sessionRegistry.sessions.lookup 4).map Session.ttl = some 0))
      = true := by decide +kernel
  rcases of_passes hrun with ⟨⟨server, outputs⟩, hfeed, hend⟩
  rw [Bool.and_eq_true, Bool.and_eq_true, decide_eq_true_eq, decide_eq_true_eq,
    decide_eq_true_eq] at hend
  rcases hend with ⟨⟨hids, htwo⟩, hfour⟩
  rcases Option.map_eq_some_iff.mp htwo with ⟨s, hs, hsttl⟩
  rcases Option.map_eq_some_iff.mp hfour with ⟨t, ht, htttl⟩
  rcases (runPeriodicChecks_any_order server (filed_of_keys hids)).2 late
    with ⟨registry', hticks, hleft⟩
  have hsilent : ∀ session : Session plainCrates, ∀ k, session.ttl = 0 →
      Silent session (late.clock k) := by
    intro session k httl
    rw [Silent, httl]
    exact (by decide : seconds 5 < elapsed 0 (seconds 6))
  refine ⟨server, outputs, hfeed, Finmap.mem_of_lookup_eq_some hs,
    Finmap.mem_of_lookup_eq_some ht, registry', hticks, ?_, ?_⟩
  · rw [hleft, hs, Option.bind_some, if_pos (hsilent s 2 hsttl)]
  · rw [hleft, ht, Option.bind_some, if_pos (hsilent t 4 htttl)]

/-- The same crates with a video decoder that makes a picture of everything. -/
def filmingCrates : Crates :=
  { plainCrates with
    h264 :=
      { Decoder := Unit, new := some (), nalUnits := fun unit => [unit],
        decode := fun _ _ => ((), .ok (some { width := 1, height := 1, writeRgb8 := id })) } }

/-- A packet of video from the streamer, with the marker in its second byte. -/
def videoPacket (second sequenceNumber : UInt8) : Command × Env :=
  (.handlePacket [0x80, second, 0, sequenceNumber, 0, 0, 0, 0, 0, 0, 0, 9, 0x65, 0xaa]
    (loopback 5000), drawing 0 0)

/-- A streamer joins, is nominated, completes its handshake and sends the end
    of one picture and the whole of the next. -/
def filmed : List (Command × Env) :=
  [streaming "user".toList 1 2, nominating "host:user".toList 5000,
    (.handlePacket [22] (loopback 5000), drawing 0 0),
    videoPacket 0xe0 1, videoPacket 0x60 2, videoPacket 0xe0 3]

/-- When its session was last stamped, for a streamer. -/
def stampOf (session : Session crates) : Option Instant :=
  match session.connectionType with
  | .viewer _ => none
  | .streamer streamer => streamer.imageTimestamp

/-- A tick stamps a session that is not silent. -/
theorem runPeriodicChecks_stamps :
    ∃ (server server' : UDPServer filmingCrates) (outputs : List Output) (output : Output)
      (session session' : Session filmingCrates),
      feed step (UDPServer.new loopbackResolver) filmed = .ok (server, outputs) ∧
      (∀ k found, server.sessionRegistry.sessions.lookup k = some found → found.id = k) ∧
      server.runPeriodicChecks (drawing 0 0) = .ok (server', output) ∧
      server.sessionRegistry.sessions.lookup 2 = some session ∧ ¬ Silent session 0 ∧
      server'.sessionRegistry.sessions.lookup 2 = some session' ∧
      session' ≠ session := by
  have hrun : passes (feed step (UDPServer.new loopbackResolver : UDPServer filmingCrates) filmed)
      (fun result => passes (result.1.runPeriodicChecks (drawing 0 0)) fun after =>
        decide (result.1.sessionRegistry.sessions.keys.filter (fun k =>
          (result.1.sessionRegistry.sessions.lookup k).map Session.id ≠ some k) = ∅) &&
        decide ((result.1.sessionRegistry.sessions.lookup 2).map
          (fun session => (session.ttl, stampOf session)) = some (0, none)) &&
        decide ((after.1.sessionRegistry.sessions.lookup 2).map stampOf = some (some 0)))
      = true := by decide +kernel
  rcases of_passes hrun with ⟨⟨server, outputs⟩, hfeed, hrest⟩
  rcases of_passes hrest with ⟨⟨server', output⟩, htick, hend⟩
  rw [Bool.and_eq_true, Bool.and_eq_true, decide_eq_true_eq, decide_eq_true_eq,
    decide_eq_true_eq] at hend
  rcases hend with ⟨⟨hids, hbefore⟩, hafter⟩
  rcases Option.map_eq_some_iff.mp hbefore with ⟨session, hsession, hstamp⟩
  rcases Option.map_eq_some_iff.mp hafter with ⟨session', hsession', hstamp'⟩
  rw [Prod.mk.injEq] at hstamp
  refine ⟨server, server', outputs, output, session, session', hfeed, filed_of_keys hids, htick,
    hsession, ?_, hsession', ?_⟩
  · rw [Silent, hstamp.1]
    decide
  · intro hsame
    rw [hsame, hstamp.2] at hstamp'
    cases hstamp'

end UDPServer

end SigmaMedia
