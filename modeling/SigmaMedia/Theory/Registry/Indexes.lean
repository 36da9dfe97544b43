import SigmaMedia.Theory.Registry.Routing

/-!
# Lookups Do Not Dangle

The two indexes are written beside the sessions and never read back from them:
the key of a username entry is put together again from the credentials when
the session goes, and that of an address entry is copied from its client. That
nothing dangles is an invariant of runs in which ids and usernames are drawn
new. An address may change hands, since a nomination overwrites the entry of
whoever had it; it still leads to somebody who has it, because a session gets
a client once and keeps it.

## Main definitions

* `SessionRegistry.Indexed`: The indexes lead to live sessions.
* `FreshNames`: The id and the username drawn for a command are new.

## Theorems

* `indexed_iff`: Indexed registries are indexed directories.
* `step_indexed`: A command preserves the indexes.
* `Indexed.removeSession`: What a removal leaves of them.
* `reachable_indexed`: In every reachable state the indexes do not dangle.
-/

namespace SigmaMedia

open Bytes Exec Net Sdp Stun Text Thumbnail Trace

variable {crates : Crates}

namespace SessionRegistry

/-- The indexes lead to live sessions: usernames to exactly those that have
    them, addresses to one that has its client there. -/
structure Indexed (registry : SessionRegistry crates) : Prop where
  filed : ∀ k session, registry.sessions.lookup k = some session → session.id = k
  usernames : ∀ username k, registry.usernameMap.lookup username = some k ↔
    ∃ session, registry.sessions.lookup k = some session ∧
      sessionUsername session.mediaSession = username
  addresses : ∀ address k, registry.addressMap.lookup address = some k →
    ∃ session client, registry.sessions.lookup k = some session ∧
      session.client = some client ∧ client.remoteAddress = address

variable {registry registry' : SessionRegistry crates}

theorem indexed_iff :
    registry.Indexed ↔ registry.directory.Filed ∧ registry.directory.Indexed := by
  -- Usernames and addresses of outlines are those of the sessions they are
  -- outlines of.
  have husername : ∀ username k, (∃ o, registry.directory.sessions k = some o ∧
      o.username = username) ↔ ∃ session, registry.sessions.lookup k = some session ∧
        sessionUsername session.mediaSession = username := by
    intro username k
    constructor
    · intro h
      rcases h with ⟨o, ho, hu⟩
      rcases directory_sessions_eq_some.mp ho with ⟨session, hsession, rfl⟩
      exact ⟨session, hsession, hu⟩
    · intro h
      rcases h with ⟨session, hsession, hu⟩
      exact ⟨session.outline, directory_sessions hsession, hu⟩
  have haddress : ∀ address k, (∃ o, registry.directory.sessions k = some o ∧
      o.address = some address) ↔ ∃ session client, registry.sessions.lookup k = some session ∧
        session.client = some client ∧ client.remoteAddress = address := by
    intro address k
    constructor
    · intro h
      rcases h with ⟨o, ho, ha⟩
      rcases directory_sessions_eq_some.mp ho with ⟨session, hsession, rfl⟩
      rcases Option.map_eq_some_iff.mp ha with ⟨client, hclient, hremote⟩
      exact ⟨session, client, hsession, hclient, hremote⟩
    · intro h
      rcases h with ⟨session, client, hsession, hclient, hremote⟩
      refine ⟨session.outline, directory_sessions hsession, ?_⟩
      rw [Session.outline, hclient, Option.map_some, hremote]
  constructor
  · intro h
    refine ⟨?_, ?_, ?_⟩
    · intro k o ho
      rcases directory_sessions_eq_some.mp ho with ⟨session, hsession, rfl⟩
      exact h.filed k session hsession
    · intro username k
      rw [husername]
      exact h.usernames username k
    · intro address k ha
      exact (haddress address k).mpr (h.addresses address k ha)
  · intro h
    rcases h with ⟨hfiled, hindexed⟩
    refine ⟨?_, ?_, ?_⟩
    · intro k session hsession
      exact hfiled k session.outline (directory_sessions hsession)
    · intro username k
      rw [← husername]
      exact hindexed.usernames username k
    · intro address k ha
      exact (haddress address k).mp (hindexed.addresses address k ha)

/-- After a removal no lookup yields the removed session, and everybody else
    is still found by name. -/
theorem Indexed.removeSession (h : registry.Indexed) {id : ResourceID}
    (hremove : registry.removeSession id = .ok registry') :
    (∀ username, registry'.usernameMap.lookup username ≠ some id) ∧
      (∀ address, registry'.addressMap.lookup address ≠ some id) ∧
      ∀ k session, k ≠ id → registry.sessions.lookup k = some session →
        registry'.getSessionByUsername (sessionUsername session.mediaSession)
          = some (k, session) := by
  rcases indexed_iff.mp h with ⟨hfiled, hindexed⟩
  rcases directory_removeSession hremove with ⟨session, hsession, hdir⟩
  have hafter : registry'.Indexed := by
    refine indexed_iff.mpr ?_
    rw [hdir]
    exact ⟨hfiled.remove, hindexed.remove (directory_sessions hsession)⟩
  -- The other sessions are as they were, and the removed one is gone.
  have hsessions : ∀ k, registry'.sessions.lookup k
      = if k = id then none else registry.sessions.lookup k := by
    intro k
    simp only [SessionRegistry.removeSession, bind_eq_ok, pure_eq_ok, Except.ok.injEq] at hremove
    rcases hremove with ⟨_, _, rfl⟩
    exact Store.lookup_erase_eq registry.sessions id k
  have hgone : registry'.sessions.lookup id = none := by rw [hsessions, if_pos rfl]
  refine ⟨?_, ?_, ?_⟩
  · intro username hu
    rcases (hafter.usernames username id).mp hu with ⟨session', hsession', _⟩
    rw [hgone] at hsession'
    cases hsession'
  · intro address ha
    rcases hafter.addresses address id ha with ⟨session', _, hsession', _⟩
    rw [hgone] at hsession'
    cases hsession'
  · intro k session' hk hsession'
    have hlive : registry'.sessions.lookup k = some session' := by
      rw [hsessions, if_neg hk, hsession']
    exact getSessionByUsername_eq_some.mpr
      ⟨(hafter.usernames _ k).mpr ⟨session', hlive, rfl⟩, hlive⟩

end SessionRegistry

namespace UDPServer

/-- No live session has the id or the host's username drawn for a command. -/
def FreshNames (server : UDPServer crates) (input : Command × Env) : Prop :=
  match input.1 with
  | .addStreamer _ | .addViewer _ _ =>
      server.sessionRegistry.sessions.lookup input.2.resourceId = none ∧
        ∀ k session, server.sessionRegistry.sessions.lookup k = some session →
          session.mediaSession.iceCredentials.hostUsername ≠ input.2.draws.hostUsername
  | _ => True

variable {server server' : UDPServer crates}

/-- A drawn username that no live session has is new to the directory, and so
    is the id. -/
theorem fresh_directory {env : Env} {username : SessionUsername}
    (hfresh : server.sessionRegistry.sessions.lookup env.resourceId = none ∧
      ∀ k session, server.sessionRegistry.sessions.lookup k = some session →
        session.mediaSession.iceCredentials.hostUsername ≠ env.draws.hostUsername)
    (hhost : username.host = env.draws.hostUsername.val) :
    server.directory.sessions env.resourceId = none ∧
      ∀ k o, server.directory.sessions k = some o → o.username ≠ username := by
  refine ⟨Option.map_eq_none_iff.mpr hfresh.1, ?_⟩
  intro k o ho hu
  rcases SessionRegistry.directory_sessions_eq_some.mp ho with ⟨session, hsession, rfl⟩
  refine hfresh.2 k session hsession ?_
  rw [← hhost, ← hu]
  rfl

/-- A command whose draws are new preserves the indexes. -/
theorem step_indexed {input : Command × Env} {output : Output}
    (hfiled : server.directory.Filed) (hindexed : server.directory.Indexed)
    (hfresh : server.FreshNames input) (h : server.step input = .ok (server', output)) :
    server'.directory.Indexed := by
  rcases input with ⟨command, env⟩
  cases command with
  | handlePacket packet remote =>
      simp only [step, bind_eq_ok, Prod.exists, pure_eq_ok, Except.ok.injEq, Prod.mk.injEq] at h
      rcases h with ⟨_, sent, hpacket, rfl, _⟩
      rw [processPacket_directory hfiled hpacket]
      split
      · exact hindexed
      · -- Only a session without a client is nominated.
        rename_i id session hnominee
        rcases nominee_eq_some hnominee with ⟨hlookup, hclient⟩
        have hnone : session.outline.address = none := by
          rw [Session.outline, hclient, Option.map_none]
        exact hindexed.nominate (SessionRegistry.directory_sessions hlookup) hnone remote
  | addStreamer sdpOffer =>
      rcases addStreamer_directory h with hsame | ⟨username, hhost, hadd⟩
      · rw [hsame]
        exact hindexed
      · rcases fresh_directory hfresh hhost with ⟨hid, hnew⟩
        rw [hadd]
        exact hindexed.add rfl rfl rfl hid hnew
  | addViewer sdpOffer targetId =>
      rcases addViewer_directory h with hsame | ⟨username, room, hhost, _, hadd⟩
      · rw [hsame]
        exact hindexed
      · rcases fresh_directory hfresh hhost with ⟨hid, hnew⟩
        rw [hadd]
        exact hindexed.add rfl rfl rfl hid hnew
  | sendRoomsStatus =>
      cases h
      exact hindexed
  | runPeriodicChecks =>
      exact (runPeriodicChecks_directory h).preserves (fun _ _ _ hd ho => hd.remove ho) hindexed

/-- In every reachable state the indexes lead to live sessions, so that a
    removed session is found no more and all others are. -/
theorem reachable_indexed (resolver : SDPResolver) {server : UDPServer crates}
    (h : Reachable step FreshNames (UDPServer.new resolver) server) :
    server.sessionRegistry.Indexed ∧
      ∀ id registry', server.sessionRegistry.removeSession id = .ok registry' →
        (∀ username, registry'.usernameMap.lookup username ≠ some id) ∧
        (∀ address, registry'.addressMap.lookup address ≠ some id) ∧
        ∀ k session, k ≠ id → server.sessionRegistry.sessions.lookup k = some session →
          registry'.getSessionByUsername (sessionUsername session.mediaSession)
            = some (k, session) := by
  have hinv : server.directory.Filed ∧ server.directory.Indexed := by
    apply h.invariant fun s => s.directory.Filed ∧ s.directory.Indexed
    · -- Nothing is there to begin with, so nothing dangles.
      refine ⟨(new_consistent resolver).filed, ?_, ?_⟩
      · intro u k
        refine ⟨fun hu => (by cases hu), ?_⟩
        intro hfound
        rcases hfound with ⟨o, ho, _⟩
        cases ho
      · intro a k ha
        cases ha
    · intro s input s₁ output hinv hfresh hstep
      exact ⟨step_filed hinv.1 hstep, step_indexed hinv.1 hinv.2 hfresh hstep⟩
  have hindexed := SessionRegistry.indexed_iff.mpr hinv
  exact ⟨hindexed, fun id registry' hremove => hindexed.removeSession hremove⟩

/-- After a streamer has joined, the only username is the one drawn for it. -/
theorem hostUsername_after_streamer {resolver : SDPResolver} {server : UDPServer crates}
    {sdpOffer : Text} {env : Env} {output : Output}
    (h : (UDPServer.new resolver).step (.addStreamer sdpOffer, env) = .ok (server, output))
    {k : ResourceID} {session : Session crates}
    (hsession : server.sessionRegistry.sessions.lookup k = some session) :
    session.mediaSession.iceCredentials.hostUsername = env.draws.hostUsername := by
  have houtline := SessionRegistry.directory_sessions hsession
  -- Refused, it leaves nobody there.
  rcases addStreamer_directory h with hsame | ⟨username, hhost, hadd⟩
  · rw [← directory, hsame] at houtline
    cases houtline
  · rw [← directory, hadd] at houtline
    simp only [Directory.addStreamer, Function.update_apply] at houtline
    split at houtline
    · have husername : session.outline.username.host = username.host := by
        rw [← Option.some.inj houtline]
      exact husername.trans hhost
    · cases houtline

/-- A streamer that joins with the username `twin`. -/
def rival : Command × Env :=
  (.addStreamer (offerText "peer".toList "sendonly".toList "111".toList "96".toList),
    { drawing 3 4 with
      draws := { fixedDraws with
        hostUsername := ⟨"twin".toList, rfl, List.all_eq_true.mp rfl⟩ } })

/-- Two streamers join and are nominated. Once the first is removed, nothing
    leads to it, and the second is still found. -/
theorem reachable_indexed_two_streamers :
    ∃ (server : UDPServer plainCrates) (registry' : SessionRegistry plainCrates)
      (session : Session plainCrates),
      Reachable step FreshNames (UDPServer.new loopbackResolver) server ∧
      server.sessionRegistry.Indexed ∧
      server.sessionRegistry.addressMap.lookup (loopback 5000) = some 2 ∧
      server.sessionRegistry.removeSession 2 = .ok registry' ∧
      (∀ username, registry'.usernameMap.lookup username ≠ some 2) ∧
      (∀ address, registry'.addressMap.lookup address ≠ some 2) ∧
      server.sessionRegistry.sessions.lookup 4 = some session ∧
      registry'.getSessionByUsername (sessionUsername session.mediaSession)
        = some (4, session) := by
  have hrun : passes (feed step (UDPServer.new loopbackResolver : UDPServer plainCrates)
      [streaming "user".toList 1 2, rival, nominating "host:user".toList 5000,
        nominating "twin:peer".toList 5001])
      (fun result => passes (result.1.sessionRegistry.removeSession 2) fun _ => decide (
        result.1.sessionRegistry.addressMap.lookup (loopback 5000) = some 2 ∧
        (result.1.sessionRegistry.sessions.lookup 4).isSome))
      = true := by decide +kernel
  rcases of_passes hrun with ⟨⟨server, outputs⟩, hfeed, hend⟩
  rcases of_passes hend with ⟨registry', hremove, hlast⟩
  rcases of_decide_eq_true hlast with ⟨haddress, hsecond⟩
  rcases Option.isSome_iff_exists.mp hsecond with ⟨session, hsession⟩
  rcases feed_cons_eq_ok.mp hfeed with ⟨server₁, _, _, hfirst, hrest₁, _⟩
  rcases feed_cons_eq_ok.mp hrest₁ with ⟨server₂, _, _, hrival, hrest₂, _⟩
  rcases feed_cons_eq_ok.mp hrest₂ with ⟨server₃, _, _, hnominated, hrest₃, _⟩
  rcases feed_cons_eq_ok.mp hrest₃ with ⟨server₄, _, _, hlater, hnil, _⟩
  cases hnil
  -- What is drawn is new: at the start, and behind the first streamer.
  have hreach : Reachable step FreshNames (UDPServer.new loopbackResolver) server := by
    refine .next (.next (.next (.next .init ?_ hfirst) ?_ hrival) ?_ hnominated) ?_ hlater
    · exact ⟨rfl, fun k session hk => by cases hk⟩
    · refine ⟨?_, fun k session hk hsame => ?_⟩
      · exact (SessionRegistry.unused_iff.mpr
          (fresh_after_streamer hfirst (by decide) (by decide))).session
      · -- The first streamer's username is another one.
        rw [hostUsername_after_streamer hfirst hk] at hsame
        cases hsame
    · exact trivial
    · exact trivial
  rcases reachable_indexed loopbackResolver hreach with ⟨hindexed, hremoves⟩
  rcases hremoves 2 registry' hremove with ⟨husernames, haddresses, hothers⟩
  exact ⟨server, registry', session, hreach, hindexed, haddress, hremove, husernames, haddresses,
    hsession, hothers 4 session (by decide) hsession⟩

end UDPServer

end SigmaMedia
