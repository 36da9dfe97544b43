import SigmaMedia.Theory.Registry.Safety

/-!
# Whose Packets They Are

A packet that is not a binding request belongs to whoever its sender's address
leads to. For every session that has a client this should be the session
itself, as long as it lives.

Nominating writes the address over whatever stood there, and removing a
session clears its address without asking whose entry it is. So a second
session nominated from an address takes the first one's packets, and once
either is removed the other one's lead nowhere. Nothing else gets in the way:
`routable_throughout_iff` says that a run keeps every session routable exactly
when no client is nominated from an address another client has. Ids need not
be new for this.

## Main definitions

* `Routable`: Every client is found by its address.
* `NoClash`: A nomination comes from an address no client has.
* `bindingRequest`: A binding request, byte by byte.

## Theorems

* `routable_iff`: Routable registries are routed directories.
* `step_filed`: Sessions stay filed under their ids.
* `step_routed_iff`: A command keeps clients routable exactly when it does not
  clash.
* `routable_throughout_iff`: The same for a run.
-/

namespace SigmaMedia

open Bytes Exec Net Sdp Stun Text Thumbnail Trace

variable {crates : Crates}

namespace SessionRegistry

/-- Every client is found by its address. -/
def Routable (registry : SessionRegistry crates) : Prop :=
  ∀ k session client, registry.sessions.lookup k = some session → session.client = some client →
    registry.getSessionByAddress client.remoteAddress = some (k, session)

variable {registry : SessionRegistry crates}

theorem routable_iff : registry.Routable ↔ registry.directory.Routed := by
  constructor
  · intro h k o a ho ha
    rcases directory_sessions_eq_some.mp ho with ⟨session, hsession, rfl⟩
    rcases Option.map_eq_some_iff.mp ha with ⟨client, hclient, rfl⟩
    exact (getSessionByAddress_eq_some.mp (h k session client hsession hclient)).1
  · intro h k session client hsession hclient
    have haddress : session.outline.address = some client.remoteAddress := by
      rw [Session.outline, hclient, Option.map_some]
    exact getSessionByAddress_eq_some.mpr
      ⟨h k session.outline _ (directory_sessions hsession) haddress, hsession⟩

end SessionRegistry

namespace UDPServer

/-- A nomination comes from an address that no client has. -/
def NoClash (server : UDPServer crates) (input : Command × Env) : Prop :=
  match input.1 with
  | .handlePacket data remote => (server.nominee data).isSome = true →
      ∀ k session client, server.sessionRegistry.sessions.lookup k = some session →
        session.client = some client → client.remoteAddress ≠ remote
  | _ => True

variable {server server' : UDPServer crates}

/-- Sessions stay filed under their ids, whatever ids are drawn. -/
theorem step_filed {input : Command × Env} {output : Output} (hfiled : server.directory.Filed)
    (h : server.step input = .ok (server', output)) : server'.directory.Filed := by
  rcases input with ⟨command, env⟩
  cases command with
  | handlePacket packet remote =>
      simp only [step, bind_eq_ok, Prod.exists, pure_eq_ok, Except.ok.injEq, Prod.mk.injEq] at h
      rcases h with ⟨_, sent, hpacket, rfl, _⟩
      -- A session is only ever written under the id it was found by.
      rw [processPacket_directory hfiled hpacket]
      split
      · exact hfiled
      · rename_i id session hnominee
        have hsession := SessionRegistry.directory_sessions (nominee_eq_some hnominee).1
        exact hfiled.update rfl (hfiled id session.outline hsession)
  | addStreamer sdpOffer =>
      rcases addStreamer_directory h with hsame | ⟨username, _, hadd⟩
      · rw [hsame]
        exact hfiled
      · rw [hadd]
        exact hfiled.update rfl rfl
  | addViewer sdpOffer targetId =>
      rcases addViewer_directory h with hsame | ⟨username, room, _, _, hadd⟩
      · rw [hsame]
        exact hfiled
      · rw [hadd]
        exact hfiled.update rfl rfl
  | sendRoomsStatus =>
      cases h
      exact hfiled
  | runPeriodicChecks =>
      exact (runPeriodicChecks_directory h).preserves (fun _ _ _ hd _ => hd.remove) hfiled

/-- No client has an address exactly when no session of the directory has. -/
theorem nobody_at_iff {remote : SocketAddr} :
    (∀ k session client, server.sessionRegistry.sessions.lookup k = some session →
        session.client = some client → client.remoteAddress ≠ remote) ↔
      ∀ k o, server.directory.sessions k = some o → o.address ≠ some remote := by
  constructor
  · intro h k o ho ha
    rcases SessionRegistry.directory_sessions_eq_some.mp ho with ⟨session, hsession, rfl⟩
    rcases Option.map_eq_some_iff.mp ha with ⟨client, hclient, hremote⟩
    exact h k session client hsession hclient hremote
  · intro h k session client hsession hclient hremote
    refine h k session.outline (SessionRegistry.directory_sessions hsession) ?_
    rw [Session.outline, hclient, Option.map_some, hremote]

/-- A command keeps clients routable exactly when it does not clash. -/
theorem step_routed_iff {input : Command × Env} {output : Output}
    (hfiled : server.directory.Filed) (hrouted : server.directory.Routed)
    (h : server.step input = .ok (server', output)) :
    server'.directory.Routed ↔ server.NoClash input := by
  rcases input with ⟨command, env⟩
  cases command with
  | handlePacket packet remote =>
      simp only [step, bind_eq_ok, Prod.exists, pure_eq_ok, Except.ok.injEq, Prod.mk.injEq] at h
      rcases h with ⟨_, sent, hpacket, rfl, _⟩
      rw [processPacket_directory hfiled hpacket]
      simp only [NoClash, nobody_at_iff]
      -- Only a nomination takes an address, and it may be somebody else's.
      cases hnominee : server.nominee packet with
      | none =>
          simp only [Option.isSome_none, Bool.false_eq_true, false_implies, iff_true]
          exact hrouted
      | some found =>
          rcases found with ⟨id, session⟩
          rcases nominee_eq_some hnominee with ⟨hlookup, hclient⟩
          have hnone : session.outline.address = none := by
            rw [Session.outline, hclient, Option.map_none]
          simp only [Option.isSome_some, true_implies]
          exact Directory.routed_nominate_iff hrouted
            (SessionRegistry.directory_sessions hlookup) hnone remote
  | addStreamer sdpOffer =>
      refine iff_of_true ?_ trivial
      rcases addStreamer_directory h with hsame | ⟨username, _, hadd⟩
      · rw [hsame]
        exact hrouted
      · rw [hadd]
        exact hrouted.add rfl rfl rfl
  | addViewer sdpOffer targetId =>
      refine iff_of_true ?_ trivial
      rcases addViewer_directory h with hsame | ⟨username, room, _, _, hadd⟩
      · rw [hsame]
        exact hrouted
      · rw [hadd]
        exact hrouted.add rfl rfl rfl
  | sendRoomsStatus =>
      cases h
      exact iff_of_true hrouted trivial
  | runPeriodicChecks =>
      refine iff_of_true ?_ trivial
      exact (runPeriodicChecks_directory h).preserves (fun _ _ _ hd ho => hd.remove ho) hrouted

/-- Every client is found by its address throughout a run exactly when no
    client was nominated from an address another one had. -/
theorem routable_throughout_iff (resolver : SDPResolver) (inputs : List (Command × Env))
    (hrun : Returns (feed step (UDPServer.new resolver : UDPServer crates) inputs)) :
    Throughout step (fun server => server.sessionRegistry.Routable)
        (UDPServer.new resolver : UDPServer crates) inputs ↔
      Along step NoClash (UDPServer.new resolver : UDPServer crates) inputs := by
  refine throughout_iff_along (fun server => server.directory.Filed) ?_ ?_ ?_ ?_ hrun
  · intro s i s₁ o hfiled hstep
    exact step_filed hfiled hstep
  · intro s i s₁ o hfiled hroutable hstep
    rw [SessionRegistry.routable_iff] at hroutable ⊢
    exact step_routed_iff hfiled hroutable hstep
  · exact (new_consistent resolver).filed
  · intro k session client h
    cases h

/-- A binding request for a username of nine bytes, with the given integrity
    bytes, that nominates or does not. -/
def bindingRequest (username : Text) (nominates : Bool) (integrity : Bytes) : Bytes :=
  let attributes := be16 0x0006 ++ be16 9 ++ utf8 username ++ [0, 0, 0]
    ++ (if nominates then be16 0x0025 ++ be16 0 else []) ++ be16 0x0008 ++ be16 20 ++ integrity
  be16 0x0001 ++ be16 (UInt16.ofNat attributes.length) ++ be32 stunCookie ++ List.replicate 12 0
    ++ attributes

/-- A port of the loopback address. -/
def loopback (port : UInt16) : SocketAddr := .v4 loopbackIp port

/-- A nomination that arrives from a port of the loopback address. -/
def nominating (username : Text) (port : UInt16) : Command × Env :=
  (.handlePacket (bindingRequest username true (List.replicate 20 0)) (loopback port), drawing 0 0)

/-- A streamer that joins with the given ids. -/
def streaming (ufrag : Text) (roomId resourceId : UInt32) : Command × Env :=
  (.addStreamer (offerText ufrag "sendonly".toList "111".toList "96".toList),
    drawing roomId resourceId)

/-- A streamer that joins and is nominated is found by its address. -/
theorem routable_throughout_one_streamer :
    Throughout step (fun server => server.sessionRegistry.Routable)
      (UDPServer.new loopbackResolver : UDPServer plainCrates)
      [streaming "user".toList 1 2, nominating "host:user".toList 5000] := by
  have hrun : Returns (feed step (UDPServer.new loopbackResolver : UDPServer plainCrates)
      [streaming "user".toList 1 2, nominating "host:user".toList 5000]) := by
    have hok : passes (feed step (UDPServer.new loopbackResolver : UDPServer plainCrates)
        [streaming "user".toList 1 2, nominating "host:user".toList 5000])
        (fun _ => true) = true := by decide +kernel
    rcases of_passes hok with ⟨result, hfeed, _⟩
    exact ⟨result, hfeed⟩
  refine (routable_throughout_iff loopbackResolver _ hrun).mpr ⟨trivial, ?_⟩
  intro server₁ output hfirst
  refine ⟨fun _ => nobody_at_iff.mpr ?_, fun _ _ _ => trivial⟩
  intro k o ho
  -- The streamer has no client before its nomination.
  have hjoined : (UDPServer.new loopbackResolver : UDPServer plainCrates).addStreamer
      (offerText "user".toList "sendonly".toList "111".toList "96".toList) (drawing 1 2)
        = .ok (server₁, output) := hfirst
  rcases addStreamer_directory hjoined with hsame | ⟨username, _, hadd⟩
  · rw [hsame] at ho
    cases ho
  · rw [hadd] at ho
    simp only [Directory.addStreamer, Function.update_apply] at ho
    split at ho
    · cases ho
      intro ha
      cases ha
    · cases ho

/-- Two streamers are nominated from one address: the packets of the first now
    lead to the second. -/
theorem routable_fails_on_shared_address :
    ¬ Throughout step (fun server => server.sessionRegistry.Routable)
      (UDPServer.new loopbackResolver : UDPServer plainCrates)
      [streaming "user".toList 1 2, streaming "peer".toList 3 4, nominating "host:user".toList 5000,
        nominating "host:peer".toList 5000] := by
  intro h
  have hrun : passes (feed step (UDPServer.new loopbackResolver : UDPServer plainCrates)
      [streaming "user".toList 1 2, streaming "peer".toList 3 4, nominating "host:user".toList 5000,
        nominating "host:peer".toList 5000])
      (fun result =>
        decide (((result.1.sessionRegistry.sessions.lookup 2).bind Session.client).map
          Client.remoteAddress = some (loopback 5000) ∧
        (result.1.sessionRegistry.getSessionByAddress (loopback 5000)).map Prod.fst
          = some 4)) = true := by decide +kernel
  rcases of_passes hrun with ⟨⟨server, outputs⟩, hfeed, hend⟩
  rcases of_decide_eq_true hend with ⟨hclient, hfound⟩
  rcases Option.map_eq_some_iff.mp hclient with ⟨client, hbind, haddress⟩
  rcases Option.bind_eq_some_iff.mp hbind with ⟨session, hsession, hsome⟩
  -- The first session should be found at its address, and the second is.
  have hroute := h.last hfeed 2 session client hsession hsome
  rw [haddress] at hroute
  rw [hroute, Option.map_some, Option.some.injEq] at hfound
  exact absurd hfound (show (2 : ResourceID) ≠ 4 by decide)

end UDPServer

end SigmaMedia
