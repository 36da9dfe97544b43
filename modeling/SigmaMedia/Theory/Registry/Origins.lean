import SigmaMedia.Theory.Registry.Roll

/-!
# Where Sessions Come From

A session is what an accepted offer made of it. Nothing that arrives later
changes what it negotiated or what it is there for, and its client stays at
the address it was first nominated from. So everything a session says of
itself can be traced to two places of the run that led to it: the offer it
joined with, and the first nomination since.

## Main definitions

* `Admits`: A command that makes a session, and what it makes of it.
* `Change.nomination`: Where a command wants the client of a session to be.
* `Origin`: The places of a run a record comes from.

## Theorems

* `admits_of_enters`: Sessions are entered by offers that are admitted.
* `step_origin`: A command keeps the origins of all records.
* `run_origin`, `session_origin`: Every record, and every session, has one.
-/

namespace SigmaMedia

open Bytes Exec Function Net Sdp Stun Text Trace

variable {crates : Crates}

/-- Where a command wants the client of a session to be. -/
def Change.nomination (k : ResourceID) : Change → Option SocketAddr
  | .hears j _ address => if j = k then address else none
  | _ => none

namespace UDPServer

/-- A command makes a session: an offer that is accepted, of a streamer or of a
    viewer against what the owner of the room negotiated. -/
inductive Admits (server : UDPServer crates) (env : Env) :
    Command → ResourceID → NegotiatedSession → Role → Prop
  | streamer {sdpOffer : Text} {mediaSession : NegotiatedSession} :
      server.sdpResolver.acceptStreamOffer sdpOffer env.draws = .ok mediaSession →
      Admits server env (.addStreamer sdpOffer) env.resourceId mediaSession
        (.streamer env.roomId)
  | viewer {sdpOffer : Text} {targetId : RoomID} {room : Room} {owner : Session crates}
      {mediaSession : NegotiatedSession} :
      server.sessionRegistry.getRoom targetId = some room →
      server.sessionRegistry.getSession room.ownerId = some owner →
      server.sdpResolver.acceptViewerOffer sdpOffer owner.mediaSession env.draws
        = .ok mediaSession →
      Admits server env (.addViewer sdpOffer targetId) env.resourceId mediaSession
        (.viewer targetId)

/-- The places of a run a record comes from: the offer that made the session,
    and the first nomination since. No other offer has made it since. -/
def Origin (first : UDPServer crates) (inputs : List (Command × Env)) (k : ResourceID)
    (record : Record) : Prop :=
  ∃ before input later server₁ outputs₁ server₂ output,
    inputs = before ++ input :: later ∧
    feed step first before = .ok (server₁, outputs₁) ∧
    server₁.step input = .ok (server₂, output) ∧
    server₁.Admits input.2 input.1 k record.mediaSession record.role ∧
    record.address = (observed change step server₂ later).findSome? (Change.nomination k) ∧
    ∀ c ∈ observed change step server₂ later, ∀ record', c ≠ .enters k record'

variable {server server' : UDPServer crates}

theorem viewerMedia_eq_some {sdpOffer : Text} {targetId : RoomID} {env : Env}
    {mediaSession : NegotiatedSession} :
    server.viewerMedia sdpOffer targetId env = some mediaSession ↔
      ∃ room owner, server.sessionRegistry.getRoom targetId = some room ∧
        server.sessionRegistry.getSession room.ownerId = some owner ∧
        server.sdpResolver.acceptViewerOffer sdpOffer owner.mediaSession env.draws
          = .ok mediaSession := by
  simp only [viewerMedia, Option.bind_eq_bind, Option.bind_eq_some_iff, toOption_eq_some]
  constructor
  · intro h
    rcases h with ⟨room, hroom, owner, howner, haccept⟩
    exact ⟨room, owner, hroom, howner, haccept⟩
  · intro h
    rcases h with ⟨room, owner, hroom, howner, haccept⟩
    exact ⟨room, hroom, owner, howner, haccept⟩

/-- Sessions are entered by offers that are admitted. -/
theorem admits_of_enters {input : Command × Env} {k : ResourceID} {record : Record}
    (h : server.change input = .enters k record) :
    server.Admits input.2 input.1 k record.mediaSession record.role ∧ record.address = none := by
  rcases input with ⟨command, env⟩
  -- Only an offer that is accepted enters somebody.
  cases command with
  | handlePacket packet remote =>
      simp only [change] at h
      rcases hhearing : server.hearing packet remote with _ | ⟨j, address⟩
      · rw [hhearing] at h
        cases h
      · rw [hhearing] at h
        cases h
  | addStreamer sdpOffer =>
      simp only [change] at h
      cases haccept : server.sdpResolver.acceptStreamOffer sdpOffer env.draws with
      | error e =>
          rw [haccept] at h
          cases h
      | ok mediaSession =>
          rw [haccept] at h
          cases h
          exact ⟨.streamer haccept, rfl⟩
  | addViewer sdpOffer targetId =>
      simp only [change] at h
      cases haccept : server.viewerMedia sdpOffer targetId env with
      | none =>
          rw [haccept] at h
          cases h
      | some mediaSession =>
          rw [haccept] at h
          cases h
          rcases viewerMedia_eq_some.mp haccept with ⟨room, owner, hroom, howner, hoffer⟩
          exact ⟨.viewer hroom howner hoffer, rfl⟩
  | sendRoomsStatus => cases h
  | runPeriodicChecks => cases h

/-- A record goes on when a command changes it: it stays what it was, and has
    the address it had or the one the command gives it. -/
theorem Origin.next {first : UDPServer crates} {past : List (Command × Env)}
    {outputs : List Output} {input : Command × Env} {output : Output} {k : ResourceID}
    {record record' : Record} (h : Origin first past k record)
    (hpast : feed step first past = .ok (server, outputs))
    (hstep : server.step input = .ok (server', output))
    (henters : ∀ r, server.change input ≠ .enters k r)
    (hmedia : record'.mediaSession = record.mediaSession) (hrole : record'.role = record.role)
    (haddress : record'.address = record.address.or ((server.change input).nomination k)) :
    Origin first (past ++ [input]) k record' := by
  rcases h with ⟨before, joining, later, server₁, outputs₁, server₂, output₂, rfl, hbefore, hone,
    hadmits, hfirst, hnone⟩
  -- The run goes on from where the session joined.
  have hjoined := feed_append_of_ok hbefore (feed_cons hone (feed_nil step server₂))
  rw [List.append_cons] at hpast
  rcases feed_append_eq_ok hjoined hpast with ⟨outputs₃, hlater, _⟩
  have hobserved : observed change step server₂ (later ++ [input])
      = observed change step server₂ later ++ [server.change input] := by
    rw [observed_append hlater, observed_cons hstep]
    rfl
  refine ⟨before, joining, later ++ [input], server₁, outputs₁, server₂, output₂,
    by rw [List.append_assoc, List.cons_append], hbefore, hone, ?_, ?_, ?_⟩
  · rw [hmedia, hrole]
    exact hadmits
  · rw [haddress, hfirst, hobserved, List.findSome?_append, List.findSome?_singleton]
  · rw [hobserved, List.forall_mem_append, List.forall_mem_singleton]
    exact ⟨hnone, henters⟩

/-- A command keeps the origins of all records. -/
theorem step_origin {first : UDPServer crates} {past : List (Command × Env)}
    {outputs : List Output} {input : Command × Env} {output : Output}
    (hpast : feed step first past = .ok (server, outputs)) (hfiled : server.directory.Filed)
    (horigin : ∀ k record, server.roll k = some record → Origin first past k record)
    (h : server.step input = .ok (server', output)) {k : ResourceID} {record : Record}
    (hrecord : server'.roll k = some record) : Origin first (past ++ [input]) k record := by
  rw [step_roll hfiled h] at hrecord
  -- What the command is for anybody but the session it is about.
  have hother : (∀ r, server.change input ≠ .enters k r) →
      (server.change input).nomination k = none → server.roll k = some record →
      Origin first (past ++ [input]) k record := by
    intro henters hnomination hheld
    refine (horigin k record hheld).next hpast h henters rfl rfl ?_
    rw [hnomination, Option.or_none]
  cases hchange : server.change input with
  | stays =>
      rw [hchange] at hrecord
      have hnew : ∀ r, server.change input ≠ .enters k r := by
        intro r heq
        rw [hchange] at heq
        cases heq
      exact hother hnew (by rw [hchange]; rfl) hrecord
  | enters j entered =>
      rw [hchange, Change.apply, update_apply] at hrecord
      by_cases hj : k = j
      · -- The session joins here.
        rw [if_pos hj, Option.some.injEq] at hrecord
        rcases admits_of_enters hchange with ⟨hadmits, hnone⟩
        rw [← hj, hrecord] at hadmits
        rw [hrecord] at hnone
        exact ⟨past, input, [], server, outputs, server', output, rfl, hpast, h, hadmits, hnone,
          List.forall_mem_nil _⟩
      · rw [if_neg hj] at hrecord
        refine hother ?_ (by rw [hchange]; rfl) hrecord
        rw [hchange]
        intro r heq
        cases heq
        exact hj rfl
  | hears j now address =>
      have hnew : ∀ r, server.change input ≠ .enters k r := by
        intro r heq
        rw [hchange] at heq
        cases heq
      rw [hchange, Change.apply, update_apply] at hrecord
      by_cases hj : k = j
      · rw [if_pos hj, ← hj, Option.map_eq_some_iff] at hrecord
        rcases hrecord with ⟨before, hbefore, rfl⟩
        refine (horigin k before hbefore).next hpast h hnew rfl rfl ?_
        rw [hchange, Change.nomination, if_pos hj.symm, Record.heard]
      · rw [if_neg hj] at hrecord
        refine hother hnew ?_ hrecord
        rw [hchange, Change.nomination, if_neg (Ne.symm hj)]
  | sweeps clock taken =>
      have hnew : ∀ r, server.change input ≠ .enters k r := by
        intro r heq
        rw [hchange] at heq
        cases heq
      rw [hchange, Change.apply] at hrecord
      rcases Option.bind_eq_some_iff.mp hrecord with ⟨before, hbefore, hswept⟩
      rw [Option.ite_none_left_eq_some, Option.some.injEq] at hswept
      have hkept : record.mediaSession = before.mediaSession ∧ record.role = before.role ∧
          record.address = before.address := by
        rw [← hswept.2, Record.stamped]
        split
        · exact ⟨rfl, rfl, rfl⟩
        · exact ⟨rfl, rfl, rfl⟩
      refine (horigin k before hbefore).next hpast h hnew hkept.1 hkept.2.1 ?_
      rw [hchange, hkept.2.2]
      exact (Option.or_none).symm

theorem feed_filed {inputs : List (Command × Env)} {outputs : List Output}
    (hfiled : server.directory.Filed) (h : feed step server inputs = .ok (server', outputs)) :
    server'.directory.Filed := by
  refine feed_past (fun _ s => s.directory.Filed) hfiled ?_ h
  intro past s os i s₁ o _ hs hstep
  exact step_filed hs hstep

theorem run_origin (resolver : SDPResolver) {inputs : List (Command × Env)}
    {server : UDPServer crates} {outputs : List Output}
    (h : feed step (UDPServer.new resolver) inputs = .ok (server, outputs)) {k : ResourceID}
    {record : Record} (hrecord : server.roll k = some record) :
    Origin (UDPServer.new resolver : UDPServer crates) inputs k record := by
  -- Nobody is there at the start, and a command keeps the origins.
  refine feed_past (fun past s => ∀ k record, s.roll k = some record →
    Origin (UDPServer.new resolver : UDPServer crates) past k record)
    (fun k record hk => (by cases hk)) ?_ h k record hrecord
  intro past s os i s₁ o hpast hs hstep k record hrecord
  exact step_origin hpast (feed_filed (new_filed resolver) hpast) hs hstep hrecord

/-- Every session of every reachable state was made by an offer that was
    accepted. It is still what the offer made of it, and its client is where
    the first nomination since came from. -/
theorem session_origin (resolver : SDPResolver) {inputs : List (Command × Env)}
    {server : UDPServer crates} {outputs : List Output}
    (h : feed step (UDPServer.new resolver) inputs = .ok (server, outputs)) {k : ResourceID}
    {session : Session crates}
    (hsession : server.sessionRegistry.sessions.lookup k = some session) :
    ∃ before input later server₁ outputs₁ server₂ output,
      inputs = before ++ input :: later ∧
      feed step (UDPServer.new resolver : UDPServer crates) before = .ok (server₁, outputs₁) ∧
      server₁.step input = .ok (server₂, output) ∧
      server₁.Admits input.2 input.1 k session.mediaSession session.connectionType.role ∧
      session.client.map Client.remoteAddress
        = (observed change step server₂ later).findSome? (Change.nomination k) ∧
      ∀ c ∈ observed change step server₂ later, ∀ record, c ≠ .enters k record := by
  exact run_origin resolver h (roll_of_lookup hsession)

/-- A streamer is nominated from one port, then from another, and another
    streamer joins in between. -/
def nominatedTwice : List (Command × Env) :=
  [streaming "user".toList 1 2, nominating "host:user".toList 5000,
    streaming "other".toList 3 4, nominating "host:user".toList 5001]

/-- The streamer stays at the first of its ports. -/
theorem session_origin_nominated_twice :
    ∃ (server : UDPServer plainCrates) (outputs : List Output) (session : Session plainCrates),
      feed step (UDPServer.new loopbackResolver) nominatedTwice = .ok (server, outputs) ∧
      server.sessionRegistry.sessions.lookup 2 = some session ∧
      session.client.map Client.remoteAddress = some (loopback 5000) ∧
      ∃ before input later server₁ outputs₁ server₂ output,
        nominatedTwice = before ++ input :: later ∧
        feed step (UDPServer.new loopbackResolver : UDPServer plainCrates) before
          = .ok (server₁, outputs₁) ∧
        server₁.step input = .ok (server₂, output) ∧
        server₁.Admits input.2 input.1 2 session.mediaSession session.connectionType.role ∧
        session.client.map Client.remoteAddress
          = (observed change step server₂ later).findSome? (Change.nomination 2) ∧
        ∀ c ∈ observed change step server₂ later, ∀ record, c ≠ .enters 2 record := by
  have hrun : passes
      (feed step (UDPServer.new loopbackResolver : UDPServer plainCrates) nominatedTwice)
      (fun result => decide ((result.1.sessionRegistry.sessions.lookup 2).map
        (fun session => session.client.map Client.remoteAddress) = some (some (loopback 5000))))
      = true := by decide +kernel
  rcases of_passes hrun with ⟨⟨server, outputs⟩, hfeed, hend⟩
  rcases Option.map_eq_some_iff.mp (of_decide_eq_true hend) with ⟨session, hsession, haddress⟩
  exact ⟨server, outputs, session, hfeed, hsession, haddress,
    session_origin loopbackResolver hfeed hsession⟩

end UDPServer

end SigmaMedia
