import SigmaMedia.Theory.Registry.Indexes
import SigmaMedia.Theory.Registry.Origins
import SigmaMedia.Theory.Registry.Sessions

/-!
# Where Datagrams Are Sent

The server sends to whoever it hears from and to nobody else. A binding
request is answered to its sender. A handshake is written to the stream it was
made with, and that is the stream of the client's own address. Media goes to
the clients of viewers. Each of these addresses is one a datagram has come
from, so the server cannot be made to send to a third party that never sent it
anything.

Media is held to more. It comes from the client of a streamer and goes to the
clients of viewers of the streamer's room, each at the address of a nomination
that named the usernames the viewer negotiated.

## Main definitions

* `Session.Aimed`: The handshake of a session is written to its client.
* `NominatedFrom`: A nomination of a session was taken before.

## Theorems

* `withstands_aimed`: Handshakes stay aimed.
* `processPacket_sent`: Where the datagrams of one command go.
* `sent_to_heard`: In every run they go to senders of datagrams.
* `media_to_viewers`: In every run whose draws are new media goes from
  streamers to viewers of their rooms.
-/

namespace SigmaMedia

open Bytes Exec Net Rtp Sdp Stun Text Thumbnail Trace

variable {crates : Crates}

/-- The handshake of a session, while it lasts, is written to its client. -/
def Session.Aimed (session : Session crates) : Prop :=
  ∀ client mid, session.client = some client → client.sslState = .handshake mid →
    mid.stream.remote = client.remoteAddress

/-- A new client's handshake is written to it. -/
theorem Client.new_aimed {client : Client crates.dtls} {remote : SocketAddr}
    {written : List Bytes} (h : Client.new crates.dtls remote = .ok (.ok client, written))
    {mid : MidHandshakeSslStream crates.dtls} (hstate : client.sslState = .handshake mid) :
    mid.stream.remote = client.remoteAddress := by
  unfold Client.new at h
  simp only [] at h
  split at h
  · cases h
  · cases h
  · cases h
  · cases h
    cases hstate
    rfl

/-- Reading a packet leaves a handshake where it was written to. -/
theorem Client.readPacket_aimed {client client' : Client crates.dtls} {packet : Bytes}
    {result : Except ClientError Unit} {written : List Bytes}
    (haimed : ∀ mid, client.sslState = .handshake mid → mid.stream.remote = client.remoteAddress)
    (h : client.readPacket packet = .ok (client', result, written))
    {mid : MidHandshakeSslStream crates.dtls} (hstate : client'.sslState = .handshake mid) :
    mid.stream.remote = client'.remoteAddress := by
  unfold Client.readPacket at h
  cases hbefore : client.sslState with
  | established stream =>
      rw [hbefore] at h
      cases h
      cases hstate
  | shutdown =>
      rw [hbefore] at h
      cases h
      cases hstate
  -- A handshake goes on in the same stream, whatever comes of it.
  | handshake mid₀ =>
      have hremote := haimed mid₀ hbefore
      simp only [hbefore] at h
      cases houtcome : (crates.dtls.handshake mid₀.handshake
          (mid₀.stream.incomingPackets ++ [packet])).outcome with
      | ok session =>
          simp only [houtcome, bind_eq_ok, Prod.exists, pure_eq_ok, Except.ok.injEq,
            Prod.mk.injEq] at h
          rcases h with ⟨inbound, outbound, _, rfl, _⟩
          cases hstate
      | setupFailure =>
          rw [houtcome] at h
          cases h
          cases hstate
      | failure handshake =>
          rw [houtcome] at h
          cases h
          cases hstate
          exact hremote
      | wouldBlock handshake =>
          rw [houtcome] at h
          cases h
          cases hstate
          exact hremote

theorem withstands_aimed (server : UDPServer crates) (packet : Bytes) (remote : SocketAddr) :
    Withstands server packet remote Session.Aimed where
  touched _ _ h := h
  nominated session client written _ _ hnew := by
    intro client' mid hclient hstate
    cases hclient
    exact Client.new_aimed hnew hstate
  -- Only this may leave the client in the middle of a handshake.
  read session client client' result written h hbefore hread := by
    intro client'' mid hclient hstate
    cases hclient
    exact Client.readPacket_aimed (fun mid => h client mid hbefore) hread hstate
  received session client stream _ _ _ := by
    intro client' mid hclient hstate
    cases hclient
    cases hstate
  watched id session now client stream streamer extractor _ _ _ _ _ _ := by
    intro client' mid hclient hstate
    cases hclient
    cases hstate
  sent session client stream plaintext _ _ _ := by
    intro client' mid hclient hstate
    cases hclient
    cases hstate

namespace UDPServer

variable {server server' : UDPServer crates}

theorem step_aimed {input : Command × Env} {output : Output} (hfiled : server.directory.Filed)
    (haimed : server.Everyone Session.Aimed) (h : server.step input = .ok (server', output)) :
    server'.Everyone Session.Aimed := by
  refine step_everyone hfiled ?_ ?_
    (fun packet remote _ => withstands_aimed server packet remote) ?_ haimed h
  · intro mediaSession session hnew client mid hclient
    simp only [Session.newStreamer, bind_eq_ok, pure_eq_ok, Except.ok.injEq] at hnew
    rcases hnew with ⟨_, _, rfl⟩
    cases hclient
  · intro mediaSession targetId client mid hclient
    cases hclient
  · -- A stamp is no business of the client's.
    intro session now h
    unfold stamped
    split
    · exact h
    · exact h

/-- The client of some session is at an address. -/
def Hosts (server : UDPServer crates) (address : SocketAddr) : Prop :=
  ∃ k record, server.roll k = some record ∧ record.address = some address

theorem hosts_of_lookup {k : ResourceID} {session : Session crates} {client : Client crates.dtls}
    (hlookup : server.sessionRegistry.sessions.lookup k = some session)
    (hclient : session.client = some client) : server.Hosts client.remoteAddress := by
  refine ⟨k, session.record, roll_of_lookup hlookup, ?_⟩
  rw [Session.record, hclient, Option.map_some]

/-- Being heard gives nobody a client. -/
theorem hosts_of_touched {arrival : Arrival} {id : ResourceID} {address : SocketAddr}
    (h : (server.touched arrival id).Hosts address) : server.Hosts address := by
  rcases h with ⟨k, record, hrecord, haddress⟩
  have htouched : (server.touched arrival id).roll
      = (Change.hears id arrival.now none).apply server.roll := roll_touch _ id arrival.now
  rw [htouched, Change.apply, Function.update_apply] at hrecord
  by_cases hk : k = id
  · rw [if_pos hk, Option.map_eq_some_iff] at hrecord
    rcases hrecord with ⟨before, hbefore, rfl⟩
    rw [Record.heard, Option.or_none] at haddress
    exact ⟨id, before, hbefore, haddress⟩
  · rw [if_neg hk] at hrecord
    exact ⟨k, record, hrecord, haddress⟩

/-- A binding request is answered to its sender, and no media is sent for it. -/
theorem handleStunPacket_sent {message : ICEStunMessageType} {remote : SocketAddr}
    {now : Instant} {sent : List Datagram}
    (h : server.handleStunPacket remote message now = .ok (server', sent)) :
    ∀ d ∈ sent, d.remote = remote ∧ d.kind ≠ .media := by
  have hresponse : ∀ {text : String} {mediaSession : NegotiatedSession} {msg : ICEStunPacket}
      {d : Datagram}, stunResponse crates text mediaSession msg remote = .ok d →
      d.remote = remote ∧ d.kind ≠ .media := by
    intro text mediaSession msg d hd
    simp only [stunResponse, bind_eq_ok, Prod.exists, pure_eq_ok, Except.ok.injEq] at hd
    rcases hd with ⟨_, _, _, _, _, _, _, rfl⟩
    exact ⟨rfl, fun h => (by cases h)⟩
  cases message with
  | liveCheck msg =>
      simp only [handleStunPacket] at h
      split at h
      · cases h
        exact List.forall_mem_nil _
      · simp only [bind_eq_ok, pure_eq_ok, Except.ok.injEq, Prod.mk.injEq] at h
        rcases h with ⟨response, hcreated, _, rfl⟩
        exact List.forall_mem_singleton.mpr (hresponse hcreated)
  | nomination msg =>
      simp only [handleStunPacket] at h
      split at h
      · cases h
        exact List.forall_mem_nil _
      · simp only [bind_eq_ok, Prod.exists, pure_eq_ok, Except.ok.injEq, Prod.mk.injEq] at h
        rcases h with ⟨_, _, _, written, _, _, _, response, hcreated, _, rfl⟩
        rw [List.forall_mem_append, List.forall_mem_singleton]
        refine ⟨?_, hresponse hcreated⟩
        -- What the new client's handshake writes goes to it.
        intro d hd
        rcases List.mem_map.mp hd with ⟨bytes, _, rfl⟩
        exact ⟨rfl, fun h => (by cases h)⟩

/-- What is sent for any other datagram goes to clients. -/
theorem handleDatagram_sent {arrival : Arrival} {sent : List Datagram}
    (haimed : server.Everyone Session.Aimed)
    (h : server.handleDatagram arrival = .ok (server', sent)) :
    ∀ d ∈ sent, server.Hosts d.remote := by
  rcases hsender : server.sender arrival.remote with _ | ⟨id, session, client⟩
  · rw [handleDatagram_of_none hsender] at h
    cases h
    exact List.forall_mem_nil _
  · rcases sender_eq_some.mp hsender with ⟨hfound, hclient⟩
    rcases SessionRegistry.getSessionByAddress_eq_some.mp hfound with ⟨haddress, hlookup⟩
    -- A viewer that is through with its handshake is sent nothing.
    have hviewer : ∀ viewer, session.connectionType = .viewer viewer →
        (∀ mid, client.sslState ≠ .handshake mid) → ∀ d ∈ sent, server.Hosts d.remote := by
      intro viewer hkind hdone
      rw [handleDatagram_viewer hsender hkind hdone] at h
      cases h
      exact List.forall_mem_nil _
    cases hstate : client.sslState with
    | handshake mid =>
        rw [handleDatagram_handshake hsender hstate] at h
        simp only [continueHandshake, bind_eq_ok, Prod.exists, pure_eq_ok, Except.ok.injEq,
          Prod.mk.injEq] at h
        rcases h with ⟨_, _, written, _, _, rfl⟩
        intro d hd
        rcases List.mem_map.mp hd with ⟨bytes, _, rfl⟩
        -- The stream of a handshake is aimed at its own client.
        simp only [haimed id session hlookup client mid hclient hstate]
        exact hosts_of_lookup hlookup hclient
    | established stream =>
        cases hkind : session.connectionType with
        | viewer viewer => exact hviewer viewer hkind fun mid h => (by rw [hstate] at h; cases h)
        | streamer streamer =>
            rw [handleDatagram_streamer hsender hkind hstate] at h
            have hmedia : (server.touched arrival id).sessionRegistry.senderMedia arrival.remote
                = some session.mediaSession := by
              refine (SessionRegistry.senderMedia_updateSession _ _ _ ?_ arrival.remote).trans ?_
              · intro _
                rfl
              · rw [SessionRegistry.senderMedia, hfound, Option.map_some]
            rcases handleMedia_sent (lookup_touched hlookup) hclient hstate hmedia h with
              ⟨_, rfl⟩ | ⟨_, room, _, rfl⟩
            · exact List.forall_mem_nil _
            · intro d hd
              rcases List.mem_filterMap.mp hd with ⟨k, _, hcopy⟩
              -- A copy goes to the client of the viewer it is for.
              rcases copyTo_eq_some.mp hcopy with
                ⟨viewer, viewerClient, _, _, hlookup', hclient', _, _, _, _, rfl⟩
              exact hosts_of_touched (hosts_of_lookup hlookup' hclient')
    | shutdown =>
        cases hkind : session.connectionType with
        | viewer viewer => exact hviewer viewer hkind fun mid h => (by rw [hstate] at h; cases h)
        | streamer streamer =>
            rw [handleDatagram_shutdown hsender hkind hstate] at h
            cases h

/-- What is sent for a datagram goes back to its sender or to clients. -/
theorem processPacket_sent {packet : Bytes} {remote : SocketAddr} {now : Instant}
    {order : Enumeration ResourceID} {sent : List Datagram}
    (haimed : server.Everyone Session.Aimed)
    (h : server.processPacket packet remote now order = .ok (server', sent)) :
    ∀ d ∈ sent, d.remote = remote ∨ server.Hosts d.remote := by
  simp only [processPacket, bind_eq_ok] at h
  rcases h with ⟨message, _, h⟩
  intro d hd
  cases message with
  | none =>
      have hother : server.handleDatagram ⟨packet, remote, now, order⟩ = .ok (server', sent) := h
      exact Or.inr (handleDatagram_sent haimed hother d hd)
  | some message => exact Or.inl (handleStunPacket_sent h d hd).1

/-- A command that gives the client of a session an address is a nomination
    from there that names the session. -/
theorem nomination_eq_some {input : Command × Env} {k : ResourceID} {address : SocketAddr}
    (h : (server.change input).nomination k = some address) :
    ∃ packet msg, input.1 = .handlePacket packet address ∧
      getStunPacket packet = .ok (some (.nomination msg)) ∧
      server.sessionRegistry.usernameMap.lookup msg.usernameAttribute = some k := by
  rcases input with ⟨command, env⟩
  cases command with
  | handlePacket packet remote =>
      simp only [change] at h
      rcases hhearing : server.hearing packet remote with _ | ⟨j, aim⟩
      · rw [hhearing] at h
        cases h
      · rw [hhearing, Change.ofHearing, Change.nomination] at h
        by_cases hj : j = k
        · rw [if_pos hj] at h
          rw [hj, h] at hhearing
          unfold hearing at hhearing
          -- Of all messages only a nomination names an address.
          cases hpacket : getStunPacket packet with
          | error p =>
              rw [hpacket] at hhearing
              cases hhearing
          | ok message =>
              rw [hpacket] at hhearing
              rcases message with _ | (msg | msg)
              · rcases Option.map_eq_some_iff.mp hhearing with ⟨_, _, heq⟩
                cases heq
              · rcases Option.map_eq_some_iff.mp hhearing with ⟨_, _, heq⟩
                cases heq
              · rcases Option.map_eq_some_iff.mp hhearing with ⟨⟨id, session⟩, hfound, heq⟩
                cases heq
                exact ⟨packet, msg, rfl, hpacket,
                  (SessionRegistry.getSessionByUsername_eq_some.mp hfound).1⟩
        · rw [if_neg hj] at h
          cases h
  | addStreamer sdpOffer =>
      simp only [change] at h
      cases haccept : server.sdpResolver.acceptStreamOffer sdpOffer env.draws with
      | error e =>
          rw [haccept] at h
          cases h
      | ok mediaSession =>
          rw [haccept] at h
          cases h
  | addViewer sdpOffer targetId =>
      simp only [change] at h
      cases haccept : server.viewerMedia sdpOffer targetId env with
      | none =>
          rw [haccept] at h
          cases h
      | some mediaSession =>
          rw [haccept] at h
          cases h
  | sendRoomsStatus => cases h
  | runPeriodicChecks => cases h

/-- A client is where a datagram came from. -/
theorem heard_of_hosts (resolver : SDPResolver) {inputs : List (Command × Env)}
    {server : UDPServer crates} {outputs : List Output}
    (h : feed step (UDPServer.new resolver) inputs = .ok (server, outputs)) {address : SocketAddr}
    (hhosts : server.Hosts address) :
    ∃ packet env, (.handlePacket packet address, env) ∈ inputs := by
  rcases hhosts with ⟨k, record, hrecord, haddress⟩
  rcases run_origin resolver h hrecord with
    ⟨before, input, later, server₁, _, server₂, _, rfl, hbefore, hone, _, hfirst, _⟩
  rw [haddress] at hfirst
  rcases List.exists_of_findSome?_eq_some hfirst.symm with ⟨c, hc, hnomination⟩
  -- The nomination is one of the commands after the session joined.
  have hjoined := feed_append_of_ok hbefore (feed_cons hone (feed_nil step server₂))
  rw [List.append_cons] at h
  rcases feed_append_eq_ok hjoined h with ⟨_, hlater, _⟩
  rcases mem_observed hlater hc with ⟨before', ⟨command, env⟩, later', server₃, _, rfl, _, rfl⟩
  rcases nomination_eq_some hnomination with ⟨packet, _, hcommand, _⟩
  cases hcommand
  refine ⟨packet, env, ?_⟩
  exact List.mem_append_right _ (List.mem_cons_of_mem _
    (List.mem_append_right _ List.mem_cons_self))

/-- Datagrams are sent for datagrams only. -/
theorem step_datagrams {input : Command × Env} {sent : List Datagram}
    (h : server.step input = .ok (server', .datagrams sent)) :
    ∃ packet remote, input.1 = .handlePacket packet remote ∧
      server.processPacket packet remote input.2.now input.2.order = .ok (server', sent) := by
  -- The reply to an offer is no datagram.
  have hrespond : ∀ {s s' : UDPServer crates} {env : Env} {answer : Option SDP},
      s.respond env answer ≠ .ok (s', .datagrams sent) := by
    intro s s' env answer h
    unfold respond at h
    split at h
    · cases h
    · cases h
  rcases input with ⟨command, env⟩
  cases command with
  | handlePacket packet remote =>
      simp only [step, bind_eq_ok, Prod.exists, pure_eq_ok, Except.ok.injEq, Prod.mk.injEq,
        Output.datagrams.injEq] at h
      rcases h with ⟨_, _, hpacket, rfl, rfl⟩
      exact ⟨packet, remote, rfl, hpacket⟩
  | addStreamer sdpOffer =>
      simp only [step, addStreamer] at h
      split at h
      · exact absurd h hrespond
      · rcases bind_eq_ok.mp h with ⟨_, _, h⟩
        exact absurd h hrespond
  | addViewer sdpOffer targetId =>
      simp only [step, addViewer] at h
      split at h
      · exact absurd h hrespond
      · rcases bind_eq_ok.mp h with ⟨_, _, h⟩
        exact absurd h hrespond
  | sendRoomsStatus => cases h
  | runPeriodicChecks =>
      simp only [step, runPeriodicChecks, bind_eq_ok, pure_eq_ok, Except.ok.injEq,
        Prod.mk.injEq, reduceCtorEq, and_false, exists_false] at h

/-- The datagrams a step of a run sent. -/
def sentAt (outputs : List Output) (i : Nat) : List Datagram :=
  match outputs[i]? with
  | some (.datagrams sent) => sent
  | _ => []

theorem exists_sentAt {α : Type} {g : Datagram → α} {outputs : List Output} {i : Nat} {a : α}
    (h : (sentAt outputs i).map g = [a]) :
    ∃ sent d, outputs[i]? = some (.datagrams sent) ∧ d ∈ sent ∧ g d = a := by
  unfold sentAt at h
  split at h
  · rename_i sent hsent
    rcases List.map_eq_cons_iff.mp h with ⟨d, rest, rfl, hd, _⟩
    exact ⟨d :: rest, d, hsent, List.mem_cons_self, hd⟩
  · cases h

/-- In every run each datagram is sent to an address a datagram came from, in
    the same command or before. -/
theorem sent_to_heard (resolver : SDPResolver) {inputs : List (Command × Env)}
    {server : UDPServer crates} {outputs : List Output}
    (h : feed step (UDPServer.new resolver) inputs = .ok (server, outputs)) {i : Nat}
    {sent : List Datagram} (hsent : outputs[i]? = some (.datagrams sent)) {d : Datagram}
    (hd : d ∈ sent) :
    ∃ packet env, (.handlePacket packet d.remote, env) ∈ inputs.take (i + 1) := by
  have hout : ∃ input, inputs[i]? = some input ∧
      ∃ packet env, (.handlePacket packet d.remote, env) ∈ inputs.take i ++ [input] := by
    -- Along the run every handshake is aimed at its own client.
    refine feed_history
      (fun _ s => s.directory.Filed ∧ s.Everyone Session.Aimed)
      (fun past input output => ∀ sent, output = .datagrams sent → ∀ d ∈ sent,
        ∃ packet env, (.handlePacket packet d.remote, env) ∈ past ++ [input])
      ⟨new_filed resolver, fun k session hk => (by cases hk)⟩ ?_ h hsent |>.imp
        fun input hinput => ⟨hinput.1, hinput.2 sent rfl d hd⟩
    intro past s os input s₁ o hpast hinv hstep
    refine ⟨⟨step_filed hinv.1 hstep, step_aimed hinv.1 hinv.2 hstep⟩, ?_⟩
    rintro sent rfl d hd
    rcases input with ⟨command, env⟩
    rcases step_datagrams hstep with ⟨packet, remote, rfl, hprocess⟩
    -- It goes back to the sender, or to a client, whose address was heard when
    -- it was nominated.
    rcases processPacket_sent hinv.2 hprocess d hd with rfl | hhosts
    · exact ⟨packet, env, List.mem_append_right _ (List.mem_singleton_self _)⟩
    · rcases heard_of_hosts resolver hpast hhosts with ⟨packet', env', hmem⟩
      exact ⟨packet', env', List.mem_append_left _ hmem⟩
  rcases hout with ⟨input, hinput, packet, env, hmem⟩
  refine ⟨packet, env, ?_⟩
  rw [List.take_add_one, hinput]
  exact hmem

/-- A viewer that joins with a username of its own. -/
def guest : Command × Env :=
  (.addViewer (offerText "peer".toList "recvonly".toList "109".toList "126".toList) 1,
    { drawing 3 4 with
      draws := { fixedDraws with
        hostUsername := ⟨"mate".toList, rfl, List.all_eq_true.mp rfl⟩ } })

/-- A streamer at one port and a viewer at another are nominated and through
    with their handshakes, and the streamer sends a packet. -/
def relayed : List (Command × Env) :=
  [nominating "host:user".toList 5000, nominating "mate:peer".toList 5001,
    (.handlePacket [22] (loopback 5000), drawing 0 0),
    (.handlePacket [22] (loopback 5001), drawing 0 0),
    (.handlePacket [0x80, 0x6f, 0, 1, 0, 0, 0, 0, 0, 0, 0, 7, 0xaa] (loopback 5000),
      drawing 0 0)]

/-- The last packet is sent on to the viewer's port. -/
theorem exists_relayed :
    ∃ (server : UDPServer plainCrates) (outputs : List Output) (sent : List Datagram)
      (d : Datagram),
      feed step (UDPServer.new loopbackResolver)
        (streaming "user".toList 1 2 :: guest :: relayed) = .ok (server, outputs) ∧
      outputs[6]? = some (.datagrams sent) ∧ d ∈ sent ∧ d.kind = .media ∧
      d.remote = loopback 5001 := by
  have hrun : passes (feed step (UDPServer.new loopbackResolver : UDPServer plainCrates)
      (streaming "user".toList 1 2 :: guest :: relayed))
      (fun result => decide ((sentAt result.2 6).map (fun d => (d.kind, d.remote))
        = [(.media, loopback 5001)])) = true := by decide +kernel
  rcases of_passes hrun with ⟨⟨server, outputs⟩, hfeed, hend⟩
  rcases exists_sentAt (of_decide_eq_true hend) with ⟨sent, d, hsent, hd, hkind⟩
  rw [Prod.mk.injEq] at hkind
  exact ⟨server, outputs, sent, d, hfeed, hsent, hd, hkind.1, hkind.2⟩

/-- A packet the streamer sends from its port goes to the viewer's port, which
    was heard from before. -/
theorem sent_to_heard_relayed :
    ∃ (server : UDPServer plainCrates) (outputs : List Output) (sent : List Datagram)
      (d : Datagram),
      feed step (UDPServer.new loopbackResolver)
        (streaming "user".toList 1 2 :: guest :: relayed) = .ok (server, outputs) ∧
      outputs[6]? = some (.datagrams sent) ∧ d ∈ sent ∧ d.kind = .media ∧
      d.remote = loopback 5001 ∧
      ∃ packet env, (.handlePacket packet d.remote, env) ∈
        (streaming "user".toList 1 2 :: guest :: relayed).take (6 + 1) := by
  rcases exists_relayed with ⟨server, outputs, sent, d, hfeed, hsent, hd, hkind, hremote⟩
  exact ⟨server, outputs, sent, d, hfeed, hsent, hd, hkind, hremote,
    sent_to_heard loopbackResolver hfeed hsent hd⟩

/-- A nomination from an address named a pair of usernames. -/
def NominatedFrom (inputs : List (Command × Env)) (address : SocketAddr)
    (username : SessionUsername) : Prop :=
  ∃ packet msg env, (.handlePacket packet address, env) ∈ inputs ∧
    getStunPacket packet = .ok (some (.nomination msg)) ∧ msg.usernameAttribute = username

theorem NominatedFrom.later {inputs : List (Command × Env)} {address : SocketAddr}
    {username : SessionUsername} (h : NominatedFrom inputs address username)
    (input : Command × Env) : NominatedFrom (inputs ++ [input]) address username := by
  rcases h with ⟨packet, msg, env, hmem, hmessage⟩
  exact ⟨packet, msg, env, List.mem_append_left _ hmem, hmessage⟩

/-- Where usernames lead to those who have them, a client gets its address from
    a nomination that names it. -/
theorem step_nominated {past : List (Command × Env)} {input : Command × Env} {output : Output}
    (hfiled : server.directory.Filed) (hindexed : server.directory.Indexed)
    (hpast : ∀ k record address, server.roll k = some record → record.address = some address →
      NominatedFrom past address (sessionUsername record.mediaSession))
    (h : server.step input = .ok (server', output)) {k : ResourceID} {record : Record}
    {address : SocketAddr} (hrecord : server'.roll k = some record)
    (haddress : record.address = some address) :
    NominatedFrom (past ++ [input]) address (sessionUsername record.mediaSession) := by
  rw [step_roll hfiled h] at hrecord
  cases hchange : server.change input with
  | stays =>
      rw [hchange] at hrecord
      exact (hpast k record address hrecord haddress).later input
  | enters j entered =>
      rw [hchange, Change.apply, Function.update_apply] at hrecord
      by_cases hj : k = j
      · rw [if_pos hj, Option.some.injEq] at hrecord
        rw [← hrecord, (admits_of_enters hchange).2] at haddress
        cases haddress
      · rw [if_neg hj] at hrecord
        exact (hpast k record address hrecord haddress).later input
  | sweeps clock taken =>
      rw [hchange, Change.apply] at hrecord
      rcases Option.bind_eq_some_iff.mp hrecord with ⟨before, hbefore, hswept⟩
      rw [Option.ite_none_left_eq_some, Option.some.injEq] at hswept
      have hkept : record.mediaSession = before.mediaSession ∧ record.address = before.address := by
        rw [← hswept.2, Record.stamped]
        split
        · exact ⟨rfl, rfl⟩
        · exact ⟨rfl, rfl⟩
      rw [hkept.1]
      exact (hpast k before address hbefore (hkept.2 ▸ haddress)).later input
  | hears j now aim =>
      rw [hchange, Change.apply, Function.update_apply] at hrecord
      by_cases hj : k = j
      · rw [if_pos hj, ← hj, Option.map_eq_some_iff] at hrecord
        rcases hrecord with ⟨before, hbefore, rfl⟩
        cases hhad : before.address with
        | some had =>
            -- It keeps the address it had.
            rw [Record.heard, hhad, Option.some_or, Option.some.injEq] at haddress
            exact (hpast k before address hbefore (haddress ▸ hhad)).later input
        | none =>
            simp only [Record.heard, hhad, Option.none_or] at haddress
            have hnomination : (server.change input).nomination k = some address := by
              rw [hchange, Change.nomination, if_pos hj.symm, haddress]
            rcases nomination_eq_some hnomination with ⟨packet, msg, hcommand, hpacket, hname⟩
            rcases (hindexed.usernames msg.usernameAttribute k).mp hname with ⟨o, ho, husername⟩
            rcases SessionRegistry.directory_sessions_eq_some.mp ho with ⟨session, hsession, rfl⟩
            rw [roll_of_lookup hsession, Option.some.injEq] at hbefore
            rcases input with ⟨command, env⟩
            cases hcommand
            refine ⟨packet, msg, env, List.mem_append_right _ (List.mem_singleton_self _),
              hpacket, ?_⟩
            rw [← husername, ← hbefore]
            rfl
      · rw [if_neg hj] at hrecord
        exact (hpast k record address hrecord haddress).later input

/-- Media is sent for the packet of a streamer's client to the clients of the
    viewers of its room. -/
theorem processPacket_media {packet : Bytes} {remote : SocketAddr} {now : Instant}
    {order : Enumeration ResourceID} {sent : List Datagram}
    (hcons : server.directory.Consistent) (hindexed : server.directory.Indexed)
    (h : server.processPacket packet remote now order = .ok (server', sent)) {d : Datagram}
    (hd : d ∈ sent) (hmedia : d.kind = .media) :
    ∃ room s streamer v viewer, server.roll s = some streamer ∧ streamer.role = .streamer room ∧
      streamer.address = some remote ∧ server.roll v = some viewer ∧
      viewer.role = .viewer room ∧ viewer.address = some d.remote := by
  simp only [processPacket, bind_eq_ok] at h
  rcases h with ⟨message, _, h⟩
  cases message with
  | some message => exact absurd hmedia (handleStunPacket_sent h d hd).2
  | none =>
      have hcopies := handleOtherPackets_media h
      rcases hcopies with ⟨session, streamer, rtp, room, hstreams, hroom, hcopied⟩ | ⟨_, hnone⟩
      · have hmem : d ∈ mediaOf sent :=
          List.mem_filter.mpr ⟨hd, decide_eq_true hmedia⟩
        rw [hcopied] at hmem
        rcases List.mem_filterMap.mp hmem with ⟨v, hv, hcopy⟩
        rcases copyTo_eq_some.mp hcopy with
          ⟨viewer, client, _, _, hviewer, hclient, _, _, _, _, rfl⟩
        rcases hstreams with ⟨s, _, _, hfound, hkind, _, _, _, _⟩
        rcases SessionRegistry.getSessionByAddress_eq_some.mp hfound with ⟨haddress, hsession⟩
        -- The sender has the address it was found by.
        rcases hindexed.addresses remote s haddress with ⟨o, ho, hremote⟩
        rw [directory, SessionRegistry.directory_sessions hsession, Option.some.injEq] at ho
        -- The viewer is one of the room's.
        have hlisted := (hcons.listed streamer.ownedRoomId room hroom v).mp
          ((order.mem room.viewerIds v).mp hv)
        rcases hlisted with ⟨o', ho', hwatches⟩
        rw [directory, SessionRegistry.directory_sessions hviewer, Option.some.injEq] at ho'
        refine ⟨streamer.ownedRoomId, s, session.record, v, viewer.record,
          roll_of_lookup hsession, ?_, ?_, roll_of_lookup hviewer, ?_, ?_⟩
        · rw [Session.record, hkind]
          rfl
        · rw [← ho] at hremote
          exact hremote
        · rw [← ho'] at hwatches
          exact hwatches
        · rw [Session.record, hclient, Option.map_some]
      · have hmem : d ∈ mediaOf sent :=
          List.mem_filter.mpr ⟨hd, decide_eq_true hmedia⟩
        rw [hnone] at hmem
        cases hmem

/-- The ids and the username drawn for a command are new. -/
def Fresh (server : UDPServer crates) (input : Command × Env) : Prop :=
  server.FreshIds input ∧ server.FreshNames input

theorem new_indexed (resolver : SDPResolver) :
    (UDPServer.new resolver : UDPServer crates).directory.Indexed := by
  refine ⟨?_, ?_⟩
  · intro u k
    refine ⟨fun hu => (by cases hu), ?_⟩
    intro hfound
    rcases hfound with ⟨o, ho, _⟩
    cases ho
  · intro a k ha
    cases ha

/-- In every run whose draws are new, media is sent for packets from the
    address of a streamer to the addresses of viewers of its room, and a
    viewer's address is one from which a nomination named the usernames it
    negotiated. -/
theorem media_to_viewers (resolver : SDPResolver) {inputs : List (Command × Env)}
    {server : UDPServer crates} {outputs : List Output}
    (h : feed step (UDPServer.new resolver) inputs = .ok (server, outputs))
    (hfresh : Along step Fresh (UDPServer.new resolver : UDPServer crates) inputs) {i : Nat}
    {sent : List Datagram} (hsent : outputs[i]? = some (.datagrams sent)) {d : Datagram}
    (hd : d ∈ sent) (hmedia : d.kind = .media) :
    ∃ packet remote env server₁ outputs₁ room s streamer v viewer,
      inputs[i]? = some (.handlePacket packet remote, env) ∧
      feed step (UDPServer.new resolver : UDPServer crates) (inputs.take i)
        = .ok (server₁, outputs₁) ∧
      server₁.roll s = some streamer ∧ streamer.role = .streamer room ∧
      streamer.address = some remote ∧
      server₁.roll v = some viewer ∧ viewer.role = .viewer room ∧
      viewer.address = some d.remote ∧
      NominatedFrom (inputs.take i) d.remote (sessionUsername viewer.mediaSession) := by
  -- Along the run every address came with a nomination of the session that has
  -- it.
  have hhistory := feed_history_along
    (fun past s => s.directory.Consistent ∧ s.directory.Indexed ∧
      ∀ k record address, s.roll k = some record → record.address = some address →
        NominatedFrom past address (sessionUsername record.mediaSession))
    (fun past input output => ∀ sent, output = .datagrams sent → ∀ d ∈ sent, d.kind = .media →
      ∃ packet remote env server₁ outputs₁ room s streamer v viewer,
        input = (.handlePacket packet remote, env) ∧
        feed step (UDPServer.new resolver : UDPServer crates) past = .ok (server₁, outputs₁) ∧
        server₁.roll s = some streamer ∧ streamer.role = .streamer room ∧
        streamer.address = some remote ∧
        server₁.roll v = some viewer ∧ viewer.role = .viewer room ∧
        viewer.address = some d.remote ∧
        NominatedFrom past d.remote (sessionUsername viewer.mediaSession))
    ⟨new_consistent resolver, new_indexed resolver, fun k record address hk => (by cases hk)⟩
    ?_ hfresh h hsent
  · rcases hhistory with ⟨input, hinput, hout⟩
    rcases hout sent rfl d hd hmedia with
      ⟨packet, remote, env, server₁, outputs₁, room, s, streamer, v, viewer, rfl, hrest⟩
    exact ⟨packet, remote, env, server₁, outputs₁, room, s, streamer, v, viewer, hinput, hrest⟩
  · intro past server₁ outputs₁ input server₂ output hpast hinv hadm hstep
    rcases hinv with ⟨hcons, hindexed, hnominated⟩
    refine ⟨⟨step_consistent hcons hadm.1 hstep,
      step_indexed hcons.filed hindexed hadm.2 hstep, ?_⟩, ?_⟩
    · intro k record address hrecord haddress
      exact step_nominated hcons.filed hindexed hnominated hstep hrecord haddress
    · rintro sent rfl d hd hmedia
      rcases input with ⟨command, env⟩
      rcases step_datagrams hstep with ⟨packet, remote, rfl, hprocess⟩
      -- The viewer has its client at the address, so it was nominated from
      -- there.
      rcases processPacket_media hcons hindexed hprocess hd hmedia with
        ⟨room, s, streamer, v, viewer, hs, hstreams, hremote, hv, hwatches, hviewer⟩
      exact ⟨packet, remote, env, server₁, outputs₁, room, s, streamer, v, viewer, rfl, hpast, hs,
        hstreams, hremote, hv, hwatches, hviewer, hnominated v viewer _ hv hviewer⟩

/-- Datagrams draw nothing. -/
theorem along_fresh_of_packets {inputs : List (Command × Env)}
    (h : ∀ input ∈ inputs, ∃ packet remote env, input = (.handlePacket packet remote, env))
    (server : UDPServer crates) : Along step Fresh server inputs := by
  induction inputs generalizing server with
  | nil => exact trivial
  | cons input inputs ih =>
      rw [List.forall_mem_cons] at h
      rcases h with ⟨⟨packet, remote, env, rfl⟩, hrest⟩
      exact ⟨⟨trivial, trivial⟩, fun server₁ _ _ => ih hrest server₁⟩

/-- The draws of `relayed` are new. -/
theorem relayed_fresh :
    Along step Fresh (UDPServer.new loopbackResolver : UDPServer plainCrates)
      (streaming "user".toList 1 2 :: guest :: relayed) := by
  have hunused : ∀ id, (SessionRegistry.new : SessionRegistry plainCrates).Unused id :=
    fun id => ⟨rfl, rfl, fun k session viewer h => by cases h⟩
  refine ⟨⟨⟨hunused 1, hunused 2⟩, rfl, fun k session hk => (by cases hk)⟩, ?_⟩
  intro server₁ output hfirst
  have hfour : server₁.sessionRegistry.Unused 4 :=
    SessionRegistry.unused_iff.mpr (fresh_after_streamer hfirst (by decide) (by decide))
  refine ⟨⟨hfour, hfour.session, ?_⟩, fun server₂ _ _ => ?_⟩
  · -- The streamer's username is another one.
    intro k session hk hsame
    rw [hostUsername_after_streamer hfirst hk] at hsame
    cases hsame
  · refine along_fresh_of_packets ?_ server₂
    simp only [relayed, List.forall_mem_cons]
    refine ⟨⟨_, _, _, rfl⟩, ⟨_, _, _, rfl⟩, ⟨_, _, _, rfl⟩, ⟨_, _, _, rfl⟩, ⟨_, _, _, rfl⟩, ?_⟩
    exact List.forall_mem_nil _

/-- The packet goes to the viewer's port, from which the viewer was
    nominated. -/
theorem media_to_viewers_one_viewer :
    ∃ (server : UDPServer plainCrates) (outputs : List Output) (sent : List Datagram)
      (d : Datagram),
      feed step (UDPServer.new loopbackResolver)
        (streaming "user".toList 1 2 :: guest :: relayed) = .ok (server, outputs) ∧
      outputs[6]? = some (.datagrams sent) ∧ d ∈ sent ∧ d.kind = .media ∧
      d.remote = loopback 5001 ∧
      ∃ packet remote env server₁ outputs₁ room s streamer v viewer,
        (streaming "user".toList 1 2 :: guest :: relayed)[6]?
          = some (.handlePacket packet remote, env) ∧
        feed step (UDPServer.new loopbackResolver : UDPServer plainCrates)
          ((streaming "user".toList 1 2 :: guest :: relayed).take 6) = .ok (server₁, outputs₁) ∧
        server₁.roll s = some streamer ∧ streamer.role = .streamer room ∧
        streamer.address = some remote ∧
        server₁.roll v = some viewer ∧ viewer.role = .viewer room ∧
        viewer.address = some d.remote ∧
        NominatedFrom ((streaming "user".toList 1 2 :: guest :: relayed).take 6) d.remote
          (sessionUsername viewer.mediaSession) := by
  rcases exists_relayed with ⟨server, outputs, sent, d, hfeed, hsent, hd, hkind, hremote⟩
  exact ⟨server, outputs, sent, d, hfeed, hsent, hd, hkind, hremote,
    media_to_viewers loopbackResolver hfeed relayed_fresh hsent hd hkind⟩

end UDPServer

end SigmaMedia
