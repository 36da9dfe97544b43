import SigmaMedia.Theory.Registry.Origins
import SigmaMedia.Theory.Registry.Sessions
import SigmaMedia.Theory.System.Serving

/-!
# Who Gets In

The only way into the registry is through the HTTP server. A streamer is there
because some connection asked for it with the token, and a viewer because some
connection asked for the room it watches; the offer each was made from is the
body of that request. Datagrams make no sessions, whatever they hold, and the
main loop makes none by itself.

## Main definitions

* `inputOf`: A command as the main loop takes it.
* `Requested`: A request that arrived, and whose command was sent.

## Theorems

* `feed_of_serve`: Turns of the main loop are its steps.
* `Run.inputs`: The run of the main loop behind a run of the program.
* `requested_of_input`: Commands that make sessions come from requests.
* `sessions_requested`: So do sessions.
-/

namespace SigmaMedia

namespace System

open Bytes Exec Http Mailbox Net Reader Sdp Text Trace

variable {crates : Crates} {site : Site}

/-- A command as the main loop takes it. -/
def inputOf (taken : Taken Command Turn) : Command × Env :=
  (taken.1, { taken.2.2.env with replyOpen := taken.2.1 })

theorem serve_eq_ok {server server' : UDPServer crates} {taken : Taken Command Turn}
    {reply : Reply} :
    serve server taken = .ok (server', reply) ↔
      ∃ output, server.step (inputOf taken) = .ok (server', output) ∧
        printReply taken.2.2.order output = .ok reply := by
  -- A turn is a step, and then its output is printed.
  rcases taken with ⟨command, replyOpen, turn⟩
  simp only [serve, bind_eq_ok, Prod.exists, pure_eq_ok, Except.ok.injEq, Prod.mk.injEq, inputOf]
  constructor
  · intro h
    rcases h with ⟨server'', output, hstep, reply', hprint, rfl, rfl⟩
    exact ⟨output, hstep, hprint⟩
  · intro h
    rcases h with ⟨output, hstep, hprint⟩
    exact ⟨server', output, hstep, reply, hprint, rfl, rfl⟩

/-- Turns of the main loop are its steps, with their replies printed. -/
theorem feed_of_serve {server server' : UDPServer crates} {takens : List (Taken Command Turn)}
    {replies : List Reply} (h : feed serve server takens = .ok (server', replies)) :
    ∃ outputs, feed UDPServer.step server (takens.map inputOf) = .ok (server', outputs) := by
  induction takens generalizing server replies with
  | nil =>
      cases h
      exact ⟨[], rfl⟩
  | cons taken takens ih =>
      rcases feed_cons_eq_ok.mp h with ⟨server₁, reply, replies', hone, hrest, rfl⟩
      rcases serve_eq_ok.mp hone with ⟨output, hstep, _⟩
      rcases ih hrest with ⟨outputs, hfeed⟩
      exact ⟨output :: outputs, feed_cons hstep hfeed⟩

section Run

variable {files : Store Text Bytes} {first last : System crates} {events : List Event}
variable {log : List LogEntry}

/-- The run of the main loop behind a run of the program. -/
theorem Run.inputs (h : Run site files first events last log) :
    ∃ resolver outputs,
      SDPResolver.new ("sha-256 ".toList ++ site.config.fingerprint) site.config.udpAddress
        = .ok resolver ∧
      feed UDPServer.step (UDPServer.new resolver : UDPServer crates)
        ((log.filterMap Entry.served).map fun served => inputOf served.1)
          = .ok (last.world.owner, outputs) := by
  rcases h.world with ⟨server, moves, logs, _, hserver, rfl, hfeed⟩
  simp only [UDPServer.ofConfig, bind_eq_ok, pure_eq_ok, Except.ok.injEq] at hserver
  rcases hserver with ⟨resolver, hresolver, rfl⟩
  -- The turns are steps once their replies are not looked at.
  rcases feed_of_serve (owner_feed hfeed) with ⟨outputs, hinputs⟩
  rw [List.map_map] at hinputs
  exact ⟨resolver, outputs, hresolver, hinputs⟩

/-- A request that arrived on some connection and whose command was sent. -/
def Requested (site : Site) (first : System crates) (events : List Event) (log : List LogEntry)
    (request : Request) (command : Command) : Prop :=
  ∃ j stream order files', Arrived site first events j stream order files' ∧
    parseHttp site.lowercase stream = .ok (some request) ∧
    commandOf site request = some command ∧ .sent j command ∈ log

/-- A command that asks for an answer comes from a request. -/
theorem requested_of_input (h : Run site files first events last log) {command : Command}
    {env : Env}
    (hinput : (command, env) ∈ (log.filterMap Entry.served).map fun served => inputOf served.1)
    (hpacket : ∀ packet remote, command ≠ .handlePacket packet remote)
    (htick : command ≠ .runPeriodicChecks) (hrooms : command ≠ .sendRoomsStatus) :
    ∃ request, Requested site first events log request command := by
  rcases List.mem_map.mp hinput with ⟨⟨⟨command', waiting, turn⟩, reply⟩, hserved, heq⟩
  rcases List.mem_filterMap.mp hserved with ⟨entry, hentry, hserves⟩
  cases entry with
  | taken k m waiting' turn' reply' =>
      cases hserves
      cases heq
      -- It was sent on a connection, since no event posts such a command.
      rcases h.source_of_taken hentry with ⟨j, _, hsent⟩ | ⟨_, hposts⟩
      · rcases h.sends_of_sent hsent with
          ⟨stream, order, files', before, harrived, request, hrequest, hsends⟩
        -- An event stream only ever asks for the rooms.
        by_cases hevents : request.path = "/notifications".toList
        · rw [if_pos hevents] at hsends
          exact absurd hsends hrooms
        · rw [if_neg hevents] at hsends
          exact ⟨request, j, stream, order, files', harrived, requestOf_eq_some.mp hrequest,
            hsends.2, hsent⟩
      · rcases posts_cases hposts with ⟨packet, remote, hcommand⟩ | hcommand
        · exact absurd hcommand (hpacket packet remote)
        · exact absurd hcommand htick
  | _ => cases hserves

theorem Requested.commandOf {request : Request} {command : Command}
    (h : Requested site first events log request command) :
    commandOf site request = some command := by
  rcases h with ⟨_, _, _, _, _, _, hcommand, _⟩
  exact hcommand

/-- Every session of a running program was asked for: a streamer by a request
    that carries the token, and a viewer by one for the room it watches. The
    request is what arrived on the connection that sent the command, and its
    body is the offer the session was made from. -/
theorem sessions_requested (h : Run site files first events last log) {k : ResourceID}
    {session : Session crates}
    (hsession : last.world.owner.sessionRegistry.sessions.lookup k = some session) :
    ∃ resolver request sdpOffer draws,
      SDPResolver.new ("sha-256 ".toList ++ site.config.fingerprint) site.config.udpAddress
        = .ok resolver ∧
      bodyText request = some sdpOffer ∧
      ((∃ room, session.connectionType.role = .streamer room ∧
          Requested site first events log request (.addStreamer sdpOffer) ∧
          request.path = "/whip".toList ∧ IsAuthorised site request ∧
          resolver.acceptStreamOffer sdpOffer draws = .ok session.mediaSession) ∨
        ∃ room media, session.connectionType.role = .viewer room ∧
          Requested site first events log request (.addViewer sdpOffer room) ∧
          request.path = "/whep".toList ∧ request.method = .post ∧
          targetOf request = some room ∧
          resolver.acceptViewerOffer sdpOffer media draws = .ok session.mediaSession) := by
  rcases h.inputs with ⟨resolver, outputs, hresolver, hfeed⟩
  have hrecord := UDPServer.roll_of_lookup hsession
  -- The session has its origin in an offer that was accepted.
  rcases UDPServer.run_origin resolver hfeed hrecord with
    ⟨before, ⟨command, env⟩, later, server₁, _, server₂, _, hinputs, hbefore, _, hadmits, _, _⟩
  have hinput : (command, env) ∈ (log.filterMap Entry.served).map fun served =>
      inputOf served.1 := by
    rw [hinputs]
    exact List.mem_append_right _ List.mem_cons_self
  -- The resolver is the one of the configuration throughout.
  have hsame : server₁.sdpResolver = resolver := UDPServer.feed_resolver hbefore
  generalize hrole : session.record.role = role at hadmits
  generalize hmedia : session.record.mediaSession = mediaSession at hadmits
  -- The offer was sent for a request, which tells its kind.
  cases hadmits with
  | streamer haccept =>
      rw [hsame] at haccept
      rcases requested_of_input h hinput (fun _ _ h => (by cases h)) (fun h => (by cases h))
        (fun h => (by cases h)) with ⟨request, hrequested⟩
      rcases commandOf_cases hrequested.commandOf with
        ⟨hpath, hauth, offer, hbody, heq⟩ | ⟨_, _, _, _, _, _, heq⟩ | ⟨_, heq⟩
      · cases heq
        exact ⟨resolver, request, _, env.draws, hresolver, hbody, Or.inl
          ⟨env.roomId, hrole, hrequested, hpath, hauth, by rw [haccept, ← hmedia]; rfl⟩⟩
      · cases heq
      · cases heq
  | viewer hroom howner haccept =>
      rw [hsame] at haccept
      rcases requested_of_input h hinput (fun _ _ h => (by cases h)) (fun h => (by cases h))
        (fun h => (by cases h)) with ⟨request, hrequested⟩
      rcases commandOf_cases hrequested.commandOf with
        ⟨_, _, _, _, heq⟩ | ⟨hpath, hpost, target, offer, htarget, hbody, heq⟩ | ⟨_, heq⟩
      · cases heq
      · cases heq
        exact ⟨resolver, request, _, env.draws, hresolver, hbody, Or.inr
          ⟨_, _, hrole, hrequested, hpath, hpost, htarget,
            by rw [haccept, ← hmedia]; rfl⟩⟩
      · cases heq

end Run

/-- A request with the right token puts a streamer in the registry. -/
theorem sessions_requested_whip :
    ∃ (first last : System UDPServer.plainCrates) (log : List LogEntry)
      (session : Session UDPServer.plainCrates),
      Run plainSite ∅ first publishEvents last log ∧
      last.world.owner.sessionRegistry.sessions.lookup 2 = some session ∧
      ∃ resolver request sdpOffer draws,
        SDPResolver.new ("sha-256 ".toList ++ plainSite.config.fingerprint)
          plainSite.config.udpAddress = .ok resolver ∧
        bodyText request = some sdpOffer ∧
        ((∃ room, session.connectionType.role = .streamer room ∧
            Requested plainSite first publishEvents log request (.addStreamer sdpOffer) ∧
            request.path = "/whip".toList ∧ IsAuthorised plainSite request ∧
            resolver.acceptStreamOffer sdpOffer draws = .ok session.mediaSession) ∨
          ∃ room media, session.connectionType.role = .viewer room ∧
            Requested plainSite first publishEvents log request (.addViewer sdpOffer room) ∧
            request.path = "/whep".toList ∧ request.method = .post ∧
            targetOf request = some room ∧
            resolver.acceptViewerOffer sdpOffer media draws = .ok session.mediaSession) := by
  rcases exists_run_publish with ⟨first, last, log, session, _, h, hsession, _⟩
  exact ⟨first, last, log, session, h, hsession, sessions_requested h hsession⟩

end System

end SigmaMedia
