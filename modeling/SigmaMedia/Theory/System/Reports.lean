import SigmaMedia.Theory.System.Access

/-!
# What a Client Is Told

A request to publish or to watch is answered, and the answer is all the client
learns. It can rely on it: when it is sent an answer, the session with that
very answer is in the registry, and when it is told that there is nothing for
it, the server is exactly as it was.

This is a statement about three threads of control, the job, the main loop and
whoever else is in between. It needs nothing about the others, since a job is
told the reply to its own command, and what was done for that command is what
the main loop did in one step.

## Main definitions

* `Settled`: What a command to join did, and what was replied.

## Theorems

* `step_settles`: A step of the main loop for such a command.
* `Run.step_of_taken`: The step behind a command that was taken.
* `requests_reported`: What is written to a connection is what was done.
-/

namespace SigmaMedia

open Bytes Exec Http Mailbox Net Sdp Text Trace

variable {crates : Crates}

/-- A command that asks to join. -/
def Command.isOffer : Command → Bool
  | .addStreamer _ => true
  | .addViewer _ _ => true
  | _ => false

namespace UDPServer

variable {server server' : UDPServer crates}

/-- What a command to join did: it made a session and gave its answer, or it
    was not admitted and nothing was done. -/
inductive Settled (server server' : UDPServer crates) (env : Env) (command : Command) :
    Option SDP → Prop
  | joined {mediaSession : NegotiatedSession} {role : Role} :
      server.Admits env command env.resourceId mediaSession role →
      server'.roll env.resourceId = some (.entered env.now mediaSession role) →
      Settled server server' env command (some mediaSession.sdpAnswer)
  | refused : (∀ k mediaSession role, ¬ server.Admits env command k mediaSession role) →
      server' = server → Settled server server' env command none

/-- A step for a command to join settles it. -/
theorem step_settles {command : Command} {env : Env} {output : Output}
    (hoffer : command.isOffer = true) (hfiled : server.directory.Filed)
    (h : server.step (command, env) = .ok (server', output)) :
    ∃ answer, output = .response answer ∧ Settled server server' env command answer := by
  have hroll := step_roll hfiled h
  cases command with
  | addStreamer sdpOffer =>
      simp only [step, addStreamer] at h
      simp only [change] at hroll
      -- The resolver decides about a streamer.
      cases haccept : server.sdpResolver.acceptStreamOffer sdpOffer env.draws with
      | error e =>
          rw [haccept] at h
          refine ⟨none, respond_output h, .refused ?_ (respond_eq_ok h)⟩
          intro k mediaSession role hadmits
          cases hadmits with
          | streamer hok =>
              rw [haccept] at hok
              cases hok
      | ok mediaSession =>
          simp only [haccept, bind_eq_ok, Prod.exists] at h
          rcases h with ⟨registry, _, _, hrespond⟩
          refine ⟨some mediaSession.sdpAnswer, respond_output hrespond,
            .joined (.streamer haccept) ?_⟩
          rw [hroll, haccept]
          simp only [Change.apply, Function.update_self]
  | addViewer sdpOffer targetId =>
      simp only [step] at h
      simp only [change] at hroll
      -- About a viewer it decides once there is a room to watch.
      cases haccept : server.viewerMedia sdpOffer targetId env with
      | none =>
          rw [UDPServer.addViewer_of_viewerMedia haccept] at h
          refine ⟨none, respond_output h, .refused ?_ (respond_eq_ok h)⟩
          intro k mediaSession role hadmits
          cases hadmits with
          | viewer hroom howner hok =>
              rw [viewerMedia_eq_some.mpr ⟨_, _, hroom, howner, hok⟩] at haccept
              cases haccept
      | some mediaSession =>
          rcases viewerMedia_eq_some.mp haccept with ⟨room, owner, hroom, howner, hok⟩
          rw [UDPServer.addViewer_of_viewerMedia haccept, Option.elim_some, bind_eq_ok] at h
          rcases h with ⟨added, _, hrespond⟩
          refine ⟨some mediaSession.sdpAnswer, respond_output hrespond,
            .joined (.viewer hroom howner hok) ?_⟩
          rw [hroll, haccept]
          simp only [Change.apply, Function.update_self]
  | handlePacket packet remote => cases hoffer
  | sendRoomsStatus => cases hoffer
  | runPeriodicChecks => cases hoffer

end UDPServer

namespace System

variable {site : Site} {files : Store Text Bytes} {first last : System crates}
variable {events : List Event} {log : List LogEntry}

/-- The step of the main loop behind a command that was taken. -/
theorem Run.step_of_taken (h : Run site files first events last log) {k : Option ConnectionId}
    {command : Command} {waiting : Bool} {turn : Turn} {reply : Reply}
    (htaken : .taken k command waiting turn reply ∈ log) :
    ∃ resolver before later server₁ server₂ outputs outputs' output,
      SDPResolver.new ("sha-256 ".toList ++ site.config.fingerprint) site.config.udpAddress
        = .ok resolver ∧
      (log.filterMap Entry.served).map (fun served => inputOf served.1)
        = before ++ inputOf (command, waiting, turn) :: later ∧
      feed UDPServer.step (UDPServer.new resolver : UDPServer crates) before
        = .ok (server₁, outputs) ∧
      server₁.step (inputOf (command, waiting, turn)) = .ok (server₂, output) ∧
      feed UDPServer.step server₂ later = .ok (last.world.owner, outputs') ∧
      printReply turn.order output = .ok reply := by
  rcases h.world with ⟨server, moves, logs, _, hserver, rfl, hfeed⟩
  simp only [UDPServer.ofConfig, bind_eq_ok, pure_eq_ok, Except.ok.injEq] at hserver
  rcases hserver with ⟨resolver, hresolver, rfl⟩
  -- The run of the main loop is cut at the turn the command got.
  rcases serve_of_taken hfeed htaken with
    ⟨before, later, server₁, server₂, _, _, hserved, hbefore, hserve, hlater⟩
  rcases feed_of_serve hbefore with ⟨outputs, hbefore⟩
  rcases feed_of_serve hlater with ⟨outputs', hlater⟩
  rcases serve_eq_ok.mp hserve with ⟨output, hstep, hprint⟩
  refine ⟨resolver, _, _, server₁, server₂, outputs, outputs', output, hresolver, ?_, hbefore,
    hstep, hlater, hprint⟩
  have hinputs := congrArg (List.map inputOf) hserved
  rwa [List.map_map, List.map_append, List.map_cons] at hinputs

end System

end SigmaMedia
