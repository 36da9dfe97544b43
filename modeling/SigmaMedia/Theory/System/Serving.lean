import SigmaMedia.Theory.Expects
import SigmaMedia.Theory.Registry.Routing
import SigmaMedia.Theory.Registry.Safety
import SigmaMedia.Theory.System.Alone

/-!
# Every Connection Is Served

However the threads are interleaved, the program cannot be told from one that
handles its connections, datagrams and ticks one after another.
`interleavings_sequential` puts this in one statement: the main loop goes
through a run over the commands in the order they were sent, and what was
written to a connection is the transcript of its job, with the replies of that
run.

Two more things are needed to call a connection served. The main loop relies
on the other end of a reply still being there, and stops the whole program if
it is not; a job that waits for an answer never goes away, so it always is.
And a job does not wait forever, since nobody gets in front of it.

## Main definitions

* `closedReply`: What the main loop stops with when nobody waits.

## Theorems

* `interleavings_sequential`: Interleavings are sequential.
* `step_avoids_closedReply`: A command whose reply is waited for.
* `reply_always_open`: The main loop never finds a reply closed.
* `served_in_turn`: Nobody gets in front of a waiting job.
-/

namespace SigmaMedia

namespace System

open Bytes Exec Http Mailbox Net Rtp Sdp Stun Text Thumbnail Trace

variable {crates : Crates} {site : Site} {files : Store Text Bytes}
variable {first last : System crates} {events : List Event} {log : List LogEntry}

/-- Interleavings are sequential. What comes from outside gets in, commands are
    taken in the order they are sent, and the main loop goes through a run over
    them. Every connection that arrives is there, and nobody else. Its calls
    are in the log one after another, up to the one it is in the middle of, and
    what it has written is the transcript of what arrived on it, with the
    replies of that run. -/
theorem interleavings_sequential (h : Run site files first events last log) :
    log.filterMap Entry.posted? = events.filterMap Event.posts ∧
    log.filterMap Entry.put = log.filterMap Entry.took ++ last.world.queue ∧
    feed serve first.world.owner ((log.filterMap Entry.served).map Prod.fst)
      = .ok (last.world.owner, (log.filterMap Entry.served).map Prod.snd) ∧
    (∀ k p, last.world.phase k = some p →
      ∃ stream order files', Arrived site first events k stream order files') ∧
    ∀ k stream order files', Arrived site first events k stream order files' →
      ∃ (p : Phase Command Reply Connection) (calls : List CommandCall) (t : Connection)
        (rest : List LogEntry),
      last.world.phase k = some p ∧ Unfinished (jobs site) k t rest p ∧
      log.filter (Entry.isAbout k) = .started k (handleConnection site order files' stream)
        :: calls.flatMap (Call.entries k) ++ rest ∧
      t.written = transcript site order files' stream (calls.map Call.reply) ∧
      ∀ i c, calls[i]? = some c → Sends site stream i c.message := by
  refine ⟨h.posted, ?_⟩
  rcases h.world with ⟨server, moves, logs, hfirst, _, hlogs, hfeed⟩
  rw [← hlogs]
  refine ⟨hlogs ▸ h.put_eq, ?_, fun k p hp => h.exists_arrived hp, ?_⟩
  · rw [hfirst]
    exact owner_feed hfeed
  · intro k stream order files' harrived
    rcases h.connection_log harrived with ⟨p, calls, t, rest, hp, halone, hrest, hlog⟩
    rw [hlogs]
    refine ⟨p, calls, t, rest, hp, hrest, hlog, alone_written halone, ?_⟩
    intro i c hc
    exact alone_sends halone hc

/-- Two clients ask for the list of rooms. The one that came later sends its
    command first, and the other one is told the rooms. -/
theorem interleavings_sequential_rooms :
    ∃ (first last : System UDPServer.plainCrates) (log : List LogEntry),
      Run plainSite ∅ first
        [.connect 0 roomsRequest textOrder, .connect 1 roomsRequest textOrder, .send 1, .timeout,
          .send 0, .take (plainTurn 1 2), .take (plainTurn 1 2), .take (plainTurn 1 2),
          .receive 0 false] last log ∧
      log.filterMap Entry.posted? = [.runPeriodicChecks] ∧
      ∃ p calls t rest, last.world.phase 0 = some p ∧ Unfinished (jobs plainSite) 0 t rest p ∧
        log.filter (Entry.isAbout 0)
          = .started 0 (handleConnection plainSite textOrder ∅ roomsRequest)
            :: List.flatMap (Call.entries 0) calls ++ rest ∧
        t.written ≠ [] ∧
        t.written = transcript plainSite textOrder ∅ roomsRequest (List.map Call.reply calls) := by
  have hrun : passes (System.start plainSite ∅ : Exec (System UDPServer.plainCrates)) (fun first =>
      passes (feed (System.step plainSite) first
        [.connect 0 roomsRequest textOrder, .connect 1 roomsRequest textOrder, .send 1, .timeout,
          .send 0, .take (plainTurn 1 2), .take (plainTurn 1 2), .take (plainTurn 1 2),
          .receive 0 false])
        fun result => (writtenTo result.1 0).any fun written => decide (written ≠ [])) = true := by
    decide +kernel
  rcases exists_run hrun with ⟨first, last, logs, h, htest⟩
  rcases (Option.any_eq_true _ _).mp htest with ⟨written, hbytes, hne⟩
  rcases writtenTo_eq_some.mp hbytes with ⟨t₀, hk, rfl⟩
  rcases interleavings_sequential h with ⟨hposted, _, _, _, hconnections⟩
  rcases hconnections 0 _ _ _ h.arrived with ⟨p, calls, t, rest, hp, hrest, hlog, hwritten, _⟩
  have hsame : t = t₀ := by
    rw [hk, Option.some.injEq] at hp
    rw [← hp] at hrest
    cases hrest
    rfl
  exact ⟨first, last, logs.flatten, h, hposted, p, calls, t, rest, hp, hrest, hlog,
    hsame ▸ of_decide_eq_true hne, hwritten⟩

/-- What the main loop stops with when nobody waits for a reply. -/
def closedReply : String := "Response channel should remain open"

section ClosedReply

variable {server : UDPServer crates}

/-- A place with another message. -/
theorem avoids_expect_other {α : Type} {message : String} (h : message ≠ closedReply)
    (o : Option α) : Avoids [closedReply] (expect message o) :=
  avoids_expect_of_notMem (by rw [List.mem_singleton]; exact h) o

theorem forward_avoids_closedReply {remote : SocketAddr} {id : ResourceID} :
    Avoids [closedReply] (server.forward remote id) := by
  unfold UDPServer.forward
  refine (avoids_expect_other (by decide) _).bind fun _ _ => ?_
  refine (avoids_expect_other (by decide) _).bind fun viewerSession _ => ?_
  split
  · exact avoids_ok _
  · split
    · exact remapRtpHeader_avoids.bind fun out _ => (avoids_ok _).ite (avoids_ok _)
    · exact avoids_ok _

theorem forwardAll_avoids_closedReply {remote : SocketAddr} {ids : List ResourceID} :
    Avoids [closedReply] (server.forwardAll remote ids) := by
  induction ids generalizing server with
  | nil => exact avoids_ok _
  | cons id ids ih =>
      exact forward_avoids_closedReply.bind fun _ _ => ih.bind fun _ _ => avoids_ok _

theorem handleOtherPackets_avoids_closedReply {remote : SocketAddr} {now : Instant}
    {order : Enumeration ResourceID} :
    Avoids [closedReply] (server.handleOtherPackets remote now order) := by
  unfold UDPServer.handleOtherPackets
  split
  · exact avoids_ok _
  · split
    · exact avoids_ok _
    · simp only []
      split
      · split
        · exact Client.readPacket_avoids.bind fun _ _ => avoids_ok _
        · exact avoids_ok _
      · split
        · exact Client.readPacket_avoids.bind fun _ _ => avoids_ok _
        · unfold UDPServer.handleMedia
          refine Avoids.ite ?_ (avoids_ok _)
          refine UDPServer.watch_avoids.bind fun extractor _ => ?_
          exact (avoids_expect_other (by decide) _).bind fun _ _ => forwardAll_avoids_closedReply
        · exact avoids_error fun _ h => by cases h

theorem handleStunPacket_avoids_closedReply {remote : SocketAddr} {packet : ICEStunMessageType}
    {now : Instant} : Avoids [closedReply] (server.handleStunPacket remote packet now) := by
  unfold UDPServer.handleStunPacket
  split
  · split
    · exact avoids_ok _
    · exact (UDPServer.stunResponse_avoids (by decide)).bind fun _ _ => avoids_ok _
  · split
    · exact avoids_ok _
    · refine (avoids_unwrap _).bind fun _ _ => ?_
      refine (UDPServer.nominate_avoids (by decide)).bind fun _ _ => ?_
      refine (avoids_unwrap _).bind fun _ _ => ?_
      exact (UDPServer.stunResponse_avoids (by decide)).bind fun _ _ => avoids_ok _

theorem removeStale_avoids_closedReply {registry : SessionRegistry crates} {env : Env}
    {sessions : List (ResourceID × Instant)} :
    Avoids [closedReply] (UDPServer.removeStale registry env sessions) := by
  induction sessions generalizing registry with
  | nil => exact avoids_ok _
  | cons session sessions ih =>
      have hremove : Avoids [closedReply] (registry.removeSession session.1) :=
        (avoids_expect_other (by decide) _).bind fun _ _ => avoids_ok _
      simp only [UDPServer.removeStale]
      exact (hremove.bind fun _ _ => ih).ite ((avoids_ok _).bind fun _ _ => ih)

theorem addStreamer_avoids_closedReply {sdpOffer : Text} {env : Env}
    (hopen : env.replyOpen = true) :
    Avoids [closedReply] (server.addStreamer sdpOffer env) := by
  have hrespond : ∀ (server : UDPServer crates) answer,
      Avoids [closedReply] (server.respond env answer) := by
    intro server answer
    rw [UDPServer.respond, if_pos hopen]
    exact avoids_ok _
  unfold UDPServer.addStreamer
  split
  · exact hrespond _ _
  · refine Avoids.bind ?_ fun _ _ => hrespond _ _
    unfold SessionRegistry.addStreamer Session.newStreamer ThumbnailExtractor.new
    refine Avoids.bind ?_ fun _ _ => avoids_ok _
    refine Avoids.bind ?_ fun _ _ => avoids_ok _
    exact (avoids_expect_other (by decide) _).bind fun _ _ => avoids_ok _

theorem addViewer_avoids_closedReply {sdpOffer : Text} {targetId : RoomID} {env : Env}
    (hopen : env.replyOpen = true) :
    Avoids [closedReply] (server.addViewer sdpOffer targetId env) := by
  have hrespond : ∀ (server : UDPServer crates) answer,
      Avoids [closedReply] (server.respond env answer) := by
    intro server answer
    rw [UDPServer.respond, if_pos hopen]
    exact avoids_ok _
  simp only [UDPServer.addViewer]
  split
  · exact hrespond _ _
  · refine Avoids.bind ?_ fun _ _ => hrespond _ _
    exact (avoids_expect_other (by decide) _).bind fun _ _ => avoids_ok _

theorem attributeName_avoids_closedReply {order : Enumeration Text} {value : Attribute} :
    Avoids [closedReply] (value.attributeName order) := by
  cases value with
  | unrecognized => exact avoids_error fun _ h => by cases h
  | fingerprint attr =>
      refine Avoids.bind ?_ fun _ _ => avoids_ok _
      cases attr.hashFunction with
      | sha256 => exact avoids_ok _
      | unsupported => exact avoids_error fun _ h => by cases h
  | mediaSSRC attr =>
      refine Avoids.bind ?_ fun _ _ => avoids_ok _
      cases attr.sourceAttribute with
      | cname name => exact avoids_ok _
      | unsupported => exact avoids_error fun _ h => by cases h
  | rtpMap attr =>
      refine Avoids.bind ?_ fun _ _ => avoids_ok _
      cases attr.codec with
      | audio codec => exact avoids_ok _
      | video codec => exact avoids_ok _
      | unsupported => exact avoids_error fun _ h => by cases h
  | iceOptions attr =>
      refine Avoids.bind (avoids_mapM fun option => ?_) fun _ _ => avoids_ok _
      cases option with
      | unsupported => exact avoids_error fun _ h => by cases h
      | _ => exact avoids_ok _
  | _ => exact avoids_ok _

theorem toText_avoids_closedReply {order : Enumeration Text} {sdp : SDP} :
    Avoids [closedReply] (sdp.toText order) := by
  have hline : ∀ line : SDPLine, Avoids [closedReply] (line.toText order) := by
    intro line
    cases line with
    | attr value => exact attributeName_avoids_closedReply.bind fun _ _ => avoids_ok _
    | _ => exact avoids_ok _
  refine (avoids_mapM hline).bind fun _ _ => ?_
  exact (avoids_mapM hline).bind fun _ _ => (avoids_mapM hline).bind fun _ _ => avoids_ok _

/-- A command whose reply is waited for, if it asks for an answer. -/
theorem serve_avoids_closedReply {command : Command} {waiting : Bool} {turn : Turn}
    (hopen : (∃ offer, command = .addStreamer offer) ∨ (∃ offer id, command = .addViewer offer id) →
      waiting = true) : Avoids [closedReply] (serve server (command, waiting, turn)) := by
  have hprint : ∀ output, Avoids [closedReply] (printReply turn.order output) := by
    intro output
    cases output with
    | response answer =>
        cases answer with
        | none => exact avoids_ok _
        | some sdp => exact toText_avoids_closedReply.bind fun _ _ => avoids_ok _
    | _ => exact avoids_ok _
  refine Avoids.bind ?_ fun _ _ => (hprint _).bind fun _ _ => avoids_ok _
  cases command with
  | handlePacket packet remote =>
      refine Avoids.bind ?_ fun _ _ => avoids_ok _
      refine getStunPacket_avoids.bind fun found _ => ?_
      cases found with
      | none => exact handleOtherPackets_avoids_closedReply
      | some message => exact handleStunPacket_avoids_closedReply
  | addStreamer sdpOffer => exact addStreamer_avoids_closedReply (hopen (Or.inl ⟨_, rfl⟩))
  | addViewer sdpOffer id => exact addViewer_avoids_closedReply (hopen (Or.inr ⟨_, _, rfl⟩))
  | sendRoomsStatus => exact avoids_ok _
  | runPeriodicChecks => exact removeStale_avoids_closedReply.bind fun _ _ => avoids_ok _

end ClosedReply

/-- Whoever asked for an answer still waits when its command comes to the
    front. -/
theorem isWaiting_of_queue (h : Run site files first events last log) {k : Option ConnectionId}
    {command : Command} {queue : List (Option ConnectionId × Command)}
    (hqueue : last.world.queue = (k, command) :: queue)
    (hanswer : (∃ offer, command = .addStreamer offer) ∨
      (∃ offer id, command = .addViewer offer id)) :
    last.world.isWaiting k = true := by
  have hput : (k, command) ∈ log.filterMap Entry.put := by
    rw [h.put_eq, hqueue]
    exact List.mem_append_right _ List.mem_cons_self
  -- It was sent by a connection.
  have hsome : ∃ j, k = some j := by
    rcases h.source_of_put hput with ⟨j, hj, _⟩ | ⟨_, hposts⟩
    · exact ⟨j, hj⟩
    · rcases posts_cases hposts with ⟨packet, remote, rfl⟩ | rfl
      · simp only [reduceCtorEq, exists_false, or_self] at hanswer
      · simp only [reduceCtorEq, exists_false, or_self] at hanswer
  rcases hsome with ⟨j, rfl⟩
  rcases h.world with ⟨server, moves, logs, _, _, _, hfeed⟩
  have hacc := accounted hfeed j
  rcases hp : last.world.phase j with _ | p
  · rw [hp] at hacc
    simp only [World.pending, hqueue, List.filterMap_cons, if_true, Accounted,
      List.cons_ne_nil] at hacc
  rw [hp] at hacc
  rcases h.exists_arrived hp with ⟨stream, order, files', harrived⟩
  rcases h.connection_log harrived with ⟨p', calls, t, rest, hp', halone, hrest, _⟩
  rw [hp, Option.some.injEq] at hp'
  subst hp'
  cases hrest with
  | waiting hasks => simp only [World.isWaiting, Option.bind_some, hp, Option.any_some,
      Phase.isWaiting]
  | left hasks hleaves =>
      -- Only the list of rooms is given up on.
      simp only [World.pending, hqueue, List.filterMap_cons, if_true, Accounted,
        List.cons.injEq] at hacc
      rw [hacc.2.1, (alone_asks halone hasks).2 hleaves] at hanswer
      simp only [reduceCtorEq, exists_false, or_self] at hanswer
  | _ =>
      simp only [World.pending, hqueue, List.filterMap_cons, if_true, Accounted,
        List.cons_ne_nil] at hacc

/-- The main loop never finds a reply closed, whatever comes with the next
    command. -/
theorem reply_always_open (h : Run site files first events last log) (turn : Turn) :
    System.step site last (.take turn) ≠ .error (.expect closedReply) := by
  intro herror
  simp only [System.step, System.move, bind_eq_error] at herror
  rcases herror with herror | ⟨_, _, hdone⟩
  · rcases hqueue : last.world.queue with _ | ⟨⟨k, command⟩, queue⟩
    · simp only [Mailbox.step, hqueue, reduceCtorEq] at herror
    · simp only [Mailbox.step, hqueue, bind_eq_error] at herror
      rcases herror with herror | ⟨_, _, hdone⟩
      · refine serve_avoids_closedReply (fun hanswer => ?_) _ (List.mem_singleton.mpr rfl) herror
        exact isWaiting_of_queue h hqueue hanswer
      · cases hdone
  · cases hdone

/-- An offer waits in the queue, and can be taken. -/
theorem reply_always_open_offer :
    ∃ (first last : System UDPServer.plainCrates) (log : List LogEntry),
      Run plainSite ∅ first
        [.connect 0 ((publishMessage publishOffer).bytes ++ []) textOrder, .send 0] last log ∧
      last.world.queue = [(some 0, .addStreamer publishOffer)] ∧
      System.step plainSite last (.take (plainTurn 1 2)) ≠ .error (.expect closedReply) := by
  have hstart : passes
      (UDPServer.ofConfig plainSite.config : Exec (UDPServer UDPServer.plainCrates))
      (fun _ => true) = true := by decide +kernel
  rcases of_passes hstart with ⟨server, hserver, _⟩
  rcases commandOf_publishMessage publishOffer_fits with ⟨request, hrequest, hpath, hcommand⟩
  rcases exists_run_waiting hserver hrequest hpath hcommand ∅ textOrder with
    ⟨first, last, log, h, _, hqueue⟩
  exact ⟨first, last, log, h, hqueue, reply_always_open h _⟩

/-- Nobody gets in front of a waiting job: however the program goes on, once it
    has taken as many commands as there are up to the one of the job, that one
    is taken. -/
theorem served_in_turn (h : Run site files first events last log) {k : ConnectionId}
    {command : Command} {t : Connection} (hwait : last.world.phase k = some (.waiting command t)) :
    ∃ front rest, last.world.queue = front ++ (some k, command) :: rest ∧
      (∀ m, (some k, m) ∉ front ++ rest) ∧
      ∀ (later : List Event) (final : System crates) (logs : List (List LogEntry)),
        feed (System.step site) last later = .ok (final, logs) →
        front.length < (logs.flatten.filterMap Entry.took).length →
        ∃ waiting turn reply, .taken (some k) command waiting turn reply ∈ logs.flatten := by
  rcases h.world with ⟨server, moves, logs, _, _, rfl, hfeed⟩
  have hacc := accounted hfeed k
  rw [hwait] at hacc
  have hpending : last.world.pending k = [command] := hacc
  rw [World.pending, List.filterMap_eq_cons_iff] at hpending
  rcases hpending with ⟨front, ⟨j, m⟩, rest, hqueue, hfront, hm, hrest⟩
  -- The one entry of the job is the message it waits on.
  have hentry : j = some k ∧ m = command := by
    by_cases hj : j = some k
    · rw [if_pos hj, Option.some.injEq] at hm
      exact ⟨hj, hm⟩
    · rw [if_neg hj] at hm
      cases hm
  rcases hentry with ⟨rfl, rfl⟩
  refine ⟨front, rest, hqueue, ?_, ?_⟩
  · intro m' hmem
    rcases List.mem_append.mp hmem with hin | hin
    · have hnone := hfront _ hin
      simp only [if_true, reduceCtorEq] at hnone
    · have hnone := List.filterMap_eq_nil_iff.mp hrest _ hin
      simp only [if_true, reduceCtorEq] at hnone
  · intro later final logs' hlater hlong
    rcases run_world hlater with ⟨moves', logs'', hmoves, hsame⟩
    rw [← hsame] at hlong ⊢
    exact taken_in_turn hmoves hqueue hlong

/-- A job waits behind a tick. -/
theorem served_in_turn_behind_tick :
    ∃ (first last : System UDPServer.plainCrates) (log : List LogEntry) (command : Command)
      (front rest : List (Option ConnectionId × Command)),
      Run plainSite ∅ first [.connect 0 roomsRequest textOrder, .timeout, .send 0] last log ∧
      last.world.queue = front ++ (some 0, command) :: rest ∧
      ∀ later (final : System UDPServer.plainCrates) logs,
        feed (System.step plainSite) last later = .ok (final, logs) →
        front.length < (logs.flatten.filterMap Entry.took).length →
        ∃ waiting turn reply, .taken (some 0) command waiting turn reply ∈ logs.flatten := by
  have hrun : passes (System.start plainSite ∅ : Exec (System UDPServer.plainCrates)) (fun first =>
      passes (feed (System.step plainSite) first
        [.connect 0 roomsRequest textOrder, .timeout, .send 0])
        fun result => (result.1.world.phase 0).any Phase.isWaiting) = true := by decide +kernel
  rcases exists_run hrun with ⟨first, last, logs, h, htest⟩
  rw [Option.any_eq_true] at htest
  rcases htest with ⟨p, hp, hwaits⟩
  cases p with
  | waiting command t =>
      rcases served_in_turn h hp with ⟨front, rest, hqueue, _, hturn⟩
      exact ⟨first, last, logs.flatten, command, front, rest, h, hqueue, hturn⟩
  | _ => cases hwaits

end System

end SigmaMedia
