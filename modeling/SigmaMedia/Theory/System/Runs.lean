import SigmaMedia.Core.System
import SigmaMedia.Theory.System.Jobs

/-!
# Runs of the Whole Program

A run of the program is a run of the threads around the main loop, with files
written on the side. What is known of such runs in general is known of it:
commands are taken in the order they were sent, the main loop goes through a
run of its own over them, and a connection is served as if there were no
other.

What is particular to this program is where the threads come from. A
connection is the job of what arrived on it, of that connection and no other,
and the commands of nobody are datagrams, cut to the size of the buffer, and
ticks. `Arrived` says what a connection came with, read off the events.

## Main definitions

* `Run`: A run of the program from its start.
* `Event.opens`, `Event.posts`: What an event brings in from outside.
* `Arrived`: What a connection came with.

## Theorems

* `step_world`, `run_world`: A run of the program is a run of its threads.
* `Run.posted`: What comes from outside gets in.
* `Run.started_of_arrived`, `Run.exists_arrived`: So do connections, and only
  they are there.
* `Run.connection_log`: The log of a connection.
* `Run.sends_of_sent`, `Run.source_of_taken`: Where commands come from.
-/

namespace SigmaMedia

namespace System

open Bytes Exec Http Mailbox Net Text Trace

variable {crates : Crates} {site : Site}

/-- A command a connection sent, with what became of it. -/
abbrev CommandCall := Call Command Reply Turn Bool

/-- A run of the program from its start. -/
structure Run (site : Site) (files : Store Text Bytes) (first : System crates)
    (events : List Event) (last : System crates) (log : List LogEntry) : Prop where
  starts : System.start site files = .ok first
  runs : ∃ logs, feed (System.step site) first events = .ok (last, logs) ∧ logs.flatten = log

theorem step_world {system system' : System crates} {event : Event} {log : List LogEntry}
    (h : System.step site system event = .ok (system', log)) :
    (∃ move, Mailbox.step serve (jobs site) system.world move = .ok (system'.world, log) ∧
      system.move site event = some move) ∨
    (system'.world = system.world ∧ log = []) := by
  unfold System.step at h
  rcases hmove : system.move site event with _ | move
  · rw [hmove] at h
    cases h
    refine Or.inr ⟨?_, rfl⟩
    cases event with
    | save i canWrite =>
        rcases hsaver : system.savers[i]? with _ | ⟨id, image⟩
        · simp only [runSaver, hsaver]
        · simp only [runSaver, hsaver]
    | _ => rfl
  · rw [hmove] at h
    simp only [bind_eq_ok] at h
    rcases h with ⟨⟨world, log'⟩, hstep, hout⟩
    cases hout
    exact Or.inl ⟨move, hstep, rfl⟩

/-- A run of the program is a run of its threads. -/
theorem run_world {system system' : System crates} {events : List Event}
    {logs : List (List LogEntry)}
    (h : feed (System.step site) system events = .ok (system', logs)) :
    ∃ moves logs', feed (Mailbox.step serve (jobs site)) system.world moves
      = .ok (system'.world, logs') ∧ logs'.flatten = logs.flatten := by
  refine feed_outputs (fun past current => ∃ moves logs',
    feed (Mailbox.step serve (jobs site)) system.world moves = .ok (current.world, logs') ∧
      logs'.flatten = past.flatten) ?_ ⟨[], [], rfl, rfl⟩ h
  intro past current event next log hinv hstep
  rcases hinv with ⟨moves, logs', hfeed, hlogs⟩
  -- A saver's step moves no thread and is skipped.
  rcases step_world hstep with ⟨move, hmove, _⟩ | ⟨hsame, rfl⟩
  · refine ⟨moves ++ [move], logs' ++ [log],
      feed_append_of_ok hfeed (feed_cons hmove (feed_nil _ _)), ?_⟩
    rw [List.flatten_append, List.flatten_append, hlogs]
  · refine ⟨moves, logs', ?_, ?_⟩
    · rw [hsame]
      exact hfeed
    · rw [List.flatten_append, hlogs, List.flatten_singleton, List.append_nil]

/-- The connection an event opens, if it opens one. -/
def Event.opens : Event → Option ConnectionId
  | .connect k _ _ => some k
  | _ => none

/-- The command an event posts, if it posts one: a datagram that was received,
    cut to the size of the buffer, or a tick. -/
def Event.posts : Event → Option Command
  | .datagram packet remote => some (.handlePacket (packet.take bufferSize) remote)
  | .timeout => some .runPeriodicChecks
  | _ => none

/-- What a connection came with in a run: the bytes that arrived on it, the
    order its headers are written in, and the directory as it was just then.
    Later connections of the same number are not taken. -/
def Arrived (site : Site) (first : System crates) (events : List Event) (k : ConnectionId)
    (stream : Bytes) (order : Enumeration Text) (files' : Store Text Bytes) : Prop :=
  ∃ (before later : List Event) (there : System crates) (logs : List (List LogEntry)),
    events = before ++ .connect k stream order :: later ∧
    (∀ event ∈ before, event.opens ≠ some k) ∧
    feed (System.step site) first before = .ok (there, logs) ∧ there.files = files'

/-- A step by which no connection of a number is opened leaves it unopened. -/
theorem step_phase_eq_none {system system' : System crates} {event : Event} {log : List LogEntry}
    {k : ConnectionId} (h : System.step site system event = .ok (system', log))
    (hnone : system.world.phase k = none) (hopens : event.opens ≠ some k) :
    system'.world.phase k = none := by
  rcases step_world h with ⟨move, hstep, hmove⟩ | ⟨hsame, _⟩
  · -- Only a start gives a number a phase it had not.
    refine (moves_of_step hstep).phase_eq_none hnone ?_
    intro t hstart
    rw [hstart] at hmove
    cases event with
    | connect j stream order =>
        cases hmove
        exact hopens rfl
    | _ => cases hmove
  · rw [hsame]
    exact hnone

theorem feed_phase_eq_none {system system' : System crates} {events : List Event}
    {logs : List (List LogEntry)} {k : ConnectionId}
    (h : feed (System.step site) system events = .ok (system', logs))
    (hnone : system.world.phase k = none) (hopens : ∀ event ∈ events, event.opens ≠ some k) :
    system'.world.phase k = none := by
  induction events generalizing system logs with
  | nil =>
      cases h
      exact hnone
  | cons event events ih =>
      rcases feed_cons_eq_ok.mp h with ⟨system₁, log, logs', hone, hrest, _⟩
      rw [List.forall_mem_cons] at hopens
      exact ih hrest (step_phase_eq_none hone hnone hopens.1) hopens.2

/-- Everything that is posted is in the log. -/
theorem step_posted {system system' : System crates} {event : Event} {log : List LogEntry}
    (h : System.step site system event = .ok (system', log)) :
    log.filterMap Entry.posted? = event.posts.toList := by
  rcases hmove : system.move site event with _ | move
  · simp only [System.step, hmove, Except.ok.injEq, Prod.mk.injEq] at h
    rw [← h.2]
    cases event with
    | save i canWrite => rfl
    | _ => cases hmove
  · simp only [System.step, hmove, bind_eq_ok, Prod.exists, pure_eq_ok, Except.ok.injEq,
      Prod.mk.injEq] at h
    rcases h with ⟨world, log', hstep, _, rfl⟩
    -- Around the main loop a step posts what its event posts.
    rw [posted_of_step hstep]
    cases event with
    | save i canWrite => cases hmove
    | _ =>
        cases hmove
        rfl

theorem feed_posted {system system' : System crates} {events : List Event}
    {logs : List (List LogEntry)}
    (h : feed (System.step site) system events = .ok (system', logs)) :
    logs.flatten.filterMap Entry.posted? = events.filterMap Event.posts := by
  induction events generalizing system logs with
  | nil =>
      cases h
      rfl
  | cons event events ih =>
      rcases feed_cons_eq_ok.mp h with ⟨system₁, log, logs', hone, hrest, rfl⟩
      rw [List.flatten_cons, List.filterMap_append, ih hrest, step_posted hone,
        List.filterMap_cons]
      cases event.posts with
      | none => rfl
      | some command => rfl

section Run

variable {files : Store Text Bytes} {first last : System crates} {events : List Event}
variable {log : List LogEntry}

theorem Run.world (h : Run site files first events last log) :
    ∃ server moves logs, first.world = World.init server ∧
      UDPServer.ofConfig site.config = .ok server ∧ logs.flatten = log ∧
      feed (Mailbox.step serve (jobs site)) (World.init server) moves = .ok (last.world, logs) := by
  rcases h with ⟨hstart, logs, hfeed, rfl⟩
  simp only [System.start, bind_eq_ok] at hstart
  rcases hstart with ⟨server, hserver, hfirst⟩
  cases hfirst
  rcases run_world hfeed with ⟨moves, logs', hmoves, hlogs⟩
  exact ⟨server, moves, logs', rfl, hserver, hlogs, hmoves⟩

/-- What is posted in a run is what its events post, in their order. -/
theorem Run.posted (h : Run site files first events last log) :
    log.filterMap Entry.posted? = events.filterMap Event.posts := by
  rcases h with ⟨_, logs, hfeed, rfl⟩
  exact feed_posted hfeed

theorem Run.first_phase (h : Run site files first events last log) (k : ConnectionId) :
    first.world.phase k = none := by
  rcases h.world with ⟨server, _, _, hfirst, _⟩
  rw [hfirst]
  rfl

/-- Whoever is there has arrived. -/
theorem Run.exists_arrived (h : Run site files first events last log) {k : ConnectionId}
    {p : Phase Command Reply Connection} (hp : last.world.phase k = some p) :
    ∃ stream order files', Arrived site first events k stream order files' := by
  rcases h.runs with ⟨logs, hfeed, _⟩
  -- The first connection of that number is the one that was taken.
  rcases hfind : events.find? fun event => decide (event.opens = some k) with _ | event
  · have hnone := feed_phase_eq_none hfeed (h.first_phase k) fun event hevent =>
      of_decide_eq_false (Bool.eq_false_iff.mpr (List.find?_eq_none.mp hfind event hevent))
    rw [hp] at hnone
    cases hnone
  -- The run up to it says what the directory held then.
  rcases List.find?_eq_some_iff_append.mp hfind with ⟨hopens, before, later, rfl, hbefore⟩
  rcases exists_feed_of_append hfeed with ⟨there, logs', hthere⟩
  have hfirst : ∀ event' ∈ before, event'.opens ≠ some k := by
    intro event' hevent'
    have hnot := hbefore event' hevent'
    rwa [Bool.not_eq_true', decide_eq_false_iff_not] at hnot
  cases event with
  | connect j stream order =>
      cases of_decide_eq_true hopens
      exact ⟨stream, order, there.files, before, later, there, logs', rfl, hfirst, hthere, rfl⟩
  | _ => cases of_decide_eq_true hopens

/-- What arrives is started as the job it is for. -/
theorem Run.started_of_arrived (h : Run site files first events last log) {k : ConnectionId}
    {stream : Bytes} {order : Enumeration Text} {files' : Store Text Bytes}
    (harrived : Arrived site first events k stream order files') :
    .started k (handleConnection site order files' stream) ∈ log := by
  rcases harrived with ⟨before, later, there, logs₁, rfl, hopens, hthere, rfl⟩
  rcases h.runs with ⟨logs, hfeed, rfl⟩
  rcases feed_append_eq_ok hthere hfeed with ⟨logs₂, hrest, rfl⟩
  rcases feed_cons_eq_ok.mp hrest with ⟨system, log₁, logs₃, hone, _, rfl⟩
  -- Nobody had the number, so the connection is taken.
  have hnone := feed_phase_eq_none hthere (h.first_phase k) hopens
  simp only [System.step, System.move, Mailbox.step, hnone, ok_bind, pure_eq_ok, Except.ok.injEq,
    Prod.mk.injEq] at hone
  rw [List.flatten_append, List.flatten_cons, ← hone.2]
  exact List.mem_append_right _ List.mem_cons_self

/-- The log of a connection: it starts from what arrived on it, and goes on as
    if it were alone with the main loop, up to the call it is in the middle
    of. -/
theorem Run.connection_log (h : Run site files first events last log) {k : ConnectionId}
    {stream : Bytes} {order : Enumeration Text} {files' : Store Text Bytes}
    (harrived : Arrived site first events k stream order files') :
    ∃ p calls t rest, last.world.phase k = some p ∧
      Alone (jobs site) (handleConnection site order files' stream) calls t ∧
      Unfinished (jobs site) k t rest p ∧
      log.filter (Entry.isAbout k)
        = .started k (handleConnection site order files' stream)
          :: calls.flatMap (Call.entries k) ++ rest := by
  have hstarted := h.started_of_arrived harrived
  rcases h.world with ⟨server, moves, logs, _, _, rfl, hfeed⟩
  exact alone_of_started hfeed hstarted

/-- A job that is not in the middle of a call has been alone with the main loop,
    and its calls are in the log. -/
theorem Run.alone_of_running (h : Run site files first events last log) {k : ConnectionId}
    {stream : Bytes} {order : Enumeration Text} {files' : Store Text Bytes}
    (harrived : Arrived site first events k stream order files') {t : Connection}
    (hk : last.world.phase k = some (.running t)) :
    ∃ calls, Alone (jobs site) (handleConnection site order files' stream) calls t ∧
      log.filter (Entry.isAbout k)
        = .started k (handleConnection site order files' stream)
          :: calls.flatMap (Call.entries k) ∧
      ∀ c ∈ calls, .taken (some k) c.message true c.extra c.reply ∈ log := by
  rcases h.connection_log harrived with ⟨p, calls, t', rest, hp, halone, hrest, hlog⟩
  -- A job that runs has nothing unfinished.
  rw [hk, Option.some.injEq] at hp
  subst hp
  cases hrest
  rw [List.append_nil] at hlog
  refine ⟨calls, halone, hlog, ?_⟩
  -- A complete call has its turn among its entries.
  intro c hc
  apply List.mem_of_mem_filter (p := Entry.isAbout k)
  rw [hlog]
  refine List.mem_cons_of_mem _ (List.mem_flatMap.mpr ⟨c, hc, ?_⟩)
  simp only [Call.entries, List.mem_cons, true_or, or_true]

/-- A connection that is in the log has been started. -/
theorem Run.phase_of_mem (h : Run site files first events last log) {k : ConnectionId}
    {entry : LogEntry} (hmem : entry ∈ log) (habout : entry.isAbout k = true) :
    ∃ p, last.world.phase k = some p := by
  rcases h.world with ⟨server, moves, logs, _, _, rfl, hfeed⟩
  rcases hp : last.world.phase k with _ | p
  · -- Whoever was never there has an empty log.
    have hnil := conversations hfeed k
    rw [hp] at hnil
    have hin := List.mem_filter.mpr ⟨hmem, habout⟩
    rw [show logs.flatten.filter (Entry.isAbout k) = [] from hnil] at hin
    cases hin
  · exact ⟨p, rfl⟩

/-- A command of a connection is one that what arrived on it comes to send. -/
theorem Run.sends_of_sent (h : Run site files first events last log) {k : ConnectionId}
    {command : Command} (hsent : .sent k command ∈ log) :
    ∃ stream order files' before, Arrived site first events k stream order files' ∧
      Sends site stream before command := by
  rcases h.phase_of_mem hsent (decide_eq_true rfl) with ⟨p', hp'⟩
  rcases h.exists_arrived hp' with ⟨stream, order, files', harrived⟩
  rcases h.connection_log harrived with ⟨p, calls, t, rest, _, halone, hrest, hlog⟩
  have hin : .sent k command ∈ log.filter (Entry.isAbout k) :=
    List.mem_filter.mpr ⟨hsent, decide_eq_true rfl⟩
  refine ⟨stream, order, files', ?_⟩
  -- It is in a call that is complete, or in the one that is not.
  rw [hlog, List.cons_append, List.mem_cons, List.mem_append, List.mem_flatMap] at hin
  rcases hin with hin | ⟨c, hc, hin⟩ | hin
  · cases hin
  · simp only [Call.entries, List.mem_cons, Entry.sent.injEq, true_and, reduceCtorEq,
      List.not_mem_nil, or_false] at hin
    rcases List.getElem?_of_mem hc with ⟨i, hi⟩
    rw [hin]
    exact ⟨i, harrived, alone_sends halone hi⟩
  · have hasks : ∃ t', t.asks = some (command, t') := by
      cases hrest with
      | running => cases hin
      | waiting hasks | replied hasks | left hasks _ | gone hasks _ =>
          simp only [List.mem_cons, Entry.sent.injEq, true_and, reduceCtorEq, List.not_mem_nil,
            or_false] at hin
          rw [hin]
          exact ⟨_, hasks⟩
    rcases hasks with ⟨t', hasks⟩
    exact ⟨calls.length, harrived, (alone_asks halone hasks).1⟩

/-- Commands are taken in the order they are put in. -/
theorem Run.put_eq (h : Run site files first events last log) :
    log.filterMap Entry.put = log.filterMap Entry.took ++ last.world.queue := by
  rcases h.world with ⟨server, moves, logs, _, _, rfl, hfeed⟩
  exact put_eq_taken_append hfeed

theorem posts_cases {command : Command} (h : command ∈ events.filterMap Event.posts) :
    (∃ packet remote, command = .handlePacket packet remote) ∨ command = .runPeriodicChecks := by
  rcases List.mem_filterMap.mp h with ⟨event, _, hposts⟩
  cases event with
  | datagram packet remote =>
      cases hposts
      exact Or.inl ⟨_, _, rfl⟩
  | timeout =>
      cases hposts
      exact Or.inr rfl
  | _ => cases hposts

/-- A command that was put in was sent on a connection, or an event posted
    it. -/
theorem Run.source_of_put (h : Run site files first events last log) {k : Option ConnectionId}
    {command : Command} (hput : (k, command) ∈ log.filterMap Entry.put) :
    (∃ j, k = some j ∧ .sent j command ∈ log) ∨
      (k = none ∧ command ∈ events.filterMap Event.posts) := by
  -- Only two kinds of entry put something in.
  rcases List.mem_filterMap.mp hput with ⟨entry, hentry, hputs⟩
  cases entry with
  | sent j m =>
      cases hputs
      exact Or.inl ⟨j, rfl, hentry⟩
  | posted m =>
      cases hputs
      rw [← h.posted]
      exact Or.inr ⟨rfl, List.mem_filterMap.mpr ⟨_, hentry, rfl⟩⟩
  | _ => cases hputs

/-- So was a command that is taken. -/
theorem Run.source_of_taken (h : Run site files first events last log) {k : Option ConnectionId}
    {command : Command} {waiting : Bool} {turn : Turn} {reply : Reply}
    (htaken : .taken k command waiting turn reply ∈ log) :
    (∃ j, k = some j ∧ .sent j command ∈ log) ∨
      (k = none ∧ command ∈ events.filterMap Event.posts) := by
  have hmem : (k, command) ∈ log.filterMap Entry.put := by
    rw [h.put_eq, List.mem_append]
    exact Or.inl (List.mem_filterMap.mpr ⟨_, htaken, rfl⟩)
  exact h.source_of_put hmem

end Run

end System

end SigmaMedia
