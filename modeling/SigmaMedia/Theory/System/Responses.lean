import Mathlib.Data.Set.List
import SigmaMedia.Theory.HttpBody
import SigmaMedia.Theory.System.Reports

/-!
# Every Request Is Answered

A job may stop with a panic, and the client then gets nothing. Where a request
was read this never happens: a response is always built with a status, and a
job that waits for an answer is sent an answer. So a connection that holds a
request has been answered once its job has come to an end, and one that is
asked for events has been sent as many as were made. The one way for a job to
panic before it writes is to read a length that no vector can hold.

What is written is a response that a client can read by lines. It says which
origin may read it, and where its body ends: by the length, by there being no
body, or, for an event stream, by the events themselves.

JSON is printed without line feeds and the configured origin stands on a line
of its own. That is all that has to be known of what comes from outside.

## Main definitions

* `Framed`: A body whose end can be told.
* `Answered`: What is written can be read.

## Theorems

* `answered_build`: A response that is built can be read.
* `responseTo_answered`, `plainResponse_answered`: So can every response of a
  job.
* `Run.reply_of_taken`: A command is sent the reply it waits for.
* `connections_answered`: A job that has come to an end has answered.
-/

namespace SigmaMedia

namespace Http

open Bytes Exec Reader ResponseBuilder Text

variable {site : Site}

/-- A body whose end can be told. -/
inductive Framed (site : Site) (headers : Store Text Text) (body : Bytes) : Prop
  | sized : headers.lookup "content-length".toList = some (showNat body.length) →
      Framed site headers body
  | bare : headers.lookup "content-length".toList = none → body = [] → Framed site headers body
  /-- Events, each a line of data and a blank line. -/
  | events (notifications : List (List RoomStatus)) :
      headers.lookup "content-length".toList = none →
      headers.lookup "content-type".toList = some "text/event-stream".toList →
      linesOf body = notifications.flatMap (fun rooms =>
        [utf8 ("data: ".toList ++ site.notificationJson rooms ++ crlf), utf8 crlf]) →
      Framed site headers body

/-- What is written can be read, and read from where it may be. -/
def Answered (site : Site) (written : Bytes) : Prop :=
  ∃ status headers body, readResponse written = some (status, headers, body) ∧
    headers.lookup allowOrigin = some site.config.frontendUrl ∧ Framed site headers body

/-- Every event is two lines, and the second is blank. -/
theorem linesOf_events (hjson : ∀ rooms, '\n' ∉ site.notificationJson rooms)
    (notifications : List (List RoomStatus)) :
    linesOf (notifications.flatMap fun rooms => utf8 (formatNotificationToString site rooms))
      = notifications.flatMap fun rooms =>
          [utf8 ("data: ".toList ++ site.notificationJson rooms ++ crlf), utf8 crlf] := by
  induction notifications with
  | nil => rfl
  | cons rooms notifications ih =>
      -- An event splits behind its first line feed.
      have hevent : utf8 (formatNotificationToString site rooms)
          = utf8 ("data: ".toList ++ site.notificationJson rooms ++ crlf) ++ utf8 crlf :=
        utf8_append _ _
      have hdata : '\n' ∉ "data: ".toList ++ site.notificationJson rooms := by
        rw [List.mem_append, not_or]
        exact ⟨by decide, hjson rooms⟩
      -- Its two lines are read off, and then those of the rest.
      rw [List.flatMap_cons, List.flatMap_cons, hevent, List.append_assoc,
        linesOf_append (isLine_utf8 hdata), ← ih]
      exact congrArg _ (linesOf_append (isLine_utf8 List.not_mem_nil) _)

section Built

variable (horigin : IsField (allowOrigin, site.config.frontendUrl)) (order : Enumeration Text)
include horigin

/-- A response that is built can be read. -/
theorem answered_build {builder : ResponseBuilder} (h : builder.IsPlain) {status : Nat}
    (hstatus : builder.status = some status) (hlt : status < 1000) :
    Answered site (bytesOf (builder.build site.config.frontendUrl order)) := by
  rcases readResponse_build h horigin hstatus hlt order [] with ⟨response, hbuild, hread⟩
  rw [List.append_nil, List.append_nil] at hread
  rw [hbuild]
  refine ⟨status, _, _, hread, lookup_allowOrigin _ _, ?_⟩
  -- The body ends where its length says, if it has one.
  have hlength := h.lookup_contentLength site.config.frontendUrl
  rcases hbody : builder.body with _ | body
  · rw [hbody] at hlength
    exact .bare hlength rfl
  · rw [hbody] at hlength
    exact .sized hlength

theorem mapHttpErrToResponse_answered (err : HttpError) :
    Answered site (bytesOf (mapHttpErrToResponse err site.config.frontendUrl order)) := by
  have hlt : err.status < 1000 := by
    cases err with
    | notFound => decide
    | unauthorized => decide
    | internalServerError => decide
    | badRequest => decide
    | methodNotAllowed => decide
  exact answered_build horigin order (isPlain_new.setStatus _) rfl hlt

theorem whipCreated_answered (sdpAnswer : Text) :
    Answered site (bytesOf (whipCreated site order sdpAnswer)) :=
  answered_build horigin order ((((isPlain_new.setStatus 201).setHeader (by decide)
    (by decide)).setHeader (by decide) (by decide)).setBody _) rfl (by decide)

theorem whepCreated_answered (sdpAnswer : Text) :
    Answered site (bytesOf (whepCreated site order sdpAnswer)) :=
  answered_build horigin order ((((((isPlain_new.setStatus 200).setHeader (by decide)
    (by decide)).setHeader (by decide) (by decide)).setHeader horigin (by decide)).setHeader
    (by decide) (by decide)).setBody _) rfl (by decide)

theorem roomsListed_answered (rooms : List RoomStatus) :
    Answered site (bytesOf (roomsListed site order rooms)) :=
  answered_build horigin order (((isPlain_new.setStatus 200).setHeader (by decide)
    (by decide)).setBody _) rfl (by decide)

theorem imageResponse_answered (files : Store Text Bytes) (request : Request) :
    Answered site (bytesOf (imageResponse site order files request)) := by
  unfold imageResponse
  -- No name, no file, or a file.
  rcases imagePath site request with err | filePathname
  · exact mapHttpErrToResponse_answered horigin order err
  · rcases hfile : files.lookup filePathname with _ | targetFile
    · simp only [hfile]
      exact mapHttpErrToResponse_answered horigin order .notFound
    · simp only [hfile]
      exact answered_build horigin order (((isPlain_new.setStatus 200).setHeader (by decide)
        (by decide)).setBody _) rfl (by decide)

/-- The response of a job that sends no command. -/
theorem plainResponse_answered (files : Store Text Bytes) (request : Request) :
    Answered site (bytesOf (plainResponse site order files request)) := by
  have herror := mapHttpErrToResponse_answered horigin order
  unfold plainResponse
  -- By path, as the routes are told apart.
  by_cases hwhip : request.path = "/whip".toList
  · rw [if_pos hwhip]
    exact herror _
  rw [if_neg hwhip]
  by_cases hwhep : request.path = "/whep".toList
  · rw [if_pos hwhep]
    by_cases hoptions : request.method = .options
    · rw [if_pos hoptions]
      exact answered_build horigin order (((isPlain_new.setStatus 204).setHeader (by decide)
        (by decide)).setHeader (by decide) (by decide)) rfl (by decide)
    · rw [if_neg hoptions]
      exact herror _
  rw [if_neg hwhep]
  by_cases himages : request.path = "/images".toList
  · rw [if_pos himages]
    exact imageResponse_answered horigin order files request
  · rw [if_neg himages]
    exact herror _

/-- A response to a command, if the reply is one the command waits for. -/
theorem responseTo_answered {command : Command} {reply : Reply}
    (hanswer : command.isOffer = true → ∃ answer, reply = .answer answer) :
    Answered site (bytesOf (responseTo site order command reply)) := by
  have herror := mapHttpErrToResponse_answered horigin order
  -- Whatever is not an offer is answered with the list of rooms.
  have hrooms : Answered site (bytesOf (responseTo site order .sendRoomsStatus reply)) := by
    unfold responseTo
    rcases reply.notification? with _ | rooms
    · exact herror _
    · exact roomsListed_answered horigin order rooms
  cases command with
  | addStreamer sdpOffer =>
      -- An offer is refused or answered.
      rcases hanswer rfl with ⟨_ | sdpAnswer, rfl⟩
      · exact herror _
      · exact whipCreated_answered horigin order sdpAnswer
  | addViewer sdpOffer targetId =>
      rcases hanswer rfl with ⟨_ | sdpAnswer, rfl⟩
      · exact herror _
      · exact whepCreated_answered horigin order sdpAnswer
  | _ => exact hrooms

/-- An event stream is read event by event. -/
theorem eventStream_answered (hjson : ∀ rooms, '\n' ∉ site.notificationJson rooms)
    (notifications : List (List RoomStatus)) :
    Answered site (bytesOf (eventStreamHeader site order)
      ++ notifications.flatMap fun rooms => utf8 (formatNotificationToString site rooms)) := by
  have hplain := ((((isPlain_new.setStatus 200).setHeader (by decide : IsField
    ("Connection".toList, "keep-alive".toList)) (by decide)).setHeader (by decide : IsField
    ("Cache-control".toList, "no-cache".toList)) (by decide)).setHeader (by decide : IsField
    ("content-type".toList, "text/event-stream".toList)) (by decide))
  -- The header is read back in front of any events.
  rcases readResponse_build hplain horigin rfl (by decide) order
    (notifications.flatMap fun rooms => utf8 (formatNotificationToString site rooms)) with
    ⟨response, hbuild, hread⟩
  have hheader : eventStreamHeader site order = .ok response := hbuild
  rw [hheader]
  refine ⟨200, _, _, hread, lookup_allowOrigin _ _, .events notifications ?_ ?_ ?_⟩
  · -- It has no length, and it says that events follow.
    rw [hplain.lookup_contentLength]
    rfl
  · rw [lookup_sentHeaders (by decide) (by decide)]
    exact Finmap.lookup_insert _
  · exact linesOf_events hjson notifications

end Built

end Http

namespace System

open Bytes Exec Http Mailbox ResponseBuilder Text Trace

variable {crates : Crates} {site : Site} {files : Store Text Bytes} {first last : System crates}
variable {events : List Event} {log : List LogEntry}

/-- A command is sent the reply it waits for. -/
theorem Run.reply_of_taken (h : Run site files first events last log) {k : Option ConnectionId}
    {command : Command} {waiting : Bool} {turn : Turn} {reply : Reply}
    (htaken : .taken k command waiting turn reply ∈ log) :
    (command.isOffer = true → ∃ answer, reply = .answer answer) ∧
      (command = .sendRoomsStatus → ∃ rooms, reply = .notification rooms) := by
  rcases h.step_of_taken htaken with
    ⟨resolver, before, later, server₁, server₂, outputs, _, output, _, _, hbefore, hstep, _,
      hprint⟩
  constructor
  · -- An offer is settled, and what it is settled with is printed.
    intro hoffer
    have hfiled := UDPServer.feed_filed (UDPServer.new_filed resolver) hbefore
    rcases UDPServer.step_settles hoffer hfiled hstep with ⟨answer, rfl, _⟩
    rcases answer with _ | sdpAnswer
    · cases hprint
      exact ⟨none, rfl⟩
    · simp only [printReply, bind_eq_ok, pure_eq_ok, Except.ok.injEq] at hprint
      rcases hprint with ⟨text, _, rfl⟩
      exact ⟨some text, rfl⟩
  · -- A question for the rooms has only one reply.
    rintro rfl
    cases hstep
    cases hprint
    exact ⟨_, rfl⟩

/-- A request whose job is not in the middle of a call. -/
theorem Run.answered_of_request (h : Run site files first events last log)
    (horigin : IsField (allowOrigin, site.config.frontendUrl))
    (hjson : ∀ rooms, '\n' ∉ site.notificationJson rooms) {k : ConnectionId} {stream : Bytes}
    {order : Enumeration Text} {files' : Store Text Bytes} {request : Request}
    (hrequest : requestOf site stream = some request) {calls : List CommandCall} {t : Connection}
    (halone : Alone (jobs site) (handleConnection site order files' stream) calls t)
    (htaken : ∀ c ∈ calls, .taken (some k) c.message true c.extra c.reply ∈ log) :
    (t.written = [] ∧ ∃ command t', t.asks = some (command, t')) ∨ Answered site t.written := by
  -- An event stream has written an event for each of its calls.
  by_cases hpath : request.path = "/notifications".toList
  · rcases alone_of_notifications hrequest hpath halone with ⟨hmessages, ⟨_, rfl⟩ | hstate⟩
    · exact Or.inl ⟨rfl, _, _, rfl⟩
    · rw [hstate.2.2]
      -- All its replies were lists of rooms.
      have hrooms : ∃ notifications : List (List RoomStatus),
          notifications.map Reply.notification = calls.map Call.reply := by
        have hall : ∀ reply ∈ calls.map Call.reply, reply ∈ Set.range Reply.notification := by
          intro reply hreplied
          rcases List.mem_map.mp hreplied with ⟨c, hc, rfl⟩
          rcases (h.reply_of_taken (htaken c hc)).2 (hmessages c hc) with ⟨rooms, hrooms⟩
          exact ⟨rooms, hrooms.symm⟩
        have hrange := Set.range_list_map Reply.notification
        exact (Set.ext_iff.mp hrange (calls.map Call.reply)).mpr hall
      rcases hrooms with ⟨notifications, hnotifications⟩
      rw [← hnotifications, List.flatMap_map]
      exact Or.inr (eventStream_answered horigin order hjson notifications)
  -- Any other job responds at once, or to the reply of its one call.
  rcases hcommand : commandOf site request with _ | command
  · rw [handleConnection_of_some hrequest hpath, orError_of_commandOf_none hcommand,
      advance_done, List.nil_append] at halone
    rw [(alone_of_asks_none rfl halone).2]
    exact Or.inr (plainResponse_answered horigin order files' request)
  · rcases alone_of_commandOf hrequest hpath hcommand halone with ⟨_, rfl⟩ | ⟨c, rfl, rfl, rfl⟩
    · exact Or.inl ⟨rfl, _, _, rfl⟩
    · have hanswer := (h.reply_of_taken (htaken c (List.mem_singleton_self c))).1
      exact Or.inr (responseTo_answered horigin order hanswer)

/-- A request that arrived is answered, unless its job still has a command to
    send. Where no request arrived nothing is written: the head makes no sense,
    or it declares a body that no vector can hold, and the job panics. -/
theorem connections_answered (h : Run site files first events last log)
    (horigin : IsField (allowOrigin, site.config.frontendUrl))
    (hjson : ∀ rooms, '\n' ∉ site.notificationJson rooms) {k : ConnectionId} {stream : Bytes}
    {order : Enumeration Text} {files' : Store Text Bytes}
    (harrived : Arrived site first events k stream order files') {t : Connection}
    (hk : last.world.phase k = some (.running t)) :
    (∀ request, parseHttp site.lowercase stream = .ok (some request) →
      (t.written = [] ∧ ∃ command t', t.asks = some (command, t')) ∨ Answered site t.written) ∧
    (parseHttp site.lowercase stream = .ok none → t.written = [] ∧ t.asks = none) ∧
    ∀ p, parseHttp site.lowercase stream = .error p →
      t.written = [] ∧ t.asks = none ∧ DeclaresTooMuch site.lowercase stream := by
  rcases h.alone_of_running harrived hk with ⟨calls, halone, _, htaken⟩
  -- A job without a request is over as it starts.
  have hnobody : requestOf site stream = none → t.written = [] ∧ t.asks = none := by
    intro hnone
    rw [handleConnection_of_none hnone] at halone
    rw [(alone_of_asks_none rfl halone).2]
    exact ⟨rfl, rfl⟩
  refine ⟨?_, ?_, ?_⟩
  · intro request hrequest
    exact h.answered_of_request horigin hjson (requestOf_eq_some.mpr hrequest) halone htaken
  · intro hparse
    exact hnobody (by rw [requestOf, hparse])
  · intro p hparse
    rcases hnobody (by rw [requestOf, hparse]) with ⟨hwritten, hasks⟩
    exact ⟨hwritten, hasks, (parseHttp_panics_iff site.lowercase stream).mp ⟨p, hparse⟩⟩

/-- The list of rooms is asked for and read. -/
theorem connections_answered_rooms :
    ∃ (first last : System UDPServer.plainCrates) (log : List LogEntry) (t : Connection)
      (request : Request),
      Run plainSite ∅ first
        [.connect 0 roomsRequest textOrder, .send 0, .take (plainTurn 1 2), .receive 0 false]
        last log ∧
      last.world.phase 0 = some (.running t) ∧ t.written ≠ [] ∧
      parseHttp plainSite.lowercase roomsRequest = .ok (some request) ∧
      Answered plainSite t.written := by
  have hrun : passes (System.start plainSite ∅ : Exec (System UDPServer.plainCrates)) (fun first =>
      passes (feed (System.step plainSite) first
        [.connect 0 roomsRequest textOrder, .send 0, .take (plainTurn 1 2), .receive 0 false])
        fun result => (writtenTo result.1 0).any fun written => decide (written ≠ [])) = true := by
    decide +kernel
  have hparse : passes (parseHttp plainSite.lowercase roomsRequest) Option.isSome = true := by
    decide +kernel
  rcases exists_run hrun with ⟨first, last, logs, h, htest⟩
  rcases of_passes hparse with ⟨found, hparse, hfound⟩
  rcases Option.isSome_iff_exists.mp hfound with ⟨request, rfl⟩
  rcases (Option.any_eq_true _ _).mp htest with ⟨written, hbytes, hne⟩
  rcases writtenTo_eq_some.mp hbytes with ⟨t, hk, rfl⟩
  have hwritten : t.written ≠ [] := of_decide_eq_true hne
  have hanswered : Answered plainSite t.written := by
    rcases (connections_answered h (by decide) newline_notMem_roomsJson h.arrived hk).1 request
      hparse with ⟨hempty, _⟩ | hanswered
    · exact absurd hempty hwritten
    · exact hanswered
  exact ⟨first, last, logs.flatten, t, request, h, hk, hwritten, hparse, hanswered⟩

end System

end SigmaMedia
