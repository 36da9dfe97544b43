import SigmaMedia.Core.HttpServer

/-!
# What a Job Does

A job asks the main loop at most once before it responds, except for the event
stream, which never does anything else. `commandOf` is the command a request
comes to send, read off the request alone, and `responseTo` is the response it
makes of the reply. `orError_of_commandOf` says that this is all there is to a
job, so nothing later looks into a route again.

Put together, `transcript` is what a job writes, as a function of the replies
it gets. How long it waits for them, and what happens meanwhile, is not in it.

## Main definitions

* `IsAuthorised`: A request that carries the token.
* `commandOf`: The command a request sends, if it comes to that.
* `responseTo`: The response to a reply.
* `plainResponse`: The response of a job that asks nothing.
* `transcript`: What a job writes.
* `Sends`: What a job sends.

## Theorems

* `commandOf_cases`: Who sends which command.
* `orError_of_commandOf`: A job that sends a command.
* `orError_of_commandOf_none`: A job that sends none.
* `alone_written`: A job writes its transcript.
* `alone_asks`, `alone_sends`: A job sends what its request makes it send.
-/

namespace SigmaMedia

namespace Http

open Bytes Exec Text

variable {site : Site} {order : Enumeration Text} {files : Store Text Bytes} {request : Request}

/-- A request that carries the token. -/
def IsAuthorised (site : Site) (request : Request) : Prop :=
  request.headers.lookup "authorization".toList
    = some ("Bearer ".toList ++ site.config.whipToken)

instance : Decidable (IsAuthorised site request) :=
  inferInstanceAs (Decidable (_ = _))

/-- The room a request wants to watch. -/
def targetOf (request : Request) : Option RoomID :=
  ((request.search.lookup "target_id".toList).bind (parseUnsigned (2 ^ 32))).map UInt32.ofNat

/-- The command a request sends, if it comes to that. -/
def commandOf (site : Site) (request : Request) : Option Command :=
  if request.path = "/whip".toList then
    if IsAuthorised site request then (bodyText request).map .addStreamer else none
  else if request.path = "/whep".toList then
    if request.method = .post then
      (targetOf request).bind fun targetId =>
        (bodyText request).map fun sdpOffer => .addViewer sdpOffer targetId
    else none
  else if request.path = "/rooms".toList then some .sendRoomsStatus
  else none

/-- The response with an answer in it. -/
def whipCreated (site : Site) (order : Enumeration Text) (sdpAnswer : Text) : Exec Response :=
  (((((ResponseBuilder.new.setStatus 201).setHeader "content-type".toList
    "application/sdp".toList).setHeader "location".toList
    "http://localhost:8080/whip".toList).setBody (utf8 sdpAnswer))).build
    site.config.frontendUrl order

/-- The response to a viewer that was admitted. -/
def whepCreated (site : Site) (order : Enumeration Text) (sdpAnswer : Text) : Exec Response :=
  ((((((ResponseBuilder.new.setStatus 200).setHeader "content-type".toList
    "application/sdp".toList).setHeader "Access-Control-Allow-Method".toList
    "POST".toList).setHeader "Access-Control-Allow-Origin".toList
    site.config.frontendUrl).setHeader "location".toList
    "http://localhost:8080/whep".toList).setBody (utf8 sdpAnswer)).build
    site.config.frontendUrl order

/-- The response with the list of rooms. -/
def roomsListed (site : Site) (order : Enumeration Text) (rooms : List RoomStatus) :
    Exec Response :=
  ((((ResponseBuilder.new.setStatus 200).setHeader "content-type".toList
    "application/json".toList).setBody (utf8 (site.notificationJson rooms)))).build
    site.config.frontendUrl order

/-- The response with an image in it. -/
def imageSent (site : Site) (order : Enumeration Text) (targetFile : Bytes) : Exec Response :=
  (((ResponseBuilder.new.setStatus 200).setHeader "Content-Type".toList
    "image/webp".toList).addBody targetFile).build site.config.frontendUrl order

/-- The response a job makes of the reply to its command. -/
def responseTo (site : Site) (order : Enumeration Text) (command : Command) (reply : Reply) :
    Exec Response :=
  match command with
  | .addStreamer _ =>
      match reply.answer? with
      | some (some sdpAnswer) => whipCreated site order sdpAnswer
      | some none => mapHttpErrToResponse .notFound site.config.frontendUrl order
      | none => .error (.expect "SessionCommand channel should remain open")
  | .addViewer _ _ =>
      match reply.answer? with
      | some (some sdpAnswer) => whepCreated site order sdpAnswer
      | some none => mapHttpErrToResponse .badRequest site.config.frontendUrl order
      | none => .error .unwrap
  | _ =>
      match reply.notification? with
      | some rooms => roomsListed site order rooms
      | none => mapHttpErrToResponse .internalServerError site.config.frontendUrl order

/-- The image a request is sent, or what it is told instead. -/
def imageResponse (site : Site) (order : Enumeration Text) (files : Store Text Bytes)
    (request : Request) : Exec Response :=
  match imagePath site request with
  | .error err => mapHttpErrToResponse err site.config.frontendUrl order
  | .ok filePathname =>
      match files.lookup filePathname with
      | none => mapHttpErrToResponse .notFound site.config.frontendUrl order
      | some targetFile => imageSent site order targetFile

/-- The response of a job that sends no command. -/
def plainResponse (site : Site) (order : Enumeration Text) (files : Store Text Bytes)
    (request : Request) : Exec Response :=
  if request.path = "/whip".toList then
    mapHttpErrToResponse (if IsAuthorised site request then .badRequest else .unauthorized)
      site.config.frontendUrl order
  else if request.path = "/whep".toList then
    if request.method = .options then
      (((ResponseBuilder.new.setStatus 204).setHeader "Access-Control-Allow-Method".toList
        "POST".toList).setHeader "Access-Control-Allow-Headers".toList
        "content-type".toList).build site.config.frontendUrl order
    else
      mapHttpErrToResponse (if request.method = .post then .badRequest else .methodNotAllowed)
        site.config.frontendUrl order
  else if request.path = "/images".toList then imageResponse site order files request
  else mapHttpErrToResponse .notFound site.config.frontendUrl order

/-- Who sends what. -/
theorem commandOf_cases {command : Command} (h : commandOf site request = some command) :
    (request.path = "/whip".toList ∧ IsAuthorised site request ∧
      ∃ sdpOffer, bodyText request = some sdpOffer ∧ command = .addStreamer sdpOffer) ∨
    (request.path = "/whep".toList ∧ request.method = .post ∧
      ∃ targetId sdpOffer, targetOf request = some targetId ∧ bodyText request = some sdpOffer ∧
        command = .addViewer sdpOffer targetId) ∨
    (request.path = "/rooms".toList ∧ command = .sendRoomsStatus) := by
  unfold commandOf at h
  by_cases hwhip : request.path = "/whip".toList
  · rw [if_pos hwhip] at h
    by_cases hauth : IsAuthorised site request
    · rw [if_pos hauth, Option.map_eq_some_iff] at h
      rcases h with ⟨sdpOffer, hbody, rfl⟩
      exact Or.inl ⟨hwhip, hauth, sdpOffer, hbody, rfl⟩
    · rw [if_neg hauth] at h
      cases h
  rw [if_neg hwhip] at h
  by_cases hwhep : request.path = "/whep".toList
  · rw [if_pos hwhep] at h
    by_cases hpost : request.method = .post
    · simp only [if_pos hpost, Option.bind_eq_some_iff, Option.map_eq_some_iff] at h
      rcases h with ⟨targetId, htarget, sdpOffer, hbody, rfl⟩
      exact Or.inr (Or.inl ⟨hwhep, hpost, targetId, sdpOffer, htarget, hbody, rfl⟩)
    · rw [if_neg hpost] at h
      cases h
  rw [if_neg hwhep] at h
  by_cases hrooms : request.path = "/rooms".toList
  · rw [if_pos hrooms] at h
    cases h
    exact Or.inr (Or.inr ⟨hrooms, rfl⟩)
  · rw [if_neg hrooms] at h
    cases h

section Steps

variable {α : Type} {f : α → Route Response} {err : HttpError}

@[simp] theorem okOr_some_bind (a : α) : (Route.okOr err (some a) >>= f) = f a := rfl

@[simp] theorem okOr_none_bind : (Route.okOr err none >>= f) = Route.fail err := rfl

@[simp] theorem ofExec_ok_bind (a : α) : (Route.ofExec (.ok a) >>= f) = f a := rfl

@[simp] theorem orError_fail :
    orError site order (Route.fail err)
      = .done (mapHttpErrToResponse err site.config.frontendUrl order) := rfl

@[simp] theorem orError_ask_bind (command : Command) (g : Reply → Route Response) :
    orError site order (Route.ask command >>= g)
      = .ask command fun reply => orError site order (g reply) := rfl

@[simp] theorem orError_ofExec (x : Exec Response) :
    orError site order (Route.ofExec x) = .done x := by
  cases x with
  | error p => rfl
  | ok response => rfl

@[simp] theorem orError_respond (builder : ResponseBuilder) :
    orError site order (respond site order builder)
      = .done (builder.build site.config.frontendUrl order) :=
  orError_ofExec _

end Steps

theorem whipRoute_eq_ask (hauth : IsAuthorised site request) {sdpOffer : Text}
    (hbody : bodyText request = some sdpOffer) :
    orError site order (whipRoute site order request)
      = .ask (.addStreamer sdpOffer) fun reply =>
          .done (responseTo site order (.addStreamer sdpOffer) reply) := by
  have hlookup : request.headers.lookup "authorization".toList
      = some ("Bearer ".toList ++ site.config.whipToken) := hauth
  simp only [whipRoute, hlookup, hbody, okOr_some_bind, ne_eq, not_true_eq_false, if_false,
    orError_ask_bind, Talk.ask.injEq, true_and]
  -- What is done with the reply is read off each kind of reply.
  funext reply
  unfold responseTo
  rcases reply.answer? with _ | _ | sdpAnswer
  · rfl
  · rfl
  · simp only [expect, ofExec_ok_bind, okOr_some_bind, orError_respond]
    rfl

theorem whepRoute_eq_ask {targetId : RoomID} {sdpOffer : Text}
    (htarget : targetOf request = some targetId) (hbody : bodyText request = some sdpOffer) :
    orError site order (whepRoute site order request)
      = .ask (.addViewer sdpOffer targetId) fun reply =>
          .done (responseTo site order (.addViewer sdpOffer targetId) reply) := by
  simp only [targetOf, Option.map_eq_some_iff, Option.bind_eq_some_iff] at htarget
  rcases htarget with ⟨number, ⟨text, htext, hnumber⟩, rfl⟩
  simp only [whepRoute, htext, hnumber, hbody, okOr_some_bind, orError_ask_bind,
    Talk.ask.injEq, true_and]
  -- As for a streamer, with an error of its own.
  funext reply
  unfold responseTo
  rcases reply.answer? with _ | _ | sdpAnswer
  · rfl
  · rfl
  · simp only [unwrap, ofExec_ok_bind, okOr_some_bind, orError_respond]
    rfl

theorem roomsRoute_eq_ask :
    orError site order (roomsRoute site order)
      = .ask .sendRoomsStatus fun reply =>
          .done (responseTo site order .sendRoomsStatus reply) := by
  simp only [roomsRoute, orError_ask_bind, Talk.ask.injEq, true_and]
  funext reply
  unfold responseTo
  rcases reply.notification? with _ | rooms
  · rfl
  · simp only [okOr_some_bind, orError_respond]
    rfl

/-- A job that sends a command is done with the reply. -/
theorem orError_of_commandOf {command : Command} (h : commandOf site request = some command) :
    orError site order (route site order files request)
      = .ask command fun reply => .done (responseTo site order command reply) := by
  rcases commandOf_cases h with ⟨hwhip, hauth, sdpOffer, hbody, rfl⟩ |
      ⟨hwhep, hpost, targetId, sdpOffer, htarget, hbody, rfl⟩ | ⟨hrooms, rfl⟩
  · rw [route, if_pos hwhip]
    exact whipRoute_eq_ask hauth hbody
  · -- The paths before it are other ones.
    have hne : ¬ request.path = "/whip".toList := by
      rw [hwhep]
      decide
    simp only [route, if_neg hne, if_pos hwhep, hpost]
    exact whepRoute_eq_ask htarget hbody
  · have hne : ¬ request.path = "/whip".toList ∧ ¬ request.path = "/whep".toList ∧
        ¬ request.path = "/images".toList := by
      rw [hrooms]
      decide
    rw [route, if_neg hne.1, if_neg hne.2.1, if_neg hne.2.2, if_pos hrooms]
    exact roomsRoute_eq_ask

theorem whipRoute_eq_done (h : IsAuthorised site request → bodyText request = none) :
    orError site order (whipRoute site order request)
      = .done (mapHttpErrToResponse
          (if IsAuthorised site request then .badRequest else .unauthorized)
          site.config.frontendUrl order) := by
  by_cases hauth : IsAuthorised site request
  · have hlookup : request.headers.lookup "authorization".toList
        = some ("Bearer ".toList ++ site.config.whipToken) := hauth
    simp only [whipRoute, hlookup, h hauth, okOr_some_bind, okOr_none_bind, ne_eq,
      not_true_eq_false, if_false, orError_fail, if_pos hauth]
  · rw [if_neg hauth, whipRoute]
    unfold IsAuthorised at hauth
    -- No token, or a wrong one.
    rcases hlookup : request.headers.lookup "authorization".toList with _ | token
    · rfl
    · rw [hlookup, Option.some.injEq] at hauth
      rw [okOr_some_bind, if_pos hauth, orError_fail]

theorem whepRoute_eq_done
    (h : ∀ targetId, targetOf request = some targetId → bodyText request = none) :
    orError site order (whepRoute site order request)
      = .done (mapHttpErrToResponse .badRequest site.config.frontendUrl order) := by
  unfold targetOf at h
  rw [whepRoute]
  -- No room, a room that is no number, or no body.
  rcases hsearch : request.search.lookup "target_id".toList with _ | text
  · rfl
  rcases hnumber : parseUnsigned (2 ^ 32) text with _ | number
  · simp only [okOr_some_bind, hnumber, okOr_none_bind, orError_fail]
  · have hbody := h (UInt32.ofNat number) (by rw [hsearch, Option.bind_some, hnumber]; rfl)
    simp only [okOr_some_bind, hnumber, hbody, okOr_none_bind, orError_fail]

theorem imagesRoute_eq_done :
    orError site order (imagesRoute site order files request)
      = .done (imageResponse site order files request) := by
  unfold imagesRoute imageResponse
  rcases imagePath site request with err | filePathname
  · rfl
  · rcases hfile : files.lookup filePathname with _ | targetFile
    · simp only [hfile, okOr_none_bind, orError_fail]
    · simp only [hfile, okOr_some_bind, orError_respond]
      rfl

/-- A job that sends no command responds at once. -/
theorem orError_of_commandOf_none (h : commandOf site request = none) :
    orError site order (route site order files request)
      = .done (plainResponse site order files request) := by
  unfold commandOf at h
  unfold route plainResponse
  -- By path, and where a command could be sent, by what is missing.
  by_cases hwhip : request.path = "/whip".toList
  · rw [if_pos hwhip] at h
    rw [if_pos hwhip, if_pos hwhip]
    apply whipRoute_eq_done
    intro hauth
    rwa [if_pos hauth, Option.map_eq_none_iff] at h
  rw [if_neg hwhip] at h
  rw [if_neg hwhip, if_neg hwhip]
  by_cases hwhep : request.path = "/whep".toList
  · rw [if_pos hwhep] at h
    rw [if_pos hwhep, if_pos hwhep]
    cases hmethod : request.method with
    | post =>
        rw [if_pos hmethod, Option.bind_eq_none_iff] at h
        apply whepRoute_eq_done
        intro targetId htarget
        exact Option.map_eq_none_iff.mp (h targetId htarget)
    | options => exact orError_respond _
    | get => rfl
    | delete => rfl
  rw [if_neg hwhep] at h
  rw [if_neg hwhep, if_neg hwhep]
  by_cases himages : request.path = "/images".toList
  · rw [if_pos himages, if_pos himages]
    exact imagesRoute_eq_done
  rw [if_neg himages, if_neg himages]
  by_cases hrooms : request.path = "/rooms".toList
  · rw [if_pos hrooms] at h
    cases h
  · rw [if_neg hrooms]
    rfl

/-- What is written of a response. A job that panics writes nothing. -/
def bytesOf : Exec Response → Bytes
  | .ok response => response.bytes
  | .error _ => []

/-- The event a reply is written as. -/
def eventOf (site : Site) (reply : Reply) : Bytes :=
  match reply.notification? with
  | none => []
  | some notification => utf8 (formatNotificationToString site notification)

/-- The request a job comes to handle. There is none if the stream holds none,
    and none if the job panics while it reads it. -/
def requestOf (site : Site) (stream : Bytes) : Option Request :=
  match parseHttp site.lowercase stream with
  | .ok request => request
  | .error _ => none

theorem requestOf_eq_some {stream : Bytes} :
    requestOf site stream = some request ↔
      parseHttp site.lowercase stream = .ok (some request) := by
  unfold requestOf
  rcases parseHttp site.lowercase stream with p | found
  · simp only [reduceCtorEq]
  · rw [Except.ok.injEq]

/-- What a job writes, by the replies it gets, one after another. -/
def transcript (site : Site) (order : Enumeration Text) (files : Store Text Bytes)
    (stream : Bytes) (replies : List Reply) : Bytes :=
  match requestOf site stream with
  | none => []
  | some request =>
      if request.path = "/notifications".toList then
        -- The header goes out with the first command.
        (if replies = [] then [] else bytesOf (eventStreamHeader site order))
          ++ replies.flatMap (eventOf site)
      else
        match commandOf site request with
        | none => bytesOf (plainResponse site order files request)
        | some command => replies.flatMap fun reply => bytesOf (responseTo site order command reply)

/-- The commands a job may send, by the number it has sent before. -/
def Sends (site : Site) (stream : Bytes) (before : Nat) (command : Command) : Prop :=
  ∃ request, requestOf site stream = some request ∧
    if request.path = "/notifications".toList then command = .sendRoomsStatus
    else before = 0 ∧ commandOf site request = some command

theorem advance_done (written : Bytes) (x : Exec Response) :
    Connection.advance written (.done x)
      = { written := written ++ bytesOf x, rest := .closed } := by
  cases x with
  | ok response => rfl
  | error p =>
      rw [bytesOf, List.append_nil]
      rfl

theorem handleConnection_of_none {stream : Bytes} (h : requestOf site stream = none) :
    handleConnection site order files stream = { written := [], rest := .closed } := by
  unfold requestOf at h
  unfold handleConnection
  rcases hparse : parseHttp site.lowercase stream with p | _ | request
  · rfl
  · rfl
  · rw [hparse] at h
    cases h

theorem handleConnection_of_some {stream : Bytes} (h : requestOf site stream = some request)
    (hpath : request.path ≠ "/notifications".toList) :
    handleConnection site order files stream
      = Connection.advance [] (orError site order (route site order files request)) := by
  unfold requestOf at h
  unfold handleConnection
  rcases hparse : parseHttp site.lowercase stream with p | _ | request'
  · rw [hparse] at h
    cases h
  · rw [hparse] at h
    cases h
  · rw [hparse] at h
    cases h
    exact if_neg hpath

/-- The header of an event stream is always built. -/
theorem eventStreamHeader_returns (site : Site) (order : Enumeration Text) :
    ∃ response, eventStreamHeader site order = .ok response := ⟨_, rfl⟩

theorem handleConnection_of_notifications {stream : Bytes}
    (h : requestOf site stream = some request) (hpath : request.path = "/notifications".toList) :
    handleConnection site order files stream
      = { written := [], rest := .opening (bytesOf (eventStreamHeader site order)) } := by
  unfold requestOf at h
  unfold handleConnection
  rcases eventStreamHeader_returns site order with ⟨response, hheader⟩
  rcases hparse : parseHttp site.lowercase stream with p | _ | request'
  · rw [hparse] at h
    cases h
  · rw [hparse] at h
    cases h
  · rw [hparse] at h
    cases h
    simp only [if_pos hpath, hheader, bytesOf]

section Alone

open Mailbox

variable {ε : Type} {stream : Bytes} {calls : List (Call Command Reply ε Bool)} {t : Connection}

/-- A job that has nothing to ask does not go on. -/
theorem alone_of_asks_none {t₀ : Connection} (hasks : t₀.asks = none)
    (h : Alone (jobs site) t₀ calls t) : calls = [] ∧ t = t₀ := by
  induction h with
  | nil => exact ⟨rfl, rfl⟩
  | snoc c _ hsnoc ih =>
      rw [ih.2] at hsnoc
      exact absurd (hasks.symm.trans hsnoc) (by simp only [reduceCtorEq, not_false_eq_true])

theorem alone_of_commandOf {command : Command} (hrequest : requestOf site stream = some request)
    (hpath : request.path ≠ "/notifications".toList)
    (hcommand : commandOf site request = some command)
    (h : Alone (jobs site) (handleConnection site order files stream) calls t) :
    (calls = [] ∧ t = { written := [], rest := .responding (.ask command fun reply =>
      .done (responseTo site order command reply)) }) ∨
    ∃ c, calls = [c] ∧ c.message = command ∧
      t = { written := bytesOf (responseTo site order command c.reply), rest := .closed } := by
  have hstart : handleConnection site order files stream
      = { written := [], rest := .responding (.ask command fun reply =>
          .done (responseTo site order command reply)) } := by
    rw [handleConnection_of_some hrequest hpath, orError_of_commandOf hcommand]
    rfl
  -- Over the calls: there is one at most.
  rw [hstart] at h
  induction h with
  | nil => exact Or.inl ⟨rfl, rfl⟩
  | snoc c _ hsnoc ih =>
      rcases ih with ⟨rfl, rfl⟩ | ⟨c', rfl, _, rfl⟩
      · -- The first reply ends the job.
        cases hsnoc
        refine Or.inr ⟨c, rfl, rfl, ?_⟩
        change Connection.advance [] (.done (responseTo site order _ c.reply)) = _
        rw [advance_done, List.nil_append]
      · cases hsnoc

/-- How far an event stream has got. -/
def IsStreaming (connection : Connection) : Prop :=
  connection.rest = .opened ∨ connection.rest = .notifying ∨ connection.rest = .closed

theorem notify_written (connection : Connection) (reply : Reply) (brokenPipe : Bool) :
    (connection.notify site reply brokenPipe).written
      = connection.written ++ eventOf site reply := by
  unfold Connection.notify eventOf
  rcases reply.notification? with _ | rooms
  · rw [List.append_nil]
  · rfl

theorem notify_isStreaming {connection : Connection} (h : IsStreaming connection) (reply : Reply)
    (brokenPipe : Bool) : IsStreaming (connection.notify site reply brokenPipe) := by
  unfold Connection.notify
  rcases reply.notification? with _ | rooms
  · exact h
  · cases brokenPipe with
    | true => exact Or.inr (Or.inr rfl)
    | false => exact Or.inr (Or.inl rfl)

theorem alone_of_notifications (hrequest : requestOf site stream = some request)
    (hpath : request.path = "/notifications".toList)
    (h : Alone (jobs site) (handleConnection site order files stream) calls t) :
    (∀ c ∈ calls, c.message = .sendRoomsStatus) ∧
    ((calls = [] ∧
        t = { written := [], rest := .opening (bytesOf (eventStreamHeader site order)) }) ∨
      (calls ≠ [] ∧ IsStreaming t ∧ t.written = bytesOf (eventStreamHeader site order)
        ++ (calls.map Call.reply).flatMap (eventOf site))) := by
  rw [handleConnection_of_notifications hrequest hpath] at h
  -- Over the calls: the stream is where the last of them left it.
  induction h with
  | nil =>
      refine ⟨?_, Or.inl ⟨rfl, rfl⟩⟩
      intro c hc
      cases hc
  | @snoc calls t t' c _ hsnoc ih =>
      rcases ih with ⟨hmessages, hstate⟩
      have hasks : t.asks = some (c.message, t') := hsnoc
      -- Whatever comes next is asked for in the same way.
      have hnext : c.message = .sendRoomsStatus ∧
          (jobs site).resume t' c.reply c.choice = t'.notify site c.reply c.choice ∧
          IsStreaming t' ∧ t'.written = bytesOf (eventStreamHeader site order)
            ++ (calls.map Call.reply).flatMap (eventOf site) := by
        rcases hstate with ⟨rfl, rfl⟩ | ⟨_, hstream, hwritten⟩
        · simp only [Connection.asks, List.nil_append, Option.some.injEq, Prod.mk.injEq] at hasks
          rcases hasks with ⟨hmessage, rfl⟩
          refine ⟨hmessage.symm, rfl, Or.inl rfl, ?_⟩
          rw [List.map_nil, List.flatMap_nil, List.append_nil]
        · rcases hstream with hrest | hrest | hrest
          · simp only [Connection.asks, hrest, reduceCtorEq] at hasks
          · simp only [Connection.asks, hrest, Option.some.injEq, Prod.mk.injEq] at hasks
            rcases hasks with ⟨hmessage, rfl⟩
            refine ⟨hmessage.symm, ?_, Or.inr (Or.inl hrest), hwritten⟩
            simp only [jobs, Connection.resume, hrest]
          · simp only [Connection.asks, hrest, reduceCtorEq] at hasks
      rcases hnext with ⟨hmessage, hresume, hstream, hwritten⟩
      constructor
      · intro c' hc'
        rcases List.mem_append.mp hc' with hold | hnew
        · exact hmessages c' hold
        · rw [List.mem_singleton.mp hnew]
          exact hmessage
      · refine Or.inr ⟨by simp only [ne_eq, List.append_eq_nil_iff, List.cons_ne_nil, and_false,
          not_false_eq_true], ?_, ?_⟩
        · rw [hresume]
          exact notify_isStreaming hstream _ _
        · rw [hresume, notify_written, hwritten, List.map_append, List.flatMap_append,
            List.append_assoc]
          simp only [List.map_cons, List.map_nil, List.flatMap_cons, List.flatMap_nil,
            List.append_nil]

/-- A job writes what its transcript says. -/
theorem alone_written (h : Alone (jobs site) (handleConnection site order files stream) calls t) :
    t.written = transcript site order files stream (calls.map Call.reply) := by
  unfold transcript
  -- By what the job is: none, an event stream, a response, or a call.
  rcases hrequest : requestOf site stream with _ | request
  · rw [handleConnection_of_none hrequest] at h
    rw [(alone_of_asks_none rfl h).2]
  by_cases hpath : request.path = "/notifications".toList
  · simp only [if_pos hpath]
    rcases (alone_of_notifications hrequest hpath h).2 with ⟨rfl, rfl⟩ | ⟨hcalls, _, hwritten⟩
    · rfl
    · rw [hwritten, if_neg (by rwa [List.map_eq_nil_iff])]
  · simp only [if_neg hpath]
    rcases hcommand : commandOf site request with _ | command
    · rw [handleConnection_of_some hrequest hpath, orError_of_commandOf_none hcommand,
        advance_done, List.nil_append] at h
      rw [(alone_of_asks_none rfl h).2]
    · rcases alone_of_commandOf hrequest hpath hcommand h with ⟨rfl, rfl⟩ | ⟨c, rfl, _, rfl⟩
      · rfl
      · simp only [List.map_cons, List.map_nil, List.flatMap_cons, List.flatMap_nil,
          List.append_nil]

/-- A job sends what its request comes to send, and gives up only on the list
    of rooms. -/
theorem alone_asks (h : Alone (jobs site) (handleConnection site order files stream) calls t)
    {command : Command} {t' : Connection} (hasks : t.asks = some (command, t')) :
    Sends site stream calls.length command ∧ (t'.leaves = true → command = .sendRoomsStatus) := by
  unfold Sends
  rcases hrequest : requestOf site stream with _ | request
  · rw [handleConnection_of_none hrequest] at h
    rw [(alone_of_asks_none rfl h).2] at hasks
    cases hasks
  by_cases hpath : request.path = "/notifications".toList
  · -- An event stream asks for the rooms from wherever it is.
    have hrooms : command = .sendRoomsStatus := by
      rcases (alone_of_notifications hrequest hpath h).2 with ⟨_, rfl⟩ | ⟨_, hstream, _⟩
      · cases hasks
        rfl
      · rcases hstream with hrest | hrest | hrest
        all_goals
          simp only [Connection.asks, hrest, reduceCtorEq, Option.some.injEq, Prod.mk.injEq]
            at hasks
        exact hasks.1.symm
    exact ⟨⟨request, rfl, by rw [if_pos hpath]; exact hrooms⟩, fun _ => hrooms⟩
  -- Any other job asks once, if it asks at all.
  rcases hcommand : commandOf site request with _ | command'
  · rw [handleConnection_of_some hrequest hpath, orError_of_commandOf_none hcommand,
      advance_done] at h
    rw [(alone_of_asks_none rfl h).2] at hasks
    cases hasks
  · rcases alone_of_commandOf hrequest hpath hcommand h with ⟨rfl, rfl⟩ | ⟨c, _, _, rfl⟩
    · cases hasks
      refine ⟨⟨request, rfl, ?_⟩, fun hleaves => absurd hleaves Bool.false_ne_true⟩
      rw [if_neg hpath]
      exact ⟨rfl, hcommand⟩
    · cases hasks

/-- So every call of a job is one its request makes. -/
theorem alone_sends (h : Alone (jobs site) (handleConnection site order files stream) calls t)
    {i : Nat} {c : Call Command Reply ε Bool} (hc : calls[i]? = some c) :
    Sends site stream i c.message := by
  induction h with
  | nil => cases hc
  | @snoc calls t t' c' halone hsnoc ih =>
      -- A call before the last is one of the job so far.
      by_cases hi : i < calls.length
      · rw [List.getElem?_append_left hi] at hc
        exact ih hc
      · rw [List.getElem?_append_right (Nat.le_of_not_lt hi)] at hc
        have hlast : i = calls.length := by
          have hbound := (List.getElem?_eq_some_iff.mp hc).1
          rw [List.length_singleton] at hbound
          omega
        rw [hlast, Nat.sub_self] at hc
        cases hc
        rw [hlast]
        exact (alone_asks halone hsnoc).1

end Alone

end Http

end SigmaMedia
