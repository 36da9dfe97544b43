import SigmaMedia.Base.Mailbox
import SigmaMedia.Base.Paths
import SigmaMedia.Base.Talk
import SigmaMedia.Core.Config
import SigmaMedia.Core.Http
import SigmaMedia.Core.Response
import SigmaMedia.Core.Sdp.Format

/-!
# The HTTP Server

Every connection is a job of its own: it reads one request, looks at the path,
and answers. Publishing and watching send a command to the main loop and block
until the answer is there. So does the list of rooms, and a stream of events
asks for it again every second until the connection breaks.

A job ends with a response, with an error that has a response of its own, or
with a panic, which is the end of the job and of nothing else.

JSON, WebP and the lowering of header names come from outside.

## Main definitions

* `Site`: The configuration, and what comes from outside.
* `Reply`: What the main loop replies.
* `Route`: A job up to its response.
* `whipRoute`, `whepRoute`, `roomsRoute`, `imagesRoute`, `optionsRoute`: The
  routes.
* `Connection`: A connection, and what was handed to it for writing.
* `handleConnection`: A job.
* `jobs`: What a job does with a reply.
-/

namespace SigmaMedia

namespace Http

open Bytes Exec Paths Sdp Text Thumbnail

/-- The configuration, and what comes from outside. -/
structure Site where
  config : Config
  /-- `str::to_lowercase`. -/
  lowercase : Text → Text
  /-- `serde_json::to_string`, of a notification. -/
  notificationJson : List RoomStatus → Text
  /-- `webp::Encoder::encode`. -/
  encodeWebp : ImageData → Bytes

/-- What the main loop replies. An answer is printed before it is sent. -/
inductive Reply where
  | answer (sdpAnswer : Option Text)
  | notification (rooms : List RoomStatus)
  | datagrams (sent : List Datagram)
  | thumbnails (saved : List (RoomID × ImageData))

/-- What arrives where an answer is waited for. -/
def Reply.answer? : Reply → Option (Option Text)
  | .answer sdpAnswer => some sdpAnswer
  | _ => none

/-- What arrives where a notification is waited for. -/
def Reply.notification? : Reply → Option (List RoomStatus)
  | .notification rooms => some rooms
  | _ => none

/-- How a job ends early. -/
inductive Stop where
  | httpError (err : HttpError)
  | panic (p : Panic)
  deriving DecidableEq

/-- A job up to its response. -/
abbrev Route := ExceptT Stop (Talk Command Reply)

namespace Route

/-- End the job with an error. -/
def fail {α : Type} (err : HttpError) : Route α := throw (.httpError err)

/-- `Option::ok_or`. -/
def okOr {α : Type} (err : HttpError) : Option α → Route α
  | some a => pure a
  | none => fail err

/-- A computation that may panic. -/
def ofExec {α : Type} : Exec α → Route α
  | .ok a => pure a
  | .error p => throw (.panic p)

/-- Send a command and block until the reply comes. -/
def ask (command : Command) : Route Reply := ExceptT.lift (Talk.say command)

end Route

section Routes

variable (site : Site) (order : Enumeration Text)

/-- Write out a response. -/
def respond (builder : ResponseBuilder) : Route Response :=
  .ofExec (builder.build site.config.frontendUrl order)

/-- The text a body holds. -/
def bodyText (request : Request) : Option Text := request.body.bind fromUtf8

/-- Publish: the token is checked before the body is read. -/
def whipRoute (request : Request) : Route Response := do
  let bearerToken ← .okOr .unauthorized (request.headers.lookup "authorization".toList)
  if bearerToken ≠ "Bearer ".toList ++ site.config.whipToken then .fail .unauthorized
  else
    let sdpOffer ← .okOr .badRequest (bodyText request)
    let reply ← .ask (.addStreamer sdpOffer)
    let sdpAnswer ← .ofExec (expect "SessionCommand channel should remain open" reply.answer?)
    let sdpAnswer ← .okOr .notFound sdpAnswer
    respond site order
      (((((ResponseBuilder.new.setStatus 201).setHeader "content-type".toList
        "application/sdp".toList).setHeader "location".toList
        "http://localhost:8080/whip".toList).setBody (utf8 sdpAnswer)))

/-- The preflight of a request to watch. -/
def optionsRoute : Route Response :=
  respond site order
    (((ResponseBuilder.new.setStatus 204).setHeader "Access-Control-Allow-Method".toList
      "POST".toList).setHeader "Access-Control-Allow-Headers".toList "content-type".toList)

/-- Watch the room that is named in the parameters. -/
def whepRoute (request : Request) : Route Response := do
  let targetId ← .okOr .badRequest (request.search.lookup "target_id".toList)
  let targetId ← .okOr .badRequest (parseUnsigned (2 ^ 32) targetId)
  let body ← .okOr .badRequest (bodyText request)
  let reply ← .ask (.addViewer body (UInt32.ofNat targetId))
  let sdpAnswer ← .ofExec (unwrap reply.answer?)
  let sdpAnswer ← .okOr .badRequest sdpAnswer
  respond site order
    ((((((ResponseBuilder.new.setStatus 200).setHeader "content-type".toList
      "application/sdp".toList).setHeader "Access-Control-Allow-Method".toList
      "POST".toList).setHeader "Access-Control-Allow-Origin".toList
      site.config.frontendUrl).setHeader "location".toList
      "http://localhost:8080/whep".toList).setBody (utf8 sdpAnswer))

/-- The file an image is read from. Only the last name of what was asked for
    is used. -/
def imagePath (request : Request) : Except HttpError Text := do
  let fileName ← SigmaMedia.okOr .badRequest (request.search.lookup "image".toList)
  let parsedName ← SigmaMedia.okOr .badRequest (Paths.fileName fileName)
  return push site.config.storageDir parsedName

/-- Files are read as they are when the job gets there. -/
def imagesRoute (files : Store Text Bytes) (request : Request) : Route Response :=
  match imagePath site request with
  | .error err => .fail err
  | .ok filePathname => do
      let targetFile ← .okOr .notFound (files.lookup filePathname)
      respond site order
        (((ResponseBuilder.new.setStatus 200).setHeader "Content-Type".toList
          "image/webp".toList).addBody targetFile)

/-- The rooms there are, once. -/
def roomsRoute : Route Response := do
  let reply ← .ask .sendRoomsStatus
  let notification ← .okOr .internalServerError reply.notification?
  respond site order
    (((ResponseBuilder.new.setStatus 200).setHeader "content-type".toList
      "application/json".toList).setBody (utf8 (site.notificationJson notification)))

/-- What is written before the first event. -/
def eventStreamHeader : Exec Response :=
  ((((ResponseBuilder.new.setStatus 200).setHeader "Connection".toList
    "keep-alive".toList).setHeader "Cache-control".toList "no-cache".toList).setHeader
    "content-type".toList "text/event-stream".toList).build site.config.frontendUrl order

/-- An event of an event stream. -/
def formatNotificationToString (notification : List RoomStatus) : Text :=
  "data: ".toList ++ site.notificationJson notification ++ crlf ++ crlf

end Routes

/-- What is left to do for a connection. -/
inductive Rest where
  /-- A route that has not come to its response yet. -/
  | responding (route : Talk Command Reply (Exec Response))
  /-- An event stream, before its first command. -/
  | opening (header : Bytes)
  /-- Behind its first command, with the header written. -/
  | opened
  /-- In its loop. -/
  | notifying
  | closed

/-- A connection, and what was handed to it for writing. One that is broken
    does not get all of that, which ends its job in any case: a response is the
    last thing a job writes, and a failed event is the last of its stream. -/
structure Connection where
  written : Bytes
  rest : Rest

/-- Write the response of a route that has come to it. A job that panics
    writes nothing. -/
def Connection.advance (written : Bytes) : Talk Command Reply (Exec Response) → Connection
  | .done (.ok response) => { written := written ++ response.bytes, rest := .closed }
  | .done (.error _) => { written, rest := .closed }
  | .ask m next => { written, rest := .responding (.ask m next) }

section Jobs

variable (site : Site)

/-- Every error has a response. -/
def orError (order : Enumeration Text) (route : Route Response) :
    Talk Command Reply (Exec Response) := do
  match ← ExceptT.run route with
  | .ok response => return .ok response
  | .error (.httpError err) => return mapHttpErrToResponse err site.config.frontendUrl order
  | .error (.panic p) => return .error p

/-- The routes that end with a response. -/
def route (order : Enumeration Text) (files : Store Text Bytes) (request : Request) :
    Route Response :=
  if request.path = "/whip".toList then whipRoute site order request
  else if request.path = "/whep".toList then
    match request.method with
    | .post => whepRoute site order request
    | .options => optionsRoute site order
    | _ => .fail .methodNotAllowed
  else if request.path = "/images".toList then imagesRoute site order files request
  else if request.path = "/rooms".toList then roomsRoute site order
  else .fail .notFound

/-- A job, up to the first command it sends. A request that does not parse is
    not answered. -/
def handleConnection (order : Enumeration Text) (files : Store Text Bytes) (stream : Bytes) :
    Connection :=
  match parseHttp site.lowercase stream with
  | .error _ => { written := [], rest := .closed }
  | .ok none => { written := [], rest := .closed }
  | .ok (some request) =>
      if request.path = "/notifications".toList then
        match eventStreamHeader site order with
        | .error _ => { written := [], rest := .closed }
        | .ok response => { written := [], rest := .opening response.bytes }
      else Connection.advance [] (orError site order (route site order files request))

/-- The command a job sends next, and how it blocks. The header of an event
    stream is written behind its first command. -/
def Connection.asks (connection : Connection) : Option (Command × Connection) :=
  match connection.rest with
  | .responding (.ask command _) => some (command, connection)
  | .responding (.done _) => none
  | .opening header =>
      some (.sendRoomsStatus, { written := connection.written ++ header, rest := .opened })
  | .opened => none
  | .notifying => some (.sendRoomsStatus, connection)
  | .closed => none

/-- Write an event. A connection that is broken ends the stream. -/
def Connection.notify (connection : Connection) (reply : Reply) (brokenPipe : Bool) : Connection :=
  match reply.notification? with
  | none => connection
  | some notification =>
      { written := connection.written ++ utf8 (formatNotificationToString site notification),
        rest := if brokenPipe then .closed else .notifying }

/-- How a job goes on from a reply. -/
def Connection.resume (connection : Connection) (reply : Reply) (brokenPipe : Bool) : Connection :=
  match connection.rest with
  | .responding (.ask _ next) => Connection.advance connection.written (next reply)
  | .opened => connection.notify site reply brokenPipe
  | .notifying => connection.notify site reply brokenPipe
  | _ => connection

/-- Whether a job ends when its connection is broken while it blocks. Only the
    header of an event stream is written then. -/
def Connection.leaves (connection : Connection) : Bool :=
  match connection.rest with
  | .opened => true
  | _ => false

/-- The jobs, as the threads around the main loop. -/
def jobs : Mailbox.Program Command Reply Bool Connection where
  asks := Connection.asks
  resume := Connection.resume site
  leaves := Connection.leaves

end Jobs

end Http

end SigmaMedia
