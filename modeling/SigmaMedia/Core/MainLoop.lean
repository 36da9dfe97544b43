import SigmaMedia.Core.Server

/-!
# The Main Loop

One thread owns the server and takes commands off a channel: datagrams from
the socket, offers and requests from the HTTP threads, and a tick every three
seconds. A step of the loop is one command.

What a step does not decide comes with the command in an `Env`: the values
drawn at random, the clock, the orders in which hash maps are traversed, and
whether the thread that waits for a reply is still there. A run over all
lists of commands and environments is a run over all interleavings.

The tick saves thumbnails and removes sessions that were silent for five
seconds. It collects the ids and times of all sessions first and then removes
them one by one.

## Main definitions

* `Command`, `Env`: A command and what comes with it.
* `Output`: What a step sends out.
* `saveThumbnails`, `removeStale`: The two halves of a tick.
* `step`: One turn of the loop.
-/

namespace SigmaMedia

open Bytes Exec Net Sdp Text Thumbnail

/-- What the threads ask of the main loop. -/
inductive Command where
  | handlePacket (packet : Bytes) (remote : SocketAddr)
  | addStreamer (sdpOffer : Text)
  | addViewer (sdpOffer : Text) (targetId : RoomID)
  | sendRoomsStatus
  | runPeriodicChecks

/-- What a step does not decide. -/
structure Env where
  /-- The values drawn for an answer. -/
  draws : Draws
  /-- The ids drawn for a room and for a session. -/
  roomId : RoomID
  resourceId : ResourceID
  /-- The clock. -/
  now : Instant
  /-- The clock, as the tick gets to each session. -/
  clock : ResourceID → Instant
  /-- The orders of traversal. -/
  order : Enumeration UInt32
  /-- Whether the reply is still waited for. -/
  replyOpen : Bool

/-- What is told of a room. -/
structure RoomStatus where
  viewerCount : Nat
  id : RoomID
  deriving DecidableEq

/-- What a step sends out. -/
inductive Output where
  | datagrams (sent : List Datagram)
  | response (answer : Option SDP)
  | notification (rooms : List RoomStatus)
  | thumbnails (saved : List (RoomID × ImageData))

/-- The time since an instant, which is never negative. -/
def elapsed (since now : Instant) : Nat := now - since

/-- Whole seconds, in nanoseconds. -/
def seconds (n : Nat) : Nat := n * 1000000000

namespace UDPServer

variable {crates : Crates}

/-- The reply to a waiting thread. -/
def respond (server : UDPServer crates) (env : Env) (answer : Option SDP) :
    Exec (UDPServer crates × Output) :=
  if env.replyOpen then .ok (server, .response answer)
  else .error (.expect "Response channel should remain open")

/-- An offer to publish. Accepted, it opens a room and enters its owner. -/
def addStreamer (server : UDPServer crates) (sdpOffer : Text) (env : Env) :
    Exec (UDPServer crates × Output) :=
  match server.sdpResolver.acceptStreamOffer sdpOffer env.draws with
  -- A rejected offer is answered, and no id is drawn for it.
  | .error _ => server.respond env none
  | .ok session => do
      let (sessionRegistry, _) ← server.sessionRegistry.addStreamer session env.roomId
        env.resourceId env.now
      { server with sessionRegistry }.respond env (some session.sdpAnswer)

/-- An offer to watch a room. Accepted, it enters a viewer. -/
def addViewer (server : UDPServer crates) (sdpOffer : Text) (targetId : RoomID) (env : Env) :
    Exec (UDPServer crates × Output) :=
  -- The offer is matched against what the owner of the room negotiated.
  let streamerSession := do
    let room ← server.sessionRegistry.getRoom targetId
    let session ← server.sessionRegistry.getSession room.ownerId
    some session.mediaSession
  let viewerMediaSession := streamerSession.bind fun mediaSession =>
    (server.sdpResolver.acceptViewerOffer sdpOffer mediaSession env.draws).toOption
  match viewerMediaSession with
  | none => server.respond env none
  | some mediaSession => do
      let (sessionRegistry, _) ← server.sessionRegistry.addViewer mediaSession targetId
        env.resourceId env.now
      { server with sessionRegistry }.respond env (some mediaSession.sdpAnswer)

/-- What is told of the rooms, in some order. -/
def roomsStatus (server : UDPServer crates) (env : Env) : List RoomStatus :=
  (server.sessionRegistry.getRooms env.order).map fun room =>
    { viewerCount := room.viewerIds.card, id := room.id }

/-- The thumbnail a session has ready, if it is time for one. -/
def readyThumbnail (session : Session crates) (now : Instant) :
    Option (Streamer crates × ImageData) :=
  match session.connectionType with
  | .viewer _ => none
  | .streamer streamer =>
      let shouldUpdateThumbnail := match streamer.imageTimestamp with
        -- The first thumbnail does not wait.
        | none => true
        | some timestamp => decide (seconds 120 < elapsed timestamp now)
      if shouldUpdateThumbnail then
        streamer.thumbnailExtractor.lastPicture.map fun picture => (streamer, picture)
      else none

/-- Stamp the sessions that have a thumbnail ready, and take it. -/
def saveThumbnails (registry : SessionRegistry crates) (env : Env) :
    List (ResourceID × Session crates) → SessionRegistry crates × List (RoomID × ImageData)
  | [] => (registry, [])
  | (id, session) :: rest =>
      match readyThumbnail session (env.clock id) with
      | none => saveThumbnails registry env rest
      | some (streamer, picture) =>
          let registry := registry.updateSession id fun session =>
            { session with
              connectionType := .streamer { streamer with imageTimestamp := some (env.clock id) } }
          let (registry, saved) := saveThumbnails registry env rest
          (registry, (streamer.ownedRoomId, picture) :: saved)

/-- Remove the sessions that were silent for too long. -/
def removeStale (registry : SessionRegistry crates) (env : Env) :
    List (ResourceID × Instant) → Exec (SessionRegistry crates)
  | [] => .ok registry
  | (id, ttl) :: rest => do
      let registry ←
        if seconds 5 < elapsed ttl (env.clock id) then registry.removeSession id
        else .ok registry
      removeStale registry env rest

/-- The tick: thumbnails first, then whoever was silent is removed. -/
def runPeriodicChecks (server : UDPServer crates) (env : Env) :
    Exec (UDPServer crates × Output) := do
  let (sessionRegistry, saved) := saveThumbnails server.sessionRegistry env
    (env.order.entries server.sessionRegistry.sessions)
  -- Ids and times are collected before the first removal.
  let sessions := (sessionRegistry.getAllSessions env.order).map fun session =>
    (session.id, session.ttl)
  let sessionRegistry ← removeStale sessionRegistry env sessions
  return ({ server with sessionRegistry }, .thumbnails saved)

/-- One turn of the loop. -/
def step (server : UDPServer crates) (input : Command × Env) :
    Exec (UDPServer crates × Output) :=
  match input.1 with
  | .handlePacket packet remote => do
      let (server, sent) ← server.processPacket packet remote input.2.now input.2.order
      return (server, .datagrams sent)
  | .addStreamer sdpOffer => server.addStreamer sdpOffer input.2
  | .addViewer sdpOffer targetId => server.addViewer sdpOffer targetId input.2
  | .sendRoomsStatus => .ok (server, .notification (server.roomsStatus input.2))
  | .runPeriodicChecks => server.runPeriodicChecks input.2

end UDPServer

end SigmaMedia
