import SigmaMedia.Base.Store
import SigmaMedia.Core.Client
import SigmaMedia.Core.Stun
import SigmaMedia.Core.Thumbnail

/-!
# The Session Registry

Four maps: sessions by id, ids by the pair of usernames a binding request
names, ids by the address of a nominated client, and rooms by id. A streamer
owns a room; a viewer is listed in one.

The maps are updated one by one, and nothing ties them together but the order
of the updates. A lookup by address or by username goes through two of them.

Ids are drawn at random and the clock is read where a session is made; both
are arguments here.

## Main definitions

* `Crates`: What the program uses from outside the repository.
* `Session`, `Room`, `SessionRegistry`: The state.
* `getSessionByUsername`, `getSessionByAddress`: The two-step lookups.
* `nominateClient`, `removeSession`, `addStreamer`, `addViewer`: The updates.
-/

namespace SigmaMedia

open Bytes Exec Net Sdp Stun Thumbnail

/-- Rooms are named by a random number. -/
abbrev RoomID := UInt32

/-- And so are sessions. -/
abbrev ResourceID := UInt32

/-- A reading of the clock, in nanoseconds. -/
abbrev Instant := Nat

/-- What the program uses from outside the repository. -/
structure Crates where
  dtls : Dtls
  h264 : H264
  digests : Digests

/-- A room: who streams into it, and who watches. -/
structure Room where
  id : RoomID
  ownerId : ResourceID
  viewerIds : Finset ResourceID
  deriving DecidableEq

/-- A room nobody watches yet. -/
def Room.new (id : RoomID) (ownerId : ResourceID) : Room :=
  { id, ownerId, viewerIds := ∅ }

/-- What makes a session a viewer: the room it watches. -/
structure Viewer where
  roomId : RoomID

/-- What makes a session a streamer: its room, the pictures taken from its
    video, and when the last of them was stored. -/
structure Streamer (crates : Crates) where
  ownedRoomId : RoomID
  thumbnailExtractor : ThumbnailExtractor crates.h264
  imageTimestamp : Option Instant

/-- The role of a session. -/
inductive ConnectionType (crates : Crates) where
  | viewer (viewer : Viewer)
  | streamer (streamer : Streamer crates)

/-- What an accepted offer stands for until it is removed. Its client is the
    peer that nominated it, once there is one. -/
structure Session (crates : Crates) where
  id : ResourceID
  ttl : Instant
  client : Option (Client crates.dtls)
  mediaSession : NegotiatedSession
  connectionType : ConnectionType crates

/-- The sessions, what leads to them, and the rooms. -/
structure SessionRegistry (crates : Crates) where
  sessions : Store ResourceID (Session crates)
  usernameMap : Store SessionUsername ResourceID
  addressMap : Store SocketAddr ResourceID
  rooms : Store RoomID Room

/-- The pair of usernames a session is named by. -/
def sessionUsername (mediaSession : NegotiatedSession) : SessionUsername :=
  { host := mediaSession.iceCredentials.hostUsername,
    remote := mediaSession.iceCredentials.remoteUsername }

namespace Session

variable {crates : Crates}

/-- The session of a streamer, without a client. -/
def newStreamer (mediaSession : NegotiatedSession) (roomId id : UInt32) (now : Instant) :
    Exec (Session crates) := do
  let thumbnailExtractor ← ThumbnailExtractor.new
  return { id, ttl := now, client := none, mediaSession,
           connectionType := .streamer { ownedRoomId := roomId, thumbnailExtractor,
                                         imageTimestamp := none } }

/-- The session of a viewer, without a client. -/
def newViewer (targetId : RoomID) (mediaSession : NegotiatedSession) (id : UInt32)
    (now : Instant) : Session crates :=
  { id, ttl := now, client := none, mediaSession,
    connectionType := .viewer { roomId := targetId } }

end Session

namespace SessionRegistry

variable {crates : Crates}

/-- Nobody is there. -/
def new : SessionRegistry crates :=
  { sessions := ∅, usernameMap := ∅, addressMap := ∅, rooms := ∅ }

/-- The rooms, in the order of their traversal. -/
def getRooms (registry : SessionRegistry crates) (order : Enumeration RoomID) : List Room :=
  (order.entries registry.rooms).map Prod.snd

/-- The room of an id. -/
def getRoom (registry : SessionRegistry crates) (roomId : RoomID) : Option Room :=
  registry.rooms.lookup roomId

/-- The session of an id. -/
def getSession (registry : SessionRegistry crates) (id : ResourceID) : Option (Session crates) :=
  registry.sessions.lookup id

/-- The sessions, in the order of their traversal. -/
def getAllSessions (registry : SessionRegistry crates) (order : Enumeration ResourceID) :
    List (Session crates) :=
  (order.entries registry.sessions).map Prod.snd

/-- The key and the session a username names, for reading or for an update. -/
def getSessionByUsername (registry : SessionRegistry crates) (username : SessionUsername) :
    Option (ResourceID × Session crates) := do
  let id ← registry.usernameMap.lookup username
  let session ← registry.sessions.lookup id
  return (id, session)

/-- The key and the session an address belongs to, for reading or for an
    update. -/
def getSessionByAddress (registry : SessionRegistry crates) (remoteAddress : SocketAddr) :
    Option (ResourceID × Session crates) := do
  let id ← registry.addressMap.lookup remoteAddress
  let session ← registry.sessions.lookup id
  return (id, session)

/-- Write through a mutable reference to the session at a key. -/
def updateSession (registry : SessionRegistry crates) (id : ResourceID)
    (f : Session crates → Session crates) : SessionRegistry crates :=
  { registry with sessions := registry.sessions.modify id f }

/-- Give a session its client, and make the client's address lead to it. -/
def nominateClient (registry : SessionRegistry crates) (client : Client crates.dtls)
    (id : ResourceID) : SessionRegistry crates :=
  match registry.sessions.lookup id with
  | none => registry
  | some _ =>
      { registry.updateSession id (fun session => { session with client := some client }) with
        -- Whoever had the address before has it no longer.
        addressMap := registry.addressMap.insert client.remoteAddress id }

/-- Remove a session and what leads to it. The room of a streamer goes with
    it. -/
def removeSession (registry : SessionRegistry crates) (id : ResourceID) :
    Exec (SessionRegistry crates) := do
  let session ← expect "Session should be established in order to remove it"
    (registry.sessions.lookup id)
  let usernameMap := registry.usernameMap.erase (sessionUsername session.mediaSession)
  let addressMap := match session.client with
    -- The entry goes, whichever session it leads to.
    | some client => registry.addressMap.erase client.remoteAddress
    | none => registry.addressMap
  let rooms := match session.connectionType with
    -- The room of a viewer may be gone already.
    | .viewer viewer => registry.rooms.modify viewer.roomId fun room =>
        { room with viewerIds := room.viewerIds.erase id }
    -- The viewers of the room stay behind.
    | .streamer streamer => registry.rooms.erase streamer.ownedRoomId
  return { sessions := registry.sessions.erase id, usernameMap, addressMap, rooms }

/-- Enter a streamer, and the room it owns. -/
def addStreamer (registry : SessionRegistry crates) (negotiatedSession : NegotiatedSession)
    (roomId resourceId : UInt32) (now : Instant) :
    Exec (SessionRegistry crates × ResourceID) := do
  let streamerSession ← Session.newStreamer negotiatedSession roomId resourceId now
  let room := Room.new roomId resourceId
  return ({ registry with
    usernameMap := registry.usernameMap.insert (sessionUsername negotiatedSession) resourceId,
    rooms := registry.rooms.insert roomId room,
    sessions := registry.sessions.insert resourceId streamerSession }, resourceId)

/-- Enter a viewer of a room. -/
def addViewer (registry : SessionRegistry crates) (negotiatedSession : NegotiatedSession)
    (targetRoom : RoomID) (resourceId : UInt32) (now : Instant) :
    Exec (SessionRegistry crates × ResourceID) := do
  let viewer := Session.newViewer targetRoom negotiatedSession resourceId now
  -- Two maps are written before the room is looked up.
  let usernameMap := registry.usernameMap.insert (sessionUsername negotiatedSession) resourceId
  let sessions := registry.sessions.insert resourceId viewer
  let room ← expect "Target room should be present" (registry.rooms.lookup targetRoom)
  let rooms := registry.rooms.insert targetRoom
    { room with viewerIds := insert resourceId room.viewerIds }
  return ({ registry with usernameMap, sessions, rooms }, resourceId)

end SessionRegistry

end SigmaMedia
