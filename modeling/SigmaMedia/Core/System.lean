import SigmaMedia.Core.HttpServer

/-!
# The Whole Program

The main loop, the jobs of the HTTP server around it, and the threads that
come and go: one receives datagrams, one sends a tick every three seconds, and
one is started for every thumbnail that is to be saved. They share a channel
of commands, with a channel back for those that are answered, and a directory
of thumbnails.

A step of the whole is a step of one thread, chosen by an event. A run over
any list of events is a schedule, with whatever arrives from outside.

## Main definitions

* `Turn`: What comes with a command when it is taken.
* `serve`: A turn of the main loop, with its reply printed.
* `System`: The threads and the files.
* `System.Event`, `System.step`: A step of one thread.
* `System.start`: The program before its first step.
-/

namespace SigmaMedia

open Bytes Exec Http Mailbox Net Paths Sdp Text Thumbnail

/-- What comes with a command when it is taken. -/
structure Turn where
  env : Env
  /-- The order format parameters are printed in. -/
  order : Enumeration Text

/-- The reply to a command, printed. -/
def printReply (order : Enumeration Text) : Output → Exec Reply
  | .datagrams sent => .ok (.datagrams sent)
  | .response none => .ok (.answer none)
  | .response (some sdpAnswer) => do
      let sdpAnswer ← sdpAnswer.toText order
      return .answer (some sdpAnswer)
  | .notification rooms => .ok (.notification rooms)
  | .thumbnails saved => .ok (.thumbnails saved)

variable {crates : Crates}

/-- A turn of the main loop. The answer is printed before the session is
    added, which makes no difference to the reply. -/
def serve (server : UDPServer crates) (taken : Taken Command Turn) :
    Exec (UDPServer crates × Reply) := do
  let (command, replyOpen, turn) := taken
  let (server, output) ← server.step (command, { turn.env with replyOpen })
  let reply ← printReply turn.order output
  return (server, reply)

/-- Connections are numbered. -/
abbrev ConnectionId := Nat

/-- An entry in the log of a run. -/
abbrev LogEntry := Mailbox.Entry ConnectionId Command Reply Turn Bool Connection

/-- The threads and the files. -/
structure System (crates : Crates) where
  world : World ConnectionId (UDPServer crates) Command Reply Connection
  /-- The storage directory, by path. -/
  files : Store Text Bytes
  /-- Thumbnails that wait for their thread to write them. -/
  savers : List (RoomID × ImageData)

namespace System

/-- A step of one thread. -/
inductive Event where
  /-- A connection is taken from the listener, with all that arrives on it. -/
  | connect (k : ConnectionId) (stream : Bytes) (order : Enumeration Text)
  | datagram (packet : Bytes) (remote : SocketAddr)
  | timeout
  | send (k : ConnectionId)
  | take (turn : Turn)
  | receive (k : ConnectionId) (brokenPipe : Bool)
  | leave (k : ConnectionId)
  /-- The thread of one of the thumbnails that wait, and whether it can write. -/
  | save (i : Nat) (canWrite : Bool)

/-- The size of the buffer datagrams are received in. What does not fit is
    lost. -/
def bufferSize : Nat := 3600

/-- The file of the thumbnail of a room. -/
def thumbnailPath (site : Site) (id : RoomID) : Text :=
  push site.config.storageDir (showNat id.toNat ++ ".webp".toList)

/-- `save_thumbnail_to_storage`. An error is printed and forgotten. -/
def saveThumbnailToStorage (site : Site) (canWrite : Bool) (files : Store Text Bytes)
    (id : RoomID) (imageData : ImageData) : Store Text Bytes :=
  if canWrite then files.insert (thumbnailPath site id) (site.encodeWebp imageData) else files

/-- What a step does around the main loop, if it does anything there. -/
def move (site : Site) (system : System crates) :
    Event → Option (Mailbox.Event ConnectionId Command Turn Bool Connection)
  | .connect k stream order => some (.start k (handleConnection site order system.files stream))
  | .datagram packet remote => some (.post (.handlePacket (packet.take bufferSize) remote))
  | .timeout => some (.post .runPeriodicChecks)
  | .send k => some (.send k)
  | .take turn => some (.take turn)
  | .receive k brokenPipe => some (.receive k brokenPipe)
  | .leave k => some (.leave k)
  | .save _ _ => none

/-- The thumbnails an entry of the log starts threads for. -/
def spawned : LogEntry → List (RoomID × ImageData)
  | .taken _ _ _ _ (.thumbnails saved) => saved
  | _ => []

/-- The threads of thumbnails run in any order. -/
def runSaver (site : Site) (system : System crates) : Event → System crates
  | .save i canWrite =>
      match system.savers[i]? with
      | none => system
      | some (id, imageData) =>
          { system with
            savers := system.savers.eraseIdx i,
            files := saveThumbnailToStorage site canWrite system.files id imageData }
  | _ => system

/-- A step of the whole. -/
def step (site : Site) (system : System crates) (event : Event) :
    Exec (System crates × List LogEntry) :=
  match system.move site event with
  | none => .ok (system.runSaver site event, [])
  | some event => do
      let (world, log) ← Mailbox.step serve (jobs site) system.world event
      return ({ system with world, savers := system.savers ++ log.flatMap spawned }, log)

/-- The program before its first step, with what the directory holds. -/
def start (site : Site) (files : Store Text Bytes) : Exec (System crates) := do
  let server ← UDPServer.ofConfig site.config
  return { world := World.init server, files, savers := [] }

end System

end SigmaMedia
