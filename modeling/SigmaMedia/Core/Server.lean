import SigmaMedia.Core.Registry
import SigmaMedia.Core.Rtp

/-!
# The UDP Server

Every datagram is first read as a binding request. A request that names a
session refreshes it, nominates its sender as the session's client when it
asks for that and there is none yet, and is answered. Anything else belongs to
the session of its sender's address: a step of a handshake, or, from a
streamer, a packet to be sent on to every viewer of its room.

Both buffers are kept between datagrams. The inbound one holds the datagram
and then the packet it was unprotected to; the outbound one is filled from it
anew for every viewer.

What is sent is returned with its destination and what it was sent as.

## Main definitions

* `Datagram`: A datagram on its way out.
* `UDPServer`: The registry and the buffers.
* `handleStunPacket`: Binding requests.
* `forward`, `forwardAll`: Sending a packet on.
* `handleOtherPackets`: Handshakes and media.
* `processPacket`: One datagram.
-/

namespace SigmaMedia

open Bytes Exec Net Rtp Sdp Stun Thumbnail

/-- What a datagram was sent as. -/
inductive DatagramKind where
  | stun
  | dtls
  | media
  deriving DecidableEq, Repr

/-- A datagram on its way out. -/
structure Datagram where
  kind : DatagramKind
  remote : SocketAddr
  bytes : Bytes
  deriving DecidableEq

/-- The state of the main loop. The buffers hold a packet while it is sent on. -/
structure UDPServer (crates : Crates) where
  sessionRegistry : SessionRegistry crates
  sdpResolver : SDPResolver
  inboundBuffer : Bytes
  outboundBuffer : Bytes

namespace UDPServer

variable {crates : Crates}

/-- A server nobody has joined yet. -/
def new (sdpResolver : SDPResolver) : UDPServer crates :=
  { sdpResolver, inboundBuffer := [], outboundBuffer := [], sessionRegistry := .new }

/-- Write through a mutable reference to the session at a key. -/
def updateSession (server : UDPServer crates) (id : ResourceID)
    (f : Session crates → Session crates) : UDPServer crates :=
  { server with sessionRegistry := server.sessionRegistry.updateSession id f }

/-- The answer to a binding request, in a buffer of its own. -/
def stunResponse (crates : Crates) (message : String) (mediaSession : NegotiatedSession)
    (packet : ICEStunPacket) (remote : SocketAddr) : Exec Datagram := do
  let buffer := List.replicate 200 0
  let (bytesWritten, buffer) ← expectOk message
    (← createStunSuccess crates.digests mediaSession.iceCredentials packet.transactionId remote
      buffer)
  let outputBuffer ← sliceTo buffer bytesWritten
  return { kind := .stun, remote, bytes := outputBuffer }

/-- Make the sender of a nomination the client of a session that has none. -/
def nominate (server : UDPServer crates) (remote : SocketAddr) (resourceId : ResourceID)
    (session : Session crates) : Exec (UDPServer crates × List Bytes) :=
  if session.client.isNone then do
    let (client, written) ← Client.new crates.dtls remote
    let client ← expectOk "Should create a Client" client
    return ({ server with
      sessionRegistry := server.sessionRegistry.nominateClient client resourceId }, written)
  else .ok (server, [])

/-- A binding request: it is answered, and a nomination may give a session its
    client. -/
def handleStunPacket (server : UDPServer crates) (remote : SocketAddr)
    (stunPacket : ICEStunMessageType) (now : Instant) :
    Exec (UDPServer crates × List Datagram) :=
  match stunPacket with
  | .liveCheck msg =>
      match server.sessionRegistry.getSessionByUsername msg.usernameAttribute with
      | none => .ok (server, [])
      | some (id, session) => do
          -- The integrity in the message is not compared with anything.
          let server := server.updateSession id fun session => { session with ttl := now }
          let response ← stunResponse crates "Failed to create STUN success response"
            session.mediaSession msg remote
          return (server, [response])
  | .nomination msg =>
      match server.sessionRegistry.getSessionByUsername msg.usernameAttribute with
      | none => .ok (server, [])
      | some (id, session) => do
          let server := server.updateSession id fun session => { session with ttl := now }
          -- From here on the session is looked up by its id, not by its key.
          let resourceId := session.id
          let session ← unwrap (server.sessionRegistry.getSession resourceId)
          let (server, written) ← server.nominate remote resourceId session
          let session ← unwrap (server.sessionRegistry.getSession resourceId)
          let response ← stunResponse crates "Should create STUN success response"
            session.mediaSession msg remote
          return (server, written.map (fun bytes => { kind := .dtls, remote, bytes }) ++ [response])

/-- Send the packet in the inbound buffer on to one viewer. -/
def forward (server : UDPServer crates) (remote : SocketAddr) (id : ResourceID) :
    Exec (UDPServer crates × List Datagram) := do
  -- Both sessions are looked up anew for every viewer.
  let (_, streamerSession) ← expect "Streamer session should be established"
    (server.sessionRegistry.getSessionByAddress remote)
  let streamerMedia := streamerSession.mediaSession
  let viewerSession ←
    expect "Viewer session should be established if viewer id belongs to a room"
      (server.sessionRegistry.getSession id)
  match viewerSession.client with
  | none => return (server, [])
  | some viewerClient =>
      match viewerClient.sslState with
      | .established sslStream =>
          -- Each copy starts from the packet, not from the copy before it.
          let outboundBuffer := server.inboundBuffer
          let outboundBuffer ← remapRtpHeader outboundBuffer streamerMedia
            viewerSession.mediaSession
          let run := crates.dtls.protect sslStream.srtpOutbound outboundBuffer
          let server := server.updateSession id fun session =>
            { session with
              client := some { viewerClient with
                sslState := .established { sslStream with srtpOutbound := run.state } } }
          let server := { server with outboundBuffer := run.buffer }
          -- The viewer's session has moved on even when nothing is sent.
          if run.isOk then
            return (server, [{ kind := .media, remote := viewerClient.remoteAddress,
                               bytes := server.outboundBuffer }])
          else return (server, [])
      | _ => return (server, [])

/-- Send it on to viewers one after another. -/
def forwardAll (server : UDPServer crates) (remote : SocketAddr) :
    List ResourceID → Exec (UDPServer crates × List Datagram)
  | [] => .ok (server, [])
  | id :: ids => do
      let (server, sent) ← server.forward remote id
      let (server, sent') ← server.forwardAll remote ids
      return (server, sent ++ sent')

/-- One more packet for a client in the middle of its handshake. An error is
    printed and forgotten. -/
def continueHandshake (server : UDPServer crates) (id : ResourceID) (client : Client crates.dtls)
    (midHandshake : MidHandshakeSslStream crates.dtls) :
    Exec (UDPServer crates × List Datagram) := do
  let (client, _, written) ← client.readPacket server.inboundBuffer
  let server := server.updateSession id fun session => { session with client := some client }
  return (server, written.map fun bytes =>
    { kind := .dtls, remote := midHandshake.stream.remote, bytes })

/-- The thumbnail extractor of a streamer after a packet. It is shown the
    video. -/
def watch (streamer : Streamer crates) (session : Session crates) (packet : Bytes) :
    Exec (ThumbnailExtractor crates.h264) := do
  let header ← getRtpHeaderData packet
  if isVideoPacket header session.mediaSession then
    let (thumbnailExtractor, _) ← streamer.thumbnailExtractor.tryExtractThumbnail packet
    return thumbnailExtractor
  else return streamer.thumbnailExtractor

/-- A packet from a streamer whose connection is established. -/
def handleMedia (server : UDPServer crates) (remote : SocketAddr) (id : ResourceID)
    (session : Session crates) (client : Client crates.dtls) (streamer : Streamer crates)
    (sslStream : EstablishedStream crates.dtls) (order : Enumeration ResourceID) :
    Exec (UDPServer crates × List Datagram) := do
  let run := crates.dtls.unprotect sslStream.srtpInbound server.inboundBuffer
  let server := server.updateSession id fun session =>
    { session with
      client := some { client with
        sslState := .established { sslStream with srtpInbound := run.state } } }
  let server := { server with inboundBuffer := run.buffer }
  -- A packet that cannot be unprotected is dropped.
  if run.isOk then
    let roomId := streamer.ownedRoomId
    let thumbnailExtractor ← watch streamer session server.inboundBuffer
    let server := server.updateSession id fun session =>
      { session with connectionType := .streamer { streamer with thumbnailExtractor } }
    let room ← expect "Streamer room should exist" (server.sessionRegistry.getRoom roomId)
    server.forwardAll remote (order.list room.viewerIds)
  else return (server, [])

/-- Anything else, which only the client of a session may send. -/
def handleOtherPackets (server : UDPServer crates) (remote : SocketAddr) (now : Instant)
    (order : Enumeration ResourceID) : Exec (UDPServer crates × List Datagram) :=
  match server.sessionRegistry.getSessionByAddress remote with
  | none => .ok (server, [])
  | some (id, session) =>
      match session.client with
      | none => .ok (server, [])
      | some client =>
          -- Any datagram from the address of a client keeps its session alive.
          let server := server.updateSession id fun session => { session with ttl := now }
          match session.connectionType with
          | .viewer _ =>
              match client.sslState with
              | .handshake midHandshake => server.continueHandshake id client midHandshake
              -- What a viewer sends after its handshake is ignored.
              | _ => .ok (server, [])
          | .streamer streamer =>
              match client.sslState with
              | .handshake midHandshake => server.continueHandshake id client midHandshake
              | .established sslStream =>
                  server.handleMedia remote id session client streamer sslStream order
              | .shutdown => .error (.todo "Handle shutdown case?")

/-- A datagram from the socket. -/
def processPacket (server : UDPServer crates) (data : Bytes) (remote : SocketAddr)
    (now : Instant) (order : Enumeration ResourceID) :
    Exec (UDPServer crates × List Datagram) := do
  let server := { server with inboundBuffer := data }
  match ← getStunPacket server.inboundBuffer with
  | some stunPacket => server.handleStunPacket remote stunPacket now
  | none => server.handleOtherPackets remote now order

end UDPServer

end SigmaMedia
