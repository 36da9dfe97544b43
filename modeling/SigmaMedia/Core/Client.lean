import SigmaMedia.Base.Exec
import SigmaMedia.Base.Net

/-!
# Clients

A client is a peer whose address was nominated: the state of its DTLS
connection, and that address. The connection starts in the middle of a
handshake, is fed the packets that arrive from the address, and becomes an
established stream with a pair of SRTP sessions.

The connection and the sessions come from outside the repository. `Dtls` holds
them as functions on states of their own: a handshake is given the packets
that wait for it and says how it went, which of them it left and what it wrote
to the peer. Every outcome its interface allows is possible here.

## Main definitions

* `Dtls`: The handshake and the SRTP sessions.
* `UDPPeerStream`: The packets that wait, and the peer written to.
* `ClientSslState`, `Client`: A client.
* `Client.new`, `Client.readPacket`: Its two operations.
-/

namespace SigmaMedia

open Bytes Exec Net

/-- How a handshake went, with the state to go on from. -/
inductive HandshakeOutcome (Handshake Session : Type) where
  | ok (session : Session)
  | setupFailure
  | failure (handshake : Handshake)
  | wouldBlock (handshake : Handshake)

/-- One attempt at a handshake: its outcome, the packets it left and what it
    wrote. -/
structure HandshakeRun (Handshake Session : Type) where
  outcome : HandshakeOutcome Handshake Session
  incomingPackets : List Bytes
  written : List Bytes

/-- One use of an SRTP session: the session and the buffer afterwards, and
    whether it succeeded. -/
structure SrtpRun (State : Type) where
  state : State
  buffer : Bytes
  isOk : Bool

/-- The DTLS handshake and the SRTP sessions, from the crates that provide
    them. -/
structure Dtls where
  Handshake : Type
  Session : Type
  Inbound : Type
  Outbound : Type
  accept : List Bytes → HandshakeRun Handshake Session
  handshake : Handshake → List Bytes → HandshakeRun Handshake Session
  sessionPair : Session → Option (Inbound × Outbound)
  unprotect : Inbound → Bytes → SrtpRun Inbound
  protect : Outbound → Bytes → SrtpRun Outbound

/-- The stream the handshake reads and writes: packets from the peer, and where
    its writes are sent. -/
structure UDPPeerStream where
  remote : SocketAddr
  incomingPackets : List Bytes
  deriving DecidableEq

/-- A stream to a peer, with nothing from it yet. -/
def UDPPeerStream.new (remote : SocketAddr) : UDPPeerStream :=
  { incomingPackets := [], remote }

/-- A handshake that is not over, and its stream. -/
structure MidHandshakeSslStream (dtls : Dtls) where
  handshake : dtls.Handshake
  stream : UDPPeerStream

/-- A session after its handshake, and its stream. -/
structure SslStream (dtls : Dtls) where
  session : dtls.Session
  stream : UDPPeerStream

/-- A connection media can flow on: an SRTP session for each direction. -/
structure EstablishedStream (dtls : Dtls) where
  sslStream : SslStream dtls
  srtpInbound : dtls.Inbound
  srtpOutbound : dtls.Outbound

/-- Where a client's connection stands. -/
inductive ClientSslState (dtls : Dtls) where
  | handshake (midHandshake : MidHandshakeSslStream dtls)
  | established (stream : EstablishedStream dtls)
  | shutdown

/-- A peer that nominated itself, and the connection to it. -/
structure Client (dtls : Dtls) where
  sslState : ClientSslState dtls
  remoteAddress : SocketAddr

/-- Why a packet could not be fed to the connection. -/
inductive ClientError where
  | incompletePacketRead
  | openSslError
  deriving DecidableEq, Repr

namespace Client

variable {dtls : Dtls}

/-- A client at the start of its handshake, or the error of the set-up, with
    what was written to the peer. -/
def new (dtls : Dtls) (remote : SocketAddr) : Exec (Except Unit (Client dtls) × List Bytes) :=
  let udpStream := UDPPeerStream.new remote
  let run := dtls.accept udpStream.incomingPackets
  match run.outcome with
  | .ok _ => .error (.unreachable "handshake cannot finish with no incoming packets")
  | .setupFailure => .ok (.error (), run.written)
  | .failure _ => .error (.unreachable "handshake cannot fail before starting")
  | .wouldBlock handshake =>
      let stream := { udpStream with incomingPackets := run.incomingPackets }
      .ok (.ok { sslState := .handshake { handshake, stream }, remoteAddress := remote },
        run.written)

/-- Feed a packet to the connection. The state is taken out before the
    handshake and put back after it, so the error that returns in between
    leaves the connection shut down. -/
def readPacket (client : Client dtls) (packet : Bytes) :
    Exec (Client dtls × Except ClientError Unit × List Bytes) :=
  match client.sslState with
  | .handshake midHandshake => do
      -- Packets wait in the stream until the handshake takes them.
      let stream := { midHandshake.stream with
        incomingPackets := midHandshake.stream.incomingPackets ++ [packet] }
      let run := dtls.handshake midHandshake.handshake stream.incomingPackets
      let stream := { stream with incomingPackets := run.incomingPackets }
      match run.outcome with
      | .ok session =>
          let (inbound, outbound) ← unwrap (dtls.sessionPair session)
          return ({ client with
            sslState := .established { sslStream := { session, stream }, srtpOutbound := outbound,
                                       srtpInbound := inbound } }, .ok (), run.written)
      | .setupFailure =>
          return ({ client with sslState := .shutdown }, .error .openSslError, run.written)
      -- A handshake that failed is kept, and goes on with the next packet.
      | .failure handshake =>
          return ({ client with sslState := .handshake { handshake, stream } }, .ok (), run.written)
      | .wouldBlock handshake =>
          return ({ client with sslState := .handshake { handshake, stream } }, .ok (), run.written)
  | .established sslStream =>
      let stream := { sslStream.sslStream.stream with
        incomingPackets := sslStream.sslStream.stream.incomingPackets ++ [packet] }
      .ok ({ client with
        sslState := .established { sslStream with
          sslStream := { sslStream.sslStream with stream } } }, .ok (), [])
  | .shutdown => .ok ({ client with sslState := .shutdown }, .ok (), [])

end Client

end SigmaMedia
