import Mathlib.Algebra.Group.Nat.Defs
import Mathlib.Data.Finset.Dedup
import SigmaMedia.Base.Exec
import SigmaMedia.Base.Net

/-!
# SDP Lines

The lines of a session description and how one is read from its text. Each
kind of line has its own reader, named `tryFrom` after the conversion it
models, and its own idea of where the value starts: every reader looks again
for its own key inside the text it was handed, and the readers of structured
values cut at single characters and take the pieces in order.

A line of an unknown type, and an attribute with an unknown key, are accepted
and forgotten.

## Main definitions

* `SDPParseError`: Why an offer is refused.
* `SDPLine`, `Attribute`: A line, and the attribute kinds among them.
* `SDPLine.tryFrom`: Reading one line.
-/

namespace SigmaMedia

namespace Sdp

open Net Text

/-- Why an offer is refused. -/
inductive SDPParseError where
  | sequenceError
  | invalidDTLSRole
  | missingICECredentials
  | missingStreamSSRC
  | unsupportedMediaCodecs
  | invalidStreamDirection
  | invalidMediaID
  | bundleRequired
  | missingVideoCapabilities
  | demuxRequired
  | unsupportedMediaCount
  | unsupportedMediaType
  | unsupportedMediaProtocol
  | malformedAttribute
  | malformedMediaDescriptor
  | malformedSDPLine
  deriving DecidableEq, Repr

/-- The kinds of media. -/
inductive MediaType where
  | video
  | audio
  deriving DecidableEq, Repr

/-- The transports of media, of which one is spoken. -/
inductive MediaTransportProtocol where
  | dtlsSrtp
  deriving DecidableEq, Repr

/-- `m=`, the head of a media section. -/
structure MediaDescription where
  mediaType : MediaType
  transportPort : Nat
  transportProtocol : MediaTransportProtocol
  mediaFormatDescription : List Nat
  deriving DecidableEq, Repr

/-- An option of ICE. What is not known is kept as that. -/
inductive ICEOption where
  | ice2
  | trickle
  | unsupported
  deriving DecidableEq, Repr

/-- `a=ice-options`, the options in order. -/
structure ICEOptions where
  options : List ICEOption
  deriving DecidableEq, Repr

/-- `o=`, who made a description. -/
structure Originator where
  username : Text
  sessionId : Text
  sessionVersion : Text
  ipAddr : IpAddr
  deriving DecidableEq

/-- `t=`, when a session begins and ends. -/
structure SessionTime where
  startTime : Nat
  endTime : Nat
  deriving DecidableEq, Repr

/-- `c=`, the address of the media. -/
structure ConnectionData where
  ip : IpAddr
  deriving DecidableEq

/-- `a=mid`, the name of a section. -/
structure MediaID where
  id : Text
  deriving DecidableEq, Repr

/-- The hash function of a fingerprint. -/
inductive HashFunction where
  | sha256
  | unsupported
  deriving DecidableEq, Repr

/-- `a=fingerprint`, the digest of a certificate. -/
structure Fingerprint where
  hashFunction : HashFunction
  hash : Text
  deriving DecidableEq, Repr

/-- The video codecs. -/
inductive VideoCodec where
  | h264
  deriving DecidableEq, Repr

/-- The audio codecs. -/
inductive AudioCodec where
  | opus
  deriving DecidableEq, Repr

/-- A codec of either kind, or one that is not known. -/
inductive MediaCodec where
  | audio (codec : AudioCodec)
  | video (codec : VideoCodec)
  | unsupported
  deriving DecidableEq, Repr

/-- What is said of a source. Only its name is kept. -/
inductive SourceAttribute where
  | cname (value : Text)
  | unsupported
  deriving DecidableEq, Repr

/-- `a=ssrc`, a source and something said of it. -/
structure MediaSSRC where
  ssrc : UInt32
  sourceAttribute : SourceAttribute
  deriving DecidableEq, Repr

/-- `a=setup`, the role in the handshake. -/
inductive Setup where
  | activePassive
  | active
  | passive
  deriving DecidableEq, Repr

/-- `a=group`, sections that belong together. -/
inductive MediaGroup where
  | bundle (ids : List Text)
  | lipSync (ids : List Text)
  deriving DecidableEq, Repr

/-- `a=rtpmap`, the codec of a payload number. -/
structure RTPMap where
  codec : MediaCodec
  payloadNumber : Nat
  deriving DecidableEq, Repr

/-- `a=fmtp`, the parameters of a payload number. -/
structure FMTP where
  payloadNumber : Nat
  formatCapability : Finset Text
  deriving DecidableEq

/-- `a=candidate`, an address to try. -/
structure Candidate where
  foundation : Text
  componentId : Nat
  priority : Nat
  connectionAddress : IpAddr
  port : UInt16
  deriving DecidableEq

/-- `a=ice-ufrag`. -/
structure ICEUsername where
  username : Text
  deriving DecidableEq, Repr

/-- `a=ice-pwd`. -/
structure ICEPassword where
  password : Text
  deriving DecidableEq, Repr

/-- An attribute line by its kind. What is not known is kept as that. -/
inductive Attribute where
  | unrecognized
  | endOfCandidates
  | iceLite
  | iceOptions (options : ICEOptions)
  | sendOnly
  | receiveOnly
  | mediaID (id : MediaID)
  | iceUsername (username : ICEUsername)
  | icePassword (password : ICEPassword)
  | fingerprint (fingerprint : Fingerprint)
  | mediaGroup (group : MediaGroup)
  | mediaSSRC (ssrc : MediaSSRC)
  | rtcpMux
  | rtpMap (map : RTPMap)
  | fmtp (fmtp : FMTP)
  | setup (setup : Setup)
  | candidate (candidate : Candidate)
  deriving DecidableEq

/-- A line by its kind. What is not known is kept as that. -/
inductive SDPLine where
  | protocolVersion (version : Text)
  | originator (originator : Originator)
  | sessionName (name : Text)
  | sessionTime (time : SessionTime)
  | connectionData (data : ConnectionData)
  | attr (attr : Attribute)
  | mediaDescription (media : MediaDescription)
  | unrecognized
  deriving DecidableEq

/-- `str::parse::<usize>` on a 64-bit target. -/
def parseUsize (t : Text) : Option Nat := parseUnsigned (2 ^ 64) t

/-- Read a kind of media. -/
def MediaType.tryFrom (value : Text) : Except SDPParseError MediaType :=
  if value = "video".toList then .ok .video
  else if value = "audio".toList then .ok .audio
  else .error .unsupportedMediaType

/-- Read a transport, which has to be the one that is spoken. -/
def MediaTransportProtocol.tryFrom (value : Text) : Except SDPParseError MediaTransportProtocol :=
  if value = "UDP/TLS/RTP/SAVPF".toList then .ok .dtlsSrtp
  else .error .unsupportedMediaProtocol

/-- Read a media line: kind, port, transport, formats. -/
def MediaDescription.tryFrom (value : Text) : Except SDPParseError MediaDescription := do
  let (_, value) ← okOr .malformedSDPLine (splitOnce "m=".toList value)
  let split := value.splitOn ' '
  let mediaType ← okOr .malformedMediaDescriptor split[0]?
  let mediaType ← MediaType.tryFrom mediaType
  let transportPort ← okOr .malformedMediaDescriptor (split[1]?.bind parseUsize)
  let transportProtocol ← okOr .malformedMediaDescriptor split[2]?
  let transportProtocol ← MediaTransportProtocol.tryFrom transportProtocol
  -- An empty piece ends the list of formats.
  let formats := (split.drop 3).takeWhile fun piece => piece ≠ []
  let mediaFormatDescription ← okOr .malformedAttribute (formats.mapM parseUsize)
  return { mediaType, transportPort, transportProtocol, mediaFormatDescription }

/-- The address of an `IN` line, of the family the line names. -/
def addressOfFamily (family : Text) (address : Option Text) : Option IpAddr :=
  if family = "IP4".toList then (address.bind parseIpv4).map .v4
  else if family = "IP6".toList then (address.bind parseIpv6).map .v6
  else none

/-- Read an originator line. -/
def Originator.tryFrom (value : Text) : Except SDPParseError Originator := do
  let (_, value) ← okOr .malformedSDPLine (splitOnce "o=".toList value)
  let split := value.splitOn ' '
  let username ← okOr .malformedSDPLine split[0]?
  let sessionId ← okOr .malformedSDPLine split[1]?
  let sessionVersion ← okOr .malformedSDPLine split[2]?
  let networkType ← okOr .malformedSDPLine split[3]?
  if networkType ≠ "IN".toList then .error .malformedSDPLine
  else
    let ipType ← okOr .malformedSDPLine split[4]?
    let ipAddr ← okOr .malformedSDPLine (addressOfFamily ipType split[5]?)
    return { username, sessionId, sessionVersion, ipAddr }

/-- Read a time line, two numbers. -/
def SessionTime.tryFrom (value : Text) : Except SDPParseError SessionTime := do
  let (_, value) ← okOr .malformedSDPLine (splitOnce "t=".toList value)
  let (startTime, endTime) ← okOr .malformedSDPLine (splitOnce " ".toList value)
  let startTime ← okOr .malformedSDPLine (parseUsize startTime)
  let endTime ← okOr .malformedSDPLine (parseUsize endTime)
  return { startTime, endTime }

/-- Read a connection line. -/
def ConnectionData.tryFrom (value : Text) : Except SDPParseError ConnectionData := do
  let (_, value) ← okOr .malformedSDPLine (splitOnce "c=".toList value)
  let split := value.splitOn ' '
  let first ← okOr .malformedSDPLine split[0]?
  -- Unlike an originator line, this one is read without regard to case.
  if first.map Char.toLower ≠ "in".toList then .error .malformedSDPLine
  else
    let ip ← okOr .malformedSDPLine (split[1]?.bind fun line => addressOfFamily line split[2]?)
    return { ip }

/-- Read an option. -/
def ICEOption.tryFrom (value : Text) : ICEOption :=
  if value = "ice2".toList then .ice2
  else if value = "trickle".toList then .trickle
  else .unsupported

/-- Read options, with blanks between them. -/
def ICEOptions.tryFrom (value : Text) : Except SDPParseError ICEOptions := do
  let (_, value) ← okOr .malformedAttribute (splitOnce "ice-options:".toList value)
  return { options := (value.splitOn ' ').map ICEOption.tryFrom }

/-- Read the name of a section, whatever it is. -/
def MediaID.tryFrom (value : Text) : Except SDPParseError MediaID := do
  let (_, value) ← okOr .malformedAttribute (splitOnce "mid:".toList value)
  return { id := value }

/-- Read a group. Of a kind that is not known it is an error. -/
def MediaGroup.tryFrom (value : Text) : Except SDPParseError MediaGroup := do
  let (_, value) ← okOr .malformedAttribute (splitOnce "group:".toList value)
  let (groupType, groupValues) ← okOr .malformedAttribute (splitOnce " ".toList value)
  let groupValues := groupValues.splitOn ' '
  if groupType = "BUNDLE".toList then .ok (.bundle groupValues)
  else if groupType = "LS".toList then .ok (.lipSync groupValues)
  else .error .malformedAttribute

/-- Read a hash function. -/
def HashFunction.fromText (value : Text) : HashFunction :=
  if value = "sha-256".toList then .sha256 else .unsupported

/-- Read a fingerprint: the hash function, then the digest, whatever it is. -/
def Fingerprint.tryFrom (value : Text) : Except SDPParseError Fingerprint := do
  let (_, value) ← okOr .malformedAttribute (splitOnce "fingerprint:".toList value)
  let (hashFunction, hash) ← okOr .malformedAttribute (splitOnce " ".toList value)
  return { hashFunction := HashFunction.fromText hashFunction, hash }

/-- Read a codec behind its payload number, without regard to case. -/
def RTPMap.tryFrom (value : Text) : Except SDPParseError RTPMap := do
  let (_, value) ← okOr .malformedAttribute (splitOnce "rtpmap:".toList value)
  let (payloadNumber, codec) ← okOr .malformedAttribute (splitOnce " ".toList value)
  -- Any number of 64 bits is taken, though a packet has room for seven.
  let payloadNumber ← okOr .malformedAttribute (parseUsize payloadNumber)
  let codec := codec.map Char.toLower
  let mediaCodec : MediaCodec :=
    if codec = "h264/90000".toList then .video .h264
    else if codec = "opus/48000/2".toList then .audio .opus
    else .unsupported
  return { codec := mediaCodec, payloadNumber }

/-- Read what is said of a source. -/
def SourceAttribute.tryFrom (value : Text) : Except SDPParseError SourceAttribute := do
  let split := value.splitOn ':'
  let key ← okOr .malformedAttribute split[0]?
  -- A name ends at the next colon.
  if key = "cname".toList then
    let cname ← okOr .malformedAttribute split[1]?
    return .cname cname
  else return .unsupported

/-- Read a source and what is said of it. Words behind that are not read. -/
def MediaSSRC.tryFrom (value : Text) : Except SDPParseError MediaSSRC := do
  let (_, value) ← okOr .malformedAttribute (splitOnce "ssrc:".toList value)
  let split := value.splitOn ' '
  let ssrc ← okOr .malformedAttribute split[0]?
  let ssrc ← okOr .malformedAttribute (parseUnsigned (2 ^ 32) ssrc)
  let sourceAttribute ← okOr .malformedAttribute split[1]?
  let sourceAttribute ← SourceAttribute.tryFrom sourceAttribute
  return { ssrc := UInt32.ofNat ssrc, sourceAttribute }

/-- Read a role in the handshake. -/
def Setup.tryFrom (value : Text) : Except SDPParseError Setup := do
  let (_, value) ← okOr .malformedAttribute (splitOnce "setup:".toList value)
  if value = "actpass".toList then .ok .activePassive
  else if value = "active".toList then .ok .active
  else if value = "passive".toList then .ok .passive
  else .error .malformedAttribute

/-- Read the parameters of a payload number, cut at semicolons. -/
def FMTP.tryFrom (value : Text) : Except SDPParseError FMTP := do
  let (_, value) ← okOr .malformedAttribute (splitOnce "fmtp:".toList value)
  let (payloadNumber, capabilities) ← okOr .malformedAttribute (splitOnce " ".toList value)
  let payloadNumber ← okOr .malformedAttribute (parseUsize payloadNumber)
  -- The parameters are a set: neither their order nor a repetition counts.
  return { payloadNumber, formatCapability := (capabilities.splitOn ';').toFinset }

/-- Read a candidate. Its type, behind the port, is not read. -/
def Candidate.tryFrom (value : Text) : Except SDPParseError Candidate := do
  let (_, value) ← okOr .malformedAttribute (splitOnce "candidate:".toList value)
  let split := value.splitOn ' '
  let foundation ← okOr .malformedAttribute split[0]?
  let componentId ← okOr .malformedAttribute split[1]?
  let componentId ← okOr .malformedAttribute (parseUsize componentId)
  let protocol ← okOr .malformedAttribute split[2]?
  -- Only UDP candidates can be read at all.
  if protocol ≠ "UDP".toList then .error .malformedAttribute
  else
    let priority ← okOr .malformedSDPLine (split[3]?.bind parseUsize)
    let ip ← okOr .malformedAttribute (split[4]?.bind parseIp)
    let port ← okOr .malformedSDPLine (split[5]?.bind (parseUnsigned (2 ^ 16)))
    return { foundation, componentId, priority, connectionAddress := ip,
             port := UInt16.ofNat port }

/-- Read a username, whatever it is. -/
def ICEUsername.tryFrom (value : Text) : Except SDPParseError ICEUsername := do
  let (_, value) ← okOr .malformedAttribute (splitOnce "ice-ufrag:".toList value)
  return { username := value }

/-- Read a password, whatever it is. -/
def ICEPassword.tryFrom (value : Text) : Except SDPParseError ICEPassword := do
  let (_, value) ← okOr .malformedAttribute (splitOnce "ice-pwd:".toList value)
  return { password := value }

/-- Read an attribute line: the key runs to the first colon, and the reader of
    its kind is handed the whole value, key included. -/
def Attribute.tryFrom (value : Text) : Except SDPParseError Attribute := do
  let (_, value) ← okOr .malformedAttribute (splitOnce "a=".toList value)
  let key ← okOr .malformedAttribute (value.splitOn ':').head?
  if key = "ice-ufrag".toList then return .iceUsername (← ICEUsername.tryFrom value)
  else if key = "ice-pwd".toList then return .icePassword (← ICEPassword.tryFrom value)
  else if key = "fingerprint".toList then return .fingerprint (← Fingerprint.tryFrom value)
  else if key = "candidate".toList then return .candidate (← Candidate.tryFrom value)
  else if key = "ssrc".toList then return .mediaSSRC (← MediaSSRC.tryFrom value)
  -- A flag is told by its key, whatever follows a colon behind it.
  else if key = "sendonly".toList then return .sendOnly
  else if key = "recvonly".toList then return .receiveOnly
  else if key = "mid".toList then return .mediaID (← MediaID.tryFrom value)
  else if key = "group".toList then return .mediaGroup (← MediaGroup.tryFrom value)
  else if key = "rtpmap".toList then return .rtpMap (← RTPMap.tryFrom value)
  else if key = "fmtp".toList then return .fmtp (← FMTP.tryFrom value)
  else if key = "rtcp-mux".toList then return .rtcpMux
  else if key = "ice-options".toList then return .iceOptions (← ICEOptions.tryFrom value)
  else if key = "end-of-candidates".toList then return .endOfCandidates
  else if key = "setup".toList then return .setup (← Setup.tryFrom value)
  else return .unrecognized

/-- Read one line. The type is everything before the first equals sign. -/
def SDPLine.tryFrom (input : Text) : Except SDPParseError SDPLine := do
  let (sdpType, value) ← okOr .malformedSDPLine (splitOnce "=".toList input)
  if sdpType = "v".toList then return .protocolVersion value
  else if sdpType = "c".toList then return .connectionData (← ConnectionData.tryFrom input)
  else if sdpType = "o".toList then return .originator (← Originator.tryFrom input)
  else if sdpType = "s".toList then return .sessionName value
  else if sdpType = "t".toList then return .sessionTime (← SessionTime.tryFrom input)
  else if sdpType = "m".toList then return .mediaDescription (← MediaDescription.tryFrom input)
  else if sdpType = "a".toList then return .attr (← Attribute.tryFrom input)
  else return .unrecognized

end Sdp

end SigmaMedia
