import SigmaMedia.Base.IpText
import SigmaMedia.Base.Store
import SigmaMedia.Core.Sdp.Resolver

/-!
# Printed Lines

How a line, and a whole session description, is printed. Every kind of line
has its own printer, named `toText` after the conversion to a string it
models. A value that was read but not understood has no printed form, and its
printer panics with a message of its own.

Format parameters are a hash set, printed in whatever order it is traversed,
so every printer above them takes that order.

## Main definitions

* `SDPLine.toText`, `Attribute.toText`: Printing one line.
* `SDP.toText`: Printing a session description.
-/

namespace SigmaMedia

namespace Sdp

open Net Text

/-- Print an option, if it is one the program knows. -/
def ICEOption.toText : ICEOption → Exec Text
  | .ice2 => .ok "ice2".toList
  | .trickle => .ok "trickle".toList
  | .unsupported => .error (.explicit "Unsupported attributes should not be converted to String")

/-- Print options, with blanks between them. -/
def ICEOptions.toText (value : ICEOptions) : Exec Text := do
  let iceOptions ← value.options.mapM ICEOption.toText
  return "ice-options:".toList ++ unwords iceOptions

/-- Print a role in the handshake. -/
def Setup.toText : Setup → Text
  | .activePassive => "setup:actpass".toList
  | .active => "setup:active".toList
  | .passive => "setup:passive".toList

/-- Print a kind of media. -/
def MediaType.toText : MediaType → Text
  | .video => "video".toList
  | .audio => "audio".toList

/-- Print the one transport that is spoken. -/
def MediaTransportProtocol.toText : MediaTransportProtocol → Text
  | .dtlsSrtp => "UDP/TLS/RTP/SAVPF".toList

/-- Print a media line: kind, port, transport, formats. -/
def MediaDescription.toText (value : MediaDescription) : Text :=
  "m=".toList ++ value.mediaType.toText ++ [' '] ++ showNat value.transportPort ++ [' ']
    ++ value.transportProtocol.toText ++ [' ']
    ++ unwords (value.mediaFormatDescription.map showNat)

/-- The family of an address, as `IN` lines name it. -/
def ipFamily : IpAddr → Text
  | .v4 _ => "IP4".toList
  | .v6 _ => "IP6".toList

/-- Print a connection line. -/
def ConnectionData.toText (value : ConnectionData) : Text :=
  "c=IN ".toList ++ ipFamily value.ip ++ [' '] ++ showIp value.ip

/-- Print an originator line. -/
def Originator.toText (value : Originator) : Text :=
  "o=".toList ++ value.username ++ [' '] ++ value.sessionId ++ [' '] ++ value.sessionVersion
    ++ " IN ".toList ++ ipFamily value.ipAddr ++ [' '] ++ showIp value.ipAddr

/-- Print a time line. -/
def SessionTime.toText (value : SessionTime) : Text :=
  "t=".toList ++ showNat value.startTime ++ [' '] ++ showNat value.endTime

/-- Print the username of a peer. -/
def ICEUsername.toText (value : ICEUsername) : Text := "ice-ufrag:".toList ++ value.username

/-- Print the password of a peer. -/
def ICEPassword.toText (value : ICEPassword) : Text := "ice-pwd:".toList ++ value.password

/-- Print the name of a section. -/
def MediaID.toText (value : MediaID) : Text := "mid:".toList ++ value.id

/-- Print a group: what kind, then the names of its sections. -/
def MediaGroup.toText : MediaGroup → Text
  | .bundle groups => "group:BUNDLE ".toList ++ unwords groups
  | .lipSync groups => "group:LS ".toList ++ unwords groups

/-- Print a hash function, if it is the one the program knows. -/
def HashFunction.toText : HashFunction → Exec Text
  | .sha256 => .ok "sha-256".toList
  | .unsupported => .error (.explicit "Unsupported HashFunction cannot be converted to String")

/-- Print a fingerprint: the hash function, then the digest. -/
def Fingerprint.toText (value : Fingerprint) : Exec Text := do
  let hashFunction ← value.hashFunction.toText
  return "fingerprint:".toList ++ hashFunction ++ [' '] ++ value.hash

/-- Print a video codec, with its clock rate. -/
def VideoCodec.toText : VideoCodec → Text
  | .h264 => "h264/90000".toList

/-- Print an audio codec, with its clock rate and channels. -/
def AudioCodec.toText : AudioCodec → Text
  | .opus => "opus/48000/2".toList

/-- Print a codec, if it is one the program knows. -/
def MediaCodec.toText : MediaCodec → Exec Text
  | .audio codec => .ok codec.toText
  | .video codec => .ok codec.toText
  | .unsupported => .error (.explicit "Unsupported MediaCodec cannot be converted to String")

/-- Print a codec behind its payload number. -/
def RTPMap.toText (value : RTPMap) : Exec Text := do
  let codec ← value.codec.toText
  return "rtpmap:".toList ++ showNat value.payloadNumber ++ [' '] ++ codec

/-- Print what is said of a source, if it is its name. -/
def SourceAttribute.toText : SourceAttribute → Exec Text
  | .cname name => .ok ("cname:".toList ++ name)
  | .unsupported => .error (.explicit "Cannot cast unsupported SourceAttribute to String")

/-- Print a source and what is said of it. -/
def MediaSSRC.toText (value : MediaSSRC) : Exec Text := do
  let sourceAttribute ← value.sourceAttribute.toText
  return "ssrc:".toList ++ showNat value.ssrc.toNat ++ [' '] ++ sourceAttribute

/-- Print the parameters of a payload number, in some order. -/
def FMTP.toText (order : Enumeration Text) (value : FMTP) : Text :=
  "fmtp:".toList ++ showNat value.payloadNumber ++ [' ']
    ++ [';'].intercalate (order.list value.formatCapability)

/-- Print a candidate, which is always one of the host. -/
def Candidate.toText (value : Candidate) : Text :=
  "candidate:".toList ++ value.foundation ++ [' '] ++ showNat value.componentId
    ++ " UDP ".toList ++ showNat value.priority ++ [' '] ++ showIp value.connectionAddress ++ [' ']
    ++ showNat value.port.toNat ++ " typ host".toList

/-- What is printed of an attribute. -/
def Attribute.attributeName (order : Enumeration Text) : Attribute → Exec Text
  | .unrecognized =>
      .error (.explicit "Unrecognized attributes should not be converted to String")
  | .sendOnly => .ok "sendonly".toList
  | .receiveOnly => .ok "recvonly".toList
  | .rtcpMux => .ok "rtcp-mux".toList
  | .mediaID attr => .ok attr.toText
  | .iceUsername attr => .ok attr.toText
  | .icePassword attr => .ok attr.toText
  | .fingerprint attr => attr.toText
  | .mediaGroup attr => .ok attr.toText
  | .mediaSSRC attr => attr.toText
  | .rtpMap attr => attr.toText
  | .fmtp attr => .ok (attr.toText order)
  | .candidate attr => .ok attr.toText
  | .setup attr => .ok attr.toText
  | .iceLite => .ok "ice-lite".toList
  | .endOfCandidates => .ok "end-of-candidates".toList
  | .iceOptions attr => attr.toText

/-- Print an attribute line. -/
def Attribute.toText (order : Enumeration Text) (value : Attribute) : Exec Text := do
  let attributeName ← value.attributeName order
  return "a=".toList ++ attributeName

/-- Print one line. A line of an unknown type is printed as an empty one. -/
def SDPLine.toText (order : Enumeration Text) : SDPLine → Exec Text
  | .protocolVersion proto => .ok ("v=".toList ++ proto)
  | .originator value => .ok value.toText
  | .sessionName name => .ok ("s=".toList ++ name)
  | .sessionTime value => .ok value.toText
  | .connectionData value => .ok value.toText
  | .attr value => value.toText order
  | .mediaDescription value => .ok value.toText
  | .unrecognized => .ok []

/-- Print a session description. -/
def SDP.toText (order : Enumeration Text) (value : SDP) : Exec Text := do
  let video ← value.videoSection.mapM (SDPLine.toText order)
  let audio ← value.audioSection.mapM (SDPLine.toText order)
  let session ← value.sessionSection.mapM (SDPLine.toText order)
  return crlf.intercalate session ++ crlf ++ crlf.intercalate audio ++ crlf
    ++ crlf.intercalate video ++ crlf

end Sdp

end SigmaMedia
