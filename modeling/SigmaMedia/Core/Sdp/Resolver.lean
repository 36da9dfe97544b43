import SigmaMedia.Core.Sdp.Lines

/-!
# Offer and Answer

How an offer is cut into sections, what is looked for in them, and what is
negotiated. Every question asked of a section is a search for the first line
with an answer, so `findAttribute` carries all of them.

The two kinds of offer ask different things. A streamer has to send, names
its DTLS role at session level, and its first acceptable codec wins. A viewer
has to receive, names its role in each media section, and is held to the
codec and the format parameters the streamer negotiated.

The random parts of an answer come in as `Draws`, whose fields carry what the
generator promises about them.

## Main definitions

* `SDP`: An offer or an answer, cut into its three sections.
* `NegotiatedSession`: What an accepted offer leaves behind.
* `Draws`: The random values of one answer.
* `getSdp`: Cutting a text into sections.
* `getIceCredentials`: The peer's credentials.
* `getMediaIds`: The bundled media identifiers.
* `acceptStreamOffer`, `acceptViewerOffer`: The two negotiations.
-/

namespace SigmaMedia

namespace Sdp

open Net Text

/-- A session description, cut into its sections. -/
structure SDP where
  sessionSection : List SDPLine
  videoSection : List SDPLine
  audioSection : List SDPLine
  deriving DecidableEq

/-- The usernames and passwords of both sides. -/
structure ICECredentials where
  hostUsername : Text
  hostPassword : Text
  remoteUsername : Text
  remotePassword : Text
  deriving DecidableEq

/-- What was agreed on for video. The parameters are compared with those of
    viewers. -/
structure VideoSession where
  codec : VideoCodec
  payloadNumber : Nat
  hostSsrc : UInt32
  remoteSsrc : Option UInt32
  capabilities : Finset Text
  deriving DecidableEq

/-- What was agreed on for audio. -/
structure AudioSession where
  codec : AudioCodec
  payloadNumber : Nat
  hostSsrc : UInt32
  remoteSsrc : Option UInt32
  deriving DecidableEq

/-- What an accepted offer leaves behind. -/
structure NegotiatedSession where
  sdpAnswer : SDP
  iceCredentials : ICECredentials
  videoSession : VideoSession
  audioSession : AudioSession
  deriving DecidableEq

/-- What every answer says of the server: its certificate and its address. -/
structure SDPResolver where
  fingerprint : Fingerprint
  candidate : Candidate

/-- A value of `get_random_string`: alphanumeric characters, as many as were
    asked for. -/
abbrev RandomString (size : Nat) := { t : Text // t.length = size ∧ ∀ c ∈ t, c.isAlphanum }

/-- The random values of one answer. -/
structure Draws where
  hostUsername : RandomString 4
  hostPassword : RandomString 22
  audioSsrc : UInt32
  videoSsrc : UInt32

/-- The video codec a streamer has to offer. -/
def acceptedVideoCodec : VideoCodec := .h264

/-- The audio codec a streamer has to offer. -/
def acceptedAudioCodec : AudioCodec := .opus

/-- The name the server gives itself and its sources. -/
def hostCname : Text := "SMID".toList

/-- `SDPResolver::new`. -/
def SDPResolver.new (fingerprintHash : Text) (udpSocket : SocketAddr) : Exec SDPResolver := do
  let fingerprint ← Exec.expectOk "Fingerprint should be in form of \"hash-function hash\""
    (Fingerprint.tryFrom ("fingerprint:".toList ++ fingerprintHash))
  return { fingerprint,
           candidate := { foundation := "1".toList, componentId := 1, priority := 2015363327,
                          connectionAddress := udpSocket.ip, port := udpSocket.port } }

/-- The first attribute of a section that answers the question. -/
def findAttribute {α : Type} (ask : Attribute → Option α) (lines : List SDPLine) : Option α :=
  lines.findSome? fun
    | .attr attr => ask attr
    | _ => none

/-- The first username. -/
def getIceUsername (lines : List SDPLine) : Option ICEUsername :=
  findAttribute (fun | .iceUsername username => some username | _ => none) lines

/-- The first password. -/
def getIcePassword (lines : List SDPLine) : Option ICEPassword :=
  findAttribute (fun | .icePassword password => some password | _ => none) lines

/-- Whether control packets share the port of the media. -/
def isRtcpDemuxed (lines : List SDPLine) : Bool :=
  (findAttribute (fun | .rtcpMux => some () | _ => none) lines).isSome

/-- Whether the peer only sends. -/
def isSendonlyDirection (lines : List SDPLine) : Bool :=
  (findAttribute (fun | .sendOnly => some () | _ => none) lines).isSome

/-- Whether the peer only receives. -/
def isRecvonlyDirection (lines : List SDPLine) : Bool :=
  (findAttribute (fun | .receiveOnly => some () | _ => none) lines).isSome

/-- The first source of the peer. -/
def remoteSsrc (lines : List SDPLine) : Option UInt32 :=
  findAttribute (fun | .mediaSSRC ssrc => some ssrc.ssrc | _ => none) lines

/-- Whether the first setup line asks for the passive role. -/
def isPassiveDtlsRole (lines : List SDPLine) : Option Bool :=
  findAttribute (fun | .setup .passive => some true | .setup _ => some false | _ => none) lines

/-- The payload number of the first rtpmap line with the given codec. -/
def codecPayloadNumber (codec : MediaCodec) (lines : List SDPLine) : Option Nat :=
  findAttribute (fun
    | .rtpMap map => if map.codec = codec then some map.payloadNumber else none
    | _ => none) lines

/-- The first name of a section. -/
def getMediaId (lines : List SDPLine) : Option MediaID :=
  findAttribute (fun | .mediaID id => some id | _ => none) lines

/-- The peer's credentials, from the media sections if either of them names a
    user, else from the session section. -/
def getIceCredentials (sdp : SDP) (draws : Draws) : Option ICECredentials :=
  let defaultUsername := getIceUsername sdp.sessionSection
  let defaultPassword := getIcePassword sdp.sessionSection
  let audioMediaUsername := getIceUsername sdp.audioSection
  let audioMediaPassword := getIcePassword sdp.audioSection
  let videoMediaUsername := getIceUsername sdp.videoSection
  let videoMediaPassword := getIcePassword sdp.videoSection
  -- A username in one media section commits the offer to have both halves in
  -- both of them, and the same.
  if audioMediaUsername.isSome || videoMediaUsername.isSome then do
    let audioMediaUsername ← audioMediaUsername
    let audioMediaPassword ← audioMediaPassword
    let videoMediaUsername ← videoMediaUsername
    let videoMediaPassword ← videoMediaPassword
    if audioMediaUsername ≠ videoMediaUsername ∨ audioMediaPassword ≠ videoMediaPassword then none
    else some { remoteUsername := audioMediaUsername.username,
                remotePassword := audioMediaPassword.password,
                hostUsername := draws.hostUsername,
                hostPassword := draws.hostPassword }
  else do
    let defaultUsername ← defaultUsername
    let defaultPassword ← defaultPassword
    some { remoteUsername := defaultUsername.username,
           remotePassword := defaultPassword.password,
           hostUsername := draws.hostUsername,
           hostPassword := draws.hostPassword }

/-- What a streamer's audio section agrees on. -/
def getStreamerAudioSession (audioMedia : List SDPLine) (draws : Draws) :
    Except SDPParseError AudioSession := do
  if !isRtcpDemuxed audioMedia then .error .demuxRequired
  else if !isSendonlyDirection audioMedia then .error .invalidStreamDirection
  else
    let payloadNumber ← okOr .unsupportedMediaCodecs
      (codecPayloadNumber (.audio acceptedAudioCodec) audioMedia)
    return { codec := acceptedAudioCodec, payloadNumber, remoteSsrc := remoteSsrc audioMedia,
             hostSsrc := draws.audioSsrc }

/-- What a streamer's video section agrees on. -/
def getStreamerVideoSession (videoMedia : List SDPLine) (draws : Draws) :
    Except SDPParseError VideoSession := do
  if !isRtcpDemuxed videoMedia then .error .demuxRequired
  else if !isSendonlyDirection videoMedia then .error .invalidStreamDirection
  else
    let payloadNumber ← okOr .unsupportedMediaCodecs
      (codecPayloadNumber (.video acceptedVideoCodec) videoMedia)
    -- The parameters are those of the first fmtp line for this number.
    let capabilities ← okOr .missingVideoCapabilities (findAttribute (fun
      | .fmtp fmtp =>
          if fmtp.payloadNumber = payloadNumber then some fmtp.formatCapability else none
      | _ => none) videoMedia)
    return { codec := acceptedVideoCodec, capabilities, payloadNumber,
             remoteSsrc := remoteSsrc videoMedia, hostSsrc := draws.videoSsrc }

/-- The names of the audio and the video section, which have to be bundled. -/
def getMediaIds (sdp : SDP) : Except SDPParseError (MediaID × MediaID) := do
  let bundleGroup ← okOr .bundleRequired (findAttribute (fun
    | .mediaGroup (.bundle group) => some group
    | _ => none) sdp.sessionSection)
  -- The group names audio first, then video; further names are not read.
  let expectedAudioMid ← okOr .malformedSDPLine bundleGroup[0]?
  let expectedVideoMid ← okOr .malformedSDPLine bundleGroup[1]?
  let actualAudioId ← okOr .invalidMediaID (getMediaId sdp.audioSection)
  if (⟨expectedAudioMid⟩ : MediaID) ≠ actualAudioId then .error .invalidMediaID
  else
    let actualVideoId ← okOr .invalidMediaID (getMediaId sdp.videoSection)
    if (⟨expectedVideoMid⟩ : MediaID) ≠ actualVideoId then .error .invalidMediaID
    else return (⟨expectedAudioMid⟩, ⟨expectedVideoMid⟩)

/-- What a viewer's audio section agrees on, in the codec of the streamer. -/
def getViewerAudioSession (audioMedia : List SDPLine) (streamerSession : AudioSession)
    (draws : Draws) : Except SDPParseError AudioSession := do
  if !isRtcpDemuxed audioMedia then .error .demuxRequired
  else
    let passive ← okOr .malformedSDPLine (isPassiveDtlsRole audioMedia)
    if passive then .error .invalidDTLSRole
    else if !isRecvonlyDirection audioMedia then .error .invalidStreamDirection
    else
      let payloadNumber ← okOr .unsupportedMediaCodecs
        (codecPayloadNumber (.audio streamerSession.codec) audioMedia)
      return { codec := streamerSession.codec, payloadNumber, hostSsrc := draws.audioSsrc,
               remoteSsrc := remoteSsrc audioMedia }

/-- Every payload number with an rtpmap line of the given codec. -/
def availablePayloadNumbers (codec : MediaCodec) (lines : List SDPLine) : List Nat :=
  lines.filterMap fun
    | .attr (.rtpMap map) => if map.codec = codec then some map.payloadNumber else none
    | _ => none

/-- The first fmtp line for one of the payload numbers with exactly the given
    parameters. -/
def matchingFmtp (available : List Nat) (capabilities : Finset Text) (lines : List SDPLine) :
    Option Nat :=
  (lines.filterMap fun
    | .attr (.fmtp fmtp) => if fmtp.payloadNumber ∈ available then some fmtp else none
    | _ => none).findSome? fun fmtp =>
      if fmtp.formatCapability = capabilities then some fmtp.payloadNumber else none

/-- What a viewer's video section agrees on, in the codec and with the
    parameters of the streamer. -/
def getViewerVideoSession (videoMedia : List SDPLine) (streamerSession : VideoSession)
    (draws : Draws) : Except SDPParseError VideoSession := do
  if !isRtcpDemuxed videoMedia then .error .demuxRequired
  else
    let passive ← okOr .malformedSDPLine (isPassiveDtlsRole videoMedia)
    if passive then .error .invalidDTLSRole
    else if !isRecvonlyDirection videoMedia then .error .invalidStreamDirection
    else
      -- A viewer may offer the codec under many numbers; one of them has to
      -- have exactly the streamer's parameters.
      let available := availablePayloadNumbers (.video streamerSession.codec) videoMedia
      let payloadNumber ← okOr .unsupportedMediaCodecs
        (matchingFmtp available streamerSession.capabilities videoMedia)
      return { capabilities := streamerSession.capabilities, hostSsrc := draws.videoSsrc,
               remoteSsrc := remoteSsrc videoMedia, payloadNumber,
               codec := streamerSession.codec }

/-- The session section of an answer. -/
def SDPResolver.sessionAnswer (resolver : SDPResolver) (audioMid videoMid : MediaID)
    (credentials : ICECredentials) : List SDPLine :=
  [ .protocolVersion "0".toList,
    .originator { username := hostCname, ipAddr := resolver.candidate.connectionAddress,
                  sessionVersion := "0".toList, sessionId := "3767197920".toList },
    .sessionName hostCname,
    .sessionTime { startTime := 0, endTime := 0 },
    .attr (.mediaGroup (.bundle [audioMid.id, videoMid.id])),
    .attr (.iceUsername { username := credentials.hostUsername }),
    .attr (.icePassword { password := credentials.hostPassword }),
    .attr (.iceOptions { options := [.ice2] }),
    .attr .iceLite,
    .attr (.fingerprint resolver.fingerprint),
    .attr (.setup .passive) ]

/-- The audio section of an answer, flowing in the given direction. -/
def SDPResolver.audioAnswer (resolver : SDPResolver) (direction : Attribute) (audioMid : MediaID)
    (audio : AudioSession) : List SDPLine :=
  [ .mediaDescription { transportPort := resolver.candidate.port.toNat, mediaType := .audio,
                        transportProtocol := .dtlsSrtp,
                        mediaFormatDescription := [audio.payloadNumber] },
    .connectionData { ip := resolver.candidate.connectionAddress },
    .attr direction,
    .attr .rtcpMux,
    .attr (.mediaID audioMid),
    .attr (.candidate resolver.candidate),
    .attr .endOfCandidates,
    .attr (.rtpMap { codec := .audio audio.codec, payloadNumber := audio.payloadNumber }),
    .attr (.mediaSSRC { ssrc := audio.hostSsrc, sourceAttribute := .cname hostCname }) ]

/-- The video section of an answer, flowing in the given direction. -/
def SDPResolver.videoAnswer (resolver : SDPResolver) (direction : Attribute) (videoMid : MediaID)
    (video : VideoSession) : List SDPLine :=
  [ .mediaDescription { transportPort := resolver.candidate.port.toNat, mediaType := .video,
                        transportProtocol := .dtlsSrtp,
                        mediaFormatDescription := [video.payloadNumber] },
    .connectionData { ip := resolver.candidate.connectionAddress },
    .attr direction,
    .attr .rtcpMux,
    .attr (.mediaID videoMid),
    .attr (.rtpMap { codec := .video video.codec, payloadNumber := video.payloadNumber }),
    .attr (.mediaSSRC { ssrc := video.hostSsrc, sourceAttribute := .cname hostCname }),
    .attr (.fmtp { payloadNumber := video.payloadNumber,
                   formatCapability := video.capabilities }) ]

/-- Assemble the outcome of a negotiation. The two kinds of answer differ only
    in the direction of their media. -/
def SDPResolver.answer (resolver : SDPResolver) (direction : Attribute)
    (audioMid videoMid : MediaID) (credentials : ICECredentials) (audio : AudioSession)
    (video : VideoSession) : NegotiatedSession :=
  { iceCredentials := credentials,
    audioSession := audio,
    videoSession := video,
    sdpAnswer := { sessionSection := resolver.sessionAnswer audioMid videoMid credentials,
                   audioSection := resolver.audioAnswer direction audioMid audio,
                   videoSection := resolver.videoAnswer direction videoMid video } }

/-- Negotiate with a streamer. The answer receives. -/
def SDPResolver.parseStreamOffer (resolver : SDPResolver) (offer : SDP) (draws : Draws) :
    Except SDPParseError NegotiatedSession := do
  let (audioMid, videoMid) ← getMediaIds offer
  let credentials ← okOr .missingICECredentials (getIceCredentials offer draws)
  let audio ← getStreamerAudioSession offer.audioSection draws
  let video ← getStreamerVideoSession offer.videoSection draws
  -- The role of a streamer is read off the session section, that of a viewer
  -- off its media sections.
  let passive ← okOr .malformedSDPLine (isPassiveDtlsRole offer.sessionSection)
  if passive then .error .invalidDTLSRole
  else return resolver.answer .receiveOnly audioMid videoMid credentials audio video

/-- Negotiate with a viewer. The answer sends. -/
def SDPResolver.parseViewerOffer (resolver : SDPResolver) (offer : SDP)
    (streamerSession : NegotiatedSession) (draws : Draws) :
    Except SDPParseError NegotiatedSession := do
  let credentials ← okOr .missingICECredentials (getIceCredentials offer draws)
  let (audioMid, videoMid) ← getMediaIds offer
  let audio ← getViewerAudioSession offer.audioSection streamerSession.audioSession draws
  let video ← getViewerVideoSession offer.videoSection streamerSession.videoSession draws
  return resolver.answer .sendOnly audioMid videoMid credentials audio video

/-- Whether a line is a media description other than the given one, or no
    media description at all. -/
def isNotMedia (media : MediaDescription) : SDPLine → Bool
  | .mediaDescription other => other ≠ media
  | _ => true

/-- Cut a text into its sections. Exactly two media sections are accepted,
    audio before video, and the cuts are made by comparing descriptions. -/
def getSdp (rawData : Text) : Except SDPParseError SDP := do
  let sdpLines ← ((lines rawData).filter (· ≠ [])).mapM SDPLine.tryFrom
  if sdpLines[0]? ≠ some (.protocolVersion "0".toList) then .error .sequenceError
  else
    match sdpLines[1]?, sdpLines[2]?, sdpLines[3]? with
    | some (.originator _), some (.sessionName _), some (.sessionTime _) =>
        let mediaDescriptors := sdpLines.filterMap fun
          | .mediaDescription media => some media
          | _ => none
        match mediaDescriptors with
        | [firstMedia, secondMedia] =>
            if firstMedia.mediaType ≠ .audio then .error .sequenceError
            else if secondMedia.mediaType ≠ .video then .error .sequenceError
            -- The cuts are at the first line equal to a description, so two equal
            -- descriptions would be cut at one place.
            else return { sessionSection := sdpLines.takeWhile (isNotMedia firstMedia),
                          audioSection := (sdpLines.dropWhile (isNotMedia firstMedia)).takeWhile
                            (isNotMedia secondMedia),
                          videoSection := sdpLines.dropWhile (isNotMedia secondMedia) }
        | _ => .error .unsupportedMediaCount
    | _, _, _ => .error .sequenceError

/-- Negotiate with a streamer, from the text of its offer. -/
def SDPResolver.acceptStreamOffer (resolver : SDPResolver) (rawData : Text) (draws : Draws) :
    Except SDPParseError NegotiatedSession := do
  let sdp ← getSdp rawData
  resolver.parseStreamOffer sdp draws

/-- Negotiate with a viewer, from the text of its offer. -/
def SDPResolver.acceptViewerOffer (resolver : SDPResolver) (rawData : Text)
    (streamerSession : NegotiatedSession) (draws : Draws) :
    Except SDPParseError NegotiatedSession := do
  let sdp ← getSdp rawData
  resolver.parseViewerOffer sdp streamerSession draws

end Sdp

end SigmaMedia
