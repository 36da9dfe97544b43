import SigmaMedia.Core.Sdp.Resolver

/-!
# What an Accepted Offer Leaves Behind

An offer is accepted for a streamer or for a viewer, and both ways draw the
host's half of the credentials in the same place. So the host's half of every
accepted session is a drawn string of fixed length, while the peer's half is
whatever its offer carried, and the two halves can be bounded separately.

An offer is refused by any check it fails, so an accepted one has passed them
all. What the checks are is said once for each function here, and every proof
about an accepted offer starts from it.

## Main definitions

* `Accepted`: A session some offer was answered with.
* `offerText`: A smallest offer, by the values that matter.

## Theorems

* `parseStreamOffer_eq_ok`, `parseViewerOffer_eq_ok`: What an offer has to pass.
* `getIceCredentials_host`: The host's half is the drawn one.
* `acceptStreamOffer_hostUsername`, `acceptViewerOffer_hostUsername`: So is
  the host's username of an accepted streamer or viewer.
* `Accepted.hostUsername`: And of every accepted session.
-/

namespace SigmaMedia

namespace Sdp

open Exec Net Text

/-- A session some offer was answered with, for a streamer or for a viewer. -/
def Accepted (resolver : SDPResolver) (session : NegotiatedSession) : Prop :=
  (∃ rawData draws, resolver.acceptStreamOffer rawData draws = .ok session) ∨
    ∃ rawData streamerSession draws,
      resolver.acceptViewerOffer rawData streamerSession draws = .ok session

/-- The parameters an attribute has for a number. -/
def parametersFor (number : Nat) : Attribute → Option (Finset Text)
  | .fmtp fmtp => if fmtp.payloadNumber = number then some fmtp.formatCapability else none
  | _ => none

section Inversion

variable {resolver : SDPResolver} {draws : Draws} {media : List SDPLine} {offer : SDP}
  {rawData : Text} {streamerSession session : NegotiatedSession}

theorem getStreamerAudioSession_eq_ok {audio : AudioSession} :
    getStreamerAudioSession media draws = .ok audio ↔
      isRtcpDemuxed media = true ∧ isSendonlyDirection media = true ∧
        ∃ number, codecPayloadNumber (.audio acceptedAudioCodec) media = some number ∧
          audio = { codec := acceptedAudioCodec, payloadNumber := number,
                    remoteSsrc := remoteSsrc media, hostSsrc := draws.audioSsrc } := by
  simp only [getStreamerAudioSession, when_eq_ok, Bool.not_eq_false', bind_eq_ok, okOr_eq_ok,
    pure_eq_ok_iff]

theorem getStreamerVideoSession_eq_ok {video : VideoSession} :
    getStreamerVideoSession media draws = .ok video ↔
      isRtcpDemuxed media = true ∧ isSendonlyDirection media = true ∧
        ∃ number, codecPayloadNumber (.video acceptedVideoCodec) media = some number ∧
          ∃ capabilities, findAttribute (parametersFor number) media = some capabilities ∧
            video = { codec := acceptedVideoCodec, capabilities := capabilities,
                      payloadNumber := number, remoteSsrc := remoteSsrc media,
                      hostSsrc := draws.videoSsrc } := by
  simp only [getStreamerVideoSession, when_eq_ok, Bool.not_eq_false', bind_eq_ok, okOr_eq_ok,
    pure_eq_ok_iff]
  rfl

theorem getViewerAudioSession_eq_ok {streamerAudio audio : AudioSession} :
    getViewerAudioSession media streamerAudio draws = .ok audio ↔
      isRtcpDemuxed media = true ∧ isPassiveDtlsRole media = some false ∧
        isRecvonlyDirection media = true ∧
        ∃ number, codecPayloadNumber (.audio streamerAudio.codec) media = some number ∧
          audio = { codec := streamerAudio.codec, payloadNumber := number,
                    hostSsrc := draws.audioSsrc, remoteSsrc := remoteSsrc media } := by
  simp only [getViewerAudioSession, when_eq_ok, Bool.not_eq_false', bind_eq_ok, okOr_eq_ok,
    pure_eq_ok_iff]
  constructor
  · intro h
    rcases h with ⟨hmux, passive, hpassive, rfl, hrest⟩
    exact ⟨hmux, hpassive, hrest⟩
  · intro h
    rcases h with ⟨hmux, hpassive, hrest⟩
    exact ⟨hmux, false, hpassive, rfl, hrest⟩

theorem getViewerVideoSession_eq_ok {streamerVideo video : VideoSession} :
    getViewerVideoSession media streamerVideo draws = .ok video ↔
      isRtcpDemuxed media = true ∧ isPassiveDtlsRole media = some false ∧
        isRecvonlyDirection media = true ∧
        ∃ number, matchingFmtp (availablePayloadNumbers (.video streamerVideo.codec) media)
            streamerVideo.capabilities media = some number ∧
          video = { capabilities := streamerVideo.capabilities, hostSsrc := draws.videoSsrc,
                    remoteSsrc := remoteSsrc media, payloadNumber := number,
                    codec := streamerVideo.codec } := by
  simp only [getViewerVideoSession, when_eq_ok, Bool.not_eq_false', bind_eq_ok, okOr_eq_ok,
    pure_eq_ok_iff]
  constructor
  · intro h
    rcases h with ⟨hmux, passive, hpassive, rfl, hrest⟩
    exact ⟨hmux, hpassive, hrest⟩
  · intro h
    rcases h with ⟨hmux, hpassive, hrest⟩
    exact ⟨hmux, false, hpassive, rfl, hrest⟩

theorem acceptStreamOffer_eq_ok :
    resolver.acceptStreamOffer rawData draws = .ok session ↔
      ∃ offer, getSdp rawData = .ok offer ∧ resolver.parseStreamOffer offer draws = .ok session :=
  bind_eq_ok

theorem acceptViewerOffer_eq_ok :
    resolver.acceptViewerOffer rawData streamerSession draws = .ok session ↔
      ∃ offer, getSdp rawData = .ok offer ∧
        resolver.parseViewerOffer offer streamerSession draws = .ok session :=
  bind_eq_ok

/-- What a streamer's offer has to pass, and what it is answered with. -/
theorem parseStreamOffer_eq_ok :
    resolver.parseStreamOffer offer draws = .ok session ↔
      ∃ audioMid videoMid credentials audio video,
        getMediaIds offer = .ok (audioMid, videoMid) ∧
        getIceCredentials offer draws = some credentials ∧
        getStreamerAudioSession offer.audioSection draws = .ok audio ∧
        getStreamerVideoSession offer.videoSection draws = .ok video ∧
        isPassiveDtlsRole offer.sessionSection = some false ∧
        session = resolver.answer .receiveOnly audioMid videoMid credentials audio video := by
  simp only [SDPResolver.parseStreamOffer, when_eq_ok, bind_eq_ok, okOr_eq_ok, pure_eq_ok_iff,
    Prod.exists]
  -- The same parts, in the order of the code.
  constructor
  · intro h
    rcases h with ⟨audioMid, videoMid, hmids, credentials, hcredentials, audio, haudio, video,
      hvideo, passive, hpassive, rfl, hanswer⟩
    exact ⟨audioMid, videoMid, credentials, audio, video, hmids, hcredentials, haudio, hvideo,
      hpassive, hanswer⟩
  · intro h
    rcases h with ⟨audioMid, videoMid, credentials, audio, video, hmids, hcredentials, haudio,
      hvideo, hpassive, hanswer⟩
    exact ⟨audioMid, videoMid, hmids, credentials, hcredentials, audio, haudio, video, hvideo,
      false, hpassive, rfl, hanswer⟩

/-- What a viewer's offer has to pass, and what it is answered with. -/
theorem parseViewerOffer_eq_ok :
    resolver.parseViewerOffer offer streamerSession draws = .ok session ↔
      ∃ audioMid videoMid credentials audio video,
        getMediaIds offer = .ok (audioMid, videoMid) ∧
        getIceCredentials offer draws = some credentials ∧
        getViewerAudioSession offer.audioSection streamerSession.audioSession draws = .ok audio ∧
        getViewerVideoSession offer.videoSection streamerSession.videoSession draws = .ok video ∧
        session = resolver.answer .sendOnly audioMid videoMid credentials audio video := by
  simp only [SDPResolver.parseViewerOffer, bind_eq_ok, okOr_eq_ok, pure_eq_ok_iff, Prod.exists]
  -- The credentials are looked for before the names.
  constructor
  · intro h
    rcases h with ⟨credentials, hcredentials, audioMid, videoMid, hmids, audio, haudio, video,
      hvideo, hanswer⟩
    exact ⟨audioMid, videoMid, credentials, audio, video, hmids, hcredentials, haudio, hvideo,
      hanswer⟩
  · intro h
    rcases h with ⟨audioMid, videoMid, credentials, audio, video, hmids, hcredentials, haudio,
      hvideo, hanswer⟩
    exact ⟨credentials, hcredentials, audioMid, videoMid, hmids, audio, haudio, video, hvideo,
      hanswer⟩

end Inversion

/-- Wherever the peer's half was found, the host's half is the drawn one. -/
theorem getIceCredentials_host {sdp : SDP} {draws : Draws} {credentials : ICECredentials}
    (h : getIceCredentials sdp draws = some credentials) :
    credentials.hostUsername = draws.hostUsername ∧
      credentials.hostPassword = draws.hostPassword := by
  unfold getIceCredentials at h
  simp only [Option.bind_eq_bind] at h
  split at h
  · -- From the media sections, once they agree.
    simp only [Option.bind_eq_some_iff] at h
    rcases h with ⟨_, _, _, _, _, _, _, _, hsome⟩
    split at hsome
    · cases hsome
    · cases hsome
      exact ⟨rfl, rfl⟩
  · -- From the session section.
    simp only [Option.bind_eq_some_iff] at h
    rcases h with ⟨_, _, _, _, hsome⟩
    cases hsome
    exact ⟨rfl, rfl⟩

/-- The host's username of an accepted streamer is the drawn one. -/
theorem acceptStreamOffer_hostUsername {resolver : SDPResolver} {rawData : Text} {draws : Draws}
    {session : NegotiatedSession} (h : resolver.acceptStreamOffer rawData draws = .ok session) :
    session.iceCredentials.hostUsername = draws.hostUsername := by
  rcases acceptStreamOffer_eq_ok.mp h with ⟨offer, _, hparse⟩
  rcases parseStreamOffer_eq_ok.mp hparse with ⟨_, _, credentials, _, _, _, hcred, _, _, _, rfl⟩
  exact (getIceCredentials_host hcred).1

/-- So is that of an accepted viewer. -/
theorem acceptViewerOffer_hostUsername {resolver : SDPResolver} {rawData : Text} {draws : Draws}
    {streamerSession session : NegotiatedSession}
    (h : resolver.acceptViewerOffer rawData streamerSession draws = .ok session) :
    session.iceCredentials.hostUsername = draws.hostUsername := by
  rcases acceptViewerOffer_eq_ok.mp h with ⟨offer, _, hparse⟩
  rcases parseViewerOffer_eq_ok.mp hparse with ⟨_, _, credentials, _, _, _, hcred, _, _, rfl⟩
  exact (getIceCredentials_host hcred).1

/-- The host's username of an accepted session is a drawn string. -/
theorem Accepted.hostUsername {resolver : SDPResolver} {session : NegotiatedSession}
    (h : Accepted resolver session) :
    ∃ drawn : RandomString 4, session.iceCredentials.hostUsername = drawn := by
  rcases h with ⟨rawData, draws, hstream⟩ | ⟨rawData, streamerSession, draws, hviewer⟩
  · exact ⟨draws.hostUsername, acceptStreamOffer_hostUsername hstream⟩
  · exact ⟨draws.hostUsername, acceptViewerOffer_hostUsername hviewer⟩

/-- A smallest offer that can be accepted, by its username line, the direction
    of its media and its two payload numbers. -/
def offerText (ufrag direction audio video : Text) : Text :=
  ["v=0".toList, "o=- 1 0 IN IP4 127.0.0.1".toList, "s=-".toList, "t=0 0".toList,
    "a=group:BUNDLE 0 1".toList, "a=setup:actpass".toList,
    "a=ice-ufrag:".toList ++ ufrag, "a=ice-pwd:secret".toList,
    "m=audio 9 UDP/TLS/RTP/SAVPF 0".toList, "a=mid:0".toList, "a=rtcp-mux".toList,
    "a=setup:actpass".toList, "a=".toList ++ direction,
    "a=rtpmap:".toList ++ audio ++ " opus/48000/2".toList,
    "m=video 9 UDP/TLS/RTP/SAVPF 0".toList, "a=mid:1".toList, "a=rtcp-mux".toList,
    "a=setup:actpass".toList, "a=".toList ++ direction,
    "a=rtpmap:".toList ++ video ++ " H264/90000".toList,
    "a=fmtp:".toList ++ video ++ " packetization-mode=1".toList].flatMap (· ++ "\r\n".toList)

/-- The loopback address. -/
def loopbackIp : ByteArr 4 := ⟨[127, 0, 0, 1], rfl⟩

/-- A resolver on the loopback address. -/
def loopbackResolver : SDPResolver :=
  { fingerprint := { hashFunction := .sha256, hash := "AA".toList },
    candidate := { foundation := "1".toList, componentId := 1, priority := 2015363327,
                   connectionAddress := .v4 loopbackIp, port := 5000 } }

/-- Fixed draws. -/
def fixedDraws : Draws :=
  { hostUsername := ⟨"host".toList, rfl, List.all_eq_true.mp rfl⟩,
    hostPassword := ⟨"0123456789abcdefghijkl".toList, rfl, List.all_eq_true.mp rfl⟩,
    audioSsrc := 1, videoSsrc := 2 }

end Sdp

end SigmaMedia
