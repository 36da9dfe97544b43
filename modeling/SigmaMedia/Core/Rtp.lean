import SigmaMedia.Core.Sdp.Resolver

/-!
# RTP Headers on the Way Through

A packet from a streamer is sent on to a viewer with two fields replaced: the
payload type and the synchronisation source become those the viewer has
negotiated. Which pair is taken depends on the payload type the packet came
with, compared with the streamer's audio number; anything else counts as
video.

The comparison is between unbounded numbers, and the number put in is cut to
eight bits and joined with the marker by exclusive or.

## Main definitions

* `RTPHeader`: The fields that are read and replaced.
* `getRtpHeaderData`: Reading them.
* `getMappedHeader`: The fields a viewer is to see.
* `remapRtpHeader`: Replacing them.
* `isVideoPacket`: The test the server makes on its own.
-/

namespace SigmaMedia

namespace Rtp

open Bytes Exec Sdp

/-- The fields of a header that differ between streamer and viewer, and the
    marker that stands in the same byte. -/
structure RTPHeader where
  markerSet : Bool
  payloadType : UInt8
  ssrc : UInt32
  deriving DecidableEq

/-- Read the fields off a packet. -/
def getRtpHeaderData (buffer : Bytes) : Exec RTPHeader := do
  let firstByte ← index buffer 1
  let markerSet := (firstByte &&& 0b1000_0000) = 0b1000_0000
  let payloadType := firstByte &&& 0b0111_1111
  let (ssrc, _) ← unwrap (readU32 (← slice buffer 8 12))
  return { payloadType, markerSet, ssrc }

/-- The fields for a viewer. What is not the streamer's audio counts as its
    video. -/
def getMappedHeader (originalHeader : RTPHeader)
    (streamerSession viewerSession : NegotiatedSession) : RTPHeader :=
  if streamerSession.audioSession.payloadNumber = originalHeader.payloadType.toNat then
    { ssrc := viewerSession.audioSession.hostSsrc,
      payloadType := UInt8.ofNat viewerSession.audioSession.payloadNumber,
      markerSet := originalHeader.markerSet }
  else
    { ssrc := viewerSession.videoSession.hostSsrc,
      payloadType := UInt8.ofNat viewerSession.videoSession.payloadNumber,
      markerSet := originalHeader.markerSet }

/-- Write the fields for a viewer into a packet. -/
def remapRtpHeader (buffer : Bytes) (streamerSession viewerSession : NegotiatedSession) :
    Exec Bytes := do
  let header ← getRtpHeaderData buffer
  let mappedHeader := getMappedHeader header streamerSession viewerSession
  -- The marker is the top bit of the second byte, the payload type the rest.
  let markerBit : UInt8 := if mappedHeader.markerSet then 0b1000_0000 else 0
  let remappedSecondByte := markerBit ^^^ mappedHeader.payloadType
  let buffer ← store buffer 1 remappedSecondByte
  storeSlice buffer 8 (be32 mappedHeader.ssrc)

/-- The server's test for a packet to take a picture from. -/
def isVideoPacket (header : RTPHeader) (session : NegotiatedSession) : Bool :=
  header.payloadType = UInt8.ofNat session.videoSession.payloadNumber

end Rtp

end SigmaMedia
