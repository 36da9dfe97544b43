import SigmaMedia.Base.Bytes
import SigmaMedia.Base.Exec

/-!
# Taking Thumbnails from a Stream

The packets of a streamer are read as RTP, their payloads joined into NAL
units, and the units of one picture collected into an access unit, which goes
to a video decoder.

The collector waits for a packet with the marker to learn where a picture
ends. From there it takes the timestamp of the next packet for that of the
next picture, and follows sequence numbers and that timestamp until the next
marker. A packet out of order, or with another timestamp, throws away what was
collected and starts over.

A NAL unit comes whole in one packet, or in fragments that carry its header
split over two bytes. The readers of both index into the payload without
looking at its length.

The video decoder is the one operation from outside the repository. `H264`
holds it.

## Main definitions

* `RTPPacket`: A packet, and `RTPPacket.tryFrom`, its reader.
* `NALUnitHeader`, `NALFragmentationHeader`: The two header bytes.
* `getNalPacket`: What a payload holds.
* `NALDecoder`: Joining fragments.
* `AccessUnitDecoder`: Collecting a picture, and `processPacket`, its step.
* `H264`: The video decoder.
* `ThumbnailExtractor`: The whole.
-/

namespace SigmaMedia

namespace Thumbnail

open Bytes Exec

/-- A packet with all its fields. -/
structure RTPPacket where
  marker : Bool
  version : UInt8
  padding : Bool
  ext : Bool
  csrcCount : UInt8
  payloadType : UInt8
  sequenceNumber : UInt16
  timestamp : UInt32
  ssrc : UInt32
  csrc : List UInt32
  payload : Bytes
  deriving DecidableEq

/-- `ParseError` of the RTP reader. -/
inductive RTPParseError where
  | packetShort
  | malformedPacket
  deriving DecidableEq, Repr

/-- Read the given number of contributing sources. -/
def readCsrc : Nat → Bytes → Option (List UInt32 × Bytes)
  | 0, reader => some ([], reader)
  | n + 1, reader => do
      let (source, reader) ← readU32 reader
      let (sources, reader) ← readCsrc n reader
      return (source :: sources, reader)

/-- Read a packet. The flags for an extension and for padding are read, and
    neither is looked at again. -/
def RTPPacket.tryFrom (value : Bytes) : Except RTPParseError RTPPacket := do
  let (firstOctet, reader) ← okOr .packetShort (readU8 value)
  let version := (firstOctet &&& 0b1100_0000) >>> 6
  let padding := (firstOctet &&& 0b0010_0000) = 0b0010_0000
  let ext := (firstOctet &&& 0b0001_0000) = 0b0001_0000
  let csrcCount := firstOctet &&& 0b0000_1111
  let (secondOctet, reader) ← okOr .packetShort (readU8 reader)
  let marker := (secondOctet &&& 0b1000_0000) = 0b1000_0000
  let payloadType := secondOctet &&& 0b0111_1111
  let (sequenceNumber, reader) ← okOr .packetShort (readU16 reader)
  let (timestamp, reader) ← okOr .packetShort (readU32 reader)
  let (ssrc, reader) ← okOr .packetShort (readU32 reader)
  let (csrc, reader) ← okOr .packetShort (readCsrc csrcCount.toNat reader)
  -- One read into an array of this length; reading memory does not fail.
  let payload := reader.take 3000
  return { marker, version, padding, ext, csrcCount, payloadType, sequenceNumber, timestamp,
           ssrc, csrc, payload }

/-- What the header of a payload says that it is. -/
inductive PayloadType where
  | nalUnit
  | fuA
  | fuB
  | stapA
  | stapB
  | mtap16
  | mtap24
  | reserved
  deriving DecidableEq, Repr

/-- `ParseError` of the NAL readers. -/
inductive NALParseError where
  | malformedPacket
  deriving DecidableEq, Repr

/-- The type in the lower five bits of a header. -/
def PayloadType.tryFrom (value : UInt8) : Except NALParseError PayloadType :=
  if value = 0 then .ok .reserved
  else if value ≤ 23 then .ok .nalUnit
  else if value = 24 then .ok .stapA
  else if value = 25 then .ok .stapB
  else if value = 26 then .ok .mtap16
  else if value = 27 then .ok .mtap24
  else if value = 28 then .ok .fuA
  else if value = 29 then .ok .fuB
  else if value ≤ 31 then .ok .reserved
  else .error .malformedPacket

/-- The header of a NAL unit, and the byte it was read from. -/
structure NALUnitHeader where
  nri : UInt8
  inner : UInt8
  payloadType : PayloadType
  deriving DecidableEq

/-- Read a header, whose top bit has to be zero. -/
def NALUnitHeader.tryFrom (value : UInt8) : Except NALParseError NALUnitHeader := do
  let forbiddenZeroBit := (value &&& 0b1000_0000) >>> 7
  if forbiddenZeroBit = 1 then .error .malformedPacket
  else
    let nri := (value &&& 0b0110_0000) >>> 5
    let payloadType ← PayloadType.tryFrom (value &&& 0b0001_1111)
    return { nri, payloadType, inner := value }

/-- Where in its unit a fragment stands. -/
inductive FragmentationRole where
  | start
  | continue
  | finish
  deriving DecidableEq, Repr

/-- The second header of a fragment: its role, and the type of its unit. -/
structure NALFragmentationHeader where
  fragmentationRole : FragmentationRole
  nalPayloadType : UInt8
  deriving DecidableEq

/-- Read a fragment header. A fragment is not both the first and the last. -/
def NALFragmentationHeader.tryFrom (value : UInt8) :
    Except NALParseError NALFragmentationHeader :=
  let startBit := (value &&& 0b1000_0000) >>> 7
  let endBit := (value &&& 0b0100_0000) >>> 6
  let nalPayloadType := value &&& 0b0001_1111
  if startBit = endBit then
    if startBit = 1 then .error .malformedPacket
    else .ok { fragmentationRole := .continue, nalPayloadType }
  else if startBit = 1 then .ok { fragmentationRole := .start, nalPayloadType }
  else .ok { fragmentationRole := .finish, nalPayloadType }

/-- A whole unit, or a fragment of one. -/
inductive NALPacket where
  | nalUnit (unit : Bytes)
  | fragmentationUnit (unitHeader : NALUnitHeader) (fragmentationHeader : NALFragmentationHeader)
      (unit : Bytes)
  deriving DecidableEq

/-- What a payload holds. The header bytes are indexed before anything is
    known of the length. -/
def getNalPacket (input : Bytes) : Exec (Option NALPacket) := do
  match NALUnitHeader.tryFrom (← index input 0) with
  | .error _ => return none
  | .ok nalUnitHeader =>
      match nalUnitHeader.payloadType with
      | .nalUnit => return some (.nalUnit input)
      | .fuA =>
          match NALFragmentationHeader.tryFrom (← index input 1) with
          | .error _ => return none
          | .ok fragmentationHeader =>
              let unit ← sliceFrom input 2
              return some (.fragmentationUnit nalUnitHeader fragmentationHeader unit)
      | _ => return none

/-- The joiner of fragments, and what it has so far. -/
structure NALDecoder where
  fragmentationBuffer : Bytes
  deriving DecidableEq

/-- A joiner that has nothing. -/
def NALDecoder.new : NALDecoder := { fragmentationBuffer := [] }

/-- The unit a packet completes, if it does. A first fragment throws away what
    was there. -/
def NALDecoder.decodeNalUnit (decoder : NALDecoder) (rtpPacket : RTPPacket) :
    Exec (NALDecoder × Option Bytes) := do
  match ← getNalPacket rtpPacket.payload with
  | none => return (decoder, none)
  | some (.nalUnit unit) => return (decoder, some unit)
  | some (.fragmentationUnit unitHeader fragmentationHeader unit) =>
      match fragmentationHeader.fragmentationRole with
      | .start =>
          let unitHeaderPrefix := unitHeader.inner &&& 0b1110_0000
          let header := unitHeaderPrefix ^^^ fragmentationHeader.nalPayloadType
          return ({ fragmentationBuffer := header :: unit }, none)
      | .continue =>
          return ({ fragmentationBuffer := decoder.fragmentationBuffer ++ unit }, none)
      | .finish =>
          return ({ fragmentationBuffer := [] }, some (decoder.fragmentationBuffer ++ unit))

/-- Why the collector gives a picture up. -/
inductive DecodeError where
  | sequenceMismatch
  | timestampMismatch
  | invalidLastPacket
  deriving DecidableEq, Repr

/-- The collector of the units of a picture. -/
structure AccessUnitDecoder where
  lastSeq : Option UInt16
  timestamp : Option UInt32
  nalDecoder : NALDecoder
  internalBuffer : Bytes
  isLoopback : Bool
  deriving DecidableEq

namespace AccessUnitDecoder

/-- A collector that has seen no packet. -/
def new : AccessUnitDecoder :=
  { isLoopback := false, nalDecoder := .new, timestamp := none, lastSeq := none,
    internalBuffer := [] }

/-- Whether a sequence number follows the last one. -/
def isNextInSeq (decoder : AccessUnitDecoder) (sequenceNumber : UInt16) : Bool :=
  match decoder.lastSeq with
  | none => false
  | some seq => if seq = 0xffff then sequenceNumber = 0 else sequenceNumber = seq + 1

/-- Whether a timestamp is the one being collected. -/
def isMatchingTimestamp (decoder : AccessUnitDecoder) (timestamp : UInt32) : Bool :=
  match decoder.timestamp with
  | none => false
  | some seq => seq = timestamp

/-- The unit a packet completes, if the packet fits the picture that is being
    collected. -/
def getNal (decoder : AccessUnitDecoder) (packet : RTPPacket) :
    Exec (AccessUnitDecoder × Except DecodeError (Option Bytes)) := do
  if !decoder.isNextInSeq packet.sequenceNumber then
    return (decoder, .error .sequenceMismatch)
  else if !decoder.isMatchingTimestamp packet.timestamp then
    return (decoder, .error .timestampMismatch)
  else
    let (nalDecoder, nalUnit) ← decoder.nalDecoder.decodeNalUnit packet
    let decoder := { decoder with nalDecoder }
    if packet.marker ∧ nalUnit = none then return (decoder, .error .invalidLastPacket)
    else return (decoder, .ok nalUnit)

/-- What a NAL unit is preceded by: a longer start code for a parameter set. -/
def startCode (nalHeader : UInt8) : Bytes :=
  let nalUnitType := nalHeader &&& 0b0001_1111
  if nalUnitType = 7 ∨ nalUnitType = 8 then [0, 0, 0, 1] else [0, 0, 1]

/-- One packet: the picture it completes, if it does. -/
def processPacket (decoder : AccessUnitDecoder) (packet : RTPPacket) :
    Exec (AccessUnitDecoder × Option Bytes) := do
  if packet.marker ∧ decoder.timestamp = none then
    return ({ decoder with
      lastSeq := some packet.sequenceNumber, isLoopback := true,
      internalBuffer := decoder.internalBuffer ++ [0] }, none)
  else
    let decoder :=
      if decoder.isLoopback then
        { decoder with timestamp := some packet.timestamp, isLoopback := false }
      else decoder
    let (decoder, result) ← decoder.getNal packet
    match result with
    | .error _ =>
        return ({ decoder with
          internalBuffer := [], nalDecoder := .new, lastSeq := none, timestamp := none }, none)
    | .ok buff =>
        let decoder := { decoder with lastSeq := some packet.sequenceNumber }
        let decoder ← match buff with
          | none => .ok decoder
          | some nal => do
              let nalHeader ← index nal 0
              .ok { decoder with
                internalBuffer := decoder.internalBuffer ++ startCode nalHeader ++ nal }
        if packet.marker then
          return ({ decoder with internalBuffer := [] }, some decoder.internalBuffer)
        else return (decoder, none)

/-- The stages before the video decoder: read the packet, collect it. -/
def extract (decoder : AccessUnitDecoder) (buffer : Bytes) :
    Exec (AccessUnitDecoder × Option Bytes) :=
  match RTPPacket.tryFrom buffer with
  | .error _ => .ok (decoder, none)
  | .ok rtpPacket => decoder.processPacket rtpPacket

end AccessUnitDecoder

/-- A decoded picture, as the video decoder hands it out. -/
structure YUVSource where
  width : Nat
  height : Nat
  /-- Fill a buffer with the picture in RGB. -/
  writeRgb8 : Bytes → Bytes

/-- The video decoder, from the crate that provides it: its state, its
    construction, the cut of an access unit into units, and one step. -/
structure H264 where
  Decoder : Type
  new : Option Decoder
  nalUnits : Bytes → List Bytes
  decode : Decoder → Bytes → Decoder × Except Unit (Option YUVSource)

/-- A picture in RGB. -/
structure ImageData where
  dataBuffer : Bytes
  width : UInt16
  height : UInt16
  deriving DecidableEq

/-- The stages from packets to pictures, and the last picture. -/
structure ThumbnailExtractor (h264 : H264) where
  lastPicture : Option ImageData
  auDecoder : AccessUnitDecoder
  h264Decoder : h264.Decoder

namespace ThumbnailExtractor

variable {h264 : H264}

/-- The stages before the first packet. -/
def new : Exec (ThumbnailExtractor h264) := do
  let h264Decoder ← expect "OpenH264 decoder should initialize" h264.new
  return { auDecoder := .new, lastPicture := none, h264Decoder }

/-- Decode units until one completes a picture. -/
def decodeUnits (extractor : ThumbnailExtractor h264) :
    List Bytes → ThumbnailExtractor h264 × Option Unit
  | [] => (extractor, none)
  | nal :: nals =>
      match h264.decode extractor.h264Decoder nal with
      | (h264Decoder, .ok (some yuvData)) =>
          let imageBuffer := yuvData.writeRgb8
            (List.replicate (yuvData.width * yuvData.height * 3) 0)
          ({ extractor with
            h264Decoder,
            lastPicture := some { dataBuffer := imageBuffer,
                                  height := UInt16.ofNat yuvData.height,
                                  width := UInt16.ofNat yuvData.width } }, some ())
      | (h264Decoder, _) => decodeUnits { extractor with h264Decoder } nals

/-- One packet through all the stages. -/
def tryExtractThumbnail (extractor : ThumbnailExtractor h264) (buffer : Bytes) :
    Exec (ThumbnailExtractor h264 × Option Unit) := do
  let (auDecoder, accessUnit) ← extractor.auDecoder.extract buffer
  let extractor := { extractor with auDecoder }
  match accessUnit with
  | none => return (extractor, none)
  | some accessUnit => return extractor.decodeUnits (h264.nalUnits accessUnit)

end ThumbnailExtractor

end Thumbnail

end SigmaMedia
