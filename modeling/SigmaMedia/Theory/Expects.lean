import SigmaMedia.Base.Avoids
import SigmaMedia.Core.Server

/-!
# Where Nothing Is Expected

The server relies on its registry in five places, by message. This module
clears away everything else a packet passes through: reading and answering a
binding request, a handshake, rewriting a header, showing a packet to the
thumbnail extractor. All of these may panic, none of them with a message of
the registry.

Most of them never call `expect`, and avoid every list of messages. The two
that do, answering and nominating, do so with messages of their own.

## Theorems

* `getStunPacket_avoids`, `createStunSuccess_avoids`: Binding requests.
* `readPacket_avoids`: Handshakes.
* `remapRtpHeader_avoids`, `watch_avoids`: Media.
* `stunResponse_avoids`, `nominate_avoids`: The two with messages of their own.
-/

namespace SigmaMedia

open Bytes Exec Net Rtp Sdp Stun Thumbnail

variable {messages : List String} {crates : Crates}

namespace Stun

theorem padTo4bytes_avoids {value : UInt16} : Avoids messages (padTo4bytes value) := by
  unfold padTo4bytes
  exact (avoids_ok _).ite (avoids_checkedAdd16.bind fun sum _ => avoids_ok _)

theorem decodeAttribute_avoids {attributeType : StunAttributeType} {valueBuffer : Bytes} :
    Avoids messages (decodeAttribute attributeType valueBuffer) := by
  unfold decodeAttribute
  split
  · exact (avoids_unwrap _).bind fun _ _ => (avoids_unwrap _).bind fun _ _ => avoids_ok _
  · split
    · exact avoids_ok _
    · exact avoids_index_error
  · exact avoids_ok _
  · exact avoids_ok _
  · exact avoids_ok _

theorem readAttribute_avoids {reader : Bytes} : Avoids messages (readAttribute reader) := by
  unfold readAttribute
  split
  · exact avoids_ok _
  · refine (avoids_unwrap _).bind fun length _ => ?_
    refine padTo4bytes_avoids.bind fun padded _ => ?_
    refine (avoids_unwrap _).bind fun value _ => ?_
    exact decodeAttribute_avoids.bind fun attr _ => avoids_ok _

theorem readAttributes_avoids (reader : Bytes) : Avoids messages (readAttributes reader) := by
  -- Over the turns of the loop.
  induction reader using readAttributes.induct with
  | case1 reader p hread =>
      rw [readAttributes, hread]
      have havoids : Avoids messages (readAttribute reader) := readAttribute_avoids
      intro m hm h
      cases h
      exact havoids m hm hread
  | case2 reader hread =>
      rw [readAttributes, hread]
      exact avoids_ok _
  | case3 reader attr rest hread ih =>
      rw [readAttributes, hread]
      exact ih.bind fun attributes _ => avoids_ok _

theorem parseStunPacket_avoids {packet : Bytes} : Avoids messages (parseStunPacket packet) := by
  unfold parseStunPacket
  refine (avoids_ok _).ite ?_
  split
  · exact avoids_ok _
  · refine (avoids_ok _).ite ?_
    split
    · exact avoids_ok _
    · refine (avoids_ok _).ite ?_
      split
      · exact avoids_ok _
      · exact (avoids_ok _).ite ((readAttributes_avoids _).bind fun _ _ => avoids_ok _)

theorem getStunPacket_avoids {data : Bytes} : Avoids messages (getStunPacket data) :=
  parseStunPacket_avoids.bind fun _ _ => avoids_ok _

theorem xorRange_avoids {target mask : Bytes} : Avoids messages (xorRange target mask) :=
  avoids_mapM fun _ => avoids_index.bind fun _ _ => avoids_index.bind fun _ _ => avoids_ok _

theorem computeXorMappedAddress_avoids {remote : SocketAddr}
    {transactionId : ByteArr stunTransactionIdLen} :
    Avoids messages (computeXorMappedAddress remote transactionId) := by
  unfold computeXorMappedAddress
  split
  · exact xorRange_avoids.bind fun _ _ => avoids_ok _
  · exact xorRange_avoids.bind fun _ _ => avoids_ok _

theorem writeMappedAddressAttribute_avoids {scratch : Nat} {remote : SocketAddr} :
    Avoids messages (writeMappedAddressAttribute scratch remote) := by
  unfold writeMappedAddressAttribute
  exact (avoids_unwrapOk _).bind fun _ _ => (avoids_unwrapOk _).bind fun _ _ => avoids_sliceTo

theorem writeUsernameAttribute_avoids {scratch : Nat} {credentials : ICECredentials} :
    Avoids messages (writeUsernameAttribute scratch credentials) := by
  unfold writeUsernameAttribute
  refine (avoids_unwrapOk _).bind fun writer₁ _ => ?_
  refine (avoids_unwrapOk _).bind fun writer₂ _ => ?_
  refine padTo4bytes_avoids.bind fun padded _ => ?_
  split
  · exact (avoids_unwrapOk _).bind fun _ _ => (avoids_unwrapOk _).bind fun _ _ => avoids_ok _
  · exact (avoids_ok _).bind fun _ _ => (avoids_unwrapOk _).bind fun _ _ => avoids_ok _

theorem createStunSuccess_avoids {digests : Digests} {credentials : ICECredentials}
    {transactionId : ByteArr stunTransactionIdLen} {remote : SocketAddr} {buffer : Bytes} :
    Avoids messages (createStunSuccess digests credentials transactionId remote buffer) := by
  -- One stage after another.
  unfold createStunSuccess
  refine avoids_sliceTo.bind fun _ _ => ?_
  refine avoids_sliceFrom.bind fun attributes _ => ?_
  refine writeUsernameAttribute_avoids.bind fun username _ => ?_
  refine avoids_sliceTo.bind fun usernameAttribute _ => ?_
  refine computeXorMappedAddress_avoids.bind fun xorAttr _ => ?_
  refine writeMappedAddressAttribute_avoids.bind fun mappedAddress _ => ?_
  simp only []
  split
  · exact avoids_ok _
  · refine avoids_checkedAdd16.bind fun finalLength _ => ?_
    refine avoids_sliceTo.bind fun covered _ => ?_
    exact avoids_sliceFrom.bind fun _ _ => avoids_sliceFrom.bind fun _ _ => avoids_ok _

end Stun

namespace Rtp

theorem getRtpHeaderData_avoids {buffer : Bytes} : Avoids messages (getRtpHeaderData buffer) := by
  unfold getRtpHeaderData
  refine avoids_index.bind fun firstByte _ => ?_
  exact avoids_slice.bind fun _ _ => (avoids_unwrap _).bind fun _ _ => avoids_ok _

theorem remapRtpHeader_avoids {buffer : Bytes} {streamer viewer : NegotiatedSession} :
    Avoids messages (remapRtpHeader buffer streamer viewer) := by
  unfold remapRtpHeader
  refine getRtpHeaderData_avoids.bind fun header _ => ?_
  exact avoids_store.bind fun _ _ => avoids_storeSlice

end Rtp

namespace Thumbnail

theorem getNalPacket_avoids {input : Bytes} : Avoids messages (getNalPacket input) := by
  unfold getNalPacket
  refine avoids_index.bind fun header _ => ?_
  split
  · exact avoids_ok _
  · split
    · exact avoids_ok _
    · refine avoids_index.bind fun fragmentation _ => ?_
      split
      · exact avoids_ok _
      · exact avoids_sliceFrom.bind fun _ _ => avoids_ok _
    · exact avoids_ok _

theorem decodeNalUnit_avoids {decoder : NALDecoder} {packet : RTPPacket} :
    Avoids messages (decoder.decodeNalUnit packet) := by
  unfold NALDecoder.decodeNalUnit
  refine getNalPacket_avoids.bind fun nal _ => ?_
  split
  · exact avoids_ok _
  · exact avoids_ok _
  · split
    · exact avoids_ok _
    · exact avoids_ok _
    · exact avoids_ok _

theorem getNal_avoids {decoder : AccessUnitDecoder} {packet : RTPPacket} :
    Avoids messages (decoder.getNal packet) := by
  unfold AccessUnitDecoder.getNal
  refine (avoids_ok _).ite ((avoids_ok _).ite ?_)
  exact decodeNalUnit_avoids.bind fun _ _ => (avoids_ok _).ite (avoids_ok _)

theorem processPacket_avoids {decoder : AccessUnitDecoder} {packet : RTPPacket} :
    Avoids messages (decoder.processPacket packet) := by
  unfold AccessUnitDecoder.processPacket
  refine (avoids_ok _).ite ?_
  refine getNal_avoids.bind ?_
  rintro ⟨decoder', result⟩ _
  -- Past the checks only the first byte of a unit is indexed.
  cases result with
  | error e => exact avoids_ok _
  | ok buff =>
      cases buff with
      | none => exact (avoids_ok _).bind fun _ _ => (avoids_ok _).ite (avoids_ok _)
      | some nal =>
          refine avoids_index.bind fun header _ => ?_
          exact (avoids_ok _).bind fun _ _ => (avoids_ok _).ite (avoids_ok _)

theorem tryExtractThumbnail_avoids {h264 : H264} {extractor : ThumbnailExtractor h264}
    {buffer : Bytes} : Avoids messages (extractor.tryExtractThumbnail buffer) := by
  have hextract : Avoids messages (extractor.auDecoder.extract buffer) := by
    unfold AccessUnitDecoder.extract
    split
    · exact avoids_ok _
    · exact processPacket_avoids
  unfold ThumbnailExtractor.tryExtractThumbnail
  refine hextract.bind ?_
  rintro ⟨auDecoder, accessUnit⟩ _
  cases accessUnit with
  | none => exact avoids_ok _
  | some unit => exact avoids_ok _

end Thumbnail

theorem Client.readPacket_avoids {client : Client crates.dtls} {packet : Bytes} :
    Avoids messages (client.readPacket packet) := by
  unfold Client.readPacket
  split
  · simp only []
    split
    · exact (avoids_unwrap _).bind fun _ _ => avoids_ok _
    · exact avoids_ok _
    · exact avoids_ok _
    · exact avoids_ok _
  · exact avoids_ok _
  · exact avoids_ok _

theorem Client.new_avoids {remote : SocketAddr} :
    Avoids messages (Client.new crates.dtls remote) := by
  unfold Client.new
  simp only []
  split
  · exact avoids_error fun _ h => by cases h
  · exact avoids_ok _
  · exact avoids_error fun _ h => by cases h
  · exact avoids_ok _

namespace UDPServer

theorem stunResponse_avoids {message : String} (hmessage : message ∉ messages)
    {mediaSession : NegotiatedSession} {packet : ICEStunPacket} {remote : SocketAddr} :
    Avoids messages (stunResponse crates message mediaSession packet remote) := by
  unfold stunResponse
  refine createStunSuccess_avoids.bind fun result _ => ?_
  refine (avoids_expectOk_of_notMem hmessage _).bind fun written _ => ?_
  exact avoids_sliceTo.bind fun _ _ => avoids_ok _

theorem nominate_avoids (hmessage : "Should create a Client" ∉ messages)
    {server : UDPServer crates} {remote : SocketAddr} {id : ResourceID}
    {session : Session crates} : Avoids messages (server.nominate remote id session) := by
  unfold nominate
  refine Avoids.ite ?_ (avoids_ok _)
  refine Client.new_avoids.bind fun result _ => ?_
  exact (avoids_expectOk_of_notMem hmessage _).bind fun _ _ => avoids_ok _

theorem watch_avoids {streamer : Streamer crates} {session : Session crates} {packet : Bytes} :
    Avoids messages (watch streamer session packet) := by
  unfold watch
  refine getRtpHeaderData_avoids.bind fun header _ => ?_
  exact Avoids.ite (tryExtractThumbnail_avoids.bind fun _ _ => avoids_ok _) (avoids_ok _)

end UDPServer

end SigmaMedia
