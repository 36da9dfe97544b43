import SigmaMedia.Base.BufWriter
import SigmaMedia.Core.Sdp.Resolver

/-!
# STUN Binding Requests and Responses

Reading a binding request out of a datagram, and writing the success response
to it.

The reader checks the header, then takes attributes off the datagram until it
runs dry. The header's length is checked against the datagram and not used
again: the attribute loop is bounded by the datagram alone. Inside the loop a
short read, a value that is not text, a username without a colon and an
integrity value below twenty bytes all panic, where the header reads return
nothing.

The writer assembles five attributes. Three go through a buffered writer, and
the integrity attribute is computed over what that buffer holds. The
fingerprint is computed over the finished bytes and written past them.

The keyed hash and the checksum are the two operations that come from outside
the repository. `Digests` holds them, with the one fact used: a hash is twenty
bytes.

## Main definitions

* `SessionUsername`: The pair a binding request names a session by.
* `StunAttribute`, `StunBindingRequest`: A decoded request.
* `padTo4bytes`: A 16-bit length rounded up, with its overflow.
* `readAttribute`, `readAttributes`: One turn of the attribute loop, and all.
* `parseStunPacket`, `parseBindingRequest`, `getStunPacket`: The reader.
* `Digests`: The keyed hash and the checksum.
* `createStunSuccess`: The writer.
-/

namespace SigmaMedia

namespace Stun

open Bytes Exec Net Sdp Text

/-- The length of a digest in an integrity attribute. -/
def stunMessageIntegrityLen : Nat := 20

/-- And of the attribute around it. -/
def stunMessageIntegrityAttributeLen : Nat := 24

/-- The length of a transaction id. -/
def stunTransactionIdLen : Nat := 12

/-- The length of a header. -/
def stunHeaderLen : Nat := 20

/-- The cookie in every header. -/
def stunCookie : UInt32 := 0x2112a442

/-- The pair of usernames a binding request names a session by. -/
structure SessionUsername where
  remote : Text
  host : Text
  deriving DecidableEq

/-- The types of attribute. -/
inductive StunAttributeType where
  | mappedAddress
  | username
  | messageIntegrity
  | iceControlling
  | useCandidate
  | xorMappedAddress
  | fingerprint
  | unknown
  deriving DecidableEq, Repr

/-- The key of an attribute type on the wire. -/
def StunAttributeType.key : StunAttributeType → UInt16
  | .mappedAddress => 0x1
  | .username => 0x6
  | .messageIntegrity => 0x8
  | .iceControlling => 0x802a
  | .useCandidate => 0x25
  | .xorMappedAddress => 0x020
  | .fingerprint => 0x8028
  | .unknown => 0x8029

/-- The attribute types the reader tells apart. -/
def StunAttributeType.ofKey (key : UInt16) : StunAttributeType :=
  if key = 0x6 then .username
  else if key = 0x8 then .messageIntegrity
  else if key = 0x802a then .iceControlling
  else if key = 0x25 then .useCandidate
  else .unknown

/-- The types of message. -/
inductive StunType where
  | bindingRequest
  | successResponse
  deriving DecidableEq, Repr

/-- The key of a message type on the wire. -/
def StunType.key : StunType → UInt16
  | .bindingRequest => 0x0001
  | .successResponse => 0x0101

/-- A decoded attribute. Of some only the presence is kept. -/
inductive StunAttribute where
  | unknown
  | messageIntegrity (value : ByteArr stunMessageIntegrityLen)
  | username (value : SessionUsername)
  | iceControlling
  | useCandidate
  deriving DecidableEq

/-- A binding request, with its attributes in order. -/
structure StunBindingRequest where
  attributes : List StunAttribute
  transactionId : ByteArr stunTransactionIdLen
  deriving DecidableEq

/-- What a binding request has to carry to be one of ICE. -/
structure ICEStunPacket where
  usernameAttribute : SessionUsername
  messageIntegrity : ByteArr stunMessageIntegrityLen
  transactionId : ByteArr stunTransactionIdLen
  deriving DecidableEq

/-- A binding request without the nomination flag, or with it. -/
inductive ICEStunMessageType where
  | liveCheck (packet : ICEStunPacket)
  | nomination (packet : ICEStunPacket)
  deriving DecidableEq

/-- Round a 16-bit length up to a multiple of four. The sum is formed before
    the remainder is taken off, so the last three lengths overflow. -/
def padTo4bytes (value : UInt16) : Exec UInt16 :=
  let modulo := value % 4
  if modulo = 0 then .ok value
  else do
    let sum ← checkedAdd16 value 4
    return sum - modulo

/-- The value of one attribute, by its type. -/
def decodeAttribute (attributeType : StunAttributeType) (valueBuffer : Bytes) :
    Exec StunAttribute :=
  match attributeType with
  | .username => do
      let usernameString ← unwrap (fromUtf8 valueBuffer)
      let (hostUsername, remoteUsername) ← unwrap (splitOnce ":".toList usernameString)
      -- Padding is still part of the value here; trailing null characters go.
      return .username { host := hostUsername.rdropWhile (· = '\x00'),
                         remote := remoteUsername.rdropWhile (· = '\x00') }
  | .messageIntegrity =>
      if h : stunMessageIntegrityLen ≤ valueBuffer.length then
        .ok (.messageIntegrity ⟨valueBuffer.take stunMessageIntegrityLen,
          List.length_take_of_le h⟩)
      else .error .index
  | .iceControlling => .ok .iceControlling
  | .useCandidate => .ok .useCandidate
  | _ => .ok .unknown

/-- One turn of the attribute loop: nothing when the reader is dry. -/
def readAttribute (reader : Bytes) : Exec (Option (StunAttribute × Bytes)) :=
  match readU16 reader with
  | none => .ok none
  | some (attributeTypeKey, reader) => do
      let (length, reader) ← unwrap (readU16 reader)
      let length ← padTo4bytes length
      let (valueBuffer, reader) ← unwrap (readExact length.toNat reader)
      let attr ← decodeAttribute (StunAttributeType.ofKey attributeTypeKey) valueBuffer
      return some (attr, reader)

theorem readAttribute_length {reader rest : Bytes} {attr : StunAttribute}
    (h : readAttribute reader = .ok (some (attr, rest))) : rest.length < reader.length := by
  unfold readAttribute at h
  rcases hk : readU16 reader with _ | ⟨key, r₁⟩
  · rw [hk] at h
    cases h
  · simp only [hk, bind_eq_ok, Prod.exists, unwrap_eq_ok, pure_eq_ok, Except.ok.injEq,
      Option.some.injEq, Prod.mk.injEq] at h
    rcases h with ⟨len, r₂, hl, pad, _, value, r₃, hv, a, _, rfl, rfl⟩
    rw [readU16_eq_some] at hk hl
    rw [readExact_eq_some] at hv
    rw [hk, hl, hv.2]
    simp only [List.length_append, length_be16]
    omega

/-- The attribute loop, until the reader runs dry. -/
def readAttributes (reader : Bytes) : Exec (List StunAttribute) :=
  match _h : readAttribute reader with
  | .error p => .error p
  | .ok none => .ok []
  | .ok (some (attr, rest)) => do
      let attributes ← readAttributes rest
      return attr :: attributes
termination_by reader.length
decreasing_by exact readAttribute_length _h

/-- A binding request, if the header says that it is one. -/
def parseStunPacket (packet : Bytes) : Exec (Option StunBindingRequest) :=
  if packet.length < stunHeaderLen then .ok none
  else
    match readU16 packet with
    | none => .ok none
    | some (messageType, reader) =>
    if messageType ≠ StunType.bindingRequest.key then .ok none
    else
      match readU16 reader with
      | none => .ok none
      | some (length, reader) =>
      if length % 4 ≠ 0 ∨ packet.length < stunHeaderLen + length.toNat then .ok none
      else
        match readU32 reader with
        | none => .ok none
        | some (magicCookie, reader) =>
        if magicCookie ≠ stunCookie then .ok none
        else do
          let (transactionId, reader) := readInto stunTransactionIdLen reader
          let attributes ← readAttributes reader
          return some { transactionId, attributes }

/-- What a binding request asks for, by its first attribute of each kind. -/
def parseBindingRequest (stunMessage : StunBindingRequest) : Option ICEStunMessageType := do
  let messageIntegrity ← stunMessage.attributes.findSome? fun
    | .messageIntegrity integrity => some integrity
    | _ => none
  let nominateFlag := stunMessage.attributes.findSome? fun
    | .useCandidate => some ()
    | _ => none
  let sessionUsername ← stunMessage.attributes.findSome? fun
    | .username username => some username
    | _ => none
  let packet : ICEStunPacket :=
    { messageIntegrity, usernameAttribute := sessionUsername,
      transactionId := stunMessage.transactionId }
  match nominateFlag with
  | none => some (.liveCheck packet)
  | some _ => some (.nomination packet)

/-- The ICE message in a datagram, if it is one. -/
def getStunPacket (data : Bytes) : Exec (Option ICEStunMessageType) := do
  let request ← parseStunPacket data
  return request.bind parseBindingRequest

/-- The keyed hash and the checksum, from the crates that provide them. -/
structure Digests where
  hmacSha1 : (key message : Bytes) → ByteArr 20
  crc32 : Bytes → UInt32

/-- Xor a block with a mask, byte by byte. -/
def xorRange (target mask : Bytes) : Exec Bytes :=
  (List.range target.length).mapM fun i => do
    let t ← index target i
    let m ← index mask i
    return t ^^^ m

/-- The body shared by both address families: type, length, family, port,
    address. -/
def addressAttribute (attributeType : StunAttributeType) (length : UInt16) (family : UInt8)
    (port : UInt16) (address : Bytes) : Bytes :=
  be16 attributeType.key ++ be16 length ++ [0, family] ++ be16 port ++ address

/-- The xor-mapped address attribute: port and address under the cookie, and a
    longer address under the transaction id as well. -/
def computeXorMappedAddress (remote : SocketAddr)
    (transactionId : ByteArr stunTransactionIdLen) : Exec Bytes :=
  match remote with
  | .v4 ip port => do
      let maskedPort := port ^^^ (stunCookie >>> 16).toUInt16
      let maskedAddress ← xorRange ip.val (be32 stunCookie)
      return addressAttribute .xorMappedAddress 8 0x01 maskedPort maskedAddress
  | .v6 ip port _ _ => do
      let maskedPort := port ^^^ (stunCookie >>> 16).toUInt16
      let maskedAddress ← xorRange ip.val (be32 stunCookie ++ transactionId.val)
      return addressAttribute .xorMappedAddress 20 0x02 maskedPort maskedAddress

/-- The mapped address attribute, written through a buffered writer into a
    scratch array of the given length: what the buffer held before the
    flush. -/
def writeMappedAddressAttribute (scratch : Nat) (remote : SocketAddr) : Exec Bytes := do
  let writer := BufWriter.new scratch
  let attr := match remote with
    | .v4 ip port => addressAttribute .mappedAddress 0x8 0x01 port ip.val
    | .v6 ip port _ _ => addressAttribute .mappedAddress 0x14 0x2 port ip.val
  let writer ← unwrapOk (writer.write attr)
  let bytesWritten := writer.buffer.length
  let writer ← unwrapOk writer.flush
  sliceTo (writer.filled (List.replicate scratch 0)) bytesWritten

/-- The username attribute, written through a buffered writer into a scratch
    array of the given length. The value is written only when padding has to
    be added to it. -/
def writeUsernameAttribute (scratch : Nat) (credentials : ICECredentials) :
    Exec (Nat × Bytes) := do
  let writer := BufWriter.new scratch
  let writer ← unwrapOk (writer.write (be16 StunAttributeType.username.key))
  let username := credentials.hostUsername ++ ":".toList ++ credentials.remoteUsername
  let usernameLen := (utf8 username).length
  let writer ← unwrapOk (writer.write (be16 (UInt16.ofNat usernameLen)))
  let paddedLength ← padTo4bytes (UInt16.ofNat usernameLen)
  let writer ←
    if usernameLen < paddedLength.toNat then
      let username := username ++ List.replicate (paddedLength.toNat - usernameLen) '\x00'
      unwrapOk (writer.write (utf8 username))
    else .ok writer
  let buffLen := writer.buffer.length
  let writer ← unwrapOk writer.flush
  return (buffLen, writer.filled (List.replicate scratch 0))

/-- The integrity attribute over the header and the attributes so far. -/
def writeMessageIntegrityAttribute (digests : Digests) (header attributes : Bytes) (key : Text) :
    Bytes :=
  be16 StunAttributeType.messageIntegrity.key ++ be16 20
    ++ (digests.hmacSha1 (utf8 key) (header ++ attributes)).val

/-- The header of a success response. -/
def successHeader (messageLength : UInt16) (transactionId : ByteArr stunTransactionIdLen) : Bytes :=
  be16 StunType.successResponse.key ++ be16 messageLength ++ be32 stunCookie ++ transactionId.val

/-- The four attributes before the fingerprint, through a buffered writer over
    a slice of the given length. Any of the writes and the flush may fail. -/
def writeAttributes (digests : Digests) (length : Nat)
    (header username xorAddress mappedAddress : Bytes) (key : Text) :
    Except IoError BufWriter := do
  let writer := BufWriter.new length
  let writer ← writer.write username
  let writer ← writer.write xorAddress
  let writer ← writer.write mappedAddress
  let writer ← writer.write (writeMessageIntegrityAttribute digests header writer.buffer key)
  writer.flush

/-- Write a success response into the buffer: the number of bytes written and
    the buffer afterwards, or the error of the buffered writer. -/
def createStunSuccess (digests : Digests) (credentials : ICECredentials)
    (transactionId : ByteArr stunTransactionIdLen) (remote : SocketAddr) (buffer : Bytes) :
    Exec (Except IoError (Nat × Bytes)) := do
  let _ ← sliceTo buffer 20
  let attributes ← sliceFrom buffer 20
  let (usernameAttrLength, usernameScratch) ← writeUsernameAttribute 120 credentials
  let usernameAttribute ← sliceTo usernameScratch usernameAttrLength
  let xorAttr ← computeXorMappedAddress remote transactionId
  let mappedAddressAttribute ← writeMappedAddressAttribute 24 remote
  let messageLength := xorAttr.length + stunMessageIntegrityAttributeLen + usernameAttrLength
    + mappedAddressAttribute.length
  let header := successHeader (UInt16.ofNat messageLength) transactionId
  match writeAttributes digests attributes.length header usernameAttribute xorAttr
      mappedAddressAttribute credentials.hostPassword with
  | .error e => return .error e
  | .ok writer =>
      let finalLength ← checkedAdd16 (UInt16.ofNat messageLength) 8
      let header := successHeader finalLength transactionId
      let buffer := header ++ writer.filled attributes
      let covered ← sliceTo buffer (20 + messageLength)
      let fingerprint := digests.crc32 covered ^^^ 0x5354554e
      let fingerprintAttribute :=
        be16 StunAttributeType.fingerprint.key ++ be16 0x4 ++ be32 fingerprint
      let rest ← sliceFrom buffer (stunHeaderLen + messageLength)
      let rest ← sliceFrom rest fingerprintAttribute.length
      return .ok (stunHeaderLen + messageLength + 8, covered ++ fingerprintAttribute ++ rest)

end Stun

end SigmaMedia
