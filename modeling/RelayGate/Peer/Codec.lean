import RelayGate.Peer.Frame
import RelayGate.Protocol.Codec

/-!
# The Gateway–Gateway codec

The peer codec computes the length of a payload from the frame before it writes
the header, and then writes the payload straight behind it.
-/

namespace RelayGate.Peer

open Library

/-- Failures raised while encoding or decoding a peer frame. -/
inductive PeerCodecError
  | invalidMagic
  | unsupportedVersion (version : UInt8)
  | unknownFrameKind (kind : UInt8)
  | unknownEnum (name : String) (value : UInt8)
  | truncated (field : String)
  | invalidUtf8 (field : String)
  | invalidField (field : String)
  | fieldTooLong (field : String) (actual maximum : Nat)
  | trailingBytes (trailing : Nat)
  | frameTooLarge (actual maximum : Nat)
  | lengthOverflow
deriving DecidableEq, Repr

/-- Name a Gateway, unless the name is empty. -/
def PeerGatewayName.new (value : String) : Except PeerError PeerGatewayName :=
  if nonEmpty : value = "" then
    .error (.invalidArgument "peer Gateway name must not be empty")
  else
    .ok ⟨value, nonEmpty⟩

namespace PeerFrameCodec

def headerLen : Nat := 8

def maxStringLen : Nat := 65535

@[match_pattern]
def hello : UInt8 := 1

@[match_pattern]
def welcome : UInt8 := 2

@[match_pattern]
def handshakeRejected : UInt8 := 3

@[match_pattern]
def open_ : UInt8 := 4

@[match_pattern]
def opened : UInt8 := 5

@[match_pattern]
def failed : UInt8 := 6

@[match_pattern]
def data : UInt8 := 7

@[match_pattern]
def fin : UInt8 := 8

@[match_pattern]
def close : UInt8 := 9

@[match_pattern]
def reset : UInt8 := 10

@[match_pattern]
def ping : UInt8 := 11

@[match_pattern]
def pong : UInt8 := 12

/-! ## The length of a payload -/

def checkedAdd (left right : Nat) : Except PeerCodecError Nat :=
  Library.checkedAdd .lengthOverflow left right

def stringWireLen (field : String) (value : Text) : Except PeerCodecError Nat :=
  if maxStringLen < value.length then
    .error (.fieldTooLong field value.length maxStringLen)
  else
    checkedAdd 2 value.length

def handshakeWireLen (handshake : PeerHandshake) : Except PeerCodecError Nat := do
  let name ← stringWireLen "gateway_name" (utf8 handshake.gatewayName.text)
  checkedAdd name 64

/-- The kind of a frame and the length of its payload. -/
def frameMetadata : PeerFrame → Except PeerCodecError (UInt8 × Nat)
  | .hello handshake => return (hello, ← handshakeWireLen handshake)
  | .welcome handshake => return (welcome, ← handshakeWireLen handshake)
  | .handshakeRejected _ message =>
      return (handshakeRejected,
        ← checkedAdd 1 (← stringWireLen "message" (utf8 message)))
  | .open _ _ destination _ _ =>
      return (open_, ← checkedAdd 80 destination.canonicalKey.length)
  | .opened _ => return (opened, 8)
  | .failed _ _ _ message =>
      return (failed, ← checkedAdd 10 (← stringWireLen "message" (utf8 message)))
  | .data _ payload => return (data, ← checkedAdd 8 payload.length)
  | .fin _ => return (fin, 8)
  | .close _ => return (close, 8)
  | .reset _ _ message =>
      return (reset, ← checkedAdd 9 (← stringWireLen "message" (utf8 message)))
  | .ping _ => return (ping, 8)
  | .pong _ => return (pong, 8)

/-! ## Writing a payload -/

def putString (field : String) (value : Text) : ByteWriter PeerCodecError Unit :=
  ByteWriter.text (.fieldTooLong field value.length maxStringLen) value

def putU8 (value : UInt8) : ByteWriter PeerCodecError Unit :=
  ByteWriter.append [value]

def putU64 (value : Nat) : ByteWriter PeerCodecError Unit :=
  ByteWriter.append (bigEndian 8 value)

/-- The 16 bytes of an identifier. -/
def putUuid (uuid : Nat) : ByteWriter PeerCodecError Unit :=
  ByteWriter.append (bigEndian 16 uuid)

def putGatewayId (gatewayId : GatewayId) : ByteWriter PeerCodecError Unit :=
  putUuid gatewayId.uuid

def putSessionId (sessionId : SessionId) : ByteWriter PeerCodecError Unit :=
  putUuid sessionId.uuid

def putBindingId (bindingId : BindingId) : ByteWriter PeerCodecError Unit :=
  putUuid bindingId.uuid

def putPeerTransportId (peerTransportId : PeerTransportId) :
    ByteWriter PeerCodecError Unit :=
  putUuid peerTransportId.uuid

def putHandshake (handshake : PeerHandshake) : ByteWriter PeerCodecError Unit := do
  putString "gateway_name" (utf8 handshake.gatewayName.text)
  putGatewayId handshake.gatewayId
  putGatewayId handshake.expectedPeerGatewayId
  putGatewayId handshake.dialerGatewayId
  putPeerTransportId handshake.peerTransportId

def encodePayload : PeerFrame → ByteWriter PeerCodecError Unit
  | .hello handshake | .welcome handshake => putHandshake handshake
  | .handshakeRejected code message => do
      putU8 code.toWire
      putString "message" (utf8 message)
  | .open streamId openIdentity destination relaySessionId bindingId => do
      putU64 streamId.raw
      putGatewayId openIdentity.entryGateway
      putSessionId openIdentity.originSession
      putU64 openIdentity.connectionId
      ByteWriter.append destination.canonicalKey
      putSessionId relaySessionId
      putBindingId bindingId
  | .opened streamId | .fin streamId | .close streamId => putU64 streamId.raw
  | .failed streamId code observation message => do
      putU64 streamId.raw
      putU8 code.toWire
      putU8 observation.toWire
      putString "message" (utf8 message)
  | .data streamId payload => do
      putU64 streamId.raw
      ByteWriter.append payload
  | .reset streamId code message => do
      putU64 streamId.raw
      putU8 code.toWire
      putString "message" (utf8 message)
  | .ping nonce | .pong nonce => putU64 nonce

/-! ## Reading a payload -/

namespace PayloadReader

def u8 (field : String) : Reader PeerCodecError UInt8 :=
  Reader.byte (.truncated field)

def u64 (field : String) : Reader PeerCodecError Nat :=
  Reader.number 8 (.truncated field)

def string (field : String) : Reader PeerCodecError String :=
  Reader.text (.truncated field) (.invalidUtf8 field)

def nonEmptyString (field : String) : Reader PeerCodecError String :=
  Reader.parsed (string field) fun value =>
    if value = "" then .error (.invalidField field) else .ok value

def uuid (field : String) : Reader PeerCodecError Nat :=
  Reader.number 16 (.truncated field)

def gatewayId (field : String) : Reader PeerCodecError GatewayId := do
  return ⟨← uuid field⟩

def sessionId (field : String) : Reader PeerCodecError SessionId := do
  return ⟨← uuid field⟩

def bindingId : Reader PeerCodecError BindingId := do
  return ⟨← uuid "binding_id"⟩

def peerTransportId : Reader PeerCodecError PeerTransportId := do
  return ⟨← uuid "peer_transport_id"⟩

def streamId : Reader PeerCodecError StreamId := do
  return ⟨← u64 "stream_id"⟩

def gatewayName : Reader PeerCodecError PeerGatewayName :=
  Reader.parsed (nonEmptyString "gateway_name") fun value =>
    (PeerGatewayName.new value).mapError fun _ => .invalidField "gateway_name"

def handshake : Reader PeerCodecError PeerHandshake := do
  let gatewayName ← gatewayName
  return {
    gatewayName
    gatewayId := ← gatewayId "gateway_id"
    expectedPeerGatewayId := ← gatewayId "expected_peer_gateway_id"
    dialerGatewayId := ← gatewayId "dialer_gateway_id"
    peerTransportId := ← peerTransportId }

def errorCode : Reader PeerCodecError ErrorCode := do
  let value ← u8 "error_code"
  Reader.ofExcept (okOr (.unknownEnum "ErrorCode" value) (ErrorCode.fromWire value))

def observation : Reader PeerCodecError PeerObservation := do
  let value ← u8 "peer_observation"
  Reader.ofExcept
    (okOr (.unknownEnum "PeerObservation" value) (PeerObservation.fromWire value))

def scope : Reader PeerCodecError Namespace :=
  Reader.parsed (string "namespace") fun value =>
    (Namespace.new (utf8 value)).mapError fun _ => .invalidField "namespace"

def name : Reader PeerCodecError DestinationName :=
  Reader.parsed (string "name") fun value =>
    (DestinationName.new (utf8 value)).mapError fun _ => .invalidField "name"

/-- Nothing may be left. -/
def finish : Reader PeerCodecError Unit := fun input =>
  if input.length = 0 then .ok ((), []) else .error (.trailingBytes input.length)

end PayloadReader

open PayloadReader in
/-- Read the fields of an `open`. -/
def readOpen : Reader PeerCodecError PeerFrame := do
  let streamId ← streamId
  let entryGatewayId ← gatewayId "entry_gateway_id"
  let originSessionId ← sessionId "origin_session_id"
  let connectionId ← u64 "connection_id"
  let scope ← scope
  let name ← name
  let relaySessionId ← sessionId "relay_session_id"
  let bindingId ← bindingId
  return .open streamId ⟨entryGatewayId, originSessionId, connectionId⟩
    ⟨scope, name⟩ relaySessionId bindingId

open PayloadReader in
/-- Read the payload of a frame of the given kind. -/
def readFrame : UInt8 → Reader PeerCodecError PeerFrame
  | hello => return .hello (← handshake)
  | welcome => return .welcome (← handshake)
  | handshakeRejected => return .handshakeRejected (← errorCode) (← string "message")
  | open_ => readOpen
  | opened => return .opened (← streamId)
  | failed =>
      return .failed (← streamId) (← errorCode) (← observation)
        (← string "message")
  | data => return .data (← streamId) (← Reader.remaining)
  | fin => return .fin (← streamId)
  | close => return .close (← streamId)
  | reset => return .reset (← streamId) (← errorCode) (← string "message")
  | ping => return .ping (← u64 "nonce")
  | pong => return .pong (← u64 "nonce")
  | other => Reader.ofExcept (.error (.unknownFrameKind other))

/-- Decode a whole payload. -/
def decodePayload (kind : UInt8) (payload : Bytes) :
    Except PeerCodecError PeerFrame :=
  let reader : Reader PeerCodecError PeerFrame := do
    let frame ← readFrame kind
    PayloadReader.finish
    return frame
  (reader payload).map Prod.fst

end PeerFrameCodec

/-! ## The codec -/

/-- Length-delimited codec for peer frames. -/
structure PeerFrameCodec where
  maxFrameLen : Nat
deriving DecidableEq, Repr

namespace PeerFrameCodec

/-- The limit on a payload. -/
def validatePayloadLen (codec : PeerFrameCodec) (payloadLen : Nat) :
    Except PeerCodecError Unit :=
  if codec.maxFrameLen < payloadLen then
    .error (.frameTooLarge payloadLen codec.maxFrameLen)
  else do
    let _ ← u32TryFrom .lengthOverflow payloadLen
    return ()

/-- Whether the codec can encode a frame. -/
def validate (codec : PeerFrameCodec) (frame : PeerFrame) :
    Except PeerCodecError Unit := do
  let (_, payloadLen) ← frameMetadata frame
  codec.validatePayloadLen payloadLen

/-- The magic `GP`, the version, and what may follow. -/
def format (codec : PeerFrameCodec) : Format PeerCodecError PeerFrame where
  magic := (71, 80)
  version := 3
  invalidMagic := .invalidMagic
  unsupportedVersion := .unsupportedVersion
  checkLength payloadLen := do
    codec.validatePayloadLen payloadLen
    let _ ← checkedAdd headerLen payloadLen
    return ()
  decodePayload := decodePayload

/-- Append the bytes of a frame to the output. -/
def encode (codec : PeerFrameCodec) (frame : PeerFrame) :
    ByteWriter PeerCodecError Unit := do
  let (kind, payloadLen) ← ByteWriter.ofExcept (frameMetadata frame)
  ByteWriter.ofExcept (codec.validatePayloadLen payloadLen)
  let payloadLenWire ← ByteWriter.ofExcept (u32TryFrom .lengthOverflow payloadLen)
  let _ ← ByteWriter.ofExcept (checkedAdd headerLen payloadLen)
  ByteWriter.append (codec.format.header kind payloadLenWire)
  encodePayload frame

/-- Decode the frame at the front of the buffer, or ask for more. -/
def decode (codec : PeerFrameCodec) (source : Bytes) :
    Decoded PeerCodecError PeerFrame :=
  codec.format.decode source

end PeerFrameCodec

end RelayGate.Peer
