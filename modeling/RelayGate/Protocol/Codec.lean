import RelayGate.Library.Framing
import RelayGate.Protocol.Frame

/-!
# The SDK–Gateway codec

How a frame is written behind an eight-byte header and how a growing buffer is
taken apart again.  The payload reader keeps the bytes still to be read; the
payload writer appends to its output, also when it fails half-way.
-/

namespace RelayGate

open Library

variable {value : UInt8}

/-! ## Wire numbers of the enumerations -/

/-- The wire byte of an error code. -/
def ErrorCode.toWire : ErrorCode → UInt8
  | .invalidArgument => 1
  | .unauthenticated => 2
  | .permissionDenied => 3
  | .notFound => 4
  | .failedPrecondition => 5
  | .unavailable => 6
  | .deadlineExceeded => 7
  | .resourceExhausted => 8
  | .cancelled => 9
  | .protocolError => 10
  | .internal => 11
  | .alreadyExists => 12

/-- The error code a wire byte stands for. -/
def ErrorCode.fromWire : UInt8 → Option ErrorCode
  | 1 => some .invalidArgument
  | 2 => some .unauthenticated
  | 3 => some .permissionDenied
  | 4 => some .notFound
  | 5 => some .failedPrecondition
  | 6 => some .unavailable
  | 7 => some .deadlineExceeded
  | 8 => some .resourceExhausted
  | 9 => some .cancelled
  | 10 => some .protocolError
  | 11 => some .internal
  | 12 => some .alreadyExists
  | _ => none

/-- The wire byte of an observation. -/
def PeerObservation.toWire : PeerObservation → UInt8
  | .notObserved => 1
  | .maybeObserved => 2
  | .observed => 3

/-- The observation a wire byte stands for. -/
def PeerObservation.fromWire : UInt8 → Option PeerObservation
  | 1 => some .notObserved
  | 2 => some .maybeObserved
  | 3 => some .observed
  | _ => none

@[simp]
theorem ErrorCode.fromWire_eq_some_iff {code : ErrorCode} :
    ErrorCode.fromWire value = some code ↔ value = code.toWire := by
  constructor
  · intro found
    unfold fromWire at found
    split at found <;> cases found <;> rfl
  · rintro rfl
    cases code <;> rfl

@[simp]
theorem PeerObservation.fromWire_eq_some_iff {observation : PeerObservation} :
    PeerObservation.fromWire value = some observation ↔ value = observation.toWire := by
  constructor
  · intro found
    unfold fromWire at found
    split at found <;> cases found <;> rfl
  · rintro rfl
    cases observation <;> rfl

/-! ## Failures -/

/-- Failures raised while encoding or decoding an SDK–Gateway frame. -/
inductive ProtocolError
  | frameTooLarge (actual maximum : Nat)
  | unsupportedVersion (version : UInt8)
  | invalidMagic
  | unknownFrameKind (kind : UInt8)
  | unknownEnum (name : String) (value : UInt8)
  | truncated (field : String)
  | invalidUtf8 (field : String)
  | invalidDestination
  | fieldTooLong (field : String) (actual maximum : Nat)
  | trailingBytes (trailing : Nat)
  | lengthOverflow
deriving DecidableEq, Repr

/-- Create a token when its length is within the wire limit. -/
def BearerToken.new (value : String) : Except ProtocolError BearerToken :=
  if bounded : value.utf8ByteSize ≤ maxBearerTokenBytes then
    .ok ⟨value, bounded⟩
  else
    .error (.fieldTooLong "access_token" value.utf8ByteSize maxBearerTokenBytes)

@[simp]
theorem BearerToken.new_eq_ok_iff {value : String} {token : BearerToken} :
    BearerToken.new value = .ok token ↔ value = token.secret := by
  cases token with
  | mk secret bounded =>
    unfold BearerToken.new
    constructor
    · intro made
      split at made <;> cases made
      rfl
    · rintro rfl
      exact dif_pos bounded

/-! ## Writing a payload -/

namespace FrameCodec

def headerLen : Nat := 8

def pipeIdWireLen : Nat := 24

def maxStringLen : Nat := 65535

def putString (field : String) (value : Text) : ByteWriter ProtocolError Unit :=
  ByteWriter.text (.fieldTooLong field value.length maxStringLen) value

def putU8 (value : UInt8) : ByteWriter ProtocolError Unit :=
  ByteWriter.append [value]

def putU64 (value : Nat) : ByteWriter ProtocolError Unit :=
  ByteWriter.append (bigEndian 8 value)

def putSessionId (sessionId : SessionId) : ByteWriter ProtocolError Unit :=
  ByteWriter.append (bigEndian 16 sessionId.uuid)

def putBindingId (bindingId : BindingId) : ByteWriter ProtocolError Unit :=
  ByteWriter.append (bigEndian 16 bindingId.uuid)

def putDestination (destination : Destination) : ByteWriter ProtocolError Unit := do
  putString "namespace" destination.scope.text
  putString "name" destination.name.text

def putPipeId (pipeId : PipeId) : ByteWriter ProtocolError Unit := do
  putSessionId pipeId.originSessionId
  putU64 pipeId.connectionId

/-- Write the payload of a frame and return the kind of the frame. -/
def encodePayload : Frame → ByteWriter ProtocolError UInt8
  | .hello => return 1
  | .welcome sessionId => do
      putSessionId sessionId
      return 2
  | .sessionRejected code message => do
      putU8 code.toWire
      putString "message" (utf8 message)
      return 3
  | .publish requestId destination accessToken => do
      putU64 requestId
      putDestination destination
      putString "access_token" (utf8 accessToken.secret)
      return 4
  | .published requestId bindingId => do
      putU64 requestId
      putBindingId bindingId
      return 5
  | .publishFailed requestId code message => do
      putU64 requestId
      putU8 code.toWire
      putString "message" (utf8 message)
      return 6
  | .unpublish requestId bindingId => do
      putU64 requestId
      putBindingId bindingId
      return 7
  | .unpublished requestId => do
      putU64 requestId
      return 8
  | .dial connectionId destination accessToken => do
      putU64 connectionId
      putDestination destination
      putString "access_token" (utf8 accessToken.secret)
      return 9
  | .offer pipeId bindingId destination => do
      putPipeId pipeId
      putBindingId bindingId
      putDestination destination
      return 10
  | .offerAccepted pipeId => do
      putPipeId pipeId
      return 11
  | .offerRejected pipeId code message => do
      putPipeId pipeId
      putU8 code.toWire
      putString "message" (utf8 message)
      return 12
  | .opened pipeId => do
      putPipeId pipeId
      return 13
  | .dialFailed connectionId code observation message => do
      putU64 connectionId
      putU8 code.toWire
      putU8 observation.toWire
      putString "message" (utf8 message)
      return 14
  | .data pipeId payload => do
      putPipeId pipeId
      ByteWriter.append payload
      return 15
  | .fin pipeId => do
      putPipeId pipeId
      return 16
  | .close pipeId => do
      putPipeId pipeId
      return 17
  | .reset pipeId code message => do
      putPipeId pipeId
      putU8 code.toWire
      putString "message" (utf8 message)
      return 18
  | .ping nonce => do
      putU64 nonce
      return 19
  | .pong nonce => do
      putU64 nonce
      return 20
  | .cancel pipeId => do
      putPipeId pipeId
      return 21

/-! ## Reading a payload -/

namespace PayloadReader

def u8 (field : String) : Reader ProtocolError UInt8 :=
  Reader.byte (.truncated field)

def u16 (field : String) : Reader ProtocolError Nat :=
  Reader.number 2 (.truncated field)

def u64 (field : String) : Reader ProtocolError Nat :=
  Reader.number 8 (.truncated field)

def string (field : String) : Reader ProtocolError String :=
  Reader.text (.truncated field) (.invalidUtf8 field)

def uuid (field : String) : Reader ProtocolError Nat :=
  Reader.number 16 (.truncated field)

def sessionId : Reader ProtocolError SessionId := do
  return ⟨← uuid "session_id"⟩

def bindingId : Reader ProtocolError BindingId := do
  return ⟨← uuid "binding_id"⟩

def destination : Reader ProtocolError Destination := do
  let scope ← Reader.parsed (string "namespace") fun value =>
    (Namespace.new (utf8 value)).mapError fun _ => .invalidDestination
  let name ← Reader.parsed (string "name") fun value =>
    (DestinationName.new (utf8 value)).mapError fun _ => .invalidDestination
  return ⟨scope, name⟩

def accessToken : Reader ProtocolError BearerToken := do
  let length ← u16 "access_token"
  Reader.ofExcept
    (if maxBearerTokenBytes < length then
      .error (.fieldTooLong "access_token" length maxBearerTokenBytes)
    else .ok ())
  let bytes ← Reader.take length (.truncated "access_token")
  let value ← Reader.ofExcept
    (okOr (.invalidUtf8 "access_token") (fromUtf8 bytes))
  Reader.ofExcept (BearerToken.new value)

def pipeId : Reader ProtocolError PipeId := do
  let originSessionId ← sessionId
  let connectionId ← u64 "connection_id"
  return ⟨originSessionId, connectionId⟩

def errorCode : Reader ProtocolError ErrorCode := do
  let value ← u8 "error_code"
  Reader.ofExcept (okOr (.unknownEnum "ErrorCode" value) (ErrorCode.fromWire value))

def observation : Reader ProtocolError PeerObservation := do
  let value ← u8 "peer_observation"
  Reader.ofExcept
    (okOr (.unknownEnum "PeerObservation" value) (PeerObservation.fromWire value))

/-- Nothing may be left. -/
def finish : Reader ProtocolError Unit := fun input =>
  if input.length = 0 then .ok ((), []) else .error (.trailingBytes input.length)

end PayloadReader

open PayloadReader in
/-- Read the payload of a frame of the given kind. -/
def readFrame : UInt8 → Reader ProtocolError Frame
  | 1 => return .hello
  | 2 => return .welcome (← sessionId)
  | 3 => return .sessionRejected (← errorCode) (← string "message")
  | 4 => return .publish (← u64 "request_id") (← destination) (← accessToken)
  | 5 => return .published (← u64 "request_id") (← bindingId)
  | 6 =>
      return .publishFailed (← u64 "request_id") (← errorCode) (← string "message")
  | 7 => return .unpublish (← u64 "request_id") (← bindingId)
  | 8 => return .unpublished (← u64 "request_id")
  | 9 => return .dial (← u64 "connection_id") (← destination) (← accessToken)
  | 10 => return .offer (← pipeId) (← bindingId) (← destination)
  | 11 => return .offerAccepted (← pipeId)
  | 12 => return .offerRejected (← pipeId) (← errorCode) (← string "message")
  | 13 => return .opened (← pipeId)
  | 14 =>
      return .dialFailed (← u64 "connection_id") (← errorCode) (← observation)
        (← string "message")
  | 15 => return .data (← pipeId) (← Reader.remaining)
  | 16 => return .fin (← pipeId)
  | 17 => return .close (← pipeId)
  | 18 => return .reset (← pipeId) (← errorCode) (← string "message")
  | 19 => return .ping (← u64 "nonce")
  | 20 => return .pong (← u64 "nonce")
  | 21 => return .cancel (← pipeId)
  | other => Reader.ofExcept (.error (.unknownFrameKind other))

/-- Decode a whole payload. -/
def decodePayload (kind : UInt8) (payload : Bytes) : Except ProtocolError Frame :=
  let reader : Reader ProtocolError Frame := do
    let frame ← readFrame kind
    PayloadReader.finish
    return frame
  (reader payload).map Prod.fst

end FrameCodec

/-! ## The codec -/

/-- Length-delimited codec for SDK–Gateway frames.  The limit applies to the
payload and excludes the header. -/
structure FrameCodec where
  maxFrameLen : Nat
deriving DecidableEq, Repr

namespace FrameCodec

/-- The limit on a payload. -/
def checkFrameLen (codec : FrameCodec) (payloadLen : Nat) :
    Except ProtocolError Unit :=
  if codec.maxFrameLen < payloadLen then
    .error (.frameTooLarge payloadLen codec.maxFrameLen)
  else .ok ()

/-- The magic `RG`, the version, and what may follow. -/
def format (codec : FrameCodec) : Format ProtocolError Frame where
  magic := (82, 71)
  version := 3
  invalidMagic := .invalidMagic
  unsupportedVersion := .unsupportedVersion
  checkLength := codec.checkFrameLen
  decodePayload := decodePayload

/-- Append the bytes of a frame to the output.  The length of a `data` frame is
validated before the output is touched; the payload of every other frame is
built in a buffer of its own. -/
def encode (codec : FrameCodec) : Frame → ByteWriter ProtocolError Unit
  | .data pipeId payload => do
      let payloadLen ← ByteWriter.ofExcept
        (Library.checkedAdd .lengthOverflow pipeIdWireLen payload.length)
      ByteWriter.ofExcept (codec.checkFrameLen payloadLen)
      let payloadLenWire ← ByteWriter.ofExcept (u32TryFrom .lengthOverflow payloadLen)
      let frameLen ← ByteWriter.ofExcept
        (Library.checkedAdd .lengthOverflow headerLen payloadLen)
      let destinationLen ← ByteWriter.written
      let _ ← ByteWriter.ofExcept
        (Library.checkedAdd .lengthOverflow destinationLen frameLen)
      ByteWriter.append (codec.format.header 15 payloadLenWire)
      putPipeId pipeId
      ByteWriter.append payload
  | item => do
      let (kind, payload) ← ByteWriter.collect (encodePayload item)
      ByteWriter.ofExcept (codec.checkFrameLen payload.length)
      let payloadLen ← ByteWriter.ofExcept (u32TryFrom .lengthOverflow payload.length)
      ByteWriter.append (codec.format.header kind payloadLen)
      ByteWriter.append payload

/-- Decode the frame at the front of the buffer, or ask for more. -/
def decode (codec : FrameCodec) (source : Bytes) : Decoded ProtocolError Frame :=
  codec.format.decode source

end FrameCodec

end RelayGate
