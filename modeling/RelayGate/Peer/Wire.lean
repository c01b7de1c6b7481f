import RelayGate.Peer.Codec
import RelayGate.Protocol.Wire

/-!
# The wire format of Gateway–Gateway frames

The format as a table of kinds and fields, as for the SDK protocol.  The length
computed before a frame is written is the length of its fields, so the encoder
fails before it touches the output or not at all.
-/

namespace RelayGate.Peer

open Library Reader ByteWriter

/-! ## The table -/

def PeerHandshake.fields (handshake : PeerHandshake) : List Field :=
  [.text (utf8 handshake.gatewayName.text), .number 16 handshake.gatewayId.uuid,
    .number 16 handshake.expectedPeerGatewayId.uuid,
    .number 16 handshake.dialerGatewayId.uuid,
    .number 16 handshake.peerTransportId.uuid]

namespace PeerFrame

/-- The kind byte of a frame. -/
def kind : PeerFrame → UInt8
  | .hello .. => 1
  | .welcome .. => 2
  | .handshakeRejected .. => 3
  | .open .. => 4
  | .opened .. => 5
  | .failed .. => 6
  | .data .. => 7
  | .fin .. => 8
  | .close .. => 9
  | .reset .. => 10
  | .ping .. => 11
  | .pong .. => 12

/-- The fields of a frame. -/
def fields : PeerFrame → List Field
  | .hello handshake | .welcome handshake => handshake.fields
  | .handshakeRejected code message => [.raw [code.toWire], .text (utf8 message)]
  | .open streamId openIdentity destination relaySessionId bindingId =>
      [.number 8 streamId.raw, .number 16 openIdentity.entryGateway.uuid,
        openIdentity.originSession.field, .number 8 openIdentity.connectionId] ++
      (destination.fields ++ [relaySessionId.field, bindingId.field])
  | .opened streamId | .fin streamId | .close streamId =>
      [.number 8 streamId.raw]
  | .failed streamId code observation message =>
      [.number 8 streamId.raw, .raw [code.toWire], .raw [observation.toWire],
        .text (utf8 message)]
  | .data streamId payload => [.number 8 streamId.raw, .raw payload]
  | .reset streamId code message =>
      [.number 8 streamId.raw, .raw [code.toWire], .text (utf8 message)]
  | .ping nonce | .pong nonce => [.number 8 nonce]

/-- The bytes of the payload. -/
def payload (frame : PeerFrame) : Bytes :=
  frame.fields.flatMap Field.bytes

/-- The numbers are values of the source's types. -/
def WellFormed (frame : PeerFrame) : Prop :=
  ∀ field ∈ frame.fields, field.Bounded

/-- The lengths of the texts fit two bytes. -/
def Short (frame : PeerFrame) : Prop :=
  ∀ field ∈ frame.fields, field.Short

instance : DecidablePred WellFormed :=
  fun frame => inferInstanceAs (Decidable (∀ field ∈ frame.fields, _))

instance : DecidablePred Short :=
  fun frame => inferInstanceAs (Decidable (∀ field ∈ frame.fields, _))

theorem wellFormed_and_short {frame : PeerFrame} :
    frame.WellFormed ∧ frame.Short ↔ ∀ field ∈ frame.fields, field.Fits := by
  simp only [WellFormed, Short, Field.Fits, forall_and]

end PeerFrame

namespace PeerFrameCodec

variable {frame : PeerFrame} {length : Nat}

/-! ## The length of a payload -/

@[simp]
theorem stringWireLen_eq_ok_iff {field : String} {value : Text} :
    stringWireLen field value = .ok length ↔
      (Field.text value).Short ∧ length = (Field.text value).bytes.length := by
  unfold stringWireLen maxStringLen checkedAdd
  simp only [Field.Short, Field.bytes, List.length_append, length_bigEndian]
  split <;> simp [usizeMax] <;> omega

/-- The length announced for a frame is the length of its payload. -/
theorem frameMetadata_eq_ok_iff {kind : UInt8} :
    frameMetadata frame = .ok (kind, length) ↔
      frame.Short ∧ kind = frame.kind ∧ length = frame.payload.length ∧ length ≤ usizeMax := by
  have key (destination : Destination) := destination.canonicalKey_length
  cases frame <;>
    simp only [frameMetadata, checkedAdd, handshakeWireLen, except_bind_eq_ok_iff,
      except_pure_eq_ok_iff, stringWireLen_eq_ok_iff, Library.checkedAdd_eq_ok_iff, Prod.mk.injEq,
      PeerFrame.Short, PeerFrame.fields, PeerHandshake.fields, Destination.fields,
      SessionId.field, BindingId.field, List.mem_cons, List.not_mem_nil, or_false,
      List.cons_append, List.nil_append, forall_eq_or_imp, forall_eq, Field.Short,
      PeerFrame.payload, List.flatMap_cons, List.flatMap_nil, List.length_append, List.length_nil,
      Field.bytes, length_bigEndian, List.length_cons, true_and, and_true]
  all_goals grind [usizeMax, PeerFrame.kind, hello, welcome, handshakeRejected,
    open_, opened, failed, data, fin, close, reset, ping, pong,
    Namespace.length_le, maxLabelBytes, DestinationName.length_le,
    maxDestinationNameBytes]

/-! ## Writing -/

theorem canonicalKey_eq (destination : Destination) :
    destination.canonicalKey = destination.fields.flatMap Field.bytes := by
  simp only [Destination.canonicalKey, Destination.fields, List.flatMap_cons,
    List.flatMap_nil, List.append_nil]
  rfl

theorem puts_canonicalKey (destination : Destination) :
    (ByteWriter.append destination.canonicalKey : ByteWriter PeerCodecError Unit).Puts ()
      destination.fields := by
  intro output result final
  have short : ∀ field ∈ destination.fields, field.Short := fun field member =>
    (destination.fits field member).2
  rw [canonicalKey_eq, append_eq_ok_iff]
  exact ⟨fun same => ⟨short, rfl, same⟩, fun same => same.2.2⟩

theorem puts_handshake (handshake : PeerHandshake) :
    (putHandshake handshake).Puts () handshake.fields :=
  (puts_text _ _).bind ((puts_number 16 _).bind
    ((puts_number 16 _).bind ((puts_number 16 _).bind (puts_number 16 _))))

/-- The payload writer appends the fields of the table. -/
theorem puts_encodePayload (frame : PeerFrame) : (encodePayload frame).Puts () frame.fields := by
  have number (value : Nat) : (putU64 value).Puts () [.number 8 value] := puts_number 8 value
  have uuid (value : Nat) : (putUuid value).Puts () [.number 16 value] := puts_number 16 value
  have byte (value : UInt8) : (putU8 value).Puts () [.raw [value]] := puts_raw [value]
  have text (name : String) (value : Text) :
      (putString name value).Puts () [.text value] :=
    puts_text _ value
  cases frame with
  | hello handshake | welcome handshake => exact puts_handshake handshake
  | handshakeRejected => exact (byte _).bind (text _ _)
  | «open» streamId openIdentity destination =>
    exact (number _).bind ((uuid _).bind ((uuid _).bind ((number _).bind
      ((puts_canonicalKey destination).bind ((uuid _).bind (uuid _))))))
  | opened streamId | fin streamId | close streamId => exact number _
  | failed =>
    exact (number _).bind ((byte _).bind ((byte _).bind (text _ _)))
  | data streamId payload => exact (number _).bind (puts_raw payload)
  | reset =>
    exact (number _).bind ((byte _).bind (text _ _))
  | ping nonce | pong nonce => exact number nonce

/-! ## Reading -/

namespace PayloadReader

variable {value : String} {input rest : Bytes} (field : String)

theorem exact_u64 : (u64 field).Exact fun value => [.number 8 value] :=
  exact_number 8 _

theorem exact_string : (string field).Exact fun value => [.text (utf8 value)] :=
  exact_text _ _

theorem exact_gatewayId : (gatewayId field).Exact fun value => [.number 16 value.uuid] := by
  apply exact_of_iff
  intro input value rest
  cases value
  simp [gatewayId, uuid]

theorem exact_sessionId : (sessionId field).Exact fun value => [value.field] := by
  apply exact_of_iff
  intro input value rest
  cases value
  simp [sessionId, uuid, SessionId.field]

theorem exact_bindingId : bindingId.Exact fun value => [value.field] := by
  apply exact_of_iff
  intro input value rest
  cases value
  simp [bindingId, uuid, BindingId.field]

theorem exact_peerTransportId : peerTransportId.Exact fun value => [.number 16 value.uuid] := by
  apply exact_of_iff
  intro input value rest
  cases value
  simp [peerTransportId, uuid]

theorem exact_streamId : streamId.Exact fun value => [.number 8 value.raw] := by
  apply exact_of_iff
  intro input value rest
  cases value
  simp [streamId, u64]

theorem exact_errorCode : errorCode.Exact fun code => [.raw [code.toWire]] := by
  apply exact_of_iff
  simp [errorCode, u8]

theorem exact_observation : observation.Exact fun observation => [.raw [observation.toWire]] := by
  apply exact_of_iff
  simp [observation, u8]

theorem exact_scope : scope.Exact fun scope => [.text scope.text] :=
  exact_parsed (exact_string _) (by simp [Namespace.new_eq_ok_iff])
    fun scope => exists_utf8_of_ascii scope.ascii

theorem exact_name : name.Exact fun name => [.text name.text] :=
  exact_parsed (exact_string _) (by simp [DestinationName.new_eq_ok_iff])
    fun name => exists_utf8_of_ascii name.ascii

theorem new_eq_ok_iff {name : PeerGatewayName} :
    PeerGatewayName.new value = .ok name ↔ value = name.text := by
  cases name with
  | mk text nonEmpty =>
    unfold PeerGatewayName.new
    constructor
    · intro made
      split at made <;> cases made
      rfl
    · rintro rfl
      exact dif_neg nonEmpty

theorem nonEmptyString_eq_ok_iff {field : String} :
    nonEmptyString field input = .ok (value, rest) ↔
      value ≠ "" ∧ string field input = .ok (value, rest) := by
  simp only [nonEmptyString, Reader.parsed, Reader.bind_eq_ok_iff, Reader.ofExcept_eq_ok_iff]
  constructor
  · rintro ⟨found, _, read, checked, rfl⟩
    split at checked
    · cases checked
    · cases checked
      exact ⟨‹_›, read⟩
  · rintro ⟨nonEmpty, read⟩
    exact ⟨value, rest, read, if_neg nonEmpty, rfl⟩

theorem exact_gatewayName : gatewayName.Exact fun name => [.text (utf8 name.text)] := by
  apply exact_of_iff
  intro input name rest
  simp only [gatewayName, Reader.parsed, Reader.bind_eq_ok_iff, nonEmptyString_eq_ok_iff,
    Reader.ofExcept_eq_ok_iff, mapError_eq_ok_iff, new_eq_ok_iff, string, text_eq_ok_iff]
  constructor
  · rintro ⟨_, _, ⟨_, read⟩, rfl, rfl⟩
    exact read
  · intro read
    exact ⟨name.text, rest, ⟨name.nonEmpty, read⟩, rfl, rfl⟩

theorem exact_handshake : handshake.Exact PeerHandshake.fields := by
  constructor
  · intro found
    exact (exact_gatewayName.takes _).bind (((exact_gatewayId _).takes _).bind
      (((exact_gatewayId _).takes _).bind (((exact_gatewayId _).takes _).bind
        ((exact_peerTransportId.takes _).bind (takes_pure _)))))
  · apply exact_gatewayName.only.bind
    rintro gatewayName _ rfl
    apply (exact_gatewayId _).only.bind
    rintro gatewayId _ rfl
    apply (exact_gatewayId _).only.bind
    rintro expectedPeerGatewayId _ rfl
    apply (exact_gatewayId _).only.bind
    rintro dialerGatewayId _ rfl
    apply exact_peerTransportId.only.bind
    rintro peerTransportId _ rfl
    exact only_pure rfl

@[simp]
theorem finish_eq_ok_iff {done : Unit} :
    finish input = .ok (done, rest) ↔ input = [] ∧ rest = [] := by
  unfold finish
  split <;> simp_all [eq_comm]

end PayloadReader

open PayloadReader

theorem only_readOpen :
    readOpen.Only fun frame fields => 4 = frame.kind ∧ fields = frame.fields := by
  apply exact_streamId.only.bind
  rintro streamId _ rfl
  apply (exact_gatewayId _).only.bind
  rintro entryGatewayId _ rfl
  apply (exact_sessionId _).only.bind
  rintro originSessionId _ rfl
  apply (exact_u64 _).only.bind
  rintro connectionId _ rfl
  apply exact_scope.only.bind
  rintro scope _ rfl
  apply exact_name.only.bind
  rintro name _ rfl
  apply (exact_sessionId _).only.bind
  rintro relaySessionId _ rfl
  apply exact_bindingId.only.bind
  rintro bindingId _ rfl
  exact only_pure ⟨rfl, rfl⟩

/-- The payload reader of a kind takes the fields of every frame of that kind.
The payload of a `data` frame has no end of its own. -/
theorem takes_readFrame (frame : PeerFrame)
    (ends : ∀ streamId payload, frame ≠ .data streamId payload) :
    (readFrame frame.kind).Takes frame frame.fields := by
  cases frame with
  | hello handshake | welcome handshake =>
    exact (exact_handshake.takes _).bind (takes_pure _)
  | handshakeRejected =>
    exact (exact_errorCode.takes _).bind
      (((exact_string _).takes _).bind (takes_pure _))
  | «open» =>
    exact (exact_streamId.takes _).bind (((exact_gatewayId _).takes _).bind
      (((exact_sessionId _).takes _).bind (((exact_u64 _).takes _).bind
        ((exact_scope.takes _).bind ((exact_name.takes _).bind
          (((exact_sessionId _).takes _).bind
            ((exact_bindingId.takes _).bind (takes_pure _))))))))
  | opened streamId | fin streamId | close streamId =>
    exact (exact_streamId.takes _).bind (takes_pure _)
  | failed =>
    exact (exact_streamId.takes _).bind ((exact_errorCode.takes _).bind
      ((exact_observation.takes _).bind (((exact_string _).takes _).bind (takes_pure _))))
  | data streamId payload => exact absurd rfl (ends streamId payload)
  | reset =>
    exact (exact_streamId.takes _).bind ((exact_errorCode.takes _).bind
      (((exact_string _).takes _).bind (takes_pure _)))
  | ping nonce | pong nonce =>
    exact ((exact_u64 _).takes _).bind (takes_pure _)

theorem readFrame_data {found : StreamId} (bytes : Bytes)
    (fits : (Field.number 8 found.raw).Fits) :
    readFrame 7 ((Field.number 8 found.raw).bytes ++ bytes) = .ok (.data found bytes, []) := by
  have read : readFrame 7 = do
      return PeerFrame.data (← streamId) (← Reader.remaining) := rfl
  have taken := exact_streamId.takes found (by simpa using fits) bytes
  rw [List.flatMap_singleton] at taken
  rw [read, Reader.bind_eq_ok_iff]
  exact ⟨_, _, taken, rfl⟩

/-- The whole payload of a frame is read. -/
theorem readFrame_payload (fits : ∀ field ∈ frame.fields, field.Fits) :
    readFrame frame.kind frame.payload = .ok (frame, []) := by
  by_cases data : ∃ streamId payload, frame = .data streamId payload
  · rcases data with ⟨streamId, payload, rfl⟩
    rw [PeerFrame.payload, PeerFrame.fields, List.flatMap_cons, List.flatMap_singleton]
    exact readFrame_data payload (fits _ List.mem_cons_self)
  · have taken := takes_readFrame frame
      (fun streamId payload same => data ⟨streamId, payload, same⟩) fits []
    rw [List.append_nil] at taken
    exact taken

/-- What the payload reader of a kind accepts are the fields of a frame of that
kind. -/
theorem only_readFrame (kind : UInt8) :
    (readFrame kind).Only fun frame fields => kind = frame.kind ∧ fields = frame.fields := by
  unfold readFrame
  split
  · apply exact_handshake.only.bind
    rintro handshake _ rfl
    exact only_pure ⟨rfl, rfl⟩
  · apply exact_handshake.only.bind
    rintro handshake _ rfl
    exact only_pure ⟨rfl, rfl⟩
  · apply exact_errorCode.only.bind
    rintro code _ rfl
    apply (exact_string _).only.bind
    rintro message _ rfl
    exact only_pure ⟨rfl, rfl⟩
  · exact only_readOpen
  · apply exact_streamId.only.bind
    rintro streamId _ rfl
    exact only_pure ⟨rfl, rfl⟩
  · apply exact_streamId.only.bind
    rintro streamId _ rfl
    apply exact_errorCode.only.bind
    rintro code _ rfl
    apply exact_observation.only.bind
    rintro observation _ rfl
    apply (exact_string _).only.bind
    rintro message _ rfl
    exact only_pure ⟨rfl, rfl⟩
  · apply exact_streamId.only.bind
    rintro streamId _ rfl
    apply only_remaining.bind
    rintro payload _ rfl
    exact only_pure ⟨rfl, rfl⟩
  · apply exact_streamId.only.bind
    rintro streamId _ rfl
    exact only_pure ⟨rfl, rfl⟩
  · apply exact_streamId.only.bind
    rintro streamId _ rfl
    exact only_pure ⟨rfl, rfl⟩
  · apply exact_streamId.only.bind
    rintro streamId _ rfl
    apply exact_errorCode.only.bind
    rintro code _ rfl
    apply (exact_string _).only.bind
    rintro message _ rfl
    exact only_pure ⟨rfl, rfl⟩
  · apply (exact_u64 _).only.bind
    rintro nonce _ rfl
    exact only_pure ⟨rfl, rfl⟩
  · apply (exact_u64 _).only.bind
    rintro nonce _ rfl
    exact only_pure ⟨rfl, rfl⟩
  · exact only_error _

/-- The payload decoder accepts exactly the payloads of the table. -/
theorem decodePayload_eq_ok_iff {kind : UInt8} {payload : Bytes} :
    decodePayload kind payload = .ok frame ↔
      frame.WellFormed ∧ frame.Short ∧ kind = frame.kind ∧ payload = frame.payload := by
  have run : decodePayload kind payload = .ok frame ↔
      readFrame kind payload = .ok (frame, []) := by
    rw [decodePayload, map_fst_eq_ok_iff]
    simp only [Reader.bind_eq_ok_iff, finish_eq_ok_iff, Reader.pure_eq_ok_iff]
    grind
  rw [run, ← and_assoc, PeerFrame.wellFormed_and_short]
  constructor
  · intro read
    rcases only_readFrame kind _ _ _ read with ⟨_, ⟨same, rfl⟩, fits, rfl⟩
    exact ⟨fits, same, List.append_nil _⟩
  · rintro ⟨fits, rfl, rfl⟩
    exact readFrame_payload fits

end PeerFrameCodec

end RelayGate.Peer
