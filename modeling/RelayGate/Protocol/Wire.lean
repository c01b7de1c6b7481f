import RelayGate.Protocol.Codec

/-!
# The wire format of SDK–Gateway frames

The format as a table: every frame has a kind and a list of fields.  The
payload writer appends the bytes of the fields, the payload reader accepts
exactly these bytes, and so the codec loses nothing and accepts nothing twice.
-/

namespace RelayGate

open Library Reader ByteWriter

/-! ## The table -/

def SessionId.field (sessionId : SessionId) : Field :=
  .number 16 sessionId.uuid

def BindingId.field (bindingId : BindingId) : Field :=
  .number 16 bindingId.uuid

def PipeId.fields (pipeId : PipeId) : List Field :=
  [pipeId.originSessionId.field, .number 8 pipeId.connectionId]

def Destination.fields (destination : Destination) : List Field :=
  [.text destination.scope.text, .text destination.name.text]

theorem Destination.fits (destination : Destination) :
    ∀ field ∈ destination.fields, field.Fits := by
  have scope_bounded := destination.scope.length_le
  have name_bounded := destination.name.length_le
  unfold maxLabelBytes at scope_bounded
  unfold maxDestinationNameBytes at name_bounded
  simp only [Destination.fields, List.mem_cons, List.not_mem_nil, or_false,
    forall_eq_or_imp, forall_eq, Field.fits_text]
  omega

theorem BearerToken.fits (token : BearerToken) : (Field.text (utf8 token.secret)).Fits := by
  have bounded := token.bounded
  unfold maxBearerTokenBytes at bounded
  rw [Field.fits_text, length_utf8]
  omega

namespace Frame

/-- The kind byte of a frame. -/
def kind : Frame → UInt8
  | .hello => 1
  | .welcome .. => 2
  | .sessionRejected .. => 3
  | .publish .. => 4
  | .published .. => 5
  | .publishFailed .. => 6
  | .unpublish .. => 7
  | .unpublished .. => 8
  | .dial .. => 9
  | .offer .. => 10
  | .offerAccepted .. => 11
  | .offerRejected .. => 12
  | .opened .. => 13
  | .dialFailed .. => 14
  | .data .. => 15
  | .fin .. => 16
  | .close .. => 17
  | .reset .. => 18
  | .ping .. => 19
  | .pong .. => 20
  | .cancel .. => 21

/-- The fields of a frame. -/
def fields : Frame → List Field
  | .hello => []
  | .welcome sessionId => [sessionId.field]
  | .sessionRejected code message => [.raw [code.toWire], .text (utf8 message)]
  | .publish number destination accessToken
  | .dial number destination accessToken =>
      .number 8 number :: (destination.fields ++ [.text (utf8 accessToken.secret)])
  | .published requestId bindingId | .unpublish requestId bindingId =>
      [.number 8 requestId, bindingId.field]
  | .publishFailed requestId code message =>
      [.number 8 requestId, .raw [code.toWire], .text (utf8 message)]
  | .unpublished number | .ping number | .pong number => [.number 8 number]
  | .offer pipeId bindingId destination =>
      pipeId.fields ++ bindingId.field :: destination.fields
  | .offerAccepted pipeId | .opened pipeId | .fin pipeId | .close pipeId
  | .cancel pipeId => pipeId.fields
  | .offerRejected pipeId code message | .reset pipeId code message =>
      pipeId.fields ++ [.raw [code.toWire], .text (utf8 message)]
  | .dialFailed connectionId code observation message =>
      [.number 8 connectionId, .raw [code.toWire], .raw [observation.toWire],
        .text (utf8 message)]
  | .data pipeId payload => pipeId.fields ++ [.raw payload]

/-- The bytes of the payload. -/
def payload (frame : Frame) : Bytes :=
  frame.fields.flatMap Field.bytes

/-- The numbers are values of the source's types: identifiers of 16 bytes,
counters of 8. -/
def WellFormed (frame : Frame) : Prop :=
  ∀ field ∈ frame.fields, field.Bounded

/-- The lengths of the texts fit two bytes. -/
def Short (frame : Frame) : Prop :=
  ∀ field ∈ frame.fields, field.Short

instance : DecidablePred WellFormed :=
  fun frame => inferInstanceAs (Decidable (∀ field ∈ frame.fields, _))

instance : DecidablePred Short :=
  fun frame => inferInstanceAs (Decidable (∀ field ∈ frame.fields, _))

theorem wellFormed_and_short {frame : Frame} :
    frame.WellFormed ∧ frame.Short ↔ ∀ field ∈ frame.fields, field.Fits := by
  simp only [WellFormed, Short, Field.Fits, forall_and]

end Frame

namespace FrameCodec

variable {frame : Frame}

/-! ## Writing -/

theorem puts_pipeId (pipeId : PipeId) : (putPipeId pipeId).Puts () pipeId.fields :=
  (puts_number 16 _).bind (puts_number 8 _)

theorem puts_destination (destination : Destination) :
    (putDestination destination).Puts () destination.fields :=
  (puts_text _ _).bind (puts_text _ _)

/-- The payload writer appends the fields of the table. -/
theorem puts_encodePayload (frame : Frame) :
    (encodePayload frame).Puts frame.kind frame.fields := by
  have number (value : Nat) : (putU64 value).Puts () [.number 8 value] := puts_number 8 value
  have uuid (value : Nat) :
      (ByteWriter.append (bigEndian 16 value) : ByteWriter ProtocolError Unit).Puts ()
        [.number 16 value] :=
    puts_number 16 value
  have byte (value : UInt8) : (putU8 value).Puts () [.raw [value]] := puts_raw [value]
  have text (name : String) (value : Text) :
      (putString name value).Puts () [.text value] :=
    puts_text _ value
  cases frame with
  | hello => exact puts_pure 1
  | welcome => exact (uuid _).bind (puts_pure 2)
  | sessionRejected =>
    exact (byte _).bind ((text _ _).bind (puts_pure 3))
  | publish requestId destination =>
    exact (number _).bind ((puts_destination destination).bind ((text _ _).bind (puts_pure 4)))
  | published =>
    exact (number _).bind ((uuid _).bind (puts_pure 5))
  | publishFailed =>
    exact (number _).bind ((byte _).bind ((text _ _).bind (puts_pure 6)))
  | unpublish =>
    exact (number _).bind ((uuid _).bind (puts_pure 7))
  | unpublished => exact (number _).bind (puts_pure 8)
  | dial connectionId destination =>
    exact (number _).bind ((puts_destination destination).bind ((text _ _).bind (puts_pure 9)))
  | offer pipeId bindingId destination =>
    exact (puts_pipeId pipeId).bind ((uuid _).bind
      ((puts_destination destination).bind (puts_pure 10)))
  | offerAccepted pipeId => exact (puts_pipeId pipeId).bind (puts_pure 11)
  | offerRejected pipeId =>
    exact (puts_pipeId pipeId).bind ((byte _).bind ((text _ _).bind (puts_pure 12)))
  | opened pipeId => exact (puts_pipeId pipeId).bind (puts_pure 13)
  | dialFailed =>
    exact (number _).bind ((byte _).bind ((byte _).bind ((text _ _).bind (puts_pure 14))))
  | data pipeId payload =>
    exact (puts_pipeId pipeId).bind ((puts_raw payload).bind (puts_pure 15))
  | fin pipeId => exact (puts_pipeId pipeId).bind (puts_pure 16)
  | close pipeId => exact (puts_pipeId pipeId).bind (puts_pure 17)
  | reset pipeId =>
    exact (puts_pipeId pipeId).bind ((byte _).bind ((text _ _).bind (puts_pure 18)))
  | ping => exact (number _).bind (puts_pure 19)
  | pong => exact (number _).bind (puts_pure 20)
  | cancel pipeId => exact (puts_pipeId pipeId).bind (puts_pure 21)

/-! ## Reading -/

namespace PayloadReader

theorem exact_u64 (name : String) : (u64 name).Exact fun value => [.number 8 value] :=
  exact_number 8 _

theorem exact_string (name : String) : (string name).Exact fun value => [.text (utf8 value)] :=
  exact_text _ _

theorem exact_sessionId : sessionId.Exact fun value => [value.field] := by
  apply exact_of_iff
  intro input value rest
  cases value
  simp [sessionId, uuid, SessionId.field]

theorem exact_bindingId : bindingId.Exact fun value => [value.field] := by
  apply exact_of_iff
  intro input value rest
  cases value
  simp [bindingId, uuid, BindingId.field]

theorem exact_errorCode : errorCode.Exact fun code => [.raw [code.toWire]] := by
  apply exact_of_iff
  simp [errorCode, u8]

theorem exact_observation : observation.Exact fun observation => [.raw [observation.toWire]] := by
  apply exact_of_iff
  simp [observation, u8]

theorem exact_pipeId : pipeId.Exact PipeId.fields := by
  constructor
  · intro found
    exact (exact_sessionId.takes _).bind
      (((exact_u64 _).takes _).bind (takes_pure _))
  · apply exact_sessionId.only.bind
    rintro originSessionId _ rfl
    apply (exact_u64 _).only.bind
    rintro connectionId _ rfl
    apply only_pure
    rfl

theorem exact_accessToken : accessToken.Exact fun token => [.text (utf8 token.secret)] := by
  apply exact_of_iff
  intro input token rest
  have bounded : (utf8 token.secret).length ≤ maxBearerTokenBytes := token.bounded
  simp only [accessToken, u16, Reader.bind_eq_ok_iff, number_eq_ok_iff, Reader.ofExcept_eq_ok_iff,
    take_eq_ok_iff, okOr_eq_ok_iff, fromUtf8_eq_some_iff, BearerToken.new_eq_ok_iff]
  constructor
  · rintro ⟨length, _, ⟨_, first⟩, _, _, ⟨_, rfl⟩, bytes, _, ⟨taken, second⟩,
      value, _, ⟨same, rfl⟩, made, rfl⟩
    subst first second taken same made
    exact ⟨token.fits, (List.append_assoc _ _ _).symm⟩
  · rintro ⟨_, rfl⟩
    exact ⟨_, _, ⟨Field.fits_number.mpr (Field.fits_text.mp token.fits),
        List.append_assoc _ _ _⟩, (), _,
      ⟨if_neg (Nat.not_lt.mpr bounded), rfl⟩, _, _, ⟨rfl, rfl⟩, _, _, ⟨rfl, rfl⟩,
      rfl, rfl⟩

theorem exact_destination : destination.Exact Destination.fields := by
  have scope : (Reader.parsed (string "namespace") fun value =>
      (Namespace.new (utf8 value)).mapError fun _ =>
        ProtocolError.invalidDestination).Exact fun scope => [.text scope.text] :=
    exact_parsed (exact_string _) (by simp [Namespace.new_eq_ok_iff])
      fun scope => exists_utf8_of_ascii scope.ascii
  have name : (Reader.parsed (string "name") fun value =>
      (DestinationName.new (utf8 value)).mapError fun _ =>
        ProtocolError.invalidDestination).Exact fun name => [.text name.text] :=
    exact_parsed (exact_string _) (by simp [DestinationName.new_eq_ok_iff])
      fun name => exists_utf8_of_ascii name.ascii
  constructor
  · intro found
    exact (scope.takes _).bind ((name.takes _).bind (takes_pure _))
  · apply scope.only.bind
    rintro scopeFound _ rfl
    apply name.only.bind
    rintro nameFound _ rfl
    apply only_pure
    rfl

@[simp]
theorem finish_eq_ok_iff {input rest : Bytes} {done : Unit} :
    finish input = .ok (done, rest) ↔ input = [] ∧ rest = [] := by
  unfold finish
  split <;> simp_all [eq_comm]

end PayloadReader

open PayloadReader

/-- The payload reader of a kind takes the fields of every frame of that kind.
The payload of a `data` frame has no end of its own. -/
theorem takes_readFrame (frame : Frame) (ends : ∀ pipeId payload, frame ≠ .data pipeId payload) :
    (readFrame frame.kind).Takes frame frame.fields := by
  cases frame with
  | hello => exact takes_pure _
  | welcome =>
    exact (exact_sessionId.takes _).bind (takes_pure _)
  | sessionRejected =>
    exact (exact_errorCode.takes _).bind
      (((exact_string _).takes _).bind (takes_pure _))
  | publish =>
    exact ((exact_u64 _).takes _).bind ((exact_destination.takes _).bind
      ((exact_accessToken.takes _).bind (takes_pure _)))
  | published =>
    exact ((exact_u64 _).takes _).bind
      ((exact_bindingId.takes _).bind (takes_pure _))
  | publishFailed =>
    exact ((exact_u64 _).takes _).bind ((exact_errorCode.takes _).bind
      (((exact_string _).takes _).bind (takes_pure _)))
  | unpublish =>
    exact ((exact_u64 _).takes _).bind
      ((exact_bindingId.takes _).bind (takes_pure _))
  | unpublished =>
    exact ((exact_u64 _).takes _).bind (takes_pure _)
  | dial =>
    exact ((exact_u64 _).takes _).bind ((exact_destination.takes _).bind
      ((exact_accessToken.takes _).bind (takes_pure _)))
  | offer =>
    exact (exact_pipeId.takes _).bind ((exact_bindingId.takes _).bind
      ((exact_destination.takes _).bind (takes_pure _)))
  | offerAccepted pipeId | opened pipeId | fin pipeId | close pipeId
  | cancel =>
    exact (exact_pipeId.takes _).bind (takes_pure _)
  | offerRejected pipeId code message | reset pipeId code message =>
    exact (exact_pipeId.takes _).bind ((exact_errorCode.takes _).bind
      (((exact_string _).takes _).bind (takes_pure _)))
  | dialFailed =>
    exact ((exact_u64 _).takes _).bind ((exact_errorCode.takes _).bind
      ((exact_observation.takes _).bind (((exact_string _).takes _).bind (takes_pure _))))
  | data pipeId payload => exact absurd rfl (ends pipeId payload)
  | ping nonce | pong nonce =>
    exact ((exact_u64 _).takes _).bind (takes_pure _)

theorem readFrame_data {found : PipeId} (bytes : Bytes)
    (fits : ∀ field ∈ found.fields, field.Fits) :
    readFrame 15 (found.fields.flatMap Field.bytes ++ bytes) = .ok (.data found bytes, []) := by
  have read : readFrame 15 = do
      return Frame.data (← pipeId) (← Reader.remaining) := rfl
  rw [read, Reader.bind_eq_ok_iff]
  exact ⟨_, _, exact_pipeId.takes found fits bytes, rfl⟩

/-- The whole payload of a frame is read. -/
theorem readFrame_payload (fits : ∀ field ∈ frame.fields, field.Fits) :
    readFrame frame.kind frame.payload = .ok (frame, []) := by
  by_cases data : ∃ pipeId payload, frame = .data pipeId payload
  · rcases data with ⟨pipeId, payload, rfl⟩
    have pipe_fits : ∀ field ∈ pipeId.fields, field.Fits := fun field member =>
      fits field (List.mem_append_left _ member)
    rw [Frame.payload, Frame.fields, List.flatMap_append, List.flatMap_singleton]
    exact readFrame_data payload pipe_fits
  · have taken := takes_readFrame frame
      (fun pipeId payload same => data ⟨pipeId, payload, same⟩) fits []
    rw [List.append_nil] at taken
    exact taken

/-- What the payload reader of a kind accepts are the fields of a frame of that
kind. -/
theorem only_readFrame (kind : UInt8) :
    (readFrame kind).Only fun frame fields => kind = frame.kind ∧ fields = frame.fields := by
  unfold readFrame
  split
  · exact only_pure ⟨rfl, rfl⟩
  · apply exact_sessionId.only.bind
    rintro sessionId _ rfl
    exact only_pure ⟨rfl, rfl⟩
  · apply exact_errorCode.only.bind
    rintro code _ rfl
    apply (exact_string _).only.bind
    rintro message _ rfl
    exact only_pure ⟨rfl, rfl⟩
  · apply (exact_u64 _).only.bind
    rintro requestId _ rfl
    apply exact_destination.only.bind
    rintro destination _ rfl
    apply exact_accessToken.only.bind
    rintro accessToken _ rfl
    exact only_pure ⟨rfl, rfl⟩
  · apply (exact_u64 _).only.bind
    rintro requestId _ rfl
    apply exact_bindingId.only.bind
    rintro bindingId _ rfl
    exact only_pure ⟨rfl, rfl⟩
  · apply (exact_u64 _).only.bind
    rintro requestId _ rfl
    apply exact_errorCode.only.bind
    rintro code _ rfl
    apply (exact_string _).only.bind
    rintro message _ rfl
    exact only_pure ⟨rfl, rfl⟩
  · apply (exact_u64 _).only.bind
    rintro requestId _ rfl
    apply exact_bindingId.only.bind
    rintro bindingId _ rfl
    exact only_pure ⟨rfl, rfl⟩
  · apply (exact_u64 _).only.bind
    rintro requestId _ rfl
    exact only_pure ⟨rfl, rfl⟩
  · apply (exact_u64 _).only.bind
    rintro connectionId _ rfl
    apply exact_destination.only.bind
    rintro destination _ rfl
    apply exact_accessToken.only.bind
    rintro accessToken _ rfl
    exact only_pure ⟨rfl, rfl⟩
  · apply exact_pipeId.only.bind
    rintro pipeId _ rfl
    apply exact_bindingId.only.bind
    rintro bindingId _ rfl
    apply exact_destination.only.bind
    rintro destination _ rfl
    exact only_pure ⟨rfl, rfl⟩
  · apply exact_pipeId.only.bind
    rintro pipeId _ rfl
    exact only_pure ⟨rfl, rfl⟩
  · apply exact_pipeId.only.bind
    rintro pipeId _ rfl
    apply exact_errorCode.only.bind
    rintro code _ rfl
    apply (exact_string _).only.bind
    rintro message _ rfl
    exact only_pure ⟨rfl, rfl⟩
  · apply exact_pipeId.only.bind
    rintro pipeId _ rfl
    exact only_pure ⟨rfl, rfl⟩
  · apply (exact_u64 _).only.bind
    rintro connectionId _ rfl
    apply exact_errorCode.only.bind
    rintro code _ rfl
    apply exact_observation.only.bind
    rintro observation _ rfl
    apply (exact_string _).only.bind
    rintro message _ rfl
    exact only_pure ⟨rfl, rfl⟩
  · apply exact_pipeId.only.bind
    rintro pipeId _ rfl
    apply only_remaining.bind
    rintro payload _ rfl
    exact only_pure ⟨rfl, rfl⟩
  · apply exact_pipeId.only.bind
    rintro pipeId _ rfl
    exact only_pure ⟨rfl, rfl⟩
  · apply exact_pipeId.only.bind
    rintro pipeId _ rfl
    exact only_pure ⟨rfl, rfl⟩
  · apply exact_pipeId.only.bind
    rintro pipeId _ rfl
    apply exact_errorCode.only.bind
    rintro code _ rfl
    apply (exact_string _).only.bind
    rintro message _ rfl
    exact only_pure ⟨rfl, rfl⟩
  · apply (exact_u64 _).only.bind
    rintro nonce _ rfl
    exact only_pure ⟨rfl, rfl⟩
  · apply (exact_u64 _).only.bind
    rintro nonce _ rfl
    exact only_pure ⟨rfl, rfl⟩
  · apply exact_pipeId.only.bind
    rintro pipeId _ rfl
    exact only_pure ⟨rfl, rfl⟩
  · exact only_error _

/-- The payload decoder accepts exactly the payloads of the table. -/
theorem decodePayload_eq_ok_iff {kind : UInt8} {payload : Bytes} :
    decodePayload kind payload = .ok frame ↔
      frame.WellFormed ∧ frame.Short ∧ kind = frame.kind ∧ payload = frame.payload := by
  have run : decodePayload kind payload = .ok frame ↔
      readFrame kind payload = .ok (frame, []) := by
    rw [decodePayload, map_fst_eq_ok_iff]
    simp only [Reader.bind_eq_ok_iff, finish_eq_ok_iff, Reader.pure_eq_ok_iff]
    grind
  rw [run, ← and_assoc, Frame.wellFormed_and_short]
  constructor
  · intro read
    rcases only_readFrame kind _ _ _ read with ⟨_, ⟨same, rfl⟩, fits, rfl⟩
    exact ⟨fits, same, List.append_nil _⟩
  · rintro ⟨fits, rfl, rfl⟩
    exact readFrame_payload fits

end FrameCodec

end RelayGate
