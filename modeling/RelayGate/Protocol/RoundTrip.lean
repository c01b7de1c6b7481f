import RelayGate.Protocol.Wire

/-!
# The SDK–Gateway codec over a byte stream

Frames written one after the other and cut into chunks anywhere are read back
as they were; what is read is what the codec would have written; an error of
the decoder does not depend on what follows.
-/

namespace RelayGate

open Library ByteWriter

namespace FrameCodec

variable {done : Unit} {codec : FrameCodec} {frame : Frame} {output final : Bytes}

/-! ## Encoding -/

/-- The bytes of a frame on the wire. -/
def wire (codec : FrameCodec) (frame : Frame) : Bytes :=
  codec.format.frame frame.kind frame.payload

/-- What the codec requires of a frame: short texts and a payload within the
limit and the four bytes of the length field. -/
structure Admits (codec : FrameCodec) (frame : Frame) : Prop where
  short : frame.Short
  limited : frame.payload.length ≤ codec.maxFrameLen
  fits : frame.payload.length < 2 ^ 32

@[simp]
theorem checkFrameLen_eq_ok_iff {length : Nat} :
    codec.checkFrameLen length = .ok done ↔ length ≤ codec.maxFrameLen := by
  unfold checkFrameLen
  split <;> simp <;> omega

section

variable (pipeId : PipeId) (bytes : Bytes)

theorem length_payload_data :
    (Frame.data pipeId bytes).payload.length = pipeIdWireLen + bytes.length := by
  simp [Frame.payload, Frame.fields, PipeId.fields, SessionId.field, Field.bytes, pipeIdWireLen]
  omega

theorem payload_data :
    (Frame.data pipeId bytes).payload = pipeId.fields.flatMap Field.bytes ++ bytes := by
  simp [Frame.payload, Frame.fields, Field.bytes]

theorem short_data : (Frame.data pipeId bytes).Short := by
  simp [Frame.Short, Frame.fields, PipeId.fields, SessionId.field, Field.Short]

end

theorem length_wire (codec : FrameCodec) (frame : Frame) :
    (codec.wire frame).length = headerLen + frame.payload.length := by
  rw [wire, Format.frame, List.length_append, Format.length_header]
  rfl

/-- The buffered path of the encoder. -/
theorem encode_of_ne_data (other : ∀ pipeId payload, frame ≠ .data pipeId payload) :
    codec.encode frame = (do
      let (kind, payload) ← ByteWriter.collect (encodePayload frame)
      ByteWriter.ofExcept (codec.checkFrameLen payload.length)
      let payloadLen ← ByteWriter.ofExcept (u32TryFrom .lengthOverflow payload.length)
      ByteWriter.append (codec.format.header kind payloadLen)
      ByteWriter.append payload) := by
  cases frame
  case data pipeId payload => exact absurd rfl (other pipeId payload)
  all_goals rfl

/-- The direct path of the encoder. -/
theorem encode_data_eq_ok_iff {pipeId : PipeId} {payload : Bytes} :
    codec.encode (.data pipeId payload) output = (.ok done, final) ↔
      codec.Admits (.data pipeId payload) ∧
        output.length + (codec.wire (.data pipeId payload)).length ≤ usizeMax ∧
        final = output ++ codec.wire (.data pipeId payload) := by
  have length := length_payload_data pipeId payload
  have pipe_short : ∀ field ∈ pipeId.fields, field.Short := fun field member =>
    short_data pipeId payload field (List.mem_append_left _ member)
  have wire_eq : codec.wire (.data pipeId payload) =
      codec.format.header 15 (pipeIdWireLen + payload.length) ++
        (pipeId.fields.flatMap Field.bytes ++ payload) := by
    rw [wire, Format.frame, length, payload_data]
    rfl
  rw [length_wire, length, wire_eq]
  simp only [encode, bind_eq_ok_iff, ofExcept_eq_ok_iff,
    Library.checkedAdd_eq_ok_iff, checkFrameLen_eq_ok_iff, u32TryFrom_eq_ok_iff,
    written_eq_ok_iff, append_eq_ok_iff, puts_pipeId pipeId _ _ _]
  constructor
  · rintro ⟨_, _, ⟨⟨_, rfl⟩, rfl⟩, _, _, ⟨limited, rfl⟩, _, _,
      ⟨⟨fits, rfl⟩, rfl⟩, _, _, ⟨⟨_, rfl⟩, rfl⟩, _, _, ⟨rfl, rfl⟩, _, _,
      ⟨⟨room, rfl⟩, rfl⟩, _, _, rfl, _, _, ⟨_, _, rfl⟩, rfl⟩
    refine ⟨⟨short_data pipeId payload, ?_, ?_⟩, room, ?_⟩
    · rw [length]
      exact limited
    · rw [length]
      exact fits
    · simp only [List.append_assoc]
  · rintro ⟨⟨_, limited, fits⟩, room, rfl⟩
    rw [length] at limited fits
    have small : pipeIdWireLen + payload.length ≤ usizeMax := by omega
    have whole : headerLen + (pipeIdWireLen + payload.length) ≤ usizeMax := by omega
    exact ⟨_, _, ⟨⟨small, rfl⟩, rfl⟩, (), _, ⟨limited, rfl⟩, _, _,
      ⟨⟨fits, rfl⟩, rfl⟩, _, _, ⟨⟨whole, rfl⟩, rfl⟩, _, _, ⟨rfl, rfl⟩, _, _,
      ⟨⟨room, rfl⟩, rfl⟩, (), _, rfl, (), _, ⟨pipe_short, trivial, rfl⟩,
      by simp only [List.append_assoc]⟩

/-- The encoder appends the bytes of the frames the codec admits.  It checks the
length of the whole output for a `data` frame only. -/
theorem encode_eq_ok_iff :
    codec.encode frame output = (.ok done, final) ↔
      codec.Admits frame ∧
        (∀ pipeId payload, frame = .data pipeId payload →
          output.length + (codec.wire frame).length ≤ usizeMax) ∧
        final = output ++ codec.wire frame := by
  by_cases data : ∃ pipeId payload, frame = .data pipeId payload
  · rcases data with ⟨pipeId, payload, rfl⟩
    simp [encode_data_eq_ok_iff]
  · have other : ∀ pipeId payload, frame ≠ .data pipeId payload :=
      fun pipeId payload same => data ⟨pipeId, payload, same⟩
    rw [encode_of_ne_data other]
    simp only [bind_eq_ok_iff, Prod.exists, collect_eq_ok_iff,
      puts_encodePayload frame _ _ _, List.nil_append, ofExcept_eq_ok_iff,
      checkFrameLen_eq_ok_iff, u32TryFrom_eq_ok_iff, append_eq_ok_iff]
    constructor
    · rintro ⟨_, _, _, ⟨⟨short, rfl, rfl⟩, rfl⟩, _, _, ⟨limited, rfl⟩, _, _,
        ⟨⟨fits, rfl⟩, rfl⟩, _, _, rfl, rfl⟩
      exact ⟨⟨short, limited, fits⟩, fun _ _ same => absurd same (other _ _),
        List.append_assoc _ _ _⟩
    · rintro ⟨⟨short, limited, fits⟩, _, rfl⟩
      exact ⟨_, _, _, ⟨⟨short, rfl, rfl⟩, rfl⟩, (), _, ⟨limited, rfl⟩, _, _,
        ⟨⟨fits, rfl⟩, rfl⟩, (), _, rfl, (List.append_assoc _ _ _).symm⟩

/-- An encode that fails leaves the output alone. -/
theorem encode_atomic (codec : FrameCodec) (frame : Frame) : (codec.encode frame).Atomic := by
  by_cases data : ∃ pipeId payload, frame = .data pipeId payload
  · rcases data with ⟨pipeId, payload, rfl⟩
    unfold encode
    refine (silent_ofExcept _).bind_atomic fun _ _ _ => ?_
    refine (silent_ofExcept _).bind_atomic fun _ _ _ => ?_
    refine (silent_ofExcept _).bind_atomic fun _ _ _ => ?_
    refine (silent_ofExcept _).bind_atomic fun _ _ _ => ?_
    refine silent_written.bind_atomic fun _ _ _ => ?_
    refine (silent_ofExcept _).bind_atomic fun _ _ _ => ?_
    exact atomic_of_total fun _ => ⟨(), rfl⟩
  · have other : ∀ pipeId payload, frame ≠ .data pipeId payload :=
      fun pipeId payload same => data ⟨pipeId, payload, same⟩
    rw [encode_of_ne_data other]
    refine (silent_collect _).bind_atomic fun _ _ _ => ?_
    refine (silent_ofExcept _).bind_atomic fun _ _ _ => ?_
    refine (silent_ofExcept _).bind_atomic fun _ _ _ => ?_
    exact atomic_of_total fun _ => ⟨(), rfl⟩

/-! ## Decoding -/

/-- The decoder of the codec. -/
def decoder (codec : FrameCodec) : Decoder ProtocolError Frame :=
  codec.format.decoder

theorem decodePayload_wire (admits : codec.Admits frame) (wellFormed : frame.WellFormed) :
    decodePayload frame.kind frame.payload = .ok frame :=
  decodePayload_eq_ok_iff.mpr ⟨wellFormed, admits.short, rfl, rfl⟩

/-- A frame the codec admits is taken off the front of a buffer. -/
theorem decode_wire (admits : codec.Admits frame) (wellFormed : frame.WellFormed) (rest : Bytes) :
    codec.decode (codec.wire frame ++ rest) = ⟨.ok (some frame), rest, 0⟩ :=
  codec.format.decode_frame admits.fits (checkFrameLen_eq_ok_iff.mpr admits.limited)
    (decodePayload_wire admits wellFormed) rest

/-- What is taken off the front of a buffer is a frame the codec admits. -/
theorem of_decode_some {source : Bytes}
    (found : (codec.decode source).result = .ok (some frame)) :
    codec.Admits frame ∧ frame.WellFormed ∧
      source = codec.wire frame ++ (codec.decode source).rest := by
  rcases codec.format.of_decode_some found with
    ⟨kind, payload, fits, accepted, decoded, shape⟩
  rcases decodePayload_eq_ok_iff.mp decoded with ⟨wellFormed, short, rfl, rfl⟩
  exact ⟨⟨short, checkFrameLen_eq_ok_iff.mp accepted, fits⟩, wellFormed, shape⟩

/-- The bytes an encode of the frame appends to some output. -/
def Encodes (codec : FrameCodec) (frame : Frame) (bytes : Bytes) : Prop :=
  ∃ output, codec.encode frame output = (.ok (), output ++ bytes)

theorem Encodes.admits {bytes : Bytes} (encodes : codec.Encodes frame bytes) :
    codec.Admits frame ∧ bytes = codec.wire frame := by
  rcases encodes with ⟨output, encoded⟩
  rcases encode_eq_ok_iff.mp encoded with ⟨admits, _, same⟩
  exact ⟨admits, List.append_cancel_left same⟩

/-- A frame the codec admits is encoded into an empty output. -/
theorem encode_nil (admits : codec.Admits frame) :
    codec.encode frame [] = (.ok (), codec.wire frame) := by
  refine encode_eq_ok_iff.mpr ⟨admits, fun _ _ _ => ?_, rfl⟩
  have fits := admits.fits
  rw [length_wire, List.length_nil]
  unfold headerLen usizeMax
  omega

/-- However the bytes of encoded frames are cut into chunks, the decoder returns
the frames and leaves nothing over.  A failed encode leaves the output alone,
and the decoder asks for, and reserves room for, at most a header and the
limit. -/
theorem chunked_round_trip (codec : FrameCodec) :
    (∀ (frames : List Frame) (images chunks : List Bytes),
      (∀ frame ∈ frames, frame.WellFormed) →
      List.Forall₂ codec.Encodes frames images →
      chunks.flatten = images.flatten →
      codec.decoder.feed [] chunks = ⟨frames, .ok (), []⟩) ∧
    (∀ (frame : Frame) (output : Bytes) (error : ProtocolError),
      (codec.encode frame output).1 = .error error →
      (codec.encode frame output).2 = output) ∧
    ∀ source : Bytes,
      ((codec.decode source).result = .ok none →
        source.length < headerLen + codec.maxFrameLen ∧
        source.length + (codec.decode source).reserved ≤
          headerLen + codec.maxFrameLen) ∧
      ((codec.decode source).result ≠ .ok none →
        (codec.decode source).reserved = 0) := by
  refine ⟨?_, codec.encode_atomic, ?_⟩
  · intro frames images chunks wellFormed encoded cut
    obtain ⟨flat, admits⟩ :=
      Decoder.flatten_of_encodes (@Encodes.admits codec) encoded
    apply Decoder.feed_images codec.wire
      (fun frame => codec.Admits frame ∧ frame.WellFormed) rfl
    · intro frame rest sent
      have decoded := decode_wire sent.1 sent.2 rest
      exact ⟨congrArg Decoded.result decoded, congrArg Decoded.rest decoded⟩
    · exact fun frame member => ⟨admits frame member, wellFormed frame member⟩
    · exact cut.trans flat
  · intro source
    constructor
    · intro asks
      have limited : ∀ length, codec.format.checkLength length = .ok () →
          length ≤ codec.maxFrameLen := fun _ => checkFrameLen_eq_ok_iff.mp
      exact (codec.format.room_of_decode_none limited asks).2
    · exact codec.format.reserved_of_decode

/-- A `ping` cut inside its header and inside its nonce. -/
theorem chunked_round_trip_ping :
    (FrameCodec.decoder ⟨16⟩).feed []
      [[82, 71, 3], [], [19, 0, 0, 0, 8, 0, 0, 0, 0, 0, 0], [0, 5]] =
        ⟨[.ping 5], .ok (), []⟩ :=
  (chunked_round_trip ⟨16⟩).1 [.ping 5]
    [[82, 71, 3, 19, 0, 0, 0, 8, 0, 0, 0, 0, 0, 0, 0, 5]] _
    (by decide) (.cons ⟨[], rfl⟩ .nil) rfl

/-- What the decoder takes off a buffer is what the encoder writes for the frame
it returns, and an error does not depend on what follows. -/
theorem decode_canonical (codec : FrameCodec) :
    (∀ (source : Bytes) (frame : Frame),
      (codec.decode source).result = .ok (some frame) →
      ∃ consumed, source = consumed ++ (codec.decode source).rest ∧
        codec.encode frame [] = (.ok (), consumed)) ∧
    (∀ (first second : Bytes) (frame : Frame),
      (codec.decode first).result = .ok (some frame) →
      (codec.decode second).result = .ok (some frame) →
      (codec.decode first).rest = [] → (codec.decode second).rest = [] →
      first = second) ∧
    ∀ (source more : Bytes) (error : ProtocolError),
      (codec.decode source).result = .error error →
      ∃ error, (codec.decode (source ++ more)).result = .error error := by
  refine ⟨?_, ?_, ?_⟩
  · intro source frame found
    rcases of_decode_some found with ⟨admits, _, shape⟩
    exact ⟨codec.wire frame, shape, encode_nil admits⟩
  · intro first second frame first_found second_found first_rest second_rest
    have first_shape := (of_decode_some first_found).2.2
    have second_shape := (of_decode_some second_found).2.2
    rw [first_rest] at first_shape
    rw [second_rest] at second_shape
    rw [first_shape, second_shape]
  · intro source more error found
    exact ⟨error, codec.format.error_append more found⟩

/-- The bytes of a `publishFailed`, before the first byte of another frame. -/
theorem decode_canonical_publishFailed :
    ∃ consumed, [82, 71, 3, 6, 0, 0, 0, 13, 0, 0, 0, 0, 0, 0, 0, 7, 4, 0, 2, 110, 111, 82] =
        consumed ++ [82] ∧
      FrameCodec.encode ⟨64⟩ (.publishFailed 7 .notFound "no") [] = (.ok (), consumed) :=
  (decode_canonical ⟨64⟩).1 [82, 71, 3, 6, 0, 0, 0, 13, 0, 0, 0, 0, 0, 0, 0, 7, 4, 0, 2, 110,
    111, 82] (.publishFailed 7 .notFound "no") rfl

/-- However arbitrary bytes are cut into chunks, the decoder returns the frames whose
encodings they begin with, and stops where no other frame begins: it asks for more, or
reports what is wrong there. -/
theorem chunked_decode (codec : FrameCodec) (chunks : List Bytes) :
    codec.decoder.Reads codec.wire (fun frame => codec.Admits frame ∧ frame.WellFormed)
      chunks.flatten (codec.decoder.feed [] chunks) := by
  refine Decoder.reads_feed (fun found => ?_) chunks rfl
  obtain ⟨admits, wellFormed, shape⟩ := of_decode_some found
  exact ⟨⟨admits, wellFormed⟩, shape⟩

end FrameCodec

end RelayGate
