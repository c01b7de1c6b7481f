import RelayGate.Peer.Wire

/-!
# The Gateway–Gateway codec over a byte stream

The encoder succeeds exactly on the frames `validate` accepts, and writes as
many bytes as it announced.  Streams of frames are read back however they are
cut, and what is read is what would have been written.
-/

namespace RelayGate.Peer

open Library ByteWriter

namespace PeerFrameCodec

variable {length : Nat} {done : Unit} {codec : PeerFrameCodec} {frame : PeerFrame}

/-- The bytes of a frame on the wire. -/
def wire (codec : PeerFrameCodec) (frame : PeerFrame) : Bytes :=
  codec.format.frame frame.kind frame.payload

/-- What the codec requires of a frame: short texts and a payload within the
limit and the four bytes of the length field. -/
structure Admits (codec : PeerFrameCodec) (frame : PeerFrame) : Prop where
  short : frame.Short
  limited : frame.payload.length ≤ codec.maxFrameLen
  fits : frame.payload.length < 2 ^ 32

@[simp]
theorem validatePayloadLen_eq_ok_iff :
    codec.validatePayloadLen length = .ok done ↔
      length ≤ codec.maxFrameLen ∧ length < 2 ^ 32 := by
  unfold validatePayloadLen
  split
  · simp only [reduceCtorEq, false_iff]
    omega
  · simp only [except_bind_eq_ok_iff, u32TryFrom_eq_ok_iff, except_pure_eq_ok_iff]
    constructor
    · rintro ⟨_, ⟨fits, _⟩, _⟩
      exact ⟨by omega, fits⟩
    · intro limits
      exact ⟨_, ⟨limits.2, rfl⟩, trivial⟩

theorem room_of_fits (fits : length < 2 ^ 32) :
    length ≤ usizeMax ∧ headerLen + length ≤ usizeMax := by
  unfold headerLen usizeMax
  omega

/-- `validate` accepts the frames the codec admits. -/
theorem validate_eq_ok_iff : codec.validate frame = .ok done ↔ codec.Admits frame := by
  simp only [validate, except_bind_eq_ok_iff, Prod.exists, frameMetadata_eq_ok_iff,
    validatePayloadLen_eq_ok_iff]
  constructor
  · rintro ⟨_, _, ⟨short, rfl, rfl, _⟩, limited, fits⟩
    exact ⟨short, limited, fits⟩
  · rintro ⟨short, limited, fits⟩
    exact ⟨_, _, ⟨short, rfl, rfl, (room_of_fits fits).1⟩, limited, fits⟩

/-- The encoder appends the bytes of the frames the codec admits. -/
theorem encode_eq_ok_iff {output final : Bytes} :
    codec.encode frame output = (.ok done, final) ↔
      codec.Admits frame ∧ final = output ++ codec.wire frame := by
  simp only [encode, bind_eq_ok_iff, ofExcept_eq_ok_iff, Prod.exists, frameMetadata_eq_ok_iff,
    validatePayloadLen_eq_ok_iff, u32TryFrom_eq_ok_iff, checkedAdd, Library.checkedAdd_eq_ok_iff,
    append_eq_ok_iff, puts_encodePayload frame _ _ _]
  constructor
  · rintro ⟨_, _, _, ⟨⟨short, rfl, rfl, _⟩, rfl⟩, _, _, ⟨⟨limited, _⟩, rfl⟩, _, _,
      ⟨⟨fits, rfl⟩, rfl⟩, _, _, ⟨⟨_, rfl⟩, rfl⟩, _, _, rfl, _, _, rfl⟩
    exact ⟨⟨short, limited, fits⟩, List.append_assoc _ _ _⟩
  · rintro ⟨⟨short, limited, fits⟩, rfl⟩
    have room := room_of_fits fits
    exact ⟨_, _, _, ⟨⟨short, rfl, rfl, room.1⟩, rfl⟩, (), _, ⟨⟨limited, fits⟩, rfl⟩,
      _, _, ⟨⟨fits, rfl⟩, rfl⟩, _, _, ⟨⟨room.2, rfl⟩, rfl⟩, (), _, rfl, short,
      trivial, (List.append_assoc _ _ _).symm⟩

/-- An encode that fails leaves the output alone: once the length is known the
payload writer cannot fail. -/
theorem encode_atomic (codec : PeerFrameCodec) (frame : PeerFrame) :
    (codec.encode frame).Atomic := by
  unfold encode
  refine (silent_ofExcept _).bind_atomic fun output metadata announced => ?_
  refine (silent_ofExcept _).bind_atomic fun _ _ _ => ?_
  refine (silent_ofExcept _).bind_atomic fun _ _ _ => ?_
  refine (silent_ofExcept _).bind_atomic fun _ _ _ => ?_
  rcases metadata with ⟨kind, length⟩
  have short : frame.Short := (frameMetadata_eq_ok_iff.mp announced).1
  apply ((puts_raw _).bind (puts_encodePayload frame)).atomic
  intro field member
  rcases List.mem_append.mp member with header | payload
  · cases List.mem_singleton.mp header
    trivial
  · exact short field payload

/-! ## Streams -/

/-- The decoder of the codec. -/
def decoder (codec : PeerFrameCodec) : Decoder PeerCodecError PeerFrame :=
  codec.format.decoder

theorem checkLength_eq_ok_iff :
    codec.format.checkLength length = .ok done ↔
      length ≤ codec.maxFrameLen ∧ length < 2 ^ 32 := by
  simp only [format, except_bind_eq_ok_iff, validatePayloadLen_eq_ok_iff, checkedAdd,
    Library.checkedAdd_eq_ok_iff]
  constructor
  · rintro ⟨_, limits, _⟩
    exact limits
  · intro limits
    exact ⟨(), limits, _, ⟨(room_of_fits limits.2).2, rfl⟩, rfl⟩

/-- A frame the codec admits is taken off the front of a buffer. -/
theorem decode_wire (admits : codec.Admits frame) (wellFormed : frame.WellFormed) (rest : Bytes) :
    codec.decode (codec.wire frame ++ rest) = ⟨.ok (some frame), rest, 0⟩ :=
  codec.format.decode_frame admits.fits
    (checkLength_eq_ok_iff.mpr ⟨admits.limited, admits.fits⟩)
    (decodePayload_eq_ok_iff.mpr ⟨wellFormed, admits.short, rfl, rfl⟩) rest

/-- What is taken off the front of a buffer is a frame the codec admits. -/
theorem of_decode_some {source : Bytes}
    (found : (codec.decode source).result = .ok (some frame)) :
    codec.Admits frame ∧ source = codec.wire frame ++ (codec.decode source).rest := by
  rcases codec.format.of_decode_some found with
    ⟨kind, payload, fits, accepted, decoded, shape⟩
  rcases decodePayload_eq_ok_iff.mp decoded with ⟨_, short, rfl, rfl⟩
  exact ⟨⟨short, (checkLength_eq_ok_iff.mp accepted).1, fits⟩, shape⟩

/-- The bytes an encode of the frame appends to some output. -/
def Encodes (codec : PeerFrameCodec) (frame : PeerFrame) (bytes : Bytes) : Prop :=
  ∃ output, codec.encode frame output = (.ok (), output ++ bytes)

theorem Encodes.admits {bytes : Bytes} (encodes : codec.Encodes frame bytes) :
    codec.Admits frame ∧ bytes = codec.wire frame := by
  rcases encodes with ⟨output, encoded⟩
  rcases encode_eq_ok_iff.mp encoded with ⟨admits, same⟩
  exact ⟨admits, List.append_cancel_left same⟩

/-- An encode succeeds exactly if `validate` does, appends the announced number
of bytes behind a header, and otherwise leaves the output alone; encoded frames
are read back however their bytes are cut; and a frame that is read encodes to
the bytes it was read from. -/
theorem encode_agrees (codec : PeerFrameCodec) :
    (∀ (frame : PeerFrame) (output : Bytes),
      ((codec.encode frame output).1 = .ok () ↔ codec.validate frame = .ok ()) ∧
      ((codec.encode frame output).1 = .ok () →
        ∃ kind payloadLen bytes, frameMetadata frame = .ok (kind, payloadLen) ∧
          (codec.encode frame output).2 = output ++ bytes ∧
          bytes.length = headerLen + payloadLen) ∧
      ((codec.encode frame output).1 ≠ .ok () →
        (codec.encode frame output).2 = output)) ∧
    (∀ (frames : List PeerFrame) (images chunks : List Bytes),
      (∀ frame ∈ frames, frame.WellFormed) →
      List.Forall₂ codec.Encodes frames images →
      chunks.flatten = images.flatten →
      codec.decoder.feed [] chunks = ⟨frames, .ok (), []⟩) ∧
    ∀ (source : Bytes) (frame : PeerFrame),
      (codec.decode source).result = .ok (some frame) →
      ∃ consumed, source = consumed ++ (codec.decode source).rest ∧
        ∀ output, codec.encode frame output = (.ok (), output ++ consumed) := by
  refine ⟨?_, ?_, ?_⟩
  · intro frame output
    have encoded (ok : (codec.encode frame output).1 = .ok ()) :
        codec.Admits frame ∧
          (codec.encode frame output).2 = output ++ codec.wire frame :=
      encode_eq_ok_iff.mp (Prod.ext ok rfl)
    refine ⟨⟨?_, ?_⟩, ?_, ?_⟩
    · intro ok
      exact validate_eq_ok_iff.mpr (encoded ok).1
    · intro valid
      have admits := validate_eq_ok_iff.mp valid
      exact congrArg Prod.fst (encode_eq_ok_iff.mpr ⟨admits, rfl⟩)
    · intro ok
      have admits := (encoded ok).1
      refine ⟨frame.kind, frame.payload.length, codec.wire frame, ?_, (encoded ok).2, ?_⟩
      · exact frameMetadata_eq_ok_iff.mpr
          ⟨admits.short, rfl, rfl, (room_of_fits admits.fits).1⟩
      · rw [wire, Format.frame, List.length_append, Format.length_header]
        rfl
    · intro failed
      cases result : (codec.encode frame output).1 with
      | ok => exact absurd result failed
      | error error => exact codec.encode_atomic frame output error result
  · intro frames images chunks wellFormed encoded cut
    obtain ⟨flat, admits⟩ :=
      Decoder.flatten_of_encodes (@Encodes.admits codec) encoded
    apply Decoder.feed_images codec.wire
      (fun frame => codec.Admits frame ∧ frame.WellFormed) rfl
    · intro frame rest sent
      have decoded := decode_wire sent.1 sent.2 rest
      exact ⟨congrArg Decoded.result decoded, congrArg Decoded.rest decoded⟩
    · exact fun frame member => ⟨admits frame member, wellFormed frame member⟩
    · exact cut.trans flat
  · intro source frame found
    rcases of_decode_some found with ⟨admits, shape⟩
    exact ⟨codec.wire frame, shape, fun output => encode_eq_ok_iff.mpr ⟨admits, rfl⟩⟩

/-- A `fin` cut inside its header and inside its stream number. -/
theorem encode_agrees_fin :
    (PeerFrameCodec.decoder ⟨16⟩).feed []
      [[71], [80, 3, 8, 0, 0, 0, 8, 0, 0, 0, 0], [], [0, 0, 0, 6]] =
        ⟨[.fin ⟨6⟩], .ok (), []⟩ :=
  (encode_agrees ⟨16⟩).2.1 [.fin ⟨6⟩]
    [[71, 80, 3, 8, 0, 0, 0, 8, 0, 0, 0, 0, 0, 0, 0, 6]] _
    (by decide) (.cons ⟨[], rfl⟩ .nil) rfl

/-- Arbitrary bytes of a peer are read in the same way. -/
theorem chunked_peer_decode (codec : PeerFrameCodec) (chunks : List Bytes) :
    codec.decoder.Reads codec.wire codec.Admits chunks.flatten
      (codec.decoder.feed [] chunks) :=
  Decoder.reads_feed of_decode_some chunks rfl

end PeerFrameCodec

end RelayGate.Peer
