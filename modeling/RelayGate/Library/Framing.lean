import RelayGate.Library.ByteCodec

/-!
# Length-prefixed frames over a byte stream

A decoder takes frames from the front of a buffer that grows chunk by chunk.
If what it decides about a buffer stays decided when bytes follow, the way the
stream is cut into chunks does not matter: feeding the chunks gives what one
drain of all the bytes gives.

A `Format` is such a decoder for frames with an eight-byte header: two magic
bytes, a version, a kind and the length of the payload.
-/

namespace RelayGate.Library

/-- What one call of a decoder does: its result, what the buffer holds
afterwards, and the room it reserves for more bytes. -/
structure Decoded (ε α : Type) where
  result : Except ε (Option α)
  rest : Bytes
  reserved : Nat

/-- A decoder of a growing buffer.  It consumes a part of the buffer for every
frame, leaves the buffer alone when it asks for more, and does not change its
mind about a frame or an error when more bytes follow. -/
structure Decoder (ε α : Type) where
  decode : Bytes → Decoded ε α
  consumes : ∀ {buffer frame}, (decode buffer).result = .ok (some frame) →
    (decode buffer).rest.length < buffer.length
  keeps : ∀ {buffer}, (decode buffer).result = .ok none →
    (decode buffer).rest = buffer
  frame_append : ∀ {buffer frame} (more : Bytes),
    (decode buffer).result = .ok (some frame) →
    (decode (buffer ++ more)).result = .ok (some frame) ∧
      (decode (buffer ++ more)).rest = (decode buffer).rest ++ more
  error_append : ∀ {buffer error} (more : Bytes),
    (decode buffer).result = .error error →
    (decode (buffer ++ more)).result = .error error

/-- What decoding a buffer gave before it stopped: because the decoder asks
for more, or at an error. -/
structure Drained (ε α : Type) where
  frames : List α
  stopped : Except ε Unit
  buffer : Bytes

/-- The same with frames before. -/
def Drained.after {ε α : Type} (frames : List α) (drained : Drained ε α) :
    Drained ε α :=
  { drained with frames := frames ++ drained.frames }

namespace Decoder

variable {ε α : Type} (decoder : Decoder ε α) {buffer : Bytes}

/-- Decode until the decoder asks for more or fails. -/
def drain (buffer : Bytes) : Drained ε α :=
  match _step : (decoder.decode buffer).result with
  | .error error => ⟨[], .error error, (decoder.decode buffer).rest⟩
  | .ok none => ⟨[], .ok (), (decoder.decode buffer).rest⟩
  | .ok (some frame) => (drain (decoder.decode buffer).rest).after [frame]
termination_by buffer.length
decreasing_by exact decoder.consumes _step

/-- Append each chunk to the buffer and drain it, up to the first error. -/
def feed (buffer : Bytes) : List Bytes → Drained ε α
  | [] => ⟨[], .ok (), buffer⟩
  | chunk :: chunks =>
      let drained := decoder.drain (buffer ++ chunk)
      match drained.stopped with
      | .error _ => drained
      | .ok () => (feed drained.buffer chunks).after drained.frames

variable {decoder}

theorem drain_of_error {error : ε} (failed : (decoder.decode buffer).result = .error error) :
    decoder.drain buffer = ⟨[], .error error, (decoder.decode buffer).rest⟩ := by
  rw [drain]
  split <;> simp_all

theorem drain_of_none (asks : (decoder.decode buffer).result = .ok none) :
    decoder.drain buffer = ⟨[], .ok (), buffer⟩ := by
  rw [drain, decoder.keeps asks]
  split <;> simp_all

theorem drain_of_frame {frame : α} (decoded : (decoder.decode buffer).result = .ok (some frame)) :
    decoder.drain buffer = (decoder.drain (decoder.decode buffer).rest).after [frame] := by
  rw [drain]
  split <;> simp_all

/-- More bytes are decoded after the frames that were complete without them. -/
theorem drain_append (buffer more : Bytes) (asked : (decoder.drain buffer).stopped = .ok ()) :
    decoder.drain (buffer ++ more) =
      (decoder.drain ((decoder.drain buffer).buffer ++ more)).after
        (decoder.drain buffer).frames := by
  -- By induction on the frames the shorter buffer holds.
  induction buffer using drain.induct decoder with
  | case1 buffer error failed =>
    simp [drain_of_error failed] at asked
  | case2 buffer asks =>
    rw [drain_of_none asks]
    rfl
  | case3 buffer frame decoded ih =>
    have extended := decoder.frame_append more decoded
    rw [drain_of_frame decoded] at asked ⊢
    rw [drain_of_frame extended.1, extended.2, ih asked]
    rfl

/-- An error in a part of the bytes is an error in all of them. -/
theorem drain_append_error (buffer more : Bytes) {error : ε}
    (failed : (decoder.drain buffer).stopped = .error error) :
    (decoder.drain (buffer ++ more)).stopped = .error error := by
  induction buffer using drain.induct decoder with
  | case1 buffer first failing =>
    rw [drain_of_error failing] at failed
    rw [drain_of_error (decoder.error_append more failing)]
    exact failed
  | case2 buffer asks =>
    simp [drain_of_none asks] at failed
  | case3 buffer frame decoded ih =>
    have extended := decoder.frame_append more decoded
    rw [drain_of_frame decoded] at failed
    rw [drain_of_frame extended.1, extended.2]
    exact ih failed

/-- What a drain leaves in the buffer is too little for another frame. -/
theorem drain_drained (buffer : Bytes) (asked : (decoder.drain buffer).stopped = .ok ()) :
    (decoder.decode (decoder.drain buffer).buffer).result = .ok none := by
  induction buffer using drain.induct decoder with
  | case1 buffer error failed =>
    simp [drain_of_error failed] at asked
  | case2 buffer asks =>
    rw [drain_of_none asks]
    exact asks
  | case3 buffer frame decoded ih =>
    rw [drain_of_frame decoded] at asked ⊢
    exact ih asked

/-- The chunks do not matter: feeding them one by one gives what one drain of
all the bytes gives. -/
theorem feed_eq_drain (chunks : List Bytes) (asks : (decoder.decode buffer).result = .ok none)
    (asked : (decoder.drain (buffer ++ chunks.flatten)).stopped = .ok ()) :
    decoder.feed buffer chunks = decoder.drain (buffer ++ chunks.flatten) := by
  induction chunks generalizing buffer with
  | nil =>
    rw [List.flatten_nil, List.append_nil, drain_of_none asks]
    rfl
  | cons chunk chunks ih =>
    rw [List.flatten_cons, ← List.append_assoc] at asked ⊢
    cases first : (decoder.drain (buffer ++ chunk)).stopped with
    | error =>
      rw [drain_append_error _ _ first] at asked
      cases asked
    | ok =>
      rw [drain_append _ _ first] at asked ⊢
      simp only [feed, first]
      rw [ih (drain_drained _ first) asked]

/-- A decoder that takes the image of a frame off the front of every buffer
takes any sequence of images apart. -/
theorem drain_images (image : α → Bytes) (Sent : α → Prop)
    (idle : (decoder.decode []).result = .ok none)
    (whole : ∀ frame rest, Sent frame →
      (decoder.decode (image frame ++ rest)).result = .ok (some frame) ∧
        (decoder.decode (image frame ++ rest)).rest = rest)
    (frames : List α) (sent : ∀ frame ∈ frames, Sent frame) :
    decoder.drain (frames.flatMap image) = ⟨frames, .ok (), []⟩ := by
  induction frames with
  | nil => exact drain_of_none idle
  | cons frame frames ih =>
    simp only [List.mem_cons, forall_eq_or_imp] at sent
    have decoded := whole frame (frames.flatMap image) sent.1
    rw [List.flatMap_cons, drain_of_frame decoded.1, decoded.2, ih sent.2]
    rfl

/-- Such a decoder takes a sequence of images apart however it is cut into
chunks. -/
theorem feed_images (image : α → Bytes) (Sent : α → Prop)
    (idle : (decoder.decode []).result = .ok none)
    (whole : ∀ frame rest, Sent frame →
      (decoder.decode (image frame ++ rest)).result = .ok (some frame) ∧
        (decoder.decode (image frame ++ rest)).rest = rest)
    {frames : List α} (sent : ∀ frame ∈ frames, Sent frame)
    {chunks : List Bytes} (cut : chunks.flatten = frames.flatMap image) :
    decoder.feed [] chunks = ⟨frames, .ok (), []⟩ := by
  have drained : decoder.drain ([] ++ chunks.flatten) = ⟨frames, .ok (), []⟩ := by
    rw [List.nil_append, cut]
    exact drain_images image Sent idle whole frames sent
  have asked : (decoder.drain ([] ++ chunks.flatten)).stopped = .ok () := by
    rw [drained]
  rw [feed_eq_drain chunks idle asked, drained]

/-- The bytes are the images of the frames and a rest, at which the decoder asks for
more or fails.  A rest that is too short is kept. -/
def Reads (decoder : Decoder ε α) (image : α → Bytes) (Sent : α → Prop) (bytes : Bytes)
    (drained : Drained ε α) : Prop :=
  (∀ frame ∈ drained.frames, Sent frame) ∧
    ∃ rest, bytes = drained.frames.flatMap image ++ rest ∧
      (decoder.decode rest).result = drained.stopped.map (fun _ => none) ∧
      (drained.stopped = .ok () → drained.buffer = rest)

section

variable {image : α → Bytes} {Sent : α → Prop}
  (taken : ∀ {source frame}, (decoder.decode source).result = .ok (some frame) →
    Sent frame ∧ source = image frame ++ (decoder.decode source).rest)
include taken

theorem reads_drain (buffer : Bytes) :
    decoder.Reads image Sent buffer (decoder.drain buffer) := by
  induction buffer using drain.induct decoder with
  | case1 buffer error failed =>
    rw [drain_of_error failed]
    exact ⟨nofun, buffer, rfl, failed, nofun⟩
  | case2 buffer asks =>
    rw [drain_of_none asks]
    exact ⟨nofun, buffer, rfl, asks, fun _ => rfl⟩
  | case3 buffer frame decoded ih =>
    obtain ⟨sent, rest, split, stopped⟩ := ih
    obtain ⟨admitted, shape⟩ := taken decoded
    rw [drain_of_frame decoded]
    refine ⟨List.forall_mem_cons.mpr ⟨admitted, sent⟩, rest, ?_, stopped⟩
    rw [split] at shape
    simpa [Drained.after] using shape

/-- Whatever the bytes are and however they are cut. -/
theorem reads_feed (chunks : List Bytes) (asks : (decoder.decode buffer).result = .ok none) :
    decoder.Reads image Sent (buffer ++ chunks.flatten) (decoder.feed buffer chunks) := by
  induction chunks generalizing buffer with
  | nil => exact ⟨nofun, buffer, List.append_nil _, asks, fun _ => rfl⟩
  | cons chunk chunks ih =>
    obtain ⟨sent, rest, split, at_rest, kept⟩ := reads_drain taken (buffer ++ chunk)
    rw [List.flatten_cons, ← List.append_assoc, split, List.append_assoc, feed]
    cases first : (decoder.drain (buffer ++ chunk)).stopped with
    | error =>
      rw [first] at at_rest
      dsimp only
      exact ⟨sent, _, rfl, by rw [first]; exact decoder.error_append _ at_rest,
        by rw [first]; nofun⟩
    | ok =>
      obtain ⟨more, final, parts, ending⟩ := ih (drain_drained _ first)
      rw [kept first] at parts
      dsimp only
      refine ⟨List.forall_mem_append.mpr ⟨sent, more⟩, final, ?_, ending⟩
      rw [parts, kept first]
      simp [Drained.after]

end

/-- The images of encoded frames, one behind the other. -/
theorem flatten_of_encodes {image : α → Bytes} {Encodes : α → Bytes → Prop} {Admits : α → Prop}
    (exact : ∀ frame bytes, Encodes frame bytes → Admits frame ∧ bytes = image frame)
    {frames : List α} {images : List Bytes} (encoded : List.Forall₂ Encodes frames images) :
    images.flatten = frames.flatMap image ∧ ∀ frame ∈ frames, Admits frame := by
  induction encoded with
  | nil => simp
  | cons first _ ih =>
    obtain ⟨admits, rfl⟩ := exact _ _ first
    simp only [List.flatten_cons, List.flatMap_cons, List.mem_cons, forall_eq_or_imp]
    exact ⟨by rw [ih.1], admits, ih.2⟩

end Decoder

/-! ## Frames with a header -/

/-- The parts of a frame format a codec chooses: the magic bytes, the version,
the errors for others, which payload lengths it accepts, and the payloads. -/
structure Format (ε α : Type) where
  magic : UInt8 × UInt8
  version : UInt8
  invalidMagic : ε
  unsupportedVersion : UInt8 → ε
  checkLength : Nat → Except ε Unit
  decodePayload : UInt8 → Bytes → Except ε α

namespace Format

variable {ε α : Type} (format : Format ε α) {kind : UInt8} {length : Nat} {source : Bytes}

/-- Number of bytes before a payload. -/
def headerLen : Nat := 8

/-- The bytes before a payload. -/
def header (kind : UInt8) (length : Nat) : Bytes :=
  [format.magic.1, format.magic.2, format.version, kind] ++ bigEndian 4 length

/-- The bytes of a frame. -/
def frame (kind : UInt8) (payload : Bytes) : Bytes :=
  format.header kind payload.length ++ payload

/-- Decode a frame whose header announces a payload, from the bytes after the
header. -/
def decodeBody (source : Bytes) (kind : UInt8) (length : Nat) (body : Bytes) :
    Decoded ε α :=
  match format.checkLength length with
  | .error error => ⟨.error error, source, 0⟩
  | .ok () =>
      if body.length < length then
        ⟨.ok none, source, headerLen + length - source.length⟩
      else
        ⟨(format.decodePayload kind (body.take length)).map some,
          body.drop length, 0⟩

/-- Decode the frame at the front of a buffer, or ask for more. -/
def decode (source : Bytes) : Decoded ε α :=
  match source with
  | first :: second :: version :: kind :: a :: b :: c :: d :: body =>
      if (first, second) ≠ format.magic then
        ⟨.error format.invalidMagic, source, 0⟩
      else if version ≠ format.version then
        ⟨.error (format.unsupportedVersion version), source, 0⟩
      else
        format.decodeBody source kind (fromBigEndian [a, b, c, d]) body
  | _ => ⟨.ok none, source, 0⟩

/-- What decoding a buffer finds: too little for a header, a header with too
little after it, an error that more bytes do not change, or a frame. -/
inductive Sight (source : Bytes) : Prop
  | short (few : source.length < headerLen)
      (decoded : format.decode source = ⟨.ok none, source, 0⟩)
  | waiting (length : Nat) (accepted : format.checkLength length = .ok ())
      (few : source.length < headerLen + length)
      (decoded : format.decode source =
        ⟨.ok none, source, headerLen + length - source.length⟩)
  | failed (error : ε) (rest : Bytes)
      (decoded : ∀ more, format.decode (source ++ more) =
        ⟨.error error, rest ++ more, 0⟩)
  | complete (kind : UInt8) (payload : Bytes) (item : α) (rest : Bytes)
      (fits : payload.length < 2 ^ 32)
      (accepted : format.checkLength payload.length = .ok ())
      (decoded : format.decodePayload kind payload = .ok item)
      (shape : source = format.frame kind payload ++ rest)

theorem length_header (kind : UInt8) (length : Nat) :
    (format.header kind length).length = headerLen := by
  simp [header, headerLen]

theorem decode_header (fits : length < 2 ^ 32) (body : Bytes) :
    format.decode (format.header kind length ++ body) =
      format.decodeBody (format.header kind length ++ body) kind length body := by
  have four := length_bigEndian 4 length
  have value : fromBigEndian (bigEndian 4 length) = length :=
    fromBigEndian_bigEndian (by simpa using fits)
  unfold header
  match bytes : bigEndian 4 length, four with
  | [a, b, c, d], _ =>
    rw [bytes] at value
    simp [decode, value]

theorem sight_header (fits : length < 2 ^ 32)
    (body : Bytes) : format.Sight (format.header kind length ++ body) := by
  cases accepted : format.checkLength length with
  | error error =>
    apply Sight.failed error (format.header kind length ++ body)
    intro more
    rw [List.append_assoc, decode_header format fits]
    simp only [decodeBody, accepted]
  | ok =>
    by_cases few : body.length < length
    · apply Sight.waiting length accepted
      · rw [List.length_append, length_header]
        omega
      · rw [decode_header format fits]
        simp only [decodeBody, accepted, if_pos few]
    · have taken : (body.take length).length = length :=
        List.length_take_of_le (Nat.not_lt.mp few)
      cases decoded : format.decodePayload kind (body.take length) with
      | error error =>
        apply Sight.failed error (body.drop length)
        intro more
        have enough : ¬ (body ++ more).length < length := by
          rw [List.length_append]
          omega
        rw [List.append_assoc, decode_header format fits]
        simp only [decodeBody, accepted, if_neg enough,
          List.take_append_of_le_length (Nat.not_lt.mp few),
          List.drop_append_of_le_length (Nat.not_lt.mp few), decoded]
        rfl
      | ok item =>
        apply Sight.complete kind (body.take length) item (body.drop length)
        · rw [taken]
          exact fits
        · rw [taken]
          exact accepted
        · exact decoded
        · rw [frame, taken, List.append_assoc, List.take_append_drop]

theorem sight (source : Bytes) : format.Sight source := by
  match source with
  | first :: second :: version :: kind :: a :: b :: c :: d :: body =>
    by_cases magic : (first, second) = format.magic
    · by_cases known : version = format.version
      · have digits := bigEndian_fromBigEndian [a, b, c, d]
        have shape : first :: second :: version :: kind :: a :: b :: c :: d :: body =
            format.header kind (fromBigEndian [a, b, c, d]) ++ body := by
          simp only [List.length_cons, List.length_nil] at digits
          simp [header, digits, ← magic, known]
        rw [shape]
        apply sight_header
        simpa using fromBigEndian_lt [a, b, c, d]
      · apply Sight.failed (format.unsupportedVersion version)
          (first :: second :: version :: kind :: a :: b :: c :: d :: body)
        intro more
        simp [decode, magic, known]
    · apply Sight.failed format.invalidMagic
        (first :: second :: version :: kind :: a :: b :: c :: d :: body)
      intro more
      simp [decode, magic]
  | [] | [_] | [_, _] | [_, _, _] | [_, _, _, _] | [_, _, _, _, _]
  | [_, _, _, _, _, _] | [_, _, _, _, _, _, _] =>
    exact Sight.short (by simp [headerLen]) rfl

/-- A complete frame is taken off the front. -/
theorem decode_frame {payload : Bytes} {item : α} (fits : payload.length < 2 ^ 32)
    (accepted : format.checkLength payload.length = .ok ())
    (decoded : format.decodePayload kind payload = .ok item) (rest : Bytes) :
    format.decode (format.frame kind payload ++ rest) = ⟨.ok (some item), rest, 0⟩ := by
  rw [frame, List.append_assoc, decode_header format fits]
  simp [decodeBody, accepted, decoded, Except.map]

/-- What is taken off the front is a complete frame. -/
theorem of_decode_some {item : α} (found : (format.decode source).result = .ok (some item)) :
    ∃ kind payload, payload.length < 2 ^ 32 ∧
      format.checkLength payload.length = .ok () ∧
      format.decodePayload kind payload = .ok item ∧
      source = format.frame kind payload ++ (format.decode source).rest := by
  cases format.sight source with
  | short _ decoded | waiting _ _ _ decoded =>
    rw [decoded] at found
    cases found
  | failed error rest decoded =>
    rw [← List.append_nil source, decoded] at found
    cases found
  | complete kind payload first rest fits accepted decoded shape =>
    subst shape
    rw [decode_frame format fits accepted decoded] at found ⊢
    cases found
    exact ⟨kind, payload, fits, accepted, decoded, rfl⟩

theorem error_append {error : ε} (more : Bytes)
    (found : (format.decode source).result = .error error) :
    (format.decode (source ++ more)).result = .error error := by
  cases format.sight source with
  | short _ decoded | waiting _ _ _ decoded =>
    rw [decoded] at found
    cases found
  | failed first rest decoded =>
    rw [← List.append_nil source, decoded] at found
    rw [decoded]
    exact found
  | complete kind payload first rest fits accepted decoded shape =>
    subst shape
    rw [decode_frame format fits accepted decoded] at found
    cases found

/-- A decoder asks for no more bytes, and reserves room for no more, than a
header and the longest payload it accepts. -/
theorem room_of_decode_none {limit : Nat}
    (limited : ∀ length, format.checkLength length = .ok () → length ≤ limit)
    (asks : (format.decode source).result = .ok none) :
    (format.decode source).rest = source ∧ source.length < headerLen + limit ∧
      source.length + (format.decode source).reserved ≤ headerLen + limit := by
  cases format.sight source with
  | short few decoded =>
    rw [decoded]
    exact ⟨rfl, by omega, by simp; omega⟩
  | waiting length accepted few decoded =>
    have := limited length accepted
    rw [decoded]
    exact ⟨rfl, by omega, by simp; omega⟩
  | failed error rest decoded =>
    rw [← List.append_nil source, decoded] at asks
    cases asks
  | complete kind payload first rest fits accepted decoded shape =>
    subst shape
    rw [decode_frame format fits accepted decoded] at asks
    cases asks

/-- A decoder that does not ask for more reserves nothing. -/
theorem reserved_of_decode (stopped : (format.decode source).result ≠ .ok none) :
    (format.decode source).reserved = 0 := by
  cases format.sight source with
  | short _ decoded | waiting _ _ _ decoded =>
    rw [decoded] at stopped
    exact absurd rfl stopped
  | failed error rest decoded =>
    rw [← List.append_nil source, decoded]
  | complete kind payload first rest fits accepted decoded shape =>
    subst shape
    rw [decode_frame format fits accepted decoded]

/-- The decoder of a format. -/
def decoder : Decoder ε α where
  decode := format.decode
  consumes := by
    intro buffer item found
    rcases format.of_decode_some found with ⟨kind, payload, _, _, _, shape⟩
    conv_rhs => rw [shape]
    rw [List.length_append, frame, List.length_append, length_header, headerLen]
    omega
  keeps := by
    intro buffer asks
    cases format.sight buffer with
    | short _ decoded | waiting _ _ _ decoded => rw [decoded]
    | failed error rest decoded =>
        rw [← List.append_nil buffer, decoded] at asks
        cases asks
    | complete kind payload first rest fits accepted decoded shape =>
        subst shape
        rw [decode_frame format fits accepted decoded] at asks
        cases asks
  frame_append := by
    intro buffer item more found
    rcases format.of_decode_some found with
      ⟨kind, payload, fits, accepted, decoded, shape⟩
    have extended : buffer ++ more =
        format.frame kind payload ++ ((format.decode buffer).rest ++ more) := by
      rw [← List.append_assoc, ← shape]
    rw [extended, decode_frame format fits accepted decoded]
    exact ⟨rfl, rfl⟩
  error_append := fun more found => format.error_append more found

end Format

end RelayGate.Library
