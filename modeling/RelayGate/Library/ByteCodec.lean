import Mathlib

/-!
# Reading and writing bytes

Big-endian numbers, UTF-8 text, and the two kinds of programs wire codecs are
written as.  A reader consumes the front of its input or fails.  A writer
appends to its output; one that fails keeps what it has appended so far, so
that whether a failure leaves the output alone is a fact about the writer.
-/

namespace RelayGate.Library

variable {ε α : Type}

/-- A string of bytes. -/
abbrev Bytes := List UInt8

/-! ## Big-endian numbers -/

/-- The low `width` bytes of a number, most significant first. -/
def bigEndian : Nat → Nat → Bytes
  | 0, _ => []
  | width + 1, value => bigEndian width (value / 256) ++ [UInt8.ofNat value]

/-- The number a string of bytes spells, most significant first. -/
def fromBigEndian (bytes : Bytes) : Nat :=
  bytes.foldl (fun value byte => 256 * value + byte.toNat) 0

@[simp]
theorem length_bigEndian (width value : Nat) : (bigEndian width value).length = width := by
  induction width generalizing value with
  | zero => rfl
  | succ width ih => simp [bigEndian, ih]

@[simp]
theorem fromBigEndian_nil : fromBigEndian [] = 0 :=
  rfl

@[simp]
theorem fromBigEndian_concat (bytes : Bytes) (byte : UInt8) :
    fromBigEndian (bytes ++ [byte]) = 256 * fromBigEndian bytes + byte.toNat := by
  simp [fromBigEndian]

theorem fromBigEndian_lt (bytes : Bytes) : fromBigEndian bytes < 256 ^ bytes.length := by
  induction bytes using List.reverseRecOn with
  | nil => simp
  | append_singleton bytes byte =>
    have small := byte.toNat_lt
    rw [fromBigEndian_concat, List.length_append, List.length_singleton, pow_succ]
    omega

/-- A number that fits the width is read back. -/
theorem fromBigEndian_bigEndian {width value : Nat} (fits : value < 256 ^ width) :
    fromBigEndian (bigEndian width value) = value := by
  induction width generalizing value with
  | zero =>
    have : value = 0 := by simpa using fits
    simp [bigEndian, this]
  | succ width ih =>
    have quotient : value / 256 < 256 ^ width := by
      rw [pow_succ] at fits
      omega
    rw [bigEndian, fromBigEndian_concat, ih quotient, UInt8.toNat_ofNat']
    omega

/-- The bytes of the number a string spells are the string. -/
theorem bigEndian_fromBigEndian (bytes : Bytes) :
    bigEndian bytes.length (fromBigEndian bytes) = bytes := by
  induction bytes using List.reverseRecOn with
  | nil => rfl
  | append_singleton bytes byte ih =>
    have small := byte.toNat_lt
    have quotient : (256 * fromBigEndian bytes + byte.toNat) / 256 =
        fromBigEndian bytes := by
      omega
    have low : UInt8.ofNat (256 * fromBigEndian bytes + byte.toNat) = byte := by
      apply UInt8.toNat_inj.mp
      rw [UInt8.toNat_ofNat']
      omega
    rw [List.length_append, List.length_singleton, fromBigEndian_concat,
      bigEndian, quotient, low, ih]

/-! ## Machine sizes and optional values -/

/-- The largest machine size. -/
def usizeMax : Nat := 2 ^ 64 - 1

/-- The sum of two sizes, unless it overflows. -/
def checkedAdd {ε : Type} (overflow : ε) (left right : Nat) : Except ε Nat :=
  if usizeMax < left + right then .error overflow else .ok (left + right)

/-- A size as a number of four bytes, unless it is too large. -/
def u32TryFrom {ε : Type} (overflow : ε) (size : Nat) : Except ε Nat :=
  if size < 2 ^ 32 then .ok size else .error overflow

/-- The value, or the error in its place. -/
def okOr {ε α : Type} (error : ε) : Option α → Except ε α
  | some value => .ok value
  | none => .error error

@[simp]
theorem except_bind_eq_ok_iff {β : Type} {outcome : Except ε α}
    {next : α → Except ε β} {result : β} :
    (outcome >>= next) = .ok result ↔ ∃ value, outcome = .ok value ∧ next value = .ok result := by
  cases outcome <;> simp [bind, Except.bind]

@[simp]
theorem except_pure_eq_ok_iff {value result : α} :
    (pure value : Except ε α) = .ok result ↔ result = value := by
  simp [pure, Except.pure, eq_comm]

@[simp]
theorem checkedAdd_eq_ok_iff {overflow : ε} {left right sum : Nat} :
    checkedAdd overflow left right = .ok sum ↔ left + right ≤ usizeMax ∧ left + right = sum := by
  unfold checkedAdd
  split <;> simp <;> omega

@[simp]
theorem u32TryFrom_eq_ok_iff {overflow : ε} {size number : Nat} :
    u32TryFrom overflow size = .ok number ↔ size < 2 ^ 32 ∧ size = number := by
  unfold u32TryFrom
  split <;> simp <;> omega

@[simp]
theorem okOr_eq_ok_iff {error : ε} {found : Option α} {value : α} :
    okOr error found = .ok value ↔ found = some value := by
  cases found <;> simp [okOr]

@[simp]
theorem mapError_eq_ok_iff {ε' : Type} {outcome : Except ε α} {change : ε → ε'} {value : α} :
    outcome.mapError change = .ok value ↔ outcome = .ok value := by
  cases outcome <;> simp [Except.mapError]

/-! ## UTF-8 text -/

/-- The UTF-8 bytes of a text. -/
def utf8 (text : String) : Bytes :=
  text.toByteArray.data.toList

/-- The text whose UTF-8 bytes these are, if there is one. -/
def fromUtf8 (bytes : Bytes) : Option String :=
  String.fromUTF8? ⟨bytes.toArray⟩

@[simp]
theorem length_utf8 (text : String) : (utf8 text).length = text.utf8ByteSize :=
  rfl

@[simp]
theorem fromUtf8_eq_some_iff {bytes : Bytes} {text : String} :
    fromUtf8 bytes = some text ↔ bytes = utf8 text := by
  unfold fromUtf8 String.fromUTF8? utf8
  constructor
  · intro read
    split at read
    · cases read
      rfl
    · cases read
  · rintro rfl
    exact dif_pos text.isValidUTF8

@[simp]
theorem utf8_inj {first second : String} : utf8 first = utf8 second ↔ first = second := by
  constructor
  · intro same
    have read := fromUtf8_eq_some_iff.mpr same
    rw [fromUtf8_eq_some_iff.mpr rfl] at read
    exact Option.some.inj read
  · exact congrArg utf8

/-- A byte below 128 is the encoding of its character. -/
theorem utf8EncodeChar_ofUInt8 {byte : UInt8} (ascii : byte < 128) :
    String.utf8EncodeChar (Char.ofUInt8 byte) = [byte] := by
  have small : (Char.ofUInt8 byte).val.toNat ≤ 127 := by
    have := UInt8.lt_iff_toNat_lt.mp ascii
    simp only [Char.ofUInt8, UInt8.toNat_toUInt32]
    exact Nat.le_of_lt_succ this
  simp only [String.utf8EncodeChar, small, if_true]
  simp [Char.ofUInt8]

theorem exists_utf8_of_ascii {bytes : Bytes}
    (ascii : ∀ byte ∈ bytes, byte < 128) : ∃ text, bytes = utf8 text := by
  have encoded :
      (bytes.map Char.ofUInt8).flatMap String.utf8EncodeChar = bytes := by
    induction bytes with
    | nil => rfl
    | cons byte bytes ih =>
      simp only [List.mem_cons, forall_eq_or_imp] at ascii
      rw [List.map_cons, List.flatMap_cons, ih ascii.2,
        utf8EncodeChar_ofUInt8 ascii.1, List.singleton_append]
  have valid : ByteArray.IsValidUTF8 ⟨bytes.toArray⟩ := by
    apply ByteArray.IsValidUTF8.intro (bytes.map Char.ofUInt8)
    rw [List.utf8Encode, encoded]
    apply ByteArray.ext
    simp
  exact ⟨String.fromUTF8 _ valid, rfl⟩

/-! ## Fields of a payload -/

/-- A field of a payload: a number of fixed width, a text after its length in
two bytes, or bytes as they are. -/
inductive Field
  | number (width value : Nat)
  | text (bytes : Bytes)
  | raw (bytes : Bytes)

namespace Field

/-- The bytes of a field. -/
def bytes : Field → Bytes
  | .number width value => bigEndian width value
  | .text bytes => bigEndian 2 bytes.length ++ bytes
  | .raw bytes => bytes

/-- The number fits the width. -/
def Bounded : Field → Prop
  | .number width value => value < 256 ^ width
  | .text _ => True
  | .raw _ => True

/-- The length of the text fits two bytes. -/
def Short : Field → Prop
  | .number _ _ => True
  | .text bytes => bytes.length < 2 ^ 16
  | .raw _ => True

instance : DecidablePred Bounded
  | .number width value => inferInstanceAs (Decidable (value < 256 ^ width))
  | .text _ | .raw _ => inferInstanceAs (Decidable True)

instance : DecidablePred Short
  | .text bytes => inferInstanceAs (Decidable (bytes.length < 2 ^ 16))
  | .number _ _ | .raw _ => inferInstanceAs (Decidable True)

/-- The field is read back as it was written. -/
def Fits (field : Field) : Prop :=
  field.Bounded ∧ field.Short

@[simp]
theorem fits_number {width value : Nat} : (number width value).Fits ↔ value < 256 ^ width := by
  simp [Fits, Bounded, Short]

@[simp]
theorem fits_text {text : Bytes} : (Field.text text).Fits ↔ text.length < 2 ^ 16 := by
  simp [Fits, Bounded, Short]

@[simp]
theorem fits_raw {bytes : Bytes} : (raw bytes).Fits := by
  simp [Fits, Bounded, Short]

end Field

/-! ## Readers -/

/-- A program that consumes the front of its input. -/
def Reader (ε α : Type) : Type :=
  Bytes → Except ε (α × Bytes)

namespace Reader

variable {ε α β : Type} {input rest : Bytes}

instance : Monad (Reader ε) where
  pure value := fun input => .ok (value, input)
  bind read next := fun input =>
    match read input with
    | .ok (value, rest) => next value rest
    | .error error => .error error

/-- A result that reads nothing. -/
def ofExcept (result : Except ε α) : Reader ε α := fun input =>
  result.map fun value => (value, input)

/-- The next bytes, as many as asked for. -/
def take (length : Nat) (short : ε) : Reader ε Bytes := fun input =>
  if input.length < length then .error short
  else .ok (input.take length, input.drop length)

/-- The next byte. -/
def byte (short : ε) : Reader ε UInt8 := do
  let bytes ← take 1 short
  return bytes.headD 0

/-- The number in the next bytes. -/
def number (width : Nat) (short : ε) : Reader ε Nat := do
  let bytes ← take width short
  return fromBigEndian bytes

/-- A text after its length in two bytes. -/
def text (short invalid : ε) : Reader ε String := do
  let length ← number 2 short
  let bytes ← take length short
  ofExcept (okOr invalid (fromUtf8 bytes))

/-- A text that has to parse. -/
def parsed (read : Reader ε String) (parse : String → Except ε α) :
    Reader ε α := do
  ofExcept (parse (← read))

/-- All the bytes left. -/
def remaining : Reader ε Bytes := fun input =>
  .ok (input, [])

@[simp]
theorem pure_eq_ok_iff {value result : α} :
    (pure value : Reader ε α) input = .ok (result, rest) ↔ result = value ∧ rest = input := by
  change Except.ok (value, input) = .ok (result, rest) ↔ _
  simp [eq_comm]

theorem bind_apply (read : Reader ε α) (next : α → Reader ε β) (input : Bytes) :
    (read >>= next) input =
      match read input with
      | .ok (value, rest) => next value rest
      | .error error => .error error :=
  rfl

variable {read : Reader ε α} {next : α → Reader ε β}

@[simp]
theorem bind_eq_ok_iff {result : β} :
    (read >>= next) input = .ok (result, rest) ↔
      ∃ value middle, read input = .ok (value, middle) ∧
        next value middle = .ok (result, rest) := by
  rw [bind_apply]
  cases first : read input with
  | ok pair =>
    cases pair
    simp
  | error => simp

@[simp]
theorem ofExcept_eq_ok_iff {outcome : Except ε α} {result : α} :
    ofExcept outcome input = .ok (result, rest) ↔ outcome = .ok result ∧ rest = input := by
  cases outcome <;> simp [ofExcept, Except.map, eq_comm]

@[simp]
theorem take_eq_ok_iff {length : Nat} {short : ε} {bytes : Bytes} :
    take length short input = .ok (bytes, rest) ↔
      bytes.length = length ∧ input = bytes ++ rest := by
  unfold take
  split
  case isTrue few =>
      constructor
      · nofun
      · rintro ⟨rfl, rfl⟩
        simp at few
  case isFalse enough =>
      simp only [Except.ok.injEq, Prod.mk.injEq]
      constructor
      · rintro ⟨rfl, rfl⟩
        exact ⟨List.length_take_of_le (Nat.not_lt.mp enough), (List.take_append_drop _ _).symm⟩
      · rintro ⟨rfl, rfl⟩
        simp

@[simp]
theorem byte_eq_ok_iff {short : ε} {value : UInt8} :
    byte short input = .ok (value, rest) ↔ input = (Field.raw [value]).bytes ++ rest := by
  simp only [byte, bind_eq_ok_iff, take_eq_ok_iff, pure_eq_ok_iff, List.length_eq_one_iff]
  constructor
  · rintro ⟨_, _, ⟨⟨byte, rfl⟩, rfl⟩, rfl, rfl⟩
    rfl
  · rintro rfl
    exact ⟨[value], rest, ⟨⟨value, rfl⟩, rfl⟩, rfl, rfl⟩

@[simp]
theorem number_eq_ok_iff {width : Nat} {short : ε} {value : Nat} :
    number width short input = .ok (value, rest) ↔
      (Field.number width value).Fits ∧ input = (Field.number width value).bytes ++ rest := by
  simp only [number, bind_eq_ok_iff, take_eq_ok_iff, pure_eq_ok_iff,
    Field.fits_number, Field.bytes]
  constructor
  · rintro ⟨bytes, _, ⟨rfl, rfl⟩, rfl, rfl⟩
    exact ⟨fromBigEndian_lt bytes, by rw [bigEndian_fromBigEndian]⟩
  · rintro ⟨fits, rfl⟩
    exact ⟨bigEndian width value, rest, ⟨length_bigEndian _ _, rfl⟩,
      (fromBigEndian_bigEndian fits).symm, rfl⟩

@[simp]
theorem text_eq_ok_iff {short invalid : ε} {value : String} :
    text short invalid input = .ok (value, rest) ↔
      (Field.text (utf8 value)).Fits ∧ input = (Field.text (utf8 value)).bytes ++ rest := by
  simp only [text, bind_eq_ok_iff, number_eq_ok_iff, take_eq_ok_iff, ofExcept_eq_ok_iff,
    okOr_eq_ok_iff, fromUtf8_eq_some_iff, Field.fits_number, Field.fits_text, Field.bytes]
  constructor
  · rintro ⟨_, _, ⟨fits, rfl⟩, _, _, ⟨rfl, rfl⟩, rfl, rfl⟩
    exact ⟨fits, (List.append_assoc _ _ _).symm⟩
  · rintro ⟨fits, rfl⟩
    exact ⟨_, _, ⟨fits, List.append_assoc _ _ _⟩, _, _, ⟨rfl, rfl⟩, rfl, rfl⟩

@[simp]
theorem remaining_eq_ok_iff {bytes : Bytes} :
    (remaining : Reader ε Bytes) input = .ok (bytes, rest) ↔ bytes = input ∧ rest = [] := by
  simp [remaining, eq_comm]

theorem map_fst_eq_ok_iff {outcome : Except ε (α × Bytes)} {value : α} :
    outcome.map Prod.fst = .ok value ↔ ∃ rest, outcome = .ok (value, rest) := by
  rcases outcome with _ | ⟨_, _⟩ <;> simp [Except.map]

/-- The reader takes the fields off its input and returns the value. -/
def Takes (read : Reader ε α) (value : α) (fields : List Field) : Prop :=
  (∀ field ∈ fields, field.Fits) →
    ∀ rest, read (fields.flatMap Field.bytes ++ rest) = .ok (value, rest)

/-- What the reader takes off its input are the fields of a value, as `Shape`
describes them, and they fit. -/
def Only (read : Reader ε α) (Shape : α → List Field → Prop) : Prop :=
  ∀ input value rest, read input = .ok (value, rest) →
    ∃ fields, Shape value fields ∧ (∀ field ∈ fields, field.Fits) ∧
      input = fields.flatMap Field.bytes ++ rest

theorem takes_pure (value : α) : Takes (pure value : Reader ε α) value [] :=
  fun _ _ => rfl

theorem Takes.bind {value : α} {result : β} {front back : List Field}
    (first : Takes read value front) (second : Takes (next value) result back) :
    Takes (read >>= next) result (front ++ back) := by
  intro fits rest
  simp only [List.mem_append, or_imp, forall_and] at fits
  rw [List.flatMap_append, List.append_assoc, bind_eq_ok_iff]
  exact ⟨_, _, first fits.1 _, second fits.2 rest⟩

variable {Shape : α → List Field → Prop}

theorem only_pure {value : α} (shape : Shape value []) :
    Only (pure value : Reader ε α) Shape := by
  intro input result rest done
  rcases pure_eq_ok_iff.mp done with ⟨rfl, rfl⟩
  exact ⟨[], shape, nofun, rfl⟩

/-- The rule for a sequence: the rest has to complete whatever shape the first
reader left. -/
theorem Only.bind {First : α → List Field → Prop} {Shape : β → List Field → Prop}
    (first : Only read First)
    (second : ∀ value fields, First value fields →
      Only (next value) fun result more => Shape result (fields ++ more)) :
    Only (read >>= next) Shape := by
  intro input result rest done
  rcases bind_eq_ok_iff.mp done with ⟨value, middle, took, then_took⟩
  rcases first _ _ _ took with ⟨front, shape, front_fits, rfl⟩
  rcases second value front shape _ _ _ then_took with
    ⟨back, whole, back_fits, rfl⟩
  refine ⟨front ++ back, whole, ?_, ?_⟩
  · intro field member
    rcases List.mem_append.mp member with member | member
    · exact front_fits field member
    · exact back_fits field member
  · rw [List.flatMap_append, List.append_assoc]

/-- The reader accepts exactly the fields of its values. -/
structure Exact (read : Reader ε α) (fields : α → List Field) : Prop where
  takes : ∀ value, Takes read value (fields value)
  only : Only read fun value found => found = fields value

theorem exact_of_iff {field : α → Field}
    (accepts : ∀ input value rest, read input = .ok (value, rest) ↔
      (field value).Fits ∧ input = (field value).bytes ++ rest) :
    Exact read fun value => [field value] := by
  constructor
  · intro value fits rest
    rw [accepts]
    exact ⟨fits _ (List.mem_singleton_self _), by simp⟩
  · intro input value rest done
    rcases (accepts input value rest).mp done with ⟨fits, rfl⟩
    exact ⟨_, rfl, by simpa using fits, by simp⟩

theorem exact_number (width : Nat) (short : ε) :
    Exact (number width short) fun value => [.number width value] :=
  exact_of_iff fun _ _ _ => number_eq_ok_iff

theorem exact_text (short invalid : ε) :
    Exact (text short invalid) fun value => [.text (utf8 value)] :=
  exact_of_iff fun _ _ _ => text_eq_ok_iff

theorem only_remaining :
    Only (remaining : Reader ε Bytes) fun bytes fields => fields = [.raw bytes] := by
  intro input bytes rest done
  rcases remaining_eq_ok_iff.mp done with ⟨rfl, rfl⟩
  exact ⟨_, rfl, by simp, by simp [Field.bytes]⟩

theorem only_error (error : ε) : Only (ofExcept (.error error)) Shape := by
  intro input value rest done
  simp at done

/-- A text that parses is the text of what it parses to. -/
theorem exact_parsed {read : Reader ε String} {parse : String → Except ε α}
    {textOf : α → Bytes} (exact_read : Exact read fun value => [.text (utf8 value)])
    (parses : ∀ value found, parse value = .ok found ↔ utf8 value = textOf found)
    (spelled : ∀ found, ∃ value, textOf found = utf8 value) :
    Exact (parsed read parse) fun found => [.text (textOf found)] := by
  constructor
  · intro found
    rcases spelled found with ⟨value, same⟩
    have done : Takes (ofExcept (parse value)) found [] := by
      intro _ rest
      simp [(parses value found).mpr same.symm]
    rw [same]
    exact (exact_read.takes value).bind done
  · apply exact_read.only.bind
    rintro value _ rfl input found rest done
    rcases ofExcept_eq_ok_iff.mp done with ⟨made, rfl⟩
    rw [parses] at made
    exact ⟨[], by simp [made], nofun, rfl⟩

end Reader

/-! ## Writers -/

/-- A program that appends to its output. -/
def ByteWriter (ε α : Type) : Type :=
  Bytes → Except ε α × Bytes

namespace ByteWriter

variable {ε α β : Type} {output final : Bytes}

instance : Monad (ByteWriter ε) where
  pure value := fun output => (.ok value, output)
  bind write next := fun output =>
    match write output with
    | (.ok value, output) => next value output
    | (.error error, output) => (.error error, output)

/-- A result that writes nothing. -/
def ofExcept (result : Except ε α) : ByteWriter ε α := fun output =>
  (result, output)

/-- Append the bytes. -/
def append (bytes : Bytes) : ByteWriter ε Unit := fun output =>
  (.ok (), output ++ bytes)

/-- Append a text after its length in two bytes. -/
def text (tooLong : ε) (value : Bytes) : ByteWriter ε Unit := do
  ofExcept (if value.length < 2 ^ 16 then .ok () else .error tooLong)
  append (bigEndian 2 value.length)
  append value

/-- The length of the output so far. -/
def written : ByteWriter ε Nat := fun output =>
  (.ok output.length, output)

/-- Run a writer on an output of its own and return what it wrote. -/
def collect (write : ByteWriter ε α) : ByteWriter ε (α × Bytes) := fun output =>
  ((write []).1.map fun value => (value, (write []).2), output)

@[simp]
theorem pure_eq_ok_iff {value result : α} :
    (pure value : ByteWriter ε α) output = (.ok result, final) ↔
      result = value ∧ final = output := by
  change (Except.ok value, output) = (.ok result, final) ↔ _
  simp [eq_comm]

theorem bind_apply (write : ByteWriter ε α) (next : α → ByteWriter ε β) (output : Bytes) :
    (write >>= next) output =
      match write output with
      | (.ok value, output) => next value output
      | (.error error, output) => (.error error, output) :=
  rfl

variable {write : ByteWriter ε α} {next : α → ByteWriter ε β}

@[simp]
theorem bind_eq_ok_iff {result : β} :
    (write >>= next) output = (.ok result, final) ↔
      ∃ value middle, write output = (.ok value, middle) ∧
        next value middle = (.ok result, final) := by
  rw [bind_apply]
  rcases write output with ⟨_ | _, _⟩ <;> simp

@[simp]
theorem ofExcept_eq_ok_iff {outcome : Except ε α} {result : α} :
    ofExcept outcome output = (.ok result, final) ↔ outcome = .ok result ∧ final = output := by
  simp [ofExcept, eq_comm]

@[simp]
theorem append_eq_ok_iff {bytes : Bytes} {result : Unit} :
    (append bytes : ByteWriter ε Unit) output = (.ok result, final) ↔
      final = output ++ bytes := by
  simp [append, eq_comm]

@[simp]
theorem written_eq_ok_iff {length : Nat} :
    (written : ByteWriter ε Nat) output = (.ok length, final) ↔
      length = output.length ∧ final = output := by
  simp [written, eq_comm]

@[simp]
theorem collect_eq_ok_iff {bytes : Bytes} {value : α} :
    collect write output = (.ok (value, bytes), final) ↔
      write [] = (.ok value, bytes) ∧ final = output := by
  unfold collect
  rcases write [] with ⟨_ | _, _⟩ <;> simp [Except.map, eq_comm]

/-- The writer succeeds with the value exactly if the texts of the fields are
short enough, and then appends the fields. -/
def Puts (write : ByteWriter ε α) (value : α) (fields : List Field) : Prop :=
  ∀ output result final, write output = (.ok result, final) ↔
    (∀ field ∈ fields, field.Short) ∧ result = value ∧
      final = output ++ fields.flatMap Field.bytes

theorem puts_pure (value : α) : Puts (pure value : ByteWriter ε α) value [] := by
  intro output result final
  simp

theorem puts_number (width value : Nat) :
    Puts (append (bigEndian width value) : ByteWriter ε Unit) () [.number width value] := by
  intro output result final
  simp [Field.Short, Field.bytes]

theorem puts_raw (bytes : Bytes) : Puts (append bytes : ByteWriter ε Unit) () [.raw bytes] := by
  intro output result final
  simp [Field.Short, Field.bytes]

theorem puts_text (tooLong : ε) (value : Bytes) : Puts (text tooLong value) () [.text value] := by
  intro output result final
  simp [text, Field.Short, Field.bytes]

theorem Puts.bind {value : α} {result : β} {front back : List Field}
    (first : Puts write value front) (second : Puts (next value) result back) :
    Puts (write >>= next) result (front ++ back) := by
  intro output found final
  rw [bind_eq_ok_iff]
  simp only [List.mem_append, or_imp, forall_and, List.flatMap_append]
  constructor
  · rintro ⟨_, _, wrote, then_wrote⟩
    rcases (first _ _ _).mp wrote with ⟨front_short, rfl, rfl⟩
    rcases (second _ _ _).mp then_wrote with ⟨back_short, rfl, rfl⟩
    exact ⟨⟨front_short, back_short⟩, rfl, List.append_assoc _ _ _⟩
  · rintro ⟨⟨front_short, back_short⟩, rfl, rfl⟩
    refine ⟨value, _, (first _ _ _).mpr ⟨front_short, rfl, rfl⟩, ?_⟩
    rw [second]
    exact ⟨back_short, rfl, (List.append_assoc _ _ _).symm⟩

/-- The writer leaves its output alone, whatever its result. -/
def Silent (write : ByteWriter ε α) : Prop :=
  ∀ output, (write output).2 = output

/-- The writer leaves its output alone if it fails. -/
def Atomic (write : ByteWriter ε α) : Prop :=
  ∀ output error, (write output).1 = .error error → (write output).2 = output

theorem silent_ofExcept (result : Except ε α) : Silent (ofExcept result) :=
  fun _ => rfl

theorem silent_written : Silent (written : ByteWriter ε Nat) :=
  fun _ => rfl

theorem silent_collect (write : ByteWriter ε α) : Silent (collect write) :=
  fun _ => rfl

/-- What comes after a silent writer decides whether a failure is clean. -/
theorem Silent.bind_atomic (silent : Silent write)
    (next_atomic : ∀ output value, (write output).1 = .ok value → Atomic (next value)) :
    Atomic (write >>= next) := by
  intro output error
  rw [bind_apply]
  have same := silent output
  have atomic := next_atomic output
  generalize write output = pair at same atomic ⊢
  rcases pair with ⟨_ | value, middle⟩
  · exact fun _ => same
  · cases same
    exact atomic value rfl _ error

theorem atomic_of_total (total : ∀ output, ∃ value, (write output).1 = .ok value) :
    Atomic write := by
  intro output error failed
  rcases total output with ⟨value, succeeded⟩
  rw [succeeded] at failed
  cases failed

/-- A writer of fields with short texts never fails. -/
theorem Puts.atomic {value : α} {fields : List Field} (puts : Puts write value fields)
    (short : ∀ field ∈ fields, field.Short) : Atomic write := by
  apply atomic_of_total
  intro output
  have wrote := (puts output value _).mpr ⟨short, rfl, rfl⟩
  exact ⟨value, congrArg Prod.fst wrote⟩

end ByteWriter

end RelayGate.Library
