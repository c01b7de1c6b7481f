import RelayGate.Destination
import RelayGate.Library.ByteCodec

/-!
# The text form of a destination

A destination is written `namespace/name`.  The parser cuts the text at the
first `/` and validates the two parts; the grammar it accepts is the one of the
terminology document:

* `Destination = Namespace "/" DestinationName`
* `Namespace = label`
* `DestinationName = label *("." label)`

where a label starts and ends with a lowercase letter or a digit, has only these
and hyphens in between, and obeys the length limits.
-/

namespace RelayGate

open Library

variable {text value front back : Text} {labels : List Text}

/-! ## Parsing and displaying -/

/-- The parts of a text before and after its first separator. -/
def splitOnce (separator : UInt8) : Text → Option (Text × Text)
  | [] => none
  | byte :: rest =>
      if byte = separator then
        some ([], rest)
      else
        (splitOnce separator rest).map fun (front, back) => (byte :: front, back)

/-- Parse the `namespace/name` form. -/
def Destination.fromStr (value : Text) : Except DestinationError Destination :=
  match splitOnce slash value with
  | none => .error .invalidDestination
  | some (scope, name) =>
      if name.contains slash then
        .error .invalidDestination
      else do
        let scope ← Namespace.new scope
        let name ← DestinationName.new name
        return ⟨scope, name⟩

/-- The `namespace/name` form of a destination. -/
def Destination.display (destination : Destination) : Text :=
  destination.scope.text ++ slash :: destination.name.text

/-! ## The documented grammar -/

/-- A label: a letter or digit, or two of them with letters, digits and hyphens
in between. -/
inductive Label : Text → Prop
  | single {byte : UInt8} : isAlphanumeric byte = true → Label [byte]
  | several {first last : UInt8} {inner : Text} : isAlphanumeric first = true →
      (∀ byte ∈ inner, isAlphanumeric byte = true ∨ byte = hyphen) →
      isAlphanumeric last = true → Label (first :: (inner ++ [last]))

/-- A label within its length limit. -/
structure BoundedLabel (text : Text) : Prop where
  label : Label text
  bounded : text.length ≤ maxLabelBytes

/-- The texts of destination names: labels joined by dots, within the length
limit of a name. -/
structure NameForm (text : Text) (labels : List Text) : Prop where
  labels_ne : labels ≠ []
  each : ∀ label ∈ labels, BoundedLabel label
  joined : text = [dot].intercalate labels
  bounded : text.length ≤ maxDestinationNameBytes

/-- The texts of destinations. -/
structure DestinationForm (text scope name : Text) (labels : List Text) :
    Prop where
  scope_form : BoundedLabel scope
  name_form : NameForm name labels
  joined : text = scope ++ slash :: name

/-! ## Labels -/

/-- What a label looks like from its ends and its bytes, as `validateLabel` looks
at it. -/
theorem label_iff :
    Label text ↔ text.head?.any isAlphanumeric = true ∧
      text.getLast?.any isAlphanumeric = true ∧
      ∀ byte ∈ text, isAlphanumeric byte = true ∨ byte = hyphen := by
  constructor
  · intro label
    cases label with
    | single alphanumeric => simp [alphanumeric]
    | several first inner last =>
      simp only [List.head?_cons, Option.any_some, first, List.mem_cons,
        List.mem_append, List.not_mem_nil, or_false, true_and]
      constructor
      · rw [← List.cons_append, List.getLast?_append]
        simpa using last
      · rintro byte (rfl | inside | rfl)
        · exact Or.inl first
        · exact inner byte inside
        · exact Or.inl last
  · rintro ⟨first, last, each⟩
    cases text with
    | nil => cases first
    | cons byte rest =>
      rcases rest.eq_nil_or_concat with rfl | ⟨inner, final, rfl⟩
      · exact .single first
      · rw [List.concat_eq_append] at last each ⊢
        apply Label.several first
        · intro inside member
          exact each inside (by simp [member])
        · rw [← List.cons_append, List.getLast?_append] at last
          simpa using last

theorem Label.ne_nil (label : Label text) : text ≠ [] := by
  cases label <;> simp

theorem validateLabel_iff : validateLabel text = .ok () ↔ BoundedLabel text := by
  have shape : validateLabel text = .ok () ↔
      text ≠ [] ∧ text.length ≤ maxLabelBytes ∧
        (text.head?.any isAlphanumeric = true ∧
          text.getLast?.any isAlphanumeric = true ∧
          ∀ byte ∈ text, isAlphanumeric byte = true ∨ byte = hyphen) := by
    unfold validateLabel
    grind
  rw [shape, ← label_iff]
  constructor
  · rintro ⟨_, bounded, label⟩
    exact ⟨label, bounded⟩
  · rintro ⟨label, bounded⟩
    exact ⟨label.ne_nil, bounded, label⟩

theorem isAlphanumeric_ne {byte : UInt8} (alphanumeric : isAlphanumeric byte = true) :
    byte ≠ dot ∧ byte ≠ slash := by
  constructor
  · rintro rfl
    cases alphanumeric
  · rintro rfl
    cases alphanumeric

/-- Neither separator occurs in a label. -/
theorem Label.free (label : Label text) : dot ∉ text ∧ slash ∉ text := by
  have each := (label_iff.mp label).2.2
  constructor
  · intro inside
    rcases each dot inside with alphanumeric | same
    · exact (isAlphanumeric_ne alphanumeric).1 rfl
    · cases same
  · intro inside
    rcases each slash inside with alphanumeric | same
    · exact (isAlphanumeric_ne alphanumeric).2 rfl
    · cases same

/-! ## Namespaces and names -/

theorem validateNamespace_iff : validateNamespace text = .ok () ↔ BoundedLabel text := by
  unfold validateNamespace
  split
  next dotted =>
    have inside : dot ∈ text := by simpa using dotted
    constructor
    · intro passed
      cases passed
    · intro bounded
      exact absurd inside bounded.label.free.1
  next => exact validateLabel_iff

theorem validateLabels_iff :
    validateLabels labels = .ok () ↔ ∀ label ∈ labels, BoundedLabel label := by
  induction labels with
  | nil => simp [validateLabels]
  | cons label labels ih =>
    rw [List.forall_mem_cons, ← ih, ← validateLabel_iff, validateLabels]
    split
    next failed => simp [failed]
    next passed => simp [passed]

/-- The labels of a name's text are what lies between its dots. -/
theorem NameForm.splitOn (form : NameForm text labels) : text.splitOn dot = labels := by
  rw [form.joined]
  exact List.splitOn_intercalate dot
    (fun label member => (form.each label member).label.free.1) form.labels_ne

theorem validateDestinationName_iff :
    validateDestinationName text = .ok () ↔ ∃ labels, NameForm text labels := by
  unfold validateDestinationName
  split
  next long =>
    constructor
    · intro passed
      cases passed
    · rintro ⟨labels, form⟩
      exact absurd form.bounded (Nat.not_le.mpr long)
  next bounded =>
    rw [validateLabels_iff]
    constructor
    · intro each
      exact ⟨text.splitOn dot, List.splitOn_ne_nil dot text, each,
        (List.intercalate_splitOn dot).symm, Nat.not_lt.mp bounded⟩
    · rintro ⟨labels, form⟩
      rw [form.splitOn]
      exact form.each

theorem Namespace.boundedLabel (scope : Namespace) : BoundedLabel scope.text :=
  validateNamespace_iff.mp scope.valid

/-- No slash occurs in a name. -/
theorem DestinationName.slash_not_mem (name : DestinationName) : slash ∉ name.text := by
  obtain ⟨labels, form⟩ := validateDestinationName_iff.mp name.valid
  intro member
  rcases mem_label_of_mem member with same | ⟨label, among, inside⟩
  · cases same
  · rw [form.splitOn] at among
    exact (form.each label among).label.free.2 inside

/-! ## Destinations -/

/-- Cutting at the first separator finds a front without separators, and
rejoining the parts gives the text back. -/
theorem splitOnce_eq_some_iff {separator : UInt8} :
    splitOnce separator value = some (front, back) ↔
      separator ∉ front ∧ value = front ++ separator :: back := by
  induction value generalizing front with
  | nil => simp [splitOnce]
  | cons =>
    rw [splitOnce]
    split
    next same =>
      subst same
      cases front with
      | nil => simp [eq_comm]
      | cons => grind
    next other =>
      cases front with
      | nil => simp [other]
      | cons =>
        simp only [Option.map_eq_some_iff, Prod.exists, Prod.mk.injEq,
          List.cons.injEq, List.mem_cons, not_or, List.cons_append]
        grind

theorem Destination.splitOnce_display (destination : Destination) :
    splitOnce slash destination.display = some (destination.scope.text, destination.name.text) :=
  splitOnce_eq_some_iff.mpr ⟨destination.scope.boundedLabel.label.free.2, rfl⟩

/-- A text parses to a destination exactly when it is how the destination is
displayed. -/
theorem Destination.fromStr_eq_ok_iff {destination : Destination} :
    Destination.fromStr value = .ok destination ↔ value = destination.display := by
  unfold Destination.fromStr
  split
  next uncut =>
    constructor
    · intro parsed
      cases parsed
    · rintro rfl
      rw [destination.splitOnce_display] at uncut
      cases uncut
  next scope name cut =>
    obtain ⟨free, rfl⟩ := splitOnce_eq_some_iff.mp cut
    -- both sides cut the text at its first slash
    have parts : scope ++ slash :: name = destination.display ↔
        scope = destination.scope.text ∧ name = destination.name.text := by
      constructor
      · intro same
        rw [same, destination.splitOnce_display] at cut
        cases cut
        exact ⟨rfl, rfl⟩
      · rintro ⟨rfl, rfl⟩
        rfl
    rw [parts]
    split
    next slashed =>
      have inside : slash ∈ name := by simpa using slashed
      constructor
      · intro parsed
        cases parsed
      · rintro ⟨_, rfl⟩
        exact absurd inside destination.name.slash_not_mem
    next =>
      simp only [except_bind_eq_ok_iff, Namespace.new_eq_ok_iff, DestinationName.new_eq_ok_iff]
      constructor
      · rintro ⟨front, rfl, back, rfl, made⟩
        cases made
        exact ⟨rfl, rfl⟩
      · rintro ⟨rfl, rfl⟩
        exact ⟨destination.scope, rfl, destination.name, rfl, rfl⟩

/-- The texts of the documented form are the displayed destinations. -/
theorem destinationForm_iff :
    (∃ scope name labels, DestinationForm value scope name labels) ↔
      ∃ destination : Destination, value = destination.display := by
  constructor
  · rintro ⟨scope, name, labels, form⟩
    exact ⟨⟨⟨scope, validateNamespace_iff.mpr form.scope_form⟩,
      ⟨name, validateDestinationName_iff.mpr ⟨labels, form.name_form⟩⟩⟩, form.joined⟩
  · rintro ⟨destination, shown⟩
    obtain ⟨labels, form⟩ := validateDestinationName_iff.mp destination.name.valid
    exact ⟨_, _, labels, destination.scope.boundedLabel, form, shown⟩

/-! ## Canonical keys -/

theorem lengthBytes_inj {first second : Nat} (first_lt : first < 65536)
    (second_lt : second < 65536) (same : lengthBytes first = lengthBytes second) :
    first = second := by
  simp only [lengthBytes, List.cons.injEq, and_true, ← UInt8.toNat_inj,
    UInt8.toNat_ofNat'] at same
  omega

/-- A text after its length can be cut off from what follows it. -/
theorem lengthPrefixed_inj {first second : Text}
    (first_lt : first.length < 65536) (second_lt : second.length < 65536)
    (same : lengthBytes first.length ++ first ++ front =
      lengthBytes second.length ++ second ++ back) :
    first = second ∧ front = back := by
  rw [List.append_assoc, List.append_assoc] at same
  obtain ⟨lengths, rest⟩ := List.append_inj same rfl
  exact List.append_inj rest (lengthBytes_inj first_lt second_lt lengths)

theorem Destination.canonicalKey_injective : Function.Injective Destination.canonicalKey := by
  intro first second same
  have scopes := first.scope.length_le
  have scopes' := second.scope.length_le
  have names := first.name.length_le
  have names' := second.name.length_le
  unfold maxLabelBytes at scopes scopes'
  unfold maxDestinationNameBytes at names names'
  obtain ⟨scope, rest⟩ := lengthPrefixed_inj (by omega) (by omega) same
  obtain ⟨name, _⟩ := lengthPrefixed_inj (by omega) (by omega)
    (congrArg (· ++ []) rest)
  rcases first with ⟨⟨scope_text, _⟩, ⟨name_text, _⟩⟩
  rcases second with ⟨⟨scope_text', _⟩, ⟨name_text', _⟩⟩
  cases scope
  cases name
  rfl

/-- The text form and the canonical keys of destinations: exactly the texts of
the documented form parse, parsing and displaying are inverse to each other, and
no two destinations share a canonical key. -/
theorem Destination.text_and_key_canonical :
    (∀ value, (∃ destination, Destination.fromStr value = .ok destination) ↔
      ∃ scope name labels, DestinationForm value scope name labels) ∧
    (∀ destination : Destination,
      Destination.fromStr destination.display = .ok destination) ∧
    (∀ value destination, Destination.fromStr value = .ok destination →
      destination.display = value) ∧
    ∀ first second : Destination,
      first.canonicalKey = second.canonicalKey → first = second := by
  refine ⟨?_, ?_, ?_, ?_⟩
  · intro value
    simp only [Destination.fromStr_eq_ok_iff]
    exact destinationForm_iff.symm
  · intro destination
    exact Destination.fromStr_eq_ok_iff.mpr rfl
  · intro value destination parsed
    exact (Destination.fromStr_eq_ok_iff.mp parsed).symm
  · intro first second same
    exact Destination.canonicalKey_injective same

end RelayGate
