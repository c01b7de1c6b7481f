import Mathlib

/-!
# Destinations

The logical routing keys shared by every layer.  Text is modelled by its UTF-8
bytes: every check of the source is a check on bytes, and the separators `.`
and `/` are single bytes.  A `Namespace` or a `DestinationName` carries the
proof that it passed its validation, so an invalid one cannot be built.
-/

namespace RelayGate

/-- Text, as its UTF-8 bytes. -/
abbrev Text := List UInt8

variable {value bytes : Text} {byte : UInt8}

/-- Why a destination failed canonical validation. -/
inductive DestinationError
  | invalidDestination
  | invalidNamespace
  | destinationNameLength
  | labelLength
  | labelBoundary
  | labelCharacter
deriving DecidableEq, Repr

/-- Maximum encoded length of one label. -/
def maxLabelBytes : Nat := 63

/-- Maximum encoded length of a complete destination name. -/
def maxDestinationNameBytes : Nat := 253

/-- The byte `.`, which separates labels. -/
def dot : UInt8 := 46

/-- The byte `/`, which separates a namespace from a name. -/
def slash : UInt8 := 47

/-- The byte `-`, allowed inside a label. -/
def hyphen : UInt8 := 45

/-- A lowercase ASCII letter or an ASCII digit. -/
def isAlphanumeric (byte : UInt8) : Bool :=
  (97 ≤ byte && byte ≤ 122) || (48 ≤ byte && byte ≤ 57)

/-- The checks on one label, in the order of the source. -/
def validateLabel (bytes : Text) : Except DestinationError Unit :=
  if bytes.isEmpty || maxLabelBytes < bytes.length then
    .error .labelLength
  else if !(bytes.head?.any isAlphanumeric) ||
      !(bytes.getLast?.any isAlphanumeric) then
    .error .labelBoundary
  else if !(bytes.all fun byte => isAlphanumeric byte || byte == hyphen) then
    .error .labelCharacter
  else
    .ok ()

/-- The checks on a namespace. -/
def validateNamespace (value : Text) : Except DestinationError Unit :=
  if value.contains dot then .error .invalidNamespace else validateLabel value

/-- The checks on every label of a name, stopping at the first failure. -/
def validateLabels : List Text → Except DestinationError Unit
  | [] => .ok ()
  | label :: labels =>
      match validateLabel label with
      | .error error => .error error
      | .ok () => validateLabels labels

/-- The checks on a destination name. -/
def validateDestinationName (value : Text) : Except DestinationError Unit :=
  if maxDestinationNameBytes < value.length then
    .error .destinationNameLength
  else
    validateLabels (value.splitOn dot)

/-- A validated single-label routing namespace. -/
structure Namespace where
  text : Text
  valid : validateNamespace text = .ok ()
deriving DecidableEq

/-- A validated dot-separated name within a namespace. -/
structure DestinationName where
  text : Text
  valid : validateDestinationName text = .ok ()
deriving DecidableEq

/-! One letter is a namespace and a name; the later modules use such texts. -/

theorem validateNamespace_a : validateNamespace [97] = .ok () := by
  decide

theorem validateDestinationName_a : validateDestinationName [97] = .ok () := by
  decide

theorem validateDestinationName_b : validateDestinationName [98] = .ok () := by
  decide

/-- A fully specified exact routing key. -/
structure Destination where
  scope : Namespace
  name : DestinationName
deriving DecidableEq

/-- Validate one lowercase ASCII label; dots are rejected. -/
def Namespace.new (value : Text) : Except DestinationError Namespace :=
  match valid : validateNamespace value with
  | .ok () => .ok ⟨value, valid⟩
  | .error error => .error error

/-- Validate the total length and every dot-separated label. -/
def DestinationName.new (value : Text) :
    Except DestinationError DestinationName :=
  match valid : validateDestinationName value with
  | .ok () => .ok ⟨value, valid⟩
  | .error error => .error error

/-- Whether this name is below `root` on a whole-label boundary.  The root is
not its own descendant. -/
def DestinationName.isDescendantOf (name root : DestinationName) : Bool :=
  root.text.isPrefixOf name.text &&
    (name.text.drop root.text.length).head? == some dot

/-- A length below `2^16` as two big-endian bytes. -/
def lengthBytes (length : Nat) : Text :=
  [UInt8.ofNat (length / 256), UInt8.ofNat length]

/-- Collision-unambiguous bytes used by the shard authority hash. -/
def Destination.canonicalKey (destination : Destination) : Text :=
  lengthBytes destination.scope.text.length ++ destination.scope.text ++
    (lengthBytes destination.name.text.length ++ destination.name.text)

theorem validateLabel_length
    (valid : validateLabel bytes = .ok ()) : bytes.length ≤ maxLabelBytes := by
  unfold validateLabel at valid
  split at valid
  · cases valid
  · rename_i bounded
    simp only [Bool.or_eq_true, decide_eq_true_eq, not_or, Nat.not_lt] at bounded
    exact bounded.2

section

variable (scope : Namespace) (name : DestinationName)

theorem Namespace.length_le : scope.text.length ≤ maxLabelBytes := by
  have valid := scope.valid
  unfold validateNamespace at valid
  split at valid
  · cases valid
  · exact validateLabel_length valid

theorem DestinationName.length_le : name.text.length ≤ maxDestinationNameBytes := by
  have valid := name.valid
  unfold validateDestinationName at valid
  split at valid
  · cases valid
  · rename_i bounded
    exact Nat.not_lt.mp bounded

theorem Destination.canonicalKey_length (destination : Destination) :
    destination.canonicalKey.length =
      4 + destination.scope.text.length + destination.name.text.length := by
  simp only [Destination.canonicalKey, lengthBytes, List.length_append,
    List.length_cons, List.length_nil]
  omega

/-! ## Texts that pass are ASCII -/

theorem isAlphanumeric_ascii (alphanumeric : isAlphanumeric byte = true) : byte < 128 := by
  simp only [isAlphanumeric, Bool.or_eq_true, Bool.and_eq_true, decide_eq_true_eq,
    UInt8.le_iff_toNat_le, UInt8.lt_iff_toNat_lt] at alphanumeric ⊢
  simp only [UInt8.reduceToNat] at alphanumeric ⊢
  omega

theorem validateLabel_ascii
    (valid : validateLabel bytes = .ok ()) : ∀ byte ∈ bytes, byte < 128 := by
  unfold validateLabel at valid
  split at valid
  · cases valid
  · split at valid
    · cases valid
    · split at valid
      · cases valid
      · rename_i allowed
        simp only [Bool.not_eq_true, Bool.not_eq_false', List.all_eq_true,
          Bool.or_eq_true, beq_iff_eq] at allowed
        intro byte member
        rcases allowed byte member with alphanumeric | rfl
        · exact isAlphanumeric_ascii alphanumeric
        · decide

theorem validateLabels_of_mem {labels : List Text} (valid : validateLabels labels = .ok ()) :
    ∀ label ∈ labels, validateLabel label = .ok () := by
  induction labels with
  | nil => simp
  | cons label labels ih =>
    simp only [validateLabels] at valid
    split at valid
    · cases valid
    · rename_i first
      simp only [List.mem_cons, forall_eq_or_imp]
      exact ⟨first, ih valid⟩

/-- A byte of a text is a separator or part of a label. -/
theorem mem_label_of_mem (member : byte ∈ value) :
    byte = dot ∨ ∃ label ∈ value.splitOn dot, byte ∈ label := by
  have joined : [dot].intercalate (value.splitOn dot) = value := List.intercalate_splitOn dot
  rw [← joined] at member
  generalize value.splitOn dot = labels at member ⊢
  induction labels with
  | nil => simp at member
  | cons label labels =>
    cases labels with
    | nil =>
      rw [List.intercalate_singleton] at member
      exact Or.inr ⟨label, List.mem_singleton_self label, member⟩
    | cons =>
      simp only [List.intercalate_cons_cons, List.mem_append, List.mem_singleton] at member
      grind

/-- The bytes of a namespace are ASCII. -/
theorem Namespace.ascii : ∀ byte ∈ scope.text, byte < 128 := by
  have valid := scope.valid
  unfold validateNamespace at valid
  split at valid
  · cases valid
  · exact validateLabel_ascii valid

theorem DestinationName.validateLabels_splitOn :
    validateLabels (name.text.splitOn dot) = .ok () := by
  have valid := name.valid
  unfold validateDestinationName at valid
  split at valid
  · cases valid
  · exact valid

theorem DestinationName.ascii : ∀ byte ∈ name.text, byte < 128 := by
  intro byte member
  rcases mem_label_of_mem member with rfl | ⟨label, among, inside⟩
  · decide
  · exact validateLabel_ascii
      (validateLabels_of_mem name.validateLabels_splitOn label among) byte inside

end

/-! ## Labels -/

/-- The labels of a name, from the first. -/
def DestinationName.labels (name : DestinationName) : List Text :=
  name.text.splitOn dot

theorem DestinationName.intercalate_labels (name : DestinationName) :
    [dot].intercalate name.labels = name.text :=
  List.intercalate_splitOn dot

theorem DestinationName.labels_ne_nil (name : DestinationName) : name.labels ≠ [] := by
  rw [labels, List.splitOn_eq_splitOnP]
  exact List.splitOnP_ne_nil _ _

theorem intercalate_append {separator : UInt8} {front back : List Text}
    (front_ne : front ≠ []) (back_ne : back ≠ []) :
    [separator].intercalate (front ++ back) =
      [separator].intercalate front ++ separator :: [separator].intercalate back := by
  induction front with
  | nil => exact absurd rfl front_ne
  | cons first front ih =>
    cases front with
    | nil =>
      cases back with
      | nil => exact absurd rfl back_ne
      | cons => simp [List.intercalate_cons_cons]
    | cons second front =>
      have rest := ih (List.cons_ne_nil second front)
      rw [List.cons_append] at rest
      simp only [List.cons_append, List.intercalate_cons_cons, rest,
        List.append_assoc, List.nil_append]

/-- The descendants of a name are the names that add labels to it. -/
theorem DestinationName.isDescendantOf_iff {name root : DestinationName} :
    name.isDescendantOf root = true ↔
      ∃ further, further ≠ [] ∧ name.labels = root.labels ++ further := by
  simp only [isDescendantOf, Bool.and_eq_true, List.isPrefixOf_iff_prefix, beq_iff_eq]
  constructor
  · rintro ⟨⟨rest, text⟩, boundary⟩
    rw [← text, List.drop_left] at boundary
    rcases rest with _ | ⟨first, rest⟩
    · cases boundary
    · cases boundary
      refine ⟨rest.splitOn dot, ?_, ?_⟩
      · rw [List.splitOn_eq_splitOnP]
        exact List.splitOnP_ne_nil _ _
      · rw [labels, labels, ← text]
        simp only [List.splitOn_eq_splitOnP]
        exact List.splitOnP_append_cons _ _ (by simp)
  · rintro ⟨further, further_ne, same⟩
    have text : name.text = root.text ++ dot :: [dot].intercalate further := by
      rw [← name.intercalate_labels, same,
        intercalate_append root.labels_ne_nil further_ne, root.intercalate_labels]
    rw [text, List.drop_left]
    exact ⟨List.prefix_append _ _, rfl⟩

theorem Namespace.new_eq_ok_iff {scope : Namespace} :
    Namespace.new value = .ok scope ↔ value = scope.text := by
  unfold Namespace.new
  constructor
  · intro made
    split at made <;> cases made
    rfl
  · rintro rfl
    split
    · rfl
    · rename_i failed
      rw [scope.valid] at failed
      cases failed

theorem DestinationName.new_eq_ok_iff :
    DestinationName.new value = .ok name ↔ value = name.text := by
  unfold DestinationName.new
  constructor
  · intro made
    split at made <;> cases made
    rfl
  · rintro rfl
    split
    · rfl
    · rename_i failed
      rw [name.valid] at failed
      cases failed

end RelayGate
