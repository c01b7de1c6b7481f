import RelayGate.Destination

/-!
# Operation claims

The permissions an operation token carries, what a Gateway checks of them, and
what they are meant to grant.
-/

namespace RelayGate

/-- An operation a permission authorizes. -/
inductive Action
  | publish
  | dial
deriving DecidableEq, Repr

/-- The names a permission covers within its namespace. -/
inductive DestinationScope
  | exact (name : DestinationName)
  | subtree (name : DestinationName)
  | all
deriving DecidableEq

/-- Whether a scope contains a name. -/
def DestinationScope.contains : DestinationScope → DestinationName → Bool
  | .exact own, name => name == own
  | .subtree root, name => name == root || name.isDescendantOf root
  | .all, _ => true

/-- One authorization rule of an operation token. -/
structure Permission where
  action : Action
  inNamespace : Namespace
  scope : DestinationScope
deriving DecidableEq

/-- Whom a token is for. -/
inductive Audience
  | one (value : Text)
  | many (values : List Text)
deriving DecidableEq

def Audience.isNonEmpty : Audience → Bool
  | .one value => !value.isEmpty
  | .many values => !values.isEmpty && values.all fun value => !value.isEmpty

/-- The claims of an operation token, as a Gateway reads them. -/
structure Claims where
  iss : Text
  aud : Audience
  nbf : Nat
  exp : Nat
  permissions : List Permission
deriving DecidableEq

namespace Claims

/-- Most permissions a Gateway considers. -/
def maxPermissions : Nat := 128

def registeredClaimsAreSane (claims : Claims) : Bool :=
  !claims.iss.isEmpty && claims.aud.isNonEmpty && claims.nbf < claims.exp

/-- Whether the claims grant an action on a destination. -/
def authorizes (claims : Claims) (action : Action) (destination : Destination) :
    Bool :=
  claims.permissions.length ≤ maxPermissions &&
    claims.permissions.any fun permission =>
      permission.action == action &&
        permission.inNamespace == destination.scope &&
        permission.scope.contains destination.name

end Claims

/-! ## What a permission is meant to grant -/

/-- The names a scope stands for, by their labels. -/
def DestinationScope.Covers : DestinationScope → DestinationName → Prop
  | .exact own, name => name = own
  | .subtree root, name => ∃ further, name.labels = root.labels ++ further
  | .all, _ => True

/-- A permission grants an action on the names of its scope in its namespace. -/
def Permission.Grants (permission : Permission) (action : Action)
    (destination : Destination) : Prop :=
  permission.action = action ∧ permission.inNamespace = destination.scope ∧
    permission.scope.Covers destination.name

theorem DestinationName.eq_of_labels_eq {first second : DestinationName}
    (same : first.labels = second.labels) : first = second := by
  have text : first.text = second.text := by
    rw [← first.intercalate_labels, same, second.intercalate_labels]
  cases first
  cases second
  cases text
  rfl

/-- The check on bytes is the rule on labels. -/
theorem DestinationScope.contains_iff {scope : DestinationScope}
    {name : DestinationName} : scope.contains name = true ↔ scope.Covers name := by
  cases scope with
  | exact | all => simp [contains, Covers]
  | subtree =>
    simp only [contains, Covers, Bool.or_eq_true, beq_iff_eq, DestinationName.isDescendantOf_iff]
    constructor
    · rintro (rfl | ⟨further, _, same⟩)
      · exact ⟨[], (List.append_nil _).symm⟩
      · exact ⟨further, same⟩
    · rintro ⟨further, same⟩
      cases further with
      | nil =>
        rw [List.append_nil] at same
        exact Or.inl (DestinationName.eq_of_labels_eq same)
      | cons label further =>
        exact Or.inr ⟨label :: further, List.cons_ne_nil _ _, same⟩

/-- Claims grant what one of their permissions grants, if they are not too
many. -/
theorem Claims.authorizes_iff {claims : Claims} {action : Action} {destination : Destination} :
    claims.authorizes action destination = true ↔
      claims.permissions.length ≤ maxPermissions ∧
        ∃ permission ∈ claims.permissions, permission.Grants action destination := by
  simp only [authorizes, Permission.Grants, Bool.and_eq_true, decide_eq_true_eq,
    List.any_eq_true, beq_iff_eq, DestinationScope.contains_iff, and_assoc]

end RelayGate
