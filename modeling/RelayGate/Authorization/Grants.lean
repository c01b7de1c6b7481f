import RelayGate.Authorization.Token

/-!
# What an issued token grants

A Gateway reads from an issued token the permissions the issuer wrote, so the
token grants exactly what they were meant to grant.
-/

namespace RelayGate

open Library

/-! ## What is written is read back -/

theorem Json.u64?_number {value : Nat} (fits : value < 2 ^ 64) :
    (Json.number value).u64? = some value :=
  if_pos fits

@[simp]
theorem Action.fromJson_toJson (action : Action) :
    Action.fromJson action.toJson = some action := by
  cases action <;> simp [fromJson, toJson, Json.text?]

@[simp]
theorem Namespace.fromJson_text (scope : Namespace) :
    Namespace.fromJson (.string scope.text) = some scope := by
  simp [fromJson, Json.text?, Namespace.new_eq_ok_iff.mpr rfl, Except.toOption]

@[simp]
theorem DestinationName.fromJson_text (name : DestinationName) :
    DestinationName.fromJson (.string name.text) = some name := by
  simp [fromJson, Json.text?, DestinationName.new_eq_ok_iff.mpr rfl, Except.toOption]

@[simp]
theorem DestinationScope.nameFrom_text (name : DestinationName) :
    nameFrom [("name", .string name.text)] = some name := by
  simp [nameFrom, Json.fields?]

@[simp]
theorem DestinationScope.fromJson_toJson (scope : DestinationScope) :
    DestinationScope.fromJson scope.toJson = some scope := by
  cases scope <;> simp [fromJson, toJson]

@[simp]
theorem Permission.fromJson_toJson (permission : Permission) :
    Permission.fromJson permission.toJson = some permission := by
  simp [fromJson, toJson, Json.fields?, List.lookup]

theorem Permission.mapM_fromJson (permissions : List Permission) :
    (permissions.map Permission.toJson).mapM Permission.fromJson = some permissions := by
  induction permissions with
  | nil => rfl
  | cons permission permissions ih =>
    rw [List.map_cons, List.mapM_cons, fromJson_toJson, ih]
    rfl

/-- A Gateway reads the claims the issuer wrote. -/
theorem TokenIssuer.fromJson_claims (issuer : TokenIssuer) {nbf exp : Nat}
    (nbf_fits : nbf < 2 ^ 64) (exp_fits : exp < 2 ^ 64) (permissions : List Permission) :
    Claims.fromJson (issuer.claims nbf exp permissions) =
      some ⟨issuer.issuer, .one issuer.audience, nbf, exp, permissions⟩ := by
  have read := Permission.mapM_fromJson permissions
  simp [Claims.fromJson, TokenIssuer.claims, Json.fields?, List.lookup, Json.text?,
    Json.u64?_number nbf_fits, Json.u64?_number exp_fits, Json.items?,
    Audience.fromJson, Claims.permissionsFrom, read]

/-! ## The grant -/

/-- The claims a Gateway reads from a token it has verified. -/
def decodeClaims (payload : Text → Option Json) (token : Text) : Option Claims :=
  (payload token).bind Claims.fromJson

/-- A token grants an action on a destination exactly if one of the permissions
it was issued for does, by action, namespace and labels; and claims with too many
permissions grant nothing. -/
theorem issued_grants_iff (sign : TokenHeader → Json → Option Text)
    (payload : Text → Option Json)
    (lossless : ∀ header claims token, sign header claims = some token →
      payload token = some claims)
    (issuer : TokenIssuer) (permissions : List Permission)
    (notBefore : Option Nat) (lifetime : Nat) (issued : IssuedToken)
    (ok : issuer.issueAt sign permissions notBefore lifetime = .ok issued) :
    (∃ claims, decodeClaims payload issued.token = some claims ∧
      ∀ action destination, claims.authorizes action destination = true ↔
        ∃ permission ∈ permissions, permission.Grants action destination) ∧
    ∀ claims : Claims, Claims.maxPermissions < claims.permissions.length →
      ∀ action destination, claims.authorizes action destination = false := by
  rcases TokenIssuer.of_issueAt ok with ⟨nbf, earlier, fits, few, signed⟩
  constructor
  · have decoded : decodeClaims payload issued.token =
        Claims.fromJson (issuer.claims nbf issued.expiresAt permissions) := by
      rw [decodeClaims, lossless _ _ _ signed, Option.bind_some]
    rw [issuer.fromJson_claims (earlier.trans fits) fits permissions] at decoded
    refine ⟨_, decoded, fun action destination => ?_⟩
    rw [Claims.authorizes_iff]
    exact and_iff_right few
  · intro claims many action destination
    rw [← Bool.not_eq_true, Claims.authorizes_iff]
    omega

namespace TokenIssuer.Scenario

/-- The namespace `a`. -/
def realm : Namespace := ⟨[97], validateNamespace_a⟩

/-- The name `b`. -/
def root : DestinationName := ⟨[98], validateDestinationName_b⟩

/-- The name `b.c`. -/
def below : DestinationName := ⟨[98, 46, 99], by decide⟩

/-- The name `bc`, which only shares a beginning with `b`. -/
def beside : DestinationName := ⟨[98, 99], by decide⟩

def permissions : List Permission := [⟨.dial, realm, .subtree root⟩]

def issuer : TokenIssuer := ⟨[105], [97], [107]⟩

end TokenIssuer.Scenario

open TokenIssuer.Scenario in
/-- A subtree permission reaches below its root and not beside it. -/
theorem issued_grants_subtree :
    ∃ (sign : TokenHeader → Json → Option Text) (payload : Text → Option Json)
      (claims : Claims),
      decodeClaims payload [116] = some claims ∧
      issuer.issueAt sign permissions (some 10) 5 = .ok ⟨[116], 15⟩ ∧
      claims.authorizes .dial ⟨realm, below⟩ = true ∧
      ¬ claims.authorizes .dial ⟨realm, beside⟩ = true := by
  classical
  let document := issuer.claims 10 15 permissions
  let sign : TokenHeader → Json → Option Text := fun _ claims =>
    if claims = document then some [116] else none
  have lossless : ∀ header claims token, sign header claims = some token →
      (fun _ : Text => some document) token = some claims := by
    intro header claims token signed
    by_cases same : claims = document
    · rw [same]
    · rw [show sign header claims = none from if_neg same] at signed
      cases signed
  have ok : issuer.issueAt sign permissions (some 10) 5 = .ok ⟨[116], 15⟩ := by
    have signed : sign ⟨TokenIssuer.operationTokenType, issuer.keyId⟩
        (issuer.claims 10 (10 + 5) permissions) = some [116] := if_pos rfl
    unfold TokenIssuer.issueAt
    simp only [signed]
    rfl
  rcases (issued_grants_iff sign _ lossless issuer permissions (some 10) 5
    ⟨[116], 15⟩ ok).1 with ⟨claims, decoded, grants⟩
  refine ⟨sign, _, claims, decoded, ok, ?_, ?_⟩
  · refine (grants _ _).mpr ⟨_, List.mem_singleton_self _, rfl, rfl, [[99]], ?_⟩
    decide
  · intro granted
    rcases (grants _ _).mp granted with ⟨permission, member, _, _, covers⟩
    cases List.mem_singleton.mp member
    rw [← DestinationScope.contains_iff] at covers
    revert covers
    decide

end RelayGate
