import RelayGate.Authorization.Claims
import RelayGate.Library.ByteCodec

/-!
# Issued tokens

The token issuer turns a list of permissions into a JSON document and signs it;
a Gateway reads its claims from the document of a token it has verified.  The
signature scheme is not modelled: `sign` and `payload` stand for the JWT
library on either side.
-/

namespace RelayGate

open Library

/-- A JSON value; strings are their UTF-8 bytes. -/
inductive Json
  | string (text : Text)
  | number (value : Nat)
  | array (items : List Json)
  | object (fields : List (String × Json))

namespace Json

def text? : Json → Option Text
  | .string text => some text
  | _ => none

/-- A number of eight bytes. -/
def u64? : Json → Option Nat
  | .number value => if value < 2 ^ 64 then some value else none
  | _ => none

def items? : Json → Option (List Json)
  | .array items => some items
  | _ => none

/-- The fields of an object that has no others and none of them twice. -/
def fields? (known : List String) : Json → Option (List (String × Json))
  | .object fields =>
      if fields.all (fun field => known.contains field.1) &&
          (fields.map Prod.fst).Nodup then
        some fields
      else none
  | _ => none

end Json

/-! ## Writing -/

def Action.toJson : Action → Json
  | .publish => .string (utf8 "publish")
  | .dial => .string (utf8 "dial")

/-- A scope is tagged by its kind. -/
def DestinationScope.toJson : DestinationScope → Json
  | .exact name =>
      .object [("kind", .string (utf8 "exact")), ("name", .string name.text)]
  | .subtree name =>
      .object [("kind", .string (utf8 "subtree")), ("name", .string name.text)]
  | .all => .object [("kind", .string (utf8 "all"))]

def Permission.toJson (permission : Permission) : Json :=
  .object [("action", permission.action.toJson),
    ("namespace", .string permission.inNamespace.text),
    ("scope", permission.scope.toJson)]

/-! ## Reading -/

def Action.fromJson (json : Json) : Option Action := do
  let text ← json.text?
  if text = utf8 "publish" then some .publish
  else if text = utf8 "dial" then some .dial
  else none

def Namespace.fromJson (json : Json) : Option Namespace := do
  (Namespace.new (← json.text?)).toOption

def DestinationName.fromJson (json : Json) : Option DestinationName := do
  (DestinationName.new (← json.text?)).toOption

/-- The name of a scope, which has no other field besides its kind. -/
def DestinationScope.nameFrom (others : List (String × Json)) :
    Option DestinationName := do
  let fields ← (Json.object others).fields? ["name"]
  DestinationName.fromJson (← fields.lookup "name")

def DestinationScope.fromJson : Json → Option DestinationScope
  | .object fields => do
      let others := fields.filter fun field => field.1 ≠ "kind"
      match fields.filter fun field => field.1 = "kind" with
      | [(_, .string kind)] =>
          if kind = utf8 "exact" then return .exact (← nameFrom others)
          else if kind = utf8 "subtree" then return .subtree (← nameFrom others)
          -- the fields of a variant without fields are ignored
          else if kind = utf8 "all" then return .all
          else none
      | _ => none
  | _ => none

def Permission.fromJson (json : Json) : Option Permission := do
  let fields ← json.fields? ["action", "namespace", "scope"]
  let action ← Action.fromJson (← fields.lookup "action")
  let inNamespace ← Namespace.fromJson (← fields.lookup "namespace")
  let scope ← DestinationScope.fromJson (← fields.lookup "scope")
  return { action, inNamespace, scope }

def Audience.fromJson : Json → Option Audience
  | .string text => some (.one text)
  | .array items => do return .many (← items.mapM Json.text?)
  | _ => none

/-- Claims without permissions are claims with an empty list of them. -/
def Claims.permissionsFrom : Option Json → Option (List Permission)
  | none => some []
  | some json => do (← json.items?).mapM Permission.fromJson

def Claims.fromJson (json : Json) : Option Claims := do
  let fields ← json.fields? ["iss", "aud", "nbf", "exp", "permissions"]
  let iss ← (← fields.lookup "iss").text?
  let aud ← Audience.fromJson (← fields.lookup "aud")
  let nbf ← (← fields.lookup "nbf").u64?
  let exp ← (← fields.lookup "exp").u64?
  let permissions ← Claims.permissionsFrom (fields.lookup "permissions")
  return { iss, aud, nbf, exp, permissions }

/-! ## Issuing -/

/-- The header of a token, next to its algorithm. -/
structure TokenHeader where
  typ : Text
  kid : Text
deriving DecidableEq

/-- Why no token was issued. -/
inductive TokenIssuerError
  | emptyPermissions
  | tooManyPermissions (actual maximum : Nat)
  | invalidNotBefore
  | invalidLifetime
  | signingFailed
  | tokenTooLong (actual maximum : Nat)
deriving DecidableEq, Repr

/-- A signed token and its expiration time. -/
structure IssuedToken where
  token : Text
  expiresAt : Nat
deriving DecidableEq

/-- The signer an application's token endpoint uses. -/
structure TokenIssuer where
  issuer : Text
  audience : Text
  keyId : Text
deriving DecidableEq

namespace TokenIssuer

def operationTokenType : Text := utf8 "relaygate-operation+jwt"

def maxPermissions : Nat := 128

def maxTokenBytes : Nat := 4096

/-- The document of a token. -/
def claims (issuer : TokenIssuer) (nbf exp : Nat) (permissions : List Permission) :
    Json :=
  .object [("iss", .string issuer.issuer), ("aud", .string issuer.audience),
    ("nbf", .number nbf), ("exp", .number exp),
    ("permissions", .array (permissions.map Permission.toJson))]

/-- Issue a token from an explicit start time.  Times are whole seconds; a
start before the epoch is `none`. -/
def issueAt (issuer : TokenIssuer) (sign : TokenHeader → Json → Option Text)
    (permissions : List Permission) (notBefore : Option Nat) (lifetime : Nat) :
    Except TokenIssuerError IssuedToken :=
  if permissions.isEmpty then .error .emptyPermissions
  else if maxPermissions < permissions.length then
    .error (.tooManyPermissions permissions.length maxPermissions)
  else if lifetime = 0 then .error .invalidLifetime
  else
    match notBefore with
    | none => .error .invalidNotBefore
    | some notBefore =>
        let expiresAt := notBefore + lifetime
        if 2 ^ 64 ≤ expiresAt then .error .invalidLifetime
        else
          match sign ⟨operationTokenType, issuer.keyId⟩
              (issuer.claims notBefore expiresAt permissions) with
          | none => .error .signingFailed
          | some token =>
              if maxTokenBytes < token.length then
                .error (.tokenTooLong token.length maxTokenBytes)
              else .ok ⟨token, expiresAt⟩

/-- What a token that was issued carries. -/
theorem of_issueAt {issuer : TokenIssuer}
    {sign : TokenHeader → Json → Option Text} {permissions : List Permission}
    {notBefore : Option Nat} {lifetime : Nat} {issued : IssuedToken}
    (ok : issuer.issueAt sign permissions notBefore lifetime = .ok issued) :
    ∃ nbf, nbf < issued.expiresAt ∧ issued.expiresAt < 2 ^ 64 ∧
      permissions.length ≤ maxPermissions ∧
      sign ⟨operationTokenType, issuer.keyId⟩
        (issuer.claims nbf issued.expiresAt permissions) = some issued.token := by
  unfold issueAt at ok
  split at ok
  · cases ok
  split at ok
  · cases ok
  rename_i few
  split at ok
  · cases ok
  rename_i positive
  cases notBefore with
  | none => cases ok
  | some nbf =>
    dsimp only at ok
    split at ok
    · cases ok
    rename_i bounded
    split at ok
    · cases ok
    rename_i token signed
    split at ok
    · cases ok
    cases ok
    exact ⟨nbf, by dsimp only; omega, by dsimp only; omega, by omega, signed⟩

end TokenIssuer

end RelayGate
