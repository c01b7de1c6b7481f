import RelayGate.Authorization.Claims
import RelayGate.Gateway.Session
import RelayGate.Library.ByteCodec

/-!
# Verification of operation tokens

The trust configuration of a Gateway and the check of one token against one
operation.  The JWT library is a parameter: it reads the header of a token, and
gives the claims of a token that is signed by a key and valid under some rules.
-/

namespace RelayGate.Gateway

open Library

/-- `Duration::as_secs`. -/
def asSecs (span : Duration) : Nat := span / 1000000000

/-- `Duration::from_secs`. -/
def fromSecs (seconds : Nat) : Duration := seconds * 1000000000

/-! ## Trust configuration -/

def maxAudienceBytes : Nat := 256

def maxIssuerBytes : Nat := 2048

def maxKeyIdBytes : Nat := 128

def maxIssuers : Nat := 256

def maxKeysPerIssuer : Nat := 2

def maxClockSkew : Duration := fromSecs 300

/-- A static ES256 verification key, selected by the `kid` of a token. -/
structure Es256PublicKey (Key : Type) where
  kid : Text
  decodingKey : Key
  kidBounded : kid ≠ [] ∧ kid.length ≤ maxKeyIdBytes

/-- An issuer that is trusted for the operations of one namespace. -/
structure TrustedIssuer (Key : Type) where
  inNamespace : Namespace
  issuer : Text
  keys : List (Es256PublicKey Key)
  issuerBounded : issuer ≠ [] ∧ issuer.length ≤ maxIssuerBytes
  keysBounded : keys ≠ [] ∧ keys.length ≤ maxKeysPerIssuer
  kidsUnique : (keys.map Es256PublicKey.kid).Nodup

/-- The trust configuration of a Gateway. -/
structure AuthorizationConfig (Key : Type) where
  audience : Text
  issuers : List (TrustedIssuer Key)
  clockSkew : Duration
  audienceBounded : audience ≠ [] ∧ audience.length ≤ maxAudienceBytes
  issuersBounded : issuers ≠ [] ∧ issuers.length ≤ maxIssuers
  namespacesUnique : (issuers.map TrustedIssuer.inNamespace).Nodup
  clockSkewBounded : clockSkew ≤ maxClockSkew

/-! ## The JWT library -/

/-- The algorithms that a token header can name. -/
inductive Algorithm
  | hs256 | hs384 | hs512 | es256 | es384 | rs256 | rs384 | rs512
  | ps256 | ps384 | ps512 | edDSA
deriving DecidableEq

/-- The header of a token, which nothing has authenticated yet. -/
structure Header where
  alg : Algorithm
  typ : Option Text
  crit : Option (List Text)
  kid : Option Text

/-- The rules for the registered claims of a token. -/
structure Validation where
  algorithm : Algorithm
  validateNbf : Bool
  leeway : Nat
  requiredSpecClaims : List String
  issuer : List Text
  audience : List Text

/-- The JWT library.  Decoding reads the clock, in seconds since the epoch. -/
structure JwtLibrary (Key : Type) where
  decodeHeader : BearerToken → Option Header
  decode : BearerToken → Key → Validation → Nat → Option Claims

/-- The library returns only claims signed by the key it is given. -/
def JwtLibrary.Honest {Key : Type} (library : JwtLibrary Key)
    (Signed : Key → BearerToken → Claims → Prop) : Prop :=
  ∀ token key validation now claims,
    library.decode token key validation now = some claims →
      Signed key token claims

/-! ## Verification -/

def tokenType : Text := utf8 "relaygate-operation+jwt"

def tokenMediaType : Text := utf8 "application/relaygate-operation+jwt"

def toAsciiLowercase (byte : UInt8) : UInt8 :=
  if 65 ≤ byte ∧ byte ≤ 90 then byte + 32 else byte

def eqIgnoreAsciiCase (left right : Text) : Bool :=
  left.map toAsciiLowercase = right.map toAsciiLowercase

def isSupportedTokenType (typ : Text) : Bool :=
  eqIgnoreAsciiCase typ tokenType || eqIgnoreAsciiCase typ tokenMediaType

/-- The action of an operation, as a permission names it. -/
def Action.permitted : Action → RelayGate.Action
  | publish => .publish
  | dial => .dial

/-- The clocks that a verification reads: the time of decoding and the time of
the expiry check in seconds since the epoch, and the monotonic clock with the
latter. -/
structure Readings where
  decodedAt : Nat
  now : Nat
  checkedAt : Instant
deriving DecidableEq

variable {Key : Type}

/-- The rules under which a token of an issuer is decoded. -/
def AuthorizationConfig.validation (config : AuthorizationConfig Key)
    (trusted : TrustedIssuer Key) : Validation where
  algorithm := .es256
  validateNbf := true
  leeway := asSecs config.clockSkew
  requiredSpecClaims := ["iss", "aud", "nbf", "exp"]
  issuer := [trusted.issuer]
  audience := [config.audience]

/-- The instant at which claims expire, the clock skew included. -/
def AuthorizationConfig.expiresAt (config : AuthorizationConfig Key)
    (claims : Claims) (readings : Readings) : Option Instant :=
  let expiresUnix := claims.exp + asSecs config.clockSkew
  if 2 ^ 64 ≤ expiresUnix then none
  else if expiresUnix < readings.now then none
  else checkedAdd readings.checkedAt (fromSecs (expiresUnix - readings.now))

/-- Go on under a condition, and fail with the code otherwise. -/
def ensure (code : ErrorCode) (condition : Bool) : Except ErrorCode Unit :=
  if condition then .ok () else .error code

/-- Check a token for an operation. -/
def AuthorizationConfig.verify (config : AuthorizationConfig Key)
    (library : JwtLibrary Key) (token : BearerToken)
    (operation : ControlOperation) (readings : Readings) :
    Except ErrorCode VerifiedAuthorization := do
  let header ← okOr .unauthenticated (library.decodeHeader token)
  ensure .unauthenticated (header.alg = .es256 ∧
    header.typ.any isSupportedTokenType ∧ header.crit.isNone)
  let kid ← okOr .unauthenticated header.kid
  let trusted ← okOr .unauthenticated
    (config.issuers.find? fun trusted =>
      trusted.inNamespace = operation.destination.scope)
  let key ← okOr .unauthenticated
    (trusted.keys.find? fun key => key.kid = kid)
  let claims ← okOr .unauthenticated
    (library.decode token key.decodingKey (config.validation trusted)
      readings.decodedAt)
  ensure .unauthenticated claims.registeredClaimsAreSane
  let expiresAt ← okOr .unauthenticated (config.expiresAt claims readings)
  ensure .permissionDenied
    (claims.authorizes operation.action.permitted operation.destination)
  return ⟨operation.destination, operation.action, expiresAt⟩

/-! ## What a verification has checked -/

/-- The token carries claims that a key trusted for the destination has signed
and that grant the action of the operation on it. -/
structure AuthorizationConfig.Grants (config : AuthorizationConfig Key)
    (Signed : Key → BearerToken → Claims → Prop) (token : BearerToken)
    (operation : ControlOperation) (claims : Claims) : Prop where
  signed : ∃ trusted ∈ config.issuers,
    trusted.inNamespace = operation.destination.scope ∧
      ∃ key ∈ trusted.keys, Signed key.decodingKey token claims
  permitted : ∃ permission ∈ claims.permissions,
    permission.Grants operation.action.permitted operation.destination

variable {config : AuthorizationConfig Key}

end RelayGate.Gateway
