import RelayGate.RouteTable.Model

/-!
# Control admission rates

A token bucket whose fractional tokens are integer nanosecond credits in `u128`
arithmetic.
-/

namespace RelayGate.Gateway

/-- The credit of one token. -/
def token : Nat := 1000000000

/-- The largest `u128`, at which additions and multiplications saturate. -/
def creditLimit : Nat := 2 ^ 128 - 1

structure TokenBucket where
  perSecond : Nat
  capacity : Nat
  credit : Nat
  updatedAt : Instant
deriving DecidableEq, Repr

namespace TokenBucket

def new (perSecond burst : Nat) (now : Instant) : TokenBucket :=
  ⟨perSecond, burst * token, burst * token, now⟩

/-- Refill the bucket for the time that passed. -/
def refill (bucket : TokenBucket) (now : Instant) : TokenBucket :=
  let added := min ((now - bucket.updatedAt) * bucket.perSecond) creditLimit
  { bucket with
    credit := min bucket.capacity (min (bucket.credit + added) creditLimit)
    updatedAt := now }

/-- Refill, then tell whether there is a token. -/
def hasCapacity (bucket : TokenBucket) (now : Instant) : Bool × TokenBucket :=
  let bucket := bucket.refill now
  (token ≤ bucket.credit, bucket)

/-- Refill, then take one token when there is one. -/
def tryTake (bucket : TokenBucket) (now : Instant) : Bool × TokenBucket :=
  let bucket := bucket.refill now
  if bucket.credit < token then (false, bucket)
  else (true, { bucket with credit := bucket.credit - token })

end TokenBucket

end RelayGate.Gateway
