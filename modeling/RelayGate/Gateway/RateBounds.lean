import RelayGate.Gateway.RateLimit

/-!
# What a token bucket grants

A run of a bucket is a list of queries at non-decreasing times.  Within any
window the bucket grants at most its burst and what its rate refills during the
window; as long as the cap on the credit cuts nothing off, it grants exactly
that, since the remainder of a refill stays in the credit.
-/

namespace RelayGate.Gateway

namespace TokenBucket

/-! ## Runs -/

/-- A look at the capacity of a bucket, or a request for a token. -/
inductive Query where
  | hasCapacity (now : Instant)
  | tryTake (now : Instant)
  deriving DecidableEq, Repr

variable {perSecond burst : Nat} {bucket : TokenBucket} {query : Query}

def Query.now : Query → Instant
  | .hasCapacity now => now
  | .tryTake now => now

def answer (bucket : TokenBucket) : Query → Bool × TokenBucket
  | .hasCapacity now => bucket.hasCapacity now
  | .tryTake now => bucket.tryTake now

/-- A query takes a token when it is a request that is granted. -/
def takes (bucket : TokenBucket) : Query → Bool
  | .hasCapacity _ => false
  | .tryTake now => (bucket.tryTake now).1

/-- The bucket after a list of queries. -/
def after (bucket : TokenBucket) (queries : List Query) : TokenBucket :=
  queries.foldl (fun bucket query => (bucket.answer query).2) bucket

/-- The times of the requests that are granted. -/
def granted (bucket : TokenBucket) : List Query → List Instant
  | [] => []
  | query :: queries =>
      let rest := granted (bucket.answer query).2 queries
      if bucket.takes query then query.now :: rest else rest

/-- Query times do not decrease. -/
def Ordered (queries : List Query) : Prop :=
  queries.Pairwise fun earlier later => earlier.now ≤ later.now

/-- No refill of the run is cut off at the capacity. -/
def Uncut (bucket : TokenBucket) : List Query → Prop
  | [] => True
  | query :: queries =>
      bucket.credit + (query.now - bucket.updatedAt) * bucket.perSecond ≤
          bucket.capacity ∧
        Uncut (bucket.answer query).2 queries

instance (queries : List Query) : Decidable (Ordered queries) :=
  inferInstanceAs (Decidable (queries.Pairwise _))

instance decidableUncut : (bucket : TokenBucket) → (queries : List Query) →
    Decidable (bucket.Uncut queries)
  | _, [] => inferInstanceAs (Decidable True)
  | bucket, query :: queries =>
      haveI := decidableUncut (bucket.answer query).2 queries
      inferInstanceAs (Decidable (_ ∧ _))

/-- A bucket of the given rate and burst. -/
structure Rated (perSecond burst : Nat) (bucket : TokenBucket) : Prop where
  perSecond_eq : bucket.perSecond = perSecond
  capacity_eq : bucket.capacity = burst * token
  credit_le : bucket.credit ≤ bucket.capacity

theorem rated_new (perSecond burst : Nat) (now : Instant) :
    Rated perSecond burst (new perSecond burst now) :=
  ⟨rfl, rfl, Nat.le_refl _⟩

/-! ## One query -/

section Query

variable (bucket : TokenBucket) (query : Query)

/-- A query changes nothing but the credit and the time of the last refill. -/
theorem answer_eq : (bucket.answer query).2 =
    { bucket with
      credit := (bucket.answer query).2.credit
      updatedAt := query.now } := by
  cases query with
  | hasCapacity => rfl
  | tryTake =>
    simp only [answer, tryTake]
    split
    · rfl
    · rfl

theorem answer_perSecond : (bucket.answer query).2.perSecond = bucket.perSecond := by
  rw [answer_eq]

theorem answer_capacity : (bucket.answer query).2.capacity = bucket.capacity := by
  rw [answer_eq]

theorem answer_updatedAt : (bucket.answer query).2.updatedAt = query.now := by
  rw [answer_eq]

/-- A token taken is paid out of the refilled credit. -/
theorem answer_credit :
    (bucket.answer query).2.credit + (if bucket.takes query then token else 0) =
      (bucket.refill query.now).credit := by
  cases query with
  | hasCapacity => rfl
  | tryTake =>
    simp only [answer, takes, tryTake, Query.now]
    split
    · rfl
    next enough => exact Nat.sub_add_cancel (Nat.not_lt.mp enough)

end Query

/-- A refill adds no more than the rate allows and never passes the capacity. -/
theorem refill_credit_le (bucket : TokenBucket) (now : Instant) :
    (bucket.refill now).credit ≤ bucket.capacity ∧
      (bucket.refill now).credit ≤
        bucket.credit + bucket.perSecond * (now - bucket.updatedAt) := by
  simp only [refill, Nat.mul_comm]
  omega

theorem Rated.answer (rated : Rated perSecond burst bucket) (query : Query) :
    Rated perSecond burst (bucket.answer query).2 where
  perSecond_eq := (answer_perSecond bucket query).trans rated.perSecond_eq
  capacity_eq := (answer_capacity bucket query).trans rated.capacity_eq
  credit_le := by
    have paid := answer_credit bucket query
    have capped := (refill_credit_le bucket query.now).1
    rw [answer_capacity]
    omega

theorem granted_cons (bucket : TokenBucket) (query : Query) (queries : List Query) :
    bucket.granted (query :: queries) =
      (if bucket.takes query then [query.now] else []) ++
        (bucket.answer query).2.granted queries := by
  rw [granted]
  split <;> rfl

/-! ## The bound on every window -/

theorem Ordered.tail {queries : List Query}
    (ordered : Ordered (query :: queries)) : Ordered queries :=
  (List.pairwise_cons.mp ordered).2

/-- After a query, the rest of an ordered run lies in the bucket's future. -/
theorem Ordered.later {queries : List Query}
    (ordered : Ordered (query :: queries)) (bucket : TokenBucket) :
    ∀ next ∈ queries, (bucket.answer query).2.updatedAt ≤ next.now := by
  rw [answer_updatedAt]
  exact (List.pairwise_cons.mp ordered).1

theorem granted_subset {queries : List Query} {time : Instant}
    (member : time ∈ bucket.granted queries) : ∃ query ∈ queries, query.now = time := by
  induction queries generalizing bucket with
  | nil => cases member
  | cons query queries ih =>
    rw [granted_cons, List.mem_append] at member
    rcases member with first | rest
    · split at first
      · exact ⟨query, List.mem_cons_self, (List.mem_singleton.mp first).symm⟩
      · cases first
    · obtain ⟨next, among, same⟩ := ih rest
      exact ⟨next, List.mem_cons_of_mem query among, same⟩

/-- Nothing is granted until a time that lies before the run. -/
theorem countP_granted_eq_zero {queries : List Query} {last : Instant}
    (bucket : TokenBucket) (keep : Instant → Bool) (past : ∀ query ∈ queries, last < query.now)
    (kept : ∀ time, keep time = true → time ≤ last) :
    (bucket.granted queries).countP keep = 0 := by
  rw [List.countP_eq_zero]
  intro time member keeps
  obtain ⟨query, among, rfl⟩ := granted_subset member
  exact Nat.not_lt.mpr (kept _ keeps) (past query among)

theorem mul_sub_add_mul_sub (rate : Nat) {first middle last : Nat}
    (early : first ≤ middle) (late : middle ≤ last) :
    rate * (middle - first) + rate * (last - middle) = rate * (last - first) := by
  rw [← Nat.mul_add]
  congr 1
  omega

/-- What a run grants until a time is paid by the credit it starts with and by
what is refilled until then. -/
theorem granted_until {queries : List Query} (ordered : Ordered queries)
    (later : ∀ query ∈ queries, bucket.updatedAt ≤ query.now) (last : Instant) :
    ((bucket.granted queries).countP fun time => time ≤ last) * token ≤
      bucket.credit + bucket.perSecond * (last - bucket.updatedAt) := by
  induction queries generalizing bucket with
  | nil => simp [granted]
  | cons query queries ih =>
    rcases Nat.lt_or_ge last query.now with past | within
    · have all_past : ∀ next ∈ query :: queries, last < next.now := by
        rw [List.forall_mem_cons]
        refine ⟨past, fun next member => Nat.lt_of_lt_of_le past ?_⟩
        exact (List.pairwise_cons.mp ordered).1 next member
      rw [countP_granted_eq_zero bucket _ all_past (by simp)]
      omega
    · have rest := ih ordered.tail (ordered.later bucket)
      rw [answer_perSecond, answer_updatedAt] at rest
      have spent := answer_credit bucket query
      have refilled := (refill_credit_le bucket query.now).2
      have split_time := mul_sub_add_mul_sub bucket.perSecond
        (later query List.mem_cons_self) within
      rw [granted_cons, List.countP_append, Nat.add_mul]
      cases takes : bucket.takes query with
      | true =>
        simp only [takes, if_true] at spent ⊢
        simp only [List.countP_singleton, within, decide_true, if_true]
        omega
      | false =>
        simp only [takes, Bool.false_eq_true, if_false] at spent ⊢
        simp only [List.countP_nil]
        omega

theorem refill_refill (bucket : TokenBucket) (now : Instant) :
    (bucket.refill now).refill now = bucket.refill now := by
  simp only [refill, Nat.sub_self, Nat.zero_mul]
  congr 1
  omega

/-- A query first refills, so it does not notice a refill made at its time. -/
theorem granted_refill (bucket : TokenBucket) (query : Query) (queries : List Query) :
    (bucket.refill query.now).granted (query :: queries) = bucket.granted (query :: queries) := by
  have same : (bucket.refill query.now).answer query = bucket.answer query ∧
      (bucket.refill query.now).takes query = bucket.takes query := by
    cases query with
    | hasCapacity => simp [answer, takes, hasCapacity, Query.now, refill_refill]
    | tryTake => simp [answer, takes, tryTake, Query.now, refill_refill]
  rw [granted_cons, granted_cons, same.1, same.2]

/-- Within any window a bucket grants at most its burst and what its rate refills
during the window. -/
theorem granted_within (rated : Rated perSecond burst bucket) {queries : List Query}
    (ordered : Ordered queries) (first last : Instant) :
    ((bucket.granted queries).countP fun time => first ≤ time && time ≤ last) ≤
      burst + perSecond * (last - first) / token := by
  induction queries generalizing bucket with
  | nil => simp [granted]
  | cons query queries ih =>
    rcases Nat.lt_or_ge query.now first with early | inside
    · -- the first query lies before the window
      rw [granted_cons, List.countP_append]
      have none : (if bucket.takes query then [query.now] else []).countP
          (fun time => first ≤ time && time ≤ last) = 0 := by
        split <;> simp [Nat.not_le.mpr early]
      rw [none, Nat.zero_add]
      exact ih (rated.answer query) ordered.tail
    · -- the window starts at or before the first query
      have later : ∀ next ∈ query :: queries,
          (bucket.refill query.now).updatedAt ≤ next.now := by
        rw [List.forall_mem_cons]
        exact ⟨Nat.le_refl _, (List.pairwise_cons.mp ordered).1⟩
      have until_last := granted_until ordered later last
      rw [granted_refill] at until_last
      have capped := (refill_credit_le bucket query.now).1
      have fewer : ((bucket.granted (query :: queries)).countP fun time =>
          first ≤ time && time ≤ last) ≤
            (bucket.granted (query :: queries)).countP fun time => time ≤ last := by
        apply List.countP_mono_left
        simp
      have shorter : perSecond * (last - query.now) ≤ perSecond * (last - first) :=
        Nat.mul_le_mul_left perSecond (Nat.sub_le_sub_left inside last)
      have rate : (bucket.refill query.now).perSecond *
          (last - (bucket.refill query.now).updatedAt) =
            perSecond * (last - query.now) := by
        simp only [refill, rated.perSecond_eq]
      rw [rate] at until_last
      rw [rated.capacity_eq] at capped
      have token_pos : 0 < token := by decide
      rw [Nat.add_comm, ← Nat.add_mul_div_right _ _ token_pos, Nat.le_div_iff_mul_le token_pos]
      have counted := Nat.mul_le_mul_right token fewer
      omega

/-! ## Nothing is lost to rounding -/

/-- While the cap cuts nothing off, the credit and the tokens taken add up to the
credit at the start and what was refilled since. -/
theorem credit_after {queries : List Query} (ordered : Ordered queries)
    (later : ∀ query ∈ queries, bucket.updatedAt ≤ query.now)
    (uncut : bucket.Uncut queries) (bounded : bucket.capacity ≤ creditLimit) :
    bucket.updatedAt ≤ (bucket.after queries).updatedAt ∧
      (bucket.after queries).credit + (bucket.granted queries).length * token =
        bucket.credit +
          bucket.perSecond * ((bucket.after queries).updatedAt - bucket.updatedAt) := by
  induction queries generalizing bucket with
  | nil => simp [after, granted]
  | cons query queries ih =>
    obtain ⟨whole, rest_uncut⟩ := uncut
    have rest := ih ordered.tail (ordered.later bucket) rest_uncut
      (by rwa [answer_capacity])
    rw [answer_perSecond, answer_updatedAt] at rest
    obtain ⟨forth, total⟩ := rest
    have first := later query List.mem_cons_self
    have refilled : (bucket.refill query.now).credit =
        bucket.credit + bucket.perSecond * (query.now - bucket.updatedAt) := by
      rw [Nat.mul_comm] at whole
      simp only [refill, Nat.mul_comm]
      omega
    have spent := answer_credit bucket query
    have split_time := mul_sub_add_mul_sub bucket.perSecond first forth
    rw [granted_cons, List.length_append, Nat.add_mul]
    change bucket.updatedAt ≤ ((bucket.answer query).2.after queries).updatedAt ∧
      ((bucket.answer query).2.after queries).credit + _ = bucket.credit +
        bucket.perSecond * (((bucket.answer query).2.after queries).updatedAt - _)
    refine ⟨Nat.le_trans first forth, ?_⟩
    cases takes : bucket.takes query with
    | true =>
      simp only [takes, if_true] at spent ⊢
      simp only [List.length_singleton, Nat.one_mul]
      omega
    | false =>
      simp only [takes, Bool.false_eq_true, if_false] at spent ⊢
      simp only [List.length_nil, Nat.zero_mul]
      omega

theorem Rated.after (rated : Rated perSecond burst bucket) (queries : List Query) :
    Rated perSecond burst (bucket.after queries) := by
  induction queries generalizing bucket with
  | nil => exact rated
  | cons query queries ih => exact ih (rated.answer query)

theorem after_updatedAt_le {queries : List Query}
    {now : Instant} (started : bucket.updatedAt ≤ now)
    (earlier : ∀ query ∈ queries, query.now ≤ now) : (bucket.after queries).updatedAt ≤ now := by
  induction queries generalizing bucket with
  | nil => exact started
  | cons query queries ih =>
    rw [List.forall_mem_cons] at earlier
    apply ih
    · rw [answer_updatedAt]
      exact earlier.1
    · exact earlier.2

/-- A request is granted when the credit and the refill make up a token, however
the refill is capped. -/
theorem tryTake_iff {now : Instant}
    (holds_token : token ≤ bucket.capacity) (bounded : bucket.capacity ≤ creditLimit) :
    (bucket.tryTake now).1 = true ↔
      token ≤ bucket.credit + bucket.perSecond * (now - bucket.updatedAt) := by
  have enough : (bucket.tryTake now).1 = true ↔
      token ≤ (bucket.refill now).credit := by
    simp only [tryTake]
    split
    next short => simp [short]
    next full => simpa using full
  rw [enough, Nat.mul_comm]
  simp only [refill]
  omega

/-- In a run from a full bucket in which the cap cuts nothing off, a request is
granted exactly when fewer requests were granted before than the burst and the
refilled tokens. -/
theorem tryTake_iff_granted_lt (positive : 0 < burst)
    (usize : burst < 2 ^ 64) {start now : Instant} {queries : List Query}
    (ordered : Ordered (queries ++ [.tryTake now]))
    (started : ∀ query ∈ queries ++ [.tryTake now], start ≤ query.now)
    (uncut : (new perSecond burst start).Uncut queries) :
    (((new perSecond burst start).after queries).tryTake now).1 = true ↔
      ((new perSecond burst start).granted queries).length <
        burst + perSecond * (now - start) / token := by
  obtain ⟨among, _, before⟩ := List.pairwise_append.mp ordered
  rw [List.forall_mem_append] at started
  have bounded : burst * token ≤ creditLimit := by
    unfold token creditLimit
    omega
  have one_token : token ≤ burst * token := Nat.le_mul_of_pos_left token positive
  have rated := (rated_new perSecond burst start).after queries
  obtain ⟨forth, total⟩ := credit_after among started.1 uncut bounded
  have back : ((new perSecond burst start).after queries).updatedAt ≤ now :=
    after_updatedAt_le (started.2 _ List.mem_cons_self)
      (fun query member => before query member _ List.mem_cons_self)
  have split_time := mul_sub_add_mul_sub perSecond forth back
  have token_pos : 0 < token := by decide
  rw [tryTake_iff (by rwa [rated.capacity_eq]) (by rwa [rated.capacity_eq]),
    rated.perSecond_eq, Nat.add_comm burst, ← Nat.add_mul_div_right _ _ token_pos,
    ← Nat.succ_le_iff, Nat.le_div_iff_mul_le token_pos, Nat.succ_mul]
  change _ = burst * token + perSecond * (_ - start) at total
  change perSecond * (_ - start) + _ = perSecond * (now - start) at split_time
  omega

/-- A token bucket grants at most its rate in every window, and exactly its rate
while the cap cuts nothing off. -/
theorem grants_follow_rate {perSecond burst : Nat} (positive : 0 < burst)
    (usize : burst < 2 ^ 64) :
    (∀ bucket queries, Rated perSecond burst bucket → Ordered queries →
      ∀ first last : Instant,
        ((bucket.granted queries).countP fun time => first ≤ time && time ≤ last) ≤
          burst + perSecond * (last - first) / token) ∧
    ∀ (start now : Instant) (queries : List Query),
      Ordered (queries ++ [.tryTake now]) →
      (∀ query ∈ queries ++ [.tryTake now], start ≤ query.now) →
      (new perSecond burst start).Uncut queries →
      ((((new perSecond burst start).after queries).tryTake now).1 = true ↔
        ((new perSecond burst start).granted queries).length <
          burst + perSecond * (now - start) / token) := by
  constructor
  · intro bucket queries rated ordered first last
    exact granted_within rated ordered first last
  · intro start now queries ordered started uncut
    exact tryTake_iff_granted_lt positive usize ordered started uncut

namespace Scenario

/-- The burst is used up at once; half a second later one token of two a second
has been refilled, in two parts. -/
def queries : List Query :=
  [.tryTake 0, .tryTake 0, .tryTake 0, .hasCapacity 250000000]

end Scenario

open Scenario in
theorem grants_follow_rate_burst :
    (((new 2 3 0).granted queries).countP fun time => 0 ≤ time && time ≤ 250000000) ≤
      3 + 2 * (250000000 - 0) / token ∧
    ((((new 2 3 0).after queries).tryTake 500000000).1 = true ↔
      ((new 2 3 0).granted queries).length < 3 + 2 * (500000000 - 0) / token) :=
  have rate := @grants_follow_rate 2 3 (by decide) (by decide)
  ⟨rate.1 _ queries (rated_new 2 3 0) (by decide) 0 250000000,
    rate.2 0 500000000 queries (by decide) (by decide) (by decide)⟩

end TokenBucket

end RelayGate.Gateway
