import HivePoint.ForStd.TokenBucket
import HivePoint.Native.GatewayBurstLimiter

/-!
# The rate of the burst limiter

The limiter is a token bucket of the plan's burst limit. It keeps its rate as long as the
clocks of committed calls go forward: a call with an earlier clock refills nothing, but
it sets `lastRefillAt` back, and the next call is given the same time once more.

## Key results

- `runs_checkAndConsume`: a call commits one token bucket request at most
- `burst_rate_enforced`: the rate holds in every run whose committed clocks go forward
-/

namespace HivePoint

open Prog

variable {config : GatewayBurstConfig}

/-! ### The bucket as a token bucket -/

/-- An instant in seconds. -/
def seconds (t : Int) : ℚ := t / 1000

/-- The token bucket that a row stores. -/
def GatewayBurstBucket.toTokenBucket (row : GatewayBurstBucket) : TokenBucket ℚ :=
  ⟨row.tokens, seconds row.lastRefillAt⟩

/-- The request of a call. -/
def burstRequest (requestCount now : Int) : TokenRequest ℚ := ⟨seconds now, requestCount⟩

/-- Serving a request at the burst limit's rate. -/
def serveBurst (config : GatewayBurstConfig) (burstLimit : Int) (b : TokenBucket ℚ)
    (r : TokenRequest ℚ) : Bool × TokenBucket ℚ :=
  b.serve burstLimit (refillRatePerSecond id config burstLimit) r

/-- Seconds are in the order of their instants. -/
theorem seconds_le_seconds {s t : Int} : seconds s ≤ seconds t ↔ s ≤ t := by
  rw [seconds, seconds, div_le_div_iff_of_pos_right (by norm_num), Int.cast_le]

/-- The code's refill is that of a token bucket. -/
theorem refillTokens_eq (row : GatewayBurstBucket) (now burstLimit : Int) (rate : ℚ) :
    refillTokens id row.tokens row.lastRefillAt now burstLimit rate =
      row.toTokenBucket.refill (burstLimit : ℚ) rate (seconds now) := by
  have helapsed : ((max 0 (now - row.lastRefillAt) : Int) : ℚ) / 1000 =
      max 0 (seconds now - seconds row.lastRefillAt) := by
    rw [seconds, seconds, ← sub_div, Int.cast_max, Int.cast_zero, Int.cast_sub]
    rw [max_div_div_right (by norm_num : (0 : ℚ) ≤ 1000) 0 _ |>.symm, zero_div]
  simp only [refillTokens, TokenBucket.refill, GatewayBurstBucket.toTokenBucket, id_eq, helapsed]

/-- The row that a call finds, or creates with a full bucket. -/
def bucketAt (buckets : Table GatewayBurstBucket) (key : Id) (burstLimit now : Int) :
    GatewayBurstBucket :=
  (buckets.find? key).getD ⟨key, burstLimit, now⟩

/-- Locking the row leaves it in the table, inserted full if it was missing. -/
private theorem lockBucketRow_spec (buckets : Table GatewayBurstBucket) (key : Id)
    (burstLimit now : Int) :
    (lockBucketRow key burstLimit now 2 buckets).1 = bucketAt buckets key burstLimit now ∧
      ∀ k, (lockBucketRow key burstLimit now 2 buckets).2.find? k =
        if k = key then some (bucketAt buckets key burstLimit now) else buckets.find? k := by
  -- a row that stands is read, a missing one is inserted full and then read
  cases hrow : buckets.find? key with
  | some row =>
    simp only [lockBucketRow, hrow, bucketAt, Option.getD_some, true_and]
    intro k
    by_cases hk : k = key
    · rw [if_pos hk, hk, hrow]
    · rw [if_neg hk]
  | none =>
    obtain ⟨t, ht⟩ := Table.insert?_of_fresh (t := buckets)
      (r := (⟨key, burstLimit, now⟩ : GatewayBurstBucket)) hrow fun _ hmem => nomatch hmem
    have hfind := Table.find?_insert? ht
    have hself : t.find? key = some ⟨key, burstLimit, now⟩ := by
      rw [hfind]
      exact if_pos rfl
    simp only [lockBucketRow, hrow, ht, Option.getD_some, hself, bucketAt, Option.getD_none,
      true_and]
    exact hfind

/-- Storing a level writes the row of the key. -/
private theorem updateBucket_spec {buckets : Table GatewayBurstBucket} {key : Id}
    {row : GatewayBurstBucket} (hrow : buckets.find? key = some row) (tokens : ℚ) (now : Int) :
    ∃ buckets', updateBucket key tokens now buckets = .ok buckets' ∧
      ∀ k, buckets'.find? k =
        if k = key then some { row with tokens, lastRefillAt := now } else buckets.find? k := by
  obtain ⟨t, ht⟩ := Table.update?_of_preserves (t := buckets) (k := key)
    (f := fun b => { b with tokens, lastRefillAt := now }) (fun _ => rfl) fun _ hmem => nomatch hmem
  refine ⟨t, by simp only [updateBucket, hrow, ht], fun k => ?_⟩
  rw [Table.find?_update? ht (fun _ => rfl), hrow]
  rfl

/-- The tokens that a call at the instant `now` finds. -/
def availableTokens (round : ℚ → ℚ) (config : GatewayBurstConfig)
    (buckets : Table GatewayBurstBucket) (key : Id) (burstLimit now : Int) : ℚ :=
  let bucket := bucketAt buckets key burstLimit now
  refillTokens round bucket.tokens bucket.lastRefillAt now burstLimit
    (refillRatePerSecond round config burstLimit)

/-- A bucket holds no more than its limit. -/
theorem availableTokens_le (round : ℚ → ℚ) (config : GatewayBurstConfig)
    (buckets : Table GatewayBurstBucket) (key : Id) (burstLimit now : Int) :
    availableTokens round config buckets key burstLimit now ≤ burstLimit :=
  min_le_left _ _

/-- A transaction stores what it finds, less the tokens it grants, and answers accordingly. -/
theorem consumeBucket_decision (round : ℚ → ℚ) (config : GatewayBurstConfig) (burstLimit : Int)
    (key : Id) (requestCount now : Int) (buckets : Table GatewayBurstBucket) :
    ∃ decision buckets' row,
      consumeBucket round config burstLimit key requestCount now buckets =
        .ok (decision, buckets') ∧
      row.lastRefillAt = now ∧ (∀ k, buckets'.find? k =
        if k = key then some row else buckets.find? k) ∧
      (availableTokens round config buckets key burstLimit now < requestCount ∧
          row.tokens = availableTokens round config buckets key burstLimit now ∧
          decision = deniedDecision round config burstLimit requestCount row.tokens ∨
        requestCount ≤ availableTokens round config buckets key burstLimit now ∧
          row.tokens =
            round (availableTokens round config buckets key burstLimit now - requestCount) ∧
          decision = allowedDecision config burstLimit row.tokens) := by
  obtain ⟨hlocked, hfind⟩ := lockBucketRow_spec buckets key burstLimit now
  have hself := hfind key
  rw [if_pos rfl] at hself
  -- the write stores the row, whatever its tokens are
  have hstored : ∀ tokens, ∃ buckets', updateBucket key tokens now
      (lockBucketRow key burstLimit now 2 buckets).2 = .ok buckets' ∧ ∀ k, buckets'.find? k =
        if k = key then some ⟨(bucketAt buckets key burstLimit now).key, tokens, now⟩
        else buckets.find? k := by
    intro tokens
    obtain ⟨buckets', hupdate, hfind'⟩ := updateBucket_spec hself tokens now
    refine ⟨buckets', hupdate, fun k => ?_⟩
    rw [hfind', hfind]
    split <;> rfl
  simp only [consumeBucket, hlocked]
  rw [← availableTokens]
  generalize availableTokens round config buckets key burstLimit now = level
  -- too few tokens: nothing is taken; else the requested ones are
  by_cases hlow : level < requestCount
  · obtain ⟨buckets', hupdate, hfind'⟩ := hstored level
    refine ⟨_, buckets', ⟨_, level, now⟩, ?_, rfl, hfind', .inl ⟨hlow, rfl, rfl⟩⟩
    rw [if_pos hlow, hupdate]
    rfl
  · obtain ⟨buckets', hupdate, hfind'⟩ := hstored (round (level - requestCount))
    refine ⟨_, buckets', ⟨_, round (level - requestCount), now⟩, ?_, rfl, hfind',
      .inr ⟨not_lt.mp hlow, rfl, rfl⟩⟩
    rw [if_neg hlow, hupdate]
    rfl

/-- A transaction serves one request of the row's token bucket. -/
theorem consumeBucket_spec (config : GatewayBurstConfig) (burstLimit : Int) (key : Id)
    (requestCount now : Int) (buckets : Table GatewayBurstBucket) :
    ∃ decision buckets' row,
      consumeBucket id config burstLimit key requestCount now buckets = .ok (decision, buckets') ∧
      (decision.allowed, row.toTokenBucket) =
        serveBurst config burstLimit (bucketAt buckets key burstLimit now).toTokenBucket
          (burstRequest requestCount now) ∧
      row.lastRefillAt = now ∧
      ∀ k, buckets'.find? k = if k = key then some row else buckets.find? k := by
  obtain ⟨decision, buckets', row, hconsume, hlast, hfind, hcase⟩ :=
    consumeBucket_decision id config burstLimit key requestCount now buckets
  refine ⟨decision, buckets', row, hconsume, ?_, hlast, hfind⟩
  -- the tokens available are the bucket's refill
  have hlevel : availableTokens id config buckets key burstLimit now =
      (bucketAt buckets key burstLimit now).toTokenBucket.refill (burstLimit : ℚ)
        (refillRatePerSecond id config burstLimit) (burstRequest requestCount now).now :=
    refillTokens_eq _ now burstLimit _
  simp only [hlevel, id_eq] at hcase
  rw [serveBurst, GatewayBurstBucket.toTokenBucket, hlast]
  rcases hcase with ⟨hlow, htokens, rfl⟩ | ⟨henough, htokens, rfl⟩
  · rw [TokenBucket.serve_of_lt hlow, htokens]
    rfl
  · rw [TokenBucket.serve_of_le henough, htokens]
    rfl

/-! ### Runs -/

/-- A call that has returned: its parameters, its instant and its answer. -/
structure BurstCall where
  params : CheckAndConsumeParams
  now : Int
  decision : GatewayBurstLimitDecision

/-- The call is about `key`, and was allowed at an instant of `[lo, hi]`. -/
def BurstCall.allowedIn (key : Id) (lo hi : ℚ) (c : BurstCall) : Bool :=
  c.params.key = key && c.decision.allowed && lo ≤ seconds c.now && seconds c.now ≤ hi

/-- The requests that were allowed for `key` at the instants of `[lo, hi]`. -/
def allowedRequests (key : Id) (lo hi : ℚ) (calls : List BurstCall) : Int :=
  ((calls.filter (·.allowedIn key lo hi)).map (·.params.requestCount)).sum

/-- Calls whose transactions commit in the order of the list, each with its own clock; `ok`
    holds of each. Calls that fail leave the table alone, so they are left out. -/
inductive BurstRun (config : GatewayBurstConfig)
    (ok : Table GatewayBurstBucket → CheckAndConsumeParams → Int → Prop) :
    Table GatewayBurstBucket → List BurstCall → Table GatewayBurstBucket → Prop where
  | done (buckets : Table GatewayBurstBucket) : BurstRun config ok buckets [] buckets
  | call {buckets buckets₁ buckets₂ : Table GatewayBurstBucket} (params : CheckAndConsumeParams)
      (now : Int) (decision : GatewayBurstLimitDecision) (calls : List BurstCall)
      (hnow : ∀ t, params.now = some t → now = t) (hok : ok buckets params now)
      (hrun : Runs (fun env => env.now = now)
        (checkAndConsume id config params) buckets (.ok decision)
        buckets₁)
      (hrest : BurstRun config ok buckets₁ calls buckets₂) :
      BurstRun config ok buckets (⟨params, now, decision⟩ :: calls) buckets₂

/-- A call that reaches the bucket does not carry an earlier clock than the last refill. -/
def ClockForward (config : GatewayBurstConfig) (buckets : Table GatewayBurstBucket)
    (params : CheckAndConsumeParams) (now : Int) : Prop :=
  ∀ burstLimit bucket, resolveBurstLimit id config params.rateLimitRpm = some burstLimit →
    params.requestCount ≤ burstLimit → buckets.find? params.key = some bucket →
    bucket.lastRefillAt ≤ now

/-! ### The rate -/

/-- A limit that applies is positive. -/
theorem resolveBurstLimit_pos {round : ℚ → ℚ} {rateLimitRpm : Option Int} {burstLimit : Int}
    (h : resolveBurstLimit round config rateLimitRpm = some burstLimit) : 0 < burstLimit := by
  simp only [resolveBurstLimit] at h
  split at h
  · exact nomatch h
  · split at h
    · exact nomatch h
    · obtain rfl := Option.some.inj h
      exact lt_min config.maxRequests_pos (lt_max_of_lt_left config.minRequests_pos)

/-- A bucket refills. -/
theorem refillRate_nonneg {burstLimit : Int} (h : 0 < burstLimit) :
    0 ≤ refillRatePerSecond id config burstLimit :=
  div_nonneg (by exact_mod_cast h.le) (Nat.cast_nonneg _)

/-! ### A call is one request -/

section Call

variable {buckets buckets' : Table GatewayBurstBucket} {E : BurstEnv → Prop} {burstLimit : Int}
  {key : Id} {requestCount now : Int}

/-- A transaction that is committed. -/
private theorem runs_consumeTransaction_ok {decision : GatewayBurstLimitDecision}
    (h : Runs E (consumeTransaction id config burstLimit key requestCount now) buckets
      (.ok decision)
      buckets') :
    consumeBucket id config burstLimit key requestCount now buckets = .ok (decision, buckets') := by
  obtain ⟨env, -, hstmt⟩ := runs_stmt.mp h
  split at hstmt
  · exact nomatch (Prod.mk.inj hstmt).1
  · split at hstmt
    · rename_i hconsume
      obtain ⟨hdecision, rfl⟩ := Prod.mk.inj hstmt
      exact Except.ok.inj hdecision ▸ hconsume
    · exact nomatch (Prod.mk.inj hstmt).1

/-- A transaction that fails has been aborted, and leaves the table alone. -/
private theorem runs_consumeTransaction_error {e : BurstError}
    (h : Runs E (consumeTransaction id config burstLimit key requestCount now) buckets (.error e)
      buckets') :
    buckets' = buckets ∧ ∃ env, E env ∧ env.transactionError = some e := by
  obtain ⟨_, _, _, hconsume, -⟩ :=
    consumeBucket_spec config burstLimit key requestCount now buckets
  obtain ⟨env, henv, hstmt⟩ := runs_stmt.mp h
  split at hstmt
  · rename_i herror
    obtain ⟨he, rfl⟩ := Prod.mk.inj hstmt
    exact ⟨rfl, env, henv, Except.error.inj he ▸ herror⟩
  · rw [hconsume] at hstmt
    exact nomatch (Prod.mk.inj hstmt).1

/-- The retries of a call commit one transaction, or the last attempt is refused too. -/
private theorem runs_retryTransaction {attempts : Nat}
    {r : Except BurstError GatewayBurstLimitDecision}
    (h : Runs E (retryTransaction id config burstLimit key requestCount now (attempts + 1))
      buckets r
      buckets') :
    (buckets' = buckets ∧ ∃ e env, r = .error e ∧ E env ∧ env.transactionError = some e) ∨
      ∃ decision, r = .ok decision ∧
        consumeBucket id config burstLimit key requestCount now buckets =
          .ok (decision, buckets') := by
  induction attempts with
  | zero =>
    rcases runs_tryCatch.mp h with ⟨decision, hcommit, rfl⟩ | ⟨e, buckets₂, hfail, hcatch⟩
    · exact .inr ⟨decision, rfl, runs_consumeTransaction_ok hcommit⟩
    · obtain ⟨rfl, env, henv, herror⟩ := runs_consumeTransaction_error hfail
      rw [if_neg (by simp)] at hcatch
      obtain ⟨rfl, rfl⟩ := runs_throw.mp hcatch
      exact .inl ⟨rfl, e, env, rfl, henv, herror⟩
  | succ attempts ih =>
    rcases runs_tryCatch.mp h with ⟨decision, hcommit, rfl⟩ | ⟨e, buckets₂, hfail, hcatch⟩
    · exact .inr ⟨decision, rfl, runs_consumeTransaction_ok hcommit⟩
    · -- an attempt that fails leaves the table to the next one as it was
      obtain ⟨rfl, env, henv, herror⟩ := runs_consumeTransaction_error hfail
      split at hcatch
      · exact ih hcatch
      · obtain ⟨rfl, rfl⟩ := runs_throw.mp hcatch
        exact .inl ⟨rfl, e, env, rfl, henv, herror⟩

/-- A call under the burst limit `burstLimit` is refused by the database, asks for too much, or
    commits one transaction and returns its decision. -/
theorem runs_checkAndConsume_cases {params : CheckAndConsumeParams}
    {r : Except BurstError GatewayBurstLimitDecision}
    (hnow : ∀ t, params.now = some t → now = t) (hE : ∀ env, E env → env.now = now)
    (hlimit : resolveBurstLimit id config params.rateLimitRpm = some burstLimit)
    (h : Runs E (checkAndConsume id config params) buckets r buckets') :
    (buckets' = buckets ∧ ((∃ e env, r = .error e ∧ E env ∧ env.transactionError = some e) ∨
        ∃ decision, r = .ok decision ∧ decision.allowed = false ∧
          burstLimit < params.requestCount)) ∨
      ∃ decision, r = .ok decision ∧ params.requestCount ≤ burstLimit ∧
        consumeBucket id config burstLimit params.key params.requestCount now buckets =
          .ok (decision, buckets') := by
  have hpos := resolveBurstLimit_pos hlimit
  simp only [checkAndConsume, hlimit, hpos.ne', if_false] at h
  -- the call's instant is given, or read from the clock
  have hclock : ∀ {t buckets₁}, Runs E (resolveNow params.now) buckets t buckets₁ →
      t = .ok now ∧ buckets₁ = buckets := by
    intro t buckets₁ hresolve
    simp only [resolveNow] at hresolve
    split at hresolve
    · rename_i t' ht'
      obtain ⟨rfl, rfl⟩ := runs_pure.mp hresolve
      exact ⟨congrArg _ (hnow t' ht').symm, rfl⟩
    · obtain ⟨env, henv, hstmt⟩ := runs_stmt.mp hresolve
      obtain ⟨rfl, rfl⟩ := Prod.mk.inj hstmt
      exact ⟨congrArg _ (hE env henv), rfl⟩
  rcases runs_bind.mp h with ⟨_, hresolve, -⟩ | ⟨t, buckets₁, hresolve, hbody⟩
  · exact nomatch (hclock hresolve).1
  · obtain ⟨ht, rfl⟩ := hclock hresolve
    obtain rfl := Except.ok.inj ht
    split at hbody
    -- more requests than the limit are denied without a bucket
    · rename_i hcount
      obtain ⟨rfl, rfl⟩ := runs_pure.mp hbody
      exact .inl ⟨rfl, .inr ⟨_, rfl, rfl, hcount⟩⟩
    · rename_i hcount
      rcases runs_retryTransaction hbody with ⟨rfl, hfailed⟩ | ⟨decision, rfl, hconsume⟩
      · exact .inl ⟨rfl, .inl hfailed⟩
      · exact .inr ⟨decision, rfl, not_lt.mp hcount, hconsume⟩

/-- A call that returns does nothing and allows nothing, or commits one transaction. -/
theorem runs_checkAndConsume {params : CheckAndConsumeParams} {decision : GatewayBurstLimitDecision}
    (hnow : ∀ t, params.now = some t → now = t)
    (hlimit : resolveBurstLimit id config params.rateLimitRpm = some burstLimit)
    (h : Runs (fun env => env.now = now) (checkAndConsume id config params) buckets (.ok decision)
      buckets') :
    buckets' = buckets ∧ decision.allowed = false ∨
      params.requestCount ≤ burstLimit ∧
        consumeBucket id config burstLimit params.key params.requestCount now buckets =
          .ok (decision, buckets') := by
  rcases runs_checkAndConsume_cases hnow (fun _ => id) hlimit h with
    ⟨rfl, ⟨_, _, hr, -⟩ | ⟨_, hr, hdenied, -⟩⟩ | ⟨_, hr, hcount, hconsume⟩
  · exact nomatch hr
  · obtain rfl := Except.ok.inj hr
    exact .inl ⟨rfl, hdenied⟩
  · obtain rfl := Except.ok.inj hr
    exact .inr ⟨hcount, hconsume⟩

end Call

/-! ### Calls about other keys -/

/-- A call about another key leaves the row of `key` alone. -/
private theorem runs_checkAndConsume_of_ne {params : CheckAndConsumeParams}
    {decision : GatewayBurstLimitDecision} {buckets buckets' : Table GatewayBurstBucket} {now : Int}
    (hnow : ∀ t, params.now = some t → now = t)
    (h : Runs (fun env => env.now = now) (checkAndConsume id config params) buckets (.ok decision)
      buckets') {key : Id} (hne : params.key ≠ key) : buckets'.find? key = buckets.find? key := by
  cases hlimit : resolveBurstLimit id config params.rateLimitRpm with
  | none =>
    simp only [checkAndConsume, hlimit] at h
    obtain ⟨-, rfl⟩ := runs_pure.mp h
    rfl
  | some burstLimit =>
    rcases runs_checkAndConsume hnow hlimit h with
      ⟨rfl, -⟩ | ⟨-, hconsume⟩
    · rfl
    · obtain ⟨_, _, row, hspec, -, -, hfind⟩ :=
        consumeBucket_spec config burstLimit params.key params.requestCount now buckets
      obtain ⟨-, rfl⟩ := Prod.mk.inj (Except.ok.inj (hconsume.symm.trans hspec))
      rw [hfind, if_neg hne.symm]

/-- The requests allowed are those of the first call and of the others. -/
private theorem allowedRequests_cons (key : Id) (lo hi : ℚ) (c : BurstCall)
    (calls : List BurstCall) :
    allowedRequests key lo hi (c :: calls) =
      (if c.allowedIn key lo hi then c.params.requestCount else 0) +
        allowedRequests key lo hi calls := by
  simp only [allowedRequests, List.filter_cons]
  split
  · rw [List.map_cons, List.sum_cons]
  · rw [zero_add]

/-- The calls about `key` are, as far as they are allowed, requests to one token bucket in
    the order of their clocks: to the row of `key`, or to a full bucket. -/
def ServedBy (config : GatewayBurstConfig) (key : Id) (burstLimit : Int) (lo hi : ℚ)
    (buckets : Table GatewayBurstBucket) (calls : List BurstCall) : Prop :=
  ∃ t rs, (bucketAt buckets key burstLimit t).toTokenBucket.InOrder rs ∧
    (allowedRequests key lo hi calls : ℚ) =
      (bucketAt buckets key burstLimit t).toTokenBucket.granted (burstLimit : ℚ)
        (refillRatePerSecond id config burstLimit) lo hi rs

section Served

variable {key : Id} {burstLimit : Int} {lo hi : ℚ} {buckets buckets' : Table GatewayBurstBucket}
  {c : BurstCall} {calls : List BurstCall}

/-- A call that leaves the row alone and is not allowed for `key` does not count. -/
theorem ServedBy.skip (h : ServedBy config key burstLimit lo hi buckets' calls)
    (hsame : buckets'.find? key = buckets.find? key)
    (hdenied : c.params.key = key → c.decision.allowed = false) :
    ServedBy config key burstLimit lo hi buckets (c :: calls) := by
  obtain ⟨t, rs, horder, htotal⟩ := h
  have hbucket : bucketAt buckets' key burstLimit t = bucketAt buckets key burstLimit t := by
    rw [bucketAt, bucketAt, hsame]
  have hout : c.allowedIn key lo hi = false := by
    by_cases hkey : c.params.key = key
    · simp [BurstCall.allowedIn, hdenied hkey]
    · simp [BurstCall.allowedIn, hkey]
  rw [hbucket] at horder htotal
  refine ⟨t, rs, horder, ?_⟩
  rw [allowedRequests_cons, hout, if_neg Bool.false_ne_true, zero_add, htotal]

/-- A committed transaction is the first request, if its clock does not run backwards. -/
theorem ServedBy.commit (h : ServedBy config c.params.key burstLimit lo hi buckets' calls)
    (hforward : ∀ bucket, buckets.find? c.params.key = some bucket → bucket.lastRefillAt ≤ c.now)
    (hconsume : consumeBucket id config burstLimit c.params.key c.params.requestCount c.now
      buckets =
      .ok (c.decision, buckets')) :
    ServedBy config c.params.key burstLimit lo hi buckets (c :: calls) := by
  obtain ⟨t, rs, horder, htotal⟩ := h
  obtain ⟨_, _, row, hspec, hserve, -, hfind⟩ :=
    consumeBucket_spec config burstLimit c.params.key c.params.requestCount c.now buckets
  obtain ⟨rfl, rfl⟩ := Prod.mk.inj (Except.ok.inj (hconsume.symm.trans hspec))
  -- the row is the bucket after the first call, with that call's answer
  have hrow : bucketAt buckets' c.params.key burstLimit t = row := by
    rw [bucketAt, hfind, if_pos rfl, Option.getD_some]
  have hallowed := congrArg Prod.fst hserve
  have hbucket := congrArg Prod.snd hserve
  dsimp only at hallowed hbucket
  rw [hrow, hbucket] at horder htotal
  -- its clock was not ahead of the call
  have hlast : (bucketAt buckets c.params.key burstLimit c.now).toTokenBucket.lastRefill ≤
      seconds c.now := by
    rw [GatewayBurstBucket.toTokenBucket, seconds_le_seconds]
    cases hfound : buckets.find? c.params.key with
    | none => simp only [bucketAt, hfound, Option.getD_none, le_refl]
    | some bucket => simpa only [bucketAt, hfound, Option.getD_some] using hforward bucket hfound
  refine ⟨c.now, burstRequest c.params.requestCount c.now :: rs, .cons hlast horder, ?_⟩
  rw [allowedRequests_cons, Int.cast_add, htotal, TokenBucket.granted_cons, ← serveBurst,
    ← hallowed]
  congr 1
  simp only [BurstCall.allowedIn, decide_true, Bool.true_and, Bool.and_eq_true, decide_eq_true_eq,
    Int.cast_ite, Int.cast_zero]
  rfl

end Served

/-- The calls of a run are served by the key's bucket. -/
private theorem burstRun_served {key : Id} {burstLimit : Int}
    {buckets buckets' : Table GatewayBurstBucket} {calls : List BurstCall}
    (hrun : BurstRun config (ClockForward config) buckets calls buckets')
    (hlimit : ∀ c ∈ calls, c.params.key = key →
      resolveBurstLimit id config c.params.rateLimitRpm = some burstLimit) (lo hi : ℚ) :
    ServedBy config key burstLimit lo hi buckets calls := by
  induction hrun with
  | done buckets =>
    exact ⟨0, [], List.pairwise_singleton _ _, by simp [allowedRequests, TokenBucket.granted]⟩
  | @call buckets _ _ params now decision calls hnow hforward hcall _ ih =>
    have hrest := ih fun c hc => hlimit c (List.mem_cons_of_mem _ hc)
    by_cases hkey : params.key = key
    -- a call on this key is served by its bucket, or denied without it
    · subst hkey
      have hresolve := hlimit _ List.mem_cons_self rfl
      rcases runs_checkAndConsume hnow hresolve hcall with
        ⟨rfl, hdenied⟩ | ⟨hcount, hconsume⟩
      · exact hrest.skip rfl fun _ => hdenied
      · have hclock : ∀ bucket, buckets.find? params.key = some bucket →
            bucket.lastRefillAt ≤ now := fun bucket => hforward burstLimit bucket hresolve hcount
        exact ServedBy.commit (c := ⟨params, now, decision⟩) hrest hclock hconsume
    · exact hrest.skip (runs_checkAndConsume_of_ne hnow hcall hkey) fun h => absurd h hkey

/-- While the clocks of committed calls go forward, the calls allowed for a key in an
    interval ask for at most the burst limit and what its rate adds in the interval. -/
theorem burst_rate_enforced {key : Id} {burstLimit : Int}
    {buckets buckets' : Table GatewayBurstBucket} {calls : List BurstCall}
    (hlimit : ∀ c ∈ calls, c.params.key = key →
      resolveBurstLimit id config c.params.rateLimitRpm = some burstLimit)
    (htokens : ∀ row, buckets.find? key = some row → 0 ≤ row.tokens) (hpos : 0 < burstLimit)
    (hrun : BurstRun config (ClockForward config) buckets calls buckets') {lo hi : ℚ}
    (hle : lo ≤ hi) :
    (allowedRequests key lo hi calls : ℚ) ≤
      burstLimit + refillRatePerSecond id config burstLimit * (hi - lo) := by
  obtain ⟨t, rs, horder, htotal⟩ := burstRun_served hrun hlimit lo hi
  have hcapacity : (0 : ℚ) ≤ burstLimit := by exact_mod_cast hpos.le
  have hbucket : 0 ≤ (bucketAt buckets key burstLimit t).toTokenBucket.tokens := by
    rw [GatewayBurstBucket.toTokenBucket]
    cases hfound : buckets.find? key with
    | none => simpa only [bucketAt, hfound, Option.getD_none] using hcapacity
    | some row => simpa only [bucketAt, hfound, Option.getD_some] using htokens row hfound
  rw [htotal]
  exact TokenBucket.granted_le hcapacity (refillRate_nonneg hpos) hbucket hle horder

/-! ### A clock that runs backwards -/

/-- The defaults of the environment schema. -/
def sampleBurstConfig : GatewayBurstConfig where
  gatewayBurstLimitEnabled := true
  gatewayBurstWindowSeconds := 10
  gatewayBurstMultiplier := 2
  gatewayBurstMinRequests := 5
  gatewayBurstMaxRequests := 120
  windowSeconds_pos := by decide
  multiplier_pos := by decide
  minRequests_pos := by decide
  maxRequests_pos := by decide
  maxRequests_safe := by decide

/-- A call for the sample key under a plan with 120 requests per minute, which gives a burst
    limit of 40. -/
def burstParams (requestCount now : Int) : CheckAndConsumeParams :=
  ⟨"sub", requestCount, some 120, some now⟩

/-- The call when the database commits its transaction. -/
def commitCall (buckets : Table GatewayBurstBucket) (requestCount now : Int) :
    Except BurstError GatewayBurstLimitDecision × Table GatewayBurstBucket :=
  (checkAndConsume id sampleBurstConfig (burstParams requestCount now)).exec ⟨now, none⟩ buckets

/-- A call's execution is a run of it. -/
theorem runs_commitCall (buckets : Table GatewayBurstBucket) (requestCount now : Int) :
    Runs (fun env => env.now = now)
      (checkAndConsume id sampleBurstConfig (burstParams requestCount now))
      buckets (commitCall buckets requestCount now).1 (commitCall buckets requestCount now).2 :=
  runs_exec (E := fun env => env.now = now) (⟨now, none⟩ : BurstEnv) rfl _ buckets

/-- A run may begin with one more call. -/
private theorem burstRun_commitCall
    {ok : Table GatewayBurstBucket → CheckAndConsumeParams → Int → Prop}
    {buckets buckets' : Table GatewayBurstBucket} {calls : List BurstCall} (requestCount now : Int)
    {decision : GatewayBurstLimitDecision} (hok : ok buckets (burstParams requestCount now) now)
    (hcommit : (commitCall buckets requestCount now).1 = .ok decision)
    (hrest : BurstRun sampleBurstConfig ok (commitCall buckets requestCount now).2 calls buckets') :
    BurstRun sampleBurstConfig ok buckets (⟨burstParams requestCount now, now, decision⟩ :: calls)
      buckets' := by
  refine .call _ now decision calls (fun _ ht => Option.some.inj ht) hok ?_ hrest
  exact hcommit ▸ runs_commitCall buckets requestCount now

/-- Three calls at 10 s, 0 s and 10 s: the second is denied, but it sets the row's clock back. -/
def backwardCalls : List BurstCall :=
  [⟨burstParams 40 10000, 10000, allowedDecision sampleBurstConfig 40 0⟩,
    ⟨burstParams 1 0, 0, deniedDecision id sampleBurstConfig 40 1 0⟩,
    ⟨burstParams 40 10000, 10000, allowedDecision sampleBurstConfig 40 0⟩]

/-- The rate does not hold for every order of clocks: at 10 s the bucket of 40 is handed out
    twice. -/
theorem not_burst_rate_enforced :
    ¬∀ calls buckets, BurstRun sampleBurstConfig (fun _ _ _ => True) .empty calls buckets →
      ∀ lo hi : ℚ, lo ≤ hi → (allowedRequests "sub" lo hi calls : ℚ) ≤
        (40 : Int) + refillRatePerSecond id sampleBurstConfig 40 * (hi - lo) := by
  intro h
  have hrun : BurstRun sampleBurstConfig (fun _ _ _ => True) .empty backwardCalls _ :=
    burstRun_commitCall 40 10000 trivial (by decide +kernel) <|
      burstRun_commitCall 1 0 trivial (by decide +kernel) <|
        burstRun_commitCall 40 10000 trivial (by decide +kernel) (.done _)
  have htwice : ¬(allowedRequests "sub" 10 10 backwardCalls : ℚ) ≤
      (40 : Int) + refillRatePerSecond id sampleBurstConfig 40 * (10 - 10) := by decide +kernel
  exact htwice (h _ _ hrun 10 10 le_rfl)

/-- Two calls at 10 s and 12 s. -/
def forwardCalls : List BurstCall :=
  [⟨burstParams 40 10000, 10000, allowedDecision sampleBurstConfig 40 0⟩,
    ⟨burstParams 8 12000, 12000, allowedDecision sampleBurstConfig 40 0⟩]

/-- They get the full bucket, and what two seconds add. -/
theorem burst_rate_enforced_forward :
    (allowedRequests "sub" 10 12 forwardCalls : ℚ) ≤
      (40 : Int) + refillRatePerSecond id sampleBurstConfig 40 * (12 - 10) := by
  have hlast : ((commitCall .empty 40 10000).2.find? "sub").map (·.lastRefillAt) = some 10000 := by
    decide +kernel
  -- the second call's clock is not behind the row that the first one wrote
  have hforward : ClockForward sampleBurstConfig (commitCall .empty 40 10000).2
      (burstParams 8 12000) 12000 := by
    intro _ bucket _ _ hbucket
    have hbucket : (commitCall .empty 40 10000).2.find? "sub" = some bucket := hbucket
    rw [hbucket] at hlast
    obtain hlast : bucket.lastRefillAt = 10000 := Option.some.inj hlast
    omega
  have hrun : BurstRun sampleBurstConfig (ClockForward sampleBurstConfig) .empty forwardCalls _ :=
    burstRun_commitCall 40 10000 (fun _ _ _ _ hnone => nomatch hnone) (by decide +kernel) <|
      burstRun_commitCall 8 12000 hforward (by decide +kernel) (.done _)
  have hlimit : ∀ c ∈ forwardCalls, c.params.key = "sub" →
      resolveBurstLimit id sampleBurstConfig c.params.rateLimitRpm = some 40 := by decide +kernel
  have hempty : ∀ row, (Table.empty : Table GatewayBurstBucket).find? "sub" = some row →
      0 ≤ row.tokens := fun _ hnone => nomatch hnone
  exact burst_rate_enforced hlimit hempty (by decide) hrun (by decide +kernel)

end HivePoint
