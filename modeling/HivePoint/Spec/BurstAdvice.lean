import HivePoint.Spec.BurstLimit

/-!
# The burst bucket and its advice

The calls for one key under one plan, one after another. An attempt of a call is committed or
aborted; the waiting time that a denied call reports is the least number of whole seconds after
which the bucket holds what the call asks for.

## Key results

- `burstHistory_tokens`: the bucket holds between nothing and the burst limit
- `allowed_later_iff`: when a denied call would be allowed
- `burstBucket_exact`: the bucket, the debits and the advice
-/

namespace HivePoint

open Prog

/-- A call for `key` under a plan at the instant `now`. The callers ask for one request at least. -/
structure KeyCall (key : Id) (rateLimitRpm : Option Int) (params : CheckAndConsumeParams)
    (now : Int) :
    Prop where
  key : params.key = key
  rateLimitRpm : params.rateLimitRpm = rateLimitRpm
  requestCount : 1 ≤ params.requestCount
  now : ∀ t, params.now = some t → now = t

/-- The same call at another instant. -/
def CheckAndConsumeParams.at (params : CheckAndConsumeParams) (now : Int) : CheckAndConsumeParams :=
  { params with now := params.now.map fun _ => now }

/-- The table after calls for `key`, and the instant of the last one. Clocks do not run
    backwards; the database may abort any attempt of a call. -/
inductive BurstHistory (config : GatewayBurstConfig) (key : Id) (rateLimitRpm : Option Int) :
    Table GatewayBurstBucket → Int → Prop
  | start (buckets : Table GatewayBurstBucket) (now : Int) (h : buckets.find? key = none) :
      BurstHistory config key rateLimitRpm buckets now
  | call {buckets buckets' : Table GatewayBurstBucket} {last now : Int}
      {params : CheckAndConsumeParams} {r : Except BurstError GatewayBurstLimitDecision}
      (hist : BurstHistory config key rateLimitRpm buckets last)
      (hcall : KeyCall key rateLimitRpm params now) (hle : last ≤ now)
      (hrun : Runs (fun env => env.now = now)
        (checkAndConsume id config params) buckets r buckets') :
      BurstHistory config key rateLimitRpm buckets' now

variable {config : GatewayBurstConfig} {key : Id} {rateLimitRpm : Option Int}
  {buckets buckets' : Table GatewayBurstBucket} {burstLimit last now : Int}
  {params : CheckAndConsumeParams} {r : Except BurstError GatewayBurstLimitDecision}

/-- A bucket refills at a positive rate. -/
private theorem refillRate_pos (h : 0 < burstLimit) :
    0 < refillRatePerSecond id config burstLimit :=
  div_pos (Int.cast_pos.mpr h) (Nat.cast_pos.mpr config.windowSeconds_pos)

/-! ### The tokens -/

/-- The bucket of `key`, if it is there, holds between nothing and the burst limit. -/
def TokensBounded (key : Id) (burstLimit : Int) (buckets : Table GatewayBurstBucket) : Prop :=
  ∀ row, buckets.find? key = some row → 0 ≤ row.tokens ∧ row.tokens ≤ burstLimit

/-- The tokens available are never negative. -/
private theorem availableTokens_nonneg (hpos : 0 < burstLimit)
    (h : TokensBounded key burstLimit buckets) :
    0 ≤ availableTokens id config buckets key burstLimit now := by
  have hfull : (0 : ℚ) ≤ burstLimit := Int.cast_nonneg hpos.le
  rw [availableTokens, refillTokens_eq]
  refine TokenBucket.refill_nonneg hfull (refillRate_nonneg hpos) ?_ _
  show 0 ≤ (bucketAt buckets key burstLimit now).tokens
  unfold bucketAt
  cases hrow : buckets.find? key with
  | none => exact hfull
  | some row => exact (h row hrow).1

/-- A call is refused by the database or asks for too much, and stores nothing; or it commits one
    transaction, which stores what it finds, less what it grants. -/
private theorem runs_checkAndConsume_decision
    (hlimit : resolveBurstLimit id config rateLimitRpm = some burstLimit)
    (hcall : KeyCall key rateLimitRpm params now)
    (h : Runs (fun env => env.now = now) (checkAndConsume id config params) buckets r buckets') :
    (buckets' = buckets ∧ ∀ decision, r = .ok decision →
        decision.allowed = false ∧ burstLimit < params.requestCount) ∨
      ∃ decision row, r = .ok decision ∧ params.requestCount ≤ burstLimit ∧
        buckets'.find? key = some row ∧ row.lastRefillAt = now ∧
        (availableTokens id config buckets key burstLimit now < params.requestCount ∧
            row.tokens = availableTokens id config buckets key burstLimit now ∧
            decision = deniedDecision id config burstLimit params.requestCount row.tokens ∨
          params.requestCount ≤ availableTokens id config buckets key burstLimit now ∧
            row.tokens = availableTokens id config buckets key burstLimit
              now - params.requestCount ∧
            decision = allowedDecision config burstLimit row.tokens) := by
  obtain ⟨rfl, rfl, -, hnow⟩ := hcall
  rcases runs_checkAndConsume_cases hnow (fun _ => id) hlimit h with
    ⟨rfl, ⟨e, env, rfl, -⟩ | ⟨decision, rfl, hdenied, hcount⟩⟩ | ⟨decision, rfl, hcount, hconsume⟩
  -- the transaction failed, the count is over the limit, or the bucket decided
  · exact .inl ⟨rfl, fun _ hr => nomatch hr⟩
  · exact .inl ⟨rfl, fun _ hr => Except.ok.inj hr ▸ ⟨hdenied, hcount⟩⟩
  · obtain ⟨decision', buckets₁, row, hconsume', hlast, hfind, hcase⟩ :=
      consumeBucket_decision id config burstLimit params.key params.requestCount now buckets
    obtain ⟨rfl, rfl⟩ := Prod.mk.inj (Except.ok.inj (hconsume.symm.trans hconsume'))
    exact .inr ⟨decision, row, rfl, hcount, (hfind _).trans (if_pos rfl), hlast, hcase⟩

/-- A call keeps the tokens within their bounds. -/
theorem TokensBounded.call (hlimit : resolveBurstLimit id config rateLimitRpm = some burstLimit)
    (hw : TokensBounded key burstLimit buckets) (hcall : KeyCall key rateLimitRpm params now)
    (h : Runs (fun env => env.now = now) (checkAndConsume id config params) buckets r buckets') :
    TokensBounded key burstLimit buckets' := by
  rcases runs_checkAndConsume_decision hlimit hcall h with
    ⟨rfl, -⟩ | ⟨decision, row, -, -, hrow, -, hcase⟩
  · exact hw
  · intro row' hrow'
    obtain rfl := Option.some.inj (hrow.symm.trans hrow')
    have hnonneg : 0 ≤ availableTokens id config buckets key burstLimit now :=
      availableTokens_nonneg (resolveBurstLimit_pos hlimit) hw
    have hle := availableTokens_le id config buckets key burstLimit now
    have hcount : (1 : ℚ) ≤ params.requestCount := by exact_mod_cast hcall.requestCount
    rcases hcase with ⟨-, htokens, -⟩ | ⟨henough, htokens, -⟩
    · exact ⟨htokens ▸ hnonneg, htokens ▸ hle⟩
    · rw [htokens]
      exact ⟨sub_nonneg.mpr henough, by linarith⟩

/-- The tokens stay within their bounds through a history. -/
theorem burstHistory_tokens (hlimit : resolveBurstLimit id config rateLimitRpm = some burstLimit)
    (hist : BurstHistory config key rateLimitRpm buckets last) :
    TokensBounded key burstLimit buckets := by
  induction hist with
  | start buckets now h =>
    intro row hrow
    exact nomatch h.symm.trans hrow
  | call hist hcall hle hrun ih => exact ih.call hlimit hcall hrun

/-! ### The advice -/

/-- The seconds between two instants. -/
private theorem seconds_later (now n : Int) : seconds (now + 1000 * n) - seconds now = n := by
  simp only [seconds, Int.cast_add, Int.cast_mul, Int.cast_ofNat]
  ring

/-- A call that meets the stored row alone, a number of seconds later, is allowed if the bucket has
    gained by then what it lacks. -/
theorem allowed_later_iff (hlimit : resolveBurstLimit id config rateLimitRpm = some burstLimit)
    (hcall : KeyCall key rateLimitRpm params now) (hcount : params.requestCount ≤ burstLimit)
    {row : GatewayBurstBucket} (hrow : buckets.find? key = some row)
    (hlast : row.lastRefillAt = now) {n : Int} (hn : 0 ≤ n) :
    ∃ decision, ((checkAndConsume id config (params.at (now + 1000 * n))).exec
        ⟨now + 1000 * n, none⟩ buckets).1 = .ok decision ∧
      (decision.allowed = true ↔
        (params.requestCount - row.tokens) / refillRatePerSecond id config burstLimit ≤ n) := by
  obtain ⟨rfl, rfl, -, -⟩ := hcall
  have hnow : ∀ t, (params.at (now + 1000 * n)).now = some t → now + 1000 * n = t := by
    intro t ht
    obtain ⟨_, -, rfl⟩ := Option.map_eq_some_iff.mp ht
    rfl
  -- the same request, at the later instant
  have hrun := runs_exec (E := fun env => env = ⟨now + 1000 * n, none⟩) _ rfl
    (checkAndConsume id config (params.at (now + 1000 * n))) buckets
  rcases runs_checkAndConsume_cases hnow (fun env (henv : env = _) => henv ▸ rfl) hlimit hrun with
    ⟨-, ⟨e, env, -, rfl, herror⟩ | ⟨_, -, -, hover⟩⟩ | ⟨decision, hr, -, hconsume⟩
  · exact nomatch herror
  · exact absurd hcount (not_le.mpr hover)
  · obtain ⟨decision', _, _, hconsume', hserve, -⟩ :=
      consumeBucket_spec config burstLimit params.key params.requestCount (now + 1000 * n) buckets
    -- it is served by the bucket that the first call left
    obtain ⟨rfl, -⟩ := Prod.mk.inj (Except.ok.inj (hconsume.symm.trans hconsume'))
    have hbucket : bucketAt buckets params.key burstLimit (now + 1000 * n) = row := by
      rw [bucketAt, hrow, Option.getD_some]
    have hallowed : decision.allowed = _ := congrArg Prod.fst hserve
    have hlater : row.toTokenBucket.lastRefill ≤ seconds (now + 1000 * n) := by
      rw [GatewayBurstBucket.toTokenBucket, hlast, seconds_le_seconds]
      omega
    have hrate : 0 < refillRatePerSecond id config burstLimit :=
      refillRate_pos (resolveBurstLimit_pos hlimit)
    have hle : (params.requestCount : ℚ) ≤ burstLimit := Int.cast_le.mpr hcount
    have hiff := TokenBucket.serve_later_iff (b := row.toTokenBucket)
      (r := burstRequest params.requestCount (now + 1000 * n)) hrate hle hlater
    refine ⟨decision, hr, ?_⟩
    rw [hallowed, hbucket, serveBurst, hiff]
    show _ ≤ seconds (now + 1000 * n) - seconds row.lastRefillAt ↔ _
    rw [hlast, seconds_later]
    rfl

/-- The number of seconds that `deniedDecision` reports is the least after which the bucket has
    gained `lack` tokens. -/
private theorem retryAfter_spec {lack rate : ℚ} (hlack : 0 < lack) (hrate : 0 < rate) :
    lack / rate ≤ (max 1 ⌈lack / rate⌉ : Int) ∧
      ∀ n, n < max 1 ⌈lack / rate⌉ → 1 ≤ n → ¬lack / rate ≤ (n : Int) := by
  have hceil : 1 ≤ ⌈lack / rate⌉ := Int.one_le_ceil_iff.mpr (div_pos hlack hrate)
  rw [max_eq_right hceil]
  exact ⟨Int.le_ceil _, fun n hn _ => not_le.mpr (Int.lt_ceil.mp hn)⟩

/-- In every history the bucket holds between nothing and the burst limit. Each call debits what
    it asks for once or not at all, and not at all unless it is allowed. A call that is denied
    though it asks for no more than the burst limit reports a number of seconds: made alone that
    much later it is allowed, and made alone a second earlier it is denied. -/
theorem burstBucket_exact (hlimit : resolveBurstLimit id config rateLimitRpm = some burstLimit)
    (hist : BurstHistory config key rateLimitRpm buckets last) :
    TokensBounded key burstLimit buckets ∧
    ∀ {params now r buckets'}, KeyCall key rateLimitRpm params now → last ≤ now →
      Runs (fun env => env.now = now) (checkAndConsume id config params) buckets r buckets' →
      ((buckets' = buckets ∧ ∀ decision, r = .ok decision → decision.allowed = false) ∨
        ∃ decision row, r = .ok decision ∧ buckets'.find? key = some row ∧
          row.tokens = availableTokens id config buckets key burstLimit now -
            if decision.allowed then (params.requestCount : ℚ) else 0) ∧
      ∀ decision, r = .ok decision → decision.allowed = false → params.requestCount ≤ burstLimit →
        ∃ retryAfter, decision.retryAfterSeconds = some retryAfter ∧
          (∃ decision', ((checkAndConsume id config (params.at (now + 1000 * retryAfter))).exec
            ⟨now + 1000 * retryAfter, none⟩ buckets').1 = .ok decision' ∧
              decision'.allowed = true) ∧
          (1 < retryAfter →
            ∃ decision',
              ((checkAndConsume id config (params.at (now + 1000 * (retryAfter - 1)))).exec
              ⟨now + 1000 * (retryAfter - 1), none⟩ buckets').1 = .ok decision' ∧
              decision'.allowed = false) := by
  refine ⟨burstHistory_tokens hlimit hist, fun {params now r buckets'} hcall _ hrun => ?_⟩
  -- nothing is taken without a decision of the bucket
  rcases runs_checkAndConsume_decision hlimit hcall hrun with
    ⟨rfl, hdenied⟩ | ⟨decision, row, rfl, hcount, hrow, hlast, hcase⟩
  · refine ⟨.inl ⟨rfl, fun decision hr => (hdenied decision hr).1⟩, fun decision hr _ hcount => ?_⟩
    exact absurd hcount (not_le.mpr (hdenied decision hr).2)
  · rcases hcase with ⟨hlow, htokens, rfl⟩ | ⟨-, htokens, rfl⟩
    · refine ⟨.inr ⟨_, row, rfl, hrow, htokens.trans (sub_zero _).symm⟩, fun _ hr _ _ => ?_⟩
      obtain rfl := Except.ok.inj hr
      have hlack : 0 < (params.requestCount : ℚ) - row.tokens := sub_pos.mpr (htokens ▸ hlow)
      have hrate : 0 < refillRatePerSecond id config burstLimit :=
        refillRate_pos (resolveBurstLimit_pos hlimit)
      obtain ⟨henough, hleast⟩ := retryAfter_spec hlack hrate
      -- the advice is the first whole second at which the request would be served
      have hagain := fun (n : Int) (hn : 0 ≤ n) =>
        allowed_later_iff hlimit hcall hcount hrow hlast hn
      refine ⟨_, rfl, ?_, fun hone => ?_⟩
      · obtain ⟨decision', hr', hiff⟩ := hagain _ (zero_le_one.trans (le_max_left 1 _))
        exact ⟨decision', hr', hiff.mpr henough⟩
      · obtain ⟨decision', hr', hiff⟩ := hagain _ (Int.sub_nonneg_of_le hone.le)
        have hearly := hleast _ (Int.sub_one_lt_of_le (le_refl _)) (Int.le_sub_one_of_lt hone)
        exact ⟨decision', hr', Bool.eq_false_iff.mpr (mt hiff.mp hearly)⟩
    · refine ⟨.inr ⟨_, row, rfl, hrow, htokens⟩, fun _ hr hdenied => ?_⟩
      obtain rfl := Except.ok.inj hr
      exact nomatch hdenied

/-- The sample's requests are calls of the key. -/
private theorem keyCall_burstParams {requestCount now : Int} (h : 1 ≤ requestCount) :
    KeyCall "sub" (some 120) (burstParams requestCount now) now :=
  ⟨rfl, rfl, h, fun _ ht => Option.some.inj ht⟩

/-- When the bucket has been emptied, six requests are told when to come back. -/
theorem burstBucket_exact_sample :
    ∃ retryAfter, (commitCall (commitCall .empty 40 10000).2 6 10000).1 =
        .ok (deniedDecision id sampleBurstConfig 40 6 0) ∧
      (deniedDecision id sampleBurstConfig 40 6 0).retryAfterSeconds = some retryAfter ∧
      ∃ decision', ((checkAndConsume id sampleBurstConfig
          ((burstParams 6 10000).at (10000 + 1000 * retryAfter))).exec
        ⟨10000 + 1000 * retryAfter, none⟩ (commitCall (commitCall .empty 40 10000).2 6 10000).2).1 =
          .ok decision' ∧ decision'.allowed = true := by
  -- the first call takes all tokens, the second is denied and told when to come again
  have hist : BurstHistory sampleBurstConfig "sub" (some 120)
      (commitCall .empty 40 10000).2 10000 :=
    .call (.start .empty 0 rfl) (keyCall_burstParams (by decide)) (by decide)
      (runs_commitCall .empty 40 10000)
  have hdenied : (commitCall (commitCall .empty 40 10000).2 6 10000).1 =
      .ok (deniedDecision id sampleBurstConfig 40 6 0) := by decide +kernel
  have hlimit : resolveBurstLimit id sampleBurstConfig (some 120) = some 40 := by decide +kernel
  obtain ⟨-, hcalls⟩ := burstBucket_exact hlimit hist
  obtain ⟨-, hadvice⟩ := hcalls (keyCall_burstParams (by decide)) (le_refl _)
    (runs_commitCall (commitCall .empty 40 10000).2 6 10000)
  obtain ⟨retryAfter, hretry, hlater, -⟩ := hadvice _ hdenied rfl (by decide)
  exact ⟨retryAfter, hdenied, hretry, hlater⟩

end HivePoint
