import Mathlib

/-!
# Token buckets

A token bucket holds at most `capacity` tokens and gains `rate` tokens per unit of
time. A request for some tokens is served if the bucket holds them at the request's
instant. Requests carry their own clock: `serve` refills for the time since the last
request, and for none if the clock has run backwards.

`TokenBucket.granted_le` is the law of the token bucket: requests that are served in
the order of their clocks get at most `capacity + rate * (hi - lo)` tokens in any
interval `[lo, hi]`.
-/

/-- The level of a token bucket, and the instant of its last refill. -/
structure TokenBucket (K : Type) where
  tokens : K
  lastRefill : K

/-- A request for `count` tokens at the instant `now`. -/
structure TokenRequest (K : Type) where
  now : K
  count : K

namespace TokenBucket

variable {K : Type} [LinearOrder K] {b : TokenBucket K} {r : TokenRequest K}
  {rs : List (TokenRequest K)}

/-- The clocks of the requests never run backwards, and start after the last refill. -/
def InOrder (b : TokenBucket K) (rs : List (TokenRequest K)) : Prop :=
  List.Pairwise (· ≤ ·) (b.lastRefill :: rs.map (·.now))

/-- The next request is not before the bucket's last refill. -/
theorem InOrder.head (h : b.InOrder (r :: rs)) : b.lastRefill ≤ r.now :=
  (List.pairwise_cons.mp h).1 r.now List.mem_cons_self

variable [Field K]

section Serve

variable (capacity rate : K)

/-- The level at the instant `now`. -/
def refill (b : TokenBucket K) (now : K) : K :=
  min capacity (b.tokens + max 0 (now - b.lastRefill) * rate)

/-- Serve a request: whether it gets its tokens, and the bucket it leaves. -/
def serve (b : TokenBucket K) (r : TokenRequest K) : Bool × TokenBucket K :=
  let level := b.refill capacity rate r.now
  if level < r.count then (false, ⟨level, r.now⟩) else (true, ⟨level - r.count, r.now⟩)

/-- The tokens that requests with a clock in `[lo, hi]` get when all are served in order. -/
def granted (lo hi : K) : TokenBucket K → List (TokenRequest K) → K
  | _, [] => 0
  | b, r :: rs =>
    let served := b.serve capacity rate r
    (if served.1 && lo ≤ r.now && r.now ≤ hi then r.count else 0) + granted lo hi served.2 rs

end Serve

variable {capacity rate : K}

/-- The tokens granted are those of the first request and of the others. -/
theorem granted_cons (lo hi : K) :
    b.granted capacity rate lo hi (r :: rs) =
      (if (b.serve capacity rate r).1 && lo ≤ r.now && r.now ≤ hi then r.count else 0) +
        (b.serve capacity rate r).2.granted capacity rate lo hi rs := rfl

/-- A served request leaves its own instant behind. -/
@[simp] theorem serve_lastRefill : (b.serve capacity rate r).2.lastRefill = r.now := by
  simp only [serve]
  split <;> rfl

/-- Too few tokens: nothing is taken. -/
theorem serve_of_lt (h : b.refill capacity rate r.now < r.count) :
    b.serve capacity rate r = (false, ⟨b.refill capacity rate r.now, r.now⟩) := if_pos h

/-- Enough tokens: the requested ones are taken. -/
theorem serve_of_le (h : r.count ≤ b.refill capacity rate r.now) :
    b.serve capacity rate r = (true, ⟨b.refill capacity rate r.now - r.count, r.now⟩) :=
  if_neg (not_lt.mpr h)

/-- Requests are in order if the first is, and the others after it. -/
theorem InOrder.cons (hle : b.lastRefill ≤ r.now) (h : (b.serve capacity rate r).2.InOrder rs) :
    b.InOrder (r :: rs) := by
  rw [InOrder, serve_lastRefill] at h
  refine List.pairwise_cons.mpr ⟨fun t ht => ?_, h⟩
  rcases List.mem_cons.mp ht with rfl | ht
  · exact hle
  · exact hle.trans ((List.pairwise_cons.mp h).1 t ht)

/-- The others are in order after the first. -/
theorem InOrder.tail (h : b.InOrder (r :: rs)) : (b.serve capacity rate r).2.InOrder rs := by
  rw [InOrder, serve_lastRefill]
  exact (List.pairwise_cons.mp h).2

/-- A bucket is not filled over its capacity. -/
private theorem refill_le (capacity rate : K) (b : TokenBucket K)
    (now : K) : b.refill capacity rate now ≤ capacity :=
  min_le_left _ _

/-- What a request takes out and what it leaves are the level it met. -/
private theorem serve_tokens (capacity rate : K) (b : TokenBucket K) (lo hi : K)
    (hin : lo ≤ r.now ∧ r.now ≤ hi) :
    (if (b.serve capacity rate r).1 && lo ≤ r.now && r.now ≤ hi then r.count else 0) +
      (b.serve capacity rate r).2.tokens = b.refill capacity rate r.now := by
  simp only [serve]
  split
  · simp
  · simp [hin.1, hin.2]

/-- After the interval nothing is counted. -/
private theorem granted_eq_zero {lo hi : K} (hlate : hi < b.lastRefill) (h : b.InOrder rs) :
    b.granted capacity rate lo hi rs = 0 := by
  induction rs generalizing b with
  | nil => rfl
  | cons r rs ih =>
    have hnow : hi < r.now := lt_of_lt_of_le hlate h.head
    have hrest := ih (b := (b.serve capacity rate r).2) (by rwa [serve_lastRefill]) h.tail
    simp only [granted, hrest, not_le.mpr hnow, decide_false, Bool.and_false, Bool.false_eq_true,
      if_false, add_zero]

section Ordered

variable [IsStrictOrderedRing K]

/-- While the clock goes forward, the level grows by the rate. -/
private theorem refill_le_add (capacity rate : K) (h : b.lastRefill ≤ r.now) :
    b.refill capacity rate r.now ≤ b.tokens + rate * (r.now - b.lastRefill) := by
  have hmax : max 0 (r.now - b.lastRefill) = r.now - b.lastRefill :=
    max_eq_right (sub_nonneg.mpr h)
  rw [refill, hmax, mul_comm]
  exact min_le_right _ _

/-- A filled bucket holds no debt. -/
theorem refill_nonneg (hcapacity : 0 ≤ capacity) (hrate : 0 ≤ rate) (hb : 0 ≤ b.tokens) (now : K) :
    0 ≤ b.refill capacity rate now :=
  le_min hcapacity (add_nonneg hb (mul_nonneg (le_max_left _ _) hrate))

/-- A request that is not too large is served once the bucket has gained what it lacks. -/
theorem serve_later_iff (hrate : 0 < rate) (hcount : r.count ≤ capacity)
    (hlater : b.lastRefill ≤ r.now) :
    (b.serve capacity rate r).1 = true ↔ (r.count - b.tokens) / rate ≤ r.now - b.lastRefill := by
  have hlevel : r.count ≤ b.refill capacity rate r.now ↔
      (r.count - b.tokens) / rate ≤ r.now - b.lastRefill := by
    rw [refill, le_min_iff, max_eq_right (sub_nonneg.mpr hlater), div_le_iff₀ hrate,
      sub_le_iff_le_add']
    exact and_iff_right hcount
  rw [← hlevel]
  by_cases henough : r.count ≤ b.refill capacity rate r.now
  · rw [serve_of_le henough]
    exact iff_of_true rfl henough
  · rw [serve_of_lt (not_le.mp henough)]
    exact iff_of_false Bool.false_ne_true henough

/-- A bucket never goes below zero. -/
private theorem serve_tokens_nonneg (hcapacity : 0 ≤ capacity) (hrate : 0 ≤ rate)
    (hb : 0 ≤ b.tokens) :
    0 ≤ (b.serve capacity rate r).2.tokens := by
  simp only [serve]
  split
  · exact refill_nonneg hcapacity hrate hb r.now
  · rename_i henough
    exact sub_nonneg.mpr (not_lt.mp henough)

/-- From its level at an instant in the interval, a bucket can give that level and what it
    gains until the end of the interval. -/
private theorem granted_le_tokens (lo hi : K) (hcapacity : 0 ≤ capacity) (hrate : 0 ≤ rate)
    (hb : 0 ≤ b.tokens) (hlo : lo ≤ b.lastRefill) (hhi : b.lastRefill ≤ hi) (h : b.InOrder rs) :
    b.granted capacity rate lo hi rs ≤ b.tokens + rate * (hi - b.lastRefill) := by
  -- by induction on the requests: what the first one takes is not there for the others
  induction rs generalizing b with
  | nil => exact add_nonneg hb (mul_nonneg hrate (sub_nonneg.mpr hhi))
  | cons r rs ih =>
    have hb' : 0 ≤ (b.serve capacity rate r).2.tokens := serve_tokens_nonneg hcapacity hrate hb
    have hlevel := refill_le_add capacity rate h.head
    by_cases hnow : r.now ≤ hi
    · have hin : lo ≤ r.now := hlo.trans h.head
      have hrest := ih hb' (by rwa [serve_lastRefill]) (by rwa [serve_lastRefill])
        h.tail
      rw [serve_lastRefill] at hrest
      have hserve := serve_tokens capacity rate b lo hi ⟨hin, hnow⟩
      calc b.granted capacity rate lo hi (r :: rs)
          ≤ (b.refill capacity rate r.now - (b.serve capacity rate r).2.tokens) +
              ((b.serve capacity rate r).2.tokens + rate * (hi - r.now)) := by
            rw [← hserve, add_sub_cancel_right]
            exact add_le_add_right hrest _
        _ ≤ b.tokens + rate * (r.now - b.lastRefill) + rate * (hi - r.now) := by linarith
        _ = b.tokens + rate * (hi - b.lastRefill) := by ring
    -- a request after the interval is granted nothing in it, nor are the later ones
    · have hlate : hi < (b.serve capacity rate r).2.lastRefill := by
        rw [serve_lastRefill]
        exact not_le.mp hnow
      rw [granted_cons, granted_eq_zero hlate h.tail]
      simp only [hnow, decide_false, Bool.and_false, Bool.false_eq_true, if_false, add_zero]
      exact add_nonneg hb (mul_nonneg hrate (sub_nonneg.mpr hhi))

/-- Requests served in the order of their clocks get at most the capacity, and what the
    bucket gains over the interval. -/
theorem granted_le {lo hi : K} (hcapacity : 0 ≤ capacity) (hrate : 0 ≤ rate) (hb : 0 ≤ b.tokens)
    (hle : lo ≤ hi) (h : b.InOrder rs) :
    b.granted capacity rate lo hi rs ≤ capacity + rate * (hi - lo) := by
  have hgain : 0 ≤ rate * (hi - lo) := mul_nonneg hrate (sub_nonneg.mpr hle)
  induction rs generalizing b with
  | nil => exact add_nonneg hcapacity hgain
  | cons r rs ih =>
    have hb' : 0 ≤ (b.serve capacity rate r).2.tokens := serve_tokens_nonneg hcapacity hrate hb
    by_cases hin : lo ≤ r.now ∧ r.now ≤ hi
    · -- the first request of the interval finds a full bucket at best
      have hrest := granted_le_tokens lo hi hcapacity hrate hb'
        (by rw [serve_lastRefill]; exact hin.1)
        (by rw [serve_lastRefill]; exact hin.2) h.tail
      rw [serve_lastRefill] at hrest
      have hserve := serve_tokens capacity rate b lo hi hin
      have hfull := refill_le capacity rate b r.now
      have hstart : rate * (hi - r.now) ≤ rate * (hi - lo) :=
        mul_le_mul_of_nonneg_left (sub_le_sub_left hin.1 hi) hrate
      rw [granted_cons]
      linarith
    · have hrest := ih hb' h.tail
      have hout : (decide (lo ≤ r.now) && decide (r.now ≤ hi)) = false := by
        rw [Bool.and_eq_false_iff, decide_eq_false_iff_not, decide_eq_false_iff_not]
        exact not_and_or.mp hin
      rw [granted_cons, Bool.and_assoc, hout, Bool.and_false, if_neg Bool.false_ne_true, zero_add]
      exact hrest

end Ordered

end TokenBucket
