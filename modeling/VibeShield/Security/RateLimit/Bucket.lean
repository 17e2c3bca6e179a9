import Mathlib.Order.Interval.Set.Basic
import Mathlib.Tactic.Linarith
import Mathlib.Tactic.Ring
import VibeShield.Security.RateLimit.Model

/-!
# What a token bucket admits

In exact arithmetic, a bucket of size `b` that is refilled at the rate `r` holds
between no and `b` tokens, and in an interval of length `d` it admits at most
`b + r * d` requests (`bucket_admits_le`).

Within the interval, a request that is admitted takes a token, and tokens come in at
the rate `r`; so the requests admitted so far and the tokens left are together at
most `b` and what has come in (`Metered`). Clipping at `b` only loses tokens.
-/

namespace VibeShield

namespace TokenBucket

variable (k : TokenBucket ℚ) (now : ℚ)

theorem tokens_refill : (k.refill now).tokens =
    min k.maxTokens (k.tokens + (now - k.lastRefill) * k.rate) :=
  pyMin_eq_min _ _

/-- A request takes a token if there is one. -/
theorem consume_eq : k.consume now = if 1 ≤ (k.refill now).tokens
    then ({ k.refill now with tokens := (k.refill now).tokens - 1 }, true)
    else (k.refill now, false) := by
  rw [consume]
  by_cases h : 1 ≤ (k.refill now).tokens
  · rw [if_pos h]
    exact if_pos (decide_eq_true h)
  · rw [if_neg h]
    exact if_neg (by simpa [PyArith.le, PyArith.lit] using h)

theorem lastRefill_consume : (k.consume now).1.lastRefill = now := by
  rw [consume_eq]
  split <;> rfl

theorem maxTokens_consume : (k.consume now).1.maxTokens = k.maxTokens := by
  rw [consume_eq]
  split <;> rfl

theorem rate_consume : (k.consume now).1.rate = k.rate := by
  rw [consume_eq]
  split <;> rfl

/-- The token taken and the ones left are the ones there were. -/
theorem tokens_consume : (k.consume now).1.tokens + (if (k.consume now).2 then 1 else 0) =
    (k.refill now).tokens := by
  rw [consume_eq]
  split
  · exact sub_add_cancel _ _
  · exact add_zero _

theorem tokens_consume_nonneg (h : 0 ≤ (k.refill now).tokens) :
    0 ≤ (k.consume now).1.tokens := by
  rw [consume_eq]
  split
  · next h₁ => exact sub_nonneg.2 h₁
  · exact h

end TokenBucket

/-! ## Admissions in an interval -/

/-- The number of requests admitted from `s` to `t`. -/
def admitted (s t : ℚ) (evs : List (Machine.Event (TokenBucket ℚ) ℚ Bool)) : ℕ :=
  evs.countP fun ev => ev.output ∧ s ≤ ev.input ∧ ev.input ≤ t

theorem admitted_concat (s t : ℚ) (evs : List (Machine.Event (TokenBucket ℚ) ℚ Bool))
    (ev : Machine.Event (TokenBucket ℚ) ℚ Bool) : (admitted s t (evs ++ [ev]) : ℚ) =
      admitted s t evs +
        if s ≤ ev.input ∧ ev.input ≤ t then (if ev.output then 1 else 0) else 0 := by
  rw [admitted, List.countP_append, List.countP_singleton, Nat.cast_add, admitted]
  by_cases hin : s ≤ ev.input ∧ ev.input ≤ t <;> by_cases hout : ev.output = true <;>
    simp [hin, hout]

/-- The invariant of a bucket of size `b` and rate `r`, with regard to the
    interval from `s` to `t`. -/
structure Metered (b r s t created : ℚ) (evs : List (Machine.Event (TokenBucket ℚ) ℚ Bool))
    (k : TokenBucket ℚ) : Prop where
  maxTokens : k.maxTokens = b
  rate : k.rate = r
  nonneg : 0 ≤ k.tokens
  le : k.tokens ≤ b
  last : ∀ now, created ≤ now → (∀ ev ∈ evs, ev.input ≤ now) → k.lastRefill ≤ now
  before : k.lastRefill < s → (admitted s t evs : ℚ) = 0
  during : s ≤ k.lastRefill → k.lastRefill ≤ t →
    admitted s t evs + k.tokens ≤ b + r * (k.lastRefill - s)
  after : t < k.lastRefill → (admitted s t evs : ℚ) ≤ b + r * (t - s)

variable {b r s t created : ℚ}

/-- In any case, not too many requests have been admitted. -/
theorem Metered.admitted_le {evs : List (Machine.Event (TokenBucket ℚ) ℚ Bool)}
    {k : TokenBucket ℚ} (h : Metered b r s t created evs k) (hb : 0 ≤ b) (hr : 0 ≤ r)
    (hst : s ≤ t) : (admitted s t evs : ℚ) ≤ b + r * (t - s) := by
  have hflow : 0 ≤ r * (t - s) := mul_nonneg hr (sub_nonneg.2 hst)
  rcases lt_or_ge k.lastRefill s with hs | hs
  · linarith [h.before hs]
  · rcases lt_or_ge t k.lastRefill with ht | ht
    · exact h.after ht
    · have hlast : r * (k.lastRefill - s) ≤ r * (t - s) :=
        mul_le_mul_of_nonneg_left (sub_le_sub_right ht s) hr
      linarith [h.during hs ht, h.nonneg]

theorem metered_new {config : RateLimitConfig ℚ} (hb : 0 ≤ (config.burstSize : ℚ))
    (hr : 0 ≤ config.requestsPerSecond) (hst : s ≤ t) :
    Metered config.burstSize config.requestsPerSecond s t created [] (.new config created) where
  maxTokens := rfl
  rate := rfl
  nonneg := hb
  le := le_refl _
  last now hnow _ := hnow
  before _ := Nat.cast_zero
  during hs _ := by
    have hflow : 0 ≤ config.requestsPerSecond * (created - s) := mul_nonneg hr (sub_nonneg.2 hs)
    change ((0 : ℕ) : ℚ) + config.burstSize ≤
      config.burstSize + config.requestsPerSecond * (created - s)
    rw [Nat.cast_zero]
    linarith
  after _ := by
    have hflow : 0 ≤ config.requestsPerSecond * (t - s) := mul_nonneg hr (sub_nonneg.2 hst)
    rw [admitted, List.countP_nil, Nat.cast_zero]
    linarith

theorem Metered.step {evs : List (Machine.Event (TokenBucket ℚ) ℚ Bool)} {k : TokenBucket ℚ}
    (h : Metered b r s t created evs k) (hb : 0 ≤ b) (hr : 0 ≤ r) (hst : s ≤ t) {now : ℚ}
    (hcreated : created ≤ now) (hevs : ∀ ev ∈ evs, ev.input ≤ now) :
    Metered b r s t created (evs ++ [(bucket ℚ).event k now]) ((bucket ℚ).step k now).1 := by
  have hlast : k.lastRefill ≤ now := h.last now hcreated hevs
  have hin : 0 ≤ (now - k.lastRefill) * r := mul_nonneg (sub_nonneg.2 hlast) hr
  -- The tokens before the request: at most what there was and what has come in.
  have hrefill : (k.refill now).tokens = min b (k.tokens + (now - k.lastRefill) * r) := by
    rw [k.tokens_refill, h.maxTokens, h.rate]
  have hle : (k.refill now).tokens ≤ b := hrefill ▸ min_le_left _ _
  have hle' : (k.refill now).tokens ≤ k.tokens + (now - k.lastRefill) * r :=
    hrefill ▸ min_le_right _ _
  have hnonneg : 0 ≤ (k.refill now).tokens :=
    hrefill ▸ le_min hb (add_nonneg h.nonneg hin)
  have htokens := k.tokens_consume now
  have htaken : (0 : ℚ) ≤ if (k.consume now).2 then 1 else 0 := by split <;> norm_num
  have hcount := admitted_concat s t evs ((bucket ℚ).event k now)
  refine ⟨(k.maxTokens_consume now).trans h.maxTokens, (k.rate_consume now).trans h.rate,
    k.tokens_consume_nonneg now hnonneg, ?_, fun u _ hu => ?_, fun hs => ?_, fun hs ht => ?_,
    fun ht => ?_⟩
  · change (k.consume now).1.tokens ≤ b
    linarith
  · change (k.consume now).1.lastRefill ≤ u
    rw [k.lastRefill_consume]
    exact hu ((bucket ℚ).event k now) (by simp)
  · replace hs : now < s := k.lastRefill_consume now ▸ hs
    have hout : ¬(s ≤ ((bucket ℚ).event k now).input ∧ ((bucket ℚ).event k now).input ≤ t) :=
      fun hin => absurd hin.1 (not_le.2 hs)
    rw [hcount, if_neg hout, add_zero]
    exact h.before (hlast.trans_lt hs)
  · replace hs : s ≤ now := k.lastRefill_consume now ▸ hs
    replace ht : now ≤ t := k.lastRefill_consume now ▸ ht
    have hin : s ≤ ((bucket ℚ).event k now).input ∧ ((bucket ℚ).event k now).input ≤ t := ⟨hs, ht⟩
    have hgoal : (admitted s t evs : ℚ) + (k.refill now).tokens ≤ b + r * (now - s) := by
      rcases lt_or_ge k.lastRefill s with hk | hk
      · -- The first request in the interval finds at most `b` tokens.
        have hflow : 0 ≤ r * (now - s) := mul_nonneg hr (sub_nonneg.2 hs)
        linarith [h.before hk]
      · have hflow : (now - k.lastRefill) * r + r * (k.lastRefill - s) = r * (now - s) := by ring
        linarith [h.during hk (hlast.trans ht)]
    change (admitted s t (evs ++ [(bucket ℚ).event k now]) : ℚ) + (k.consume now).1.tokens ≤
      b + r * ((k.consume now).1.lastRefill - s)
    rw [hcount, if_pos hin, k.lastRefill_consume]
    change (admitted s t evs : ℚ) + (if (k.consume now).2 then 1 else 0) +
      (k.consume now).1.tokens ≤ b + r * (now - s)
    linarith
  · replace ht : t < now := k.lastRefill_consume now ▸ ht
    have hout : ¬(s ≤ ((bucket ℚ).event k now).input ∧ ((bucket ℚ).event k now).input ≤ t) :=
      fun hin => absurd hin.2 (not_le.2 ht)
    rw [hcount, if_neg hout, add_zero]
    exact h.admitted_le hb hr hst

/-- A token bucket holds no more tokens than its size, and never less than none; and
    from `s` to `t` it admits at most as many requests as its size and what comes in
    during this time. -/
theorem bucket_admits_le (config : RateLimitConfig ℚ) (hrate : 0 ≤ config.requestsPerSecond)
    (hburst : 0 ≤ config.burstSize) (created : ℚ) (nows : List ℚ)
    (hnows : (created :: nows).Pairwise (· ≤ ·)) :
    (∀ js, js <+: nows → ((bucket ℚ).run (.new config created) js).tokens ∈
      Set.Icc 0 (config.burstSize : ℚ)) ∧
    ∀ s t, s ≤ t → (admitted s t ((bucket ℚ).events (.new config created) nows) : ℚ) ≤
      config.burstSize + config.requestsPerSecond * (t - s) := by
  have hb : (0 : ℚ) ≤ config.burstSize := Int.cast_nonneg hburst
  have hrun {s t : ℚ} (hst : s ≤ t) (js : List ℚ) (hjs : (created :: js).Pairwise (· ≤ ·)) :
      Metered config.burstSize config.requestsPerSecond s t created
        ((bucket ℚ).events (.new config created) js) ((bucket ℚ).run (.new config created) js) :=
    Machine.pairwise_induction (Q := fun now => created ≤ now) (metered_new hb hrate hst)
      (fun _ _ _ hcreated hevs h => h.step hb hrate hst hcreated hevs) js
      (List.pairwise_cons.1 hjs).1 (List.pairwise_cons.1 hjs).2
  constructor
  · intro js hjs
    have hprefix : (created :: js).Pairwise (· ≤ ·) :=
      hnows.sublist (hjs.sublist.cons_cons created)
    have h := hrun (le_refl created) js hprefix
    exact ⟨h.nonneg, h.le⟩
  · intro s t hst
    exact (hrun hst nows hnows).admitted_le hb hrate hst

namespace Sample

/-- Two requests at once, and a third one after a second. -/
def burstConfig : RateLimitConfig ℚ := ⟨1 / 2, 1, 60⟩

theorem burst_admits_le :
    (admitted 0 1 ((bucket ℚ).events (.new burstConfig 0) [0, 0, 1]) : ℚ) ≤ 1 + 1 / 2 * (1 - 0) :=
  (bucket_admits_le burstConfig (by decide +kernel) (by decide) 0 [0, 0, 1]
    (by decide +kernel)).2 0 1 (by decide +kernel)

end Sample

end VibeShield
