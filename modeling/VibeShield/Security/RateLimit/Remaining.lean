import VibeShield.Security.RateLimit.RetryAfter

/-!
# The advertised quota

A check that is allowed advertises how many more there are: the whole tokens that are left. At the
same reading of the clock, this many further checks are allowed, and no more
(`TokenBucket.consume_spend`). When the clock advances, it is at least this many, as refills only
add tokens (`TokenBucket.Reserves`), and a bucket that has been dropped is full when it is made anew
(`remaining_exact`).

Checks of others in between do not matter. They may drop the bucket, but not at the same reading: it
has just been used.
-/

namespace VibeShield

/-! ## Buckets -/

namespace TokenBucket

variable {b : TokenBucket ℚ} {now now' : ℚ}

/-- A request takes one token at most. -/
theorem sub_one_le_tokens_consume :
    (b.refill now).tokens - 1 ≤ (b.consume now).1.tokens := by
  have htokens := b.tokens_consume now
  have htaken : (if (b.consume now).2 then (1 : ℚ) else 0) ≤ 1 := by split <;> norm_num
  linarith

theorem tokens_nonneg_of_allowed (h : (b.consume now).2 = true) :
    0 ≤ (b.consume now).1.tokens := by
  have hone : 1 ≤ (b.refill now).tokens := snd_consume_iff.1 h
  exact (sub_nonneg.2 hone).trans sub_one_le_tokens_consume

theorem tokens_consume_le : (b.consume now).1.tokens ≤ (b.consume now).1.maxTokens := by
  have htokens := b.tokens_consume now
  have htaken : 0 ≤ if (b.consume now).2 then (1 : ℚ) else 0 := by split <;> norm_num
  have hmax : (b.refill now).tokens ≤ b.maxTokens := by
    rw [tokens_refill]
    exact min_le_left _ _
  rw [b.maxTokens_consume]
  linarith

/-- At its last refill nothing is added to a bucket. -/
theorem refill_lastRefill (h : b.tokens ≤ b.maxTokens) : b.refill b.lastRefill = b := by
  have htokens : (b.refill b.lastRefill).tokens = b.tokens := by
    rw [tokens_refill, sub_self, zero_mul, add_zero, min_eq_right h]
  exact congrArg (fun t => { b with tokens := t }) htokens

/-- The bucket after `n` requests at its last refill. -/
def spend (b : TokenBucket ℚ) (n : ℕ) : TokenBucket ℚ :=
  { b with tokens := b.tokens - (min (n : ℤ) b.tokens.floor : ℤ) }

theorem spend_zero (h : 0 ≤ b.tokens) : b.spend 0 = b := by
  have hfloor : (0 : ℤ) ≤ b.tokens.floor := Rat.le_floor_iff.2 h
  rw [spend, Nat.cast_zero, min_eq_left hfloor, Int.cast_zero, sub_zero]

/-- Of the requests at the last refill, the first ones are allowed, as many as there are whole
    tokens. -/
theorem consume_spend (h : 0 ≤ b.tokens) (hmax : b.tokens ≤ b.maxTokens) (n : ℕ) :
    (b.spend n).consume b.lastRefill = (b.spend (n + 1), decide ((n : ℤ) < b.tokens.floor)) := by
  have hfloor : (0 : ℤ) ≤ b.tokens.floor := Rat.le_floor_iff.2 h
  have hrefill : (b.spend n).refill b.lastRefill = b.spend n := by
    refine refill_lastRefill (b := b.spend n) (le_trans ?_ hmax)
    have hspent : (0 : ℤ) ≤ min (n : ℤ) b.tokens.floor := le_min (Int.natCast_nonneg n) hfloor
    exact sub_le_self _ (Int.cast_nonneg hspent)
  rw [consume_eq, hrefill]
  rcases lt_or_ge (n : ℤ) b.tokens.floor with hlt | hge
  · have hsucc : ((n + 1 : ℕ) : ℤ) ≤ b.tokens.floor := hlt
    have hle : (((n + 1 : ℕ) : ℤ) : ℚ) ≤ b.tokens := Rat.le_floor_iff.1 hsucc
    have hone : 1 ≤ (b.spend n).tokens := by
      rw [spend, min_eq_left hlt.le]
      push_cast at hle ⊢
      linarith
    rw [if_pos hone, decide_eq_true hlt, spend, spend, min_eq_left hlt.le, min_eq_left hsucc]
    simp [sub_sub]
  · have hnone : ¬1 ≤ (b.spend n).tokens := by
      have hlt := Rat.lt_floor_add_one b.tokens
      rw [spend, min_eq_right hge]
      push_cast at hlt ⊢
      linarith
    have hsucc : b.tokens.floor ≤ ((n + 1 : ℕ) : ℤ) := hge.trans (by simp)
    rw [if_neg hnone, decide_eq_false hge.not_gt, spend, spend, min_eq_right hge,
      min_eq_right hsucc]

/-- A bucket of this configuration that holds at least `q` tokens, not refilled after `now`. -/
structure Reserves (b : TokenBucket ℚ) (config : RateLimitConfig ℚ) (q now : ℚ) : Prop where
  config : b.HasConfig config
  tokens : q ≤ b.tokens
  last : b.lastRefill ≤ now

variable {config : RateLimitConfig ℚ} {q : ℚ}

theorem reserves_new (hq : q ≤ config.burstSize) (now : ℚ) :
    (TokenBucket.new config now).Reserves config q now :=
  ⟨rfl, hq, le_refl now⟩

namespace Reserves

theorem mono (h : b.Reserves config q now) (hnow : now ≤ now') : b.Reserves config q now' :=
  ⟨h.config, h.tokens, h.last.trans hnow⟩

/-- Refills only add tokens, up to the size of the bucket. -/
theorem le_tokens_refill (h : b.Reserves config q now) (hrate : 0 ≤ config.requestsPerSecond)
    (hq : q ≤ config.burstSize) : q ≤ (b.refill now).tokens := by
  have hflow : 0 ≤ (now - b.lastRefill) * config.requestsPerSecond :=
    mul_nonneg (sub_nonneg.2 h.last) hrate
  rw [tokens_refill, h.config]
  exact le_min hq (le_add_of_le_of_nonneg h.tokens hflow)

theorem consume (h : b.Reserves config q now) (hrate : 0 ≤ config.requestsPerSecond)
    (hq : q ≤ config.burstSize) : (b.consume now).1.Reserves config (q - 1) now where
  config := h.config.consume now
  tokens := (sub_le_sub_right (h.le_tokens_refill hrate hq) 1).trans sub_one_le_tokens_consume
  last := (b.lastRefill_consume now).le

theorem allowed (h : b.Reserves config q now) (hrate : 0 ≤ config.requestsPerSecond)
    (hq : q ≤ config.burstSize) (hone : 1 ≤ q) : (b.consume now).2 = true :=
  snd_consume_iff.2 (hone.trans (h.le_tokens_refill hrate hq))

end Reserves

end TokenBucket

/-! ## Calls in between -/

section Calls

variable {F : Type*} [PyNum F] (py : Python)

/-- The readings of the clock during a call. -/
def LimiterCall.readings : LimiterCall F → List F
  | .check c => [c.created, c.cleaned, c.consumed]
  | .reset _ _ => []

/-- The key of the bucket that a call is about. -/
def LimiterCall.key : LimiterCall F → String
  | .check c => bucketKey py c.identity
  | .reset scope identifier => slice (py.sha256 s!"{scope}:{identifier}") 16

/-- Whether a call is a check of the identity. -/
def LimiterCall.isCheckOf (i : Identity) : LimiterCall F → Bool
  | .check c => c.identity = i
  | .reset _ _ => false

/-- The number of checks of the identity. -/
def checkCount (i : Identity) (calls : List (LimiterCall F)) : ℕ :=
  calls.countP (LimiterCall.isCheckOf i)

/-- Whether a check of the identity is denied: there is a result that tells so, unless the callback
    raises what is not caught. -/
def RateLimiter.Denies (l : RateLimiter F) (i : Identity)
    (out : Except PyErr (RateLimitResult F)) : Prop :=
  (∃ r, out = .ok r ∧ r.allowed = false) ∨
    ∃ callback retryAfter err, l.onRatelimit = some callback ∧
      callback i.scope.name i.identifier retryAfter = some err ∧ err.isException = false ∧
        out = .error err

omit [PyNum F] in
theorem exists_check_of_isCheckOf {i : Identity} {call : LimiterCall F}
    (h : call.isCheckOf i = true) : ∃ c, call = .check c ∧ c.identity = i := by
  rcases call with c | _
  · exact ⟨c, rfl, of_decide_eq_true h⟩
  · exact absurd h Bool.false_ne_true

omit [PyNum F] in
theorem consumed_mem_readings (c : CheckCall F) :
    c.consumed ∈ (LimiterCall.check c).readings := by
  simp [LimiterCall.readings]

omit [PyNum F] in
theorem checkCount_concat (i : Identity) (calls : List (LimiterCall F)) (call : LimiterCall F) :
    checkCount i (calls ++ [call]) = checkCount i calls + if call.isCheckOf i then 1 else 0 := by
  rw [checkCount, List.countP_append, List.countP_singleton, checkCount]

omit [PyNum F] in
theorem readings_concat (calls : List (LimiterCall F)) (call : LimiterCall F) :
    (calls ++ [call]).flatMap LimiterCall.readings =
      calls.flatMap LimiterCall.readings ++ call.readings := by
  rw [List.flatMap_append, List.flatMap_singleton]

theorem RateLimiter.denies_result (l : RateLimiter F) (i : Identity) (b : TokenBucket F) :
    l.Denies i (l.result i b false) := by
  rw [result, if_neg Bool.false_ne_true]
  dsimp only
  split
  · next err hraises =>
    obtain ⟨callback, hcallback, herr⟩ := Option.bind_eq_some_iff.1 hraises
    split
    · exact .inl ⟨_, rfl, rfl⟩
    · next hexc => exact .inr ⟨callback, _, err, hcallback, herr, by simpa using hexc, rfl⟩
  · exact .inl ⟨_, rfl, rfl⟩

end Calls

/-! ## At the same reading -/

section Checks

variable {py : Python} {l : RateLimiter ℚ} {i : Identity} {key : String}

/-- A call leaves the bucket of another key as it is, if it is not stale. -/
theorem get?_step_of_fresh {call : LimiterCall ℚ} (hkey : call.key py ≠ key) {b : TokenBucket ℚ}
    (hb : l.buckets.get? key = some b)
    (hfresh : ∀ c, call = .check c →
      c.cleaned ≤ c.created + 300 ∧ c.cleaned ≤ b.lastRefill + 300) :
    ((resettableLimiter ℚ py).step l call).1.buckets.get? key = some b := by
  rcases call with c | ⟨scope, identifier⟩
  · obtain ⟨hcreated, hlast⟩ := hfresh c rfl
    have hne : key ≠ bucketKey py c.identity := hkey.symm
    change (l.check py c.identity c.created c.cleaned c.consumed).1.buckets.get? key = some b
    cases hget : l.buckets.get? (bucketKey py c.identity) with
    | some b' =>
      rw [l.check_of_some py c.identity _ _ _ hget, PyDict.get?_set, if_neg hne, hb]
    | none =>
      have hclock (t : ℚ) (ht : c.cleaned ≤ t + 300) :
          PyArith.lt (PyArith.lit 300) (PyArith.sub c.cleaned t) = false :=
        decide_eq_false (not_lt.2 (sub_le_iff_le_add'.2 ht))
      obtain ⟨d, heq, _, hother, _⟩ := l.check_of_none py c.identity c.created c.cleaned c.consumed
        hget fun _ => hclock c.created hcreated
      have hkeeps : l.keeps c.cleaned b = true := by
        rw [RateLimiter.keeps, hclock b.lastRefill hlast, Bool.not_false, ite_self]
      rw [heq, hother key hne, hb, Option.filter_some, if_pos hkeeps]
  · change (l.buckets.erase (LimiterCall.key py (.reset scope identifier : LimiterCall ℚ))).get?
      key = some b
    rw [PyDict.get?_erase, if_neg hkey.symm, hb]

/-- What is done at the last refill of a bucket does nothing to it, but the checks of its identity
    spend its tokens. -/
theorem get?_step_spend {b : TokenBucket ℚ} (htokens : 0 ≤ b.tokens)
    (hmax : b.tokens ≤ b.maxTokens) {n : ℕ} {call : LimiterCall ℚ}
    (hcall : call.key py = bucketKey py i → call.isCheckOf i = true)
    (hclock : ∀ now ∈ call.readings, now = b.lastRefill)
    (hb : l.buckets.get? (bucketKey py i) = some (b.spend n)) :
    ((resettableLimiter ℚ py).step l call).1.buckets.get? (bucketKey py i) =
      some (b.spend (n + if call.isCheckOf i then 1 else 0)) := by
  by_cases hcheck : call.isCheckOf i = true
  · rw [if_pos hcheck]
    obtain ⟨c, rfl, rfl⟩ := exists_check_of_isCheckOf hcheck
    have hconsumed : c.consumed = b.lastRefill := hclock _ (consumed_mem_readings c)
    change (l.check py c.identity c.created c.cleaned c.consumed).1.buckets.get? _ = _
    rw [l.check_of_some py c.identity _ _ _ hb, PyDict.get?_set, if_pos rfl, hconsumed,
      TokenBucket.consume_spend htokens hmax]
  · rw [if_neg hcheck]
    refine get?_step_of_fresh (fun hkey => hcheck (hcall hkey)) hb ?_
    rintro c rfl
    have hcreated : c.created = b.lastRefill := hclock _ (by simp [LimiterCall.readings])
    have hcleaned : c.cleaned = b.lastRefill := hclock _ (by simp [LimiterCall.readings])
    rw [hcreated, hcleaned]
    exact ⟨by norm_num, le_add_of_nonneg_right (by norm_num)⟩

theorem get?_run_spend {b : TokenBucket ℚ} (htokens : 0 ≤ b.tokens)
    (hmax : b.tokens ≤ b.maxTokens) {calls : List (LimiterCall ℚ)}
    (hcalls : ∀ call ∈ calls, call.key py = bucketKey py i → call.isCheckOf i = true)
    (hclock : ∀ now ∈ calls.flatMap LimiterCall.readings, now = b.lastRefill)
    (hb : l.buckets.get? (bucketKey py i) = some b) :
    ((resettableLimiter ℚ py).run l calls).buckets.get? (bucketKey py i) =
      some (b.spend (checkCount i calls)) := by
  induction calls using List.reverseRecOn with
  | nil => rw [Machine.run, hb, checkCount, List.countP_nil, TokenBucket.spend_zero htokens]
  | append_singleton calls call ih =>
    rw [readings_concat, List.forall_mem_append] at hclock
    rw [List.forall_mem_append] at hcalls
    rw [Machine.run_concat, checkCount_concat]
    exact get?_step_spend htokens hmax (hcalls.2 call List.mem_cons_self) hclock.2
      (ih hcalls.1 hclock.1)

/-! ## When the clock advances -/

/-- The bucket of the key, if there is one, holds at least `q` tokens. -/
def ReservesAt (key : String) (config : RateLimitConfig ℚ) (q now : ℚ) (l : RateLimiter ℚ) : Prop :=
  ∀ b, l.buckets.get? key = some b → b.Reserves config q now

variable {config : RateLimitConfig ℚ} {q now now' : ℚ}

theorem ReservesAt.mono (h : ReservesAt key config q now l) (hnow : now ≤ now') :
    ReservesAt key config q now' l :=
  fun b hb => (h b hb).mono hnow

theorem ReservesAt.bucketFor (h : ReservesAt (bucketKey py i) config q now l)
    (hconfig : l.config i.scope = config) (hq : q ≤ config.burstSize) {created : ℚ}
    (hcreated : created ≤ now) : (l.bucketFor py i created).Reserves config q now := by
  rw [RateLimiter.bucketFor]
  rcases hget : l.buckets.get? (bucketKey py i) with _ | b
  · rw [Option.getD_none, hconfig]
    exact (TokenBucket.reserves_new hq created).mono hcreated
  · exact h b hget

/-- A check takes one token at most, of the bucket that was there, or of a new one. -/
theorem ReservesAt.check {c : CheckCall ℚ}
    (h : ReservesAt (bucketKey py c.identity) config q c.consumed l)
    (hconfig : l.config c.identity.scope = config) (hrate : 0 ≤ config.requestsPerSecond)
    (hq : q ≤ config.burstSize) (hcreated : c.created ≤ c.consumed) :
    ReservesAt (bucketKey py c.identity) config (q - 1) c.consumed
      (l.check py c.identity c.created c.cleaned c.consumed).1 := by
  intro b hb
  rw [RateLimiter.eq_of_get?_check l py c.identity hb]
  exact (h.bucketFor hconfig hq hcreated).consume hrate hq

/-- After any calls that keep to the order of the clock, as many tokens are missing at most as there
    were checks of the identity. -/
theorem ReservesAt.run (h : ReservesAt (bucketKey py i) config q now l)
    (hconfig : l.config i.scope = config) (hrate : 0 ≤ config.requestsPerSecond)
    (hq : q ≤ config.burstSize) {calls : List (LimiterCall ℚ)}
    (hcalls : ∀ call ∈ calls, call.key py = bucketKey py i → call.isCheckOf i = true)
    (hclock : (now :: calls.flatMap LimiterCall.readings).Pairwise (· ≤ ·))
    (hnow : ∀ t ∈ now :: calls.flatMap LimiterCall.readings, t ≤ now') :
    ReservesAt (bucketKey py i) config (q - checkCount i calls) now'
      ((resettableLimiter ℚ py).run l calls) := by
  induction calls using List.reverseRecOn generalizing now' with
  | nil =>
    rw [checkCount, List.countP_nil, Nat.cast_zero, sub_zero]
    exact h.mono (hnow now List.mem_cons_self)
  | append_singleton calls call ih =>
    rw [readings_concat, ← List.cons_append] at hclock hnow
    rw [List.forall_mem_append] at hcalls hnow
    obtain ⟨hbefore, hreadings, hcross⟩ := List.pairwise_append.1 hclock
    rw [Machine.run_concat, checkCount_concat]
    by_cases hcheck : call.isCheckOf i = true
    · -- A check of the identity consumes a token of what is left by the calls before it.
      obtain ⟨c, rfl, rfl⟩ := exists_check_of_isCheckOf hcheck
      have hconsumed := consumed_mem_readings c
      have hcreated : c.created ≤ c.consumed :=
        List.rel_of_pairwise_cons hreadings (by simp)
      have hq' : q - checkCount c.identity calls ≤ config.burstSize :=
        (sub_le_self q (Nat.cast_nonneg _)).trans hq
      have hnext := (ih hcalls.1 hbefore fun t ht => hcross t ht _ hconsumed).check
        ((config_run_resettableLimiter py l calls _).trans hconfig) hrate hq' hcreated
      rw [if_pos hcheck, Nat.cast_add, Nat.cast_one, ← sub_sub]
      exact hnext.mono (hnow.2 _ hconsumed)
    · -- Other calls leave the bucket as it is, or drop it.
      intro b hb
      have hother : ∀ c, call = .check c → bucketKey py c.identity ≠ bucketKey py i := by
        rintro c rfl hkey
        exact hcheck (hcalls.2 _ List.mem_cons_self hkey)
      rw [if_neg hcheck, Nat.add_zero]
      exact ih hcalls.1 hbefore hnow.1 b (get?_step_of_ne hother hb)

/-! ## The quota -/

theorem remaining_of_result_eq_ok {b : TokenBucket ℚ} {r : RateLimitResult ℚ}
    (hb : 0 ≤ b.tokens) (h : l.result i b true = .ok r) : r.remaining = b.tokens.floor := by
  have htrunc : b.tokens.num.tdiv b.tokens.den = b.tokens.floor := by
    rw [Int.tdiv_eq_ediv_of_nonneg (Rat.num_nonneg.2 hb), Rat.floor_def]
  have hremaining : max 0 (b.tokens.num.tdiv b.tokens.den) = r.remaining :=
    congrArg RateLimitResult.remaining (Except.ok.inj h)
  have hfloor : (0 : ℤ) ≤ b.tokens.floor := Rat.le_floor_iff.2 hb
  rw [← hremaining, htrunc, max_eq_right hfloor]

/-- A check that is allowed leaves a bucket that has just been refilled, with as many whole tokens
    as advertised. -/
theorem exists_bucket_of_allowed {c : CheckCall ℚ} {r : RateLimitResult ℚ}
    (hresult : (l.check py c.identity c.created c.cleaned c.consumed).2 = .ok r)
    (hallowed : r.allowed = true) :
    ∃ b, (l.check py c.identity c.created c.cleaned c.consumed).1.buckets.get?
        (bucketKey py c.identity) = some b ∧
      b.lastRefill = c.consumed ∧ 0 ≤ b.tokens ∧ b.tokens ≤ b.maxTokens ∧
        r.remaining = b.tokens.floor := by
  obtain ⟨d, heq, _, ⟨err, herr, _⟩ | ⟨hok, hself⟩⟩ :=
    l.check_cases py c.identity c.created c.cleaned c.consumed
  · exact absurd (herr.symm.trans hresult) (by simp)
  · generalize l.bucketFor py c.identity c.created = b at hok hself
    rw [hok] at hresult
    have hconsume : (b.consume c.consumed).2 = true := by
      rw [← allowed_result_iff l c.identity, hresult]
      exact allowed_ok_iff.2 hallowed
    have hnonneg := TokenBucket.tokens_nonneg_of_allowed hconsume
    rw [hconsume] at hresult
    rw [heq]
    exact ⟨_, hself, b.lastRefill_consume _, hnonneg, TokenBucket.tokens_consume_le,
      remaining_of_result_eq_ok hnonneg hresult⟩

/-- At the last refill of a bucket, as many checks are allowed as there are whole tokens. -/
theorem check_after_spend {b : TokenBucket ℚ} (htokens : 0 ≤ b.tokens)
    (hmax : b.tokens ≤ b.maxTokens) {later : List (LimiterCall ℚ)} {c : CheckCall ℚ}
    (hlater : ∀ call ∈ later, call.key py = bucketKey py c.identity →
      call.isCheckOf c.identity = true)
    (hclock : ∀ now ∈ (later ++ [LimiterCall.check c]).flatMap LimiterCall.readings,
      now = b.lastRefill)
    (hb : l.buckets.get? (bucketKey py c.identity) = some b) :
    let out := (((resettableLimiter ℚ py).run l later).check py c.identity c.created c.cleaned
      c.consumed).2
    (checkCount c.identity later < b.tokens.floor → Allowed out) ∧
      (b.tokens.floor ≤ checkCount c.identity later → l.Denies c.identity out) := by
  intro out
  rw [readings_concat, List.forall_mem_append] at hclock
  have hconsumed : c.consumed = b.lastRefill := hclock.2 _ (consumed_mem_readings c)
  have hspent := get?_run_spend htokens hmax hlater hclock.1 hb
  have hout : out = l.result c.identity (b.spend (checkCount c.identity later + 1))
      (decide ((checkCount c.identity later : ℤ) < b.tokens.floor)) := by
    change (((resettableLimiter ℚ py).run l later).check py c.identity c.created c.cleaned
      c.consumed).2 = _
    rw [RateLimiter.check_of_some _ py c.identity _ _ _ hspent, hconsumed,
      TokenBucket.consume_spend htokens hmax, eq_run_resettableLimiter]
    rfl
  rw [hout]
  constructor
  · intro hlt
    rw [allowed_result_iff]
    exact decide_eq_true hlt
  · intro hge
    rw [decide_eq_false hge.not_gt]
    exact l.denies_result _ _

/-- As long as fewer checks have been made than there were tokens, the next one is allowed. -/
theorem ReservesAt.allowed_check {later : List (LimiterCall ℚ)} {c : CheckCall ℚ} {k : ℤ}
    (h : ReservesAt (bucketKey py c.identity) config k now l)
    (hconfig : l.config c.identity.scope = config) (hrate : 0 ≤ config.requestsPerSecond)
    (hk : k ≤ config.burstSize)
    (hlater : ∀ call ∈ later, call.key py = bucketKey py c.identity →
      call.isCheckOf c.identity = true)
    (hclock : (now :: (later ++ [LimiterCall.check c]).flatMap LimiterCall.readings).Pairwise
      (· ≤ ·))
    (hcleaned : c.cleaned ≤ c.created + 300) (hlt : checkCount c.identity later < k) :
    Allowed (((resettableLimiter ℚ py).run l later).check py c.identity c.created c.cleaned
      c.consumed).2 := by
  rw [readings_concat, ← List.cons_append] at hclock
  obtain ⟨hbefore, hreadings, hcross⟩ := List.pairwise_append.1 hclock
  have hcreated : c.created ≤ c.consumed := List.rel_of_pairwise_cons hreadings (by simp)
  have hprompt : c.Prompt py ((resettableLimiter ℚ py).run l later) :=
    fun _ => ⟨hcreated, fun _ => hcleaned⟩
  have hk' : (k : ℚ) ≤ config.burstSize := Int.cast_le.2 hk
  have hone : (1 : ℚ) ≤ k - checkCount c.identity later := by
    have hsucc : ((checkCount c.identity later + 1 : ℤ) : ℚ) ≤ k := Int.cast_le.2 hlt
    push_cast at hsucc
    linarith
  have hafter := h.run hconfig hrate hk' hlater hbefore
    fun t ht => hcross t ht c.consumed (consumed_mem_readings c)
  have hconfig' : ((resettableLimiter ℚ py).run l later).config c.identity.scope = config :=
    (config_run_resettableLimiter py l later _).trans hconfig
  have hq := (sub_le_self (k : ℚ) (checkCount c.identity later).cast_nonneg).trans hk'
  rw [allowed_check_iff hprompt.not_dropsNew]
  exact (hafter.bucketFor hconfig' hq hcreated).allowed hrate hq hone

end Checks

/-- If a check is allowed and advertises `k` remaining ones, then of the further checks of the
    identity at the same reading of the clock the first `k` are allowed, and those after them are
    denied; and the first `k` are also allowed if the clock advances between them. -/
theorem remaining_exact (py : Python) (l : RateLimiter ℚ) (hempty : l.buckets = .empty)
    (calls : List (LimiterCall ℚ)) (c : CheckCall ℚ)
    (hcalls : ∀ m, .check m ∈ calls → bucketKey py m.identity = bucketKey py c.identity →
      m.identity = c.identity)
    (hrate : 0 ≤ (l.config c.identity.scope).requestsPerSecond) (r : RateLimitResult ℚ)
    (hresult : (((resettableLimiter ℚ py).run l calls).check py c.identity c.created c.cleaned
      c.consumed).2 = .ok r)
    (hallowed : r.allowed = true) (later : List (LimiterCall ℚ))
    (hlater : ∀ call ∈ later, call.key py = bucketKey py c.identity →
      call.isCheckOf c.identity = true)
    (next : CheckCall ℚ) (hnext : next.identity = c.identity) :
    let l' := (resettableLimiter ℚ py).run l (calls ++ .check c :: later)
    let out := (l'.check py next.identity next.created next.cleaned next.consumed).2
    let n := checkCount c.identity later
    let readings := (later ++ [LimiterCall.check next]).flatMap LimiterCall.readings
    ((∀ now ∈ readings, now = c.consumed) →
      (n < r.remaining → Allowed out) ∧ (r.remaining ≤ n → l.Denies c.identity out)) ∧
    ((c.consumed :: readings).Pairwise (· ≤ ·) → next.cleaned ≤ next.created + 300 →
      n < r.remaining → Allowed out) := by
  -- The bucket that the check leaves.
  obtain ⟨b, hget, hlast, hnonneg, hmax, hremaining⟩ := exists_bucket_of_allowed hresult hallowed
  change ((resettableLimiter ℚ py).step ((resettableLimiter ℚ py).run l calls)
    (.check c)).1.buckets.get? _ = _ at hget
  rw [← Machine.run_concat] at hget
  have hown : b.HasConfig (l.config c.identity.scope) := by
    refine forall_bucket_run (P := fun b => b.HasConfig (l.config c.identity.scope)) hempty
      (fun m hm hkey => ?_) (fun b now h => h.consume now) b hget
    have hid : m.identity = c.identity := by
      rcases List.mem_append.1 hm with hm | hm
      · exact hcalls m hm hkey
      · rw [LimiterCall.check.inj (List.mem_singleton.1 hm)]
    rw [hid]
    rfl
  have hrun := eq_run_resettableLimiter py l (calls ++ [.check c])
  have hconfig := config_run_resettableLimiter py l (calls ++ [.check c]) next.identity.scope
  rw [List.append_cons calls, Machine.run_append, hremaining, ← hlast]
  rw [← hnext] at hget hown hlater hrate ⊢
  generalize (resettableLimiter ℚ py).run l (calls ++ [.check c]) = l₁ at hget hrun hconfig ⊢
  constructor
  · intro hclock
    obtain ⟨hallows, hdenies⟩ := check_after_spend hnonneg hmax hlater hclock hget
    rw [hrun] at hdenies
    refine ⟨hallows, fun hge => ?_⟩
    rw [hrun]
    exact hdenies hge
  · intro hclock hcleaned hlt
    have hreserves : ReservesAt (bucketKey py next.identity) (l.config next.identity.scope)
        b.tokens.floor b.lastRefill l₁ := by
      intro b' hb'
      rw [← Option.some.inj (hget.symm.trans hb')]
      exact ⟨hown, Rat.floor_le _, le_refl _⟩
    have hburst : b.tokens.floor ≤ (l.config next.identity.scope).burstSize := by
      have hsize : b.maxTokens = (l.config next.identity.scope).burstSize := by
        rw [hown]
        rfl
      have hle : (b.tokens.floor : ℚ) ≤ (l.config next.identity.scope).burstSize :=
        hsize ▸ (Rat.floor_le _).trans hmax
      exact Int.cast_le.1 hle
    exact hreserves.allowed_check hconfig hrate hburst hlater hclock hcleaned hlt

namespace Sample

/-- Two requests at once, and one every two seconds. -/
def pairConfig : RateLimitConfig ℚ := ⟨1 / 2, 2, 60⟩

def pairLimiter : RateLimiter ℚ := ⟨pairConfig, pairConfig, pairConfig, none, .empty⟩

/-- The first request of an agent advertises another one, and not a third one. -/
theorem third_request_denied : pairLimiter.Denies ⟨.agent, "a1"⟩
    (((resettableLimiter ℚ limiterLib).run pairLimiter
      [.check (agentCheckAt 0), .check (agentCheckAt 0)]).check limiterLib ⟨.agent, "a1"⟩ 0 0
        0).2 := by
  refine ((remaining_exact limiterLib pairLimiter rfl [] (agentCheckAt 0) (by simp)
    (by decide +kernel) ⟨true, 0, 1, 2, "agent"⟩ (by decide +kernel) rfl [.check (agentCheckAt 0)]
    (fun call hcall _ => ?_) (agentCheckAt 0) rfl).1 (by decide +kernel)).2 (by decide)
  rw [List.mem_singleton.1 hcall]
  rfl

end Sample

end VibeShield
