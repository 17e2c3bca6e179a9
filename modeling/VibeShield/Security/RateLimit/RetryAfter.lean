import VibeShield.Security.RateLimit.Bucket
import VibeShield.Security.RateLimit.Checks
import VibeShield.Security.RateLimit.Eviction

/-!
# How long to wait

A check that is denied advertises a time to wait: what the bucket needs for a whole token
(`TokenBucket.wait`), rounded to two decimals and at least a tenth of a second. In exact
arithmetic, checks are allowed again after this time exactly if it is not shorter than what the
bucket needs, i.e. if rounding does not lower it (`retry_after_sufficient_iff`).

Checks of others in between do not matter, nor do resets: they leave the bucket as it is, or
drop it, and then the next check gets a full one.

`Sample` is an agent with three requests a second. A third of a second is too long for two
decimals, and after 0.33 seconds the agent is denied again.
-/

namespace VibeShield

/-! ## Waiting for a token -/

/-- The time that a bucket needs for a whole token. -/
def TokenBucket.wait (b : TokenBucket ℚ) (now : ℚ) : ℚ := (1 - (b.refill now).tokens) / b.rate

/-- The bucket is refilled, and holds a token when it is full. -/
structure TokenBucket.Refillable (b : TokenBucket ℚ) : Prop where
  rate_pos : 0 < b.rate
  one_le : 1 ≤ b.maxTokens

namespace TokenBucket

variable {b : TokenBucket ℚ} {now now' : ℚ}

theorem Refillable.consume (h : b.Refillable) (now : ℚ) : (b.consume now).1.Refillable :=
  ⟨(b.rate_consume now).symm ▸ h.rate_pos, (b.maxTokens_consume now).symm ▸ h.one_le⟩

theorem snd_consume_iff : (b.consume now).2 = true ↔ 1 ≤ (b.refill now).tokens := by
  rw [consume_eq]
  split
  · next h => exact iff_of_true rfl h
  · next h => exact iff_of_false Bool.false_ne_true h

/-- A bucket without a token is only refilled. -/
theorem fst_consume_of_denied (h : (b.consume now).2 = false) :
    (b.consume now).1 = b.refill now := by
  rw [consume_eq, if_neg]
  exact fun hle => absurd (snd_consume_iff.2 hle) (h ▸ Bool.false_ne_true)

/-- After a denied request there is a token exactly when the time to wait is over. -/
theorem allowed_after_denied_iff (hb : b.Refillable) (h : (b.consume now).2 = false) :
    ((b.consume now).1.consume now').2 = true ↔ now + b.wait now ≤ now' := by
  have hrate : (b.refill now).rate = b.rate := rfl
  have hlast : (b.refill now).lastRefill = now := rfl
  have hmax : (b.refill now).maxTokens = b.maxTokens := rfl
  rw [fst_consume_of_denied h, snd_consume_iff, tokens_refill, hrate, hlast, hmax, le_min_iff,
    and_iff_right hb.one_le, wait, ← le_sub_iff_add_le', div_le_iff₀ hb.rate_pos,
    sub_le_iff_le_add']

/-- A full bucket has a token. -/
theorem allowed_of_new {config : RateLimitConfig ℚ} {created : ℚ}
    (hb : (TokenBucket.new config created).Refillable) (hnow : created ≤ now) :
    ((TokenBucket.new config created).consume now).2 = true := by
  have hflow : 0 ≤ (now - created) * config.requestsPerSecond :=
    mul_nonneg (sub_nonneg.2 hnow) hb.rate_pos.le
  rw [snd_consume_iff, tokens_refill]
  exact le_min hb.one_le (le_add_of_le_of_nonneg hb.one_le hflow)

end TokenBucket

/-- The numbers that are not rounded down: the integers, and those nearer to the next one, or
    halfway to an even one. -/
def NotRoundedDown (q : ℚ) : Prop :=
  q - q.floor = 0 ∨ 1 / 2 < q - q.floor ∨ q - q.floor = 1 / 2 ∧ q.floor % 2 = 1

theorem le_roundHalfEven_iff (q : ℚ) : q ≤ roundHalfEven q ↔ NotRoundedDown q := by
  have hnonneg : 0 ≤ q - q.floor := sub_nonneg.2 (Rat.floor_le q)
  have hlt : q < (q.floor + 1 : ℤ) := Rat.lt_floor_add_one q
  have hfloor : q ≤ q.floor ↔ q - q.floor = 0 :=
    sub_nonpos.symm.trans ⟨fun h => le_antisymm h hnonneg, Eq.le⟩
  rw [roundHalfEven, NotRoundedDown]
  split
  · next h =>
    rw [hfloor, or_iff_left]
    rintro (h' | h')
    · exact absurd h' h.asymm
    · exact h.ne h'.1
  · next h =>
    split
    · next h' => exact iff_of_true hlt.le (.inr (.inl h'))
    · next h' =>
      have hhalf : q - q.floor = 1 / 2 := le_antisymm (not_lt.1 h') (not_lt.1 h)
      have hne : q - q.floor ≠ 0 := hhalf ▸ one_half_pos.ne'
      split
      · next heven =>
        rw [hfloor, or_iff_right hne, or_iff_right h', heven]
        exact iff_of_false hne (fun hodd => absurd hodd.2 (by decide))
      · next hodd => exact iff_of_true hlt.le (.inr (.inr ⟨hhalf, by omega⟩))

/-- A wait is covered if it is at most a tenth of a second, or its hundredths are not rounded
    down. -/
theorem wait_le_round_iff (w : ℚ) :
    w ≤ PyArith.round (max w (1 / 10)) 2 ↔ w ≤ 1 / 10 ∨ NotRoundedDown (w * 100) := by
  have htenth : PyArith.round (1 / 10 : ℚ) 2 = 1 / 10 := by decide +kernel
  have hround : PyArith.round w 2 = roundHalfEven (w * 10 ^ 2) / 10 ^ 2 := rfl
  have hhundred : (10 ^ 2 : ℚ) = 100 := by norm_num
  rcases le_or_gt w (1 / 10) with h | h
  · rw [max_eq_right h, htenth]
    exact iff_of_true h (.inl h)
  · rw [max_eq_left h.le, or_iff_right (not_le.2 h), hround, hhundred,
      le_div_iff₀ (by norm_num), le_roundHalfEven_iff]

/-! ## The checks -/

/-- A configuration with refills, which allows a request at once. -/
structure RateLimitConfig.Refills (config : RateLimitConfig ℚ) : Prop where
  rate_pos : 0 < config.requestsPerSecond
  one_le : 1 ≤ config.burstSize

theorem RateLimitConfig.Refills.refillable_new {config : RateLimitConfig ℚ} (h : config.Refills)
    (created : ℚ) : (TokenBucket.new config created).Refillable :=
  ⟨h.rate_pos, Int.cast_one.symm.trans_le (Int.cast_le.2 h.one_le)⟩

/-- The bucket of a key, if there is one, is refilled. -/
def RefillableAt (key : String) (l : RateLimiter ℚ) : Prop :=
  ∀ b, l.buckets.get? key = some b → b.Refillable

section Checks

variable {py : Python} {l : RateLimiter ℚ} {i : Identity} {key : String}

theorem RefillableAt.bucketFor (h : RefillableAt (bucketKey py i) l)
    (hi : (l.config i.scope).Refills) (created : ℚ) : (l.bucketFor py i created).Refillable := by
  rw [RateLimiter.bucketFor]
  cases hget : l.buckets.get? (bucketKey py i) with
  | none => exact hi.refillable_new created
  | some b => exact h b hget

theorem refillableAt_run (hempty : l.buckets = .empty) {calls : List (LimiterCall ℚ)}
    (hcalls : ∀ c, .check c ∈ calls → bucketKey py c.identity = key →
      (l.config c.identity.scope).Refills) :
    RefillableAt key ((resettableLimiter ℚ py).run l calls) :=
  forall_bucket_run hempty (fun c hc hkey => (hcalls c hc hkey).refillable_new c.created)
    fun _ now hb => hb.consume now

theorem retryAfter_eq (l : RateLimiter ℚ) (i : Identity) {b : TokenBucket ℚ}
    (hb : b.Refillable) :
    l.retryAfter i b = PyArith.round (max ((1 - b.tokens) / b.rate) (1 / 10)) 2 := by
  have hrate : PyArith.lt (PyArith.lit 0) b.rate = true := decide_eq_true hb.rate_pos
  rw [RateLimiter.retryAfter, RateLimiter.delay, if_pos hrate, pyMax_eq_max]
  rfl

theorem allowed_result_iff (l : RateLimiter ℚ) (i : Identity) (b : TokenBucket ℚ)
    (allowed : Bool) : Allowed (l.result i b allowed) ↔ allowed = true := by
  cases allowed with
  | true => exact iff_of_true ⟨_, rfl, rfl⟩ rfl
  | false =>
    refine iff_of_false ?_ Bool.false_ne_true
    rintro ⟨r, hr, hallowed⟩
    rw [(RateLimiter.denied_of_result_eq_ok hr).1] at hallowed
    cases hallowed

/-- If a bucket is created, then not after the token is consumed, and not five minutes before
    stale buckets are removed. -/
def CheckCall.Prompt (py : Python) (l : RateLimiter ℚ) (c : CheckCall ℚ) : Prop :=
  l.buckets.get? (bucketKey py c.identity) = none →
    c.created ≤ c.consumed ∧ (10000 ≤ l.buckets.size → c.cleaned ≤ c.created + 300)

/-- Any check of the identity from `t` on is allowed, if the calls before it are resets and
    checks of others. -/
def AllowedFrom (py : Python) (l : RateLimiter ℚ) (i : Identity) (t : ℚ) : Prop :=
  ∀ (calls : List (LimiterCall ℚ)) (c : CheckCall ℚ),
    (∀ m, .check m ∈ calls → bucketKey py m.identity ≠ bucketKey py i) → c.identity = i →
    c.Prompt py ((resettableLimiter ℚ py).run l calls) → t ≤ c.consumed →
    Allowed (((resettableLimiter ℚ py).run l calls).check py c.identity c.created c.cleaned
      c.consumed).2

theorem CheckCall.Prompt.not_dropsNew {c : CheckCall ℚ} (h : c.Prompt py l) :
    ¬l.DropsNew py c := by
  rintro ⟨hget, hfull, hstale⟩
  have hcleaned : c.cleaned - c.created ≤ 300 := sub_le_iff_le_add'.2 ((h hget).2 hfull)
  exact absurd (of_decide_eq_true hstale) (not_lt.2 hcleaned)

/-- A check that keeps its bucket is allowed if there is a token. -/
theorem allowed_check_iff {c : CheckCall ℚ} (h : ¬l.DropsNew py c) :
    Allowed (l.check py c.identity c.created c.cleaned c.consumed).2 ↔
      ((l.bucketFor py c.identity c.created).consume c.consumed).2 = true := by
  rw [RateLimiter.check_of_not_dropsNew h]
  exact allowed_result_iff l c.identity _ _

/-- Checks are allowed from the time when the bucket has a token again. -/
theorem allowedFrom_iff {c : CheckCall ℚ} (hc : (l.config c.identity.scope).Refills)
    {b : TokenBucket ℚ} {now t : ℚ} (hb : b.Refillable) (hdenied : (b.consume now).2 = false)
    (hget : l.buckets.get? (bucketKey py c.identity) = some (b.consume now).1) :
    AllowedFrom py l c.identity t ↔ now + b.wait now ≤ t := by
  constructor
  · intro h
    have hprompt : CheckCall.Prompt py l ⟨c.op, t, t, t⟩ := fun hnone =>
      absurd (hget.symm.trans hnone) (Option.some_ne_none _)
    have hat := h [] ⟨c.op, t, t, t⟩ (fun m hm => absurd hm List.not_mem_nil) rfl hprompt
      (le_refl t)
    have hbucket : l.bucketFor py c.identity t = (b.consume now).1 := by
      rw [RateLimiter.bucketFor, hget, Option.getD_some]
    have hnext := (allowed_check_iff hprompt.not_dropsNew).1 hat
    rw [← TokenBucket.allowed_after_denied_iff hb hdenied, ← hbucket]
    exact hnext
  · intro hwait calls c' hcalls hid hprompt hle
    have hconfig : (((resettableLimiter ℚ py).run l calls).config c'.identity.scope).Refills := by
      rw [config_run_resettableLimiter, hid]
      exact hc
    rw [allowed_check_iff hprompt.not_dropsNew, RateLimiter.bucketFor]
    cases hget' : ((resettableLimiter ℚ py).run l calls).buckets.get?
      (bucketKey py c'.identity) with
    | none =>
      exact TokenBucket.allowed_of_new (hconfig.refillable_new c'.created) (hprompt hget').1
    | some b' =>
      -- Nothing in between has touched the bucket.
      rw [hid] at hget'
      rw [Option.getD_some, ← Option.some.inj (hget.symm.trans (get?_run_of_ne hcalls hget'))]
      exact (TokenBucket.allowed_after_denied_iff hb hdenied).2 (hwait.trans hle)

end Checks

/-- After a denied check, the next one of the bucket is allowed as soon as the advertised time
    has passed, exactly if the bucket needs at most a tenth of a second for a token, or the
    hundredths of a second that it needs are not rounded down. -/
theorem retry_after_sufficient_iff (py : Python) (l : RateLimiter ℚ)
    (hempty : l.buckets = .empty) (calls : List (LimiterCall ℚ)) (c : CheckCall ℚ)
    (hconfig : ∀ m, .check m ∈ calls ++ [.check c] →
      bucketKey py m.identity = bucketKey py c.identity → (l.config m.identity.scope).Refills)
    (r : RateLimitResult ℚ)
    (hresult : (((resettableLimiter ℚ py).run l calls).check py c.identity c.created c.cleaned
      c.consumed).2 = .ok r)
    (hdenied : r.allowed = false) :
    AllowedFrom py ((resettableLimiter ℚ py).run l (calls ++ [.check c])) c.identity
        (c.consumed + r.retryAfter) ↔
      let w := (((resettableLimiter ℚ py).run l calls).bucketFor py c.identity c.created).wait
        c.consumed
      w ≤ 1 / 10 ∨ NotRoundedDown (w * 100) := by
  have hc : (l.config c.identity.scope).Refills :=
    hconfig c (List.mem_append_right _ List.mem_cons_self) rfl
  have hrefillable : RefillableAt (bucketKey py c.identity)
      ((resettableLimiter ℚ py).run l calls) :=
    refillableAt_run hempty fun m hm => hconfig m (List.mem_append_left _ hm)
  have hc' : (((resettableLimiter ℚ py).run l calls).config c.identity.scope).Refills := by
    rw [config_run_resettableLimiter]
    exact hc
  rw [Machine.run_concat]
  generalize (resettableLimiter ℚ py).run l calls = l' at hc' hrefillable hresult ⊢
  have hb := hrefillable.bucketFor hc' c.created
  change AllowedFrom py (l'.check py c.identity c.created c.cleaned c.consumed).1 c.identity
    (c.consumed + r.retryAfter) ↔ _
  obtain ⟨d, heq, _, ⟨err, herr, _⟩ | ⟨hok, hself⟩⟩ :=
    l'.check_cases py c.identity c.created c.cleaned c.consumed
  · cases herr.symm.trans hresult
  · rw [hok] at hresult
    rw [heq]
    cases hout : ((l'.bucketFor py c.identity c.created).consume c.consumed).2 with
    | true =>
      rw [hout] at hresult
      rw [RateLimiter.allowed_of_result_eq_ok hresult] at hdenied
      cases hdenied
    | false =>
      rw [hout] at hresult
      rw [(RateLimiter.denied_of_result_eq_ok hresult).2, retryAfter_eq _ _ (hb.consume _),
        allowedFrom_iff (l := { l' with buckets := d }) hc' hb hout hself, add_le_add_iff_left,
        TokenBucket.fst_consume_of_denied hout]
      exact wait_le_round_iff _

namespace Sample

/-- An agent's request, with a single reading of the clock. -/
def agentCheckAt (now : ℚ) : CheckCall ℚ := ⟨.checkAgent "a1", now, now, now⟩

/-- One request every two seconds. -/
def everyTwoLimiter : RateLimiter ℚ := ⟨burstConfig, burstConfig, burstConfig, none, .empty⟩

theorem two_seconds_sufficient : AllowedFrom limiterLib
    ((resettableLimiter ℚ limiterLib).run everyTwoLimiter
      [.check (agentCheckAt 0), .check (agentCheckAt 0)]) ⟨.agent, "a1"⟩ (0 + 2) := by
  refine (retry_after_sufficient_iff limiterLib everyTwoLimiter rfl [.check (agentCheckAt 0)]
    (agentCheckAt 0) (fun m _ _ => ?_) ⟨false, 2, 0, 1, "agent"⟩ (by decide +kernel) rfl).2
    (.inr (.inl (by decide +kernel)))
  cases m.identity.scope <;> exact ⟨by decide +kernel, le_refl 1⟩

/-- Three requests a second. -/
def thriceConfig : RateLimitConfig ℚ := ⟨3, 1, 60⟩

def thriceLimiter : RateLimiter ℚ := ⟨thriceConfig, thriceConfig, thriceConfig, none, .empty⟩

/-- A third of a second is advertised as 0.33 seconds, when there are 0.99 tokens. -/
theorem third_of_a_second_denied : thriceConfig.Refills ∧
    ((resettableLimiter ℚ limiterLib).outputs thriceLimiter
      ([0, 0, 33 / 100].map fun now => .check (agentCheckAt now))).map
        (fun out => out.bind fun out => out.toOption.map fun r => (r.allowed, r.retryAfter)) =
      [some (true, 0), some (false, 33 / 100), some (false, 1 / 10)] :=
  ⟨⟨by decide +kernel, le_refl 1⟩, by decide +kernel⟩

end Sample

end VibeShield
