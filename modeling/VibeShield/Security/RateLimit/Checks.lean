import VibeShield.Security.RateLimit.Model

/-!
# What a check does

A check consumes a token of the identity's bucket, a new one if there is none
(`RateLimiter.check_cases`). The result tells whether there was one, and if not, how long to
wait (`RateLimiter.retryAfter`).

Besides the checks there are resets, which drop a bucket (`resettableLimiter`). Neither the
checks of others nor resets make a bucket (`get?_run_of_ne`).
-/

namespace VibeShield

deriving instance DecidableEq for RateLimitResult

variable {F : Type*}

/-- Whether a check ends with a result that allows the request. -/
def Allowed (out : Except PyErr (RateLimitResult F)) : Prop := ∃ r, out = .ok r ∧ r.allowed = true

theorem allowed_ok_iff {r : RateLimitResult F} : Allowed (.ok r) ↔ r.allowed = true :=
  ⟨fun ⟨_, h, hallowed⟩ => Except.ok.inj h ▸ hallowed, fun h => ⟨r, rfl, h⟩⟩

theorem not_allowed_error {err : PyErr} : ¬Allowed (.error err : Except _ (RateLimitResult F)) := by
  rintro ⟨r, ⟨⟩, _⟩

variable [PyNum F]

open PyArith PyNum

namespace RateLimiter

variable (l : RateLimiter F) (py : Python) (i : Identity)

/-- How long to wait for a token of a bucket that has none. -/
def delay (b : TokenBucket F) : F :=
  pyMax
    (if lt (lit 0) b.rate then div (sub (lit 1) b.tokens) b.rate
      else (l.config i.scope).cooldownSeconds) (lit (1 / 10))

/-- The advertised time. -/
def retryAfter (b : TokenBucket F) : F := round (l.delay i b) 2

/-- Whether there is no result: of a bucket with a token if what remains is not a number, and of
    one without if the callback raises what is not caught. -/
def ResultFails (b : TokenBucket F) (allowed : Bool) : Prop :=
  if allowed then ∃ x, trunc b.tokens = .error x
  else ∃ err, (l.onRatelimit.bind fun callback =>
    callback i.scope.name i.identifier (l.delay i b)) = some err ∧ err.isException = false

variable {l i} in
theorem result_eq_error_iff {b : TokenBucket F} {allowed : Bool} :
    (∃ err, l.result i b allowed = .error err) ↔ l.ResultFails i b allowed := by
  cases allowed with
  | true =>
    rw [result, if_pos rfl, ResultFails, if_pos rfl]
    cases htrunc : trunc b.tokens with
    | ok remaining => exact iff_of_false (by rintro ⟨_, ⟨⟩⟩) (by rintro ⟨_, ⟨⟩⟩)
    | error x => exact iff_of_true ⟨_, rfl⟩ ⟨x, rfl⟩
  | false =>
    rw [result, if_neg Bool.false_ne_true, ResultFails, if_neg Bool.false_ne_true]
    dsimp only
    split
    · next err hraises =>
      split
      · next hexc =>
        refine iff_of_false (by rintro ⟨_, ⟨⟩⟩) ?_
        rintro ⟨err', hraises', hexc'⟩
        obtain rfl := Option.some.inj (hraises.symm.trans hraises')
        cases hexc.symm.trans hexc'
      · next hexc => exact iff_of_true ⟨err, rfl⟩ ⟨err, hraises, Bool.eq_false_of_not_eq_true hexc⟩
    · next hnone =>
      refine iff_of_false (by rintro ⟨_, ⟨⟩⟩) ?_
      rintro ⟨err, hraises, _⟩
      cases hnone.symm.trans hraises

variable {l i} in
theorem allowed_of_result_eq_ok {b : TokenBucket F} {r : RateLimitResult F}
    (h : l.result i b true = .ok r) : r.allowed = true := by
  rw [result, if_pos rfl] at h
  split at h
  · exact (congrArg RateLimitResult.allowed (Except.ok.inj h)).symm
  · cases h

variable {l i} in
theorem denied_of_result_eq_ok {b : TokenBucket F} {r : RateLimitResult F}
    (h : l.result i b false = .ok r) : r.allowed = false ∧ r.retryAfter = l.retryAfter i b := by
  rw [result, if_neg Bool.false_ne_true] at h
  dsimp only at h
  split at h
  · -- An exception of the callback does not matter, if it is caught.
    split at h
    · rw [← Except.ok.inj h]
      exact ⟨rfl, rfl⟩
    · cases h
  · rw [← Except.ok.inj h]
    exact ⟨rfl, rfl⟩

/-- The bucket of an identity, a new one if there is none. -/
def bucketFor (created : F) : TokenBucket F :=
  (l.buckets.get? (bucketKey py i)).getD (.new (l.config i.scope) created)

/-- Getting a bucket leaves no others than there were, besides a new one. -/
theorem getBucket_cases (key : String) (config : RateLimitConfig F) (created cleaned : F) :
    ∃ d : PyDict String (TokenBucket F),
      (∀ j, j ≠ key → ∀ b, d.get? j = some b → l.buckets.get? j = some b) ∧
      ((∃ err, l.getBucket key config created cleaned = ({ l with buckets := d }, .error err) ∧
          d.get? key = none) ∨
        l.getBucket key config created cleaned =
          ({ l with buckets := d }, .ok ((l.buckets.get? key).getD (.new config created)))) := by
  rw [getBucket]
  cases hget : l.buckets.get? key with
  | some b => exact ⟨l.buckets, fun _ _ _ h => h, .inr rfl⟩
  | none =>
    dsimp only
    -- The new bucket may be cleaned up with the stale ones.
    obtain ⟨d, heq, hsub⟩ : ∃ d : PyDict String (TokenBucket F),
        (if 10000 < (l.buckets.set key (.new config created)).size then
          { l with buckets := l.buckets.set key (.new config created) }.cleanupStaleBuckets cleaned
          else { l with buckets := l.buckets.set key (.new config created) }) =
            { l with buckets := d } ∧
        ∀ j b, d.get? j = some b → (l.buckets.set key (.new config created)).get? j = some b := by
      split
      · refine ⟨_, rfl, fun j b hb => ?_⟩
        rw [PyDict.get?_filter, Option.filter_eq_some_iff] at hb
        exact hb.1
      · exact ⟨_, rfl, fun _ _ hb => hb⟩
    rw [heq]
    refine ⟨d, fun j hj b hb => ?_, ?_⟩
    · have hb := hsub j b hb
      rwa [PyDict.get?_set, if_neg hj] at hb
    · cases hfound : d.get? key with
      | none => exact .inl ⟨_, rfl, rfl⟩
      | some b =>
        have hb := hsub key b hfound
        rw [PyDict.get?_set, if_pos rfl] at hb
        exact .inr (congrArg (fun b => (_, Except.ok b)) (Option.some.inj hb).symm)

/-- A check consumes a token of the bucket, or ends without one; of the other buckets, none is
    new. -/
theorem check_cases (created cleaned consumed : F) :
    ∃ d : PyDict String (TokenBucket F),
      (l.check py i created cleaned consumed).1 = { l with buckets := d } ∧
      (∀ j, j ≠ bucketKey py i → ∀ b, d.get? j = some b → l.buckets.get? j = some b) ∧
      ((∃ err, (l.check py i created cleaned consumed).2 = .error err ∧
          d.get? (bucketKey py i) = none) ∨
        ((l.check py i created cleaned consumed).2 =
            l.result i ((l.bucketFor py i created).consume consumed).1
              ((l.bucketFor py i created).consume consumed).2 ∧
          d.get? (bucketKey py i) = some ((l.bucketFor py i created).consume consumed).1)) := by
  rw [check]
  obtain ⟨d, hother, ⟨err, heq, hnone⟩ | heq⟩ :=
    l.getBucket_cases (bucketKey py i) (l.config i.scope) created cleaned
  · rw [heq]
    exact ⟨d, rfl, hother, .inl ⟨err, rfl, hnone⟩⟩
  · rw [heq]
    refine ⟨d.set (bucketKey py i) ((l.bucketFor py i created).consume consumed).1, rfl,
      fun j hj b hb => hother j hj b ?_, .inr ⟨rfl, ?_⟩⟩
    · rwa [PyDict.get?_set, if_neg hj] at hb
    · rw [PyDict.get?_set, if_pos rfl]

/-- After a check, the bucket of the identity is the one that has been consumed, if it is there. -/
theorem eq_of_get?_check {created cleaned consumed : F} {b : TokenBucket F}
    (hb : (l.check py i created cleaned consumed).1.buckets.get? (bucketKey py i) = some b) :
    b = ((l.bucketFor py i created).consume consumed).1 := by
  obtain ⟨d, heq, _, ⟨err, _, hnone⟩ | ⟨_, hself⟩⟩ := l.check_cases py i created cleaned consumed
  · rw [heq] at hb
    exact absurd (hnone.symm.trans hb) (by simp)
  · rw [heq] at hb
    exact Option.some.inj (hb.symm.trans hself)

/-- Resetting the limit of a scope and an identifier. -/
def reset (scope identifier : String) : RateLimiter F :=
  { l with buckets := l.buckets.erase (slice (py.sha256 s!"{scope}:{identifier}") 16) }

end RateLimiter

/-- Who a check is about. -/
def CheckCall.identity (c : CheckCall F) : Identity := c.op.identity

/-- What is asked of a limiter. -/
inductive LimiterCall (F : Type*)
  | check (c : CheckCall F)
  | reset (scope identifier : String)

/-- The limiter as a machine, with resets: only checks have a result. -/
def resettableLimiter (F : Type*) [PyNum F] (py : Python) :
    Machine (RateLimiter F) (LimiterCall F) (Option (Except PyErr (RateLimitResult F))) where
  step l
    | .check c =>
      let (l, out) := l.check py c.identity c.created c.cleaned c.consumed
      (l, some out)
    | .reset scope identifier => (l.reset py scope identifier, none)

section Runs

variable {py : Python} {l : RateLimiter F} {key : String}

/-- A call only changes the buckets. -/
theorem eq_step_resettableLimiter (l : RateLimiter F) (call : LimiterCall F) :
    ((resettableLimiter F py).step l call).1 =
      { l with buckets := ((resettableLimiter F py).step l call).1.buckets } := by
  cases call with
  | check c =>
    change (l.check py c.identity c.created c.cleaned c.consumed).1 =
      { l with buckets := (l.check py c.identity c.created c.cleaned c.consumed).1.buckets }
    obtain ⟨d, heq, _⟩ := l.check_cases py c.identity c.created c.cleaned c.consumed
    rw [heq]
  | reset scope identifier => rfl

theorem eq_run_resettableLimiter (py : Python) (l : RateLimiter F) (calls : List (LimiterCall F)) :
    (resettableLimiter F py).run l calls =
      { l with buckets := ((resettableLimiter F py).run l calls).buckets } := by
  refine Machine.invariant (P := fun l' : RateLimiter F => l' = { l with buckets := l'.buckets })
    (G := fun _ _ => True) rfl (fun l' call _ h => ?_) calls fun _ _ => trivial
  rw [eq_step_resettableLimiter, h]

theorem config_run_resettableLimiter (py : Python) (l : RateLimiter F)
    (calls : List (LimiterCall F)) (scope : RateLimitScope) :
    ((resettableLimiter F py).run l calls).config scope = l.config scope := by
  rw [eq_run_resettableLimiter]
  rfl

/-- A bucket after a call was there before, unless the call is a check of it. -/
theorem get?_step_of_ne {call : LimiterCall F}
    (hcall : ∀ c, call = .check c → bucketKey py c.identity ≠ key) {b : TokenBucket F}
    (hb : ((resettableLimiter F py).step l call).1.buckets.get? key = some b) :
    l.buckets.get? key = some b := by
  cases call with
  | check c =>
    have hkey : key ≠ bucketKey py c.identity := (hcall c rfl).symm
    change (l.check py c.identity c.created c.cleaned c.consumed).1.buckets.get? key = some b at hb
    obtain ⟨d, heq, hother, _⟩ := l.check_cases py c.identity c.created c.cleaned c.consumed
    rw [heq] at hb
    exact hother key hkey b hb
  | reset scope identifier =>
    change (l.buckets.erase _).get? key = some b at hb
    rw [PyDict.get?_erase] at hb
    split at hb
    · cases hb
    · exact hb

/-- Checks of others and resets leave a bucket as it is, or drop it. -/
theorem get?_run_of_ne {calls : List (LimiterCall F)}
    (hcalls : ∀ c, .check c ∈ calls → bucketKey py c.identity ≠ key) {b : TokenBucket F}
    (hb : ((resettableLimiter F py).run l calls).buckets.get? key = some b) :
    l.buckets.get? key = some b := by
  induction calls generalizing l with
  | nil => exact hb
  | cons call calls ih =>
    refine get?_step_of_ne (fun c hc => hcalls c (hc ▸ List.mem_cons_self)) ?_
    exact ih (fun c hc => hcalls c (List.mem_cons_of_mem _ hc)) hb

/-- What holds of a new bucket of a key, and is kept by requests, holds of the bucket of the key
    after a call if it does before. -/
theorem forall_bucket_step {P : TokenBucket F → Prop} {call : LimiterCall F}
    (hnew : ∀ c, call = .check c → bucketKey py c.identity = key →
      P (.new (l.config c.identity.scope) c.created))
    (hconsume : ∀ b now, P b → P (b.consume now).1)
    (h : ∀ b, l.buckets.get? key = some b → P b) :
    ∀ b, ((resettableLimiter F py).step l call).1.buckets.get? key = some b → P b := by
  intro b hb
  by_cases hkey : ∀ c, call = .check c → bucketKey py c.identity ≠ key
  · exact h b (get?_step_of_ne hkey hb)
  · -- A check of the bucket itself consumes one that is new, or was there before.
    simp only [not_forall, not_not] at hkey
    obtain ⟨c, rfl, rfl⟩ := hkey
    change (l.check py c.identity c.created c.cleaned c.consumed).1.buckets.get? _ = some b at hb
    rw [RateLimiter.eq_of_get?_check l py c.identity hb]
    refine hconsume _ _ ?_
    rw [RateLimiter.bucketFor]
    cases hget : l.buckets.get? (bucketKey py c.identity) with
    | none => exact hnew c rfl rfl
    | some b => exact h b hget

/-- So it holds of the bucket after a run, if there is none at first. -/
theorem forall_bucket_run {P : TokenBucket F → Prop} (hempty : l.buckets = .empty)
    {calls : List (LimiterCall F)}
    (hnew : ∀ c, .check c ∈ calls → bucketKey py c.identity = key →
      P (.new (l.config c.identity.scope) c.created))
    (hconsume : ∀ b now, P b → P (b.consume now).1) :
    ∀ b, ((resettableLimiter F py).run l calls).buckets.get? key = some b → P b := by
  induction calls using List.reverseRecOn with
  | nil =>
    intro b hb
    rw [Machine.run, hempty, PyDict.get?_empty] at hb
    exact absurd hb (by simp)
  | append_singleton calls call ih =>
    rw [Machine.run_concat]
    refine forall_bucket_step (fun c hc hkey => ?_) hconsume
      (ih fun c hc => hnew c (List.mem_append_left _ hc))
    rw [config_run_resettableLimiter]
    exact hnew c (hc ▸ List.mem_append_right _ List.mem_cons_self) hkey

end Runs

end VibeShield
