import VibeShield.Lib.Refusal
import VibeShield.Security.RateLimit.Remaining

/-!
# What the limiter keeps

A limiter with more than ten thousand buckets has made the last one in a check that dropped the
stale ones, and keeps none but those of identities that were checked in the five minutes before
(`limiter_memory`), whatever the readings of the clock are.

As long as no more than ten thousand identities are checked, no bucket is dropped, and the limiter
is a bucket for every key, which is there from a check to the next reset (`keyBuckets`). Then the
statistics count these buckets, and the ones that were less than nine tenths full when they were
used last (`limiter_stats`): what has come in since then is not added.

Identities whose keys agree share a bucket. Nothing here supposes that there are none.
-/

namespace VibeShield

variable {F : Type*} [PyNum F]

open PyArith PyNum

/-! ## The statistics -/

/-- How full a bucket is. -/
def TokenBucket.fillRatio (b : TokenBucket F) : Except PyErr F :=
  if isZero b.maxTokens then .error ⟨.otherException "ZeroDivisionError", "float division by zero"⟩
  else .ok (div b.tokens b.maxTokens)

/-- The statistics of a limiter. -/
structure LimiterStats where
  totalBuckets : ℕ
  activeBuckets : ℕ
  global : String
  agent : String
  ip : String
  burst : ℤ
deriving DecidableEq

/-- Getting the statistics. -/
def RateLimiter.stats (l : RateLimiter F) (lib : FloatLib F) : Except PyErr LimiterStats :=
  match l.buckets.items.mapM fun p => p.2.fillRatio with
  | .error err => .error err
  | .ok ratios => .ok {
    totalBuckets := l.buckets.size
    activeBuckets := ratios.countP fun ratio => lt ratio (lit (9 / 10))
    global := s!"{lib.str l.globalConfig.requestsPerSecond}/s"
    agent := s!"{lib.str l.agentConfig.requestsPerSecond}/s"
    ip := s!"{lib.str l.ipConfig.requestsPerSecond}/s"
    burst := l.agentConfig.burstSize }

/-- A bucket that is less than nine tenths full. -/
def TokenBucket.Active (b : TokenBucket F) : Bool := lt (div b.tokens b.maxTokens) (lit (9 / 10))

section Stats

variable {l : RateLimiter F} {lib : FloatLib F}

/-- There are none if a bucket is kept that can hold no token. -/
theorem stats_eq_error_iff (l : RateLimiter F) (lib : FloatLib F) :
    (∃ err, l.stats lib = .error err) ↔
    ∃ key b, l.buckets.get? key = some b ∧ isZero b.maxTokens = true := by
  rw [RateLimiter.stats]
  cases hratios : l.buckets.items.mapM fun p => p.2.fillRatio with
  | error err =>
    refine iff_of_true ⟨err, rfl⟩ ?_
    obtain ⟨⟨key, b⟩, hb, herr⟩ := exists_of_mapM_eq_error hratios
    rw [TokenBucket.fillRatio] at herr
    split at herr
    · next hzero => exact ⟨key, b, (l.buckets.mem_items_iff key b).1 hb, hzero⟩
    · cases herr
  | ok ratios =>
    refine iff_of_false (by rintro ⟨_, ⟨⟩⟩) ?_
    rintro ⟨key, b, hb, hzero⟩
    have hfails : ∃ err, (l.buckets.items.mapM fun p => p.2.fillRatio) = .error err :=
      exists_mapM_eq_error ⟨(key, b), (l.buckets.mem_items_iff key b).2 hb, _, if_pos hzero⟩
    obtain ⟨err, herr⟩ := hfails
    cases hratios.symm.trans herr

theorem stats_eq_ok {st : LimiterStats} (h : l.stats lib = .ok st) :
    st.totalBuckets = {key | (l.buckets.get? key).isSome}.ncard ∧
    st.activeBuckets = {key | ∃ b, l.buckets.get? key = some b ∧ b.Active = true}.ncard := by
  have hzero (p : String × TokenBucket F) (hp : p ∈ l.buckets.items) :
      p.2.fillRatio = .ok (div p.2.tokens p.2.maxTokens) := by
    refine if_neg fun hzero => ?_
    obtain ⟨err, herr⟩ := (stats_eq_error_iff l lib).2
      ⟨p.1, p.2, (l.buckets.mem_items_iff p.1 p.2).1 hp, hzero⟩
    cases herr.symm.trans h
  rw [RateLimiter.stats, mapM_eq_ok hzero] at h
  rw [← Except.ok.inj h]
  refine ⟨l.buckets.size_eq_ncard, ?_⟩
  dsimp only
  rw [List.countP_map]
  exact l.buckets.countP_items_eq_ncard TokenBucket.Active

end Stats

/-! ## A bucket for every key -/

/-- The bucket of a key as a machine, which is made by a check and dropped by a reset. -/
def keyBucket (l : RateLimiter F) : Machine (Option (TokenBucket F)) (LimiterCall F)
    (Option (Except PyErr (RateLimitResult F))) where
  step b
    | .check c =>
      let (b, out) := l.checkOwn c.identity b c.created c.consumed
      (some b, some out)
    | .reset _ _ => (none, none)

/-- The buckets of all keys. -/
def keyBuckets (py : Python) (l : RateLimiter F) :
    Machine (String → Option (TokenBucket F)) (LimiterCall F)
      (Option (Except PyErr (RateLimitResult F))) :=
  .family (fun _ => keyBucket l) (LimiterCall.key py)

/-- The keys of the checks among calls. -/
def checkedKeys (py : Python) (calls : List (LimiterCall F)) : Finset String :=
  (calls.filterMap fun call =>
    match call with
    | .check c => some (bucketKey py c.identity)
    | .reset _ _ => none).toFinset

omit [PyNum F] in
theorem mem_checkedKeys {py : Python} {calls : List (LimiterCall F)} {key : String} :
    key ∈ checkedKeys py calls ↔ ∃ c, .check c ∈ calls ∧ bucketKey py c.identity = key := by
  rw [checkedKeys, List.mem_toFinset, List.mem_filterMap]
  constructor
  · rintro ⟨call, hcall, hkey⟩
    cases call with
    | check c => exact ⟨c, hcall, Option.some.inj hkey⟩
    | reset => cases hkey
  · rintro ⟨c, hc, hkey⟩
    exact ⟨.check c, hc, congrArg some hkey⟩

/-- The limiter `l` keeps exactly the buckets `d`, and those are of the keys `K`. -/
structure KeepsAll (l₀ : RateLimiter F) (K : Finset String) (l : RateLimiter F)
    (d : String → Option (TokenBucket F)) : Prop where
  eq : l = { l₀ with buckets := l.buckets }
  get? : ∀ key, l.buckets.get? key = d key
  keys : ∀ key, (l.buckets.get? key).isSome → key ∈ K

section Room

variable {py : Python} {l₀ l : RateLimiter F} {K : Finset String}
  {d : String → Option (TokenBucket F)}

/-- A check of a limiter that is not full changes the bucket of the key only. -/
theorem check_of_not_full {i : Identity} (created cleaned consumed : F)
    (hroom : l.buckets.get? (bucketKey py i) = none → l.buckets.size < 10000) :
    ∃ d : PyDict String (TokenBucket F),
      l.check py i created cleaned consumed = ({ l with buckets := d },
        (l.checkOwn i (l.buckets.get? (bucketKey py i)) created consumed).2) ∧
      ∀ key, d.get? key = if key = bucketKey py i
        then some (l.checkOwn i (l.buckets.get? (bucketKey py i)) created consumed).1
        else l.buckets.get? key := by
  cases hget : l.buckets.get? (bucketKey py i) with
  | some b => exact ⟨_, l.check_of_some py i created cleaned consumed hget,
      fun key => PyDict.get?_set _ _ key _⟩
  | none =>
    have hsize : ¬10000 ≤ l.buckets.size := not_le.2 (hroom hget)
    obtain ⟨d, hcheck, hself, hother, _⟩ :=
      l.check_of_none py i created cleaned consumed hget fun h => absurd h hsize
    refine ⟨d, hcheck, fun key => ?_⟩
    split
    · next hkey => rw [hkey, hself]
    · next hkey =>
      have hkeeps (b : TokenBucket F) : l.keeps cleaned b = true := if_neg hsize
      rw [hother key hkey]
      cases l.buckets.get? key with
      | none => rfl
      | some b => exact if_pos (hkeeps b)

theorem KeepsAll.step (h : KeepsAll l₀ K l d) (hK : K.card ≤ 10000) {call : LimiterCall F}
    (hcall : ∀ c, call = .check c → bucketKey py c.identity ∈ K) :
    ((resettableLimiter F py).step l call).2 = ((keyBuckets py l₀).step d call).2 ∧
      KeepsAll l₀ K ((resettableLimiter F py).step l call).1
        ((keyBuckets py l₀).step d call).1 := by
  cases call with
  | check c =>
    have hc : bucketKey py c.identity ∈ K := hcall c rfl
    have hown (b : Option (TokenBucket F)) : l.checkOwn c.identity b c.created c.consumed =
        l₀.checkOwn c.identity b c.created c.consumed := by
      rw [h.eq]
      rfl
    have hroom (hnone : l.buckets.get? (bucketKey py c.identity) = none) :
        l.buckets.size < 10000 := (PyDict.size_lt_card h.keys hc hnone).trans_le hK
    obtain ⟨buckets, hcheck, hbuckets⟩ := check_of_not_full c.created c.cleaned c.consumed hroom
    rw [hown, h.get?] at hcheck
    simp only [hown, h.get?] at hbuckets
    have hstep : (resettableLimiter F py).step l (.check c) = ({ l with buckets := buckets },
        some (l₀.checkOwn c.identity (d (bucketKey py c.identity)) c.created c.consumed).2) := by
      change ((l.check py c.identity c.created c.cleaned c.consumed).1,
        some (l.check py c.identity c.created c.cleaned c.consumed).2) = _
      rw [hcheck]
    rw [hstep]
    refine ⟨rfl, ⟨by rw [h.eq], fun key => ?_, fun key hkey => ?_⟩⟩
    · change buckets.get? key = Function.update d (bucketKey py c.identity)
        (some (l₀.checkOwn c.identity (d (bucketKey py c.identity)) c.created c.consumed).1) key
      rw [hbuckets, Function.update_apply]
    · change (buckets.get? key).isSome at hkey
      rw [hbuckets] at hkey
      split at hkey
      · next heq => exact heq ▸ hc
      · exact h.keys key (by rwa [h.get?])
  | reset scope identifier =>
    refine ⟨rfl, ⟨by rw [h.eq]; rfl, fun key => ?_, fun key hkey => ?_⟩⟩
    · change (l.buckets.erase _).get? key = Function.update d _ none key
      rw [PyDict.get?_erase, Function.update_apply, h.get?]
      rfl
    · change ((l.buckets.erase _).get? key).isSome at hkey
      rw [PyDict.get?_erase] at hkey
      split at hkey
      · cases hkey
      · exact h.keys key hkey

end Room

/-! ## The number of buckets -/

section Memory

variable {py : Python} {l : RateLimiter F} {calls : List (LimiterCall F)} {call : LimiterCall F}

/-- The key of the check `c`, and those that are checked before it, no more than five minutes
    before it drops the stale buckets. -/
def recentKeys (py : Python) (before : List (LimiterCall F)) (c : CheckCall F) : Set String :=
  {key | key = bucketKey py c.identity ∨ ∃ c', .check c' ∈ before ∧
    bucketKey py c'.identity = key ∧ lt (lit 300) (sub c.cleaned c'.consumed) = false}

theorem finite_recentKeys (py : Python) (before : List (LimiterCall F)) (c : CheckCall F) :
    (recentKeys py before c).Finite := by
  refine (insert (bucketKey py c.identity) (checkedKeys py before)).finite_toSet.subset ?_
  rintro key (rfl | ⟨c', hc', hkey, _⟩)
  · exact Finset.mem_insert_self _ _
  · exact Finset.mem_insert_of_mem (mem_checkedKeys.2 ⟨c', hc', hkey⟩)

/-- A check that makes a bucket beyond the ten thousandth drops the stale ones. -/
theorem fresh_of_get?_check {i : Identity} {created cleaned consumed : F}
    (hnone : l.buckets.get? (bucketKey py i) = none) (hfull : 10000 ≤ l.buckets.size) {key : String}
    (hkey : key ≠ bucketKey py i) {b : TokenBucket F}
    (hb : (l.check py i created cleaned consumed).1.buckets.get? key = some b) :
    lt (lit 300) (sub cleaned b.lastRefill) = false := by
  have hsize : 10000 < (l.buckets.set (bucketKey py i) (.new (l.config i.scope) created)).size := by
    rw [PyDict.size_set, hnone]
    exact Nat.lt_add_one_of_le hfull
  have hkept : (((l.buckets.set (bucketKey py i) (.new (l.config i.scope) created)).filter
      fun _ b => !lt (lit 300) (sub cleaned b.lastRefill)).get? key) = some b := by
    rw [RateLimiter.check, RateLimiter.getBucket, hnone] at hb
    simp only [if_pos hsize, RateLimiter.cleanupStaleBuckets] at hb
    -- The new bucket may be dropped as well.
    cases hnew : ((l.buckets.set (bucketKey py i) (.new (l.config i.scope) created)).filter
      fun _ b => !lt (lit 300) (sub cleaned b.lastRefill)).get? (bucketKey py i) with
    | none => simpa only [hnew] using hb
    | some b' =>
      simp only [hnew] at hb
      rwa [PyDict.get?_set, if_neg hkey] at hb
  rw [PyDict.get?_filter, Option.filter_eq_some_iff] at hkept
  simpa using hkept.2

/-- The buckets `d` are of keys that are checked by `calls`, and of recent ones if they are many. -/
structure Bounded (py : Python) (calls : List (LimiterCall F))
    (d : PyDict String (TokenBucket F)) : Prop where
  used : ∀ key b, d.get? key = some b → ∃ c, .check c ∈ calls ∧ bucketKey py c.identity = key ∧
    b.lastRefill = c.consumed
  size : d.size ≤ 10000 ∨ ∃ before c after, calls = before ++ .check c :: after ∧
    {key | (d.get? key).isSome} ⊆ recentKeys py before c

/-- A call that makes no bucket keeps this. -/
theorem size_of_subset (h : Bounded py calls l.buckets) {d : PyDict String (TokenBucket F)}
    (hd : {key | (d.get? key).isSome} ⊆ {key | (l.buckets.get? key).isSome}) :
    d.size ≤ 10000 ∨ ∃ before c after, calls ++ [call] = before ++ .check c :: after ∧
      {key | (d.get? key).isSome} ⊆ recentKeys py before c := by
  obtain hsize | ⟨before, c, after, rfl, hrecent⟩ := h.size
  · refine .inl (le_trans ?_ hsize)
    have hfinite : {key | (l.buckets.get? key).isSome}.Finite := by
      refine l.buckets.keys.toFinset.finite_toSet.subset fun key hkey => ?_
      rw [List.coe_toFinset, Set.mem_ofPred, PyDict.mem_keys_iff]
      exact Option.isSome_iff_exists.1 hkey
    rw [PyDict.size_eq_ncard, PyDict.size_eq_ncard]
    exact Set.ncard_le_ncard hd hfinite
  · exact .inr ⟨before, c, after ++ [call], by simp, hd.trans hrecent⟩

theorem Bounded.step (h : Bounded py calls l.buckets) (call : LimiterCall F) :
    Bounded py (calls ++ [call]) ((resettableLimiter F py).step l call).1.buckets := by
  have hold (key : String) (b : TokenBucket F) (hb : l.buckets.get? key = some b) :
      ∃ c, .check c ∈ calls ++ [call] ∧ bucketKey py c.identity = key ∧
        b.lastRefill = c.consumed := by
    obtain ⟨c, hc, hused⟩ := h.used key b hb
    exact ⟨c, List.mem_append_left _ hc, hused⟩
  refine ⟨fun key b hb => ?_, ?_⟩
  · by_cases hkey : ∀ c, call = .check c → bucketKey py c.identity ≠ key
    · exact hold key b (get?_step_of_ne hkey hb)
    · simp only [not_forall, not_not] at hkey
      obtain ⟨c, rfl, rfl⟩ := hkey
      refine ⟨c, by simp, rfl, ?_⟩
      rw [RateLimiter.eq_of_get?_check l py c.identity hb, TokenBucket.consume]
      split <;> rfl
  · cases call with
    | reset scope identifier =>
      refine size_of_subset h fun key hkey => ?_
      change ((l.buckets.erase _).get? key).isSome at hkey
      rw [PyDict.get?_erase] at hkey
      split at hkey
      · cases hkey
      · exact hkey
    | check c =>
      have hcheck {key : String} (hkey : key ≠ bucketKey py c.identity) (c' : CheckCall F)
          (hc' : LimiterCall.check c = .check c') : bucketKey py c'.identity ≠ key := by
        obtain rfl : c = c' := LimiterCall.check.inj hc'
        exact hkey.symm
      have hother (key : String) (hkey : key ≠ bucketKey py c.identity) (b : TokenBucket F)
          (hb : (l.check py c.identity c.created c.cleaned c.consumed).1.buckets.get? key =
            some b) : l.buckets.get? key = some b :=
        get?_step_of_ne (hcheck hkey) hb
      cases hget : l.buckets.get? (bucketKey py c.identity) with
      | some old =>
        refine size_of_subset h fun key hkey => ?_
        obtain ⟨b, hb⟩ := Option.isSome_iff_exists.1 hkey
        rw [Set.mem_ofPred, Option.isSome_iff_exists]
        rcases eq_or_ne key (bucketKey py c.identity) with rfl | hne
        · exact ⟨old, hget⟩
        · exact ⟨b, hother key hne b hb⟩
      | none =>
        rcases lt_or_ge l.buckets.size 10000 with hroom | hfull
        · obtain ⟨d, hcheck, _, _, hsize⟩ := l.check_of_none py c.identity c.created c.cleaned
            c.consumed hget fun hfull => absurd hroom (not_lt.2 hfull)
          refine .inl ?_
          change (l.check py c.identity c.created c.cleaned c.consumed).1.buckets.size ≤ 10000
          rw [hcheck]
          exact (hsize hroom).trans_le hroom
        · -- The stale buckets are dropped now.
          refine .inr ⟨calls, c, [], rfl, fun key hkey => ?_⟩
          rcases eq_or_ne key (bucketKey py c.identity) with rfl | hne
          · exact .inl rfl
          · obtain ⟨b, hb⟩ := Option.isSome_iff_exists.1 hkey
            obtain ⟨c', hc', hused, hlast⟩ := h.used key b (hother key hne b hb)
            exact .inr ⟨c', hc', hused, hlast ▸ fresh_of_get?_check hget hfull hne hb⟩

/-- The limiter keeps ten thousand buckets at most, or none but those of the keys that were checked
    by one of the checks, or no more than five minutes before it. -/
theorem limiter_memory (py : Python) (l : RateLimiter F) (hl : l.buckets = .empty)
    (calls : List (LimiterCall F)) :
    let d := ((resettableLimiter F py).run l calls).buckets
    d.size ≤ 10000 ∨ ∃ before c after, calls = before ++ .check c :: after ∧
      {key | (d.get? key).isSome} ⊆ recentKeys py before c ∧
      d.size ≤ (recentKeys py before c).ncard := by
  have hbounded : Bounded py calls ((resettableLimiter F py).run l calls).buckets := by
    induction calls using List.reverseRecOn with
    | nil =>
      refine ⟨fun key b hb => ?_, .inl ?_⟩
      · change l.buckets.get? key = some b at hb
        rw [hl, PyDict.get?_empty] at hb
        cases hb
      · change l.buckets.size ≤ 10000
        rw [hl]
        exact Nat.zero_le _
    | append_singleton calls call ih =>
      rw [Machine.run_concat]
      exact ih.step call
  refine hbounded.size.imp_right ?_
  rintro ⟨before, c, after, hcalls, hrecent⟩
  refine ⟨before, c, after, hcalls, hrecent, ?_⟩
  rw [PyDict.size_eq_ncard]
  exact Set.ncard_le_ncard hrecent (finite_recentKeys py before c)

end Memory

/-! ## What the statistics count -/

/-- As long as no more than ten thousand keys are checked, the limiter is a bucket for every key,
    from a check to the next reset: its answers are those of the buckets, and its statistics
    count the buckets that are there, and the ones that are less than nine tenths full. -/
theorem limiter_stats (py : Python) (lib : FloatLib F) (l : RateLimiter F)
    (hl : l.buckets = .empty) (calls : List (LimiterCall F))
    (hkeys : (checkedKeys py calls).card ≤ 10000) :
    let stats := ((resettableLimiter F py).run l calls).stats lib
    let bucketAt (key : String) :=
      (keyBucket l).run none (calls.filter fun call => call.key py = key)
    (∀ key, (resettableLimiter F py).outputsAt (LimiterCall.key py) key l calls =
      (keyBucket l).outputs none (calls.filter fun call => call.key py = key)) ∧
    ((∃ err, stats = .error err) ↔ ∃ key b, bucketAt key = some b ∧ isZero b.maxTokens = true) ∧
    ∀ st, stats = .ok st →
      st.totalBuckets = {key | (bucketAt key).isSome}.ncard ∧
      st.activeBuckets = {key | ∃ b, bucketAt key = some b ∧ b.Active = true}.ncard := by
  intro stats bucketAt
  have hinit : KeepsAll l (checkedKeys py calls) l fun _ => none := {
    eq := rfl
    get? key := by rw [hl, PyDict.get?_empty]
    keys key hkey := by
      rw [hl, PyDict.get?_empty] at hkey
      cases hkey }
  -- The simulation, on the calls of this run.
  have hG : ((resettableLimiter F py).par (keyBuckets py l)).Guarded
      (fun _ call => ∀ c, call = .check c → bucketKey py c.identity ∈ checkedKeys py calls)
      (l, fun _ => none) calls := by
    rintro ev hev c hc
    exact mem_checkedKeys.2 ⟨c, hc ▸ Machine.input_mem_of_mem_events hev, rfl⟩
  have hstep (s : RateLimiter F) (t : String → Option (TokenBucket F)) (call : LimiterCall F)
      (hR : KeepsAll l (checkedKeys py calls) s t)
      (hcall : ∀ c, call = .check c → bucketKey py c.identity ∈ checkedKeys py calls) :=
    hR.step hkeys hcall
  have hrun := Machine.run_of_simulation hstep hinit calls hG
  have hget (key : String) : ((resettableLimiter F py).run l calls).buckets.get? key =
      bucketAt key := by
    rw [hrun.get?]
    exact Machine.run_family (fun _ => keyBucket l) (LimiterCall.key py) key _ calls
  refine ⟨fun key => ?_, ?_, fun st hst => ?_⟩
  · rw [Machine.outputsAt_congr _ _ (Machine.outputs_eq_of_simulation hstep hinit calls hG)]
    exact Machine.outputsAt_family (fun _ => keyBucket l) (LimiterCall.key py) key _ calls
  · simp only [← hget]
    exact stats_eq_error_iff _ lib
  · simp only [← hget]
    exact stats_eq_ok hst

namespace Sample

/-- An agent comes twice, its address once, and then the agent is reset. -/
def resetCalls : List (LimiterCall ℚ) := limiterCalls.map .check ++ [.reset "agent" "a1"]

theorem resetCalls_bounded :
    let d := ((resettableLimiter ℚ limiterLib).run slowLimiter resetCalls).buckets
    d.size ≤ 10000 ∨ ∃ before c after, resetCalls = before ++ .check c :: after ∧
      {key | (d.get? key).isSome} ⊆ recentKeys limiterLib before c ∧
      d.size ≤ (recentKeys limiterLib before c).ncard :=
  limiter_memory limiterLib slowLimiter rfl resetCalls

/-- The only float that is formatted is the rate. -/
def ratioLib : FloatLib ℚ where
  log2 := id
  fixed _ _ := "0.001"
  percent _ := "0%"
  str _ := "0.001"
  value := .fin

/-- Only the bucket of the address is left, and it is empty. -/
theorem resetCalls_counted :
    ((resettableLimiter ℚ limiterLib).run slowLimiter resetCalls).stats ratioLib =
      .ok ⟨1, 1, "0.001/s", "0.001/s", "0.001/s", 1⟩ ∧
    {key | ((keyBucket slowLimiter).run none
      (resetCalls.filter fun call => call.key limiterLib = key)).isSome}.ncard = 1 := by
  have hstats : ((resettableLimiter ℚ limiterLib).run slowLimiter resetCalls).stats ratioLib =
      .ok ⟨1, 1, "0.001/s", "0.001/s", "0.001/s", 1⟩ := by decide +kernel
  exact ⟨hstats, ((limiter_stats limiterLib ratioLib slowLimiter rfl resetCalls
    (by decide +kernel)).2.2 _ hstats).1.symm⟩

end Sample

end VibeShield
