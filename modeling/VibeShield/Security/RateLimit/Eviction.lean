import VibeShield.Python.Json
import VibeShield.Security.RateLimit.Checks

/-!
# Dropping stale buckets

What a limiter is for: every agent and address, and all requests together, have a
bucket of their own (`dedicated`), as if none was ever dropped. The limiter behaves
like this as long as a bucket is missed only when it would be full again
(`limiter_refines_buckets`); nothing in it ensures this, and it does not
(`not_limiter_refines_buckets`).

`Sample` is a limiter for one request an agent, without refills: ten thousand other
agents later, the first one gets a second request.
-/

namespace VibeShield

variable {F : Type*} [PyNum F]

open PyArith PyNum

/-! ## A bucket for every identity -/

/-- The check of an identity with a bucket of its own, created at the first check. -/
def RateLimiter.checkOwn (l : RateLimiter F) (i : Identity) (b : Option (TokenBucket F))
    (created consumed : F) : TokenBucket F × Except PyErr (RateLimitResult F) :=
  let (b, allowed) := (b.getD (.new (l.config i.scope) created)).consume consumed
  (b, l.result i b allowed)

/-- The bucket of an identity, as a machine. -/
def ownBucket (l : RateLimiter F) (i : Identity) :
    Machine (Option (TokenBucket F)) (CheckCall F) (Except PyErr (RateLimitResult F)) where
  step b c := ((l.checkOwn i b c.created c.consumed).1, (l.checkOwn i b c.created c.consumed).2)

/-- The buckets of all identities. -/
def dedicated (l : RateLimiter F) : Machine (Identity → Option (TokenBucket F)) (CheckCall F)
    (Except PyErr (RateLimitResult F)) :=
  .family (ownBucket l) CheckCall.identity

/-- No dropped bucket is missed by the call: if the identity had one, it would by now
    hold as much as a new one; and if the call triggers a cleanup, then not so late
    that the new bucket is stale as well. -/
def Unmissed (py : Python) (s : RateLimiter F × (Identity → Option (TokenBucket F)))
    (c : CheckCall F) : Prop :=
  s.1.buckets.get? (bucketKey py c.identity) = none →
    (∀ old, s.2 c.identity = some old → (old.refill c.consumed).tokens =
      ((TokenBucket.new (s.1.config c.identity.scope) c.created).refill c.consumed).tokens) ∧
    (10000 ≤ s.1.buckets.size → lt (lit 300) (sub c.cleaned c.created) = false)

/-! ## The limiter's dictionary -/

namespace RateLimiter

variable (l : RateLimiter F)

/-- Whether the buckets that are not used recently are kept. -/
def keeps (cleaned : F) (b : TokenBucket F) : Bool :=
  if 10000 ≤ l.buckets.size then !lt (lit 300) (sub cleaned b.lastRefill) else true

/-- A new bucket is found if it is not cleaned up at once. -/
theorem getBucket_of_none {key : String} (config : RateLimitConfig F) {created cleaned : F}
    (h : l.buckets.get? key = none)
    (hclock : 10000 ≤ l.buckets.size → lt (lit 300) (sub cleaned created) = false) :
    ∃ d : PyDict String (TokenBucket F),
      l.getBucket key config created cleaned =
        ({ l with buckets := d }, .ok (.new config created)) ∧
      d.get? key = some (.new config created) ∧
      (∀ j, j ≠ key → d.get? j = (l.buckets.get? j).filter (l.keeps cleaned)) ∧
      (l.buckets.size < 10000 → d.size = l.buckets.size + 1) := by
  have hset (j : String) : (l.buckets.set key (.new config created)).get? j =
      if j = key then some (.new config created) else l.buckets.get? j :=
    l.buckets.get?_set key j _
  have hsize : (l.buckets.set key (.new config created)).size = l.buckets.size + 1 := by
    rw [l.buckets.size_set, h]
    rfl
  rw [getBucket, h]
  simp only [hsize, Nat.lt_add_one_iff]
  by_cases hfull : 10000 ≤ l.buckets.size
  · have hkeeps : l.keeps cleaned = fun b => !lt (lit 300) (sub cleaned b.lastRefill) := by
      funext b
      exact if_pos hfull
    have hnew : ((l.buckets.set key (.new config created)).filter fun _ b =>
        !lt (lit 300) (sub cleaned b.lastRefill)).get? key = some (.new config created) := by
      rw [PyDict.get?_filter, hset, if_pos rfl, Option.filter_some]
      exact if_pos (by simp [TokenBucket.new, hclock hfull])
    refine ⟨_, ?_, hnew, fun j hj => ?_, fun hlt => absurd hfull (by omega)⟩
    · simp only [if_pos hfull, cleanupStaleBuckets, hnew]
    · rw [PyDict.get?_filter, hset, if_neg hj, hkeeps]
  · have hnew := hset key
    rw [if_pos rfl] at hnew
    refine ⟨_, ?_, hnew, fun j hj => ?_, fun _ => hsize⟩
    · simp only [if_neg hfull, hnew]
    · have hkeeps : ∀ b, l.keeps cleaned b = true := fun b => if_neg hfull
      rw [hset, if_neg hj]
      cases l.buckets.get? j with
      | none => rfl
      | some b => rw [Option.filter_some, if_pos (hkeeps b)]

variable (py : Python) (i : Identity)

theorem check_of_some {b : TokenBucket F} (created cleaned consumed : F)
    (h : l.buckets.get? (bucketKey py i) = some b) :
    l.check py i created cleaned consumed =
      ({ l with buckets := l.buckets.set (bucketKey py i) (b.consume consumed).1 },
        l.result i (b.consume consumed).1 (b.consume consumed).2) := by
  rw [check, getBucket, h]

/-- An identity without a bucket gets a new one. -/
theorem check_of_none (created cleaned consumed : F)
    (h : l.buckets.get? (bucketKey py i) = none)
    (hclock : 10000 ≤ l.buckets.size → lt (lit 300) (sub cleaned created) = false) :
    ∃ d : PyDict String (TokenBucket F), l.check py i created cleaned consumed =
        ({ l with buckets := d }, (l.checkOwn i none created consumed).2) ∧
      d.get? (bucketKey py i) = some (l.checkOwn i none created consumed).1 ∧
      (∀ j, j ≠ bucketKey py i → d.get? j = (l.buckets.get? j).filter (l.keeps cleaned)) ∧
      (l.buckets.size < 10000 → d.size = l.buckets.size + 1) := by
  obtain ⟨d, hget, hnew, hother, hsize⟩ := l.getBucket_of_none (l.config i.scope) h hclock
  refine ⟨d.set (bucketKey py i) (l.checkOwn i none created consumed).1, ?_, ?_, fun j hj => ?_,
    fun hlt => ?_⟩
  · rw [check]
    simp only [hget]
    rfl
  · rw [PyDict.get?_set, if_pos rfl]
  · rw [PyDict.get?_set, if_neg hj, hother j hj]
  · rw [PyDict.size_set, hnew]
    exact hsize hlt

/-- Whether a check removes the bucket that it creates, as the clock has jumped. -/
def DropsNew (c : CheckCall F) : Prop :=
  l.buckets.get? (bucketKey py c.identity) = none ∧ 10000 ≤ l.buckets.size ∧
    lt (lit 300) (sub c.cleaned c.created) = true

variable {l py} {c : CheckCall F}

/-- Without its bucket, the check ends in a `KeyError`. -/
theorem check_of_dropsNew (h : l.DropsNew py c) :
    ∃ err, (l.check py c.identity c.created c.cleaned c.consumed).2 = .error err := by
  obtain ⟨hget, hfull, hstale⟩ := h
  have hsize : 10000 < (l.buckets.set (bucketKey py c.identity)
      (.new (l.config c.identity.scope) c.created)).size := by
    rw [PyDict.size_set, hget]
    exact Nat.lt_add_one_of_le hfull
  have hdropped : ((l.buckets.set (bucketKey py c.identity)
      (.new (l.config c.identity.scope) c.created)).filter fun _ b =>
        !lt (lit 300) (sub c.cleaned b.lastRefill)).get? (bucketKey py c.identity) = none := by
    rw [PyDict.get?_filter, PyDict.get?_set, if_pos rfl, Option.filter_some]
    exact if_neg (by simp [TokenBucket.new, hstale])
  rw [check, getBucket, hget]
  simp only [if_pos hsize, cleanupStaleBuckets, hdropped]
  exact ⟨_, rfl⟩

/-- Otherwise there is a bucket, which tells the result. -/
theorem check_of_not_dropsNew (h : ¬l.DropsNew py c) :
    (l.check py c.identity c.created c.cleaned c.consumed).2 = l.result c.identity
      ((l.bucketFor py c.identity c.created).consume c.consumed).1
      ((l.bucketFor py c.identity c.created).consume c.consumed).2 := by
  rw [bucketFor]
  cases hget : l.buckets.get? (bucketKey py c.identity) with
  | some b =>
    rw [l.check_of_some py c.identity c.created c.cleaned c.consumed hget, Option.getD_some]
  | none =>
    have hclock (hfull : 10000 ≤ l.buckets.size) :
        lt (lit 300) (sub c.cleaned c.created) = false :=
      Bool.eq_false_of_not_eq_true fun hstale => h ⟨hget, hfull, hstale⟩
    obtain ⟨d, heq, _⟩ := l.check_of_none py c.identity c.created c.cleaned c.consumed hget hclock
    rw [heq, Option.getD_none]
    rfl

end RateLimiter

/-! ## The simulation -/

/-- A bucket of this configuration. -/
def TokenBucket.HasConfig (b : TokenBucket F) (config : RateLimitConfig F) : Prop :=
  b = { TokenBucket.new config b.lastRefill with tokens := b.tokens }

namespace TokenBucket.HasConfig

variable {b b' : TokenBucket F} {config : RateLimitConfig F}

theorem consume (h : b.HasConfig config) (now : F) : (b.consume now).1.HasConfig config := by
  have hrefill : (b.refill now).HasConfig config := by
    rw [h]
    rfl
  rw [TokenBucket.consume]
  split
  · rw [hrefill]
    rfl
  · exact hrefill

/-- Buckets that hold the same when refilled are not told apart by a request. -/
theorem consume_eq {now : F} (h : b.HasConfig config) (h' : b'.HasConfig config)
    (htokens : (b.refill now).tokens = (b'.refill now).tokens) :
    b.consume now = b'.consume now := by
  have hrefill : b.refill now = b'.refill now := by
    rw [h, h'] at htokens ⊢
    exact congrArg (fun t => { TokenBucket.new config now with tokens := t }) htokens
  rw [TokenBucket.consume, TokenBucket.consume, hrefill]

end TokenBucket.HasConfig

/-- The limiter `l` keeps the buckets `d` of the identities `ids`, as far as it keeps
    buckets of them. -/
structure Keeps (py : Python) (l₀ : RateLimiter F) (ids : Set Identity) (l : RateLimiter F)
    (d : Identity → Option (TokenBucket F)) : Prop where
  eq : l = { l₀ with buckets := l.buckets }
  bucket : ∀ i ∈ ids, ∀ b, l.buckets.get? (bucketKey py i) = some b → d i = some b
  config : ∀ i b, d i = some b → b.HasConfig (l₀.config i.scope)

section Simulation

variable {py : Python} {l₀ l : RateLimiter F} {ids : Set Identity}
  {d : Identity → Option (TokenBucket F)} {c : CheckCall F}

/-- A check that leaves at most the buckets of others that there were, and the one that
    is used, keeps the relation. -/
theorem Keeps.update (h : Keeps py l₀ ids l d) (hids : Set.InjOn (bucketKey py) ids)
    (hc : c.identity ∈ ids) {buckets : PyDict String (TokenBucket F)} {b : TokenBucket F}
    (hself : buckets.get? (bucketKey py c.identity) = some b)
    (hother : ∀ j ≠ bucketKey py c.identity, ∀ b', buckets.get? j = some b' →
      l.buckets.get? j = some b')
    (hb : b.HasConfig (l₀.config c.identity.scope)) :
    Keeps py l₀ ids { l with buckets := buckets } (Function.update d c.identity (some b)) where
  eq := by rw [h.eq]
  bucket i hi b' hb' := by
    rcases eq_or_ne i c.identity with rfl | hne
    · rw [Function.update_self, ← hself]
      exact hb'
    · rw [Function.update_of_ne hne]
      exact h.bucket i hi b' (hother _ (fun hkey => hne (hids hi hc hkey)) b' hb')
  config i b' hb' := by
    rcases eq_or_ne i c.identity with rfl | hne
    · rw [Function.update_self] at hb'
      exact Option.some.inj hb' ▸ hb
    · rw [Function.update_of_ne hne] at hb'
      exact h.config i b' hb'

theorem Keeps.step (h : Keeps py l₀ ids l d) (hids : Set.InjOn (bucketKey py) ids)
    (hc : c.identity ∈ ids) (hG : Unmissed py (l, d) c) :
    ((limiter F py).step l c).2 = ((dedicated l₀).step d c).2 ∧
      Keeps py l₀ ids ((limiter F py).step l c).1 ((dedicated l₀).step d c).1 := by
  have hconfig : l.config c.identity.scope = l₀.config c.identity.scope := by
    rw [h.eq]
    rfl
  have hresult (b : TokenBucket F) (a : Bool) : l.result c.identity b a =
      l₀.result c.identity b a := by
    rw [h.eq]
    rfl
  have hown (b : Option (TokenBucket F)) : l.checkOwn c.identity b c.created c.consumed =
      l₀.checkOwn c.identity b c.created c.consumed := by
    rw [RateLimiter.checkOwn, hconfig]
    simp only [hresult]
    rfl
  have hnew : (TokenBucket.new (l₀.config c.identity.scope) c.created).HasConfig
      (l₀.config c.identity.scope) := rfl
  change (l.check py c.identity c.created c.cleaned c.consumed).2 =
      (l₀.checkOwn c.identity (d c.identity) c.created c.consumed).2 ∧
    Keeps py l₀ ids (l.check py c.identity c.created c.cleaned c.consumed).1
      (Function.update d c.identity
        (some (l₀.checkOwn c.identity (d c.identity) c.created c.consumed).1))
  cases hget : l.buckets.get? (bucketKey py c.identity) with
  | some b =>
    -- The bucket is the one of the identity.
    have hd : d c.identity = some b := h.bucket _ hc b hget
    rw [l.check_of_some py c.identity c.created c.cleaned c.consumed hget, hd]
    refine ⟨hresult _ _, h.update hids hc ?_ (fun j hj b' hb' => ?_) ((h.config _ b hd).consume _)⟩
    · rw [PyDict.get?_set, if_pos rfl]
      rfl
    · rwa [PyDict.get?_set, if_neg hj] at hb'
  | none =>
    -- A new bucket takes the place of the old one, if there was one.
    obtain ⟨hold, hclock⟩ := hG hget
    obtain ⟨buckets, hcheck, hself, hother, _⟩ :=
      l.check_of_none py c.identity _ _ c.consumed hget hclock
    have hconsume : l₀.checkOwn c.identity none c.created c.consumed =
        l₀.checkOwn c.identity (d c.identity) c.created c.consumed := by
      cases hd : d c.identity with
      | none => rfl
      | some old =>
        have htokens := hold old hd
        rw [hconfig] at htokens
        rw [RateLimiter.checkOwn, RateLimiter.checkOwn, Option.getD_none, Option.getD_some,
          (h.config _ old hd).consume_eq hnew htokens]
    rw [hcheck, hown, hconsume]
    rw [hown, hconsume] at hself
    refine ⟨rfl, h.update hids hc hself (fun j hj b' hb' => ?_) ?_⟩
    · rw [hother j hj, Option.filter_eq_some_iff] at hb'
      exact hb'.1
    · rw [← hconsume]
      exact hnew.consume _

end Simulation

/-- Whether a call ends in a `KeyError`. -/
def IsKeyError {α : Type*} (out : Except PyErr α) : Prop :=
  ∃ msg, out = .error ⟨.otherException "KeyError", msg⟩

theorem RateLimiter.not_isKeyError_result (l : RateLimiter F) (i : Identity) (b : TokenBucket F)
    (allowed : Bool) : ¬IsKeyError (l.result i b allowed) := by
  rintro ⟨msg, h⟩
  rw [result] at h
  split at h
  · split at h
    · cases h
    · next x _ => cases x <;> simp [NonFinite.err] at h
  · simp only at h
    split at h
    · split at h
      · cases h
      · -- What the callback raises gets through only if it is no `Exception`.
        next herr => exact herr (Except.error.inj h ▸ rfl)
    · cases h

/-- As long as no dropped bucket is missed, every identity is limited as by a bucket of
    its own that is never dropped, and no check ends in a `KeyError`. -/
theorem limiter_refines_buckets (py : Python) (l : RateLimiter F) (hl : l.buckets = .empty)
    (cs : List (CheckCall F)) (hkeys : Set.InjOn (bucketKey py) {i | ∃ c ∈ cs, c.identity = i})
    (hG : ((limiter F py).par (dedicated l)).Guarded (Unmissed py) (l, fun _ => none) cs) :
    (∀ i, (limiter F py).outputsAt CheckCall.identity i l cs =
      (ownBucket l i).outputs none (cs.filter fun c => c.identity = i)) ∧
    ∀ out ∈ (limiter F py).outputs l cs, ¬IsKeyError out := by
  have hinit : Keeps py l {i | ∃ c ∈ cs, c.identity = i} l fun _ => none := {
    eq := rfl
    bucket i _ b hb := by
      rw [hl, PyDict.get?_empty] at hb
      cases hb
    config i b hb := by cases hb }
  have hG' := hG.and_forall (Q := fun c => c.identity ∈ {i | ∃ c ∈ cs, c.identity = i})
    fun c hc => ⟨c, hc, rfl⟩
  have houtputs : (limiter F py).outputs l cs = (dedicated l).outputs (fun _ => none) cs :=
    Machine.outputs_eq_of_simulation (fun _ _ _ hR hGc => hR.step hkeys hGc.2 hGc.1) hinit cs hG'
  constructor
  · intro i
    rw [Machine.outputsAt_congr _ _ houtputs]
    exact Machine.outputsAt_family (ownBucket l) CheckCall.identity i _ cs
  · intro out hout
    rw [houtputs, Machine.outputs, List.mem_map] at hout
    obtain ⟨ev, hev, rfl⟩ := hout
    obtain ⟨js, c, ks, _, rfl⟩ := Machine.exists_prefix_of_mem_events hev
    exact l.not_isKeyError_result _ _ _

namespace Sample

/-- One request at first, and then one every thousand seconds. -/
def slowConfig : RateLimitConfig ℚ := ⟨1 / 1000, 1, 60⟩

def slowLimiter : RateLimiter ℚ := ⟨slowConfig, slowConfig, slowConfig, none, .empty⟩

def limiterLib : Python := .plain
  [("agent:a1", "2ab0310e194efbc08903b989091965881926a462f56cfe361b8e1e030e64b6b9"),
    ("ip:10.0.0.1", "9192d2b445b7375ee7a1d199ebe4ba25a7e7463321fd4ae38f2ec37bcd68ab69")] ""

/-- An agent comes twice, and its address once. -/
def limiterCalls : List (CheckCall ℚ) :=
  [⟨.checkAgent "a1", 0, 0, 0⟩, ⟨.checkIp "10.0.0.1", 1, 1, 1⟩, ⟨.checkAgent "a1", 2, 2, 2⟩]

theorem limiter_refines_buckets_calls :
    ((limiter ℚ limiterLib).outputsAt CheckCall.identity ⟨.agent, "a1"⟩ slowLimiter limiterCalls =
      (ownBucket slowLimiter ⟨.agent, "a1"⟩).outputs none
        (limiterCalls.filter fun c => c.identity = ⟨.agent, "a1"⟩)) := by
  refine (limiter_refines_buckets limiterLib slowLimiter rfl limiterCalls
    (fun i hi j hj hkey => ?_) fun ev hev => ?_).1 ⟨.agent, "a1"⟩
  · obtain ⟨c, hc, rfl⟩ := hi
    obtain ⟨c', hc', rfl⟩ := hj
    have hinj : ∀ c ∈ limiterCalls, ∀ c' ∈ limiterCalls, bucketKey limiterLib c.identity =
        bucketKey limiterLib c'.identity → c.identity = c'.identity := by decide +kernel
    exact hinj c hc c' hc' hkey
  · have hcalls : ∀ ev ∈ ((limiter ℚ limiterLib).par (dedicated slowLimiter)).events
        (slowLimiter, fun _ => none) limiterCalls,
        (ev.pre.1.buckets.get? (bucketKey limiterLib ev.input.identity)).isSome ∨
          (ev.pre.2 ev.input.identity).isNone ∧ ev.pre.1.buckets.size < 10000 := by
      decide +kernel
    refine fun hget => (hcalls ev hev).elim (fun h => by simp [hget] at h) fun h => ?_
    exact ⟨fun old hold => by simp [hold] at h, fun hfull => absurd hfull (not_le.2 h.2)⟩

/-! ## A bucket that is missed -/

/-- The agents have single characters as their names. -/
def agent (n : ℕ) : Identity := ⟨.agent, String.ofList [Char.ofNat (0x4E00 + n)]⟩

def agentCheck (n : ℕ) (now : ℚ) : CheckCall ℚ :=
  ⟨.checkAgent (agent n).identifier, now, now, now⟩

theorem agent_inj {m n : ℕ} (hm : m ≤ 10000) (hn : n ≤ 10000) (h : agent m = agent n) :
    m = n := by
  have hvalid (k : ℕ) (hk : k ≤ 10000) : (Char.ofNat (0x4E00 + k)).toNat = 0x4E00 + k := by
    rw [Char.ofNat, dif_pos (.inl (by omega))]
    rfl
  have hchars := String.ofList_injective (congrArg Identity.identifier h)
  have hnat := congrArg Char.toNat (List.singleton_inj.1 hchars)
  rw [hvalid m hm, hvalid n hn] at hnat
  exact Nat.add_left_cancel hnat

theorem identity_agentCheck (n : ℕ) (now : ℚ) : (agentCheck n now).identity = agent n := rfl

/-- Five minutes after the first agent, there are ten thousand others. -/
def crowd (n : ℕ) : List (CheckCall ℚ) :=
  agentCheck 0 0 :: (List.range n).map fun m => agentCheck (m + 1) 301

/-- Then the first agent comes again. -/
def returnRun (n : ℕ) : List (CheckCall ℚ) := crowd n ++ [agentCheck 0 301]

theorem mem_tail_returnRun {n : ℕ} {c : CheckCall ℚ} (hc : c ∈ (returnRun n).tail) :
    ∃ m ≤ n, c = agentCheck m 301 := by
  rw [returnRun, crowd, List.cons_append, List.tail_cons, List.mem_append, List.mem_map,
    List.mem_singleton] at hc
  obtain ⟨m, hm, rfl⟩ | rfl := hc
  · exact ⟨m + 1, List.mem_range.1 hm, rfl⟩
  · exact ⟨0, n.zero_le, rfl⟩

theorem identity_of_mem_returnRun {n : ℕ} {c : CheckCall ℚ} (hc : c ∈ returnRun n) :
    ∃ m ≤ n, c.identity = agent m := by
  rcases List.mem_cons.1 (show c ∈ agentCheck 0 0 :: (returnRun n).tail from hc) with rfl | hc
  · exact ⟨0, n.zero_le, rfl⟩
  · obtain ⟨m, hm, rfl⟩ := mem_tail_returnRun hc
    exact ⟨m, hm, rfl⟩

theorem agent_mem_returnRun {m n : ℕ} (hm : m ≤ n) :
    agent m ∈ {i | ∃ c ∈ returnRun n, c.identity = i} := by
  cases m with
  | zero => exact ⟨agentCheck 0 0, List.mem_cons_self, rfl⟩
  | succ m =>
    refine ⟨agentCheck (m + 1) 301, List.mem_append_left _ (.tail _ ?_), rfl⟩
    exact List.mem_map.2 ⟨m, List.mem_range.2 hm, rfl⟩

/-- The clock does not run backwards. -/
theorem pairwise_returnRun (n : ℕ) :
    ((returnRun n).flatMap fun c => [c.created, c.cleaned, c.consumed]).Pairwise (· ≤ ·) := by
  have hlater (x : ℚ) (hx : x ∈ ((returnRun n).tail.flatMap
      fun c => [c.created, c.cleaned, c.consumed])) : x = 301 := by
    obtain ⟨c, hc, hx⟩ := List.mem_flatMap.1 hx
    obtain ⟨m, _, rfl⟩ := mem_tail_returnRun hc
    simpa [agentCheck] using hx
  refine List.pairwise_append.2 ⟨(by decide +kernel : [(0 : ℚ), 0, 0].Pairwise (· ≤ ·)),
    List.pairwise_of_forall_mem_list fun x hx y hy => ?_, fun x hx y hy => ?_⟩
  · rw [hlater x hx, hlater y hy]
  · have hx0 : x = 0 := by simpa [agentCheck] using hx
    rw [hx0, hlater y hy]
    decide +kernel

theorem lt_sub_self (now : ℚ) : lt (lit 300) (sub now now) = false := by
  have hself : (sub now now : ℚ) = 0 := sub_self now
  rw [hself]
  decide +kernel

/-- The first agent's bucket, after its request. -/
def spent : TokenBucket ℚ := (slowLimiter.checkOwn (agent 0) none 0 0).1

/-- The agents have different buckets. -/
def Apart (py : Python) : Prop :=
  ∀ m n, m ≤ 10000 → n ≤ 10000 → bucketKey py (agent m) = bucketKey py (agent n) → m = n

variable {py : Python}

/-- The limiter keeps the first agent's bucket, and the ones of the `n` next agents. -/
structure Crowded (py : Python) (n : ℕ) (l : RateLimiter ℚ) : Prop where
  eq : l = { slowLimiter with buckets := l.buckets }
  size : l.buckets.size = n + 1
  first : l.buckets.get? (bucketKey py (agent 0)) = some spent
  free : ∀ m, n < m → m ≤ 10000 → l.buckets.get? (bucketKey py (agent m)) = none

theorem crowded_first (hkeys : Apart py) :
    Crowded py 0 ((limiter ℚ py).run slowLimiter [agentCheck 0 0]) := by
  obtain ⟨d, hcheck, hself, hother, hsize⟩ := slowLimiter.check_of_none py (agent 0)
    0 0 0 rfl fun _ => lt_sub_self 0
  change Crowded py 0 (slowLimiter.check py (agent 0) 0 0 0).1
  rw [hcheck]
  refine ⟨rfl, hsize (by decide), hself, fun m hm hle => ?_⟩
  rw [hother _ fun h => hm.ne' (hkeys _ _ hle (by omega) h)]
  rfl

theorem Crowded.next {n : ℕ} {l : RateLimiter ℚ} (h : Crowded py n l) (hkeys : Apart py)
    (hn : n + 1 < 10000) :
    Crowded py (n + 1) ((limiter ℚ py).step l (agentCheck (n + 1) 301)).1 := by
  obtain ⟨d, hcheck, hself, hother, hsize⟩ := l.check_of_none py (agent (n + 1))
    301 301 301 (h.free (n + 1) (by omega) (by omega))
    fun hfull => absurd (h.size ▸ hfull) (by omega)
  have hkeeps (b : TokenBucket ℚ) : l.keeps 301 b = true :=
    if_neg (by rw [h.size]; omega)
  have hget (m : ℕ) (hm : m ≠ n + 1) (hle : m ≤ 10000) :
      d.get? (bucketKey py (agent m)) = l.buckets.get? (bucketKey py (agent m)) := by
    rw [hother _ fun hkey => hm (hkeys _ _ hle (by omega) hkey)]
    cases l.buckets.get? (bucketKey py (agent m)) with
    | none => rfl
    | some b => rw [Option.filter_some, if_pos (hkeeps b)]
  change Crowded py (n + 1) (l.check py (agent (n + 1)) 301 301 301).1
  rw [hcheck]
  refine ⟨by rw [h.eq], ?_, ?_, fun m hm hle => ?_⟩
  · rw [hsize (by rw [h.size]; omega), h.size]
  · rw [hget 0 (by omega) (by omega), h.first]
  · rw [hget m (by omega) hle, h.free m (by omega) hle]

theorem crowded_crowd (hkeys : Apart py) {n : ℕ} (hn : n < 10000) :
    Crowded py n ((limiter ℚ py).run slowLimiter (crowd n)) := by
  induction n with
  | zero => exact crowded_first hkeys
  | succ n ih =>
    rw [crowd, List.range_succ, List.map_append, ← List.cons_append, Machine.run_append]
    exact (ih (by omega)).next hkeys hn

/-- The limiter has no bucket of the first agent. -/
structure Forgetful (py : Python) (l : RateLimiter ℚ) : Prop where
  eq : l = { slowLimiter with buckets := l.buckets }
  first : l.buckets.get? (bucketKey py (agent 0)) = none

/-- One agent more is too many: the first agent's bucket is dropped. -/
theorem forgetful_crowd (hkeys : Apart py) {n : ℕ} (hn : n + 1 = 10000) :
    Forgetful py ((limiter ℚ py).run slowLimiter (crowd (n + 1))) := by
  rw [crowd, List.range_succ, List.map_append, ← List.cons_append, Machine.run_append]
  have h := crowded_crowd hkeys (n := n) (by omega)
  rw [crowd] at h
  generalize (limiter ℚ py).run slowLimiter _ = l at h ⊢
  obtain ⟨d, hcheck, _, hother, _⟩ := l.check_of_none py (agent (n + 1))
    301 301 301 (h.free (n + 1) (by omega) (by omega))
    fun _ => lt_sub_self 301
  have hstale : l.keeps 301 spent = false :=
    (if_pos (by rw [h.size]; omega)).trans (by decide +kernel)
  have hne : bucketKey py (agent 0) ≠ bucketKey py (agent (n + 1)) := fun hkey =>
    n.succ_ne_zero (hkeys _ _ (by omega) (by omega) hkey).symm
  change Forgetful py (l.check py (agent (n + 1)) 301 301 301).1
  rw [hcheck]
  refine ⟨by rw [h.eq], ?_⟩
  rw [hother _ hne, h.first, Option.filter_some, hstale]
  rfl

theorem Forgetful.output {l : RateLimiter ℚ} (h : Forgetful py l) :
    ((limiter ℚ py).step l (agentCheck 0 301)).2.toOption.map RateLimitResult.allowed =
      some true := by
  obtain ⟨_, hcheck, _⟩ := l.check_of_none py (agent 0) 301 301 301
    h.first fun _ => lt_sub_self 301
  change (l.check py (agent 0) 301 301 301).2.toOption.map RateLimitResult.allowed = some true
  rw [hcheck, h.eq]
  change (slowLimiter.checkOwn (agent 0) none 301 301).2.toOption.map RateLimitResult.allowed =
    some true
  decide +kernel

/-- The decisions on the first agent's requests, with a bucket of its own. -/
theorem outputs_ownBucket {n : ℕ} (hn : n ≤ 10000) :
    ((ownBucket slowLimiter (agent 0)).outputs none
      ((returnRun n).filter fun c => c.identity = agent 0)).map
        (fun out => out.toOption.map RateLimitResult.allowed) = [some true, some false] := by
  have hcrowd : ((List.range n).map fun m => agentCheck (m + 1) 301).filter
      (fun c => c.identity = agent 0) = [] := by
    refine List.filter_eq_nil_iff.2 fun c hc hid => ?_
    obtain ⟨m, hm, rfl⟩ := List.mem_map.1 hc
    have hlt := List.mem_range.1 hm
    exact m.succ_ne_zero (agent_inj (by omega) (by omega) (of_decide_eq_true hid))
  rw [returnRun, crowd, List.filter_append, List.filter_cons_of_pos (by decide), hcrowd,
    List.filter_cons_of_pos (by decide)]
  decide +kernel

/-- A library in which a text is its own hash. -/
def idLib : Python := { Python.plain [] "" with sha256 := id }

theorem toList_bucketKey_idLib (n : ℕ) : (bucketKey idLib (agent n)).toList =
    "agent:".toList ++ (agent n).identifier.toList := by
  change (String.ofList (("agent" ++ ":" ++ (agent n).identifier).toList.take 16)).toList = _
  rw [String.toList_ofList, String.toList_append, agent, String.toList_ofList]
  rfl

/-- The first agent is admitted again, although its bucket would still be empty. -/
theorem not_limiter_refines_buckets :
    ((returnRun 10000).flatMap fun c => [c.created, c.cleaned, c.consumed]).Pairwise (· ≤ ·) ∧
    Set.InjOn (bucketKey idLib) {i | ∃ c ∈ returnRun 10000, c.identity = i} ∧
    ∀ py : Python, Set.InjOn (bucketKey py) {i | ∃ c ∈ returnRun 10000, c.identity = i} →
      (limiter ℚ py).outputsAt CheckCall.identity (agent 0) slowLimiter (returnRun 10000) ≠
        (ownBucket slowLimiter (agent 0)).outputs none
          ((returnRun 10000).filter fun c => c.identity = agent 0) := by
  refine ⟨pairwise_returnRun 10000, fun i hi j hj hkey => ?_, fun py hinj h => ?_⟩
  · obtain ⟨c, hc, rfl⟩ := hi
    obtain ⟨c', hc', rfl⟩ := hj
    obtain ⟨m, -, hi⟩ := identity_of_mem_returnRun hc
    obtain ⟨n, -, hj⟩ := identity_of_mem_returnRun hc'
    rw [hi, hj] at hkey ⊢
    have hlist := congrArg String.toList hkey
    rw [toList_bucketKey_idLib, toList_bucketKey_idLib] at hlist
    exact congrArg (Identity.mk .agent) (String.toList_injective (List.append_cancel_left hlist))
  · have hkeys : Apart py := fun m n hm hn hkey => agent_inj hm hn
      (hinj (agent_mem_returnRun hm) (agent_mem_returnRun hn) hkey)
    have hown := outputs_ownBucket (n := 10000) (le_refl _)
    rw [← h, returnRun, Machine.outputsAt_append, List.map_append, Machine.outputsAt_cons,
      identity_agentCheck, if_pos rfl, List.map_cons,
      (forgetful_crowd hkeys (n := 9999) rfl).output] at hown
    have hlast := congrArg List.getLast? hown
    rw [List.getLast?_append_of_ne_nil _ (List.cons_ne_nil _ _)] at hlast
    cases hlast

end Sample

end VibeShield
