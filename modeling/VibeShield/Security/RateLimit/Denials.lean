import VibeShield.Security.RateLimit.Bucket
import VibeShield.Security.RateLimit.CheckAll

/-!
# What a denied request costs

The checks of `check_all` take their tokens one after the other, and none is given back if a later
or an earlier check is denied. So a request costs nobody a token exactly if none of its checks
takes one (`CostsNothing`, `costsNothing_iff`): if it is denied, in all scopes at once.

Requests that take no token do not change the answers to others, as long as they find their
buckets and no bucket is cleaned up (`checkAll_denial_free_iff`). The buckets may then differ, but
not after the next refill (`Alike`).

`Sample` is an agent that uses up the tokens of all by requests that are denied.
-/

namespace VibeShield

variable {F : Type*} [PyNum F]

open PyArith PyNum

/-! ## A call -/

namespace RateLimiter

variable (py : Python) (l : RateLimiter F) (c : CheckCall F)

/-- Whether a check takes a token: there is one, and without it there are fewer. -/
def TakesToken : Prop :=
  let tokens := ((l.bucketFor py c.identity c.created).refill c.consumed).tokens
  le (lit 1) tokens = true ∧ sub tokens (lit 1) ≠ tokens

instance [DecidableEq F] : Decidable (l.TakesToken py c) := inferInstanceAs (Decidable (_ ∧ _))

/-- The limiter after the bucket of a check has been refilled, and no token taken. -/
def refillOnly : RateLimiter F :=
  match l.getBucket (bucketKey py c.identity) (l.config c.identity.scope) c.created c.cleaned with
  | (l, .error _) => l
  | (l, .ok b) =>
    { l with buckets := l.buckets.set (bucketKey py c.identity) (b.refill c.consumed) }

end RateLimiter

/-- A call costs nobody a token: each check leaves the refilled amount in its bucket, and after
    the call all buckets are as if they had only been refilled. -/
structure CostsNothing (py : Python) (l : RateLimiter F) (c : CheckAllCall F) : Prop where
  each : ∀ ev ∈ (limiter F py).events l c.checks, ev.post = ev.pre.refillOnly py ev.input
  final : (l.checkAll py c).1 = c.checks.foldl (fun l check => l.refillOnly py check) l

namespace TokenBucket

variable {b : TokenBucket F} {now : F}

/-- A bucket is left with its refilled amount exactly if no token is taken. -/
theorem consume_eq_refill_iff : (b.consume now).1 = b.refill now ↔
    ¬(le (lit 1) (b.refill now).tokens = true ∧
      sub (b.refill now).tokens (lit 1) ≠ (b.refill now).tokens) := by
  have hconsume : (b.consume now).1 = if le (lit 1) (b.refill now).tokens then
      { b.refill now with tokens := sub (b.refill now).tokens (lit 1) } else b.refill now := by
    rw [consume]
    dsimp only
    split <;> rfl
  rw [hconsume, not_and, not_not]
  by_cases hle : le (lit 1) (b.refill now).tokens = true
  · rw [if_pos hle]
    refine ⟨fun h _ => congrArg TokenBucket.tokens h, fun h => ?_⟩
    exact congrArg (fun t => { b.refill now with tokens := t }) (h hle)
  · exact iff_of_true (if_neg hle) fun h => absurd h hle

end TokenBucket

section Call

variable {py : Python} {l : RateLimiter F} {c : CheckCall F} {cs : List (CheckCall F)}

/-- A check with a result only refills its bucket exactly if it does not take a token. -/
theorem fst_check_eq_refillOnly_iff {r : RateLimitResult F}
    (h : (l.check py c.identity c.created c.cleaned c.consumed).2 = .ok r) :
    (l.check py c.identity c.created c.cleaned c.consumed).1 = l.refillOnly py c ↔
      ¬l.TakesToken py c := by
  rw [RateLimiter.check] at h ⊢
  rw [RateLimiter.refillOnly]
  obtain ⟨d, _, ⟨err, heq, _⟩ | heq⟩ := l.getBucket_cases (bucketKey py c.identity)
    (l.config c.identity.scope) c.created c.cleaned
  · rw [heq] at h
    cases h
  · rw [heq, RateLimiter.TakesToken, RateLimiter.bucketFor, ← TokenBucket.consume_eq_refill_iff]
    refine ⟨fun hset => ?_, fun hconsume => ?_⟩
    · have hget := congrArg (fun l : RateLimiter F => l.buckets.get? (bucketKey py c.identity)) hset
      dsimp only at hget
      rw [PyDict.get?_set, PyDict.get?_set, if_pos rfl, if_pos rfl] at hget
      exact Option.some.inj hget
    · dsimp only
      rw [hconsume]

/-- If the checks have results, they have all been made. -/
theorem fst_checkEach_of_ok {rs : List (RateLimitResult F)}
    (h : (limiter F py).outputs l cs = rs.map .ok) :
    (l.checkEach py cs).1 = (limiter F py).run l cs := by
  induction cs generalizing l rs with
  | nil => rfl
  | cons c cs ih =>
    obtain ⟨r, rs, rfl, hr, hrs⟩ := List.map_eq_cons_iff.1 h.symm
    have hr : (l.check py c.identity c.created c.cleaned c.consumed).2 = .ok r := hr.symm
    have hrest := ih hrs.symm
    change (((l.check py c.identity c.created c.cleaned c.consumed).1.checkEach py cs).1 =
      (limiter F py).run (l.check py c.identity c.created c.cleaned c.consumed).1 cs) at hrest
    rw [RateLimiter.checkEach]
    change _ = (limiter F py).run (l.check py c.identity c.created c.cleaned c.consumed).1 cs
    generalize l.check py c.identity c.created c.cleaned c.consumed = step at hr hrest ⊢
    obtain ⟨l', out⟩ := step
    obtain rfl : out = .ok r := hr
    rw [← hrest]
    dsimp only
    obtain ⟨l'', _ | rs⟩ := l'.checkEach py cs <;> rfl

theorem fst_checkAll (l : RateLimiter F) (py : Python) (c : CheckAllCall F) :
    (l.checkAll py c).1 = (l.checkEach py c.checks).1 := by
  rw [RateLimiter.checkAll]
  obtain ⟨l', _ | results⟩ := l.checkEach py c.checks <;> rfl

/-- A call with a result has results of all its checks. -/
theorem exists_outputs_of_checkAll_eq_ok {c : CheckAllCall F} {r : RateLimitResult F}
    (h : (l.checkAll py c).2 = .ok r) :
    ∃ rs : List (RateLimitResult F), (limiter F py).outputs l c.checks = rs.map .ok := by
  rcases exists_error_or_eq_map_ok ((limiter F py).outputs l c.checks) with ⟨err, herr⟩ | hrs
  · obtain ⟨err', heq⟩ := snd_checkEach_of_error herr
    rw [snd_checkAll, heq] at h
    cases h
  · exact hrs

/-- Checks that only refill lead to where refills lead. -/
theorem run_eq_foldl_refillOnly
    (h : ∀ ev ∈ (limiter F py).events l cs, ev.post = ev.pre.refillOnly py ev.input) :
    (limiter F py).run l cs = cs.foldl (fun l check => l.refillOnly py check) l := by
  induction cs generalizing l with
  | nil => rfl
  | cons c cs ih =>
    have hfirst : ((limiter F py).step l c).1 = l.refillOnly py c := h _ List.mem_cons_self
    have hrest := ih fun ev hev => h ev (List.mem_cons_of_mem _ hev)
    rw [hfirst] at hrest
    rw [List.foldl_cons, ← hrest, ← hfirst]
    rfl

/-- A call that is answered costs nobody a token exactly if no check takes one. -/
theorem costsNothing_iff {c : CheckAllCall F} {r : RateLimitResult F}
    (h : (l.checkAll py c).2 = .ok r) : CostsNothing py l c ↔
      ∀ ev ∈ (limiter F py).events l c.checks, ¬ev.pre.TakesToken py ev.input := by
  obtain ⟨rs, hrs⟩ := exists_outputs_of_checkAll_eq_ok h
  have heach (ev) (hev : ev ∈ (limiter F py).events l c.checks) :
      ev.post = ev.pre.refillOnly py ev.input ↔ ¬ev.pre.TakesToken py ev.input := by
    have hout : ev.output ∈ rs.map .ok := hrs ▸ List.mem_map_of_mem hev
    obtain ⟨r, _, hr⟩ := List.mem_map.1 hout
    obtain ⟨js, check, ks, _, rfl⟩ := Machine.exists_prefix_of_mem_events hev
    exact fst_check_eq_refillOnly_iff hr.symm
  refine ⟨fun h ev hev => (heach ev hev).1 (h.each ev hev), fun h => ?_⟩
  have hrefill := fun ev hev => (heach ev hev).2 (h ev hev)
  refine ⟨hrefill, ?_⟩
  rw [fst_checkAll, fst_checkEach_of_ok hrs]
  exact run_eq_foldl_refillOnly hrefill

end Call

/-! ## Requests that are left out -/

/-- A request, which may be one of those that are left out in another run. -/
structure MarkedCall (F : Type*) where
  extra : Bool
  call : CheckAllCall F

/-- The readings of the clock when tokens are consumed. -/
def MarkedCall.readings (q : MarkedCall F) : List F := q.call.checks.map CheckCall.consumed

/-- The limiter as a machine that checks all limits. -/
def allScopes (F : Type*) [PyNum F] (py : Python) :
    Machine (RateLimiter F) (MarkedCall F) (Except PyErr (RateLimitResult F)) where
  step l q := l.checkAll py q.call

/-- A refill in between makes no difference to later ones. In exact arithmetic, none does if the
    clock does not go back. -/
def TokenBucket.Steady (b : TokenBucket F) (now : F) : Prop :=
  ∀ later, le now later = true → (b.refill now).refill later = b.refill later

/-- A request finds the buckets of its checks, and takes no token. -/
def Unnoticed (py : Python) (l : RateLimiter F) (c : CheckAllCall F) : Prop :=
  ∀ ev ∈ (limiter F py).events l c.checks, ¬ev.pre.TakesToken py ev.input ∧
    ∃ b, ev.pre.buckets.get? (bucketKey py ev.input.identity) = some b ∧ b.Steady ev.input.consumed

theorem steady_rat {b : TokenBucket ℚ} (hrate : 0 ≤ b.rate) (now : ℚ) : b.Steady now := by
  intro later hlater
  have hflow : 0 ≤ (later - now) * b.rate :=
    mul_nonneg (sub_nonneg.2 (of_decide_eq_true hlater)) hrate
  have htokens : ((b.refill now).refill later).tokens = (b.refill later).tokens := by
    rw [TokenBucket.tokens_refill, TokenBucket.tokens_refill, TokenBucket.tokens_refill]
    change min b.maxTokens (min b.maxTokens (b.tokens + (now - b.lastRefill) * b.rate) +
      (later - now) * b.rate) = _
    rw [min_add, ← min_assoc, min_eq_left (le_add_of_nonneg_right hflow)]
    congr 1
    ring
  exact congrArg (fun t => { b.refill later with tokens := t }) htokens

/-- There is room for the new buckets of a request, so none is cleaned up. -/
def HasRoom (py : Python) (l : RateLimiter F) (c : CheckAllCall F) : Prop :=
  ∀ ev ∈ (limiter F py).events l c.checks,
    ev.pre.buckets.get? (bucketKey py ev.input.identity) = none → ev.pre.buckets.size < 10000

/-- Buckets that do not differ any more after a refill at one of these readings. -/
def Alike (nows : List F) (b b' : TokenBucket F) : Prop :=
  ∀ now ∈ nows, b.refill now = b'.refill now

/-- Limiters with buckets that are alike. -/
structure SameLimits (nows : List F) (l l' : RateLimiter F) : Prop where
  eq : l' = { l with buckets := l'.buckets }
  size : l'.buckets.size = l.buckets.size
  get? : ∀ key, Option.Rel (Alike nows) (l.buckets.get? key) (l'.buckets.get? key)

theorem SameLimits.refl (nows : List F) (l : RateLimiter F) : SameLimits nows l l where
  eq := rfl
  size := rfl
  get? key := by
    cases l.buckets.get? key with
    | none => exact .none
    | some b => exact .some fun _ _ => rfl

section Requests

variable {py : Python} {l l' : RateLimiter F} {nows nows' : List F} {c : CheckCall F}
  {cs : List (CheckCall F)}

theorem SameLimits.mono (h : SameLimits nows l l') (hsub : nows' ⊆ nows) :
    SameLimits nows' l l' where
  eq := h.eq
  size := h.size
  get? key := by
    have hkey := h.get? key
    generalize l.buckets.get? key = b, l'.buckets.get? key = b' at hkey
    cases hkey with
    | none => exact .none
    | some halike => exact .some fun now hnow => halike now (hsub hnow)

/-- With room for a new bucket, a check changes the bucket of its key only. -/
theorem check_of_room (h : l.buckets.get? (bucketKey py c.identity) = none →
      l.buckets.size < 10000) :
    ∃ d : PyDict String (TokenBucket F),
      l.check py c.identity c.created c.cleaned c.consumed = ({ l with buckets := d },
        l.result c.identity ((l.bucketFor py c.identity c.created).consume c.consumed).1
          ((l.bucketFor py c.identity c.created).consume c.consumed).2) ∧
      d.size = l.buckets.size +
        (if (l.buckets.get? (bucketKey py c.identity)).isSome then 0 else 1) ∧
      ∀ key, d.get? key = if key = bucketKey py c.identity then
        some ((l.bucketFor py c.identity c.created).consume c.consumed).1
        else l.buckets.get? key := by
  cases hget : l.buckets.get? (bucketKey py c.identity) with
  | some b =>
    have hb : l.bucketFor py c.identity c.created = b := by
      rw [RateLimiter.bucketFor, hget, Option.getD_some]
    rw [hb]
    refine ⟨_, l.check_of_some py c.identity _ _ _ hget, ?_, fun key => PyDict.get?_set _ _ _ _⟩
    rw [PyDict.size_set, hget]
    rfl
  | none =>
    have hroom := h hget
    have hb : l.bucketFor py c.identity c.created =
        .new (l.config c.identity.scope) c.created := by
      rw [RateLimiter.bucketFor, hget, Option.getD_none]
    rw [hb]
    obtain ⟨d, heq, hnew, hother, hsize⟩ := l.check_of_none py c.identity c.created c.cleaned
      c.consumed hget fun hfull => absurd hroom (not_lt.2 hfull)
    refine ⟨d, heq, hsize hroom, fun key => ?_⟩
    by_cases hkey : key = bucketKey py c.identity
    · rw [if_pos hkey, hkey]
      exact hnew
    · have hkeeps (b : TokenBucket F) : l.keeps c.cleaned b = true := if_neg (not_le.2 hroom)
      rw [if_neg hkey, hother key hkey]
      cases l.buckets.get? key with
      | none => rfl
      | some b => rw [Option.filter_some, if_pos (hkeeps b)]

theorem SameLimits.config_eq (h : SameLimits nows l l') (s : RateLimitScope) :
    l'.config s = l.config s := by
  rw [h.eq]
  cases s <;> rfl

theorem SameLimits.result_eq (h : SameLimits nows l l') (i : Identity) (b : TokenBucket F)
    (allowed : Bool) : l'.result i b allowed = l.result i b allowed := by
  rw [h.eq]
  rfl

/-- A check of limiters with alike buckets finds the same tokens in them. -/
theorem SameLimits.consume_eq (h : SameLimits nows l l') (hnow : c.consumed ∈ nows) :
    (l'.bucketFor py c.identity c.created).consume c.consumed =
      (l.bucketFor py c.identity c.created).consume c.consumed := by
  have hrefill : (l'.bucketFor py c.identity c.created).refill c.consumed =
      (l.bucketFor py c.identity c.created).refill c.consumed := by
    rw [RateLimiter.bucketFor, RateLimiter.bucketFor, h.config_eq]
    have hkey := h.get? (bucketKey py c.identity)
    generalize l.buckets.get? _ = b, l'.buckets.get? _ = b' at hkey
    cases hkey with
    | none => rfl
    | some halike => exact (halike _ hnow).symm
  rw [TokenBucket.consume, TokenBucket.consume, hrefill]

/-- A check answers alike, and leaves the buckets alike. -/
theorem SameLimits.check (h : SameLimits nows l l') (hnow : c.consumed ∈ nows)
    (hroom : l.buckets.get? (bucketKey py c.identity) = none → l.buckets.size < 10000) :
    (l'.check py c.identity c.created c.cleaned c.consumed).2 =
        (l.check py c.identity c.created c.cleaned c.consumed).2 ∧
      SameLimits nows (l.check py c.identity c.created c.cleaned c.consumed).1
        (l'.check py c.identity c.created c.cleaned c.consumed).1 := by
  have hsome : (l'.buckets.get? (bucketKey py c.identity)).isSome =
      (l.buckets.get? (bucketKey py c.identity)).isSome := by
    have hkey := h.get? (bucketKey py c.identity)
    generalize l.buckets.get? _ = b, l'.buckets.get? _ = b' at hkey
    cases hkey <;> rfl
  obtain ⟨d, heq, hsize, hget⟩ := check_of_room hroom
  have hroom' : l'.buckets.get? (bucketKey py c.identity) = none → l'.buckets.size < 10000 := by
    intro hnone
    rw [h.size]
    refine hroom (Option.isSome_eq_false_iff.1 ?_ |> Option.isNone_iff_eq_none.1)
    rw [← hsome, hnone]
    rfl
  obtain ⟨d', heq', hsize', hget'⟩ := check_of_room hroom'
  rw [heq, heq', h.consume_eq hnow, h.result_eq]
  refine ⟨rfl, ?_, ?_, fun key => ?_⟩
  · dsimp only
    rw [h.eq]
  · dsimp only
    rw [hsize, hsize', hsome, h.size]
  · dsimp only
    rw [hget, hget', h.consume_eq hnow]
    split
    · exact .some fun _ _ => rfl
    · exact h.get? key

/-- A check that is left out takes no token from a bucket that is there, so the buckets stay
    alike. -/
theorem SameLimits.check_left (h : SameLimits nows l l') {b : TokenBucket F}
    (hget : l.buckets.get? (bucketKey py c.identity) = some b) (htakes : ¬l.TakesToken py c)
    (hsteady : ∀ now ∈ nows, (b.refill c.consumed).refill now = b.refill now) :
    SameLimits nows (l.check py c.identity c.created c.cleaned c.consumed).1 l' := by
  have hb : l.bucketFor py c.identity c.created = b := by
    rw [RateLimiter.bucketFor, hget, Option.getD_some]
  rw [RateLimiter.TakesToken, hb, ← TokenBucket.consume_eq_refill_iff] at htakes
  rw [l.check_of_some py c.identity _ _ _ hget, htakes]
  refine ⟨h.eq, ?_, fun key => ?_⟩
  · dsimp only
    rw [h.size, PyDict.size_set, hget]
    rfl
  · dsimp only
    rw [PyDict.get?_set]
    have hkey := h.get? key
    by_cases hself : key = bucketKey py c.identity
    · rw [if_pos hself]
      rw [hself, hget] at hkey
      rw [hself]
      generalize l'.buckets.get? _ = b' at hkey
      cases hkey with
      | some halike => exact .some fun now hnow => (hsteady now hnow).trans (halike now hnow)
    · rw [if_neg hself]
      exact hkey

/-- The checks of a request answer alike, and leave the buckets alike. -/
theorem SameLimits.checkEach (h : SameLimits nows l l') (hnows : ∀ c ∈ cs, c.consumed ∈ nows)
    (hroom : ∀ ev ∈ (limiter F py).events l cs,
      ev.pre.buckets.get? (bucketKey py ev.input.identity) = none → ev.pre.buckets.size < 10000) :
    (l'.checkEach py cs).2 = (l.checkEach py cs).2 ∧
      SameLimits nows (l.checkEach py cs).1 (l'.checkEach py cs).1 := by
  induction cs generalizing l l' with
  | nil => exact ⟨rfl, h⟩
  | cons c cs ih =>
    have hfirst : l.buckets.get? (bucketKey py c.identity) = none → l.buckets.size < 10000 :=
      hroom ((limiter F py).event l c) List.mem_cons_self
    obtain ⟨hout, hnext⟩ := h.check (hnows c List.mem_cons_self) hfirst
    have hrest := ih hnext (fun c hc => hnows c (List.mem_cons_of_mem _ hc))
      fun ev hev => hroom ev (List.mem_cons_of_mem _ hev)
    rw [RateLimiter.checkEach, RateLimiter.checkEach]
    generalize l.check py c.identity c.created c.cleaned c.consumed = step,
      l'.check py c.identity c.created c.cleaned c.consumed = step' at hout hnext hrest
    obtain ⟨m, out⟩ := step
    obtain ⟨m', out'⟩ := step'
    obtain rfl : out' = out := hout
    cases out' with
    | error err => exact ⟨rfl, hnext⟩
    | ok r =>
      dsimp only at hrest ⊢
      generalize m.checkEach py cs = rest, m'.checkEach py cs = rest' at hrest ⊢
      obtain ⟨n, outs⟩ := rest
      obtain ⟨n', outs'⟩ := rest'
      obtain ⟨houts, hlast⟩ := hrest
      obtain rfl : outs' = outs := houts
      cases outs' <;> exact ⟨rfl, hlast⟩

/-- If a request that takes no token is left out, the buckets stay alike. -/
theorem SameLimits.checkEach_left (h : SameLimits nows l l')
    (hcs : ∀ ev ∈ (limiter F py).events l cs, ¬ev.pre.TakesToken py ev.input ∧
      ∃ b, ev.pre.buckets.get? (bucketKey py ev.input.identity) = some b ∧
        ∀ now ∈ nows, (b.refill ev.input.consumed).refill now = b.refill now) :
    SameLimits nows (l.checkEach py cs).1 l' := by
  induction cs generalizing l with
  | nil => exact h
  | cons c cs ih =>
    obtain ⟨htakes, b, hget, hsteady⟩ := hcs ((limiter F py).event l c) List.mem_cons_self
    have hnext : SameLimits nows (l.check py c.identity c.created c.cleaned c.consumed).1 l' :=
      h.check_left hget htakes hsteady
    have hrest : SameLimits nows ((l.check py c.identity c.created c.cleaned
        c.consumed).1.checkEach py cs).1 l' :=
      ih hnext fun ev hev => hcs ev (List.mem_cons_of_mem _ hev)
    rw [RateLimiter.checkEach]
    generalize l.check py c.identity c.created c.cleaned c.consumed = step at hnext hrest
    obtain ⟨m, _ | r⟩ := step
    · exact hnext
    · dsimp only at hrest ⊢
      generalize m.checkEach py cs = rest at hrest ⊢
      obtain ⟨n, _ | rs⟩ := rest <;> exact hrest

end Requests

/-- A denied call costs nobody a token exactly if none of its checks takes one. Requests that take
    no token, from buckets that are there, do not change the answers to the other ones, as long as
    there is room for new buckets. -/
theorem checkAll_denial_free_iff (py : Python) (l : RateLimiter F) :
    (∀ c r, (l.checkAll py c).2 = .ok r → r.allowed = false →
      (CostsNothing py l c ↔
        ∀ ev ∈ (limiter F py).events l c.checks, ¬ev.pre.TakesToken py ev.input)) ∧
    ∀ qs : List (MarkedCall F),
      (qs.flatMap MarkedCall.readings).Pairwise (fun now later => le now later = true) →
      (allScopes F py).Guarded (fun l q => HasRoom py l q.call ∧
        (q.extra = true → Unnoticed py l q.call)) l qs →
      (allScopes F py).observed (fun q => !q.extra) l qs =
        (allScopes F py).observed (fun q => !q.extra) l (qs.filter fun q => !q.extra) := by
  refine ⟨fun c r h _ => costsNothing_iff h, fun qs hqs hG => ?_⟩
  have hreadings (q : MarkedCall F) (qs : List (MarkedCall F)) :
      (q :: qs).flatMap MarkedCall.readings = q.readings ++ qs.flatMap MarkedCall.readings :=
    List.flatMap_cons
  refine Machine.observed_eq_filter_of_guarded
    (R := fun qs l l' => (qs.flatMap MarkedCall.readings).Pairwise
      (fun now later => le now later = true) ∧ SameLimits (qs.flatMap MarkedCall.readings) l l')
    (fun l l' q qs hlow hq hR => ?_) (fun l l' q qs hhigh hq hR => ?_) ⟨hqs, .refl _ l⟩ hG
  · obtain ⟨hqs, hsame⟩ := hR
    rw [hreadings] at hqs hsame
    have hconsumed : ∀ c ∈ q.call.checks,
        c.consumed ∈ q.readings ++ qs.flatMap MarkedCall.readings :=
      fun c hc => List.mem_append_left _ (List.mem_map_of_mem hc)
    obtain ⟨hout, hnext⟩ := hsame.checkEach hconsumed hq.1
    refine ⟨?_, (List.pairwise_append.1 hqs).2.1, ?_⟩
    · change (l.checkAll py q.call).2 = (l'.checkAll py q.call).2
      rw [snd_checkAll, snd_checkAll, hout]
    · change SameLimits _ (l.checkAll py q.call).1 (l'.checkAll py q.call).1
      rw [fst_checkAll, fst_checkAll]
      exact hnext.mono (List.subset_append_right _ _)
  · obtain ⟨hqs, hsame⟩ := hR
    rw [hreadings] at hqs hsame
    obtain ⟨_, hrest, horder⟩ := List.pairwise_append.1 hqs
    refine ⟨hrest, ?_⟩
    change SameLimits _ (l.checkAll py q.call).1 l'
    rw [fst_checkAll]
    refine (hsame.mono (List.subset_append_right _ _)).checkEach_left fun ev hev => ?_
    obtain ⟨htakes, b, hget, hsteady⟩ := hq.2 (by simpa using hhigh) ev hev
    refine ⟨htakes, b, hget, fun now hnow => hsteady now (horder _ ?_ now hnow)⟩
    exact List.mem_map_of_mem (Machine.input_mem_of_mem_events hev)

namespace Sample

def floodLib : Python := .plain
  [("agent:a1", "2ab0310e194efbc0"), ("agent:b1", "4da87fb29fe1da1b"),
    ("ip:10.0.0.1", "9192d2b445b7375e"), ("ip:10.0.0.2", "41b4c2e54b064c66"),
    ("global:_", "5b61f4344a541c5a")] ""

/-- A request of an agent from an address. -/
def requestFrom (agentId ipAddress : String) (now : ℚ) : CheckAllCall ℚ :=
  ⟨some agentId, some ipAddress, ⟨now, now, now⟩, ⟨now, now, now⟩, ⟨now, now, now⟩⟩

/-- One request for an agent, and three for all together. -/
def floodLimiter : RateLimiter ℚ :=
  ⟨⟨1 / 1000, 1, 60⟩, ⟨10, 10, 60⟩, ⟨1 / 1000, 3, 60⟩, none, .empty⟩

/-- After a first request, an agent sends two more, and then another agent sends one from another
    address. -/
def floodRun : List (MarkedCall ℚ) :=
  [⟨false, requestFrom "a1" "10.0.0.1" 0⟩, ⟨true, requestFrom "a1" "10.0.0.1" 0⟩,
    ⟨true, requestFrom "a1" "10.0.0.1" 0⟩, ⟨false, requestFrom "b1" "10.0.0.2" 0⟩]

/-- The limiter after the first request. -/
def floodStart : RateLimiter ℚ :=
  (floodLimiter.checkAll floodLib (requestFrom "a1" "10.0.0.1" 0)).1

/-- The further requests are denied, but take the tokens of all, and so the other agent's request is
    denied as well. -/
theorem denied_request_costs :
    (floodStart.checkAll floodLib (requestFrom "a1" "10.0.0.1" 0)).2 =
      .ok ⟨false, 1000, 0, 1, "agent"⟩ ∧
    ¬CostsNothing floodLib floodStart (requestFrom "a1" "10.0.0.1" 0) ∧
    (allScopes ℚ floodLib).observed (fun q => !q.extra) floodLimiter floodRun ≠
      (allScopes ℚ floodLib).observed (fun q => !q.extra) floodLimiter
        (floodRun.filter fun q => !q.extra) := by
  refine ⟨by decide +kernel, fun h => ?_, fun h => ?_⟩
  · have htokens := congrArg (fun l : RateLimiter ℚ =>
      (l.buckets.get? (bucketKey floodLib ⟨.global, "_"⟩)).map TokenBucket.tokens) h.final
    exact absurd htokens (by decide +kernel)
  · have hallowed := congrArg (List.map fun p : MarkedCall ℚ × Except PyErr (RateLimitResult ℚ) =>
      p.2.toOption.map RateLimitResult.allowed) h
    exact absurd hallowed (by decide +kernel)

/-- A request a second, for each agent and address and for all together. -/
def tightLimiter : RateLimiter ℚ := ⟨⟨1, 1, 60⟩, ⟨1, 1, 60⟩, ⟨1, 1, 60⟩, none, .empty⟩

/-- The agent's second request is denied in all scopes. -/
def tightRun : List (MarkedCall ℚ) :=
  [⟨false, requestFrom "a1" "10.0.0.1" 0⟩, ⟨true, requestFrom "a1" "10.0.0.1" 0⟩,
    ⟨false, requestFrom "b1" "10.0.0.2" 1⟩]

def tightStart : RateLimiter ℚ :=
  (tightLimiter.checkAll floodLib (requestFrom "a1" "10.0.0.1" 0)).1

theorem denied_request_free :
    CostsNothing floodLib tightStart (requestFrom "a1" "10.0.0.1" 0) ∧
    (allScopes ℚ floodLib).observed (fun q => !q.extra) tightLimiter tightRun =
      (allScopes ℚ floodLib).observed (fun q => !q.extra) tightLimiter
        (tightRun.filter fun q => !q.extra) := by
  constructor
  · have hdenied : (tightStart.checkAll floodLib (requestFrom "a1" "10.0.0.1" 0)).2 =
        .ok ⟨false, 1, 0, 1, "agent"⟩ := by decide +kernel
    exact ((checkAll_denial_free_iff floodLib tightStart).1 _ _ hdenied rfl).2 (by decide +kernel)
  · refine (checkAll_denial_free_iff floodLib tightLimiter).2 tightRun (by decide +kernel)
      fun req hreq => ?_
    have hchecks : ∀ req ∈ (allScopes ℚ floodLib).events tightLimiter tightRun,
        ∀ ev ∈ (limiter ℚ floodLib).events req.pre req.input.call.checks,
          ev.pre.buckets.size < 10000 ∧ (req.input.extra = true →
            ¬ev.pre.TakesToken floodLib ev.input ∧
            (ev.pre.buckets.get? (bucketKey floodLib ev.input.identity)).isSome ∧
            (ev.pre.buckets.get? (bucketKey floodLib ev.input.identity)).all
              fun b => decide (0 ≤ b.rate)) := by
      decide +kernel
    refine ⟨fun ev hev _ => (hchecks req hreq ev hev).1, fun hextra ev hev => ?_⟩
    obtain ⟨htakes, hsome, hrate⟩ := (hchecks req hreq ev hev).2 hextra
    obtain ⟨b, hb⟩ := Option.isSome_iff_exists.1 hsome
    rw [hb] at hrate
    exact ⟨htakes, b, hb, steady_rat (of_decide_eq_true hrate) _⟩

end Sample

end VibeShield
