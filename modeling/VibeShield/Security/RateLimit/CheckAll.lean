import VibeShield.Security.RateLimit.Eviction

/-!
# Checking all scopes

The agent, the address and all requests together are checked in turn, as far as they are given,
and the most restrictive result is to be returned (`ReportsMostRestrictive`). If no check is
denied, it is, as the one with the fewest requests remaining. Otherwise the first result that is
denied is returned. It is the most restrictive one exactly if no later check has to wait longer
(`checkAll_most_restrictive_iff`).

`Sample` is an agent that is to wait for a tenth of a second, from an address that is to wait
for ten.
-/

namespace VibeShield

variable {F : Type*}

/-- The readings of the clock during a check. -/
structure CheckReadings (F : Type*) where
  created : F
  cleaned : F
  consumed : F

/-- A check with these readings. -/
def CheckReadings.call (now : CheckReadings F) (op : CheckOp) : CheckCall F :=
  ⟨op, now.created, now.cleaned, now.consumed⟩

/-- A call of `check_all`, with the readings of the clock during each check. -/
structure CheckAllCall (F : Type*) where
  agentId : Option String
  ipAddress : Option String
  agentNow : CheckReadings F
  ipNow : CheckReadings F
  globalNow : CheckReadings F

/-- The applicable checks. An empty identifier is as good as none. -/
def CheckAllCall.checks (c : CheckAllCall F) : List (CheckCall F) :=
  (match c.agentId with
    | some agentId => if agentId = "" then [] else [c.agentNow.call (.checkAgent agentId)]
    | none => []) ++
  (match c.ipAddress with
    | some ipAddress => if ipAddress = "" then [] else [c.ipNow.call (.checkIp ipAddress)]
    | none => []) ++
  [c.globalNow.call .checkGlobal]

theorem CheckAllCall.checks_ne_nil (c : CheckAllCall F) : c.checks ≠ [] :=
  List.append_ne_nil_of_right_ne_nil _ (List.cons_ne_nil _ _)

/-- The first result that is denied, or else the first one with the fewest requests
    remaining. -/
def mostRestrictive (results : List (RateLimitResult F)) : Except PyErr (RateLimitResult F) :=
  match results.filter fun r => !r.allowed with
  | r :: _ => .ok r
  | [] =>
    match results.minOn? RateLimitResult.remaining with
    | some r => .ok r
    | none => .error ⟨.valueError, "min() iterable argument is empty"⟩

namespace RateLimiter

variable [PyNum F]

/-- The results of the checks, which end with the first exception. -/
def checkEach (l : RateLimiter F) (py : Python) :
    List (CheckCall F) → RateLimiter F × Except PyErr (List (RateLimitResult F))
  | [] => (l, .ok [])
  | c :: cs =>
    match l.check py c.identity c.created c.cleaned c.consumed with
    | (l, .error err) => (l, .error err)
    | (l, .ok r) =>
      match l.checkEach py cs with
      | (l, .error err) => (l, .error err)
      | (l, .ok rs) => (l, .ok (r :: rs))

/-- The check of all applicable limits. -/
def checkAll (l : RateLimiter F) (py : Python) (c : CheckAllCall F) :
    RateLimiter F × Except PyErr (RateLimitResult F) :=
  match l.checkEach py c.checks with
  | (l, .error err) => (l, .error err)
  | (l, .ok results) => (l, mostRestrictive results)

end RateLimiter

/-! ## The most restrictive result -/

/-- The outcome is the most restrictive of the outcomes `outs`: it allows the request if all of
    them do, with the fewest requests remaining, and denies it with the longest wait. -/
structure ReportsMostRestrictive [Preorder F] (outs : List (Except PyErr (RateLimitResult F)))
    (out : Except PyErr (RateLimitResult F)) : Prop where
  allowed_iff : Allowed out ↔ ∀ o ∈ outs, Allowed o
  mem : ∀ r, out = .ok r → .ok r ∈ outs
  retryAfter_le : ∀ r, out = .ok r → r.allowed = false →
    ∀ x, .ok x ∈ outs → x.allowed = false → x.retryAfter ≤ r.retryAfter
  remaining_le : ∀ r, out = .ok r → r.allowed = true →
    ∀ x, .ok x ∈ outs → r.remaining ≤ x.remaining

section Reports

variable {r : RateLimitResult F} {rs : List (RateLimitResult F)}

/-- Of results that allow the request, one with the fewest remaining is returned. -/
theorem mostRestrictive_of_allowed (hne : rs ≠ []) (h : rs.filter (fun r => !r.allowed) = []) :
    ∃ r ∈ rs, mostRestrictive rs = .ok r ∧ ∀ x ∈ rs, r.remaining ≤ x.remaining := by
  rw [mostRestrictive, h]
  rw [List.minOn?_eq_some_minOn hne]
  exact ⟨_, List.minOn_mem, rfl, fun x hx => List.apply_minOn_le_of_mem hx⟩

/-- Otherwise, the first one that denies it. -/
theorem mostRestrictive_of_denied {ds : List (RateLimitResult F)}
    (h : rs.filter (fun r => !r.allowed) = r :: ds) : mostRestrictive rs = .ok r := by
  rw [mostRestrictive, h]

variable [Preorder F]

/-- An exception is reported as an exception. -/
theorem reports_error {outs : List (Except PyErr (RateLimitResult F))} {err : PyErr}
    (h : .error err ∈ outs) (err' : PyErr) : ReportsMostRestrictive outs (.error err') where
  allowed_iff := iff_of_false not_allowed_error fun hall => not_allowed_error (hall _ h)
  mem _ h := by cases h
  retryAfter_le _ h := by cases h
  remaining_le _ h := by cases h

/-- A result that allows the request is the most restrictive one if there are only such
    results, and none with fewer requests remaining. -/
theorem reports_of_allowed (hr : r ∈ rs) (h : ∀ x ∈ rs, x.allowed = true)
    (hmin : ∀ x ∈ rs, r.remaining ≤ x.remaining) :
    ReportsMostRestrictive (rs.map .ok) (.ok r) where
  allowed_iff := by
    refine iff_of_true (allowed_ok_iff.2 (h r hr)) fun o ho => ?_
    obtain ⟨x, hx, rfl⟩ := List.mem_map.1 ho
    exact allowed_ok_iff.2 (h x hx)
  mem r' hr' := hr' ▸ List.mem_map_of_mem hr
  retryAfter_le r' hr' hdenied := by
    obtain rfl := Except.ok.inj hr'
    exact absurd (h r hr) (hdenied ▸ Bool.false_ne_true)
  remaining_le r' hr' _ x hx := by
    obtain rfl := Except.ok.inj hr'
    obtain ⟨x', hx', heq⟩ := List.mem_map.1 hx
    exact Except.ok.inj heq ▸ hmin x' hx'

/-- A result that denies the request is the most restrictive one if no other has to wait
    longer. -/
theorem reports_iff_of_denied (hr : r ∈ rs) (hdenied : r.allowed = false) :
    ReportsMostRestrictive (rs.map .ok) (.ok r) ↔
      ∀ x ∈ rs, x.allowed = false → x.retryAfter ≤ r.retryAfter := by
  refine ⟨fun h x hx => ?_, fun h => ⟨?_, ?_, ?_, ?_⟩⟩
  · exact h.retryAfter_le r rfl hdenied x (List.mem_map_of_mem hx)
  · have hnot : ¬Allowed (.ok r : Except PyErr (RateLimitResult F)) := fun hallowed =>
      absurd (allowed_ok_iff.1 hallowed) (hdenied ▸ Bool.false_ne_true)
    exact iff_of_false hnot fun hall => hnot (hall _ (List.mem_map_of_mem hr))
  · exact fun r' hr' => hr' ▸ List.mem_map_of_mem hr
  · intro r' hr' _ x hx
    obtain rfl := Except.ok.inj hr'
    obtain ⟨x', hx', heq⟩ := List.mem_map.1 hx
    exact Except.ok.inj heq ▸ h x' hx'
  · intro r' hr' hallowed
    obtain rfl := Except.ok.inj hr'
    exact absurd hallowed (hdenied ▸ Bool.false_ne_true)

end Reports

/-! ## The checks in turn -/

variable [PyNum F]

open PyArith PyNum

namespace RateLimiter

variable (l : RateLimiter F) (py : Python)

/-- Whether a check ends in an exception. -/
def Raises (c : CheckCall F) : Prop :=
  l.DropsNew py c ∨ l.ResultFails c.identity
    ((l.bucketFor py c.identity c.created).consume c.consumed).1
    ((l.bucketFor py c.identity c.created).consume c.consumed).2

/-- How long a check is to wait that finds no token. -/
def waitFor (c : CheckCall F) : Option F :=
  let (b, allowed) := (l.bucketFor py c.identity c.created).consume c.consumed
  if allowed then none else some (l.retryAfter c.identity b)

/-- The waits of the checks that find no token, in order. -/
def waits (cs : List (CheckCall F)) : List F :=
  ((limiter F py).events l cs).filterMap fun ev => ev.pre.waitFor py ev.input

end RateLimiter

section Results

variable {py : Python} {l : RateLimiter F} {c : CheckCall F} {cs : List (CheckCall F)}
  {r : RateLimitResult F} {rs : List (RateLimitResult F)}

theorem check_eq_error_iff :
    (∃ err, (l.check py c.identity c.created c.cleaned c.consumed).2 = .error err) ↔
      l.Raises py c := by
  by_cases h : l.DropsNew py c
  · exact iff_of_true (RateLimiter.check_of_dropsNew h) (.inl h)
  · rw [RateLimiter.check_of_not_dropsNew h, RateLimiter.result_eq_error_iff, RateLimiter.Raises,
      or_iff_right h]

/-- An exception among the outcomes is one of a check that raises it. -/
theorem exists_error_iff : (∃ err, .error err ∈ (limiter F py).outputs l cs) ↔
    ∃ ev ∈ (limiter F py).events l cs, ev.pre.Raises py ev.input := by
  constructor
  · rintro ⟨err, herr⟩
    obtain ⟨ev, hev, heq⟩ := List.mem_map.1 herr
    obtain ⟨js, c, ks, _, rfl⟩ := Machine.exists_prefix_of_mem_events hev
    exact ⟨_, hev, check_eq_error_iff.1 ⟨err, heq⟩⟩
  · rintro ⟨ev, hev, hraises⟩
    obtain ⟨js, c, ks, _, rfl⟩ := Machine.exists_prefix_of_mem_events hev
    obtain ⟨err, heq⟩ := check_eq_error_iff.2 hraises
    exact ⟨err, List.mem_map.2 ⟨_, hev, heq⟩⟩

/-- A check waits exactly if it is denied, for the advertised time. -/
theorem waitFor_of_check_eq_ok
    (h : (l.check py c.identity c.created c.cleaned c.consumed).2 = .ok r) :
    l.waitFor py c = if r.allowed then none else some r.retryAfter := by
  have hwait : l.waitFor py c =
      if ((l.bucketFor py c.identity c.created).consume c.consumed).2 then none
      else some (l.retryAfter c.identity
        ((l.bucketFor py c.identity c.created).consume c.consumed).1) := rfl
  have hkept : ¬l.DropsNew py c := by
    intro hdrops
    obtain ⟨err, heq⟩ := RateLimiter.check_of_dropsNew hdrops
    cases heq.symm.trans h
  rw [RateLimiter.check_of_not_dropsNew hkept] at h
  cases hout : ((l.bucketFor py c.identity c.created).consume c.consumed).2 with
  | true =>
    rw [hout] at h
    rw [hwait, hout, RateLimiter.allowed_of_result_eq_ok h, if_pos rfl, if_pos rfl]
  | false =>
    rw [hout] at h
    obtain ⟨hallowed, hretry⟩ := RateLimiter.denied_of_result_eq_ok h
    rw [hwait, hout, hallowed, hretry]

theorem waits_cons : l.waits py (c :: cs) =
    (l.waitFor py c).toList ++ ((limiter F py).step l c).1.waits py cs := by
  cases hwait : l.waitFor py c with
  | none => exact List.filterMap_cons_none hwait
  | some w => exact List.filterMap_cons_some hwait

/-- The waits are those of the results that are denied. -/
theorem waits_eq (h : (limiter F py).outputs l cs = rs.map .ok) :
    l.waits py cs = (rs.filter fun r => !r.allowed).map RateLimitResult.retryAfter := by
  induction cs generalizing l rs with
  | nil =>
    obtain rfl := List.map_eq_nil_iff.1 h.symm
    rfl
  | cons c cs ih =>
    obtain ⟨r, rs, rfl, hr, hrs⟩ := List.map_eq_cons_iff.1 h.symm
    have hwait : l.waitFor py c = if r.allowed then none else some r.retryAfter :=
      waitFor_of_check_eq_ok hr.symm
    rw [waits_cons, hwait, ih hrs.symm]
    cases hallowed : r.allowed with
    | true =>
      rw [List.filter_cons_of_neg (by rw [hallowed]; decide)]
      rfl
    | false =>
      rw [List.filter_cons_of_pos (by rw [hallowed]; decide)]
      rfl

theorem snd_checkEach_cons : (l.checkEach py (c :: cs)).2 =
    (l.check py c.identity c.created c.cleaned c.consumed).2.bind fun r =>
      (((limiter F py).step l c).1.checkEach py cs).2.map (r :: ·) := by
  rw [RateLimiter.checkEach]
  change _ = (l.check py c.identity c.created c.cleaned c.consumed).2.bind fun r =>
    ((l.check py c.identity c.created c.cleaned c.consumed).1.checkEach py cs).2.map (r :: ·)
  obtain ⟨l', _ | r⟩ := l.check py c.identity c.created c.cleaned c.consumed
  · rfl
  · dsimp only [Except.bind]
    obtain ⟨l'', _ | rs⟩ := l'.checkEach py cs <;> rfl

/-- If no check ends in an exception, their results are returned. -/
theorem snd_checkEach_of_ok (h : (limiter F py).outputs l cs = rs.map .ok) :
    (l.checkEach py cs).2 = .ok rs := by
  induction cs generalizing l rs with
  | nil =>
    obtain rfl := List.map_eq_nil_iff.1 h.symm
    rfl
  | cons c cs ih =>
    obtain ⟨r, rs, rfl, hr, hrs⟩ := List.map_eq_cons_iff.1 h.symm
    have hr : (l.check py c.identity c.created c.cleaned c.consumed).2 = .ok r := hr.symm
    rw [snd_checkEach_cons, hr, Except.bind, ih hrs.symm]
    rfl

/-- If one does, so does the whole. -/
theorem snd_checkEach_of_error {err : PyErr} (h : .error err ∈ (limiter F py).outputs l cs) :
    ∃ err, (l.checkEach py cs).2 = .error err := by
  induction cs generalizing l with
  | nil => exact absurd h List.not_mem_nil
  | cons c cs ih =>
    have h : .error err = (l.check py c.identity c.created c.cleaned c.consumed).2 ∨
        .error err ∈ (limiter F py).outputs ((limiter F py).step l c).1 cs := List.mem_cons.1 h
    rw [snd_checkEach_cons]
    cases hout : (l.check py c.identity c.created c.cleaned c.consumed).2 with
    | error err' => exact ⟨err', rfl⟩
    | ok r =>
      rw [hout] at h
      obtain ⟨err', hrest⟩ := ih (h.resolve_left (by rintro ⟨⟩))
      rw [hrest]
      exact ⟨err', rfl⟩

theorem snd_checkAll (l : RateLimiter F) (py : Python) (c : CheckAllCall F) :
    (l.checkAll py c).2 = (l.checkEach py c.checks).2.bind mostRestrictive := by
  rw [RateLimiter.checkAll]
  obtain ⟨l', _ | results⟩ := l.checkEach py c.checks <;> rfl

end Results

/-- Either some outcome is an exception, or all are results. -/
theorem exists_error_or_eq_map_ok {ε α : Type*} (outs : List (Except ε α)) :
    (∃ err, .error err ∈ outs) ∨ ∃ rs : List α, outs = rs.map .ok := by
  induction outs with
  | nil => exact .inr ⟨[], rfl⟩
  | cons out outs ih =>
    cases out with
    | error err => exact .inl ⟨err, List.mem_cons_self⟩
    | ok r =>
      rcases ih with ⟨err, herr⟩ | ⟨rs, rfl⟩
      · exact .inl ⟨err, List.mem_cons_of_mem _ herr⟩
      · exact .inr ⟨r :: rs, rfl⟩

theorem outputs_checks_ne_nil (py : Python) (l : RateLimiter F) (c : CheckAllCall F) :
    (limiter F py).outputs l c.checks ≠ [] := by
  obtain ⟨call, calls, hcalls⟩ := List.exists_cons_of_ne_nil c.checks_ne_nil
  rw [hcalls]
  exact List.cons_ne_nil _ _

/-- The most restrictive outcome is reported exactly if one of the checks raises an exception,
    or the first one that finds no token is to wait as long as any. -/
theorem checkAll_most_restrictive_iff [Preorder F] (py : Python) (l : RateLimiter F)
    (c : CheckAllCall F) :
    ReportsMostRestrictive ((limiter F py).outputs l c.checks) (l.checkAll py c).2 ↔
      (∃ ev ∈ (limiter F py).events l c.checks, ev.pre.Raises py ev.input) ∨
        ∀ w ∈ (l.waits py c.checks).head?, ∀ w' ∈ l.waits py c.checks, w' ≤ w := by
  have hne := outputs_checks_ne_nil py l c
  rw [snd_checkAll, ← exists_error_iff]
  rcases exists_error_or_eq_map_ok ((limiter F py).outputs l c.checks) with ⟨err, herr⟩ | ⟨rs, hrs⟩
  · obtain ⟨err', heq⟩ := snd_checkEach_of_error herr
    rw [heq]
    exact iff_of_true (reports_error herr err') (.inl ⟨err, herr⟩)
  · have hok : ¬∃ err, .error err ∈ rs.map (.ok : _ → Except PyErr (RateLimitResult F)) := by
      rintro ⟨err, h⟩
      obtain ⟨_, _, ⟨⟩⟩ := List.mem_map.1 h
    rw [snd_checkEach_of_ok hrs, waits_eq hrs, hrs, or_iff_right hok]
    change ReportsMostRestrictive _ (mostRestrictive rs) ↔ _
    cases hds : rs.filter fun r => !r.allowed with
    | nil =>
      have hall (x : RateLimitResult F) (hx : x ∈ rs) : x.allowed = true := by
        simpa using List.filter_eq_nil_iff.1 hds x hx
      obtain ⟨r, hr, heq, hmin⟩ := mostRestrictive_of_allowed (fun h => hne (by rw [hrs, h]; rfl))
        hds
      rw [heq]
      exact iff_of_true (reports_of_allowed hr hall hmin) fun w hw => absurd hw (by simp)
    | cons r ds =>
      have hmem (x : RateLimitResult F) : x ∈ r :: ds ↔ x ∈ rs ∧ x.allowed = false := by
        rw [← hds, List.mem_filter, Bool.not_eq_true']
      obtain ⟨hr, hdenied⟩ := (hmem r).1 List.mem_cons_self
      rw [mostRestrictive_of_denied hds, reports_iff_of_denied hr hdenied]
      simp only [List.map_cons, List.head?_cons, Option.mem_some_iff, forall_eq']
      rw [← List.map_cons, List.forall_mem_map]
      simp only [hmem, and_imp]

namespace Sample

/-- A hundred requests a second for an agent, and one in ten seconds for an address. -/
def scopesLimiter : RateLimiter ℚ :=
  ⟨⟨100, 1, 60⟩, ⟨1 / 10, 1, 60⟩, ⟨50, 100, 60⟩, none, .empty⟩

/-- An agent from an address, at the time `now`. -/
def agentFromAddress (now : ℚ) : CheckAllCall ℚ :=
  ⟨some "a1", some "10.0.0.1", ⟨now, now, now⟩, ⟨now, now, now⟩, ⟨now, now, now⟩⟩

/-- The limiter after a first request. -/
def spentScopes : RateLimiter ℚ := (scopesLimiter.checkAll limiterLib (agentFromAddress 0)).1

/-- The second request is told to wait for a tenth of a second, and not for the ten that the
    address needs. -/
theorem shorter_wait_reported :
    (spentScopes.checkAll limiterLib (agentFromAddress 0)).2 =
      .ok ⟨false, 1 / 10, 0, 1, "agent"⟩ ∧
    .ok ⟨false, 10, 0, 1, "ip"⟩ ∈
      (limiter ℚ limiterLib).outputs spentScopes (agentFromAddress 0).checks ∧
    ¬ReportsMostRestrictive
      ((limiter ℚ limiterLib).outputs spentScopes (agentFromAddress 0).checks)
      (spentScopes.checkAll limiterLib (agentFromAddress 0)).2 := by
  have hagent : (spentScopes.checkAll limiterLib (agentFromAddress 0)).2 =
      .ok ⟨false, 1 / 10, 0, 1, "agent"⟩ := by decide +kernel
  have hip : .ok ⟨false, 10, 0, 1, "ip"⟩ ∈
      (limiter ℚ limiterLib).outputs spentScopes (agentFromAddress 0).checks := by decide +kernel
  refine ⟨hagent, hip, fun h => ?_⟩
  have hle : (10 : ℚ) ≤ 1 / 10 := h.retryAfter_le _ hagent rfl _ hip rfl
  exact absurd hle (by decide +kernel)

end Sample

end VibeShield
