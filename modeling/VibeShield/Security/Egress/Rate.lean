import VibeShield.Python.Json
import VibeShield.Security.Egress.Model

/-!
# The rate limit of connections

In any minute, an agent is allowed at most `m` connections under rules with a limit of
at most `m` requests (`egress_rate_limited`).

The proxy keeps the times of an agent's requests and forgets some that are older than
a minute. So at any time, the requests of the last minute are the same in what it keeps
and in the history (`requests_filter`), and a connection is allowed if, with it, there are fewer of
them than the rule's limit.
-/

namespace VibeShield

open PyArith

variable {F : Type*}

/-! ## What the operations keep -/

namespace EgressProxy

/-- The times of the requests of an agent, as far as they are kept. -/
def history (p : EgressProxy F) (agentId : String) : List F :=
  (p.requestHistory.get? agentId).getD []

theorem history_congr {p q : EgressProxy F} (h : p.requestHistory = q.requestHistory)
    (a : String) : p.history a = q.history a := by
  rw [history, h, history]

/-- The history of an agent after it has been set. -/
theorem history_set {p q : EgressProxy F} {agentId : String} {ts : List F}
    (h : q.requestHistory = p.requestHistory.set agentId ts) (a : String) :
    q.history a = if a = agentId then ts else p.history a := by
  rw [history, h, PyDict.get?_set]
  by_cases ha : a = agentId
  · rw [if_pos ha, if_pos ha, Option.getD_some]
  · rw [if_neg ha, if_neg ha, history]

theorem history_recordRequest (p : EgressProxy F) (now : F) (agentId a : String) :
    (p.recordRequest now agentId).history a =
      if a = agentId then p.history a ++ [now] else p.history a := by
  rw [history_set (p := p) rfl]
  split
  · next ha => rw [ha, history]
  · rfl

variable [PyArith F]

/-- Whether a request at `t` counts at `now`. -/
def live (now t : F) : Bool := lt (sub now (lit 60)) t

theorem history_checkRateLimit (p : EgressProxy F) (now : F) (agentId : String)
    (rule : EgressRule) (a : String) : (p.checkRateLimit now agentId rule).1.history a =
      if a = agentId then (p.history a).filter (live now) else p.history a := by
  rw [history_set (p := p) rfl]
  split
  · next ha =>
    rw [ha]
    rfl
  · rfl

variable (py : Python) (p : EgressProxy F)

/-- An evaluation without a rule keeps no request; one with a rule keeps it, and also
    checks the rate limit, unless it is denied before. -/
theorem evaluate_requests (now : ℕ → F) (agentId taskId host : String) (port : ℤ)
    (protocol : String) (requestSize : ℤ) :
    let q := p.evaluate py now agentId taskId host port protocol requestSize
    (p.ruleFor py host = none ∧ q.1.requestHistory = p.requestHistory ∧ q.2 ≠ .allow) ∨
    ∃ rule, p.ruleFor py host = some rule ∧
      ((q.1.requestHistory = (p.recordRequest (now 0) agentId).requestHistory ∧ q.2 ≠ .allow) ∨
        (q.1.requestHistory =
            ((p.recordRequest (now 0) agentId).checkRateLimit (now 1) agentId
              rule).1.requestHistory ∧
          (q.2 = .allow → ((p.recordRequest (now 0) agentId).checkRateLimit (now 1) agentId
            rule).2 = true))) := by
  dsimp only [evaluate]
  split
  · next hrule => exact .inl ⟨hrule, rfl, nofun⟩
  · next rule hrule =>
    refine .inr ⟨rule, hrule, ?_⟩
    split
    · exact .inl ⟨rfl, nofun⟩
    · split
      · next q h => exact .inr ⟨by rw [h]; rfl, nofun⟩
      · next q h =>
        refine .inr ⟨?_, fun _ => by rw [h]⟩
        split <;> rw [h] <;> rfl

end EgressProxy

/-! ## Requests -/

section Requests

variable (py : Python)

/-- Whether an operation counts as a request of the agent `a`. -/
def EgressOp.requests (p : EgressProxy F) (a : String) : EgressOp → Bool
  | .evaluate agentId _ host _ _ _ => agentId = a && (p.ruleFor py host).isSome
  | .logConnection agentId _ _ _ _ _ => agentId = a
  | _ => false

/-- Whether an operation evaluates a connection of the agent `a` under a rule with a
    limit of at most `m`. -/
def EgressOp.limited (p : EgressProxy F) (a : String) (m : ℤ) : EgressOp → Bool
  | .evaluate agentId _ host _ _ _ =>
    agentId = a && (p.ruleFor py host).any fun rule => rule.maxRequestsPerMinute ≤ m
  | _ => false

variable {py} {p : EgressProxy F} {c : EgressCall F} {a : String}

theorem requests_of_limited {m : ℤ} (h : c.op.limited py p a m = true) :
    c.op.requests py p a = true := by
  obtain ⟨op, now⟩ := c
  cases op with
  | evaluate agentId taskId host port protocol requestSize =>
    rw [EgressOp.limited, Bool.and_eq_true] at h
    rw [EgressOp.requests, Bool.and_eq_true]
    refine ⟨h.1, ?_⟩
    cases hrule : p.ruleFor py host with
    | none =>
      rw [hrule] at h
      exact absurd h.2 (by simp)
    | some rule => rfl
  | _ => exact absurd h (by simp [EgressOp.limited])

variable [PyArith F]

theorem history_step_of_not_requests (h : c.op.requests py p a = false) :
    ((egress F py).step p c).1.history a = p.history a := by
  obtain ⟨op, now⟩ := c
  cases op with
  | evaluate agentId taskId host port protocol requestSize =>
    rw [EgressOp.requests, Bool.and_eq_false_iff] at h
    obtain ⟨hrule, hhistory, _⟩ | ⟨rule, hrule, hkept⟩ :=
      p.evaluate_requests py now agentId taskId host port protocol requestSize
    · exact EgressProxy.history_congr hhistory a
    · have ha : a ≠ agentId := by
        rintro rfl
        simp [hrule] at h
      rcases hkept with ⟨hhistory, _⟩ | ⟨hhistory, _⟩
      · rw [← p.history_recordRequest (now 0) agentId a |>.trans (if_neg ha)]
        exact EgressProxy.history_congr hhistory a
      · rw [← p.history_recordRequest (now 0) agentId a |>.trans (if_neg ha),
          ← (p.recordRequest (now 0) agentId).history_checkRateLimit (now 1) agentId rule a |>.trans
            (if_neg ha)]
        exact EgressProxy.history_congr hhistory a
  | logConnection agentId host port bytesSent bytesReceived taskId =>
    have ha : a ≠ agentId := by
      rintro rfl
      simp [EgressOp.requests] at h
    exact (p.history_recordRequest (now 0) agentId a).trans (if_neg ha)
  | _ => rfl

/-- A request is kept, and requests that are older than a minute may be forgotten. -/
theorem history_step_of_requests (h : c.op.requests py p a = true) :
    ((egress F py).step p c).1.history a = p.history a ++ [c.now 0] ∨
      ((egress F py).step p c).1.history a =
        (p.history a ++ [c.now 0]).filter (EgressProxy.live (c.now 1)) := by
  obtain ⟨op, now⟩ := c
  cases op with
  | evaluate agentId taskId host port protocol requestSize =>
    rw [EgressOp.requests, Bool.and_eq_true, decide_eq_true_iff] at h
    obtain ⟨rfl, hsome⟩ := h
    obtain ⟨hrule, _⟩ | ⟨rule, hrule, hkept⟩ :=
      p.evaluate_requests py now agentId taskId host port protocol requestSize
    · simp [hrule] at hsome
    · have hrecord := p.history_recordRequest (now 0) agentId agentId
      rw [if_pos rfl] at hrecord
      rcases hkept with ⟨hhistory, _⟩ | ⟨hhistory, _⟩
      · exact .inl ((EgressProxy.history_congr hhistory agentId).trans hrecord)
      · refine .inr ((EgressProxy.history_congr hhistory agentId).trans ?_)
        rw [EgressProxy.history_checkRateLimit, if_pos rfl, hrecord]
  | logConnection agentId host port bytesSent bytesReceived taskId =>
    rw [EgressOp.requests, decide_eq_true_iff] at h
    subst h
    have hrecord := p.history_recordRequest (now 0) agentId agentId
    rw [if_pos rfl] at hrecord
    exact .inl hrecord
  | _ => exact absurd h (by simp [EgressOp.requests])

/-- A connection is allowed only if, with it, there are fewer requests than the limit. -/
theorem length_lt_of_allow {m : ℤ} (h : c.op.limited py p a m = true)
    (hallow : ((egress F py).step p c).2 = some .allow) :
    (((p.history a ++ [c.now 0]).filter (EgressProxy.live (c.now 1))).length : ℤ) < m := by
  obtain ⟨op, now⟩ := c
  cases op with
  | evaluate agentId taskId host port protocol requestSize =>
    rw [EgressOp.limited, Bool.and_eq_true, decide_eq_true_iff] at h
    obtain ⟨rfl, hlimit⟩ := h
    have hallow' := Option.some.inj hallow
    obtain ⟨_, _, hdeny⟩ | ⟨rule, hrule, ⟨_, hdeny⟩ | ⟨_, hcheck⟩⟩ :=
      p.evaluate_requests py now agentId taskId host port protocol requestSize
    · exact absurd hallow' hdeny
    · exact absurd hallow' hdeny
    · have hrate := hcheck hallow'
      have hrecord := p.history_recordRequest (now 0) agentId agentId
      rw [if_pos rfl] at hrecord
      rw [hrule] at hlimit
      have hle : rule.maxRequestsPerMinute ≤ m := by simpa using hlimit
      have hlt : (((p.recordRequest (now 0) agentId).history agentId).filter
          (EgressProxy.live (now 1))).length < rule.maxRequestsPerMinute := of_decide_eq_true hrate
      rw [hrecord] at hlt
      exact hlt.trans_le hle
  | _ => exact absurd h (by simp [EgressOp.limited])

end Requests

/-! ## Runs -/

section Runs

variable [PyArith F] (py : Python)

/-- The times of the requests of an agent. -/
def requestTimes (a : String)
    (evs : List (Machine.Event (EgressProxy F) (EgressCall F) (Option EgressDecision))) : List F :=
  (evs.filter fun ev => ev.input.op.requests py ev.pre a).map fun ev => ev.input.now 0

theorem requestTimes_concat (a : String)
    (evs : List (Machine.Event (EgressProxy F) (EgressCall F) (Option EgressDecision)))
    (p : EgressProxy F) (c : EgressCall F) :
    requestTimes py a (evs ++ [(egress F py).event p c]) =
      if c.op.requests py p a then requestTimes py a evs ++ [c.now 0]
      else requestTimes py a evs := by
  rw [requestTimes, List.filter_append, List.map_append, requestTimes]
  cases hreq : c.op.requests py p a <;> simp [Machine.event, hreq]

variable [LinearOrder F]

/-- The number of connections that an agent is allowed in the minute up to `t`, under
    rules with a limit of at most `m`. -/
def allowedCount (a : String) (m : ℤ) (t : F)
    (evs : List (Machine.Event (EgressProxy F) (EgressCall F) (Option EgressDecision))) : ℕ :=
  evs.countP fun ev => ev.input.op.limited py ev.pre a m ∧ ev.output = some .allow ∧
    EgressProxy.live t (ev.input.now 0) ∧ ev.input.now 0 ≤ t

variable {py}

/-- Of the history, the proxy keeps all that counts when the clock has reached `now`. -/
def Kept (py : Python)
    (evs : List (Machine.Event (EgressProxy F) (EgressCall F) (Option EgressDecision)))
    (p : EgressProxy F) : Prop :=
  ∀ a now, (∀ ev ∈ evs, ∀ k, ev.input.now k ≤ now) →
    (p.history a).filter (EgressProxy.live now) =
      (requestTimes py a evs).filter (EgressProxy.live now)

/-- The history and what the proxy keeps of it. -/
structure Counted (py : Python)
    (evs : List (Machine.Event (EgressProxy F) (EgressCall F) (Option EgressDecision)))
    (p : EgressProxy F) : Prop where
  kept : Kept py evs p
  count : ∀ a m t, (allowedCount py a m t evs : ℤ) ≤ max m 0

variable {evs : List (Machine.Event (EgressProxy F) (EgressCall F) (Option EgressDecision))}
  {p : EgressProxy F} {c : EgressCall F}

variable (py evs p c) in
theorem allowedCount_concat (a : String) (m : ℤ) (t : F) :
    allowedCount py a m t (evs ++ [(egress F py).event p c]) = allowedCount py a m t evs +
      if c.op.limited py p a m ∧ ((egress F py).step p c).2 = some .allow ∧
        EgressProxy.live t (c.now 0) ∧ c.now 0 ≤ t then 1 else 0 := by
  rw [allowedCount, List.countP_append, List.countP_singleton, allowedCount]
  exact congrArg _ (if_congr decide_eq_true_iff rfl rfl)

variable (py evs) in
/-- What is allowed in a minute has been requested in this minute. -/
theorem allowedCount_le (a : String) (m : ℤ) (t : F) : allowedCount py a m t evs ≤
    ((requestTimes py a evs).filter (EgressProxy.live t)).length := by
  rw [← List.countP_eq_length_filter, requestTimes, List.countP_map, List.countP_filter]
  refine List.countP_mono_left fun ev _ h => ?_
  obtain ⟨hlimited, _, hlive, _⟩ := of_decide_eq_true h
  exact (Bool.and_eq_true _ _).mpr ⟨hlive, requests_of_limited hlimited⟩

variable [PyArith.Ordered F]

theorem live_mono {now now' t : F} (h : now ≤ now') (hlive : EgressProxy.live now' t = true) :
    EgressProxy.live now t = true := by
  rw [EgressProxy.live, PyArith.Ordered.lt_iff] at *
  exact (PyArith.Ordered.sub_le_sub now now' (lit 60) h).trans_lt hlive

/-- What was kept is still kept, up to what does not count any more. -/
theorem Kept.step (h : Kept py evs p) (c : EgressCall F) :
    Kept py (evs ++ [(egress F py).event p c]) ((egress F py).step p c).1 := by
  intro a now hnow
  have hkept := h a now fun ev hev => hnow ev (List.mem_append_left _ hev)
  have hle : c.now 1 ≤ now := hnow _ (List.mem_append_right _ List.mem_cons_self) 1
  rw [requestTimes_concat]
  cases hreq : c.op.requests py p a with
  | false => rw [history_step_of_not_requests hreq, hkept, if_neg Bool.false_ne_true]
  | true =>
    rw [if_pos rfl, List.filter_append, ← hkept, ← List.filter_append]
    rcases history_step_of_requests hreq with hhistory | hhistory
    · rw [hhistory]
    · rw [hhistory, List.filter_filter]
      refine List.filter_congr fun t _ => ?_
      cases hlive : EgressProxy.live now t with
      | false => rfl
      | true => exact (Bool.true_and _).trans (live_mono hle hlive)

theorem kept_run (py : Python) (maxSize rate : ℤ) (cs : List (EgressCall F)) :
    Kept py ((egress F py).events (.new maxSize rate) cs)
      ((egress F py).run (.new maxSize rate) cs) :=
  Machine.history_induction (G := fun _ _ => True) (P := Kept py) (fun _ _ _ => rfl)
    (fun _ _ c _ h => h.step c) cs fun _ _ => trivial

/-- If a connection is allowed, there are fewer requests than `m` in the minute before
    it, and thus in every minute that reaches up to it. -/
theorem Counted.count_step (h : Counted py evs p) (hone : ∀ k, c.now k = c.now 0)
    (hnow : ∀ ev ∈ evs, ∀ k, ev.input.now k ≤ c.now 0) (a : String) (m : ℤ) (t : F) :
    (allowedCount py a m t (evs ++ [(egress F py).event p c]) : ℤ) ≤ max m 0 := by
  have hcount := allowedCount_concat py evs p c a m t
  by_cases hallow : c.op.limited py p a m ∧ ((egress F py).step p c).2 = some .allow ∧
      EgressProxy.live t (c.now 0) ∧ c.now 0 ≤ t
  · obtain ⟨hlimited, hout, _, hle⟩ := hallow
    have hlt := length_lt_of_allow hlimited hout
    rw [hone 1] at hlt
    have hkept := h.kept a (c.now 0) hnow
    have hrequests : requestTimes py a (evs ++ [(egress F py).event p c]) =
        requestTimes py a evs ++ [c.now 0] := by
      rw [requestTimes_concat, if_pos (requests_of_limited hlimited)]
    have hminute : ((requestTimes py a (evs ++ [(egress F py).event p c])).filter
          (EgressProxy.live t)).length ≤
        ((p.history a ++ [c.now 0]).filter (EgressProxy.live (c.now 0))).length := by
      rw [hrequests, List.filter_append (p := EgressProxy.live (c.now 0)), hkept,
        ← List.filter_append]
      exact (List.monotone_filter_right _ fun _ => live_mono hle).length_le
    have hle := allowedCount_le py (evs ++ [(egress F py).event p c]) a m t
    omega
  · rw [hcount, if_neg hallow]
    exact h.count a m t

theorem counted_run (py : Python) (maxSize rate : ℤ) (cs : List (EgressCall F))
    (hone : ∀ c ∈ cs, ∀ k, c.now k = c.now 0)
    (hnows : cs.Pairwise fun c c' => c.now 0 ≤ c'.now 0) :
    Counted py ((egress F py).events (.new maxSize rate) cs)
      ((egress F py).run (.new maxSize rate) cs) := by
  have hinit : Counted py [] (.new maxSize rate : EgressProxy F) :=
    ⟨fun _ _ _ => rfl, fun _ m _ => le_max_right m 0⟩
  have hclock : cs.Pairwise fun c c' => ∀ k, c.now k ≤ c'.now 0 :=
    hnows.imp_of_mem fun hc _ hle k => (hone _ hc k).le.trans hle
  exact Machine.pairwise_induction (M := egress F py) (P := Counted py) hinit
    (fun evs p c hc hevs h => ⟨h.kept.step c, h.count_step hc hevs⟩) cs hone hclock

/-- If every call reads the clock once, and the clock does not run backwards, then in
    any minute an agent is allowed at most `m` connections under rules with a limit of
    at most `m`. -/
theorem egress_rate_limited (py : Python) (maxSize rate : ℤ) (cs : List (EgressCall F))
    (hone : ∀ c ∈ cs, ∀ k, c.now k = c.now 0)
    (hnows : cs.Pairwise fun c c' => c.now 0 ≤ c'.now 0) (a : String) (m : ℤ) (t : F) :
    (allowedCount py a m t ((egress F py).events (.new maxSize rate) cs) : ℤ) ≤ max m 0 :=
  (counted_run py maxSize rate cs hone hnows).count a m t

end Runs

namespace Sample

def rateLib : Python := .plain [] ""

/-- A domain with two requests a minute, and three requests in a minute. -/
def rateCalls : List (EgressCall ℚ) :=
  [⟨.addDomain "api.test.com" 443 .https none (some 2) "", fun _ => 0⟩,
    ⟨.evaluate "a1" "t1" "api.test.com" 443 "https" 0, fun _ => 1⟩,
    ⟨.evaluate "a1" "t1" "api.test.com" 443 "https" 0, fun _ => 2⟩,
    ⟨.evaluate "a1" "t1" "api.test.com" 443 "https" 0, fun _ => 3⟩]

theorem egress_rate_limited_calls :
    (allowedCount rateLib "a1" 2 60 ((egress ℚ rateLib).events (.new 1048576 60) rateCalls) : ℤ) ≤
      max 2 0 :=
  egress_rate_limited rateLib 1048576 60 rateCalls (by simp [rateCalls])
    (by decide +kernel) "a1" 2 60

end Sample

/-! ## Premature denials -/

/-- With a rule and its protocol, a request is denied for the rate limit exactly if, with it,
    there are at least as many requests as the limit. -/
theorem evaluate_eq_denyRateLimit_iff [PyArith F] {py : Python} (p : EgressProxy F) {now : ℕ → F}
    {t : F} (hnow : ∀ k, now k = t) (agentId taskId : String) {host : String} (port : ℤ)
    {protocol : String} (requestSize : ℤ) {rule : EgressRule}
    (hrule : p.ruleFor py host = some rule) (hprotocol : py.lower protocol = rule.protocol.value) :
    (p.evaluate py now agentId taskId host port protocol requestSize).2 = .denyRateLimit ↔
      rule.maxRequestsPerMinute ≤
        ((p.history agentId ++ [t]).filter (EgressProxy.live t)).length := by
  have hrecord := p.history_recordRequest t agentId agentId
  rw [if_pos rfl] at hrecord
  have hcheck : ((p.recordRequest t agentId).checkRateLimit t agentId rule).2 = true ↔
      (((p.history agentId ++ [t]).filter (EgressProxy.live t)).length : ℤ) <
        rule.maxRequestsPerMinute := by
    rw [← hrecord]
    exact decide_eq_true_iff
  dsimp only [EgressProxy.evaluate]
  rw [hnow 0, hnow 1, hnow 2, hrule]
  dsimp only
  rw [if_neg (not_not.2 hprotocol), ← not_lt, ← hcheck]
  split
  · next q hq => exact iff_of_true rfl (by rw [hq]; exact Bool.false_ne_true)
  · next q hq =>
    refine iff_of_false ?_ (by rw [hq]; exact not_not.2 rfl)
    split <;> exact nofun

section Premature

variable [PyArith F] [LinearOrder F] [PyArith.Ordered F]

/-- In any run, a request is denied for the rate limit only after as many requests of the agent
    in the minute before as the limit allows, unless exactly one of them is missing: the
    request itself is counted, too. -/
theorem egress_denial_premature_iff (py : Python) (maxSize rate : ℤ) (cs : List (EgressCall F))
    (hone : ∀ c ∈ cs, ∀ k, c.now k = c.now 0)
    (hnows : cs.Pairwise fun c c' => c.now 0 ≤ c'.now 0) (js ks : List (EgressCall F))
    (c : EgressCall F) (hsplit : cs = js ++ c :: ks) (agentId taskId host : String) (port : ℤ)
    (protocol : String) (requestSize : ℤ) (rule : EgressRule)
    (hop : c.op = .evaluate agentId taskId host port protocol requestSize) :
    let p := (egress F py).run (.new maxSize rate) js
    let earlier := (requestTimes py agentId ((egress F py).events (.new maxSize rate) js)).filter
      (EgressProxy.live (c.now 0))
    p.ruleFor py host = some rule → py.lower protocol = rule.protocol.value →
    ((((egress F py).step p c).2 = some .denyRateLimit →
        rule.maxRequestsPerMinute ≤ earlier.length) ↔
      ¬((earlier.length : ℤ) = rule.maxRequestsPerMinute - 1 ∧
        EgressProxy.live (c.now 0) (c.now 0) = true)) := by
  intro p earlier hrule hprotocol
  subst hsplit
  obtain ⟨-, -, hcross⟩ := List.pairwise_append.1 hnows
  have hkept := kept_run py maxSize rate js agentId (c.now 0) fun ev hev k => by
    have hmem := Machine.input_mem_of_mem_events hev
    exact (hone _ (List.mem_append_left _ hmem) k).le.trans (hcross _ hmem c List.mem_cons_self)
  have hdeny : ((egress F py).step p c).2 = some .denyRateLimit ↔
      rule.maxRequestsPerMinute ≤
        (((p.history agentId ++ [c.now 0]).filter (EgressProxy.live (c.now 0))).length : ℤ) := by
    have hc := hone c (List.mem_append_right _ List.mem_cons_self)
    obtain ⟨op, now⟩ := c
    obtain rfl := hop
    rw [← evaluate_eq_denyRateLimit_iff p hc agentId taskId port requestSize hrule hprotocol]
    exact Option.some_inj
  -- The request counts itself, as it is later than a minute ago.
  have hlen : ((p.history agentId ++ [c.now 0]).filter (EgressProxy.live (c.now 0))).length =
      earlier.length + if EgressProxy.live (c.now 0) (c.now 0) = true then 1 else 0 := by
    rw [List.filter_append, hkept, List.length_append]
    congr 1
    cases hlive : EgressProxy.live (c.now 0) (c.now 0) <;> simp [hlive]
  rw [hdeny, hlen]
  by_cases hlive : EgressProxy.live (c.now 0) (c.now 0) = true
  · rw [if_pos hlive, and_iff_left hlive]
    omega
  · rw [if_neg hlive, Nat.add_zero]
    exact iff_of_true id fun h => hlive h.2

end Premature

namespace Sample

/-- The second request in a minute is denied, although two of them are allowed. -/
theorem second_request_denied :
    let p := (egress ℚ rateLib).run (.new 1048576 60) (rateCalls.take 2)
    let c : EgressCall ℚ := ⟨.evaluate "a1" "t1" "api.test.com" 443 "https" 0, fun _ => 2⟩
    rateCalls[2]? = some c ∧
      (p.ruleFor rateLib "api.test.com").map EgressRule.maxRequestsPerMinute = some 2 ∧
      (requestTimes rateLib "a1" ((egress ℚ rateLib).events (.new 1048576 60)
        (rateCalls.take 2))).length = 1 ∧
      ((egress ℚ rateLib).step p c).2 = some .denyRateLimit := by
  intro p c
  exact ⟨rfl, by decide +kernel, by decide +kernel, by decide +kernel⟩

/-- The first one is not. -/
theorem first_request_not_denied :
    let p := (egress ℚ rateLib).run (.new 1048576 60) (rateCalls.take 1)
    let c : EgressCall ℚ := ⟨.evaluate "a1" "t1" "api.test.com" 443 "https" 0, fun _ => 1⟩
    ((egress ℚ rateLib).step p c).2 = some .denyRateLimit → (2 : ℤ) ≤ ((requestTimes rateLib "a1"
      ((egress ℚ rateLib).events (.new 1048576 60) (rateCalls.take 1))).filter
        (EgressProxy.live 1)).length := by
  intro p c
  exact (egress_denial_premature_iff rateLib 1048576 60 rateCalls (by simp [rateCalls])
    (by decide +kernel) (rateCalls.take 1) (rateCalls.drop 2) c rfl "a1" "t1" "api.test.com" 443
    "https" 0 ⟨"api.test.com", 443, .https, 1048576, 2, ""⟩ rfl (by decide +kernel)
    (by decide +kernel)).2 (by decide +kernel)

end Sample

end VibeShield
