import Mathlib.Data.Option.Basic
import VibeShield.Security.Egress.Rate

/-!
# The configured limits

A domain may be added with limits of its own: on the size of a request, and on the number of
requests in a minute. The limits in force for a host are those of its last addition
(`limitsInForce`). They are to be enforced (`LimitsEnforced`): a request that is allowed is
within them, regardless of the defaults of the proxy and of its patterns.

But a limit of 0 is taken for none, and the default is compared instead. A run enforces all
limits exactly if, whenever such a limit matters, the request is denied for another reason
(`egress_limits_enforced_iff`).
-/

namespace VibeShield

variable {F : Type*}

/-- What the addition of a domain says of its requests. -/
structure HostLimits where
  maxRequestSize : Option ℤ
  rateLimit : Option ℤ
  protocol : Protocol

/-- The additions that are in force after an operation, for every host. -/
def limitsStep (L : String → Option HostLimits) : EgressOp → String → Option HostLimits
  | .addDomain host _ protocol maxRequestSize rateLimit _ =>
    Function.update L host (some ⟨maxRequestSize, rateLimit, protocol⟩)
  | .addTrustedApis =>
    trustedAiApis.foldl (fun L (host, _) => Function.update L host (some ⟨none, none, .https⟩)) L
  | .removeDomain host => Function.update L host none
  | .addWildcard .. | .evaluate .. | .logConnection .. => L

/-- The additions that are in force after the calls. -/
def limitsInForce (cs : List (EgressCall F)) : String → Option HostLimits :=
  cs.foldl (fun L c => limitsStep L c.op) fun _ => none

/-! ## The rules of the proxy -/

/-- The rule has the limits, with the defaults in place of those that are missing or 0. -/
structure HostLimits.Carried (maxSize rate : ℤ) (limits : HostLimits) (rule : EgressRule) :
    Prop where
  size : rule.maxRequestSizeBytes = orDefault limits.maxRequestSize maxSize
  rate : rule.maxRequestsPerMinute = orDefault limits.rateLimit rate
  protocol : rule.protocol = limits.protocol

/-- The proxy has a rule for every addition that is in force, and no others. -/
structure CarriesLimits (maxSize rate : ℤ) (p : EgressProxy F)
    (L : String → Option HostLimits) : Prop where
  defaultSize : p.defaultMaxRequestSize = maxSize
  defaultRate : p.defaultRateLimit = rate
  rules : ∀ host, Option.Rel (HostLimits.Carried maxSize rate) (L host)
    (p.allowedDomains.get? host)

namespace CarriesLimits

variable {maxSize rate : ℤ} {p : EgressProxy F} {L : String → Option HostLimits}

theorem addDomain (h : CarriesLimits maxSize rate p L) (host : String) (port : ℤ)
    (protocol : Protocol) (maxRequestSize rateLimit : Option ℤ) (description : String) :
    CarriesLimits maxSize rate
      (p.addDomain host port protocol maxRequestSize rateLimit description)
      (Function.update L host (some ⟨maxRequestSize, rateLimit, protocol⟩)) where
  defaultSize := h.defaultSize
  defaultRate := h.defaultRate
  rules host' := by
    rw [EgressProxy.addDomain, PyDict.get?_set]
    by_cases hhost : host' = host
    · subst hhost
      rw [Function.update_self, if_pos rfl, h.defaultSize, h.defaultRate]
      exact .some ⟨rfl, rfl, rfl⟩
    · rw [Function.update_of_ne hhost, if_neg hhost]
      exact h.rules host'

theorem addTrustedApis (h : CarriesLimits maxSize rate p L) :
    CarriesLimits maxSize rate p.addTrustedApis (limitsStep L .addTrustedApis) := by
  rw [EgressProxy.addTrustedApis, limitsStep]
  induction trustedAiApis generalizing p L with
  | nil => exact h
  | cons api apis ih => exact ih (h.addDomain api.1 api.2 .https none none "Trusted AI API")

theorem removeDomain (h : CarriesLimits maxSize rate p L) (host : String) :
    CarriesLimits maxSize rate (p.removeDomain host) (Function.update L host none) where
  defaultSize := h.defaultSize
  defaultRate := h.defaultRate
  rules host' := by
    rw [EgressProxy.removeDomain, PyDict.get?_erase]
    by_cases hhost : host' = host
    · subst hhost
      rw [Function.update_self, if_pos rfl]
      exact .none
    · rw [Function.update_of_ne hhost, if_neg hhost]
      exact h.rules host'

variable [PyArith F] {py : Python}

/-- An evaluation changes neither the rules nor the defaults. -/
theorem evaluate (h : CarriesLimits maxSize rate p L) (now : ℕ → F) (agentId taskId host : String)
    (port : ℤ) (protocol : String) (requestSize : ℤ) :
    CarriesLimits maxSize rate
      (p.evaluate py now agentId taskId host port protocol requestSize).1 L := by
  dsimp only [EgressProxy.evaluate]
  split
  · exact ⟨h.defaultSize, h.defaultRate, h.rules⟩
  · split
    · exact ⟨h.defaultSize, h.defaultRate, h.rules⟩
    · split
      · next q hq =>
        obtain rfl := congrArg Prod.fst hq
        exact ⟨h.defaultSize, h.defaultRate, h.rules⟩
      · next q hq =>
        obtain rfl := congrArg Prod.fst hq
        split <;> exact ⟨h.defaultSize, h.defaultRate, h.rules⟩

theorem step (h : CarriesLimits maxSize rate p L) (c : EgressCall F) :
    CarriesLimits maxSize rate ((egress F py).step p c).1 (limitsStep L c.op) := by
  obtain ⟨op, now⟩ := c
  cases op with
  | addDomain host port protocol maxRequestSize rateLimit description =>
    exact h.addDomain host port protocol maxRequestSize rateLimit description
  | addWildcard pattern port => exact ⟨h.defaultSize, h.defaultRate, h.rules⟩
  | addTrustedApis => exact h.addTrustedApis
  | removeDomain host => exact h.removeDomain host
  | evaluate agentId taskId host port protocol requestSize =>
    exact h.evaluate now agentId taskId host port protocol requestSize
  | logConnection agentId host port bytesSent bytesReceived taskId =>
    exact ⟨h.defaultSize, h.defaultRate, h.rules⟩

/-- After any calls, the proxy has the rules for what is in force. -/
theorem run (py : Python) (maxSize rate : ℤ) (cs : List (EgressCall F)) :
    CarriesLimits maxSize rate ((egress F py).run (.new maxSize rate) cs) (limitsInForce cs) := by
  induction cs using List.reverseRecOn with
  | nil => exact ⟨rfl, rfl, fun _ => .none⟩
  | append_singleton cs c ih =>
    rw [Machine.run_concat, limitsInForce, List.foldl_append]
    exact ih.step c

end CarriesLimits

/-! ## Evaluations -/

/-- A connection that is asked for, and the agent that asks. -/
structure EgressRequest where
  agentId : String
  host : String
  protocol : String
  requestSize : ℤ

/-- The request that an operation evaluates. -/
def EgressOp.request? : EgressOp → Option EgressRequest
  | .evaluate agentId _ host _ protocol requestSize => some ⟨agentId, host, protocol, requestSize⟩
  | _ => none

section Evaluations

variable [PyArith F] (py : Python) (maxSize rate : ℤ)

/-- The requests of an agent in the calls `js` that are later than a minute before `now`. -/
def requestsWithin (js : List (EgressCall F)) (agentId : String) (now : F) : List F :=
  (requestTimes py agentId ((egress F py).events (.new maxSize rate) js)).filter
    (EgressProxy.live now)

/-- The number of these requests with the one of the call `c`, as of when its rate limit is
    checked. -/
def requestsWith (js : List (EgressCall F)) (c : EgressCall F) (agentId : String) : ℕ :=
  (requestsWithin py maxSize rate js agentId (c.now 1)).length +
    if EgressProxy.live (c.now 1) (c.now 0) then 1 else 0

/-- If the call `c` after the calls `js` allows a request to a host with two explicit limits,
    the request is within the limit on its size, and there have been fewer requests of the agent
    in the last minute than the other limit. -/
def LimitsEnforced (js : List (EgressCall F)) (c : EgressCall F) : Prop :=
  ∀ req s r protocol, c.op.request? = some req →
    limitsInForce js req.host = some ⟨some s, some r, protocol⟩ → 0 ≤ s → 0 ≤ r →
    ((egress F py).step ((egress F py).run (.new maxSize rate) js) c).2 = some .allow →
      req.requestSize ≤ s ∧
        ((requestsWithin py maxSize rate js req.agentId (c.now 1)).length : ℤ) < r

/-- If a limit of 0 matters for the call, what is compared denies the request: its protocol is
    another one, or it exceeds a limit with the defaults in place of 0. -/
def DefaultsDeny (js : List (EgressCall F)) (c : EgressCall F) : Prop :=
  ∀ req s r protocol, c.op.request? = some req →
    limitsInForce js req.host = some ⟨some s, some r, protocol⟩ → 0 ≤ s → 0 ≤ r →
    r = 0 ∨ s = 0 ∧ 0 < req.requestSize →
      py.lower req.protocol ≠ protocol.value ∨
        orDefault (some r) rate ≤ requestsWith py maxSize rate js c req.agentId ∨
        orDefault (some s) maxSize < req.requestSize

variable {py maxSize rate}

variable (py) in
/-- A connection is allowed exactly if its rule allows the protocol, there are fewer requests
    than the rule's limit, with this one, and it is not too large. -/
theorem evaluate_eq_allow_iff (p : EgressProxy F) (now : ℕ → F) (agentId taskId : String)
    {host : String} (port : ℤ) (protocol : String) (requestSize : ℤ) {rule : EgressRule}
    (hrule : p.ruleFor py host = some rule) :
    (p.evaluate py now agentId taskId host port protocol requestSize).2 = .allow ↔
      py.lower protocol = rule.protocol.value ∧
        (((p.history agentId ++ [now 0]).filter (EgressProxy.live (now 1))).length : ℤ) <
          rule.maxRequestsPerMinute ∧
        requestSize ≤ rule.maxRequestSizeBytes := by
  have hrecord := p.history_recordRequest (now 0) agentId agentId
  rw [if_pos rfl] at hrecord
  have hcheck : ((p.recordRequest (now 0) agentId).checkRateLimit (now 1) agentId rule).2 = true ↔
      (((p.history agentId ++ [now 0]).filter (EgressProxy.live (now 1))).length : ℤ) <
        rule.maxRequestsPerMinute := by
    rw [← hrecord]
    exact decide_eq_true_iff
  dsimp only [EgressProxy.evaluate]
  rw [hrule, ← hcheck]
  dsimp only
  by_cases hprotocol : py.lower protocol = rule.protocol.value
  · rw [if_neg (not_not.2 hprotocol), and_iff_right hprotocol]
    split
    · next q hq =>
      rw [hq]
      exact iff_of_false nofun fun h => Bool.false_ne_true h.1
    · next q hq =>
      rw [hq, and_iff_right rfl]
      by_cases hsize : rule.maxRequestSizeBytes < requestSize
      · rw [if_pos hsize]
        exact iff_of_false nofun (not_le.2 hsize)
      · rw [if_neg hsize]
        exact iff_of_true rfl (not_lt.1 hsize)
  · rw [if_pos hprotocol]
    exact iff_of_false nofun fun h => hprotocol h.1

variable [LinearOrder F] [PyArith.Ordered F]

/-- What is compared for a host with explicit limits. -/
theorem allow_iff_of_limits {js : List (EgressCall F)} {c : EgressCall F}
    (hclock : ∀ c' ∈ js, ∀ k, c'.now k ≤ c.now 1) {req : EgressRequest}
    (hreq : c.op.request? = some req) {s r : ℤ} {protocol : Protocol}
    (hlimits : limitsInForce js req.host = some ⟨some s, some r, protocol⟩) :
    ((egress F py).step ((egress F py).run (.new maxSize rate) js) c).2 = some .allow ↔
      py.lower req.protocol = protocol.value ∧
        (requestsWith py maxSize rate js c req.agentId : ℤ) < orDefault (some r) rate ∧
        req.requestSize ≤ orDefault (some s) maxSize := by
  have hrules := (CarriesLimits.run py maxSize rate js).rules req.host
  have hkept := kept_run py maxSize rate js req.agentId (c.now 1) fun ev hev k =>
    hclock _ (Machine.input_mem_of_mem_events hev) k
  obtain ⟨op, now⟩ := c
  cases op with
  | evaluate agentId taskId host port protocol' requestSize =>
    obtain rfl := Option.some.inj hreq
    rw [hlimits] at hrules
    generalize hrule : ((egress F py).run (.new maxSize rate) js).allowedDomains.get? host = rule
      at hrules
    cases hrules with
    | @some _ rule hcarried =>
      have hruleFor : ((egress F py).run (.new maxSize rate) js).ruleFor py host = some rule := by
        rw [EgressProxy.ruleFor, hrule]
      have hwith : (((((egress F py).run (.new maxSize rate) js).history agentId ++
          [now 0]).filter (EgressProxy.live (now 1))).length) =
            requestsWith py maxSize rate js ⟨.evaluate agentId taskId host port protocol'
              requestSize, now⟩ agentId := by
        rw [requestsWith, requestsWithin, ← hkept, List.filter_append, List.length_append]
        congr 1
        dsimp only
        cases hlive : EgressProxy.live (now 1) (now 0) <;> simp [hlive]
      have hallow := evaluate_eq_allow_iff py _ now agentId taskId port protocol' requestSize
        hruleFor
      rw [hwith, hcarried.size, hcarried.rate, hcarried.protocol] at hallow
      exact Option.some_inj.trans hallow
  | _ => cases hreq

/-- One call enforces the limits exactly if a limit of 0 does not matter for it. -/
theorem limitsEnforced_iff {js : List (EgressCall F)} {c : EgressCall F}
    (hclock : ∀ c' ∈ js, ∀ k, c'.now k ≤ c.now 1) :
    LimitsEnforced py maxSize rate js c ↔ DefaultsDeny py maxSize rate js c := by
  refine forall₄_congr fun req s r protocol => forall₄_congr fun hreq hlimits hs hr => ?_
  rw [allow_iff_of_limits hclock hreq hlimits]
  constructor
  · intro henforced hzero
    by_contra hpass
    rw [not_or, not_or, not_not, not_le, not_lt] at hpass
    obtain ⟨hsize, hrate⟩ := henforced hpass
    rcases hzero with rfl | ⟨rfl, hpos⟩
    · omega
    · omega
  · rintro hdeny ⟨hprotocol, hrate, hsize⟩
    have hzero : ¬(r = 0 ∨ s = 0 ∧ 0 < req.requestSize) := by
      intro hzero
      rcases hdeny hzero with h | h | h
      · exact h hprotocol
      · exact not_lt.2 h hrate
      · exact not_le.2 h hsize
    obtain ⟨hr0, hs0⟩ := not_or.1 hzero
    have hwithin : (requestsWithin py maxSize rate js req.agentId (c.now 1)).length ≤
        requestsWith py maxSize rate js c req.agentId := Nat.le_add_right _ _
    rw [orDefault, if_neg hr0] at hrate
    rw [orDefault] at hsize
    refine ⟨?_, by omega⟩
    by_cases hs' : s = 0
    · exact (not_lt.1 fun hpos => hs0 ⟨hs', hpos⟩).trans hs'.ge
    · rwa [if_neg hs'] at hsize

end Evaluations

/-- If the clock does not go back from one call to another, a run enforces all explicit limits
    if and only if limits of 0 never matter in it. -/
theorem egress_limits_enforced_iff [PyArith F] [LinearOrder F] [PyArith.Ordered F] (py : Python)
    (maxSize rate : ℤ) (cs : List (EgressCall F))
    (hclock : cs.Pairwise fun c c' => ∀ j k, c.now j ≤ c'.now k) :
    (∀ js c, js ++ [c] <+: cs → LimitsEnforced py maxSize rate js c) ↔
      ∀ js c, js ++ [c] <+: cs → DefaultsDeny py maxSize rate js c := by
  refine forall₃_congr fun js c hc => limitsEnforced_iff fun c' hc' k => ?_
  exact (List.pairwise_append.1 (hclock.sublist hc.sublist)).2.2 c' hc' c
    (List.mem_singleton_self c) k 1

namespace Sample

/-- A domain with these limits. -/
def limitCall (maxRequestSize rateLimit : ℤ) : EgressCall ℚ :=
  ⟨.addDomain "api.test.com" 443 .https (some maxRequestSize) (some rateLimit) "", fun _ => 0⟩

/-- A request of 1000 bytes to this domain. -/
def sendCall : EgressCall ℚ :=
  ⟨.evaluate "a1" "t1" "api.test.com" 443 "https" 1000, fun _ => 1⟩

theorem limitsInForce_limitCall (maxRequestSize rateLimit : ℤ) :
    limitsInForce [limitCall maxRequestSize rateLimit] "api.test.com" =
      some ⟨some maxRequestSize, some rateLimit, .https⟩ := by
  simp [limitsInForce, limitCall, limitsStep]

/-- To a domain to which nothing is to be sent, a request is allowed: both limits are taken for
    missing. -/
theorem zero_limits_ignored : ¬LimitsEnforced rateLib 1048576 60 [limitCall 0 0] sendCall := by
  intro h
  have hallow : ((egress ℚ rateLib).step ((egress ℚ rateLib).run (.new 1048576 60)
      [limitCall 0 0]) sendCall).2 = some .allow := by decide +kernel
  have hsize := (h ⟨"a1", "api.test.com", "https", 1000⟩ 0 0 .https rfl
    (limitsInForce_limitCall 0 0) le_rfl le_rfl hallow).1
  exact absurd hsize (by decide)

/-- Other limits are enforced. -/
theorem positive_limits_enforced :
    LimitsEnforced rateLib 1048576 60 [limitCall 500 2] sendCall := by
  refine (egress_limits_enforced_iff rateLib 1048576 60 [limitCall 500 2, sendCall] ?_).2 ?_
    [limitCall 500 2] sendCall (List.prefix_refl _)
  · exact List.pairwise_pair.2 fun _ _ => zero_le_one
  · rintro js c ⟨ks, hks⟩ req s r protocol hreq hlimits _ _ hzero
    -- Only the second call is an evaluation, and the limits are then those of the first.
    rcases js with _ | ⟨j, _ | ⟨j', js⟩⟩
    · obtain rfl := (List.cons.inj hks).1
      cases hreq
    · obtain ⟨rfl, hc⟩ := List.cons.inj hks
      obtain rfl := (List.cons.inj hc).1
      obtain rfl := Option.some.inj hreq
      rw [limitsInForce_limitCall] at hlimits
      cases hlimits
      rcases hzero with h | h
      · exact absurd h (by decide)
      · exact absurd h.1 (by decide)
    · have hlength := congrArg List.length hks
      simp at hlength

end Sample

end VibeShield
