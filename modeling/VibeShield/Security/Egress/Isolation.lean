import VibeShield.Python.Json
import VibeShield.Security.Egress.Rate

/-!
# The agents do not interfere

What an agent is answered does not depend on what other agents request or log
(`egress_noninterference`). The operations of the others change only their own times of
requests, and the events, which no decision reads; so the states before and after look
alike to the agent (`EgressProxy.SameFor`).
-/

namespace VibeShield

variable {F : Type*}

/-- Whether an operation concerns the agent `a`: it is a call of `a`, or changes the
    allowlist. -/
def EgressOp.concerns (a : String) : EgressOp → Bool
  | .evaluate agentId _ _ _ _ _ => agentId = a
  | .logConnection agentId _ _ _ _ _ => agentId = a
  | .addDomain .. | .addWildcard .. | .addTrustedApis | .removeDomain .. => true

namespace EgressProxy

/-- Two states that differ only in what concerns agents other than `a`. -/
structure SameFor (a : String) (p q : EgressProxy F) : Prop where
  allowedDomains : p.allowedDomains = q.allowedDomains
  domainPatterns : p.domainPatterns = q.domainPatterns
  defaultMaxRequestSize : p.defaultMaxRequestSize = q.defaultMaxRequestSize
  defaultRateLimit : p.defaultRateLimit = q.defaultRateLimit
  history : p.history a = q.history a

namespace SameFor

variable {a : String} {p q r : EgressProxy F}

theorem refl (p : EgressProxy F) : SameFor a p p := ⟨rfl, rfl, rfl, rfl, rfl⟩

theorem symm (h : SameFor a p q) : SameFor a q p :=
  ⟨h.1.symm, h.2.symm, h.3.symm, h.4.symm, h.5.symm⟩

theorem trans (h : SameFor a p q) (h' : SameFor a q r) : SameFor a p r :=
  ⟨h.1.trans h'.1, h.2.trans h'.2, h.3.trans h'.3, h.4.trans h'.4, h.5.trans h'.5⟩

theorem equivalence : Equivalence (SameFor a : EgressProxy F → EgressProxy F → Prop) :=
  ⟨refl, symm, trans⟩

/-! ### The allowlist -/

theorem ruleFor (h : SameFor a p q) (py : Python) (host : String) :
    p.ruleFor py host = q.ruleFor py host := by
  rw [EgressProxy.ruleFor, EgressProxy.ruleFor, h.allowedDomains, h.domainPatterns,
    h.defaultMaxRequestSize, h.defaultRateLimit]

theorem addDomain (h : SameFor a p q) (host : String) (port : ℤ) (protocol : Protocol)
    (maxRequestSize rateLimit : Option ℤ) (description : String) :
    SameFor a (p.addDomain host port protocol maxRequestSize rateLimit description)
      (q.addDomain host port protocol maxRequestSize rateLimit description) := by
  refine ⟨?_, h.domainPatterns, h.defaultMaxRequestSize, h.defaultRateLimit, h.history⟩
  simp only [EgressProxy.addDomain, h.allowedDomains, h.defaultMaxRequestSize,
    h.defaultRateLimit]

theorem addWildcard (h : SameFor a p q) (pattern : String) (port : ℤ) :
    SameFor a (p.addWildcard pattern port) (q.addWildcard pattern port) :=
  ⟨h.allowedDomains, congrArg (· ++ [pattern]) h.domainPatterns, h.defaultMaxRequestSize,
    h.defaultRateLimit, h.history⟩

theorem addTrustedApis (h : SameFor a p q) : SameFor a p.addTrustedApis q.addTrustedApis := by
  unfold EgressProxy.addTrustedApis
  induction trustedAiApis generalizing p q with
  | nil => exact h
  | cons api apis ih => exact ih (h.addDomain ..)

theorem removeDomain (h : SameFor a p q) (host : String) :
    SameFor a (p.removeDomain host) (q.removeDomain host) :=
  ⟨congrArg (PyDict.erase · host) h.allowedDomains,
    congrArg (List.filter (· ≠ host)) h.domainPatterns, h.defaultMaxRequestSize,
    h.defaultRateLimit, h.history⟩

/-! ### Requests and events -/

theorem recordRequest (h : SameFor a p q) (now : F) (agentId : String) :
    SameFor a (p.recordRequest now agentId) (q.recordRequest now agentId) := by
  refine ⟨h.allowedDomains, h.domainPatterns, h.defaultMaxRequestSize, h.defaultRateLimit, ?_⟩
  rw [history_recordRequest, history_recordRequest, h.history]

/-- No decision reads the events. -/
theorem recordEvent (p : EgressProxy F) (now : F) (agentId taskId host : String) (port : ℤ)
    (protocol : String) (d : EgressDecision) (reason : String) :
    SameFor a (p.recordEvent now agentId taskId host port protocol d reason) p :=
  ⟨rfl, rfl, rfl, rfl, rfl⟩

theorem recordRequest_other {agentId : String} (hother : agentId ≠ a) (p : EgressProxy F)
    (now : F) : SameFor a (p.recordRequest now agentId) p := by
  refine ⟨rfl, rfl, rfl, rfl, ?_⟩
  rw [history_recordRequest, if_neg (Ne.symm hother)]

variable [PyArith F]

theorem checkRateLimit (h : SameFor a p q) (now : F) (rule : EgressRule) :
    (p.checkRateLimit now a rule).2 = (q.checkRateLimit now a rule).2 ∧
      SameFor a (p.checkRateLimit now a rule).1 (q.checkRateLimit now a rule).1 := by
  constructor
  · have hhistory := h.history
    unfold EgressProxy.history at hhistory
    simp only [EgressProxy.checkRateLimit, hhistory]
  · refine ⟨h.allowedDomains, h.domainPatterns, h.defaultMaxRequestSize, h.defaultRateLimit, ?_⟩
    rw [history_checkRateLimit, history_checkRateLimit, h.history]

theorem checkRateLimit_other {agentId : String} (hother : agentId ≠ a) (p : EgressProxy F)
    (now : F) (rule : EgressRule) : SameFor a (p.checkRateLimit now agentId rule).1 p := by
  refine ⟨rfl, rfl, rfl, rfl, ?_⟩
  rw [history_checkRateLimit, if_neg (Ne.symm hother)]

/-- Two states that look alike to an agent answer it alike, and then still look alike. -/
theorem evaluate (h : SameFor a p q) (py : Python) (now : ℕ → F) (taskId host : String)
    (port : ℤ) (protocol : String) (requestSize : ℤ) :
    (p.evaluate py now a taskId host port protocol requestSize).2 =
        (q.evaluate py now a taskId host port protocol requestSize).2 ∧
      SameFor a (p.evaluate py now a taskId host port protocol requestSize).1
        (q.evaluate py now a taskId host port protocol requestSize).1 := by
  have hevent {p q : EgressProxy F} (h : SameFor a p q) (now : F) (d : EgressDecision)
      (reason : String) : SameFor a (p.recordEvent now a taskId host port protocol d reason)
        (q.recordEvent now a taskId host port protocol d reason) :=
    ((recordEvent p ..).trans h).trans (recordEvent q ..).symm
  dsimp only [EgressProxy.evaluate]
  rw [h.ruleFor py host]
  cases q.ruleFor py host with
  | none => exact ⟨rfl, hevent h _ _ _⟩
  | some rule =>
    have hrequest := h.recordRequest (now 0) a
    obtain ⟨hwithin, hcheck⟩ := hrequest.checkRateLimit (now 1) rule
    dsimp only
    by_cases hprotocol : py.lower protocol ≠ rule.protocol.value
    · rw [if_pos hprotocol, if_pos hprotocol]
      exact ⟨rfl, hevent hrequest _ _ _⟩
    · rw [if_neg hprotocol, if_neg hprotocol]
      generalize (p.recordRequest (now 0) a).checkRateLimit (now 1) a rule = x at *
      generalize (q.recordRequest (now 0) a).checkRateLimit (now 1) a rule = y at *
      obtain ⟨p', within⟩ := x
      obtain ⟨q', within'⟩ := y
      obtain rfl : within = within' := hwithin
      cases within with
      | false => exact ⟨rfl, hevent hcheck _ _ _⟩
      | true =>
        dsimp only
        split_ifs
        · exact ⟨rfl, hevent hcheck _ _ _⟩
        · exact ⟨rfl, hevent hcheck _ _ _⟩

/-- An agent does not notice the evaluations for others. -/
theorem evaluate_other {agentId : String} (hother : agentId ≠ a) (p : EgressProxy F)
    (py : Python) (now : ℕ → F) (taskId host : String) (port : ℤ) (protocol : String)
    (requestSize : ℤ) :
    SameFor a (p.evaluate py now agentId taskId host port protocol requestSize).1 p := by
  have hrequest := recordRequest_other hother p (now 0)
  have hcheck (rule : EgressRule) :=
    (checkRateLimit_other hother (p.recordRequest (now 0) agentId) (now 1) rule).trans hrequest
  dsimp only [EgressProxy.evaluate]
  split
  · exact recordEvent p ..
  · next rule _ =>
    have hchecked := hcheck rule
    by_cases hprotocol : py.lower protocol ≠ rule.protocol.value
    · rw [if_pos hprotocol]
      exact (recordEvent ..).trans hrequest
    · rw [if_neg hprotocol]
      generalize (p.recordRequest (now 0) agentId).checkRateLimit (now 1) agentId rule = x at *
      obtain ⟨p', within⟩ := x
      cases within with
      | false => exact (recordEvent ..).trans hchecked
      | true =>
        dsimp only
        split_ifs
        · exact (recordEvent ..).trans hchecked
        · exact (recordEvent ..).trans hchecked

end SameFor

end EgressProxy

/-! ## Runs -/

variable [PyArith F]

/-- States that look alike to an agent are kept so by all operations. -/
theorem egress_unwinding (py : Python) (a : String) :
    (egress F py).Unwinding (fun c => c.op.concerns a) (EgressProxy.SameFor a) where
  equiv := EgressProxy.SameFor.equivalence
  low_step := by
    rintro p q ⟨op, now⟩ hlow h
    cases op with
    | addDomain => exact ⟨rfl, h.addDomain ..⟩
    | addWildcard pattern port => exact ⟨rfl, h.addWildcard pattern port⟩
    | addTrustedApis => exact ⟨rfl, h.addTrustedApis⟩
    | removeDomain => exact ⟨rfl, h.removeDomain _⟩
    | evaluate agentId taskId host port protocol requestSize =>
      obtain rfl : agentId = a := of_decide_eq_true hlow
      obtain ⟨hout, hnext⟩ := h.evaluate py now taskId host port protocol requestSize
      exact ⟨congrArg some hout, hnext⟩
    | logConnection agentId =>
      refine ⟨rfl, (EgressProxy.SameFor.recordEvent ..).trans ?_⟩
      exact (h.recordRequest (now 0) agentId).trans (EgressProxy.SameFor.recordEvent ..).symm
  high_step := by
    rintro p ⟨op, now⟩ hhigh
    cases op with
    | evaluate =>
      exact (EgressProxy.SameFor.evaluate_other (of_decide_eq_false hhigh) p py now ..).symm
    | logConnection =>
      refine EgressProxy.SameFor.symm ((EgressProxy.SameFor.recordEvent ..).trans ?_)
      exact EgressProxy.SameFor.recordRequest_other (of_decide_eq_false hhigh) p (now 0)
    | _ => exact absurd hhigh (by simp [EgressOp.concerns])

/-- In two runs from one state that differ only in the calls of other agents, the calls of
    an agent are answered alike. -/
theorem egress_noninterference (py : Python) (a : String) (p : EgressProxy F)
    (cs ds : List (EgressCall F))
    (h : cs.filter (fun c => c.op.concerns a) = ds.filter (fun c => c.op.concerns a)) :
    (egress F py).observed (fun c => c.op.concerns a) p cs =
      (egress F py).observed (fun c => c.op.concerns a) p ds :=
  (egress_unwinding py a).observed_eq (EgressProxy.SameFor.refl p) h

namespace Sample

/-- The calls of another agent among those of `rateCalls`. -/
def sharedCalls : List (EgressCall ℚ) :=
  ⟨.logConnection "a2" "api.test.com" 443 10 10 "t2", fun _ => 0⟩ :: rateCalls ++
    [⟨.evaluate "a2" "t2" "api.test.com" 443 "https" 0, fun _ => 4⟩]

theorem egress_noninterference_calls :
    (egress ℚ rateLib).observed (fun c => c.op.concerns "a1") (.new 1048576 60) sharedCalls =
      (egress ℚ rateLib).observed (fun c => c.op.concerns "a1") (.new 1048576 60) rateCalls :=
  egress_noninterference rateLib "a1" (.new 1048576 60) sharedCalls rateCalls rfl

end Sample

end VibeShield
