import VibeShield.Security.Egress.Limits
import VibeShield.Security.Egress.Volumes

/-!
# What the proxy reports

After any run, the queries (`EgressProxy.getEvents`) and the statistics
(`EgressProxy.getStatistics`) tell of the last calls of the run whose events are still in the
buffer (`kept`): a query returns the last ones that match, with the decisions that were
returned (`egress_queries`), and the statistics count them by their decisions
(`egress_statistics`).
-/

namespace VibeShield

open EgressProxy Paging

variable {F : Type*}

/-- The steps of the proxy. -/
abbrev EgressStep (F : Type*) :=
  Machine.Event (EgressProxy F) (EgressCall F) (Option EgressDecision)

/-- What a step has decided; a connection that is logged was allowed. -/
def EgressStep.decision (ev : EgressStep F) : EgressDecision := ev.output.getD .allow

/-- The last `n` steps that leave an event. -/
def kept (evs : List (EgressStep F)) (n : ℕ) : List (EgressStep F) :=
  let logged := evs.filter fun ev => ev.input.op.subject.isSome
  logged.drop (logged.length - n)

theorem EgressDecision.value_injective : Function.Injective EgressDecision.value := by
  intro a b
  cases a <;> cases b <;> simp [value]

theorem EgressDecision.value_eq_allow_iff (d : EgressDecision) :
    d.value = "allow" ↔ d = .allow :=
  value_injective.eq_iff (b := .allow)

theorem Leaves.decision_eq {ev : EgressStep F} {e : EgressEvent F} (h : Leaves ev e) :
    e.decision = ev.decision.value := h.decision

/-- What is counted of the steps is counted of the events. -/
theorem countP_eq_of_forall₂ {α β : Type*} {R : α → β → Prop} {p : α → Bool} {q : β → Bool}
    {as : List α} {bs : List β} (h : List.Forall₂ R as bs)
    (hpq : ∀ a b, R a b → (p a = true ↔ q b = true)) : as.countP p = bs.countP q := by
  rw [List.countP_eq_length_filter, List.countP_eq_length_filter]
  exact (List.rel_filter hpq h).length_eq

theorem isSome_eq_of_rel {α β : Type*} {R : α → β → Prop} {a : Option α} {b : Option β}
    (h : Option.Rel R a b) : a.isSome = b.isSome := by
  cases h <;> rfl

/-! ## The events that are kept -/

variable [PyArith F]

/-- The buffer holds the events of the last steps, and there are as many as the statistics
    say. -/
theorem leaves_kept (py : Python) (maxSize rate : ℤ) (cs : List (EgressCall F)) :
    let p := (egress F py).run (.new maxSize rate) cs
    let evs := (egress F py).events (.new maxSize rate) cs
    List.Forall₂ Leaves (kept evs p.events.length) p.events ∧ p.events.length ≤ 10000 ∧
      min (evs.countP fun ev => ev.input.op.subject.isSome) 5000 ≤ p.events.length := by
  intro p evs
  obtain ⟨trail, hleaves, hkeeps⟩ := trailed_run py maxSize rate cs
  have hlength : trail.length = evs.countP fun ev => ev.input.op.subject.isSome := by
    rw [List.countP_eq_length_filter]
    exact hleaves.length_eq.symm
  refine ⟨?_, hkeeps.length_le, hlength ▸ hkeeps.le_length⟩
  have hdrop : p.events = trail.drop (trail.length - p.events.length) :=
    List.suffix_iff_eq_drop.1 hkeeps.suffix
  have hforall := List.forall₂_drop (trail.length - p.events.length) hleaves
  rw [← hdrop] at hforall
  rw [kept, hleaves.length_eq]
  exact hforall

/-! ## Queries -/

/-- Whether a query asks for the event of a step. -/
def EgressStep.isAskedFor (agentId decision : Option String) (ev : EgressStep F) : Bool :=
  (ev.input.op.subject.any fun s => passesFilter agentId s.1) &&
    passesFilter decision ev.decision.value

/-- In every run, a query returns the last events that match, as many as it asks for at most, the
    last one first: one for each of the last steps that match among those whose events are
    kept, with its agent, task, host and port, and the decision that was returned. -/
theorem egress_queries (py : Python) (maxSize rate : ℤ) (cs : List (EgressCall F))
    (agentId decision : Option String) (limit : ℤ) :
    let p := (egress F py).run (.new maxSize rate) cs
    let found := (kept ((egress F py).events (.new maxSize rate) cs) p.events.length).filter
      (EgressStep.isAskedFor agentId decision)
    List.Forall₂ Leaves (found.drop (found.length - limit.toNat))
      (p.getEvents agentId decision limit).reverse := by
  intro p found
  obtain ⟨hkept, -, -⟩ := leaves_kept py maxSize rate cs
  have hfound : List.Forall₂ Leaves found
      (p.events.filter fun e => passesFilter agentId e.agentId &&
        passesFilter decision e.decision) := by
    refine List.rel_filter (fun ev e h => ?_) hkept
    simp only [EgressStep.isAskedFor, h.subject, Option.any_some, h.decision_eq]
  have hpage : (p.getEvents agentId decision limit).reverse =
      (p.events.filter fun e => passesFilter agentId e.agentId &&
        passesFilter decision e.decision).drop (found.length - limit.toNat) := by
    rw [EgressProxy.getEvents_eq, page, List.drop_zero, List.filter_reverse, List.take_reverse,
      List.reverse_reverse, hfound.length_eq]
  rw [hpage]
  exact List.forall₂_drop _ hfound

/-! ## Statistics -/

omit [PyArith F] in
/-- The denials are counted under their decisions. -/
theorem getD_denialReasons (p : EgressProxy F) {reason : String} (h : reason ≠ "allow") :
    (p.getStatistics.denialReasons.get? reason).getD 0 =
      p.events.countP fun e => e.decision = reason := by
  have hfold (events : List (EgressEvent F)) (d : PyDict String ℕ) :
      ((events.foldl (fun reasons e => if e.decision ≠ "allow" then reasons.count e.decision
        else reasons) d).get? reason).getD 0 =
        (d.get? reason).getD 0 + events.countP fun e => e.decision = reason := by
    induction events generalizing d with
    | nil => simp
    | cons e events ih =>
      rw [List.foldl_cons, ih, List.countP_cons]
      by_cases he : e.decision = reason
      · rw [if_pos (by rwa [he]), PyDict.getD_get?_count, if_pos he.symm]
        simp [he]
        omega
      · have hkeep : ((if e.decision ≠ "allow" then d.count e.decision else d).get? reason).getD 0 =
            (d.get? reason).getD 0 := by
          split
          · rw [PyDict.getD_get?_count, if_neg (Ne.symm he), Nat.add_zero]
          · rfl
        rw [hkeep]
        simp [he]
  exact (hfold p.events PyDict.empty).trans (Nat.zero_add _)

/-- An agent is active once it has made a request. -/
theorem isSome_requestHistory_step (py : Python) (p : EgressProxy F) (c : EgressCall F)
    (a : String) : (((egress F py).step p c).1.requestHistory.get? a).isSome =
      ((p.requestHistory.get? a).isSome || c.op.requests py p a) := by
  have hset {d : PyDict String (List F)} (agentId : String) (ts : List F) :
      ((d.set agentId ts).get? a).isSome = ((d.get? a).isSome || decide (agentId = a)) := by
    rw [PyDict.get?_set]
    by_cases ha : a = agentId
    · simp [ha]
    · simp [ha, Ne.symm ha]
  obtain ⟨op, now⟩ := c
  cases op with
  | evaluate agentId taskId host port protocol requestSize =>
    rw [EgressOp.requests]
    obtain ⟨hrule, hhistory, _⟩ | ⟨rule, hrule, ⟨hhistory, _⟩ | ⟨hhistory, _⟩⟩ :=
      p.evaluate_requests py now agentId taskId host port protocol requestSize
    · refine (congrArg (fun d => (PyDict.get? d a).isSome) hhistory).trans ?_
      simp [hrule]
    · refine (congrArg (fun d => (PyDict.get? d a).isSome) hhistory).trans ?_
      rw [recordRequest, hset, hrule]
      simp
    · refine (congrArg (fun d => (PyDict.get? d a).isSome) hhistory).trans ?_
      rw [checkRateLimit, recordRequest, hset, hset, hrule]
      simp
  | logConnection agentId host port bytesSent bytesReceived taskId => exact hset agentId _
  | addTrustedApis =>
    refine Eq.trans ?_ (Bool.or_false _).symm
    change ((trustedAiApis.foldl _ p).requestHistory.get? a).isSome = _
    induction trustedAiApis generalizing p with
    | nil => rfl
    | cons api apis ih => exact ih _
  | addDomain => exact (Bool.or_false _).symm
  | addWildcard => exact (Bool.or_false _).symm
  | removeDomain => exact (Bool.or_false _).symm

theorem isSome_requestHistory_run (py : Python) (maxSize rate : ℤ) (cs : List (EgressCall F))
    (a : String) :
    (((egress F py).run (.new maxSize rate) cs).requestHistory.get? a).isSome ↔
      ∃ ev ∈ (egress F py).events (.new maxSize rate) cs,
        ev.input.op.requests py ev.pre a = true := by
  refine Machine.history_induction (M := egress F py) (G := fun _ _ => True)
    (P := fun evs p => (p.requestHistory.get? a).isSome ↔
      ∃ ev ∈ evs, ev.input.op.requests py ev.pre a = true) ?_ ?_ cs fun _ _ => trivial
  · simp [EgressProxy.new]
  · intro evs p c _ h
    rw [isSome_requestHistory_step, Bool.or_eq_true, h]
    simp [Machine.event, or_and_right, exists_or]

/-- In every run, the statistics count, by their decisions, the last calls whose events are kept:
    at least 5000 of them if there are so many, and at most 10000. The domains are those whose
    addition is in force, and the active agents those that have ever made a request. -/
theorem egress_statistics (py : Python) (maxSize rate : ℤ) (cs : List (EgressCall F)) :
    let st := ((egress F py).run (.new maxSize rate) cs).getStatistics
    let evs := (egress F py).events (.new maxSize rate) cs
    let last := kept evs st.totalEvents
    last.length = st.totalEvents ∧ st.totalEvents ≤ 10000 ∧
      min (evs.countP fun ev => ev.input.op.subject.isSome) 5000 ≤ st.totalEvents ∧
      st.allowed = last.countP (fun ev => ev.decision = .allow) ∧
      st.denied = last.countP (fun ev => ev.decision ≠ .allow) ∧
      (∀ d, d ≠ .allow → (st.denialReasons.get? d.value).getD 0 =
        last.countP fun ev => ev.decision = d) ∧
      st.allowedDomains = {host | (limitsInForce cs host).isSome}.ncard ∧
      st.activeAgents = {a | ∃ ev ∈ evs, ev.input.op.requests py ev.pre a = true}.ncard := by
  intro st evs last
  obtain ⟨hkept, hle, hmin⟩ := leaves_kept py maxSize rate cs
  refine ⟨hkept.length_eq, hle, hmin, ?_, ?_, fun d hd => ?_, ?_, ?_⟩
  · refine (countP_eq_of_forall₂ hkept fun ev e h => ?_).symm
    simp [h.decision_eq, EgressDecision.value_eq_allow_iff]
  · refine (countP_eq_of_forall₂ hkept fun ev e h => ?_).symm
    simp [h.decision_eq, EgressDecision.value_eq_allow_iff]
  · rw [getD_denialReasons _ (mt d.value_eq_allow_iff.1 hd)]
    refine (countP_eq_of_forall₂ hkept fun ev e h => ?_).symm
    simp [h.decision_eq, EgressDecision.value_injective.eq_iff]
  · refine (PyDict.size_eq_ncard _).trans (congrArg Set.ncard ?_)
    ext host
    have hrel := (CarriesLimits.run py maxSize rate cs).rules host
    exact Bool.eq_iff_iff.1 (isSome_eq_of_rel hrel).symm
  · refine (PyDict.size_eq_ncard _).trans (congrArg Set.ncard ?_)
    ext a
    exact isSome_requestHistory_run py maxSize rate cs a

end VibeShield
