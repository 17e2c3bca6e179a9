import VibeShield.Security.Egress.Model

/-!
# The trail of events

Every evaluation and every logged connection leaves one event in the buffer of the proxy,
and the decision of the event is the one the call returned. The buffer is trimmed to the
last 5000 events when there are more than 10000; so after any run it holds the last events
of the whole trail, in order, and at least 5000 of them if there are so many
(`egress_trail_complete`).
-/

namespace VibeShield

variable {F : Type*}

/-! ## The buffer -/

/-- What of the events is kept: the last 5000, if there are more than 10000. -/
def retained (events : List (EgressEvent F)) : List (EgressEvent F) :=
  if 10000 < events.length then events.drop (events.length - 5000) else events

/-- The buffer holds the last events of the trail. -/
structure EgressProxy.Keeps (p : EgressProxy F) (trail : List (EgressEvent F)) : Prop where
  suffix : p.events <:+ trail
  length_le : p.events.length ≤ 10000
  le_length : min trail.length 5000 ≤ p.events.length

theorem retained_isSuffix (events : List (EgressEvent F)) : retained events <:+ events := by
  rw [retained]
  split
  · exact List.drop_suffix _ _
  · exact List.suffix_refl _

theorem length_retained (events : List (EgressEvent F)) :
    (retained events).length = if 10000 < events.length then 5000 else events.length := by
  rw [retained]
  split
  · rw [List.length_drop]
    omega
  · rfl

/-- After one more event, the buffer still holds the last ones. -/
theorem EgressProxy.Keeps.append {p q : EgressProxy F} {trail : List (EgressEvent F)}
    (h : p.Keeps trail) {e : EgressEvent F} (hq : q.events = retained (p.events ++ [e])) :
    q.Keeps (trail ++ [e]) := by
  obtain ⟨before, hbefore⟩ := h.suffix
  have hlength : q.events.length = if 10000 < p.events.length + 1 then 5000
      else p.events.length + 1 := by
    rw [hq, length_retained, List.length_append, List.length_singleton]
  have hle := h.length_le
  have hmin := h.le_length
  refine ⟨?_, ?_, ?_⟩
  · rw [hq, ← hbefore, List.append_assoc]
    exact (retained_isSuffix _).trans (List.suffix_append before _)
  · split at hlength <;> omega
  · rw [List.length_append, List.length_singleton]
    split at hlength <;> omega

/-! ## The statistics -/

/-- Every event is counted as allowed or as denied. -/
theorem EgressProxy.allowed_add_denied (p : EgressProxy F) :
    p.getStatistics.allowed + p.getStatistics.denied = p.events.length := by
  have hsplit := List.length_eq_countP_add_countP (fun e : EgressEvent F => e.decision = "allow")
    (l := p.events)
  rw [hsplit]
  simp [getStatistics]

/-- Every event that is denied is counted under its reason. -/
theorem EgressProxy.total_denialReasons (p : EgressProxy F) :
    p.getStatistics.denialReasons.total = p.getStatistics.denied := by
  have hfold (events : List (EgressEvent F)) (d : PyDict String ℕ) :
      (events.foldl (fun reasons e => if e.decision ≠ "allow" then reasons.count e.decision
        else reasons) d).total = d.total + events.countP fun e => e.decision ≠ "allow" := by
    induction events generalizing d with
    | nil => rfl
    | cons e events ih =>
      rw [List.foldl_cons, ih]
      by_cases he : e.decision ≠ "allow"
      · rw [if_pos he, PyDict.total_count, List.countP_cons_of_pos (by simpa using he)]
        omega
      · rw [if_neg he, List.countP_cons_of_neg (by simpa using he)]
  exact (hfold p.events PyDict.empty).trans (Nat.zero_add _)

/-! ## One call -/

/-- The agent, the task, the host and the port that a call is about, if it leaves an
    event. -/
def EgressOp.subject : EgressOp → Option (String × String × String × ℤ)
  | .evaluate agentId taskId host port _ _ => some (agentId, taskId, host, port)
  | .logConnection agentId host port _ _ taskId => some (agentId, taskId, host, port)
  | _ => none

namespace EgressProxy

variable [PyArith F] (py : Python) (p : EgressProxy F) (now : ℕ → F)

/-- Whichever way an evaluation ends, it records one event, with the decision it returns. -/
theorem evaluate_records (agentId taskId host : String) (port : ℤ) (protocol : String)
    (requestSize : ℤ) :
    let q := p.evaluate py now agentId taskId host port protocol requestSize
    ∃ e : EgressEvent F, q.1.events = retained (p.events ++ [e]) ∧
      e.decision = q.2.value ∧ (e.agentId, e.taskId, e.host, e.port) =
        (agentId, taskId, host, port) ∧ e.volume = 0 := by
  dsimp only [evaluate]
  split
  · exact ⟨_, rfl, rfl, rfl, rfl⟩
  · next rule _ =>
    by_cases hprotocol : py.lower protocol ≠ rule.protocol.value
    · rw [if_pos hprotocol]
      exact ⟨_, rfl, rfl, rfl, rfl⟩
    · rw [if_neg hprotocol]
      -- Checking the rate limit leaves the events alone.
      have hevents : ((p.recordRequest (now 0) agentId).checkRateLimit (now 1) agentId
          rule).1.events = p.events := rfl
      generalize (p.recordRequest (now 0) agentId).checkRateLimit (now 1) agentId rule = x at *
      obtain ⟨p', within⟩ := x
      rw [← show p'.events = p.events from hevents]
      cases within with
      | false => exact ⟨_, rfl, rfl, rfl, rfl⟩
      | true =>
        dsimp only
        split_ifs
        · exact ⟨_, rfl, rfl, rfl, rfl⟩
        · exact ⟨_, rfl, rfl, rfl, rfl⟩

end EgressProxy

/-- A step of the proxy that leaves the event `e`. -/
structure Leaves
    (ev : Machine.Event (EgressProxy F) (EgressCall F) (Option EgressDecision))
    (e : EgressEvent F) : Prop where
  /-- Exactly this event is appended. -/
  events : ev.post.events = retained (ev.pre.events ++ [e])
  /-- The event tells what an evaluation returned; a connection that is logged was
      allowed. -/
  decision : e.decision = (ev.output.getD .allow).value
  subject : ev.input.op.subject = some (e.agentId, e.taskId, e.host, e.port)

variable [PyArith F] {py : Python} {p : EgressProxy F} {c : EgressCall F}

/-- An evaluation, or the logging of a connection, leaves one event, without any volumes. -/
theorem exists_leaves (h : c.op.subject.isSome) :
    ∃ e, Leaves ((egress F py).event p c) e ∧ e.volume = 0 := by
  obtain ⟨op, now⟩ := c
  cases op with
  | evaluate agentId taskId host port protocol requestSize =>
    obtain ⟨e, hevents, hdecision, hsubject, hvolume⟩ :=
      p.evaluate_records py now agentId taskId host port protocol requestSize
    exact ⟨e, ⟨hevents, hdecision, congrArg some hsubject.symm⟩, hvolume⟩
  | logConnection => exact ⟨_, ⟨rfl, rfl, rfl⟩, rfl⟩
  | _ => exact absurd h Bool.false_ne_true

/-- Changes of the allowlist leave no event. -/
theorem events_step_of_subject_none (h : c.op.subject = none) :
    ((egress F py).step p c).1.events = p.events := by
  obtain ⟨op, now⟩ := c
  cases op with
  | evaluate => exact absurd h (by simp [EgressOp.subject])
  | logConnection => exact absurd h (by simp [EgressOp.subject])
  | addTrustedApis =>
    change (trustedAiApis.foldl _ p).events = p.events
    induction trustedAiApis generalizing p with
    | nil => rfl
    | cons api apis ih => exact ih
  | _ => rfl

/-! ## Runs -/

/-- The state after the steps `evs` holds the last of the events they left. -/
def Trailed (evs : List (Machine.Event (EgressProxy F) (EgressCall F) (Option EgressDecision)))
    (p : EgressProxy F) : Prop :=
  ∃ trail : List (EgressEvent F),
    List.Forall₂ Leaves (evs.filter fun ev => ev.input.op.subject.isSome) trail ∧ p.Keeps trail

theorem Trailed.step
    {evs : List (Machine.Event (EgressProxy F) (EgressCall F) (Option EgressDecision))}
    (h : Trailed evs p) :
    Trailed (evs ++ [(egress F py).event p c]) ((egress F py).step p c).1 := by
  obtain ⟨trail, hleaves, hkeeps⟩ := h
  cases hsubject : c.op.subject with
  | none =>
    have hevents : ((egress F py).step p c).1.events = p.events :=
      events_step_of_subject_none hsubject
    refine ⟨trail, ?_, hevents ▸ hkeeps.suffix, hevents ▸ hkeeps.length_le,
      hevents ▸ hkeeps.le_length⟩
    rw [List.filter_append, List.filter_cons_of_neg (by simp [Machine.event, hsubject])]
    simpa using hleaves
  | some subject =>
    have hlogged : c.op.subject.isSome = true := Option.isSome_iff_exists.2 ⟨_, hsubject⟩
    obtain ⟨e, he, -⟩ := exists_leaves (p := p) hlogged
    refine ⟨trail ++ [e], ?_, hkeeps.append he.events⟩
    rw [List.filter_append, List.filter_cons_of_pos (by simpa [Machine.event] using hlogged)]
    exact List.rel_append hleaves (.cons he .nil)

theorem trailed_run (py : Python) (maxSize rate : ℤ) (cs : List (EgressCall F)) :
    Trailed ((egress F py).events (.new maxSize rate) cs)
      ((egress F py).run (.new maxSize rate) cs) :=
  Machine.history_induction (M := egress F py) (G := fun _ _ => True) (P := Trailed)
    ⟨[], .nil, List.suffix_refl _, Nat.zero_le _, Nat.zero_le _⟩ (fun _ _ _ _ h => h.step) cs
    fun _ _ => trivial

/-- In every run, each evaluation and each logged connection leaves one event, with the
    decision it returned; the buffer holds the last of these events, in order, at most
    10000 and at least 5000 if there are so many; and the statistics count each event of
    the buffer once, and each denied one under its reason. -/
theorem egress_trail_complete (py : Python) (maxSize rate : ℤ) (cs : List (EgressCall F)) :
    ∃ trail : List (EgressEvent F),
      List.Forall₂ Leaves (((egress F py).events (.new maxSize rate) cs).filter
        fun ev => ev.input.op.subject.isSome) trail ∧
      ((egress F py).run (.new maxSize rate) cs).Keeps trail ∧
      ((egress F py).run (.new maxSize rate) cs).getStatistics.allowed +
          ((egress F py).run (.new maxSize rate) cs).getStatistics.denied =
        ((egress F py).run (.new maxSize rate) cs).events.length ∧
      ((egress F py).run (.new maxSize rate) cs).getStatistics.denialReasons.total =
        ((egress F py).run (.new maxSize rate) cs).getStatistics.denied := by
  obtain ⟨trail, hleaves, hkeeps⟩ := trailed_run py maxSize rate cs
  exact ⟨trail, hleaves, hkeeps, EgressProxy.allowed_add_denied _,
    EgressProxy.total_denialReasons _⟩

end VibeShield
