import VibeShield.Layer2.Liveness

/-!
# Heartbeats for many agents

A batch is to have one result for each agent, in the order of the agents, which is the one that
the agent gets alone (`ReportsEach`). But an exception ends the call without any result. A
reply that ends in one may come from any of the agents: a body that is no JSON object, or one
that cannot be decoded. `batch_reports_each_iff` says for which replies the batch has all
results.
-/

/-- There are elements that are related to those of a list, if there is one for each. -/
theorem exists_forall₂_iff {α β : Type*} {R : α → β → Prop} {l : List α} :
    (∃ l', List.Forall₂ R l l') ↔ ∀ a ∈ l, ∃ b, R a b := by
  induction l with
  | nil => exact iff_of_true ⟨[], .nil⟩ (List.forall_mem_nil _)
  | cons a l ih =>
    rw [List.forall_mem_cons, ← ih]
    constructor
    · rintro ⟨_, _ | ⟨hb, hl⟩⟩
      exact ⟨⟨_, hb⟩, _, hl⟩
    · rintro ⟨⟨b, hb⟩, l', hl⟩
      exact ⟨b :: l', .cons hb hl⟩

namespace VibeShield

namespace OrchestrationEngine

variable {F : Type*} [PyArith F] (lib : HttpLib) (e : OrchestrationEngine F)

/-- There is a result for every agent, the one that its heartbeat alone has. -/
def ReportsEach (ss : List (HeartbeatSend F)) : Prop :=
  ∃ results, (e.batchHeartbeat lib ss).2 = .ok results ∧
    List.Forall₂ (fun s r => r.agentId = s.agentId ∧ (e.sendHeartbeat lib s).2 = .ok r) ss results

/-- The reply ends in a result. -/
def Reportable : Except RequestError HttpResponse → Prop
  /- The body of an error is decoded and parsed, where two exceptions are caught. -/
  | .error (.httpError _ body _) => ∀ err, (body >>= lib.py.loads) = .error err →
    err.cls = .jsonDecodeError ∨ err.cls = .attributeError
  | .error (.urlError _) => True
  | .error (.other err) => err.cls = .osError
  /- The body of a response is an object. An `OSError` is caught. -/
  | .ok resp => (∃ items, readData lib resp = .ok (.dict items)) ∨
    ∃ err, readData lib resp = .error err ∧ err.cls = .osError

variable {lib e} {s : HeartbeatSend F}

/-! ## One heartbeat -/

omit [PyArith F] in
theorem isOk_refused_iff {code : ℤ} {body : Except PyErr String} {text : String} :
    (∃ r, refused lib e s code body text = .ok r) ↔
      ∀ err, (body >>= lib.py.loads) = .error err →
        err.cls = .jsonDecodeError ∨ err.cls = .attributeError := by
  have hdetail : (∃ r, refused lib e s code body text = .ok r) ↔
      ∃ detail, errorDetail lib body text = .ok detail := by
    rw [refused]
    cases errorDetail lib body text with
    | ok detail => exact iff_of_true ⟨_, rfl⟩ ⟨detail, rfl⟩
    | error err => exact iff_of_false (fun ⟨_, h⟩ => by cases h) fun ⟨_, h⟩ => by cases h
  rw [hdetail, errorDetail]
  cases body >>= lib.py.loads with
  | ok v => cases v <;> exact iff_of_true ⟨_, rfl⟩ fun _ h => by cases h
  | error err =>
    dsimp only
    by_cases hcaught : err.cls = .jsonDecodeError ∨ err.cls = .attributeError
    · rw [if_pos hcaught]
      exact iff_of_true ⟨_, rfl⟩ fun _ h => Except.error.inj h ▸ hcaught
    · rw [if_neg hcaught]
      exact iff_of_false (fun ⟨_, h⟩ => by cases h) fun h => hcaught (h err rfl)

omit [PyArith F] in
theorem isOk_failed_iff {err : PyErr} : (∃ r, failed e s err = .ok r) ↔ err.cls = .osError := by
  rw [failed]
  by_cases hcls : err.cls = .osError
  · rw [if_pos hcls]
    exact iff_of_true ⟨_, rfl⟩ hcls
  · rw [if_neg hcls]
    exact iff_of_false (fun ⟨_, h⟩ => by cases h) hcls

/-- A heartbeat has a result exactly if the reply ends in one. -/
theorem isOk_sendHeartbeat_iff (hdumps : ∃ text, lib.dumps (heartbeatBody s) = .ok text) :
    (∃ r, (e.sendHeartbeat lib s).2 = .ok r) ↔ Reportable lib s.reply := by
  obtain ⟨text, htext⟩ := hdumps
  unfold sendHeartbeat
  rw [htext]
  cases s.reply with
  | error err =>
    cases err with
    | httpError code body text => exact isOk_refused_iff
    | urlError reason => exact iff_of_true ⟨_, rfl⟩ trivial
    | other err => exact isOk_failed_iff
  | ok resp =>
    rw [Reportable]
    dsimp only
    cases readData lib resp with
    | error err =>
      refine isOk_failed_iff.trans ⟨fun h => .inr ⟨err, rfl, h⟩, ?_⟩
      rintro (⟨items, h⟩ | ⟨err', h, hcls⟩)
      · cases h
      · cases h
        exact hcls
    | ok data =>
      cases data with
      | dict items => exact iff_of_true ⟨_, rfl⟩ (.inl ⟨items, rfl⟩)
      | _ =>
        refine iff_of_false (fun ⟨_, h⟩ => by cases h) ?_
        rintro (⟨items, h⟩ | ⟨err', h, -⟩)
        · cases h
        · cases h

/-- The result is for the agent. -/
theorem agentId_sendHeartbeat {r : HeartbeatResult F} (h : (e.sendHeartbeat lib s).2 = .ok r) :
    r.agentId = s.agentId := by
  unfold sendHeartbeat at h
  split at h
  · cases h
  · split at h
    · exact (result_of_refused lib e s h).1
    · cases h
      rfl
    · exact (result_of_failed e s h).1
    · split at h
      · exact (result_of_failed e s h).1
      · cases h
        rfl
      · cases h

/-- Of the engine, only the configuration matters for the result. -/
theorem sendHeartbeat_congr {e' : OrchestrationEngine F} (h : e.config = e'.config) :
    (e.sendHeartbeat lib s).2 = (e'.sendHeartbeat lib s).2 := by
  have hresult (status : HeartbeatStatus) (httpStatus : ℤ) (message : String) (k : ℕ) :
      heartbeatResult e s status httpStatus message k =
        heartbeatResult e' s status httpStatus message k := by
    simp only [heartbeatResult, heartbeatUrl, h]
  have hfailed (err : PyErr) : failed e s err = failed e' s err := by
    rw [failed, failed, hresult]
  unfold sendHeartbeat
  cases lib.dumps (heartbeatBody s) with
  | error err => rfl
  | ok text =>
    cases s.reply with
    | error err =>
      cases err with
      | httpError code body text => simp only [refused, hresult]
      | urlError reason => simp only [hresult]
      | other err => exact hfailed err
    | ok resp =>
      dsimp only
      cases readData lib resp with
      | error err => exact hfailed err
      | ok data =>
        cases data with
        | dict items => exact congrArg Except.ok (hresult _ _ _ _)
        | _ => rfl

/-! ## The batch -/

/-- A batch has a result for every agent if every heartbeat has one. The results are those of
    any engine with the same configuration, in particular the one before the batch. -/
theorem batchHeartbeat_eq_ok {ss : List (HeartbeatSend F)} {results : List (HeartbeatResult F)}
    (h : List.Forall₂ (fun s r => (e.sendHeartbeat lib s).2 = .ok r) ss results)
    {e' : OrchestrationEngine F} (hconfig : e'.config = e.config) :
    (e'.batchHeartbeat lib ss).2 = .ok results := by
  induction h generalizing e' with
  | nil => rfl
  | @cons s r ss results hs _ ih =>
    rw [← sendHeartbeat_congr hconfig] at hs
    have hnext : (e'.sendHeartbeat lib s).1.config = e.config :=
      (config_sendHeartbeat lib e' s).trans hconfig
    have hrest := ih hnext
    rw [batchHeartbeat]
    cases hsend : e'.sendHeartbeat lib s with
    | mk e'' result =>
      rw [hsend] at hs hrest
      obtain rfl : result = .ok r := hs
      dsimp only at hrest ⊢
      cases hbatch : e''.batchHeartbeat lib ss with
      | mk e''' results' =>
        rw [hbatch] at hrest
        obtain rfl : results' = .ok results := hrest
        rfl

end OrchestrationEngine

open OrchestrationEngine

/-- A batch has the result of every agent, in their order and each as if it were alone, if and
    only if no reply ends in an exception. -/
theorem batch_reports_each_iff {F : Type*} [PyArith F] (lib : HttpLib) (e : OrchestrationEngine F)
    (ss : List (HeartbeatSend F))
    (hdumps : ∀ s ∈ ss, ∃ text, lib.dumps (heartbeatBody s) = .ok text) :
    e.ReportsEach lib ss ↔ ∀ s ∈ ss, Reportable lib s.reply := by
  have hresults : (∃ results,
      List.Forall₂ (fun s r => (e.sendHeartbeat lib s).2 = .ok r) ss results) ↔
        ∀ s ∈ ss, Reportable lib s.reply :=
    exists_forall₂_iff.trans (forall₂_congr fun s hs => isOk_sendHeartbeat_iff (hdumps s hs))
  rw [← hresults]
  constructor
  · rintro ⟨results, -, h⟩
    exact ⟨results, h.imp fun s r hr => hr.2⟩
  · rintro ⟨results, h⟩
    exact ⟨results, batchHeartbeat_eq_ok h rfl,
      h.imp fun s r hr => ⟨agentId_sendHeartbeat hr, hr⟩⟩

namespace Sample

/-- A heartbeat with this reply. -/
def oddSend (reply : Except RequestError HttpResponse) : HeartbeatSend ℚ :=
  { heartbeatSend "ONLINE" with reply := reply }

/-- The server accepts the heartbeat, and its reply is not JSON. -/
def oddReply : Except RequestError HttpResponse := .ok ⟨200, .ok "<html>"⟩

/-- A reply that is no JSON takes the results of both agents away. -/
theorem batch_aborted :
    ¬orchestrator.ReportsEach httpLib [heartbeatSend "ONLINE", oddSend oddReply] := by
  rintro ⟨results, hresults, -⟩
  have herror : (orchestrator.batchHeartbeat httpLib
      [heartbeatSend "ONLINE", oddSend oddReply]).2.toOption.isSome = false := by decide +kernel
  rw [hresults] at herror
  cases herror

/-- Refusals and connection errors are reported. -/
theorem batch_reported : orchestrator.ReportsEach httpLib
    [oddSend (.error (.httpError 502 (.ok "<html>") "HTTP Error 502: Bad Gateway")),
      oddSend (.error (.urlError "timed out"))] := by
  refine (batch_reports_each_iff httpLib orchestrator _ fun s hs => ?_).2 fun s hs => ?_
  · rcases List.mem_pair.1 hs with rfl | rfl
    · exact ⟨_, rfl⟩
    · exact ⟨_, rfl⟩
  · rcases List.mem_pair.1 hs with rfl | rfl
    · rintro err herr
      exact .inl (Except.error.inj herr ▸ rfl)
    · trivial

end Sample

end VibeShield
