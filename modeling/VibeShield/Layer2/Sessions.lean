import Mathlib.Data.List.Induction
import VibeShield.Layer2.Batch

/-!
# Sessions of the orchestration engine

The engine as a machine (`orchestration`): heartbeats are sent, one at a time or for a list of
agents, and it is asked for the health of an agent and for its uptime.

* The uptime of an agent is the time since the last heartbeat for it that the server accepted, and
  the health of the agent is told by its uptime (`uptime_exact`).
* What is answered about an agent depends on the calls about it alone, and not on the nonces that
  have been used (`agents_isolated`): a nonce is never looked up.
* The nonces in the cache are those that were used in the 300 seconds before the last accepted
  heartbeat (`nonces_cached`).
-/

namespace VibeShield

open OrchestrationEngine

variable {F : Type*} [PyArith F]

/-- The seconds since the last accepted heartbeat, if there was one. -/
def OrchestrationEngine.getUptime (e : OrchestrationEngine F) (now : F) (agentId : String) :
    Option F :=
  (e.lastHeartbeat.get? agentId).map (PyArith.sub now)

/-- A call of the engine. -/
inductive EngineCall (F : Type*)
  | heartbeat (c : HeartbeatCall F)
  | health (now : F) (agentId : String)
  | uptime (now : F) (agentId : String)

/-- What the engine answers. -/
inductive EngineAnswer (F : Type*)
  | result (r : Except PyErr (HeartbeatResult F))
  | results (r : Except PyErr (List (HeartbeatResult F)))
  | health (status : HeartbeatStatus)
  | uptime (seconds : Option F)

/-- The engine as a machine. -/
def orchestration (lib : HttpLib) :
    Machine (OrchestrationEngine F) (EngineCall F) (EngineAnswer F) where
  step e
    | .heartbeat (.send s) => (e.sendHeartbeat lib s).map id .result
    | .heartbeat (.batch ss) => (e.batchHeartbeat lib ss).map id .results
    | .health now agentId => (e, .health (e.checkAgentHealth now agentId))
    | .uptime now agentId => (e, .uptime (e.getUptime now agentId))

namespace EngineCall

/-- The call, if it sends heartbeats. -/
def heartbeat? : EngineCall F → Option (HeartbeatCall F)
  | heartbeat c => some c
  | health _ _ | uptime _ _ => none

/-- Whether the call is about the agent. -/
def isAbout (agentId : String) : EngineCall F → Bool
  | heartbeat (.send s) => s.agentId = agentId
  | heartbeat (.batch ss) => ss.any fun s => s.agentId = agentId
  | health _ a | uptime _ a => a = agentId

end EngineCall

/-- The value can be read, and is a JSON object. -/
def readsObject : Except PyErr PyVal → Bool
  | .ok (.dict _) => true
  | _ => false

/-- The server accepts the heartbeat. -/
def HeartbeatSend.accepted (lib : HttpLib) (s : HeartbeatSend F) : Bool :=
  match lib.dumps (heartbeatBody s), s.reply with
  | .ok _, .ok resp => readsObject (readData lib resp)
  | _, _ => false

/-- The last heartbeat of a list that is accepted and has the property. -/
def lastAccepted (lib : HttpLib) (p : HeartbeatSend F → Bool) (ss : List (HeartbeatSend F)) :
    Option (HeartbeatSend F) :=
  (ss.filter fun s => s.accepted lib && p s).getLast?

/-- The heartbeats that were sent in a session. -/
def sentIn (lib : HttpLib) (e : OrchestrationEngine F) (cs : List (EngineCall F)) :
    List (HeartbeatSend F) :=
  HeartbeatCall.sentAll lib e (cs.filterMap EngineCall.heartbeat?)

/-- The status of an agent with this uptime. -/
def OrchestratorConfig.healthAt (config : OrchestratorConfig) (uptime : F) : HeartbeatStatus :=
  if PyArith.lt uptime (PyArith.lit (config.heartbeatInterval * 2)) then .live
  else if PyArith.lt uptime (PyArith.lit config.offlineThreshold) then .stale
  else .offline

/-! ## One heartbeat -/

section Send

variable (lib : HttpLib) (e : OrchestrationEngine F) (s : HeartbeatSend F)

/-- An accepted heartbeat is recorded with its nonce, another one leaves the engine as it is. -/
theorem fst_sendHeartbeat :
    (e.sendHeartbeat lib s).1 =
      if s.accepted lib then
        { e with
          lastHeartbeat := e.lastHeartbeat.set s.agentId (s.now 0)
          nonceCache := cleanupNonces (e.nonceCache.set s.nonce (s.now 1)) (s.now 2)
            (PyArith.lit 300) }
      else e := by
  unfold sendHeartbeat
  cases hdumps : lib.dumps (heartbeatBody s) with
  | error err => simp [HeartbeatSend.accepted, hdumps]
  | ok text =>
    cases hreply : s.reply with
    | error err => cases err <;> simp [HeartbeatSend.accepted, hdumps, hreply]
    | ok resp =>
      dsimp only
      have haccepted : s.accepted lib = readsObject (readData lib resp) := by
        rw [HeartbeatSend.accepted, hdumps, hreply]
      rw [haccepted]
      cases readData lib resp with
      | error err => rfl
      | ok data => cases data <;> rfl

end Send

omit [PyArith F] in
theorem lastAccepted_concat (lib : HttpLib) (p : HeartbeatSend F → Bool)
    (ss : List (HeartbeatSend F)) (s : HeartbeatSend F) :
    lastAccepted lib p (ss ++ [s]) =
      if s.accepted lib && p s then some s else lastAccepted lib p ss := by
  rw [lastAccepted, lastAccepted, List.filter_append, List.filter_singleton]
  cases s.accepted lib && p s with
  | true => exact List.getLast?_concat
  | false => exact congrArg List.getLast? (List.append_nil _)

omit [PyArith F] in
theorem mem_of_lastAccepted {lib : HttpLib} {p : HeartbeatSend F → Bool}
    {ss : List (HeartbeatSend F)} {s : HeartbeatSend F} (h : lastAccepted lib p ss = some s) :
    s ∈ ss :=
  List.mem_of_mem_filter (List.mem_of_getLast? h)

omit [PyArith F] in
theorem exists_lastAccepted {lib : HttpLib} {p : HeartbeatSend F → Bool}
    {ss : List (HeartbeatSend F)} {s : HeartbeatSend F} (h : lastAccepted lib p ss = some s) :
    ∃ s', lastAccepted lib (fun _ => true) ss = some s' := by
  have hmem := List.mem_filter.1 (List.mem_of_getLast? h)
  have haccepted : s ∈ ss.filter fun s => s.accepted lib && true := by
    rw [Bool.and_eq_true] at hmem
    exact List.mem_filter.2 ⟨hmem.1, by rw [Bool.and_true, hmem.2.1]⟩
  exact ⟨_, List.getLast?_eq_some_getLast (List.ne_nil_of_mem haccepted)⟩

/-! ## The uptime -/

section Uptime

variable (lib : HttpLib) (config : OrchestratorConfig) (nonceCache : PyDict String F)

/-- A session leads where its heartbeats lead. -/
theorem orchestration_run (e : OrchestrationEngine F) (cs : List (EngineCall F)) :
    (orchestration lib).run e cs = (heartbeats lib).run e (sentIn lib e cs) := by
  rw [sentIn, ← HeartbeatCall.execAll_eq_run]
  induction cs generalizing e with
  | nil => rfl
  | cons c cs ih =>
    rw [Machine.run, ih]
    cases c with
    | heartbeat c => cases c <;> rfl
    | health now agentId => rfl
    | uptime now agentId => rfl

theorem lastHeartbeat_run (ss : List (HeartbeatSend F)) (agentId : String) :
    ((heartbeats lib).run (.new config nonceCache) ss).lastHeartbeat.get? agentId =
      (lastAccepted lib (fun s => s.agentId = agentId) ss).map fun s => s.now 0 := by
  induction ss using List.reverseRecOn with
  | nil => rfl
  | append_singleton ss s ih =>
    have hstep := fst_sendHeartbeat lib ((heartbeats lib).run (.new config nonceCache) ss) s
    rw [Machine.run_concat, lastAccepted_concat]
    change (OrchestrationEngine.sendHeartbeat lib _ s).1.lastHeartbeat.get? agentId = _
    rw [hstep]
    cases haccepted : s.accepted lib with
    | false => simpa using ih
    | true =>
      rw [if_pos rfl, Bool.true_and, PyDict.get?_set]
      by_cases ha : s.agentId = agentId
      · simp [ha]
      · simpa [ha, Ne.symm ha] using ih

/-- After any session, the uptime of an agent is the time since the last accepted heartbeat for
    it. The health of the agent is told by its uptime, and it is offline without one. -/
theorem uptime_exact (cs : List (EngineCall F)) (now : F) (agentId : String) :
    let e := (orchestration lib).run (.new config nonceCache) cs
    let last := lastAccepted lib (fun s => s.agentId = agentId)
      (sentIn lib (.new config nonceCache) cs)
    e.getUptime now agentId = (last.map fun s => PyArith.sub now (s.now 0)) ∧
      e.checkAgentHealth now agentId =
        (last.map fun s => config.healthAt (PyArith.sub now (s.now 0))).getD .offline := by
  intro e last
  have hlast : e.lastHeartbeat.get? agentId = last.map fun s => s.now 0 := by
    rw [← lastHeartbeat_run lib config nonceCache, ← orchestration_run]
  have hconfig : e.config = config := by
    have h := config_run lib (.new config nonceCache) (sentIn lib (.new config nonceCache) cs)
    rw [← orchestration_run] at h
    exact h
  rw [getUptime, checkAgentHealth, hlast, hconfig, Option.map_map]
  refine ⟨rfl, ?_⟩
  cases last <;> rfl

end Uptime

/-! ## Other agents -/

/-- Two engines that do not differ about an agent. Their nonces may differ. -/
structure SameFor (agentId : String) (e e' : OrchestrationEngine F) : Prop where
  config : e.config = e'.config
  lastHeartbeat : e.lastHeartbeat.get? agentId = e'.lastHeartbeat.get? agentId

omit [PyArith F] in
theorem SameFor.equivalence (agentId : String) : Equivalence (SameFor (F := F) agentId) where
  refl _ := ⟨rfl, rfl⟩
  symm h := ⟨h.config.symm, h.lastHeartbeat.symm⟩
  trans h h' := ⟨h.config.trans h'.config, h.lastHeartbeat.trans h'.lastHeartbeat⟩

section Isolation

variable {lib : HttpLib} {agentId : String} {e e' : OrchestrationEngine F}

/-- A heartbeat, for whatever agent, keeps two engines alike. -/
theorem SameFor.send (h : SameFor agentId e e') (s : HeartbeatSend F) :
    SameFor agentId (e.sendHeartbeat lib s).1 (e'.sendHeartbeat lib s).1 := by
  rw [fst_sendHeartbeat, fst_sendHeartbeat]
  cases s.accepted lib with
  | false => exact h
  | true =>
    refine ⟨h.config, ?_⟩
    simp only [if_true, PyDict.get?_set, h.lastHeartbeat]

/-- A heartbeat for another agent changes nothing about this one. -/
theorem SameFor.of_send {s : HeartbeatSend F} (hs : s.agentId ≠ agentId) :
    SameFor agentId e (e.sendHeartbeat lib s).1 := by
  rw [fst_sendHeartbeat]
  cases s.accepted lib with
  | false => exact (SameFor.equivalence agentId).refl e
  | true =>
    refine ⟨rfl, ?_⟩
    simp only [if_true, PyDict.get?_set, if_neg (Ne.symm hs)]

theorem SameFor.run (h : SameFor agentId e e') (ss : List (HeartbeatSend F)) :
    SameFor agentId ((heartbeats lib).run e ss) ((heartbeats lib).run e' ss) := by
  induction ss generalizing e e' with
  | nil => exact h
  | cons s ss ih => exact ih (h.send s)

theorem SameFor.of_run {ss : List (HeartbeatSend F)} (hss : ∀ s ∈ ss, s.agentId ≠ agentId) :
    SameFor agentId e ((heartbeats lib).run e ss) :=
  Machine.invariant (G := fun _ s => s.agentId ≠ agentId) (P := SameFor agentId e)
    ((SameFor.equivalence agentId).refl e)
    (fun _ _ hs h => (SameFor.equivalence agentId).trans h (.of_send hs)) ss
    fun _ hev => hss _ (Machine.input_mem_of_mem_events hev)

/-- Which heartbeats of a batch are sent and what it answers is told by the configuration. -/
theorem batchHeartbeat_congr (h : e.config = e'.config) (ss : List (HeartbeatSend F)) :
    sentOf lib e ss = sentOf lib e' ss ∧
      (e.batchHeartbeat lib ss).2 = (e'.batchHeartbeat lib ss).2 := by
  induction ss generalizing e e' with
  | nil => exact ⟨rfl, rfl⟩
  | cons s ss ih =>
    have hconfig : (e.sendHeartbeat lib s).1.config = (e'.sendHeartbeat lib s).1.config := by
      rw [config_sendHeartbeat, config_sendHeartbeat, h]
    obtain ⟨hsent, hbatch⟩ := ih hconfig
    have hresult : (e.sendHeartbeat lib s).2 = (e'.sendHeartbeat lib s).2 := sendHeartbeat_congr h
    simp only [sentOf, batchHeartbeat]
    rcases hs : e.sendHeartbeat lib s with ⟨next, result⟩
    rcases hs' : e'.sendHeartbeat lib s with ⟨next', result'⟩
    rw [hs, hs'] at hsent hbatch hresult
    dsimp only at hsent hbatch hresult
    subst hresult
    cases result with
    | error err => exact ⟨rfl, rfl⟩
    | ok r =>
      refine ⟨congrArg (List.cons s) hsent, ?_⟩
      rcases hnext : next.batchHeartbeat lib ss with ⟨last, results⟩
      rcases hnext' : next'.batchHeartbeat lib ss with ⟨last', results'⟩
      rw [hnext, hnext'] at hbatch
      obtain rfl : results = results' := hbatch
      dsimp only
      rw [hnext, hnext']
      cases results <;> rfl

theorem mem_of_mem_sentOf {s : HeartbeatSend F} {ss : List (HeartbeatSend F)}
    (h : s ∈ sentOf lib e ss) : s ∈ ss := by
  induction ss generalizing e with
  | nil => exact h
  | cons s' ss ih =>
    rw [sentOf] at h
    split at h
    · rw [List.mem_singleton.1 h]
      exact List.mem_cons_self
    · rcases List.mem_cons.1 h with rfl | h
      · exact List.mem_cons_self
      · exact List.mem_cons_of_mem _ (ih h)

theorem orchestration_unwinding (lib : HttpLib) (agentId : String) :
    (orchestration (F := F) lib).Unwinding (EngineCall.isAbout agentId) (SameFor agentId) where
  equiv := SameFor.equivalence agentId
  low_step {e e' c} hc h := by
    cases c with
    | heartbeat c =>
      cases c with
      | send s => exact ⟨congrArg EngineAnswer.result (sendHeartbeat_congr h.config), h.send s⟩
      | batch ss =>
        have ⟨hsent, hresults⟩ : sentOf lib e ss = sentOf lib e' ss ∧
            (e.batchHeartbeat lib ss).2 = (e'.batchHeartbeat lib ss).2 :=
          batchHeartbeat_congr h.config ss
        refine ⟨congrArg EngineAnswer.results hresults, ?_⟩
        change SameFor agentId (e.batchHeartbeat lib ss).1 (e'.batchHeartbeat lib ss).1
        rw [HeartbeatCall.batchHeartbeat_fst, HeartbeatCall.batchHeartbeat_fst, hsent]
        exact h.run _
    | health now a =>
      obtain rfl : a = agentId := of_decide_eq_true hc
      refine ⟨congrArg EngineAnswer.health ?_, h⟩
      rw [checkAgentHealth, checkAgentHealth, h.lastHeartbeat, h.config]
    | uptime now a =>
      obtain rfl : a = agentId := of_decide_eq_true hc
      refine ⟨congrArg EngineAnswer.uptime ?_, h⟩
      rw [getUptime, getUptime, h.lastHeartbeat]
  high_step {e c} hc := by
    cases c with
    | heartbeat c =>
      cases c with
      | send s => exact .of_send (of_decide_eq_false hc)
      | batch ss =>
        change SameFor agentId e (e.batchHeartbeat lib ss).1
        rw [HeartbeatCall.batchHeartbeat_fst]
        refine .of_run fun s hs => ?_
        have hss : (ss.any fun s => s.agentId = agentId) = false := hc
        rw [List.any_eq_false] at hss
        simpa using hss s (mem_of_mem_sentOf hs)
    | health now a => exact (SameFor.equivalence agentId).refl e
    | uptime now a => exact (SameFor.equivalence agentId).refl e

/-- In every session, what is answered about an agent is the same as if the calls about all other
    agents were left out, and the same whichever nonces have been used before. -/
theorem agents_isolated (lib : HttpLib) (config : OrchestratorConfig)
    (used used' : PyDict String F) (agentId : String) (cs : List (EngineCall F)) :
    (orchestration lib).observed (EngineCall.isAbout agentId) (.new config used) cs =
      (orchestration lib).observed (EngineCall.isAbout agentId) (.new config used')
        (cs.filter (EngineCall.isAbout agentId)) :=
  (orchestration_unwinding lib agentId).observed_eq_filter ⟨rfl, rfl⟩

end Isolation

/-! ## Nonces -/

section Nonces

variable [LinearOrder F] [PyArith.Ordered F] (lib : HttpLib) (config : OrchestratorConfig)

theorem nonceCache_run (ss : List (HeartbeatSend F))
    (hclock : ss.Pairwise fun s s' => s.now 2 ≤ s'.now 2) (nonce : String) (used : F) :
    ((heartbeats lib).run (.new config PyDict.empty) ss).nonceCache.get? nonce = some used ↔
      ∃ s s', lastAccepted lib (fun s => s.nonce = nonce) ss = some s ∧
        lastAccepted lib (fun _ => true) ss = some s' ∧ used = s.now 1 ∧
        PyArith.sub (s'.now 2) (PyArith.lit 300) ≤ used := by
  induction ss using List.reverseRecOn with
  | nil => simp [Machine.run, OrchestrationEngine.new, lastAccepted]
  | append_singleton ss s ih =>
    obtain ⟨hss, -, hlast⟩ := List.pairwise_append.1 hclock
    specialize ih hss
    have hstep := fst_sendHeartbeat lib ((heartbeats lib).run (.new config PyDict.empty) ss) s
    rw [Machine.run_concat, lastAccepted_concat, lastAccepted_concat]
    change (OrchestrationEngine.sendHeartbeat lib _ s).1.nonceCache.get? nonce = _ ↔ _
    rw [hstep]
    cases haccepted : s.accepted lib with
    | false => simpa using ih
    | true =>
      have hkept : (!PyArith.lt used (PyArith.sub (s.now 2) (PyArith.lit 300))) = true ↔
          PyArith.sub (s.now 2) (PyArith.lit 300) ≤ used := by
        rw [Bool.not_eq_true', Bool.eq_false_iff, ne_eq, PyArith.Ordered.lt_iff, not_lt]
      rw [if_pos rfl, cleanupNonces, PyDict.get?_filter, PyDict.get?_set,
        Option.filter_eq_some_iff, hkept]
      by_cases hnonce : s.nonce = nonce
      · simp [hnonce, eq_comm]
      · rw [if_neg (Ne.symm hnonce), ih]
        simp only [hnonce, decide_false, Bool.and_false, Bool.false_eq_true, if_false,
          Bool.and_true, if_true, Option.some.injEq]
        constructor
        · rintro ⟨⟨first, _, hfirst, -, hused, -⟩, hcutoff⟩
          exact ⟨first, s, hfirst, rfl, hused, hcutoff⟩
        · rintro ⟨first, _, hfirst, rfl, hused, hcutoff⟩
          obtain ⟨s', hs'⟩ := exists_lastAccepted hfirst
          -- What is kept now was kept before, since the cutoff was earlier.
          have hearlier : PyArith.sub (s'.now 2) (PyArith.lit 300) ≤
              PyArith.sub (s.now 2) (PyArith.lit 300) :=
            PyArith.Ordered.sub_le_sub _ _ _
              (hlast s' (mem_of_lastAccepted hs') s (List.mem_singleton_self s))
          exact ⟨⟨first, s', hfirst, hs', hused, hearlier.trans hcutoff⟩, hcutoff⟩

/-- After any session in which the clock does not go back, a nonce is in the cache with the time
    at which it was used last, if this is at most 300 seconds before the last accepted
    heartbeat. -/
theorem nonces_cached (cs : List (EngineCall F))
    (hclock : (sentIn lib (.new config PyDict.empty) cs).Pairwise fun s s' => s.now 2 ≤ s'.now 2)
    (nonce : String) (used : F) :
    let sent := sentIn lib (.new config PyDict.empty) cs
    ((orchestration lib).run (.new config PyDict.empty) cs).nonceCache.get? nonce = some used ↔
      ∃ s s', lastAccepted lib (fun s => s.nonce = nonce) sent = some s ∧
        lastAccepted lib (fun _ => true) sent = some s' ∧ used = s.now 1 ∧
        PyArith.sub (s'.now 2) (PyArith.lit 300) ≤ used := by
  intro sent
  rw [orchestration_run]
  exact nonceCache_run lib config sent hclock nonce used

end Nonces

namespace Sample

/-- A session with one heartbeat. -/
def onlineSession : List (EngineCall ℚ) := [.heartbeat (.send (heartbeatSend "ONLINE"))]

/-- Its nonce is in the cache. -/
theorem nonce_cached :
    ((orchestration httpLib).run (.new {} PyDict.empty) onlineSession).nonceCache.get? "00" =
      some 2 := by
  have hlast (p : HeartbeatSend ℚ → Bool) (hp : p (heartbeatSend "ONLINE") = true) :
      lastAccepted httpLib p (sentIn httpLib (.new {} PyDict.empty) onlineSession) =
        some (heartbeatSend "ONLINE") := by
    have haccepted : (heartbeatSend "ONLINE").accepted httpLib = true := by decide +kernel
    change lastAccepted httpLib p ([] ++ [heartbeatSend "ONLINE"]) = _
    rw [lastAccepted_concat, haccepted, hp]
    rfl
  refine (nonces_cached httpLib {} onlineSession (List.pairwise_singleton _ _) "00" 2).2
    ⟨_, _, hlast _ rfl, hlast _ rfl, ?_, ?_⟩
  · decide +kernel
  · decide +kernel

end Sample

end VibeShield
