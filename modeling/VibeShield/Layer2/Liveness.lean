import VibeShield.Layer2.Orchestrator
import VibeShield.Python.Json

/-!
# What the health of an agent rests on

The engine records the time of every heartbeat that the server accepts, whatever status the
server tells, but a heartbeat passes only if this status is that of an agent that is alive
(`OrchestrationEngine.sendHeartbeat_cases`). If the server tells no other status, every time
on record is that of a heartbeat that passed (`HeartbeatsRecorded`), and if the configured
times are in order, the health of an agent rests on the heartbeats that passed
(`health_rests_on_passed`). If the server tells another status, the agent is live without
one (`Sample.maintained_live`).
-/

namespace VibeShield

variable {F : Type*}

/-- A server that accepts this heartbeat tells that the agent is alive, if it tells
    anything. -/
def HeartbeatSend.SaysAlive (lib : HttpLib) (s : HeartbeatSend F) : Prop :=
  ∀ resp items, s.reply = .ok resp →
    OrchestrationEngine.readData lib resp = .ok (.dict items) →
    ∀ v, PyVal.dictGet? items "status" = some v →
      v.toStr? = some "ONLINE" ∨ v.toStr? = some "BUSY" ∨ v.toStr? = some "COOLDOWN"

/-- The times of a configuration are in order: an agent is not live for longer than it is
    not offline. -/
def OrchestratorConfig.InOrder (config : OrchestratorConfig) : Prop :=
  config.heartbeatInterval ≤ 0 ∨ config.heartbeatInterval * 2 ≤ config.offlineThreshold

/-- The clock does not go back: neither during a heartbeat nor until `now`. -/
def ClockUntil [LinearOrder F] (now : F) (ss : List (HeartbeatSend F)) : Prop :=
  ∀ s ∈ ss, Monotone s.now ∧ ∀ k, s.now k ≤ now

/-- A heartbeat for an agent that passed, with its result. -/
def PassedHeartbeat (evs : List (Machine.Event (OrchestrationEngine F) (HeartbeatSend F)
    (Except PyErr (HeartbeatResult F)))) (agentId : String) (r : HeartbeatResult F) : Prop :=
  ∃ ev ∈ evs, ev.input.agentId = agentId ∧ ev.output = .ok r ∧ r.passed = true

/-- Every time on record is the first reading of a heartbeat that passed, whose result has
    the last one. -/
def HeartbeatsRecorded (evs : List (Machine.Event (OrchestrationEngine F) (HeartbeatSend F)
    (Except PyErr (HeartbeatResult F)))) (e : OrchestrationEngine F) : Prop :=
  ∀ a t, e.lastHeartbeat.get? a = some t → ∃ ev ∈ evs, ev.input.agentId = a ∧
    t = ev.input.now 0 ∧ ∃ r, ev.output = .ok r ∧ r.passed = true ∧ r.timestamp = ev.input.now 3

/-- More events do not change that. -/
theorem HeartbeatsRecorded.append {evs : List (Machine.Event (OrchestrationEngine F)
    (HeartbeatSend F) (Except PyErr (HeartbeatResult F)))} {e : OrchestrationEngine F}
    (h : HeartbeatsRecorded evs e)
    (ev : Machine.Event (OrchestrationEngine F) (HeartbeatSend F)
      (Except PyErr (HeartbeatResult F))) : HeartbeatsRecorded (evs ++ [ev]) e := by
  intro a t ht
  obtain ⟨ev', hev, hr⟩ := h a t ht
  exact ⟨ev', List.mem_append_left _ hev, hr⟩

/-! ## One heartbeat -/

namespace OrchestrationEngine

variable (lib : HttpLib) (e : OrchestrationEngine F) (s : HeartbeatSend F)

theorem serverStatusEnum_eq_live {v : PyVal} (h : v.toStr? = some "ONLINE" ∨
    v.toStr? = some "BUSY" ∨ v.toStr? = some "COOLDOWN") : serverStatusEnum v = .live := by
  rcases h with h | h | h <;> simp [serverStatusEnum, h]

/-- The result of a heartbeat that is refused is for the agent, which does not pass. -/
theorem result_of_refused {code : ℤ} {body : Except PyErr String} {text : String}
    {r : HeartbeatResult F} (h : refused lib e s code body text = .ok r) :
    r.agentId = s.agentId ∧ r.passed = false := by
  unfold refused at h
  split at h
  · cases h
  · cases h
    split_ifs <;> exact ⟨rfl, rfl⟩

theorem result_of_failed {err : PyErr} {r : HeartbeatResult F} (h : failed e s err = .ok r) :
    r.agentId = s.agentId ∧ r.passed = false := by
  unfold failed at h
  split at h
  · cases h
    exact ⟨rfl, rfl⟩
  · cases h

variable [PyArith F]

/-- What sending a heartbeat does: it is accepted, or it does not pass and leaves the
    engine as it is. -/
theorem sendHeartbeat_cases :
    (∃ resp items, s.reply = .ok resp ∧ readData lib resp = .ok (.dict items) ∧
      e.sendHeartbeat lib s = (accepted lib e s resp.status items).map id .ok) ∨
    (e.sendHeartbeat lib s).1 = e ∧
      ∀ r, (e.sendHeartbeat lib s).2 = .ok r → r.passed = false := by
  unfold sendHeartbeat
  cases lib.dumps (heartbeatBody s) with
  | error err => exact .inr ⟨rfl, fun r h => nomatch h⟩
  | ok text =>
    cases hreply : s.reply with
    | error err =>
      cases err with
      | httpError code body text => exact .inr ⟨rfl, fun r h => (result_of_refused lib e s h).2⟩
      | urlError reason =>
        refine .inr ⟨rfl, fun r h => ?_⟩
        cases h
        rfl
      | other err => exact .inr ⟨rfl, fun r h => (result_of_failed e s h).2⟩
    | ok resp =>
      dsimp only
      cases hdata : readData lib resp with
      | error err => exact .inr ⟨rfl, fun r h => (result_of_failed e s h).2⟩
      | ok data =>
        cases data with
        | dict items => exact .inl ⟨resp, items, rfl, hdata, rfl⟩
        | _ => exact .inr ⟨rfl, fun r h => nomatch h⟩

/-- A heartbeat leaves the configuration as it is. -/
theorem config_sendHeartbeat : (e.sendHeartbeat lib s).1.config = e.config := by
  rcases sendHeartbeat_cases lib e s with ⟨resp, items, -, -, h⟩ | ⟨h, -⟩
  · rw [h]
    rfl
  · rw [h]

/-- A heartbeat that tells nothing else keeps every time on record that of one that
    passed. -/
theorem recorded_sendHeartbeat (hs : s.SaysAlive lib) {evs : List (Machine.Event
    (OrchestrationEngine F) (HeartbeatSend F) (Except PyErr (HeartbeatResult F)))}
    (h : HeartbeatsRecorded evs e) :
    HeartbeatsRecorded (evs ++ [(heartbeats lib).event e s]) ((heartbeats lib).step e s).1 := by
  intro a t ht
  change (e.sendHeartbeat lib s).1.lastHeartbeat.get? a = some t at ht
  rcases sendHeartbeat_cases lib e s with ⟨resp, items, hreply, hdata, heq⟩ | ⟨heq, -⟩
  · rw [heq] at ht
    replace ht : (e.lastHeartbeat.set s.agentId (s.now 0)).get? a = some t := ht
    rw [PyDict.get?_set] at ht
    split at ht
    · next ha =>
      have hlive : serverStatusEnum ((PyVal.dictGet? items "status").getD (.str "ONLINE")) =
          .live := by
        cases hv : PyVal.dictGet? items "status" with
        | none => exact serverStatusEnum_eq_live (.inl rfl)
        | some v => exact serverStatusEnum_eq_live (hs resp items hreply hdata v hv)
      refine ⟨_, List.mem_append_right _ List.mem_cons_self, ha.symm, (Option.some.inj ht).symm,
        (accepted lib e s resp.status items).2, congrArg Prod.snd heq, ?_, rfl⟩
      exact decide_eq_true hlive
    · exact h.append _ a t ht
  · rw [heq] at ht
    exact h.append _ a t ht

end OrchestrationEngine

/-! ## Runs -/

section Runs

variable [PyArith F] (lib : HttpLib)

theorem config_run (e : OrchestrationEngine F) (ss : List (HeartbeatSend F)) :
    ((heartbeats lib).run e ss).config = e.config :=
  Machine.invariant (G := fun _ _ => True)
    (P := fun e' : OrchestrationEngine F => e'.config = e.config) rfl
    (fun e' s _ h => (e'.config_sendHeartbeat lib s).trans h) ss fun _ _ => trivial

theorem recorded_run (config : OrchestratorConfig) (nonceCache : PyDict String F)
    (ss : List (HeartbeatSend F)) (hss : ∀ s ∈ ss, s.SaysAlive lib) :
    HeartbeatsRecorded ((heartbeats lib).events (.new config nonceCache) ss)
      ((heartbeats lib).run (.new config nonceCache) ss) := by
  refine Machine.history_induction (G := fun _ s => s.SaysAlive lib) ?_ ?_ ss ?_
  · exact fun a t ht => nomatch ht
  · exact fun evs e s hs h => e.recorded_sendHeartbeat lib s hs h
  · exact fun ev hev => hss _ (Machine.input_mem_of_mem_events hev)

end Runs

/-! ## Health -/

section Health

variable [PyArith F] (e : OrchestrationEngine F) (now : F) (agentId : String)

theorem checkAgentHealth_eq_live (h : e.checkAgentHealth now agentId = .live) :
    ∃ t, e.lastHeartbeat.get? agentId = some t ∧
      PyArith.lt (PyArith.sub now t) (PyArith.lit (e.config.heartbeatInterval * 2)) = true := by
  rw [OrchestrationEngine.checkAgentHealth] at h
  cases hlast : e.lastHeartbeat.get? agentId with
  | none => rw [hlast] at h; cases h
  | some t =>
    rw [hlast] at h
    dsimp only at h
    refine ⟨t, rfl, ?_⟩
    by_contra hlt
    rw [if_neg hlt] at h
    split at h <;> cases h

theorem checkAgentHealth_eq_offline (h : ∀ t, e.lastHeartbeat.get? agentId = some t →
    PyArith.lt (PyArith.sub now t) (PyArith.lit (e.config.heartbeatInterval * 2)) = false ∧
      PyArith.lt (PyArith.sub now t) (PyArith.lit (e.config.offlineThreshold : ℚ)) = false) :
    e.checkAgentHealth now agentId = .offline := by
  rw [OrchestrationEngine.checkAgentHealth]
  cases hlast : e.lastHeartbeat.get? agentId with
  | none => rfl
  | some t =>
    obtain ⟨hinterval, hthreshold⟩ := h t hlast
    dsimp only
    rw [hinterval, hthreshold]
    rfl

end Health

section Clock

variable [PyArith F] [LinearOrder F] [PyArith.Clock F]

open PyArith Clock

/-- What is not within the threshold is not within twice the interval. -/
theorem OrchestratorConfig.InOrder.lt_eq_false {config : OrchestratorConfig}
    (hconfig : config.InOrder) {now t : F} (ht : t ≤ now)
    (h : lt (sub now t) (lit (config.offlineThreshold : ℚ)) = false) :
    lt (sub now t) (lit (config.heartbeatInterval * 2 : ℚ)) = false := by
  rw [Bool.eq_false_iff, ne_eq, Ordered.lt_iff, not_lt] at h ⊢
  rcases hconfig with hinterval | horder
  · have hnonpos : (config.heartbeatInterval * 2 : ℚ) ≤ 0 := by
      exact_mod_cast (by omega : config.heartbeatInterval * 2 ≤ 0)
    exact (lit_le_lit _ _ hnonpos).trans (zero_le_sub now t ht)
  · have hle : (config.heartbeatInterval * 2 : ℚ) ≤ config.offlineThreshold := by
      exact_mod_cast horder
    exact (lit_le_lit _ _ hle).trans h

/-- After a run of calls, an agent is live only if a heartbeat for it has passed within twice
    the interval, and it is offline if none has passed within the threshold: if the server
    accepts a heartbeat only with the status of an agent that is alive, and the configured
    times are in order. -/
theorem health_rests_on_passed (lib : HttpLib) (config : OrchestratorConfig)
    (nonceCache : PyDict String F) (cs : List (HeartbeatCall F)) (now : F) (agentId : String)
    (hconfig : config.InOrder)
    (halive : ∀ s ∈ HeartbeatCall.sentAll lib (.new config nonceCache) cs, s.SaysAlive lib)
    (hclock : ClockUntil now (HeartbeatCall.sentAll lib (.new config nonceCache) cs)) :
    ((HeartbeatCall.execAll lib (.new config nonceCache) cs).checkAgentHealth now agentId = .live →
      ∃ r, PassedHeartbeat ((heartbeats lib).events (.new config nonceCache)
          (HeartbeatCall.sentAll lib (.new config nonceCache) cs)) agentId r ∧
        lt (sub now r.timestamp) (lit (config.heartbeatInterval * 2 : ℚ)) = true) ∧
    ((∀ r, PassedHeartbeat ((heartbeats lib).events (.new config nonceCache)
          (HeartbeatCall.sentAll lib (.new config nonceCache) cs)) agentId r →
        lt (sub now r.timestamp) (lit (config.offlineThreshold : ℚ)) = false) →
      (HeartbeatCall.execAll lib (.new config nonceCache) cs).checkAgentHealth now agentId =
        .offline) := by
  rw [HeartbeatCall.execAll_eq_run]
  have hconfigRun := config_run lib (.new config nonceCache)
    (HeartbeatCall.sentAll lib (.new config nonceCache) cs)
  have hrecorded := recorded_run lib config nonceCache _ halive
  constructor
  · intro hlive
    obtain ⟨t, ht, hlt⟩ := checkAgentHealth_eq_live _ _ _ hlive
    obtain ⟨ev, hev, ha, rfl, r, hr, hpassed, htime⟩ := hrecorded agentId t ht
    refine ⟨r, ⟨ev, hev, ha, hr, hpassed⟩, ?_⟩
    rw [hconfigRun, Ordered.lt_iff] at hlt
    rw [Ordered.lt_iff, htime]
    -- The result is from after the time on record.
    have hmono := (hclock _ (Machine.input_mem_of_mem_events hev)).1
    exact (sub_le_sub_left _ _ now (hmono (Nat.zero_le 3))).trans_lt hlt
  · intro hpast
    refine checkAgentHealth_eq_offline _ _ _ fun t ht => ?_
    obtain ⟨ev, hev, ha, rfl, r, hr, hpassed, htime⟩ := hrecorded agentId t ht
    obtain ⟨hmono, hnow⟩ := hclock _ (Machine.input_mem_of_mem_events hev)
    have hthreshold : lt (sub now (ev.input.now 0)) (lit (config.offlineThreshold : ℚ)) =
        false := by
      have h := hpast r ⟨ev, hev, ha, hr, hpassed⟩
      rw [htime] at h
      rw [Bool.eq_false_iff, ne_eq, Ordered.lt_iff, not_lt] at h ⊢
      exact h.trans (sub_le_sub_left _ _ now (hmono (Nat.zero_le 3)))
    rw [hconfigRun]
    exact ⟨hconfig.lt_eq_false (hnow 0) hthreshold, hthreshold⟩

end Clock

/-! ## Samples -/

namespace Sample

/-- What the server replies if it tells the status. -/
def serverReply (status : String) : PyVal := .dict [(.str "status", .str status)]

/-- A library that parses the replies with these two statuses. -/
def httpLib : HttpLib where
  py := { Python.plain [] "" with
    loads := parseLine [serverReply "ONLINE", serverReply "MAINTENANCE"] }
  dumps v :=
    match jsonLine v with
    | some text => .ok text
    | none => .error ⟨.typeError, "Object is not JSON serializable"⟩

/-- A heartbeat that the server accepts with the status, in four seconds. -/
def heartbeatSend (status : String) : HeartbeatSend ℚ where
  agentId := "a1"
  apiKey := "k1"
  nonce := "00"
  reply := .ok { status := 200, body := .ok ((jsonLine (serverReply status)).getD "") }
  now k := min (k + 1) 4

/-- The engine at first, with the times of the defaults. -/
def orchestrator : OrchestrationEngine ℚ := .new {} PyDict.empty

theorem clockUntil_heartbeatSend (status : String) : ClockUntil 10 [heartbeatSend status] := by
  refine List.forall_mem_singleton.2 ⟨fun j k hjk => ?_, fun k => ?_⟩
  · have hcast : (j : ℚ) + 1 ≤ k + 1 := by exact_mod_cast Nat.succ_le_succ hjk
    exact min_le_min_right 4 hcast
  · exact (min_le_right _ _).trans (by decide +kernel)

/-- An agent under maintenance is live, although no heartbeat for it passed. -/
theorem maintained_live :
    ClockUntil 10
      (HeartbeatCall.sentAll httpLib orchestrator [.send (heartbeatSend "MAINTENANCE")]) ∧
    (HeartbeatCall.execAll httpLib orchestrator
      [.send (heartbeatSend "MAINTENANCE")]).checkAgentHealth 10 "a1" = .live ∧
    ¬∃ r, PassedHeartbeat ((heartbeats httpLib).events orchestrator
      (HeartbeatCall.sentAll httpLib orchestrator
        [.send (heartbeatSend "MAINTENANCE")])) "a1" r := by
  refine ⟨clockUntil_heartbeatSend _, by decide +kernel, ?_⟩
  rintro ⟨r, ev, hev, -, hr, hpassed⟩
  have hresult : (orchestrator.sendHeartbeat httpLib (heartbeatSend "MAINTENANCE")).2.toOption.map
      HeartbeatResult.passed = some false := by decide +kernel
  obtain rfl := List.mem_singleton.1 hev
  have hok : (orchestrator.sendHeartbeat httpLib (heartbeatSend "MAINTENANCE")).2 = .ok r := hr
  rw [hok] at hresult
  exact absurd hpassed (ne_true_of_eq_false (Option.some.inj hresult))

/-- An agent that is online is live, and so it should be. -/
theorem online_live :
    (HeartbeatCall.execAll httpLib orchestrator
      [.send (heartbeatSend "ONLINE")]).checkAgentHealth 10 "a1" = .live ∧
    ∃ r, PassedHeartbeat ((heartbeats httpLib).events orchestrator
        (HeartbeatCall.sentAll httpLib orchestrator [.send (heartbeatSend "ONLINE")])) "a1" r ∧
      PyArith.lt (PyArith.sub 10 r.timestamp) (PyArith.lit ((600 : ℤ) * 2 : ℚ)) = true := by
  have hsays : (heartbeatSend "ONLINE").SaysAlive httpLib := by
    intro resp items hreply hdata v hv
    cases hreply
    have hparsed : OrchestrationEngine.readData httpLib
        ⟨200, .ok ((jsonLine (serverReply "ONLINE")).getD "")⟩ = .ok (serverReply "ONLINE") := by
      rfl
    cases hparsed.symm.trans hdata
    cases hv
    exact .inl rfl
  have hlive : (HeartbeatCall.execAll httpLib orchestrator
      [.send (heartbeatSend "ONLINE")]).checkAgentHealth 10 "a1" = .live := by decide +kernel
  have h := health_rests_on_passed httpLib {} PyDict.empty [.send (heartbeatSend "ONLINE")]
    (10 : ℚ) "a1" (.inr (by decide)) (List.forall_mem_singleton.2 hsays)
    (clockUntil_heartbeatSend _)
  obtain ⟨r, hr, hlt⟩ := h.1 hlive
  exact ⟨hlive, r, hr, hlt⟩

end Sample

end VibeShield
