import VibeShield.Lib.Machine
import VibeShield.Lib.PyDict
import VibeShield.Python.Arith
import VibeShield.Python.Runtime

/-!
# The orchestration engine

The engine sends heartbeats for agents to a server (`OrchestrationEngine.sendHeartbeat`), one
at a time or for a list of agents (`OrchestrationEngine.batchHeartbeat`), and keeps the time
of the last one that was accepted. From this time it tells whether an agent is alive
(`OrchestrationEngine.checkAgentHealth`).

What the server replies is an input of the model (`HeartbeatSend.reply`), and so are the
readings of the clock during a call.
-/

namespace VibeShield

/-- How alive an agent is. -/
inductive HeartbeatStatus
  | live
  | stale
  | offline
  | error
deriving DecidableEq, Repr

/-- The configuration of the engine; times are in seconds. -/
structure OrchestratorConfig where
  apiUrl : String := "https://api.clawmolt.ai"
  heartbeatInterval : ℤ := 600
  offlineThreshold : ℤ := 1800

/-- The result of a heartbeat. -/
structure HeartbeatResult (F : Type*) where
  agentId : String
  status : HeartbeatStatus
  apiKey : String
  apiUrl : String
  httpStatus : ℤ := 0
  message : String := ""
  timestamp : F

/-- `result.passed`. -/
def HeartbeatResult.passed {F : Type*} (r : HeartbeatResult F) : Bool := r.status = .live

/-! ## Requests -/

/-- A response of the server: its status, and its body, if it can be read and decoded. -/
structure HttpResponse where
  status : ℤ
  body : Except PyErr String

/-- The exceptions of a request. -/
inductive RequestError
  /-- `HTTPError`: its code, its body, if it can be read and decoded, and its text. -/
  | httpError (code : ℤ) (body : Except PyErr String) (text : String)
  /-- Another `URLError`. -/
  | urlError (reason : String)
  | other (err : PyErr)

/-- A call of `send_heartbeat`, and what it meets. -/
structure HeartbeatSend (F : Type*) where
  agentId : String
  apiKey : String
  status : String := "ONLINE"
  heatCurrent : Option ℤ := none
  localLlmModel : Option String := none
  /-- `secrets.token_hex(16)`. -/
  nonce : String
  reply : Except RequestError HttpResponse
  /-- The readings of the clock during the call. -/
  now : ℕ → F

/-- What the engine calls of the standard library. -/
structure HttpLib where
  py : Python
  /-- `json.dumps(v)`. -/
  dumps : PyVal → Except PyErr String

/-- The orchestration engine. -/
structure OrchestrationEngine (F : Type*) where
  config : OrchestratorConfig
  /-- The time of the last heartbeat of an agent that was accepted. -/
  lastHeartbeat : PyDict String F
  /-- `_NONCE_CACHE`: the times of the last nonces that were used. -/
  nonceCache : PyDict String F

/-- `s.rstrip("/")`. -/
def rstripSlash (s : String) : String :=
  String.ofList (s.toList.reverse.dropWhile (· = '/')).reverse

namespace OrchestrationEngine

variable {F : Type*} (lib : HttpLib) (e : OrchestrationEngine F) (s : HeartbeatSend F)

/-- The engine at first. -/
def new (config : OrchestratorConfig) (nonceCache : PyDict String F) : OrchestrationEngine F where
  config := config
  lastHeartbeat := PyDict.empty
  nonceCache := nonceCache

/-- The URL of the request. -/
def heartbeatUrl : String :=
  s!"{rstripSlash e.config.apiUrl}/api/v1/agents/{s.agentId}/heartbeat"

/-- The body of the request. -/
def heartbeatBody : PyVal :=
  .dict ([(.str "status", .str s.status), (.str "nonce", .str s.nonce)] ++
    s.heatCurrent.toList.map (fun heat => (.str "heat_current", .int heat)) ++
    (s.localLlmModel.toList.filter (· ≠ "")).map fun model => (.str "local_llm_model", .str model))

/-- A result of the call, with the reading of the clock number `k`. -/
def heartbeatResult (status : HeartbeatStatus) (httpStatus : ℤ) (message : String) (k : ℕ) :
    HeartbeatResult F where
  agentId := s.agentId
  status := status
  apiKey := s.apiKey
  apiUrl := heartbeatUrl e s
  httpStatus := httpStatus
  message := message
  timestamp := s.now k

/-! ## Replies -/

/-- The JSON value of a body. -/
def readData (resp : HttpResponse) : Except PyErr PyVal := do
  let responseBody ← resp.body
  if responseBody ≠ "" then lib.py.loads responseBody else return .dict []

/-- What the server says about an error. -/
def errorDetail (body : Except PyErr String) (text : String) : Except PyErr String :=
  match body >>= lib.py.loads with
  | .ok (.dict items) => .ok ((PyVal.dictGet? items "detail").elim text lib.py.str)
  -- Another value has no `get`, which is caught, as is a text that is not JSON.
  | .ok _ => .ok text
  | .error err =>
    if err.cls = .jsonDecodeError ∨ err.cls = .attributeError then .ok text else .error err

/-- The result if the server refuses the request. -/
def refused (code : ℤ) (body : Except PyErr String) (text : String) :
    Except PyErr (HeartbeatResult F) :=
  match errorDetail lib body text with
  | .error err => .error err
  | .ok detail => .ok (
    if code = 401 then heartbeatResult e s .error code
      s!"Authentication failed — invalid API key: {detail}" 0
    else if code = 404 then heartbeatResult e s .offline code
      s!"Agent not found on ClawMolt: {detail}" 0
    else heartbeatResult e s .error code s!"HTTP {code}: {detail}" 0)

/-- The result of another exception: only an `OSError` is caught. -/
def failed (err : PyErr) : Except PyErr (HeartbeatResult F) :=
  if err.cls = .osError then .ok (heartbeatResult e s .error 0 s!"Network error: {err.msg}" 0)
  else .error err

/-- The status of the agent for the status that the server tells. -/
def serverStatusEnum (serverStatus : PyVal) : HeartbeatStatus :=
  if serverStatus.toStr? = some "ONLINE" then .live
  else if serverStatus.toStr? = some "BUSY" ∨ serverStatus.toStr? = some "COOLDOWN" then .live
  else .stale

variable [PyArith F]

/-- Removing expired nonces from the cache. -/
def cleanupNonces (cache : PyDict String F) (now maxAge : F) : PyDict String F :=
  cache.filter fun _ v => !PyArith.lt v (PyArith.sub now maxAge)

/-- The result if the server accepts the heartbeat. -/
def accepted (httpStatus : ℤ) (items : List (PyVal × PyVal)) :
    OrchestrationEngine F × HeartbeatResult F :=
  let serverStatus := (PyVal.dictGet? items "status").getD (.str "ONLINE")
  ({ e with
      lastHeartbeat := e.lastHeartbeat.set s.agentId (s.now 0)
      nonceCache := cleanupNonces (e.nonceCache.set s.nonce (s.now 1)) (s.now 2)
        (PyArith.lit 300) },
    heartbeatResult e s (serverStatusEnum serverStatus) httpStatus
      s!"Heartbeat acknowledged — server status: {lib.py.str serverStatus}" 3)

/-- Sending a heartbeat for an agent. -/
def sendHeartbeat : OrchestrationEngine F × Except PyErr (HeartbeatResult F) :=
  match lib.dumps (heartbeatBody s) with
  | .error err => (e, .error err)
  | .ok _ =>
    match s.reply with
    | .error (.httpError code body text) => (e, refused lib e s code body text)
    | .error (.urlError reason) =>
      (e, .ok (heartbeatResult e s .error 0 s!"Connection failed — {reason}" 0))
    | .error (.other err) => (e, failed e s err)
    | .ok resp =>
      match readData lib resp with
      | .error err => (e, failed e s err)
      | .ok (.dict items) => (accepted lib e s resp.status items).map id .ok
      | .ok _ => (e, .error ⟨.attributeError, "object has no attribute 'get'"⟩)

/-- Sending heartbeats for multiple agents: an exception ends the call. So does an agent
    without an id or a key, before its heartbeat: the agents are those before it. -/
def batchHeartbeat (e : OrchestrationEngine F) :
    List (HeartbeatSend F) → OrchestrationEngine F × Except PyErr (List (HeartbeatResult F))
  | [] => (e, .ok [])
  | s :: ss =>
    match sendHeartbeat lib e s with
    | (e, .error err) => (e, .error err)
    | (e, .ok result) =>
      match batchHeartbeat e ss with
      | (e, .error err) => (e, .error err)
      | (e, .ok results) => (e, .ok (result :: results))

/-- Whether an agent is alive, as far as the last heartbeat tells. -/
def checkAgentHealth (now : F) (agentId : String) : HeartbeatStatus :=
  match e.lastHeartbeat.get? agentId with
  | none => .offline
  | some last =>
    let elapsed := PyArith.sub now last
    if PyArith.lt elapsed (PyArith.lit (e.config.heartbeatInterval * 2)) then .live
    else if PyArith.lt elapsed (PyArith.lit e.config.offlineThreshold) then .stale
    else .offline

end OrchestrationEngine

/-! ## The machine -/

variable {F : Type*} [PyArith F]

/-- The engine as a machine, which sends one heartbeat a step. -/
def heartbeats (lib : HttpLib) :
    Machine (OrchestrationEngine F) (HeartbeatSend F) (Except PyErr (HeartbeatResult F)) where
  step e s := e.sendHeartbeat lib s

/-- A call that sends heartbeats. -/
inductive HeartbeatCall (F : Type*)
  | send (s : HeartbeatSend F)
  | batch (ss : List (HeartbeatSend F))

/-- The heartbeats of a list that are sent: none comes after one that raises an
    exception. -/
def sentOf (lib : HttpLib) (e : OrchestrationEngine F) :
    List (HeartbeatSend F) → List (HeartbeatSend F)
  | [] => []
  | s :: ss =>
    match e.sendHeartbeat lib s with
    | (_, .error _) => [s]
    | (e, .ok _) => s :: sentOf lib e ss

namespace HeartbeatCall

/-- The engine after a call. -/
def exec (lib : HttpLib) (e : OrchestrationEngine F) : HeartbeatCall F → OrchestrationEngine F
  | send s => (e.sendHeartbeat lib s).1
  | batch ss => (e.batchHeartbeat lib ss).1

/-- The heartbeats that a call sends. -/
def sent (lib : HttpLib) (e : OrchestrationEngine F) : HeartbeatCall F → List (HeartbeatSend F)
  | send s => [s]
  | batch ss => sentOf lib e ss

/-- The engine after a list of calls. -/
def execAll (lib : HttpLib) (e : OrchestrationEngine F) :
    List (HeartbeatCall F) → OrchestrationEngine F
  | [] => e
  | c :: cs => execAll lib (c.exec lib e) cs

/-- The heartbeats that a list of calls sends. -/
def sentAll (lib : HttpLib) (e : OrchestrationEngine F) :
    List (HeartbeatCall F) → List (HeartbeatSend F)
  | [] => []
  | c :: cs => c.sent lib e ++ sentAll lib (c.exec lib e) cs

theorem batchHeartbeat_fst (lib : HttpLib) (e : OrchestrationEngine F)
    (ss : List (HeartbeatSend F)) :
    (e.batchHeartbeat lib ss).1 = (heartbeats lib).run e (sentOf lib e ss) := by
  induction ss generalizing e with
  | nil => rfl
  | cons s ss ih =>
    rw [OrchestrationEngine.batchHeartbeat, sentOf]
    cases hs : e.sendHeartbeat lib s with
    | mk e' result =>
      have hstep : ((heartbeats lib).step e s).1 = e' := congrArg Prod.fst hs
      cases result with
      | error err =>
        change e' = (heartbeats lib).run e [s]
        rw [Machine.run, hstep]
        rfl
      | ok r =>
        dsimp only
        rw [Machine.run, hstep, ← ih]
        cases e'.batchHeartbeat lib ss with
        | mk e'' results => cases results <;> rfl

/-- Calls run the engine on the heartbeats that they send. -/
theorem execAll_eq_run (lib : HttpLib) (e : OrchestrationEngine F) (cs : List (HeartbeatCall F)) :
    execAll lib e cs = (heartbeats lib).run e (sentAll lib e cs) := by
  induction cs generalizing e with
  | nil => rfl
  | cons c cs ih =>
    have hcall : c.exec lib e = (heartbeats lib).run e (c.sent lib e) := by
      cases c with
      | send s => rfl
      | batch ss => exact batchHeartbeat_fst lib e ss
    rw [execAll, sentAll, Machine.run_append, ← hcall, ih]

end HeartbeatCall

end VibeShield
