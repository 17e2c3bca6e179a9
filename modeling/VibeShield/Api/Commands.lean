import VibeShield.Python.Json

/-!
# Agent commands

Agents talk to the platform in commands (`AgentCommand`), which are sent as JSON texts. The
platform parses a text into a command (`CommandRouter.parse`). For an agent, there is a
function for each command that it may send (`AgentRequest.send`).

What texts stand for is left to the JSON library (`CommandLib`). If it parses what it has
written, parsing a text gives back what has been sent (`parse_sent`).
-/

namespace VibeShield

/-- The commands an agent can send. -/
inductive CommandType
  | heartbeat
  | signalComplete
  | requestMemory
  | webSearch
  | requestData
  | escrowRelease
  | stateSync
deriving DecidableEq, Repr

namespace CommandType

/-- `command_type.value`. -/
def value : CommandType → String
  | heartbeat => "HEARTBEAT"
  | signalComplete => "SIGNAL_COMPLETE"
  | requestMemory => "REQUEST_MEMORY"
  | webSearch => "WEB_SEARCH"
  | requestData => "REQUEST_DATA"
  | escrowRelease => "ESCROW_RELEASE"
  | stateSync => "STATE_SYNC"

/-- All of them, in the order of the source. -/
def all : List CommandType :=
  [heartbeat, signalComplete, requestMemory, webSearch, requestData, escrowRelease, stateSync]

/-- `CommandType(v)`, if it does not raise an exception. -/
def ofValue? (v : String) : Option CommandType := all.find? fun c => c.value = v

theorem ofValue?_value (c : CommandType) : ofValue? c.value = some c := by
  cases c <;> decide

end CommandType

/-- A command from an agent. One that has been parsed may hold any JSON values. -/
structure AgentCommand where
  commandType : CommandType
  agentId : String
  payload : PyVal
  timestamp : PyFloat
  taskId : PyVal

/-- What the commands call of the standard library. -/
structure CommandLib where
  /-- `json.dumps(v)`. -/
  dumps : PyVal → Except PyErr String
  /-- `json.loads(s)`. -/
  loads : String → Except PyErr PyVal
  /-- `s.upper()`. -/
  upper : String → String

/-! ## Texts of commands -/

namespace AgentCommand

/-- `command.to_dict()`. -/
def toDict (c : AgentCommand) : PyVal :=
  .dict [
    (.str "command", .str c.commandType.value),
    (.str "agent_id", .str c.agentId),
    (.str "task_id", c.taskId),
    (.str "payload", c.payload),
    (.str "timestamp", .float c.timestamp)]

/-- `command.to_json()`. -/
def toJson (lib : CommandLib) (c : AgentCommand) : Except PyErr String := lib.dumps c.toDict

end AgentCommand

/-- What an agent sends: a command, its task and its payload. -/
def requestDict (command taskId : String) (payload : List (PyVal × PyVal)) : PyVal :=
  .dict [(.str "command", .str command), (.str "task_id", .str taskId),
    (.str "payload", .dict payload)]

section Senders

variable (lib : CommandLib)

/-- Notifying the platform that a task is complete. -/
def signalComplete (_agentId taskId outputHash : String) : Except PyErr String :=
  lib.dumps (requestDict "SIGNAL_COMPLETE" taskId [(.str "output_hash", .str outputHash)])

/-- Requesting an extended context window. -/
def requestMemory (_agentId taskId : String) (bytesNeeded : ℤ) (reason : String) :
    Except PyErr String :=
  lib.dumps (requestDict "REQUEST_MEMORY" taskId
    [(.str "bytes_needed", .int bytesNeeded), (.str "reason", .str reason)])

/-- Requesting a web search through the audited proxy. -/
def webSearch (_agentId taskId query : String) : Except PyErr String :=
  lib.dumps (requestDict "WEB_SEARCH" taskId [(.str "query", .str query)])

/-- Requesting data from an external API through the audited proxy. -/
def requestData (_agentId taskId apiUrl : String) (method : String := "GET") :
    Except PyErr String :=
  lib.dumps (requestDict "REQUEST_DATA" taskId
    [(.str "url", .str apiUrl), (.str "method", .str method)])

/-- Requesting payment release from escrow. -/
def escrowRelease (_agentId taskId bountyId : String) : Except PyErr String :=
  lib.dumps (requestDict "ESCROW_RELEASE" taskId [(.str "bounty_id", .str bountyId)])

/-- Syncing agent state with the orchestrator. -/
def stateSync (_agentId taskId : String) (state : List (PyVal × PyVal)) : Except PyErr String :=
  lib.dumps (requestDict "STATE_SYNC" taskId [(.str "state", .dict state)])

end Senders

/-- The arguments of one of these functions, besides the agent and the task. -/
inductive AgentRequest
  | signalComplete (outputHash : String)
  | requestMemory (bytesNeeded : ℤ) (reason : String)
  | webSearch (query : String)
  | requestData (apiUrl method : String)
  | escrowRelease (bountyId : String)
  | stateSync (state : List (PyVal × PyVal))

/-- The text that is sent. -/
def AgentRequest.send (lib : CommandLib) (agentId taskId : String) :
    AgentRequest → Except PyErr String
  | signalComplete outputHash => VibeShield.signalComplete lib agentId taskId outputHash
  | requestMemory bytesNeeded reason =>
    VibeShield.requestMemory lib agentId taskId bytesNeeded reason
  | webSearch query => VibeShield.webSearch lib agentId taskId query
  | requestData apiUrl method => VibeShield.requestData lib agentId taskId apiUrl method
  | escrowRelease bountyId => VibeShield.escrowRelease lib agentId taskId bountyId
  | stateSync state => VibeShield.stateSync lib agentId taskId state

/-! ## Parsing -/

namespace CommandRouter

variable (lib : CommandLib) (raw agentId : String) (now : PyFloat)

/-- The command that a dictionary stands for. -/
def readCommand (items : List (PyVal × PyVal)) : Except PyErr AgentCommand :=
  match (PyVal.dictGet? items "command").getD (.str "") with
  | .str command =>
    match CommandType.ofValue? (lib.upper command) with
    | some commandType => .ok {
        commandType := commandType
        agentId := agentId
        taskId := (PyVal.dictGet? items "task_id").getD .none
        payload := (PyVal.dictGet? items "payload").getD (.dict [])
        timestamp := now }
    | none => .error ⟨.valueError, s!"'{lib.upper command}' is not a valid CommandType"⟩
  -- Only strings have the method.
  | _ => .error ⟨.attributeError, "object has no attribute 'upper'"⟩

/-- The command that a text stands for. -/
def parseCommand : Except PyErr AgentCommand :=
  match lib.loads raw with
  | .error err => .error err
  | .ok (.dict items) => readCommand lib agentId now items
  | .ok _ => .error ⟨.attributeError, "object has no attribute 'get'"⟩

/-- Parsing a text: `None` if it is not a command, as far as the exceptions for this are
    caught. -/
def parse : Except PyErr (Option AgentCommand) :=
  match parseCommand lib raw agentId now with
  | .ok command => .ok (some command)
  | .error err =>
    if err.isValueError ∨ err.cls = .otherException "KeyError" then .ok none else .error err

end CommandRouter

/-! ## What is expected -/

namespace AgentRequest

/-- The type of the command. -/
def commandType : AgentRequest → CommandType
  | signalComplete _ => .signalComplete
  | requestMemory _ _ => .requestMemory
  | webSearch _ => .webSearch
  | requestData _ _ => .requestData
  | escrowRelease _ => .escrowRelease
  | stateSync _ => .stateSync

/-- The payload of the command. -/
def payload : AgentRequest → List (PyVal × PyVal)
  | signalComplete outputHash => [(.str "output_hash", .str outputHash)]
  | requestMemory bytesNeeded reason =>
    [(.str "bytes_needed", .int bytesNeeded), (.str "reason", .str reason)]
  | webSearch query => [(.str "query", .str query)]
  | requestData apiUrl method => [(.str "url", .str apiUrl), (.str "method", .str method)]
  | escrowRelease bountyId => [(.str "bounty_id", .str bountyId)]
  | stateSync state => [(.str "state", .dict state)]

/-- The state that is synced, if there is one, is a JSON object. -/
def HasJson : AgentRequest → Prop
  | stateSync state => (PyVal.dict state).Json
  | _ => True

variable {lib : CommandLib}

/-- Every function sends the text of its command. -/
theorem send_eq (agentId taskId : String) (r : AgentRequest) :
    r.send lib agentId taskId =
      lib.dumps (requestDict r.commandType.value taskId r.payload) := by
  cases r <;> rfl

theorem json_payload {r : AgentRequest} (h : r.HasJson) : (PyVal.dict r.payload).Json := by
  refine .dict _ ?_ ?_ ?_
  · cases r <;> simp [payload]
  · cases r <;> simp [payload]
  · cases r with
    | stateSync state => exact List.forall_mem_singleton.2 h
    | requestMemory bytesNeeded reason =>
      exact List.forall_mem_cons.2 ⟨.int _, List.forall_mem_singleton.2 (.str _)⟩
    | requestData apiUrl method =>
      exact List.forall_mem_cons.2 ⟨.str _, List.forall_mem_singleton.2 (.str _)⟩
    | _ => exact List.forall_mem_singleton.2 (.str _)

end AgentRequest

namespace CommandLib

/-- The value is written as a text, and read from it again. -/
def RoundTrips (lib : CommandLib) (v : PyVal) : Prop :=
  ∃ text, lib.dumps v = .ok text ∧ lib.loads text = .ok v

/-- ASCII strings are written in capital letters as usual. -/
def UppersAscii (lib : CommandLib) : Prop :=
  ∀ s : String, (∀ c ∈ s.toList, c.toNat < 128) →
    lib.upper s = String.ofList (s.toList.map Char.toUpper)

/-- The values of command types consist of capital letters. -/
theorem UppersAscii.upper_value {lib : CommandLib} (h : lib.UppersAscii) (c : CommandType) :
    lib.upper c.value = c.value := by
  have hascii : c.value.toList.all (fun x => decide (x.toNat < 128)) = true := by
    cases c <;> decide +kernel
  rw [h c.value fun x hx => of_decide_eq_true (List.all_eq_true.1 hascii x hx)]
  cases c <;> decide

end CommandLib

/-! ## Round trips -/

section RoundTrips

variable {lib : CommandLib}

/-- Parsing a text that stands for a dictionary with a command. -/
theorem CommandRouter.parse_of_loads (hupper : lib.UppersAscii) {raw : String}
    {items : List (PyVal × PyVal)} (hloads : lib.loads raw = .ok (.dict items))
    {c : CommandType} (hcommand : PyVal.dictGet? items "command" = some (.str c.value))
    (agentId : String) (now : PyFloat) : parse lib raw agentId now = .ok (some {
      commandType := c
      agentId := agentId
      taskId := (PyVal.dictGet? items "task_id").getD .none
      payload := (PyVal.dictGet? items "payload").getD (.dict [])
      timestamp := now }) := by
  have hvalue : CommandType.ofValue? (lib.upper c.value) = some c := by
    rw [hupper.upper_value, CommandType.ofValue?_value]
  rw [parse, parseCommand, hloads]
  dsimp only
  rw [readCommand, hcommand]
  dsimp only [Option.getD_some]
  rw [hvalue]

/-- The dictionary of a command is a JSON value, if its parts are. -/
theorem AgentCommand.json_toDict {c : AgentCommand}
    (htask : c.taskId = .none ∨ ∃ s, c.taskId = .str s) (hpayload : c.payload.Json) :
    c.toDict.Json := by
  have htaskId : c.taskId.Json := by
    rcases htask with h | ⟨s, h⟩
    · exact h ▸ .none
    · exact h ▸ .str s
  refine .dict _ (by simp) (by simp) ?_
  simp only [List.forall_mem_cons]
  exact ⟨.str _, .str _, htaskId, hpayload, .float _, List.forall_mem_nil _⟩

theorem json_requestDict (command taskId : String) {payload : List (PyVal × PyVal)}
    (h : (PyVal.dict payload).Json) : (requestDict command taskId payload).Json := by
  refine .dict _ (by simp) (by simp) ?_
  simp only [List.forall_mem_cons]
  exact ⟨.str _, .str _, h, List.forall_mem_nil _⟩

/-- Parsing the text of a command gives the command back, and parsing what an agent sends
    gives its command, its task and its payload. -/
theorem parse_sent (lib : CommandLib) (hupper : lib.UppersAscii) (now : PyFloat) :
    (∀ c : AgentCommand, (c.taskId = .none ∨ ∃ s, c.taskId = .str s) →
      (∃ items, c.payload = .dict items) → c.payload.Json →
      (c.toDict.Json → lib.RoundTrips c.toDict) →
      ∃ raw d, c.toJson lib = .ok raw ∧
        CommandRouter.parse lib raw c.agentId now = .ok (some d) ∧
        d.commandType = c.commandType ∧ d.agentId = c.agentId ∧ d.taskId = c.taskId ∧
        d.payload = c.payload) ∧
    ∀ (r : AgentRequest) (agentId taskId : String), r.HasJson →
      ((requestDict r.commandType.value taskId r.payload).Json →
        lib.RoundTrips (requestDict r.commandType.value taskId r.payload)) →
      ∃ raw d, r.send lib agentId taskId = .ok raw ∧
        CommandRouter.parse lib raw agentId now = .ok (some d) ∧
        d.commandType = r.commandType ∧ d.agentId = agentId ∧ d.taskId = .str taskId ∧
        d.payload = .dict r.payload := by
  constructor
  · intro c htask _ hpayload hround
    obtain ⟨raw, hdumps, hloads⟩ := hround (AgentCommand.json_toDict htask hpayload)
    refine ⟨raw, _, hdumps, CommandRouter.parse_of_loads hupper hloads rfl c.agentId now,
      rfl, rfl, ?_, ?_⟩
    · simp [PyVal.dictGet?_cons]
    · simp [PyVal.dictGet?_cons]
  · intro r agentId taskId hjson hround
    obtain ⟨raw, hdumps, hloads⟩ := hround (json_requestDict _ taskId (r.json_payload hjson))
    refine ⟨raw, _, (r.send_eq agentId taskId).trans hdumps,
      CommandRouter.parse_of_loads hupper hloads rfl agentId now, rfl, rfl, ?_, ?_⟩
    · simp [PyVal.dictGet?_cons]
    · simp [PyVal.dictGet?_cons]

end RoundTrips

namespace Sample

def heartbeatCommand : AgentCommand where
  commandType := .heartbeat
  agentId := "a1"
  payload := .dict [(.str "load", .int 1)]
  timestamp := .fin 1
  taskId := .none

def memoryRequest : AgentRequest := .requestMemory 1024 "context"

/-- A library that parses the text of this command, and of this request for the task
    `t1`. -/
def commandLib : CommandLib where
  dumps v :=
    match jsonLine v with
    | some text => .ok text
    | none => .error ⟨.typeError, "Object is not JSON serializable"⟩
  loads := parseLine [heartbeatCommand.toDict,
    requestDict "REQUEST_MEMORY" "t1" memoryRequest.payload]
  upper s := String.ofList (s.toList.map Char.toUpper)

theorem roundTrips_heartbeatCommand : commandLib.RoundTrips heartbeatCommand.toDict := by
  have hsome : (jsonLine heartbeatCommand.toDict).isSome = true := by decide +kernel
  obtain ⟨text, htext⟩ := Option.isSome_iff_exists.1 hsome
  refine ⟨text, ?_, ?_⟩
  · simp only [commandLib, htext]
  · simp only [commandLib, parseLine]
    rw [List.find?_cons_of_pos (by simpa using htext)]

theorem roundTrips_memoryRequest :
    commandLib.RoundTrips (requestDict "REQUEST_MEMORY" "t1" memoryRequest.payload) := by
  have hsome : (jsonLine (requestDict "REQUEST_MEMORY" "t1" memoryRequest.payload)).isSome =
      true := by decide +kernel
  have hother : jsonLine heartbeatCommand.toDict ≠
      jsonLine (requestDict "REQUEST_MEMORY" "t1" memoryRequest.payload) := by decide +kernel
  obtain ⟨text, htext⟩ := Option.isSome_iff_exists.1 hsome
  rw [htext] at hother
  refine ⟨text, ?_, ?_⟩
  · simp only [commandLib, htext]
  · simp only [commandLib, parseLine]
    rw [List.find?_cons_of_neg (by simpa using hother),
      List.find?_cons_of_pos (by simpa using htext)]

/-- The command and the request come back. -/
theorem heartbeat_parsed :
    (∃ raw d, heartbeatCommand.toJson commandLib = .ok raw ∧
      CommandRouter.parse commandLib raw "a1" (.fin 2) = .ok (some d) ∧
      d.commandType = .heartbeat ∧ d.agentId = "a1" ∧ d.taskId = .none ∧
      d.payload = heartbeatCommand.payload) ∧
    ∃ raw d, memoryRequest.send commandLib "a1" "t1" = .ok raw ∧
      CommandRouter.parse commandLib raw "a1" (.fin 2) = .ok (some d) ∧
      d.commandType = .requestMemory ∧ d.agentId = "a1" ∧ d.taskId = .str "t1" ∧
      d.payload = .dict memoryRequest.payload := by
  obtain ⟨hcommands, hrequests⟩ := parse_sent commandLib (fun _ _ => rfl) (.fin 2)
  have hpayload : heartbeatCommand.payload.Json :=
    .dict _ (by simp) (by simp) (List.forall_mem_singleton.2 (.int 1))
  exact ⟨hcommands heartbeatCommand (.inl rfl) ⟨_, rfl⟩ hpayload
      fun _ => roundTrips_heartbeatCommand,
    hrequests memoryRequest "a1" "t1" trivial fun _ => roundTrips_memoryRequest⟩

end Sample

end VibeShield
