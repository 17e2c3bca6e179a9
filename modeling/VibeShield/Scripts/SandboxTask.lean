import VibeShield.Layer1.Completion

/-!
# The task runner

The script runs a task in a sandbox of the backend that is chosen, by an argument or by the
environment, and prints a result (`SandboxTask.main`). Its exit code is told from two results
of different shape: OpenShell tells whether the task has succeeded
(`OpenShellSandbox.deployAgentCompat`), for Podman this is derived from the state of the
sandbox and the exit code of the container (`SandboxTask.podmanResult`).

An exception that the script does not catch is an error of `SandboxTask.main`.
-/

namespace VibeShield

/-- The backends. -/
inductive Backend
  | podman
  | openshell
deriving DecidableEq, Repr

/-- The name of a backend. -/
def Backend.name : Backend → String
  | podman => "podman"
  | openshell => "openshell"

/-- `state.value`. -/
def SandboxState.value : SandboxState → String
  | pending => "pending"
  | running => "running"
  | completed => "completed"
  | failed => "failed"
  | shredded => "shredded"
  | timeout => "timeout"

/-- The text that a result has. -/
def Output.text : Output → String
  | process text => text
  | backend text => text

/-- `s[-n:]`, for `n` other than zero. -/
def sliceLast (s : String) (n : ℕ) : String :=
  String.ofList (s.toList.drop (s.toList.length - n))

/-- `s.partition(sep)` without the separator: what is before and behind the first one. -/
def partitionOn (s : String) (sep : Char) : String × String :=
  (String.ofList (s.toList.takeWhile (· ≠ sep)),
    String.ofList (s.toList.dropWhile (· ≠ sep)).tail)

example : partitionOn "api.example.com:443" ':' = ("api.example.com", "443") ∧
    partitionOn "api.example.com" ':' = ("api.example.com", "") := by decide

/-! ## Results -/

/-- A result in the shape of the one of Podman. -/
structure SandboxResultLike (F : Type) where
  containerName : String
  taskId : String
  state : String
  exitCode : ℤ
  stdout : Output
  stderr : Output
  durationSeconds : F
  success : Bool

/-- The result of `deploy_agent_compat` for the one of `execute_task`. -/
def OpenShellResult.like {F : Type} (r : OpenShellResult F) : SandboxResultLike F where
  containerName := r.sandboxName
  taskId := r.taskId
  state := if r.success then "COMPLETED" else "FAILED"
  exitCode := r.exitCode
  stdout := r.stdout
  stderr := r.stderr
  durationSeconds := r.durationS
  success := r.success

namespace SandboxTask

/-- What the script reads from a result. -/
structure TaskResult (F : Type) where
  success : Bool
  exitCode : ℤ
  stdout : String
  stderr : String
  taskId : String
  /-- Usually a float; the timeout of Podman is an integer. -/
  durationSeconds : ℤ ⊕ F

/-- What is read from the result of OpenShell. -/
def openShellResult {F : Type} (r : SandboxResultLike F) : TaskResult F where
  success := r.success
  exitCode := r.exitCode
  stdout := r.stdout.text
  stderr := r.stderr.text
  taskId := r.taskId
  durationSeconds := .inr r.durationSeconds

/-- What is derived from the result of Podman. -/
def podmanResult {F : Type} (raw : SandboxResult F) : TaskResult F where
  success := raw.state.value = "COMPLETED" && raw.exitCode = 0
  exitCode := raw.exitCode
  stdout := raw.stdout.text
  stderr := raw.stderr.text
  taskId := raw.taskId
  durationSeconds := raw.durationSeconds

/-- The JSON object that is printed. -/
inductive Printed (F : Type)
  /-- With `ok` false, the text of the exception and the backend. -/
  | blocked (text : String) (backend : Backend)
  | finished (ok : Bool) (backend : Backend) (exitCode : ℤ) (durationS : ℤ ⊕ F)
      (taskId stdout stderr : String)

/-- The field `ok`. -/
def Printed.ok {F : Type} : Printed F → Bool
  | blocked _ _ => false
  | finished ok _ _ _ _ _ _ => ok

/-! ## Arguments -/

/-- The arguments, as they are parsed. -/
structure Args where
  taskId : String
  backend : Option Backend := none
  entrypoint : String := "python3"
  noSecurityScan : Bool := false
  egress : List String := []
  env : List String := []

/-- What the script meets. -/
structure World (F : Type) where
  host : Host
  after : Aftermath F
  /-- What is read from the payload file, or from the standard input. -/
  payload : Except PyErr String
  /-- `int(s)`. -/
  int : String → Except PyErr ℤ

variable {F : Type} (w : World F) (args : Args)

/-- `get_backend()`. -/
def getBackend (host : Host) : Except PyErr Backend :=
  let backend := host.py.lower (pyStrip ((host.getenv "VIBESHIELD_SANDBOX_BACKEND").getD "podman"))
  if backend = "podman" then .ok .podman
  else if backend = "openshell" then .ok .openshell
  else valueError (s!"Unknown VIBESHIELD_SANDBOX_BACKEND={host.repr backend} " ++
    "(expected 'podman' or 'openshell')")

/-- The backend that is chosen. -/
def chosenBackend : Except PyErr Backend :=
  match args.backend with
  | some backend => .ok backend
  | none => getBackend w.host

/-- The port in an argument, 443 if there is none. -/
def egressPort (port : String) : Except PyErr ℤ := if port ≠ "" then w.int port else .ok 443

/-- The rule that an argument stands for. -/
def egressRule (spec : String) : Except PyErr VibeShieldSandbox.EgressRule := do
  let port ← egressPort w (partitionOn spec ':').2
  return { protocol := "tcp", host := (partitionOn spec ':').1, port := port }

/-- The environment variables that the arguments stand for. -/
def envVars : PyDict String String :=
  args.env.foldl (fun d kv => d.set (partitionOn kv '=').1 (partitionOn kv '=').2) PyDict.empty

/-- The arguments of the call of the sandbox. -/
def deployArgs (payload : String) (egressRules : List VibeShieldSandbox.EgressRule) :
    DeployArgs where
  encryptedPayload := payload
  entrypoint := args.entrypoint
  egressRules := egressRules
  envVars := envVars args
  securityScan := !args.noSecurityScan

/-! ## Running the task -/

/-- The host for rules that are dictionaries: as soon as there is a network, the first of them
    raises, since it has no attributes. -/
def dictRulesHost (host : Host) : Host :=
  { host with
    networkInspect := do
      let returncode ← host.networkInspect
      if returncode ≠ 0 then host.networkCreate
      .error ⟨.attributeError, "'dict' object has no attribute 'protocol'"⟩ }

/-- The sandbox of Podman. -/
def podmanSandbox : VibeShieldSandbox := .new w.host args.taskId (some w.host.defaultConfig)

variable [PyNum F]

/-- `deploy_agent_compat`. -/
def deployAgentCompat (sb : OpenShellSandbox) (a : DeployArgs) :
    EStateM PyErr AuditLog (SandboxResultLike F) := do
  let r ← sb.executeTask w.host w.after a
  return r.like

/-- The value of a computation, or its exception. -/
def outcomeOf {σ α : Type} (x : EStateM PyErr σ α) (s : σ) : Except PyErr α :=
  match x s with
  | .ok a _ => .ok a
  | .error err _ => .error err

/-- Constructing the sandbox and calling it. -/
def runSandbox (a : DeployArgs) : Backend → Except PyErr (TaskResult F)
  | .openshell => do
    let sandbox ← OpenShellSandbox.new w.host args.taskId
    let result ← outcomeOf (deployAgentCompat w sandbox a) OpenShellSandbox.newAuditLog
    return openShellResult result
  | .podman => do
    let raw ← outcomeOf ((podmanSandbox w args).deployAgent (dictRulesHost w.host) w.after a)
      VibeShieldSandbox.newStatus
    return podmanResult raw

/-- Whether `except (ValueError, PermissionError)` catches the exception. -/
def caught (err : PyErr) : Bool :=
  err.isValueError || err.cls = .otherException "PermissionError"

/-- What is printed about a result. -/
def printed (backend : Backend) (result : TaskResult F) : Printed F :=
  .finished result.success backend result.exitCode
    (result.durationSeconds.map id (PyArith.round · 3))
    result.taskId (sliceLast result.stdout 4000) (sliceLast result.stderr 2000)

/-- The exit code and what is printed, for what comes of calling the sandbox. -/
def report (backend : Backend) :
    Except PyErr (TaskResult F) → Except PyErr (ℤ × Option (Printed F))
  | .error err =>
    if caught err then .ok (2, some (.blocked err.msg backend)) else .error err
  | .ok result => .ok (if result.success then 0 else 1, some (printed backend result))

/-- `main` from the payload on. -/
def mainWith (payload : String) : Except PyErr (ℤ × Option (Printed F)) := do
  let egressRules ← args.egress.mapM (egressRule w)
  let backend ← chosenBackend w args
  report backend (runSandbox w args (deployArgs args payload egressRules) backend)

/-- `main`: the exit code and what is printed. -/
def main : Except PyErr (ℤ × Option (Printed F)) :=
  match w.payload with
  | .ok payload => mainWith w args payload
  -- The message for an `OSError` goes to the standard error.
  | .error err => if err.cls = .osError then return (2, none) else throw err

end SandboxTask

end VibeShield
