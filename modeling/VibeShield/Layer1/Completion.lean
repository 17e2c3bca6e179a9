import VibeShield.Layer1.OpenShell
import VibeShield.Layer1.Sandbox
import VibeShield.Security.Exfil.Model

/-!
# After the start of the process

How the two backends go on when the process has been started: they wait for its outcome
(`ProcessOutcome`), scan its output, record what has happened, and return a result.
`VibeShieldSandbox.deployAgent` and `OpenShellSandbox.executeTask` are the whole calls.
-/

namespace VibeShield

/-- How the run of a process ends. -/
inductive ProcessOutcome
  | completed (returncode : ℤ) (stdout stderr : String)
  | timeoutExpired
  /-- `CalledProcessError`, with its text. -/
  | calledProcessError (returncode : ℤ) (text : String)
  /-- Another exception of `subprocess.run`. -/
  | raised (err : PyErr)

/-- A text in a result. The source has just the text; here it is kept who has written it. -/
inductive Output
  | process (text : String)
  | backend (text : String)

/-- The text, if the process has written it. -/
def Output.agentText? : Output → Option String
  | process text => some text
  | backend _ => none

/-- What a call meets after the start of the process. -/
structure Aftermath (F : Type) where
  outcome : ProcessOutcome
  /-- `time.perf_counter()` at the start of the call. -/
  started : F
  /-- The same when the process has ended. -/
  ended : F
  unicode : Unicode
  float : FloatLib F
  setOrder : List String → List String
  /-- What `podman logs` writes to its two channels. -/
  podmanLogs : Except PyErr (String × String)
  podmanStop : Except PyErr Unit
  podmanRm : Except PyErr Unit
  podmanVolumeRm : Except PyErr Unit

/-- What a scan of the output calls. -/
def Aftermath.scanLib {F : Type} (after : Aftermath F) (host : Host) : ScanLib F where
  py := host.py
  unicode := after.unicode
  float := after.float
  setOrder := after.setOrder

/-- `s.count(sub)`: how often `sub` occurs, without overlaps. The first `skip` characters
    belong to the last occurrence. -/
def countFrom (sub : List Char) : ℕ → List Char → ℕ
  | 0, [] => if sub = [] then 1 else 0
  | _ + 1, [] => 0
  | 0, c :: cs =>
    if sub.isPrefixOf (c :: cs) then 1 + countFrom sub (sub.length - 1) cs
    else countFrom sub 0 cs
  | skip + 1, _ :: cs => countFrom sub skip cs

/-- `s.count(sub)`. -/
def countOf (s sub : String) : ℕ := countFrom sub.toList 0 s.toList

example : countOf "aaaa" "aa" = 2 ∧ countOf "connect, reconnect" "connect" = 2 := by decide

open PyArith

variable {F : Type} [PyNum F] (host : Host) (after : Aftermath F)

/-- The scan of the output, if there is one to be scanned: its result if it blocks the
    output. -/
def scanOutput (securityScan : Bool) (stdout : String) :
    Except PyErr (Option (ExfilResult F)) :=
  if securityScan ∧ stdout ≠ "" then
    match ExfiltrationDetector.default.scan (after.scanLib host) stdout with
    | .error err => .error err
    | .ok exfil =>
      .ok (if exfil.risk = .high ∨ exfil.risk = .critical then some exfil else none)
  else .ok none

/-! ## Podman -/

/-- The result of `deploy_agent`. -/
structure SandboxResult (F : Type) where
  containerName : String
  taskId : String
  state : SandboxState
  exitCode : ℤ
  stdout : Output
  stderr : Output
  /-- Usually a float; the timeout is an integer. -/
  durationSeconds : ℤ ⊕ F
  memoryUsageMb : Option F := none
  networkConnections : ℕ := 0

/-- The texts in the result that the agent has produced. -/
def SandboxResult.agentTexts (r : SandboxResult F) : List String :=
  [r.stdout, r.stderr].filterMap Output.agentText?

namespace VibeShieldSandbox

variable (sb : VibeShieldSandbox)

/-- The number of connections in the logs of the container. -/
def auditNetworkActivity : Except PyErr ℕ :=
  match after.podmanLogs with
  | .ok (stdout, stderr) =>
    .ok (countOf (host.py.lower stdout) "connect" + countOf (host.py.lower stderr) "connect")
  | .error err => if err.isException then .ok 0 else .error err

/-- Stopping and removing the container and its volume. -/
def cryptographicShred : EStateM PyErr SandboxStatus Unit := do
  ofExcept after.podmanStop
  ofExcept after.podmanRm
  ofExcept after.podmanVolumeRm
  modify fun s => { s with state := .shredded }

/-- The result for a process that has ended, given what has been found in its output. -/
def conclude (returncode : ℤ) (stdout stderr : String) (networkConnections : ℕ) :
    Option (ExfilResult F) → EStateM PyErr SandboxStatus (SandboxResult F)
  | some exfil => do
    sb.record host .securityViolation .critical "sandbox.exfil_blocked"
      [("risk", .str exfil.risk.value), ("score", .float (after.float.value exfil.score)),
        ("findings", .list ((exfil.findings.take 5).map .str))]
    return {
      containerName := sb.containerName
      taskId := sb.taskId
      state := .failed
      exitCode := returncode
      stdout := .backend ""
      stderr := .backend ("Output blocked by exfiltration scan " ++
        s!"(risk={exfil.risk.value}, score={after.float.fixed 2 exfil.score})")
      durationSeconds := .inr (round (sub after.ended after.started) 3)
      networkConnections := networkConnections }
  | none => do
    let duration := round (sub after.ended after.started) 3
    sb.record host .containerLifecycle
      (if (← get).state = .completed then .info else .warning) "sandbox.deploy.complete"
      [("exit_code", .int returncode), ("duration_seconds", .float (after.float.value duration))]
    return {
      containerName := sb.containerName
      taskId := sb.taskId
      state := (← get).state
      exitCode := returncode
      stdout := .process stdout
      stderr := .process stderr
      durationSeconds := .inr duration
      networkConnections := networkConnections }

/-- `deploy_agent` from the outcome of the process on. -/
def complete (securityScan : Bool) : EStateM PyErr SandboxStatus (SandboxResult F) :=
  match after.outcome with
  | .completed returncode stdout stderr => do
    modify fun s => { s with state := if returncode = 0 then .completed else .failed }
    let networkConnections ← ofExcept (auditNetworkActivity host after)
    let exfil ← ofExcept (scanOutput host after securityScan stdout)
    sb.conclude host after returncode stdout stderr networkConnections exfil
  | .timeoutExpired => do
    modify fun s => { s with state := .timeout }
    cryptographicShred after
    return {
      containerName := sb.containerName
      taskId := sb.taskId
      state := .timeout
      exitCode := -1
      stdout := .backend ""
      stderr := .backend s!"Task exceeded timeout of {sb.config.timeoutSeconds}s"
      durationSeconds := .inl sb.config.timeoutSeconds }
  | .calledProcessError returncode text => do
    modify fun s => { s with state := .failed }
    cryptographicShred after
    return {
      containerName := sb.containerName
      taskId := sb.taskId
      state := .failed
      exitCode := returncode
      stdout := .backend ""
      stderr := .backend text
      durationSeconds := .inr (round (sub after.ended after.started) 3) }
  | .raised err => throw err

/-- `deploy_agent`. -/
def deployAgent (a : DeployArgs) : EStateM PyErr SandboxStatus (SandboxResult F) := do
  let _ ← sb.launch host a
  sb.complete host after a.securityScan

end VibeShieldSandbox

/-! ## OpenShell -/

/-- The result of `execute_task`. -/
structure OpenShellResult (F : Type) where
  success : Bool
  exitCode : ℤ
  stdout : Output := .backend ""
  stderr : Output := .backend ""
  taskId : String := ""
  durationS : F
  backend : String := "openshell"
  sandboxName : String := ""

/-- The texts in the result that the agent has produced. -/
def OpenShellResult.agentTexts (r : OpenShellResult F) : List String :=
  [r.stdout, r.stderr].filterMap Output.agentText?

namespace OpenShellSandbox

variable (sb : OpenShellSandbox)

/-- Recording that the output is blocked, and what replaces it. -/
def screenOutput (stdout : String) : Option (ExfilResult F) → EStateM PyErr AuditLog Output
  | some exfil => do
    recordEvent host sb.taskId .securityViolation .critical "openshell.exfil_blocked"
      [("risk", .str exfil.risk.value),
        ("matches", .list ((exfil.findings.take 5).map .str))]
    return .backend "[blocked: exfiltration risk detected in output]"
  | none => return .process stdout

/-- `execute_task` from the outcome of the process on. -/
def complete (securityScan : Bool) : EStateM PyErr AuditLog (OpenShellResult F) :=
  match after.outcome with
  | .completed code stdout stderr => do
    let exfil ← ofExcept (scanOutput host after securityScan stdout)
    let output ← sb.screenOutput host stdout exfil
    recordEvent host sb.taskId .containerLifecycle .info "openshell.deploy.finish"
      [("sandbox", .str sb.sandboxName), ("exit_code", .int code),
        ("exfil_blocked", .bool exfil.isSome)]
    return {
      success := code = 0 && !exfil.isSome
      exitCode := code
      stdout := output
      stderr := .process stderr
      taskId := sb.taskId
      durationS := sub after.ended after.started
      sandboxName := sb.sandboxName }
  | .timeoutExpired => do
    recordEvent host sb.taskId .containerLifecycle .warning "openshell.deploy.timeout"
      [("sandbox", .str sb.sandboxName)]
    return {
      success := false
      exitCode := 124
      stderr := .backend "sandbox timeout"
      taskId := sb.taskId
      durationS := sub after.ended after.started
      sandboxName := sb.sandboxName }
  | .calledProcessError _ text => throw ⟨.otherException "CalledProcessError", text⟩
  | .raised err => throw err

/-- `execute_task`. -/
def executeTask (a : DeployArgs) : EStateM PyErr AuditLog (OpenShellResult F) := do
  let _ ← sb.launch host a
  sb.complete host after a.securityScan

end OpenShellSandbox

end VibeShield
