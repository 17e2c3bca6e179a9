import VibeShield.Lib.PyDict
import VibeShield.Lib.Refusal
import VibeShield.Security.Audit.Log
import VibeShield.Security.Seccomp.Model

/-!
# What the two backends share

A backend deploys a task (`DeployArgs`) in a sandbox on a host (`Host`). Both
record what they do in an audit log (`recordEvent`), scan the payload for prompt
injections (`scanPayload`), and end in starting a process (`startProcess`), if
they have not raised an exception before.

The models go up to that start: a call is a computation with exceptions whose
value is the process that is started (`Launch`).
-/

namespace VibeShield

/-! ## The host -/

/-- How dangerous a text is. -/
inductive ThreatLevel
  | safe
  | suspicious
  | malicious
deriving DecidableEq, Repr

/-- `threat_level.value`. -/
def ThreatLevel.value : ThreatLevel → String
  | safe => "safe"
  | suspicious => "suspicious"
  | malicious => "malicious"

/-- The result of a prompt injection scan. -/
structure InjectionResult where
  threatLevel : ThreatLevel
  «matches» : List String
  score : PyFloat

/-- The settings of the container. -/
structure SandboxConfig where
  sandboxImage : String
  networkMode : String
  memoryLimit : String
  cpuQuota : ℤ
  cpuPeriod : ℤ
  tmpfsSize : String
  timeoutSeconds : ℤ
  capDropAll : Bool

/-- What a call finds on the host, and the functions it calls there. Nothing is
    assumed of the injection detector. -/
structure Host where
  py : Python
  os : Os
  /-- `os.getenv`. -/
  getenv : String → Option String
  /-- `uuid.uuid4().hex`. -/
  uuidHex : String
  /-- `time.time()` when an event is recorded. -/
  clock : String → PyFloat
  /-- `repr(s)`. -/
  repr : String → String
  /-- A float with two decimals. -/
  fixed2 : PyFloat → String
  /-- `PromptInjectionDetector().scan(text, agent_id)`. -/
  scan : String → String → Except PyErr InjectionResult
  /-- `SandboxConfig()`. -/
  defaultConfig : SandboxConfig
  /-- `VibeShieldSandbox._seccomp_path`. -/
  seccompPath : Option String
  /-- The default profile of Podman, if it is installed. -/
  podmanDefault : Option SeccompDict
  /-- `tempfile.gettempdir()`. -/
  tempDir : String
  /-- `os.getuid()`. -/
  uid : ℕ
  /-- Creating the directory of a file and writing a profile to the file. -/
  writeFile : String → SeccompDict → Except PyErr Unit
  /-- The exit code of `podman network inspect vibeshield-restricted`. -/
  networkInspect : Except PyErr ℤ
  /-- Running `podman network create` for that network. -/
  networkCreate : Except PyErr Unit
  /-- `DEFAULT_POLICY_PATH`. -/
  defaultPolicyPath : String
  /-- Loading the base policy from the one path and writing the policy of the
      sandbox to the other. -/
  writePolicy : String → String → Except PyErr Unit

/-! ## The task -/

/-- A connection that is to be allowed. -/
structure VibeShieldSandbox.EgressRule where
  protocol : String
  host : String
  port : ℤ
  description : String := ""

/-- The arguments of `deploy_agent` and `execute_task`. No environment variables
    and `None` are the same to both, and so are no egress rules and `None`. -/
structure DeployArgs where
  encryptedPayload : String
  entrypoint : String
  entrypointArgs : List String := []
  egressRules : List VibeShieldSandbox.EgressRule := []
  envVars : PyDict String String := PyDict.empty
  securityScan : Bool := true
  apiToken : Option String := none

/-- The process that is started: its command line and its timeout. -/
structure Launch where
  command : List String
  timeout : ℤ

/-! ## Auditing -/

/-- How a backend records an event: category, severity, event and details. -/
abbrev Recorder (σ : Type) : Type :=
  AuditCategory → AuditSeverity → String → List (String × PyVal) → EStateM PyErr σ Unit

/-- Recording an event of the task in the log. -/
def recordEvent (host : Host) (taskId : String) : Recorder AuditLog :=
  fun category severity event details log =>
    let args : RecordArgs := {
      category := .inl category
      severity := .inl severity
      event := .str event
      agentId := .str taskId
      taskId := .str taskId
      details := .dict (details.map fun p => (.str p.1, p.2))
      now := host.clock event }
    match log.record host.py args fun _ log => (log, none) with
    | (log, .ok _) => .ok () log
    | (log, .error err) => .error err log

/-! ## The gates -/

/-- The pattern of task ids: letters, digits, `_` and `-`. -/
def isTaskId (cs : List Char) : Bool :=
  !cs.isEmpty && cs.all fun c => c.isAlphanum || c = '_' || c = '-'

/-- `VIBESHIELD_API_KEY`, the empty string if it is not set. -/
def Host.expectedKey (host : Host) : String := (host.getenv "VIBESHIELD_API_KEY").getD ""

def unauthorized : PyErr :=
  ⟨.otherException "PermissionError", "Unauthorized: invalid or missing API token"⟩

/-- The scan of the payload, which records a malicious one as `event`. -/
def scanPayload {σ : Type} (host : Host) (record : Recorder σ) (event taskId : String)
    (a : DeployArgs) : EStateM PyErr σ Unit :=
  if a.securityScan then do
    let injection ← ofExcept (host.scan a.encryptedPayload taskId)
    if injection.threatLevel = .malicious then do
      record .securityViolation .critical event
        [("score", .float injection.score),
          ("matches", .list ((injection.matches.take 5).map .str))]
      throw ⟨.valueError, "Payload blocked by prompt-injection scan " ++
        s!"(level={injection.threatLevel.value}, score={host.fixed2 injection.score})"⟩
    else return ()
  else return ()

/-- The NUL character does not occur. -/
def NoNul (s : String) : Prop := '\x00' ∉ s.toList

instance (s : String) : Decidable (NoNul s) := inferInstanceAs (Decidable (¬_))

/-- `subprocess.run`, up to the start of the process: no argument may contain a
    NUL character. What else may be refused is left out: arguments that cannot be
    encoded, and those that are too long for the system. -/
def startProcess (command : List String) (timeout : ℤ) : Except PyErr Launch :=
  if ∀ arg ∈ command, NoNul arg then .ok ⟨command, timeout⟩
  else .error ⟨.valueError, "embedded null byte"⟩

end VibeShield
