import VibeShield.Layer1.Host

/-!
# The Podman sandbox

`VibeShieldSandbox.launch` is `deploy_agent` up to the start of the container: its
checks in their order, and the `podman run` command line that it builds.
-/

namespace VibeShield

/-- The states of a sandbox. -/
inductive SandboxState
  | pending
  | running
  | completed
  | failed
  | shredded
  | timeout
deriving DecidableEq, Repr

/-- A sandbox: what stays as it was constructed. -/
structure VibeShieldSandbox where
  taskId : String
  containerName : String
  config : SandboxConfig

/-- The part of a sandbox that its calls change. -/
structure SandboxStatus where
  state : SandboxState
  /-- `None` until the first deployment. -/
  auditLog : Option AuditLog

namespace VibeShieldSandbox

/-- `DANGEROUS_ENV_NAMES`: variables that can alter the execution. -/
def dangerousEnvNames : List String := [
  "LD_PRELOAD", "LD_LIBRARY_PATH", "PATH", "PYTHONPATH",
  "PYTHONSTARTUP", "PYTHONHOME", "PYTHONINSPECT",
  "PERL5LIB", "PERLLIB", "CLASSPATH", "JAVA_HOME",
  "IFS", "SHELL", "BASH_ENV", "ENV", "TERM_PROGRAM",
  "DYLD_INSERT_LIBRARIES", "DYLD_LIBRARY_PATH"]

/-- `SAFE_ENTRYPOINTS`, sorted. -/
def safeEntrypoints : List String :=
  ["python", "python3", "python3.11", "python3.12", "python3.13"]

/-- `SAFE_ENV_PATTERN` between its anchors: a capital letter, and then capital
    letters, digits and `_`. -/
def isEnvName : List Char → Bool
  | [] => false
  | c :: cs => c.isUpper && cs.all fun c => c.isUpper || c.isDigit || c = '_'

/-- The constructor. -/
def new (host : Host) (taskId : String) (config : Option SandboxConfig) : VibeShieldSandbox where
  taskId := taskId
  containerName := s!"vs_task_{slice host.uuidHex 8}"
  config := config.getD host.defaultConfig

/-- The status after the construction. -/
def newStatus : SandboxStatus := ⟨.pending, none⟩

variable (host : Host) (sb : VibeShieldSandbox)

/-! ## The checks -/

/-- Creating the audit log on the first deployment. -/
def openAuditLog : EStateM PyErr SandboxStatus Unit :=
  modify fun s =>
    { s with auditLog := some (s.auditLog.getD (.new "/var/lib/vibeshield/audit" false)) }

/-- Recording an event in the audit log of the sandbox. -/
def record : Recorder SandboxStatus := fun category severity event details s =>
  match s.auditLog with
  | none => .error ⟨.attributeError, "'NoneType' object has no attribute 'record'"⟩ s
  | some log =>
    match recordEvent host sb.taskId category severity event details log with
    | .ok _ log => .ok () { s with auditLog := some log }
    | .error err log => .error err { s with auditLog := some log }

def checkTaskId : EStateM PyErr SandboxStatus Unit :=
  if ¬matchesLine isTaskId sb.taskId then
    throw ⟨.valueError,
      s!"Invalid task_id: must match [a-zA-Z0-9_-]+, got: {host.repr sb.taskId}"⟩
  else return ()

def checkEntrypoint (entrypoint : String) : EStateM PyErr SandboxStatus Unit :=
  if entrypoint ∉ safeEntrypoints then
    throw ⟨.valueError, s!"Blocked entrypoint: {host.repr entrypoint}. " ++
      "Allowed: ['python', 'python3', 'python3.11', 'python3.12', 'python3.13']"⟩
  else return ()

def checkToken (apiToken : Option String) : EStateM PyErr SandboxStatus Unit :=
  if host.expectedKey ≠ "" ∧ (apiToken.getD "" = "" ∨ apiToken ≠ some host.expectedKey) then do
    sb.record host .securityViolation .critical "sandbox.auth_failure"
      [("reason", .str "invalid_or_missing_api_token")]
    throw unauthorized
  else return ()

/-! ## The command -/

/-- The path of the hardened seccomp profile, which is generated and saved unless
    this has been done before. -/
def ensureSeccompProfile : Except PyErr String :=
  let cached := host.seccompPath.getD ""
  if cached ≠ "" ∧ host.os.pathExists cached then return cached
  else do
    let profile ← SeccompProfile.fromPodmanDefault host.podmanDefault
    let path := pathJoin host.tempDir s!"vibeshield_seccomp_{host.uid}.json"
    let _ ← profile.save blocklistSyscalls host.os host.writeFile path (pathDirname path)
    return path

/-- The command up to the options that depend on the task. -/
def runOptions (seccompPath : String) : List String := [
  "podman", "run",
  "--rm",
  "--name", sb.containerName,
  "--network", sb.config.networkMode,
  "--cap-drop", if sb.config.capDropAll then "ALL" else "",
  "--security-opt", "no-new-privileges=true",
  "--security-opt", s!"seccomp={seccompPath}",
  "--memory", sb.config.memoryLimit,
  "--cpu-quota", toString sb.config.cpuQuota,
  "--cpu-period", toString sb.config.cpuPeriod,
  "--tmpfs", s!"/tmp/agent-workspace:size={sb.config.tmpfsSize},mode=0700",
  "--read-only"]

/-- Switching to the restricted network. Once the network is there, the method
    raises: it records an event in a category it has not imported. -/
def applyEgressRules : Except PyErr (List String) := do
  -- The network is created if it is not there.
  let returncode ← host.networkInspect
  if returncode ≠ 0 then host.networkCreate
  .error ⟨.otherException "NameError", "name 'AuditCategory' is not defined"⟩

/-- The options for an environment variable. -/
def envOptions : String × String → Except PyErr (List String)
  | (key, value) =>
    if ¬matchesLine isEnvName key then
      valueError s!"Invalid env var name: {host.repr key} (must match [A-Z][A-Z0-9_]*)"
    else if key ∈ dangerousEnvNames then
      valueError s!"Blocked dangerous env var: {key}"
    else if '\n' ∈ value.toList ∨ ¬NoNul value then
      valueError s!"Invalid env var value for {key}: contains newline or null byte"
    else
      return ["--env", s!"{key}={value}"]

/-- What is run in the container. -/
def workload (a : DeployArgs) : List String :=
  if a.entrypointArgs ≠ [] then a.entrypointArgs
  else ["-m", "core.layer1_sandbox", a.encryptedPayload]

/-- Building the command. -/
def runCommand (a : DeployArgs) : Except PyErr (List String) := do
  let seccompPath ← ensureSeccompProfile host
  let options ← if a.egressRules ≠ [] then applyEgressRules host
    else pure (sb.runOptions seccompPath)
  let envs ← a.envVars.items.mapM (envOptions host)
  return options ++ envs.flatten ++ [sb.config.sandboxImage, a.entrypoint] ++ workload a

/-- `deploy_agent` from its checks on, up to the start of the container. -/
def launchAudited (a : DeployArgs) : EStateM PyErr SandboxStatus Launch := do
  sb.checkTaskId host
  checkEntrypoint host a.entrypoint
  sb.checkToken host a.apiToken
  sb.record host .containerLifecycle .info "sandbox.deploy.start"
    [("container", .str sb.containerName), ("entrypoint", .str a.entrypoint)]
  scanPayload host (sb.record host) "sandbox.injection_blocked" sb.taskId a
  let command ← ofExcept (sb.runCommand host a)
  modify fun s => { s with state := .running }
  ofExcept (startProcess command sb.config.timeoutSeconds)

/-- `deploy_agent`, up to the start of the container. -/
def launch (a : DeployArgs) : EStateM PyErr SandboxStatus Launch := do
  openAuditLog
  sb.launchAudited host a

/-- Constructing a sandbox and calling `deploy_agent`. -/
def deploy (taskId : String) (config : Option SandboxConfig) (a : DeployArgs) :
    EStateM PyErr SandboxStatus Launch :=
  (new host taskId config).launch host a

end VibeShieldSandbox

end VibeShield
