import VibeShield.Layer1.Host
import VibeShield.Python.Encode

/-!
# The OpenShell sandbox

`OpenShellSandbox.launch` is `execute_task` up to the start of the sandbox: its
checks in their order, and the `openshell sandbox create` command line that it
builds. The payload and the environment variables travel in the command line,
encoded in a script that the sandbox runs.
-/

namespace VibeShield

/-- A sandbox: what stays as it was constructed. -/
structure OpenShellSandbox where
  taskId : String
  sandboxName : String
  policyPath : String

namespace OpenShellSandbox

/-- `SAFE_ENTRYPOINTS`, sorted. -/
def safeEntrypoints : List String :=
  ["python", "python3", "python3.11", "python3.12", "python3.13"]

/-- The constructor. -/
def new (host : Host) (taskId : String) : Except PyErr OpenShellSandbox :=
  if ¬matchesLine isTaskId taskId then
    valueError s!"Invalid task_id: must match [a-zA-Z0-9_-]+, got: {host.repr taskId}"
  else return {
    taskId := taskId
    sandboxName := s!"vs-{slice host.uuidHex 12}"
    policyPath := (host.getenv "VIBESHIELD_OPENSHELL_POLICY").getD host.defaultPolicyPath }

/-- The audit log of a call. -/
def newAuditLog : AuditLog := .new "/var/lib/vibeshield/audit" false

variable (host : Host) (sb : OpenShellSandbox)

/-! ## The checks -/

def checkEntrypoint (entrypoint : String) : EStateM PyErr AuditLog Unit :=
  if entrypoint ∉ safeEntrypoints then
    throw ⟨.valueError, s!"Blocked entrypoint: {host.repr entrypoint}. " ++
      "Allowed: ['python', 'python3', 'python3.11', 'python3.12', 'python3.13']"⟩
  else return ()

def checkToken (apiToken : Option String) : EStateM PyErr AuditLog Unit :=
  if host.expectedKey ≠ "" ∧ apiToken ≠ some host.expectedKey then do
    recordEvent host sb.taskId .securityViolation .critical "openshell.auth_failure"
      [("reason", .str "invalid_or_missing_api_token")]
    throw unauthorized
  else return ()

/-! ## The command -/

/-- The payload and the environment variables as a JSON text. -/
def payloadText (a : DeployArgs) : String :=
  let envs := a.envVars.items.map fun (key, value) => jsonQuote key ++ ": " ++ jsonQuote value
  "\x7b\"payload\": " ++ jsonQuote a.encryptedPayload ++
    ", \"env\": \x7b" ++ String.intercalate ", " envs ++ "\x7d\x7d"

/-- Their encoding in the script. -/
def payloadB64 (a : DeployArgs) : String :=
  String.ofList (b64encode ((payloadText a).toList.flatMap String.utf8EncodeChar))

/-- The script, which decodes the payload and the environment variables. -/
def script (a : DeployArgs) : String :=
  "import json,os,sys,base64;" ++
  "d=json.loads(base64.b64decode('" ++ payloadB64 a ++ "'));" ++
  "os.environ.update(\x7bk:v for k,v in d['env'].items() if isinstance(v,str)\x7d);" ++
  "sys.argv=['task']+d.get('argv',[]);" ++
  "print(d['payload'])"

/-- Writing the policy of the sandbox. -/
def writePolicy : Except PyErr String := do
  let path := s!"/tmp/vs-policy-{sb.sandboxName}.yaml"
  host.writePolicy sb.policyPath path
  return path

/-- The command. -/
def createCommand (policy : String) (a : DeployArgs) : List String := [
  "openshell", "sandbox", "create",
  "--name", sb.sandboxName,
  "--no-keep",
  "--from", (host.getenv "VIBESHIELD_OPENSHELL_IMAGE").getD "vibeshield/task:24.04",
  "--policy", policy,
  "--",
  a.entrypoint, "-c", script a]

/-- `execute_task`, up to the start of the sandbox. -/
def launch (a : DeployArgs) : EStateM PyErr AuditLog Launch := do
  checkEntrypoint host a.entrypoint
  sb.checkToken host a.apiToken
  scanPayload host (recordEvent host sb.taskId) "openshell.injection_blocked" sb.taskId a
  let policy ← ofExcept (sb.writePolicy host)
  recordEvent host sb.taskId .containerLifecycle .info "openshell.deploy.start"
    [("sandbox", .str sb.sandboxName), ("entrypoint", .str a.entrypoint)]
  ofExcept (startProcess (sb.createCommand host policy a) 900)

/-- Constructing a sandbox and calling `execute_task`. -/
def deploy (taskId : String) (a : DeployArgs) : EStateM PyErr AuditLog Launch := do
  let sb ← ofExcept (new host taskId)
  sb.launch host a

end OpenShellSandbox

end VibeShield
