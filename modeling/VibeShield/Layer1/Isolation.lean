import VibeShield.Python.Json
import VibeShield.Layer1.Sandbox

/-!
# Whether the isolation of a sandbox is verified

A sandbox that was deployed is inspected, and what `podman inspect` reports is compared with
what the isolation should be (`VibeShieldSandbox.verifyIsolation`). With the default settings
all checks are to pass, if the report is what the sandbox was started with. They never do
(`isolation_never_verified`): the module reads the report with `json`, which it does not import.
If it did, one check would still fail (`verifyIsolation_of_json`): it expects one security
option where the launcher passes two.
-/

namespace VibeShield

/-! ## Values -/

namespace PyVal

/-- `v[0]`. -/
def first : PyVal → Except PyErr PyVal
  | list (v :: _) => .ok v
  | list [] => .error ⟨.otherException "IndexError", "list index out of range"⟩
  | str s =>
    match s.toList with
    | c :: _ => .ok (.str (String.singleton c))
    | [] => .error ⟨.otherException "IndexError", "string index out of range"⟩
  | dict items =>
    match items.find? fun p => p.1.toInt? = some 0 with
    | some p => .ok p.2
    | .none => .error ⟨.otherException "KeyError", "0"⟩
  | _ => .error ⟨.typeError, "object is not subscriptable"⟩

/-- `v.get(key, default)`. -/
def getOr (v : PyVal) (key : String) (default : PyVal) : Except PyErr PyVal :=
  match v with
  | dict items => .ok ((dictGet? items key).getD default)
  | _ => .error ⟨.attributeError, "object has no attribute 'get'"⟩

/-- `s in v`. -/
def includes (v : PyVal) (s : String) : Except PyErr Bool :=
  match v with
  | list vs => .ok (vs.any fun v => v.toStr? = some s)
  | dict items => .ok (items.any fun p => p.1.toStr? = some s)
  | str t => .ok (contains t s)
  | _ => .error ⟨.typeError, "argument is not iterable"⟩

/-- Whether a value is equal to a list of strings. -/
def isStrings (v : PyVal) (ss : List String) : Bool :=
  match v with
  | list vs => vs.map toStr? = ss.map some
  | _ => false

end PyVal

/-! ## The verification -/

/-- A process that has run. -/
structure CompletedProcess where
  returncode : ℤ
  stdout : String

/-- The names of the module `core.layer1_sandbox`: what it imports and what it defines. -/
def moduleNames : List String := [
  "re", "subprocess", "time", "uuid", "hashlib", "logging", "os", "dataclass", "field",
  "Optional", "Enum", "SandboxConfig",
  "logger", "SandboxState", "SAFE_ENV_PATTERN", "DANGEROUS_ENV_NAMES", "SAFE_ENTRYPOINTS",
  "SAFE_TASK_ID_PATTERN", "SandboxResult", "EgressRule", "VibeShieldSandbox"]

/-- Looking up a global name, in a module with these names. -/
def globalName (names : List String) (name : String) : Except PyErr Unit :=
  if name ∈ names then .ok ()
  else .error ⟨.otherException "NameError", s!"name '{name}' is not defined"⟩

/-- The checks that are done so far, with their results. -/
abbrev ChecksM := EStateM PyErr (PyDict String PyVal)

/-- Adding a check. -/
def addCheck (name : String) (result : PyVal) : ChecksM Unit := modify (·.set name result)

namespace VibeShieldSandbox

section

variable (names : List String) (py : Python)

/-- The checks of what is reported. -/
def checkReport (report : PyVal) : ChecksM Unit := do
  let data ← MonadExcept.ofExcept report.first
  let hostConfig ← MonadExcept.ofExcept (data.getOr "HostConfig" (.dict []))
  let securityOpt ← MonadExcept.ofExcept (hostConfig.getOr "SecurityOpt" (.list []))
  addCheck "no_new_privileges" (.bool (securityOpt.isStrings ["no-new-privileges=true"]))
  let caps ← MonadExcept.ofExcept (hostConfig.getOr "CapDrop" (.list []))
  let dropped ← MonadExcept.ofExcept (caps.includes "ALL")
  addCheck "all_caps_dropped" (.bool dropped)
  let network ← MonadExcept.ofExcept (hostConfig.getOr "NetworkMode" (.str ""))
  addCheck "network_isolated"
    (.bool (network.toStr? = some "none" ∨ network.toStr? = some "vibeshield-restricted"))
  let readOnly ← MonadExcept.ofExcept (hostConfig.getOr "ReadonlyRootfs" (.bool false))
  addCheck "read_only_fs" readOnly
  let config ← MonadExcept.ofExcept (data.getOr "Config" (.dict []))
  let user ← MonadExcept.ofExcept (config.getOr "User" (.str ""))
  addCheck "non_root" (.bool (user.toStr? ≠ some "" ∧ user.toStr? ≠ some "root"))

/-- The checks, after the inspection. -/
def checkInspection (p : CompletedProcess) : ChecksM Unit :=
  if p.returncode = 0 then do
    MonadExcept.ofExcept (globalName names "json")
    let report ← MonadExcept.ofExcept (py.loads p.stdout)
    checkReport report
  else return ()

variable (sb : VibeShieldSandbox) (inspect : List String → Except PyErr CompletedProcess)

/-- What is returned: an exception is reported as an error. -/
def checkResults : EStateM.Result PyErr (PyDict String PyVal) Unit →
    Except PyErr (PyDict String PyVal)
  | .ok _ results => .ok results
  | .error err results =>
    if err.isException then .ok (results.set "error" (.bool false)) else .error err

/-- Verifying the isolation of the sandbox, in a module with these names. `inspect` runs a
    command. -/
def verifyIsolation : Except PyErr (PyDict String PyVal) :=
  let checks : ChecksM Unit := do
    let p ← MonadExcept.ofExcept (inspect ["podman", "inspect", sb.containerName])
    checkInspection names py p
  checkResults (checks PyDict.empty)

end

/-- All checks are done and passed, and there is no error. -/
def IsolationVerified (r : Except PyErr (PyDict String PyVal)) : Prop :=
  ∃ results, r = .ok results ∧
    (∀ name ∈ ["no_new_privileges", "all_caps_dropped", "network_isolated", "read_only_fs",
      "non_root"], results.get? name = some (.bool true)) ∧
    results.get? "error" = none

section

variable {names : List String} {py : Python} {sb : VibeShieldSandbox}
  {inspect : List String → Except PyErr CompletedProcess} {p : CompletedProcess}

theorem verifyIsolation_of_error {err : PyErr}
    (h : inspect ["podman", "inspect", sb.containerName] = .error err) :
    sb.verifyIsolation names py inspect = checkResults (.error err PyDict.empty) := by
  rw [verifyIsolation, h]
  rfl

theorem verifyIsolation_of_ok (h : inspect ["podman", "inspect", sb.containerName] = .ok p) :
    sb.verifyIsolation names py inspect =
      checkResults (checkInspection names py p PyDict.empty) := by
  rw [verifyIsolation, h]
  rfl

theorem checkResults_error {err : PyErr} {checks results : PyDict String PyVal}
    (h : checkResults (.error err checks) = .ok results) :
    results = checks.set "error" (.bool false) := by
  rw [checkResults] at h
  split at h
  · exact (Except.ok.inj h).symm
  · simp at h

/-! ## The module as it is -/

/-- The report is not read. -/
theorem checkInspection_moduleNames (hp : p.returncode = 0) (checks : PyDict String PyVal) :
    checkInspection moduleNames py p checks =
      .error ⟨.otherException "NameError", "name 'json' is not defined"⟩ checks := by
  have hjson : globalName moduleNames "json" =
      .error ⟨.otherException "NameError", "name 'json' is not defined"⟩ :=
    if_neg (by decide)
  rw [checkInspection, if_pos hp, hjson]
  rfl

/-- Whatever is reported, the result is at most an error. -/
theorem verifyIsolation_moduleNames {results : PyDict String PyVal}
    (h : sb.verifyIsolation moduleNames py inspect = .ok results) :
    results = PyDict.empty ∨ results = PyDict.empty.set "error" (.bool false) := by
  rcases hinspect : inspect ["podman", "inspect", sb.containerName] with err | p
  · rw [verifyIsolation_of_error hinspect] at h
    exact .inr (checkResults_error h)
  · rw [verifyIsolation_of_ok hinspect] at h
    by_cases hp : p.returncode = 0
    · rw [checkInspection_moduleNames hp] at h
      exact .inr (checkResults_error h)
    · rw [checkInspection, if_neg hp] at h
      exact .inl (Except.ok.inj h).symm

/-- For no sandbox, and whatever is reported of it, the isolation is verified. -/
theorem isolation_never_verified (py : Python) (sb : VibeShieldSandbox)
    (inspect : List String → Except PyErr CompletedProcess) :
    ¬IsolationVerified (sb.verifyIsolation moduleNames py inspect) := by
  rintro ⟨results, hresults, hpassed, -⟩
  have hcheck := hpassed "no_new_privileges" List.mem_cons_self
  rcases verifyIsolation_moduleNames hresults with rfl | rfl
  · simp at hcheck
  · simp [PyDict.get?_set] at hcheck

end

/-! ## A faithful report -/

/-- The options of a command line, with their values. Two have none. -/
def options : List String → List (String × String)
  | flag :: value :: rest =>
    if flag ∈ ["--rm", "--read-only"] then (flag, "") :: options (value :: rest)
    else (flag, value) :: options rest
  | [flag] => [(flag, "")]
  | [] => []

/-- The values that are passed for an option of `podman run`. -/
def optionValues (flag : String) (command : List String) : List String :=
  ((options (command.drop 2)).filter fun o => o.1 = flag).map Prod.snd

/-- What `podman inspect` reports of a container that was started with this command and in
    which this user runs. -/
def inspected (command : List String) (user : String) : PyVal :=
  .list [.dict [
    (.str "HostConfig", .dict [
      (.str "SecurityOpt", .list ((optionValues "--security-opt" command).map .str)),
      (.str "CapDrop", .list ((optionValues "--cap-drop" command).map .str)),
      (.str "NetworkMode", .str ((optionValues "--network" command).headD "")),
      (.str "ReadonlyRootfs", .bool (optionValues "--read-only" command ≠ []))]),
    (.str "Config", .dict [(.str "User", .str user)])]]

section

variable {sb : VibeShieldSandbox} {path user : String}

/-- What is reported of a sandbox. -/
theorem inspected_runOptions :
    inspected (sb.runOptions path) user = .list [.dict [
      (.str "HostConfig", .dict [
        (.str "SecurityOpt", .list [.str "no-new-privileges=true", .str s!"seccomp={path}"]),
        (.str "CapDrop", .list [.str (if sb.config.capDropAll then "ALL" else "")]),
        (.str "NetworkMode", .str sb.config.networkMode),
        (.str "ReadonlyRootfs", .bool true)]),
      (.str "Config", .dict [(.str "User", .str user)])]] := by
  simp [inspected, optionValues, runOptions, options]

/-- The results of the checks. The first one fails, as there are two security options. -/
theorem checkReport_inspected (checks : PyDict String PyVal) :
    checkReport (inspected (sb.runOptions path) user) checks =
      .ok () (((((checks.set "no_new_privileges" (.bool false)).set
        "all_caps_dropped" (.bool sb.config.capDropAll)).set
          "network_isolated" (.bool (sb.config.networkMode = "none" ∨
            sb.config.networkMode = "vibeshield-restricted"))).set
          "read_only_fs" (.bool true)).set "non_root" (.bool (user ≠ "" ∧ user ≠ "root"))) := by
  have hchecks : checkReport (inspected (sb.runOptions path) user) checks =
      .ok () (((((checks.set "no_new_privileges" (.bool false)).set
        "all_caps_dropped" (.bool sb.config.capDropAll)).set
          "network_isolated" (.bool (some sb.config.networkMode = some "none" ∨
            some sb.config.networkMode = some "vibeshield-restricted"))).set
          "read_only_fs" (.bool true)).set
            "non_root" (.bool (some user ≠ some "" ∧ some user ≠ some "root"))) := by
    rw [inspected_runOptions]
    rcases sb.config.capDropAll with _ | _ <;> rfl
  simpa using hchecks

end

/-- If the module imported `json`, the verification of a sandbox with the default settings, from
    a faithful report, would still miss one check. -/
theorem verifyIsolation_of_json {names : List String} {py : Python} {sb : VibeShieldSandbox}
    {inspect : List String → Except PyErr CompletedProcess} {text path user : String}
    (hjson : "json" ∈ names) (hcaps : sb.config.capDropAll = true)
    (hnetwork : sb.config.networkMode = "none") (huser : user ≠ "" ∧ user ≠ "root")
    (hinspect : inspect ["podman", "inspect", sb.containerName] = .ok ⟨0, text⟩)
    (hloads : py.loads text = .ok (inspected (sb.runOptions path) user)) :
    sb.verifyIsolation names py inspect =
      .ok (((((PyDict.empty.set "no_new_privileges" (.bool false)).set
        "all_caps_dropped" (.bool true)).set "network_isolated" (.bool true)).set
          "read_only_fs" (.bool true)).set "non_root" (.bool true)) := by
  have hname : globalName names "json" = .ok () := if_pos hjson
  have hreport : checkInspection names py ⟨0, text⟩ PyDict.empty =
      checkReport (inspected (sb.runOptions path) user) PyDict.empty := by
    rw [checkInspection, if_pos rfl, hname, hloads]
    rfl
  rw [verifyIsolation_of_ok hinspect, hreport, checkReport_inspected, hcaps, hnetwork,
    decide_eq_true huser]
  rfl

end VibeShieldSandbox

namespace Sample

/-- A sandbox with the default settings. -/
def isolatedSandbox : VibeShieldSandbox :=
  ⟨"task-1", "vs_task_abc", "vibeshield/base:latest", "none", "512m", 50000, 100000, "100M", 300,
    true⟩

/-- What is reported of it. -/
def isolatedReport : PyVal :=
  VibeShieldSandbox.inspected (isolatedSandbox.runOptions "/tmp/seccomp.json") "agent"

/-- The library, which reads the text of the report. -/
def reportLib : Python := { Python.plain [] "" with loads := fun _ => .ok isolatedReport }

/-- Nothing but an error is returned for it. -/
theorem isolated_not_verified :
    ¬VibeShieldSandbox.IsolationVerified (isolatedSandbox.verifyIsolation moduleNames reportLib
      fun _ => .ok ⟨0, (jsonText isolatedReport).getD ""⟩) := by
  rintro ⟨results, hresults, -, herror⟩
  rw [VibeShieldSandbox.verifyIsolation_of_ok rfl,
    VibeShieldSandbox.checkInspection_moduleNames rfl] at hresults
  rw [VibeShieldSandbox.checkResults_error hresults] at herror
  simp [PyDict.get?_set] at herror

end Sample

end VibeShield
