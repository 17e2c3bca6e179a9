import VibeShield.Layer1.Refusals

/-!
# What reaches Podman

Whatever `deploy_agent` is called with, the `podman run` call is reached only after all
gates have been passed, and the command line has a fixed shape: the options that come from
the configuration, then an `--env` option for each environment variable, then the image,
the entrypoint and the workload (`podman_gate_soundness`). The value of an `--env`
option does not look like an option itself.
-/

namespace VibeShield

namespace VibeShieldSandbox

variable (host : Host) (sb : VibeShieldSandbox) (a : DeployArgs)

/-- `deploy_agent` from its checks on, up to the `podman run` call: the command. -/
def prepareAudited : EStateM PyErr SandboxStatus (List String) := do
  sb.checkTaskId host
  checkEntrypoint host a.entrypoint
  sb.checkToken host a.apiToken
  sb.record host .containerLifecycle .info "sandbox.deploy.start"
    [("container", .str sb.containerName), ("entrypoint", .str a.entrypoint)]
  scanPayload host (sb.record host) "sandbox.injection_blocked" sb.taskId a
  let command ← ofExcept (sb.runCommand host a)
  modify fun s => { s with state := .running }
  return command

/-- `deploy_agent`, up to the `podman run` call. -/
def prepare : EStateM PyErr SandboxStatus (List String) := do
  openAuditLog
  sb.prepareAudited host a

/-- The start of the container is the `podman run` call with this command. -/
theorem launch_eq : sb.launch host a = sb.prepare host a >>= fun command =>
    ofExcept (startProcess command sb.config.timeoutSeconds) := by
  simp only [launch, launchAudited, prepare, prepareAudited, bind_assoc, pure_bind]

/-- All gates have let the task pass. -/
structure Passed : Prop where
  taskId : matchesLine isTaskId sb.taskId = true
  entrypoint : a.entrypoint ∈ safeEntrypoints
  token : host.expectedKey ≠ "" → a.apiToken = some host.expectedKey
  scan : a.securityScan = true → ∃ injection,
    host.scan a.encryptedPayload sb.taskId = .ok injection ∧ injection.threatLevel ≠ .malicious
  env : ∀ p ∈ a.envVars.items, EnvAccepted p

variable {host sb a}

theorem ensures_checkToken (apiToken : Option String) :
    Ensures (sb.checkToken host apiToken) fun _ =>
      host.expectedKey ≠ "" → apiToken = some host.expectedKey := by
  rw [checkToken]
  refine .ite (fun _ => Ensures.any.bind fun _ _ => .throw _) fun hp => .pure fun hkey => ?_
  by_contra htoken
  exact hp ⟨hkey, .inr htoken⟩

theorem ensures_scanPayload {σ : Type} (record : Recorder σ) (event taskId : String) :
    Ensures (scanPayload host record event taskId a) fun _ => a.securityScan = true →
      ∃ injection, host.scan a.encryptedPayload taskId = .ok injection ∧
        injection.threatLevel ≠ .malicious := by
  rw [scanPayload]
  refine .ite (fun _ => ?_) fun hp => .pure fun hscan => absurd hscan hp
  refine (Ensures.ofExcept fun injection hscan => hscan).bind fun injection hscan => ?_
  refine .ite (fun _ => Ensures.any.bind fun _ _ => .throw _) fun hthreat => .pure fun _ => ?_
  exact ⟨injection, hscan, hthreat⟩

/-- The command is built only for environment variables that are all accepted. -/
theorem of_runCommand_eq_ok (hegress : a.egressRules = []) {command : List String}
    (h : sb.runCommand host a = .ok command) :
    (∀ p ∈ a.envVars.items, EnvAccepted p) ∧ ∃ path, ensureSeccompProfile host = .ok path ∧
      command = sb.runOptions path ++
        (a.envVars.items.map fun p => ["--env", s!"{p.1}={p.2}"]).flatten ++
        [sb.config.sandboxImage, a.entrypoint] ++ workload a := by
  cases hpath : ensureSeccompProfile host with
  | error err =>
    rw [runCommand, hpath] at h
    cases h
  | ok path =>
    by_cases henv : ∀ p ∈ a.envVars.items, EnvAccepted p
    · rw [runCommand_eq_ok hpath hegress henv] at h
      exact ⟨henv, path, rfl, (Except.ok.inj h).symm⟩
    · obtain ⟨err, herr⟩ : ∃ err, sb.runCommand host a = .error err :=
        exists_runCommand_eq_error hpath hegress henv
      cases herr.symm.trans h

theorem exists_toList_of_matchesLine {key : String} (h : matchesLine isEnvName key = true) :
    ∃ c cs, key.toList = c :: cs ∧ c.isUpper = true := by
  rw [matchesLine, Bool.or_eq_true, Bool.and_eq_true] at h
  cases hkey : key.toList with
  | nil =>
    rw [hkey] at h
    rcases h with h | h
    · cases h
    · cases h.2
  | cons c cs =>
    refine ⟨c, cs, rfl, ?_⟩
    rw [hkey] at h
    rcases h with h | ⟨_, h⟩
    · exact ((Bool.and_eq_true _ _).mp h).1
    · -- With a newline at the end, there is a letter before it.
      cases cs with
      | nil => cases h
      | cons d ds => exact ((Bool.and_eq_true _ _).mp h).1

/-- The value of the option starts with a capital letter. -/
theorem not_startsWith_dash {p : String × String} (hp : EnvAccepted p) :
    startsWith s!"{p.1}={p.2}" "-" = false := by
  obtain ⟨c, cs, hkey, hupper⟩ := exists_toList_of_matchesLine hp.1
  have htext : (s!"{p.1}={p.2}").toList = c :: (cs ++ "=".toList ++ p.2.toList) := by
    change (p.1 ++ "=" ++ p.2).toList = _
    rw [String.toList_append, String.toList_append, hkey]
    rfl
  have hc : ('-' == c) = false := by
    refine beq_eq_false_iff_ne.2 ?_
    rintro rfl
    exact absurd hupper (by decide)
  rw [startsWith, htext]
  change ('-' == c && _) = false
  rw [hc, Bool.false_and]

/-- When `deploy_agent` reaches the `podman run` call, all gates have let the task pass. Of its
    arguments, the command has the environment variables before the image, each in an
    option of its own, and the entrypoint and the workload after it. -/
theorem podman_gate_soundness (host : Host) (sb : VibeShieldSandbox) (a : DeployArgs)
    (hegress : a.egressRules = []) {s s' : SandboxStatus} {command : List String}
    (h : sb.prepare host a s = .ok command s') :
    sb.Passed host a ∧ (∃ path, ensureSeccompProfile host = .ok path ∧
      command = sb.runOptions path ++
        (a.envVars.items.map fun p => ["--env", s!"{p.1}={p.2}"]).flatten ++
        [sb.config.sandboxImage, a.entrypoint] ++ workload a) ∧
    ∀ p ∈ a.envVars.items, startsWith s!"{p.1}={p.2}" "-" = false := by
  suffices hall : Ensures (sb.prepare host a) fun command => sb.Passed host a ∧
      ∃ path, ensureSeccompProfile host = .ok path ∧ command = sb.runOptions path ++
        (a.envVars.items.map fun p => ["--env", s!"{p.1}={p.2}"]).flatten ++
        [sb.config.sandboxImage, a.entrypoint] ++ workload a by
    obtain ⟨hpassed, hcommand⟩ := hall s command s' h
    exact ⟨hpassed, hcommand, fun p hp => not_startsWith_dash (hpassed.env p hp)⟩
  -- One rule for each statement of the method, in their order.
  rw [prepare, prepareAudited, checkTaskId, checkEntrypoint]
  refine Ensures.any.bind fun _ _ => ?_
  refine (Ensures.check _ _).bind fun _ htaskId => ?_
  refine (Ensures.check _ _).bind fun _ hentrypoint => ?_
  refine (ensures_checkToken a.apiToken).bind fun _ htoken => ?_
  refine Ensures.any.bind fun _ _ => ?_
  refine (ensures_scanPayload _ _ sb.taskId).bind fun _ hscan => ?_
  refine (Ensures.ofExcept fun command hcommand => hcommand).bind fun command hcommand => ?_
  refine Ensures.any.bind fun _ _ => .pure ?_
  obtain ⟨henv, hshape⟩ := of_runCommand_eq_ok hegress hcommand
  exact ⟨⟨not_not.1 htaskId, not_not.1 hentrypoint, htoken, hscan, henv⟩, hshape⟩

end VibeShieldSandbox

namespace Sample

/-- The task with one environment variable gets through. -/
theorem podman_gates_passed : (VibeShieldSandbox.new deployHost "task-1" none).Passed deployHost
    (deployArgs "MODE" "test") := by
  have hok : (match (VibeShieldSandbox.new deployHost "task-1" none).prepare deployHost
      (deployArgs "MODE" "test") VibeShieldSandbox.newStatus with
    | .ok _ _ => true
    | .error _ _ => false) = true := by decide +kernel
  cases h : (VibeShieldSandbox.new deployHost "task-1" none).prepare deployHost
      (deployArgs "MODE" "test") VibeShieldSandbox.newStatus with
  | ok command s =>
    exact (VibeShieldSandbox.podman_gate_soundness deployHost _ (deployArgs "MODE" "test") rfl h).1
  | error err s =>
    rw [h] at hok
    exact absurd hok nofun

end Sample

end VibeShield
