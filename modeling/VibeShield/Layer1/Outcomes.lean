import VibeShield.Layer1.Delivery
import VibeShield.Lib.Trace
import VibeShield.Security.Audit.Run

/-!
# What a deployment leaves in the audit log

`deploy_agent` records the start of a deployment, and then its outcome: that the payload or
the output is blocked, or that the container has ended. But there are ends that it does not
record: a timeout, an exception of the process, and every refusal between the scan of the
payload and the start of the container. `deploy_outcome_recorded_iff` says exactly which
deployments get an outcome in the log.
-/

namespace VibeShield

/-! ## Events -/

/-- The names of the events in the audit log. -/
def SandboxStatus.events (s : SandboxStatus) : List String :=
  s.auditLog.elim [] fun log => log.entries.filterMap fun e => e.event.toStr?

/-- There is an audit log. -/
def SandboxStatus.Opened (s : SandboxStatus) : Prop := s.auditLog.isSome = true

/-- An event whose details JSON can express is appended to the log. -/
theorem exists_recordEvent_eq_ok {host : Host} (hpy : host.py.WritesJson) (taskId : String)
    (category : AuditCategory) (severity : AuditSeverity) (event : String)
    {details : List (String × PyVal)} (hdetails : ∀ p ∈ details, p.2.isJson 6 = true)
    (log : AuditLog) : ∃ log' e, recordEvent host taskId category severity event details log =
      .ok () log' ∧ log'.entries = log.entries ++ [e] ∧ e.event = .str event := by
  have hdict : (PyVal.dict (details.map fun p => (.str p.1, p.2))).isJson 7 = true := by
    simpa [PyVal.isJson] using hdetails
  obtain ⟨log', entry, h⟩ := exists_record_eq_ok hpy log category severity event taskId hdict
    (host.clock event)
  set args : RecordArgs := ⟨.inl category, .inl severity, .str event, .str taskId, .str taskId,
    .dict (details.map fun p => (.str p.1, p.2)), host.clock event⟩ with hargs
  have hok : recordEvent host taskId category severity event details log = .ok () log' := by
    rw [recordEvent, ← hargs, h]
  cases hhash : (log.newEntry args).computeHash host.py with
  | error err =>
    rw [AuditLog.record_of_computeHash_error hhash] at h
    cases congrArg Prod.snd h
  | ok hash =>
    refine ⟨log', { log.newEntry args with entryHash := hash }, hok, ?_, rfl⟩
    have hlog := AuditLog.record_of_computeHash_ok hhash fun _ log => (log, none)
    rw [h, or_self] at hlog
    exact congrArg AuditLog.entries hlog

namespace VibeShieldSandbox

/-- The names of the events that tell the outcome of a deployment. -/
def outcomeEvents : List String :=
  ["sandbox.deploy.complete", "sandbox.injection_blocked", "sandbox.exfil_blocked"]

variable {F : Type} [PyNum F] (host : Host) (after : Aftermath F) (sb : VibeShieldSandbox)
  (a : DeployArgs)

/-- The events that a call of `deploy_agent` adds to the log. -/
def recordedEvents (s : SandboxStatus) : List String :=
  (endState (sb.deployAgent host after a s)).events.drop s.events.length

/-- If the start of the deployment is recorded, exactly one outcome is recorded later. -/
def OutcomeRecorded (s : SandboxStatus) : Prop :=
  ∀ before later, recordedEvents host after sb a s = before ++ "sandbox.deploy.start" :: later →
    later.countP (· ∈ outcomeEvents) = 1

/-- Nothing is refused up to the token gate. -/
structure Started : Prop where
  taskId : matchesLine isTaskId sb.taskId = true
  entrypoint : a.entrypoint ∈ safeEntrypoints
  token : ¬Unauthorized host a.apiToken

/-- The payload is scanned and found malicious. -/
def Blocked : Prop :=
  a.securityScan = true ∧ ∃ injection, host.scan a.encryptedPayload sb.taskId = .ok injection ∧
    injection.threatLevel = .malicious

/-- The container is started and ends with an exit code, and its output is scanned. -/
structure Concluded : Prop where
  scan : a.securityScan = true → ∃ injection,
    host.scan a.encryptedPayload sb.taskId = .ok injection ∧ injection.threatLevel ≠ .malicious
  egressRules : a.egressRules = []
  env : ∀ p ∈ a.envVars.items, EnvAccepted p
  command : ∃ path, ensureSeccompProfile host = .ok path ∧
    ∀ arg ∈ sb.runOptions path ++ [sb.config.sandboxImage, a.entrypoint] ++ workload a, NoNul arg
  podmanLogs : ∀ err, after.podmanLogs = .error err → err.isException = true
  outcome : ∃ returncode stdout stderr, after.outcome = .completed returncode stdout stderr ∧
    ∀ err, scanOutput host after a.securityScan stdout ≠ .error err

variable {host after sb a}

/-- The sandbox records every event that it wants to. -/
theorem record_returns (hpy : host.py.WritesJson) (category : AuditCategory)
    (severity : AuditSeverity) (event : String) {details : List (String × PyVal)}
    (hdetails : ∀ p ∈ details, p.2.isJson 6 = true) :
    Returns SandboxStatus.Opened SandboxStatus.events
      (sb.record host category severity event details) (fun _ => True) [event] := by
  intro s hs
  obtain ⟨log, hlog⟩ := Option.isSome_iff_exists.1 hs
  obtain ⟨log', e, hok, hentries, hevent⟩ :=
    exists_recordEvent_eq_ok hpy sb.taskId category severity event hdetails log
  refine ⟨(), { s with auditLog := some log' }, ?_, trivial, rfl, ?_⟩
  · rw [record, hlog]
    dsimp only
    rw [hok]
  · simp only [SandboxStatus.events, hlog, Option.elim_some, hentries, List.filterMap_append]
    simp [hevent]

/-! ## Up to the start event -/

variable (host after sb a) in
/-- `deploy_agent` after the start has been recorded. -/
def afterStart : EStateM PyErr SandboxStatus (SandboxResult F) := do
  scanPayload host (sb.record host) "sandbox.injection_blocked" sb.taskId a
  let command ← ofExcept (sb.runCommand host a)
  modify fun s => { s with state := .running }
  let _ ← ofExcept (startProcess command sb.config.timeoutSeconds)
  sb.complete host after a.securityScan

variable (host after sb a) in
/-- `deploy_agent` after the audit log has been opened. -/
def deployAudited : EStateM PyErr SandboxStatus (SandboxResult F) := do
  sb.checkTaskId host
  checkEntrypoint host a.entrypoint
  sb.checkToken host a.apiToken
  sb.record host .containerLifecycle .info "sandbox.deploy.start"
    [("container", .str sb.containerName), ("entrypoint", .str a.entrypoint)]
  afterStart host after sb a

theorem deployAgent_eq : sb.deployAgent host after a =
    openAuditLog >>= fun _ => deployAudited host after sb a := by
  simp only [deployAgent, launch, launchAudited, deployAudited, afterStart, bind_assoc]

/-- What is recorded, if it does not depend on what the log holds already. -/
theorem recordedEvents_eq {ts : List String}
    (h : Logs SandboxStatus.Opened SandboxStatus.events (deployAudited host after sb a) ts)
    (s : SandboxStatus) : recordedEvents host after sb a s = ts := by
  set s' : SandboxStatus :=
    { s with auditLog := some (s.auditLog.getD (.new "/var/lib/vibeshield/audit" false)) }
  have hevents : s'.events = s.events := by
    change SandboxStatus.events { s with auditLog := _ } = _
    rw [SandboxStatus.events, SandboxStatus.events]
    cases s.auditLog with
    | none => rfl
    | some log => rfl
  have hend : sb.deployAgent host after a s = deployAudited host after sb a s' := by
    rw [deployAgent_eq]
    rfl
  rw [recordedEvents, hend, h s' rfl, hevents, List.drop_left]

/-- A deployment that is refused for its task id or its entrypoint records nothing. -/
theorem logs_of_refused
    (h : ¬(matchesLine isTaskId sb.taskId = true ∧ a.entrypoint ∈ safeEntrypoints)) :
    Logs SandboxStatus.Opened SandboxStatus.events (deployAudited host after sb a) [] := by
  unfold deployAudited checkTaskId checkEntrypoint
  by_cases htask : matchesLine isTaskId sb.taskId = true
  · rw [if_neg (not_not.2 htask), if_pos fun hentry => h ⟨htask, hentry⟩]
    refine (Returns.pure (V := fun _ => True) trivial).skip_logs fun _ _ => ?_
    exact (Raises.throw _).bind.logs
  · rw [if_pos htask]
    exact (Raises.throw _).bind.logs

/-- One that is refused at the token gate records that. -/
theorem logs_of_unauthorized (hpy : host.py.WritesJson)
    (htask : matchesLine isTaskId sb.taskId = true) (hentry : a.entrypoint ∈ safeEntrypoints)
    (htoken : Unauthorized host a.apiToken) :
    Logs SandboxStatus.Opened SandboxStatus.events (deployAudited host after sb a)
      ["sandbox.auth_failure"] := by
  have hrecord : Returns SandboxStatus.Opened SandboxStatus.events
      (sb.record host .securityViolation .critical "sandbox.auth_failure"
        [("reason", .str "invalid_or_missing_api_token")]) (fun _ => True) _ :=
    record_returns hpy _ _ _ (by simp [PyVal.isJson])
  unfold deployAudited checkTaskId checkEntrypoint checkToken
  rw [if_neg (not_not.2 htask), if_neg (not_not.2 hentry), if_pos ⟨htoken.1, .inr htoken.2⟩]
  refine (Returns.pure (V := fun _ => True) trivial).skip_logs fun _ _ => ?_
  refine (Returns.pure (V := fun _ => True) trivial).skip_logs fun _ _ => ?_
  exact (Raises.bind (hrecord.bind_throw fun _ _ => .throw _)).logs

/-- Whatever is refused up to the token gate is refused in one of these two ways. -/
theorem refused_or_unauthorized (h : ¬Started host sb a) :
    ¬(matchesLine isTaskId sb.taskId = true ∧ a.entrypoint ∈ safeEntrypoints) ∨
      (matchesLine isTaskId sb.taskId = true ∧ a.entrypoint ∈ safeEntrypoints) ∧
        Unauthorized host a.apiToken := by
  by_contra hcon
  rw [not_or, not_not] at hcon
  exact h ⟨hcon.1.1, hcon.1.2, fun htoken => hcon.2 ⟨hcon.1, htoken⟩⟩

/-- A deployment that is refused up to the token gate has no start event. -/
theorem logs_of_not_started (hpy : host.py.WritesJson) (h : ¬Started host sb a) :
    ∃ ts, Logs SandboxStatus.Opened SandboxStatus.events (deployAudited host after sb a) ts ∧
      "sandbox.deploy.start" ∉ ts := by
  rcases refused_or_unauthorized h with hrefused | ⟨⟨htask, hentry⟩, htoken⟩
  · exact ⟨_, logs_of_refused hrefused, List.not_mem_nil⟩
  · exact ⟨_, logs_of_unauthorized hpy htask hentry htoken, by decide⟩

/-- One that is not refused records its start, and then what it does after that. -/
theorem logs_of_started (hpy : host.py.WritesJson) (h : Started host sb a) {ts : List String}
    (hafter : Logs SandboxStatus.Opened SandboxStatus.events (afterStart host after sb a) ts) :
    Logs SandboxStatus.Opened SandboxStatus.events (deployAudited host after sb a)
      ("sandbox.deploy.start" :: ts) := by
  have htoken : ¬(host.expectedKey ≠ "" ∧
      (a.apiToken.getD "" = "" ∨ a.apiToken ≠ some host.expectedKey)) := by
    rintro ⟨hkey, htoken⟩
    refine h.token ⟨hkey, fun hsome => ?_⟩
    rw [hsome] at htoken
    exact htoken.elim hkey fun hne => hne rfl
  have hrecord : Returns SandboxStatus.Opened SandboxStatus.events
      (sb.record host .containerLifecycle .info "sandbox.deploy.start"
        [("container", .str sb.containerName), ("entrypoint", .str a.entrypoint)])
      (fun _ => True) _ := record_returns hpy _ _ _ (by simp [PyVal.isJson])
  unfold deployAudited checkTaskId checkEntrypoint checkToken
  rw [if_neg (not_not.2 h.taskId), if_neg (not_not.2 h.entrypoint), if_neg htoken]
  refine (Returns.pure (V := fun _ => True) trivial).skip_logs fun _ _ => ?_
  refine (Returns.pure (V := fun _ => True) trivial).skip_logs fun _ _ => ?_
  refine (Returns.pure (V := fun _ => True) trivial).skip_logs fun _ _ => ?_
  exact hrecord.bind_logs fun _ _ => hafter

/-! ## After the start event -/

/-- A payload that is blocked is recorded. -/
theorem logs_of_blocked (hpy : host.py.WritesJson) (h : Blocked host sb a) :
    Logs SandboxStatus.Opened SandboxStatus.events (afterStart host after sb a)
      ["sandbox.injection_blocked"] := by
  obtain ⟨hscan, injection, hinjection, hlevel⟩ := h
  have hdetails : ∀ q ∈ [("score", PyVal.float injection.score),
      ("matches", .list ((injection.matches.take 5).map .str))], q.2.isJson 6 = true :=
    List.forall_mem_cons.2 ⟨rfl, List.forall_mem_singleton.2 (isJson_strs 5 _)⟩
  unfold afterStart scanPayload
  rw [if_pos hscan, hinjection]
  refine (Raises.bind ?_).logs
  refine (Returns.ofExcept rfl).skip_raises fun _ hvalue => ?_
  rw [hvalue, if_pos hlevel]
  exact (record_returns hpy _ _ _ hdetails).bind_throw fun _ _ => .throw _

/-- A payload that passes the scan leaves no event. -/
theorem scanPayload_returns (hscan : a.securityScan = true → ∃ injection,
      host.scan a.encryptedPayload sb.taskId = .ok injection ∧
        injection.threatLevel ≠ .malicious) :
    Returns SandboxStatus.Opened SandboxStatus.events
      (scanPayload host (sb.record host) "sandbox.injection_blocked" sb.taskId a)
      (fun _ => True) [] := by
  rw [scanPayload]
  by_cases hon : a.securityScan = true
  · obtain ⟨injection, hinjection, hlevel⟩ := hscan hon
    rw [if_pos hon, hinjection]
    refine (Returns.ofExcept rfl).skip fun _ hvalue => ?_
    rw [hvalue, if_neg hlevel]
    exact .pure trivial
  · rw [if_neg hon]
    exact .pure trivial

/-- With egress rules, the command is never built. -/
theorem exists_runCommand_eq_error_of_egressRules (hegress : a.egressRules ≠ []) :
    ∃ err, sb.runCommand host a = .error err := by
  have hrules : ∃ err, applyEgressRules host = .error err := by
    refine exists_bind_eq_error fun returncode => ?_
    dsimp only
    split
    · exact exists_bind_eq_error fun _ => ⟨_, rfl⟩
    · exact ⟨_, rfl⟩
  refine exists_bind_eq_error fun path => ?_
  dsimp only
  rw [if_pos hegress]
  obtain ⟨err, herr⟩ := hrules
  rw [herr]
  exact ⟨err, rfl⟩

/-- The command is built exactly if there are no egress rules, the seccomp profile is there
    and the environment variables are accepted. -/
theorem runCommand_eq_ok_iff {command : List String} : sb.runCommand host a = .ok command ↔
    a.egressRules = [] ∧ (∀ p ∈ a.envVars.items, EnvAccepted p) ∧
      ∃ path, ensureSeccompProfile host = .ok path ∧ command = sb.runOptions path ++
        (a.envVars.items.map fun p => ["--env", s!"{p.1}={p.2}"]).flatten ++
        [sb.config.sandboxImage, a.entrypoint] ++ workload a := by
  constructor
  · intro h
    by_cases hegress : a.egressRules = []
    · exact ⟨hegress, of_runCommand_eq_ok hegress h⟩
    · obtain ⟨err, herr⟩ : ∃ err, sb.runCommand host a = .error err :=
        exists_runCommand_eq_error_of_egressRules hegress
      exact absurd (herr.symm.trans h) nofun
  · rintro ⟨hegress, henv, path, hpath, rfl⟩
    exact runCommand_eq_ok hpath hegress henv

/-! ## After the start of the container -/

/-- The state of the sandbox is not in the log. -/
theorem state_returns (state : SandboxState) :
    Returns SandboxStatus.Opened SandboxStatus.events
      (modify fun s => { s with state := state } : EStateM PyErr SandboxStatus PUnit)
      (fun _ => True) [] :=
  .modify (fun _ hs => hs) fun _ => rfl

omit [PyNum F] in
theorem exists_auditNetworkActivity_eq_ok
    (hlogs : ∀ err, after.podmanLogs = .error err → err.isException = true) :
    ∃ n, auditNetworkActivity host after = .ok n := by
  rw [auditNetworkActivity]
  cases h : after.podmanLogs with
  | ok channels => exact ⟨_, rfl⟩
  | error err => exact ⟨0, if_pos (hlogs err h)⟩

omit [PyNum F] in
/-- What is recorded of an output that is blocked can be written as JSON. -/
theorem isJson_exfilDetails (exfil : ExfilResult F) :
    ∀ p ∈ [("risk", PyVal.str exfil.risk.value), ("score", .float (after.float.value exfil.score)),
      ("findings", .list ((exfil.findings.take 5).map .str))], p.2.isJson 6 = true :=
  List.forall_mem_cons.2 ⟨rfl, List.forall_mem_cons.2 ⟨rfl,
    List.forall_mem_singleton.2 (isJson_strs 5 _)⟩⟩

/-- A process that has ended is recorded, with its output blocked or not. -/
theorem conclude_logs (hpy : host.py.WritesJson) (returncode : ℤ) (stdout stderr : String)
    (networkConnections : ℕ) (exfil : Option (ExfilResult F)) :
    Logs SandboxStatus.Opened SandboxStatus.events
      (sb.conclude host after returncode stdout stderr networkConnections exfil)
      [if exfil.isSome then "sandbox.exfil_blocked" else "sandbox.deploy.complete"] := by
  cases exfil with
  | none =>
    rw [conclude]
    refine Returns.get.skip_logs fun s _ => ?_
    refine (Returns.bind_silent (W := fun _ => True) (record_returns hpy _ _ _ ?_)
      fun _ _ => ?_).logs
    · simp [PyVal.isJson]
    · exact Returns.get.skip fun s _ => .pure trivial
  | some exfil =>
    rw [conclude]
    exact ((record_returns hpy _ _ _ (isJson_exfilDetails exfil)).bind_silent fun _ _ =>
      .pure (V := fun _ => True) trivial).logs

/-- A process that has ended, with its output scanned, is recorded. -/
theorem complete_logs (hpy : host.py.WritesJson)
    (hlogs : ∀ err, after.podmanLogs = .error err → err.isException = true)
    {returncode : ℤ} {stdout stderr : String}
    (houtcome : after.outcome = .completed returncode stdout stderr)
    (hscan : ∀ err, scanOutput host after a.securityScan stdout ≠ .error err) :
    ∃ event ∈ outcomeEvents, Logs SandboxStatus.Opened SandboxStatus.events
      (sb.complete host after a.securityScan) [event] := by
  obtain ⟨n, hn⟩ : ∃ n, auditNetworkActivity host after = .ok n :=
    exists_auditNetworkActivity_eq_ok hlogs
  cases hexfil : scanOutput host after a.securityScan stdout with
  | error err => exact absurd hexfil (hscan err)
  | ok exfil =>
    refine ⟨if exfil.isSome then "sandbox.exfil_blocked" else "sandbox.deploy.complete", ?_, ?_⟩
    · split <;> simp [outcomeEvents]
    · rw [complete, houtcome]
      dsimp only
      refine (state_returns _).skip_logs fun _ _ => ?_
      refine (Returns.ofExcept hn).skip_logs fun _ hvalue => ?_
      refine (Returns.ofExcept hexfil).skip_logs fun _ hvalue' => ?_
      rw [hvalue, hvalue']
      exact conclude_logs hpy returncode stdout stderr n exfil

omit [PyNum F] in
theorem cryptographicShred_preserves :
    Preserves SandboxStatus.events (cryptographicShred after) := by
  refine (Preserves.ofExcept _).bind fun _ => (Preserves.ofExcept _).bind fun _ => ?_
  exact (Preserves.ofExcept _).bind fun _ => fun _ => rfl

/-- No other end of the process is recorded. -/
theorem complete_logs_nothing
    (h : ¬((∀ err, after.podmanLogs = .error err → err.isException = true) ∧
      ∃ returncode stdout stderr, after.outcome = .completed returncode stdout stderr ∧
        ∀ err, scanOutput host after a.securityScan stdout ≠ .error err)) :
    Logs SandboxStatus.Opened SandboxStatus.events (sb.complete host after a.securityScan) [] := by
  rw [complete]
  cases houtcome : after.outcome with
  | completed returncode stdout stderr =>
    dsimp only
    refine (state_returns _).skip_logs fun _ _ => ?_
    cases hlogs : auditNetworkActivity host after with
    | error err => exact (Raises.ofExcept rfl).bind.logs
    | ok n =>
      refine (Returns.ofExcept rfl).skip_logs fun _ _ => ?_
      cases hscan : scanOutput host after a.securityScan stdout with
      | error err => exact (Raises.ofExcept rfl).bind.logs
      | ok exfil =>
        refine absurd ⟨fun err herr => ?_, returncode, stdout, stderr, houtcome, ?_⟩ h
        · by_contra hexc
          rw [auditNetworkActivity, herr] at hlogs
          cases (if_neg hexc).symm.trans hlogs
        · rw [hscan]
          intro err herr
          cases herr
  | timeoutExpired =>
    refine Preserves.logs (.bind (fun _ => rfl) fun _ => ?_)
    exact cryptographicShred_preserves.bind fun _ => .pure _
  | calledProcessError returncode text =>
    refine Preserves.logs (.bind (fun _ => rfl) fun _ => ?_)
    exact cryptographicShred_preserves.bind fun _ => .pure _
  | raised err => exact (Raises.throw err).logs

/-! ## The outcome -/

theorem forall_noNul_command {path : String} (henv : ∀ p ∈ a.envVars.items, EnvAccepted p) :
    (∀ arg ∈ sb.runOptions path ++
        (a.envVars.items.map fun p => ["--env", s!"{p.1}={p.2}"]).flatten ++
        [sb.config.sandboxImage, a.entrypoint] ++ workload a, NoNul arg) ↔
      ∀ arg ∈ sb.runOptions path ++ [sb.config.sandboxImage, a.entrypoint] ++ workload a,
        NoNul arg := by
  simp only [List.forall_mem_append]
  exact ⟨fun ⟨⟨⟨hopts, _⟩, himage⟩, hwork⟩ => ⟨⟨hopts, himage⟩, hwork⟩,
    fun ⟨⟨hopts, himage⟩, hwork⟩ => ⟨⟨⟨hopts, noNul_envArgs henv⟩, himage⟩, hwork⟩⟩

/-- A container that ends with an exit code has its end recorded, if the output is scanned. -/
theorem logs_of_concluded (hpy : host.py.WritesJson) (h : Concluded host after sb a) :
    ∃ event ∈ outcomeEvents, Logs SandboxStatus.Opened SandboxStatus.events
      (afterStart host after sb a) [event] := by
  obtain ⟨path, hpath, hnul⟩ := h.command
  obtain ⟨returncode, stdout, stderr, houtcome, hscan⟩ := h.outcome
  obtain ⟨event, hevent, hlogs⟩ : ∃ event ∈ outcomeEvents,
      Logs SandboxStatus.Opened SandboxStatus.events (sb.complete host after a.securityScan)
        [event] :=
    complete_logs hpy h.podmanLogs houtcome hscan
  refine ⟨event, hevent, ?_⟩
  unfold afterStart
  refine (scanPayload_returns h.scan).skip_logs fun _ _ => ?_
  have hcommand : sb.runCommand host a = .ok _ := runCommand_eq_ok hpath h.egressRules h.env
  refine (Returns.ofExcept hcommand).skip_logs fun _ hvalue => ?_
  refine (state_returns _).skip_logs fun _ _ => ?_
  rw [hvalue]
  exact (Returns.ofExcept (if_pos ((forall_noNul_command h.env).2 hnul))).skip_logs
    fun _ _ => hlogs

/-- Nothing else is recorded after the start. -/
theorem logs_nothing_of_not_concluded (hblocked : ¬Blocked host sb a)
    (h : ¬Concluded host after sb a) :
    Logs SandboxStatus.Opened SandboxStatus.events (afterStart host after sb a) [] := by
  unfold afterStart
  by_cases hscan : a.securityScan = true → ∃ injection,
      host.scan a.encryptedPayload sb.taskId = .ok injection ∧ injection.threatLevel ≠ .malicious
  · refine (scanPayload_returns hscan).skip_logs fun _ _ => ?_
    cases hcommand : sb.runCommand host a with
    | error err => exact (Raises.ofExcept rfl).bind.logs
    | ok command =>
      obtain ⟨hegress, henv, path, hpath, hshape⟩ := runCommand_eq_ok_iff.1 hcommand
      refine (Returns.ofExcept rfl).skip_logs fun _ hvalue => ?_
      refine (state_returns _).skip_logs fun _ _ => ?_
      rw [hvalue]
      by_cases hnul : ∀ arg ∈ command, NoNul arg
      · refine (Returns.ofExcept (if_pos hnul)).skip_logs fun _ _ => ?_
        rw [hshape, forall_noNul_command henv] at hnul
        exact complete_logs_nothing fun ⟨hlogs, houtcome⟩ =>
          h ⟨hscan, hegress, henv, ⟨path, hpath, hnul⟩, hlogs, houtcome⟩
      · exact (Raises.ofExcept (if_neg hnul)).bind.logs
  · -- The scan raises an exception.
    obtain ⟨hon, hnone⟩ := Classical.not_imp.1 hscan
    unfold scanPayload
    rw [if_pos hon]
    cases hinjection : host.scan a.encryptedPayload sb.taskId with
    | error err => exact ((Raises.ofExcept rfl).bind).bind.logs
    | ok injection =>
      have hlevel : injection.threatLevel = .malicious := by
        by_contra hlevel
        exact hnone ⟨injection, hinjection, hlevel⟩
      exact absurd ⟨hon, injection, hinjection, hlevel⟩ hblocked

/-- A deployment whose start is recorded gets exactly one outcome in the audit log if and
    only if its payload is blocked, or its container ends with an exit code and the output
    can be scanned. -/
theorem deploy_outcome_recorded_iff (host : Host) (hpy : host.py.WritesJson)
    (after : Aftermath F) (sb : VibeShieldSandbox) (a : DeployArgs) (s : SandboxStatus) :
    OutcomeRecorded host after sb a s ↔
      ¬Started host sb a ∨ Blocked host sb a ∨ Concluded host after sb a := by
  by_cases hstarted : Started host sb a
  · rw [or_iff_right (not_not.2 hstarted)]
    have hiff {ts : List String} (hstart : "sandbox.deploy.start" ∉ ts)
        (hts : Logs SandboxStatus.Opened SandboxStatus.events (afterStart host after sb a) ts) :
        OutcomeRecorded host after sb a s ↔ ts.countP (· ∈ outcomeEvents) = 1 := by
      have hrecorded := recordedEvents_eq (logs_of_started hpy hstarted hts) s
      unfold OutcomeRecorded
      rw [hrecorded]
      refine ⟨fun h => h [] ts rfl, fun h before later hsplit => ?_⟩
      cases before with
      | nil => exact (List.cons.inj hsplit).2 ▸ h
      | cons event before =>
        refine absurd ?_ hstart
        rw [(List.cons.inj hsplit).2]
        exact List.mem_append_right before List.mem_cons_self
    by_cases hblocked : Blocked host sb a
    · rw [hiff (by decide) (logs_of_blocked hpy hblocked)]
      exact iff_of_true (by decide) (.inl hblocked)
    · rw [or_iff_right hblocked]
      by_cases hconcluded : Concluded host after sb a
      · obtain ⟨event, hevent, hlogs⟩ := logs_of_concluded hpy hconcluded
        have hstart : "sandbox.deploy.start" ∉ [event] := by
          rw [List.mem_singleton]
          rintro rfl
          exact absurd hevent (by decide)
        rw [hiff hstart hlogs]
        exact iff_of_true (by rw [List.countP_cons_of_pos (by simpa using hevent)]; rfl) hconcluded
      · rw [hiff List.not_mem_nil (logs_nothing_of_not_concluded hblocked hconcluded)]
        exact iff_of_false (by decide) hconcluded
  · obtain ⟨ts, hts, hstart⟩ : ∃ ts,
        Logs SandboxStatus.Opened SandboxStatus.events (deployAudited host after sb a) ts ∧
          "sandbox.deploy.start" ∉ ts :=
      logs_of_not_started hpy hstarted
    refine iff_of_true (fun before later hsplit => ?_) (.inl hstarted)
    rw [recordedEvents_eq hts s] at hsplit
    rw [hsplit] at hstart
    exact absurd (List.mem_append_right before List.mem_cons_self) hstart

end VibeShieldSandbox

namespace Sample

open VibeShieldSandbox

def podmanSandbox : VibeShieldSandbox := .new deployHost "task-1" none

theorem podmanSandbox_started : Started deployHost podmanSandbox (deployArgs "MODE" "test") where
  taskId := by decide +kernel
  entrypoint := by decide +kernel
  token h := h.1 rfl

/-- A task that exceeds its timeout has a start event, and no outcome. -/
theorem timeout_unrecorded : ¬OutcomeRecorded deployHost { leak with outcome := .timeoutExpired }
    podmanSandbox (deployArgs "MODE" "test") newStatus := by
  have hblocked : ¬Blocked deployHost podmanSandbox (deployArgs "MODE" "test") := by
    rintro ⟨_, injection, hinjection, hlevel⟩
    rw [← Except.ok.inj hinjection] at hlevel
    exact absurd hlevel nofun
  have hconcluded : ¬Concluded deployHost { leak with outcome := .timeoutExpired } podmanSandbox
      (deployArgs "MODE" "test") := by
    intro h
    obtain ⟨_, _, _, houtcome, _⟩ := h.outcome
    exact absurd houtcome nofun
  intro h
  have hevents := recordedEvents_eq (logs_of_started deployHost_ready.writesJson
    podmanSandbox_started (logs_nothing_of_not_concluded hblocked hconcluded)) newStatus
  exact absurd (h [] [] hevents) (by decide)

/-- A task that ends has an outcome. -/
theorem completed_recorded :
    OutcomeRecorded deployHost { leak with outcome := .completed 0 "" "" } podmanSandbox
      (deployArgs "MODE" "test") newStatus := by
  refine (deploy_outcome_recorded_iff deployHost deployHost_ready.writesJson _ podmanSandbox _ _).2
    (.inr (.inr ?_))
  refine ⟨fun _ => ⟨_, rfl, nofun⟩, rfl, ?_, ?_, nofun, 0, "", "", rfl, fun err h => ?_⟩
  · intro p hp
    obtain rfl := List.mem_singleton.1 hp
    exact ⟨by decide +kernel, by decide +kernel, by decide +kernel, by decide +kernel⟩
  · obtain ⟨path, hpath, hnul⟩ := deployHost_ready.seccomp
    refine ⟨path, hpath, ?_⟩
    simp only [List.forall_mem_append]
    exact ⟨⟨noNul_runOptions (by decide +kernel) defaultConfig_passable hnul,
      by decide +kernel⟩, by decide +kernel⟩
  · exact absurd h nofun

end Sample

end VibeShield
