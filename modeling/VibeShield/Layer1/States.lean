import VibeShield.Layer1.Outcomes
import VibeShield.Lib.Machine

/-!
# The state of a sandbox after a deployment

`deploy_agent` sets the state of the sandbox apart from the state in its result. The two
agree if, after the call, the sandbox is not running, and is completed exactly if the result
says so (`StateAgrees`). There are two ways to go wrong: an exception that no handler catches
leaves the sandbox running, and if the output of a task with exit code 0 is blocked, the
result has failed but the sandbox is completed (`deploy_state_agrees_iff`).
-/

namespace VibeShield

namespace VibeShieldSandbox

variable {F : Type} [PyNum F]

/-- A call ends with a sandbox that is not running, and that is completed exactly if the
    result says so. -/
def StateAgrees : EStateM.Result PyErr SandboxStatus (SandboxResult F) → Prop
  | .ok r s => s.state ≠ .running ∧ (s.state = .completed ↔ r.state = .completed)
  | .error _ s => s.state ≠ .running

variable (host : Host) (after : Aftermath F) (sb : VibeShieldSandbox) (a : DeployArgs)

/-- Nothing is refused before the sandbox is set to running. -/
structure Prepared : Prop where
  started : Started host sb a
  scan : ¬ScanRefuses host sb.taskId a
  egressRules : a.egressRules = []
  env : ∀ p ∈ a.envVars.items, EnvAccepted p
  seccomp : ∃ path, ensureSeccompProfile host = .ok path

/-- The scan of an output blocks it. -/
def Blocks (stdout : String) : Prop :=
  a.securityScan = true ∧ ∃ r, ExfiltrationDetector.default.scan (after.scanLib host) stdout =
    .ok r ∧ (r.risk = .high ∨ r.risk = .critical)

/-- What follows when the sandbox is running neither raises an exception that no handler
    catches, nor blocks the output of a task that has succeeded. -/
structure Settles : Prop where
  command : ∀ path, ensureSeccompProfile host = .ok path →
    ∀ arg ∈ sb.runOptions path ++ [sb.config.sandboxImage, a.entrypoint] ++ workload a, NoNul arg
  outcome : ∀ err, after.outcome ≠ .raised err
  /-- Before the output is scanned, there may be an exception that leaves the state as it is. -/
  output : ∀ stdout stderr, after.outcome = .completed 0 stdout stderr →
    Blocks host after a stdout → ∃ err, after.podmanLogs = .error err ∧ err.isException = false

variable {host after sb a}

/-! ## Up to the start of the container -/

/-- The log is open, and the sandbox is in the state `st`. -/
def OpenedIn (st : SandboxState) (s : SandboxStatus) : Prop :=
  s.auditLog.isSome = true ∧ s.state = st

theorem record_recordsIn (hpy : host.py.WritesJson) (st : SandboxState) :
    Records (OpenedIn st) (sb.record host) :=
  record_records hpy (fun _ hs => hs.1) fun _ _ hs => ⟨rfl, hs.2⟩

variable (host sb a) in
/-- `deploy_agent` after the audit log has been opened, up to the state being set. -/
def buildCommand : EStateM PyErr SandboxStatus (List String) := do
  sb.checkTaskId host
  checkEntrypoint host a.entrypoint
  sb.checkToken host a.apiToken
  sb.record host .containerLifecycle .info "sandbox.deploy.start"
    [("container", .str sb.containerName), ("entrypoint", .str a.entrypoint)]
  scanPayload host (sb.record host) "sandbox.injection_blocked" sb.taskId a
  ofExcept (sb.runCommand host a)

variable (host after sb a) in
/-- `deploy_agent` from the start of the container on. -/
def runContainer (command : List String) : EStateM PyErr SandboxStatus (SandboxResult F) := do
  let _ ← ofExcept (startProcess command sb.config.timeoutSeconds)
  sb.complete host after a.securityScan

theorem deployAudited_eq : deployAudited host after sb a =
    buildCommand host sb a >>= fun command =>
      (modify fun s => { s with state := .running }) >>= fun _ =>
        runContainer host after sb a command := by
  simp only [deployAudited, afterStart, buildCommand, runContainer, bind_assoc]

variable (sb a) in
/-- The state is left as it is if something is refused, and else so far. -/
theorem buildCommand_refusesIff (hpy : host.py.WritesJson) (st : SandboxState) :
    RefusesIff (OpenedIn st) (buildCommand host sb a) (¬Prepared host sb a) fun command =>
      (∀ arg ∈ command, NoNul arg) ↔ ∀ path, ensureSeccompProfile host = .ok path →
        ∀ arg ∈ sb.runOptions path ++ [sb.config.sandboxImage, a.entrypoint] ++ workload a,
          NoNul arg := by
  have hrecord : Records (OpenedIn st) (sb.record host) := record_recordsIn hpy st
  have hstart : ∀ p ∈ [("container", PyVal.str sb.containerName),
      ("entrypoint", PyVal.str a.entrypoint)], p.2.isJson 6 = true := by simp [PyVal.isJson]
  have hcommand : RefusesIff (OpenedIn st)
      (ofExcept (sb.runCommand host a) : EStateM PyErr SandboxStatus (List String))
      (¬(a.egressRules = [] ∧ (∀ p ∈ a.envVars.items, EnvAccepted p) ∧
        ∃ path, ensureSeccompProfile host = .ok path)) fun command =>
      (∀ arg ∈ command, NoNul arg) ↔ ∀ path, ensureSeccompProfile host = .ok path →
        ∀ arg ∈ sb.runOptions path ++ [sb.config.sandboxImage, a.entrypoint] ++ workload a,
          NoNul arg := by
    refine .ofExcept (fun command h => ?_) fun err h hall => ?_
    · obtain ⟨hegress, henv, path, hpath, rfl⟩ := runCommand_eq_ok_iff.1 h
      refine ⟨not_not.2 ⟨hegress, henv, path, hpath⟩, (forall_noNul_command henv).trans ?_⟩
      rw [hpath]
      exact ⟨fun h _ hpath => Except.ok.inj hpath ▸ h, fun h => h path rfl⟩
    · obtain ⟨hegress, henv, path, hpath⟩ := hall
      cases h.symm.trans (runCommand_eq_ok hpath hegress henv)
  suffices h : RefusesIff (OpenedIn st) (buildCommand host sb a)
      (¬matchesLine isTaskId sb.taskId ∨ a.entrypoint ∉ safeEntrypoints ∨
        Unauthorized host a.apiToken ∨ False ∨ ScanRefuses host sb.taskId a ∨
        ¬(a.egressRules = [] ∧ (∀ p ∈ a.envVars.items, EnvAccepted p) ∧
          ∃ path, ensureSeccompProfile host = .ok path)) _ from by
    refine h.congr ?_ fun _ => id
    constructor
    · rintro (h | h | h | h | h | h) hprepared
      · exact h hprepared.started.taskId
      · exact h hprepared.started.entrypoint
      · exact hprepared.started.token h
      · exact h
      · exact hprepared.scan h
      · exact h ⟨hprepared.egressRules, hprepared.env, hprepared.seccomp⟩
    · intro h
      by_contra hpassed
      simp only [not_or, not_not] at hpassed
      obtain ⟨htaskId, hentrypoint, htoken, -, hscan, hegress, henv, hseccomp⟩ := hpassed
      exact h ⟨⟨htaskId, hentrypoint, htoken⟩, hscan, hegress, henv, hseccomp⟩
  -- One rule for each statement of the method, in their order.
  rw [buildCommand]
  refine checkTaskId_refusesIff.bind fun _ _ _ => ?_
  refine checkEntrypoint_refusesIff.bind fun _ _ _ => ?_
  refine (checkToken_refusesIff hrecord a.apiToken).bind fun _ _ _ => ?_
  refine (hrecord _ _ _ _ hstart).bind fun _ _ _ => ?_
  exact (scanPayload_refusesIff hrecord host _ sb.taskId a).bind fun _ _ _ => hcommand

/-! ## The container -/

/-- The result of a process that has ended has the state of the sandbox, unless the output is
    blocked. -/
theorem conclude_refusesIff (hpy : host.py.WritesJson) (st : SandboxState) (returncode : ℤ)
    (stdout stderr : String) (networkConnections : ℕ) (exfil : Option (ExfilResult F)) :
    RefusesIff (OpenedIn st)
      (sb.conclude host after returncode stdout stderr networkConnections exfil) False
      fun r => r.state = if exfil.isSome then .failed else st := by
  have hrecord : Records (OpenedIn st) (sb.record host) := record_recordsIn hpy st
  cases exfil with
  | some exfil =>
    suffices h : RefusesIff (OpenedIn st) (sb.conclude host after returncode stdout stderr
        networkConnections (some exfil)) (False ∨ False) fun r => r.state = .failed from
      h.congr or_self_iff fun _ => id
    rw [conclude]
    exact (hrecord _ _ _ _ (isJson_exfilDetails exfil)).bind fun _ _ _ => .pure rfl
  | none =>
    have hdetails (duration : F) : ∀ p ∈ [("exit_code", PyVal.int returncode),
        ("duration_seconds", .float (after.float.value duration))], p.2.isJson 6 = true := by
      simp [PyVal.isJson]
    suffices h : RefusesIff (OpenedIn st) (sb.conclude host after returncode stdout stderr
        networkConnections none) (False ∨ False ∨ False ∨ False) fun r => r.state = st from
      h.congr (by simp only [or_self]) fun _ => id
    rw [conclude]
    refine RefusesIff.get.bind fun _ _ _ => (hrecord _ _ _ _ (hdetails _)).bind fun _ _ _ => ?_
    exact RefusesIff.get.bind fun s _ hs => .pure hs.2

/-- What the scan of an output finds. -/
theorem isSome_iff_blocks {stdout : String} {exfil : Option (ExfilResult F)}
    (h : scanOutput host after a.securityScan stdout = .ok exfil) :
    exfil.isSome = true ↔ Blocks host after a stdout := by
  by_cases hscan : a.securityScan = true
  · rw [hscan] at h
    have hharmless := harmless_iff_of_scanOutput h
    rw [Option.isSome_iff_ne_none, ne_eq, ← hharmless]
    constructor
    · intro hblocked
      rw [scanOutput] at h
      split at h
      next hif =>
        cases hr : ExfiltrationDetector.default.scan (after.scanLib host) stdout with
        | error err =>
          rw [hr] at h
          cases h
        | ok r =>
          refine ⟨hscan, r, hr, ?_⟩
          by_contra hrisk
          exact hblocked ⟨r, hr, not_or.1 hrisk⟩
      next => exact absurd (hharmless.2 (Except.ok.inj h).symm) hblocked
    · rintro ⟨-, r, hr, hrisk⟩ ⟨r', hr', hhigh, hcritical⟩
      cases hr.symm.trans hr'
      exact hrisk.elim hhigh hcritical
  · rw [scanOutput, if_neg fun h => hscan h.1] at h
    cases h
    exact iff_of_false (by simp) fun h => hscan h.1

/-- An output whose scan raises an exception is not blocked. -/
theorem not_blocks_of_error {stdout : String} {err : PyErr}
    (h : scanOutput host after a.securityScan stdout = .error err) :
    ¬Blocks host after a stdout := by
  rintro ⟨hscan, r, hr, -⟩
  rw [scanOutput] at h
  split at h
  · rw [hr] at h
    cases h
  · cases h

omit [PyNum F] in
/-- Reading the logs of the container fails only on an exception that is not caught. -/
theorem auditNetworkActivity_refusesIff (I : SandboxStatus → Prop) :
    RefusesIff I (ofExcept (auditNetworkActivity host after) : EStateM PyErr SandboxStatus ℕ)
      (∃ err, after.podmanLogs = .error err ∧ err.isException = false) fun _ => True := by
  rw [auditNetworkActivity]
  cases after.podmanLogs with
  | ok channels => exact .ofExcept (fun _ _ => ⟨by simp, trivial⟩) fun _ h => by simp at h
  | error err =>
    dsimp only
    by_cases hexc : err.isException = true
    · rw [if_pos hexc]
      refine .ofExcept (fun _ _ => ⟨?_, trivial⟩) fun _ h => by simp at h
      rintro ⟨err', herr, hexc'⟩
      rw [← Except.error.inj herr, hexc] at hexc'
      cases hexc'
    · rw [if_neg hexc]
      exact .ofExcept (fun _ h => by simp at h) fun _ _ => ⟨err, rfl, by simpa using hexc⟩

variable (after sb a) in
/-- The steps after a process has ended: its result is a failure if the output is blocked, and
    has the state of the sandbox otherwise. -/
theorem concludeScanned_refusesIff (hpy : host.py.WritesJson) (st : SandboxState) (returncode : ℤ)
    (stdout stderr : String) :
    RefusesIff (OpenedIn st)
      (do
        let networkConnections ← ofExcept (auditNetworkActivity host after)
        let exfil ← ofExcept (scanOutput host after a.securityScan stdout)
        sb.conclude host after returncode stdout stderr networkConnections exfil)
      ((∃ err, after.podmanLogs = .error err ∧ err.isException = false) ∨
        (∃ err, scanOutput host after a.securityScan stdout = .error err) ∨ False)
      fun r => r.state = .failed ∧ Blocks host after a stdout ∨
        r.state = st ∧ ¬Blocks host after a stdout := by
  refine (auditNetworkActivity_refusesIff _).bind fun _ _ _ => ?_
  refine RefusesIff.bind (V := fun exfil => exfil.isSome = true ↔ Blocks host after a stdout)
    (.ofExcept (fun exfil h => ⟨?_, isSome_iff_blocks h⟩) fun err h => ⟨err, h⟩)
    fun exfil _ hexfil => ?_
  · rintro ⟨err, herr⟩
    cases h.symm.trans herr
  · refine (conclude_refusesIff hpy st returncode stdout stderr _ exfil).congr Iff.rfl ?_
    intro r hr
    rw [hr, ← hexfil]
    cases exfil with
    | none => exact .inr ⟨rfl, by simp⟩
    | some exfil => exact .inl ⟨rfl, rfl⟩

/-- A process that has ended leaves a state that agrees with the result, unless the output of
    a successful one is blocked. -/
theorem completed_agrees_iff (hpy : host.py.WritesJson) {returncode : ℤ} {stdout stderr : String}
    (houtcome : after.outcome = .completed returncode stdout stderr) {s : SandboxStatus}
    (hs : OpenedIn .running s) :
    StateAgrees (sb.complete host after a.securityScan s) ↔
      (returncode = 0 → Blocks host after a stdout →
        ∃ err, after.podmanLogs = .error err ∧ err.isException = false) := by
  set st : SandboxState := if returncode = 0 then .completed else .failed with hst
  have hne : st ≠ .running := by
    rw [hst]
    split <;> decide
  have hcompleted : st = .completed ↔ returncode = 0 := by
    rw [hst]
    split
    · simpa
    · simpa
  have hstate : (modify fun s => { s with state := st } : EStateM PyErr SandboxStatus PUnit) s =
      .ok ⟨⟩ { s with state := st } := rfl
  have hcomplete : sb.complete host after a.securityScan s = _ :=
    (congrFun (by rw [complete, houtcome]) s).trans (bind_of_ok hstate)
  have hend := concludeScanned_refusesIff after sb a hpy st returncode stdout stderr
    { s with state := st } ⟨hs.1, rfl⟩
  rw [hcomplete]
  split at hend
  next r s' hr =>
    rw [hr]
    obtain ⟨hpassed, hstate, -, hs'⟩ := hend
    have hlogs' := (not_or.1 hpassed).1
    change (s'.state ≠ .running ∧ (s'.state = .completed ↔ r.state = .completed)) ↔ _
    rw [hs', and_iff_right hne, hcompleted]
    rcases hstate with ⟨hfailed, hblocks⟩ | ⟨hsame, hblocks⟩
    · rw [hfailed]
      exact ⟨fun h hzero => absurd (h.1 hzero) (by decide),
        fun h => ⟨fun hzero => absurd (h hzero hblocks) hlogs', fun h => absurd h (by decide)⟩⟩
    · rw [hsame, hcompleted]
      exact iff_of_true Iff.rfl fun _ h => absurd h hblocks
  next err s' hr =>
    rw [hr]
    obtain ⟨hraised, -, hs'⟩ := hend
    refine iff_of_true (fun h => hne (hs'.symm.trans h)) fun _ hblocks => ?_
    rcases hraised with hlogs | ⟨err, herr⟩ | h
    · exact hlogs
    · exact absurd hblocks (not_blocks_of_error herr)
    · exact h.elim

variable (after) in
omit [PyNum F] in
/-- Shredding sets the state at its end, if it gets there. -/
theorem cryptographicShred_state (s : SandboxStatus) :
    (endState (cryptographicShred after s)).state = s.state ∨
      (endState (cryptographicShred after s)).state = .shredded := by
  rw [cryptographicShred]
  cases after.podmanStop with
  | error err => exact .inl rfl
  | ok _ =>
    cases after.podmanRm with
    | error err => exact .inl rfl
    | ok _ =>
      cases after.podmanVolumeRm with
      | error err => exact .inl rfl
      | ok _ => exact .inr rfl

omit [PyNum F] in
/-- Where a failure is caught, the sandbox is shredded, whether or not this succeeds. -/
theorem shred_agrees {s : SandboxStatus} (hs : s.state ≠ .running ∧ s.state ≠ .completed)
    {r : SandboxResult F} (hr : r.state ≠ .completed) :
    StateAgrees ((do cryptographicShred after; pure r : EStateM PyErr SandboxStatus _) s) := by
  have hstate : (endState (cryptographicShred after s)).state ≠ .running ∧
      (endState (cryptographicShred after s)).state ≠ .completed := by
    rcases cryptographicShred_state after s with h | h
    · rw [h]
      exact hs
    · rw [h]
      decide
  cases hshred : cryptographicShred after s with
  | error err s' =>
    rw [hshred] at hstate
    rw [bind_of_error hshred]
    exact hstate.1
  | ok _ s' =>
    rw [hshred] at hstate
    rw [bind_of_ok hshred]
    exact ⟨hstate.1, iff_of_false hstate.2 hr⟩

/-- Every outcome of the container. -/
theorem complete_agrees_iff (hpy : host.py.WritesJson) {s : SandboxStatus}
    (hs : OpenedIn .running s) :
    StateAgrees (sb.complete host after a.securityScan s) ↔
      (∀ err, after.outcome ≠ .raised err) ∧ ∀ stdout stderr,
        after.outcome = .completed 0 stdout stderr → Blocks host after a stdout →
          ∃ err, after.podmanLogs = .error err ∧ err.isException = false := by
  cases houtcome : after.outcome with
  | completed returncode stdout stderr =>
    rw [completed_agrees_iff hpy houtcome hs, and_iff_right (by simp)]
    constructor
    · rintro h _ _ ⟨⟩
      exact h rfl
    · rintro h rfl
      exact h stdout stderr rfl
  | timeoutExpired =>
    refine iff_of_true ?_ ⟨by simp, by simp⟩
    rw [complete, houtcome]
    exact shred_agrees (s := { s with state := .timeout }) ⟨by simp, by simp⟩ (by simp)
  | calledProcessError returncode text =>
    refine iff_of_true ?_ ⟨by simp, by simp⟩
    rw [complete, houtcome]
    exact shred_agrees (s := { s with state := .failed }) ⟨by simp, by simp⟩ (by simp)
  | raised err =>
    refine iff_of_false ?_ fun h => h.1 err rfl
    rw [complete, houtcome]
    exact fun h => h hs.2

theorem runContainer_agrees_iff (hpy : host.py.WritesJson) (command : List String)
    {s : SandboxStatus} (hs : OpenedIn .running s) :
    StateAgrees (runContainer host after sb a command s) ↔ (∀ arg ∈ command, NoNul arg) ∧
      (∀ err, after.outcome ≠ .raised err) ∧ ∀ stdout stderr,
        after.outcome = .completed 0 stdout stderr → Blocks host after a stdout →
          ∃ err, after.podmanLogs = .error err ∧ err.isException = false := by
  rw [runContainer, startProcess]
  by_cases hnul : ∀ arg ∈ command, NoNul arg
  · rw [if_pos hnul, and_iff_right hnul, ← complete_agrees_iff hpy hs]
    exact iff_of_eq (congrArg StateAgrees (bind_of_ok rfl))
  · rw [if_neg hnul]
    exact iff_of_false (fun h => h hs.2) fun h => hnul h.1

/-! ## The whole call -/

theorem deployAgent_agrees_iff (hpy : host.py.WritesJson) (s : SandboxStatus) :
    StateAgrees (sb.deployAgent host after a s) ↔
      (Prepared host sb a → Settles host after sb a) ∧
        (¬Prepared host sb a → s.state ≠ .running) := by
  set s' : SandboxStatus :=
    { s with auditLog := some (s.auditLog.getD (.new "/var/lib/vibeshield/audit" false)) }
  have hend : sb.deployAgent host after a s = deployAudited host after sb a s' := by
    rw [deployAgent_eq]
    rfl
  have hs' : OpenedIn s.state s' := ⟨rfl, rfl⟩
  have hbuild := buildCommand_refusesIff sb a hpy s.state s' hs'
  rw [hend, deployAudited_eq]
  cases hcommand : buildCommand host sb a s' with
  | error err s'' =>
    rw [hcommand] at hbuild
    obtain ⟨hprepared, -, hstate⟩ := hbuild
    rw [bind_of_error hcommand]
    change s''.state ≠ .running ↔ _
    rw [hstate]
    exact ⟨fun h => ⟨fun hp => absurd hp hprepared, fun _ => h⟩, fun h => h.2 hprepared⟩
  | ok command s'' =>
    rw [hcommand] at hbuild
    obtain ⟨hprepared, hnul, hopened, -⟩ := hbuild
    replace hprepared := not_not.1 hprepared
    rw [bind_of_ok hcommand]
    change StateAgrees (runContainer host after sb a command { s'' with state := .running }) ↔ _
    have hrunning : OpenedIn .running { s'' with state := .running } := ⟨hopened, rfl⟩
    rw [runContainer_agrees_iff hpy command hrunning, hnul]
    exact ⟨fun ⟨hcommand, houtcome, houtput⟩ =>
        ⟨fun _ => ⟨hcommand, houtcome, houtput⟩, fun h => absurd hprepared h⟩,
      fun h => ⟨(h.1 hprepared).command, (h.1 hprepared).outcome, (h.1 hprepared).output⟩⟩

/-- A call of `deploy_agent`: what it finds and meets, and its arguments. -/
structure Deployment (F : Type) where
  host : Host
  after : Aftermath F
  args : DeployArgs

/-- The calls of one sandbox, one after another. -/
def deployments (sb : VibeShieldSandbox) :
    Machine SandboxStatus (Deployment F)
      (EStateM.Result PyErr SandboxStatus (SandboxResult F)) where
  step s d := (endState (sb.deployAgent d.host d.after d.args s),
    sb.deployAgent d.host d.after d.args s)

omit [PyNum F] in
theorem StateAgrees.state_ne {r : EStateM.Result PyErr SandboxStatus (SandboxResult F)}
    (h : StateAgrees r) : (endState r).state ≠ .running := by
  cases r with
  | ok r s => exact h.1
  | error err s => exact h

end VibeShieldSandbox

open VibeShieldSandbox

/-- After a call, the state agrees with the result if and only if the call is refused before the
    sandbox is set to running, which it is not in already, or it settles after that. So in a
    run of such calls they always agree. -/
theorem deploy_state_agrees_iff {F : Type} [PyNum F] (sb : VibeShieldSandbox) :
    (∀ (host : Host) (after : Aftermath F) (a : DeployArgs) (s : SandboxStatus),
      host.py.WritesJson → (StateAgrees (sb.deployAgent host after a s) ↔
        (Prepared host sb a → Settles host after sb a) ∧
          (¬Prepared host sb a → s.state ≠ .running))) ∧
    ∀ calls : List (Deployment F), (deployments sb).Guarded
        (fun _ d => d.host.py.WritesJson ∧
          (Prepared d.host sb d.args → Settles d.host d.after sb d.args)) newStatus calls →
      ∀ ev ∈ (deployments sb).events newStatus calls, StateAgrees ev.output := by
  have hcall (d : Deployment F) (s : SandboxStatus) (hd : d.host.py.WritesJson ∧
      (Prepared d.host sb d.args → Settles d.host d.after sb d.args)) (hs : s.state ≠ .running) :
      StateAgrees (sb.deployAgent d.host d.after d.args s) :=
    (deployAgent_agrees_iff hd.1 s).2 ⟨hd.2, fun _ => hs⟩
  refine ⟨fun host after a s hpy => deployAgent_agrees_iff hpy s, fun calls hG ev hev => ?_⟩
  obtain ⟨before, d, later, rfl, rfl⟩ := Machine.exists_prefix_of_mem_events hev
  obtain ⟨hbefore, hd⟩ := Machine.guarded_append.1 hG
  refine hcall d _ (hd _ List.mem_cons_self) ?_
  -- The sandbox is never left running.
  exact Machine.invariant (P := fun s => s.state ≠ .running) (by decide)
    (fun s d hd hs => (hcall d s hd hs).state_ne) before hbefore

namespace Sample

/-- Podman is not installed. -/
def notInstalled : PyErr := ⟨.osError, "[Errno 2] No such file or directory: 'podman'"⟩

theorem podmanSandbox_prepared : Prepared deployHost podmanSandbox (deployArgs "MODE" "test") where
  started := podmanSandbox_started
  scan h := by simpa using h.2 _ rfl
  egressRules := rfl
  env p hp := by
    obtain rfl := List.mem_singleton.1 hp
    exact ⟨by decide +kernel, by decide +kernel, by decide +kernel, by decide +kernel⟩
  seccomp := ⟨_, deployHost_ready.seccomp.choose_spec.1⟩

/-- The task whose output is a key. -/
def keyTask : Aftermath ℚ := { leak with outcome := .completed 0 key "" }

/-- Without Podman, the sandbox is left running. If the output is blocked, the task is completed
    for the sandbox and has failed in the result. -/
theorem left_running : ¬StateAgrees (podmanSandbox.deployAgent deployHost
      { leak with outcome := .raised notInstalled } (deployArgs "MODE" "test") newStatus) ∧
    ¬StateAgrees (podmanSandbox.deployAgent deployHost keyTask (deployArgs "MODE" "test")
      newStatus) := by
  rw [deployAgent_agrees_iff deployHost_ready.writesJson,
    deployAgent_agrees_iff deployHost_ready.writesJson]
  refine ⟨fun h => (h.1 podmanSandbox_prepared).outcome notInstalled rfl, fun h => ?_⟩
  obtain ⟨r, hr, hrisk⟩ := key_critical
  obtain ⟨err, herr, -⟩ :=
    (h.1 podmanSandbox_prepared).output key "" rfl ⟨rfl, r, hr, .inr hrisk⟩
  cases herr

/-- A task with an output that is not scanned leaves a state that agrees with its result. -/
theorem quiet_agrees : StateAgrees (podmanSandbox.deployAgent deployHost
    { leak with outcome := .completed 0 "" "" } (deployArgs "MODE" "test") newStatus) := by
  refine ((deploy_state_agrees_iff podmanSandbox).1 deployHost _ _ _
    deployHost_ready.writesJson).2
      ⟨fun _ => ⟨fun path hpath => ?_, by simp, ?_⟩, fun _ => by decide⟩
  · obtain ⟨path', hpath', hnul⟩ := deployHost_ready.seccomp
    obtain rfl := Except.ok.inj (hpath.symm.trans hpath')
    simp only [List.forall_mem_append]
    exact ⟨⟨noNul_runOptions (by decide +kernel) defaultConfig_passable hnul,
      by decide +kernel⟩, by decide +kernel⟩
  · rintro _ _ ⟨⟩ ⟨-, r, hr, hrisk⟩
    rw [ExfiltrationDetector.scan, if_pos rfl] at hr
    rw [← Except.ok.inj hr] at hrisk
    simp at hrisk

end Sample

end VibeShield
