import VibeShield.Layer1.Sandbox
import VibeShield.Layer1.OpenShell

/-!
# What the two backends refuse

Both backends check the task id, the entrypoint and the API token, and both scan
the payload (`GateRefuses`). The Podman backend also checks the environment
variables (`EnvAccepted`), and the payload is an argument of its command; the
OpenShell backend encodes both. `backends_refuse_alike_iff` says when they agree
nevertheless.
-/

namespace VibeShield

/-! ## Arguments of processes -/

@[simp] theorem noNul_append {s t : String} : NoNul (s ++ t) ↔ NoNul s ∧ NoNul t := by
  rw [NoNul, String.toList_append, List.mem_append, not_or, NoNul, NoNul]

@[simp] theorem noNul_toString {s : String} : NoNul (toString s) ↔ NoNul s := Iff.rfl

theorem noNul_ofList {cs : List Char} : NoNul (String.ofList cs) ↔ '\x00' ∉ cs := by
  rw [NoNul, String.toList_ofList]

theorem NoNul.slice {s : String} (hs : NoNul s) (n : ℕ) : NoNul (slice s n) :=
  noNul_ofList.2 fun h => hs (List.mem_of_mem_take h)

theorem noNul_natRepr (n : ℕ) : NoNul n.repr := by
  intro h
  rw [Nat.toList_repr] at h
  have hdigit : '\x00'.isDigit := Nat.isDigit_of_mem_toDigits (b := 10) (by decide) (by decide) h
  exact absurd hdigit (by decide)

theorem noNul_intRepr (n : ℤ) : NoNul (toString n) := by
  rw [Int.toString_eq_repr, Int.repr_eq_if]
  split
  · exact noNul_natRepr _
  · exact noNul_append.2 ⟨by decide, noNul_natRepr _⟩

/-- A string that a pattern of other characters matches. -/
theorem noNul_of_matchesLine {p : List Char → Bool} {s : String} (hs : matchesLine p s)
    (hp : ∀ cs, p cs → '\x00' ∉ cs) : NoNul s := by
  rw [matchesLine, Bool.or_eq_true, Bool.and_eq_true, decide_eq_true_eq] at hs
  rcases hs with hs | ⟨hlast, hs⟩
  · exact hp _ hs
  · rw [NoNul, ← List.dropLast_append_getLast? _ hlast, List.mem_append, not_or]
    exact ⟨hp _ hs, by decide⟩

/-! ## Recording -/

/-- JSON can express a list of strings. -/
theorem isJson_strs (n : ℕ) (ss : List String) : (PyVal.list (ss.map .str)).isJson (n + 1) := by
  rw [PyVal.isJson, List.all_map, List.all_eq_true]
  intro s _
  cases n <;> rfl

/-- An event whose details JSON can express is recorded. -/
theorem exists_record_eq_ok {py : Python} (hpy : py.WritesJson) (log : AuditLog)
    (category : AuditCategory) (severity : AuditSeverity) (event taskId : String)
    {details : PyVal} (hdetails : details.isJson 7 = true) (now : PyFloat) :
    ∃ log' entry, log.record py ⟨.inl category, .inl severity, .str event, .str taskId,
      .str taskId, details, now⟩ (fun _ log => (log, none)) = (log', .ok entry) := by
  set args : RecordArgs := ⟨.inl category, .inl severity, .str event, .str taskId, .str taskId,
    details, now⟩
  have hnew : (log.newEntry args).details.isJson 7 = true := by
    change (if details.truthy then details else .dict []).isJson 7 = true
    split
    · exact hdetails
    · rfl
  have hcontent : (log.newEntry args).content.isJson 8 = true := by
    simp only [AuditEntry.content, PyVal.isJson, List.all_cons, List.all_nil, PyVal.toStr?_str,
      hnew]
    rfl
  obtain ⟨text, htext⟩ := hpy _ hcontent
  have hseal := AuditEntry.sealEntry_eq_ok.2
    ⟨_, AuditEntry.computeHash_eq_ok.2 ⟨text, htext, rfl⟩, rfl⟩
  rw [AuditLog.record, hseal]
  change ∃ log' entry, (if severity.value = AuditSeverity.critical.value ∧ _ then _ else _) = _
  split
  · exact ⟨_, _, rfl⟩
  · exact ⟨_, _, rfl⟩

/-- Recording such an event never refuses. -/
theorem recordEvent_refusesIff {host : Host} (hpy : host.py.WritesJson) (taskId : String)
    (category : AuditCategory) (severity : AuditSeverity) (event : String)
    {details : List (String × PyVal)} (hdetails : ∀ p ∈ details, p.2.isJson 6 = true) :
    RefusesIff (fun _ => True) (recordEvent host taskId category severity event details) False
      fun _ => True := by
  intro log _
  have hdict : (PyVal.dict (details.map fun p => (.str p.1, p.2))).isJson 7 = true := by
    simpa [PyVal.isJson] using hdetails
  obtain ⟨log', entry, h⟩ := exists_record_eq_ok hpy log category severity event taskId hdict
    (host.clock event)
  rw [recordEvent, h]
  exact ⟨not_false, trivial, trivial⟩

/-- So a backend may record what it wants. -/
def Records {σ : Type} (I : σ → Prop) (record : Recorder σ) : Prop :=
  ∀ category severity event details, (∀ p ∈ details, p.2.isJson 6 = true) →
    RefusesIff I (record category severity event details) False fun _ => True

theorem recordEvent_records {host : Host} (hpy : host.py.WritesJson) (taskId : String) :
    Records (fun _ => True) (recordEvent host taskId) :=
  fun category severity event _ => recordEvent_refusesIff hpy taskId category severity event

/-! ## The gates of both -/

/-- The token is not the expected one, if there is one. -/
def Unauthorized (host : Host) (apiToken : Option String) : Prop :=
  host.expectedKey ≠ "" ∧ apiToken ≠ some host.expectedKey

/-- The payload is scanned, and it is malicious or the scan raises an exception. -/
def ScanRefuses (host : Host) (taskId : String) (a : DeployArgs) : Prop :=
  a.securityScan = true ∧
    ∀ injection, host.scan a.encryptedPayload taskId = .ok injection →
      injection.threatLevel = .malicious

/-- One of the checks refuses that both backends make. -/
def GateRefuses (host : Host) (taskId : String) (a : DeployArgs) : Prop :=
  ¬matchesLine isTaskId taskId ∨ a.entrypoint ∉ VibeShieldSandbox.safeEntrypoints ∨
    Unauthorized host a.apiToken ∨ ScanRefuses host taskId a

/-- A refusal that is recorded first. -/
theorem recordAndThrow_refusesIff {σ : Type} {I : σ → Prop} {record : Recorder σ}
    (hrecord : Records I record) {p : Prop} [Decidable p] {category : AuditCategory}
    {severity : AuditSeverity} {event : String} {details : List (String × PyVal)}
    (hdetails : ∀ q ∈ details, q.2.isJson 6 = true) (err : PyErr) :
    RefusesIff I (if p then do record category severity event details; throw err else return ())
      p fun _ => True :=
  (RefusesIff.whenever (fun _ => (hrecord _ _ _ _ hdetails).bind fun _ _ _ => .throw err)
    trivial).congr (by rw [false_or, and_true]) fun _ => id

theorem scanPayload_refusesIff {σ : Type} {I : σ → Prop} {record : Recorder σ}
    (hrecord : Records I record) (host : Host) (event taskId : String) (a : DeployArgs) :
    RefusesIff I (scanPayload host record event taskId a) (ScanRefuses host taskId a)
      fun _ => True := by
  rw [scanPayload]
  refine RefusesIff.whenever (fun _ => ?_) trivial
  cases hscan : host.scan a.encryptedPayload taskId with
  | error err => exact (RefusesIff.throw err).congr (by simp) fun _ => id
  | ok injection =>
    have hdetails : ∀ q ∈ [("score", PyVal.float injection.score),
        ("matches", .list ((injection.matches.take 5).map .str))], q.2.isJson 6 = true :=
      List.forall_mem_cons.2 ⟨rfl, List.forall_mem_singleton.2 (isJson_strs 5 _)⟩
    exact (recordAndThrow_refusesIff hrecord hdetails _).congr (by simp) fun _ => id

/-! ## Starting the process -/

/-- The host is as a deployment expects it: texts that come from the operating
    system contain no NUL character, and the files are there. -/
structure Host.Ready (host : Host) : Prop where
  writesJson : host.py.WritesJson
  uuidHex : NoNul host.uuidHex
  getenv : ∀ name value, host.getenv name = some value → NoNul value
  /-- The seccomp profile is there, or can be generated. -/
  seccomp : ∃ path, VibeShieldSandbox.ensureSeccompProfile host = .ok path ∧ NoNul path
  /-- The base policy can be loaded, and policies can be written. -/
  policy : ∀ source target, host.writePolicy source target = .ok ()

theorem startProcess_refusesIff {σ : Type} {I : σ → Prop} (command : List String) (timeout : ℤ) :
    RefusesIff I (ofExcept (startProcess command timeout) : EStateM PyErr σ Launch)
      (¬∀ arg ∈ command, NoNul arg) fun _ => True := by
  rw [startProcess]
  refine .ofExcept (fun launch h => ?_) fun err h => ?_
  · split at h
    next hnul => exact ⟨not_not.2 hnul, trivial⟩
    next => exact absurd h nofun
  · split at h
    next => exact absurd h nofun
    next hnul => exact hnul

/-! ## The Podman backend -/

/-- The configuration puts no NUL character in a command. -/
structure SandboxConfig.Passable (config : SandboxConfig) : Prop where
  sandboxImage : NoNul config.sandboxImage
  networkMode : NoNul config.networkMode
  memoryLimit : NoNul config.memoryLimit
  tmpfsSize : NoNul config.tmpfsSize

namespace VibeShieldSandbox

/-- The environment variable has a good name and a good value. -/
def EnvAccepted (p : String × String) : Prop :=
  matchesLine isEnvName p.1 ∧ p.1 ∉ dangerousEnvNames ∧ '\n' ∉ p.2.toList ∧ NoNul p.2

theorem envOptions_of_accepted (host : Host) {p : String × String} (hp : EnvAccepted p) :
    envOptions host p = .ok ["--env", s!"{p.1}={p.2}"] := by
  obtain ⟨key, value⟩ := p
  obtain ⟨hname, hsafe, hline, hnul⟩ := hp
  rw [envOptions, if_neg (not_not.2 hname), if_neg hsafe, if_neg (not_or.2 ⟨hline, not_not.2 hnul⟩)]
  rfl

theorem exists_envOptions_eq_error (host : Host) {p : String × String} (hp : ¬EnvAccepted p) :
    ∃ err, envOptions host p = .error err := by
  obtain ⟨key, value⟩ := p
  rw [envOptions]
  split
  · exact ⟨_, rfl⟩
  next hname =>
    split
    · exact ⟨_, rfl⟩
    next hsafe =>
      split
      · exact ⟨_, rfl⟩
      next hvalue =>
        obtain ⟨hline, hnul⟩ := not_or.1 hvalue
        exact absurd ⟨not_not.1 hname, hsafe, hline, not_not.1 hnul⟩ hp

theorem noNul_of_isEnvName {cs : List Char} (hcs : isEnvName cs) : '\x00' ∉ cs := by
  cases cs with
  | nil => exact List.not_mem_nil
  | cons c cs =>
    rw [isEnvName, Bool.and_eq_true, List.all_eq_true] at hcs
    intro h
    rcases List.mem_cons.1 h with rfl | h
    · exact absurd hcs.1 (by decide)
    · exact absurd (hcs.2 _ h) (by decide)

variable {host : Host} {sb : VibeShieldSandbox} {a : DeployArgs}

/-- Recording keeps what is known of the status, if there is a log. -/
theorem record_records {I : SandboxStatus → Prop} (hpy : host.py.WritesJson)
    (hopened : ∀ s, I s → s.auditLog.isSome = true)
    (hI : ∀ s log, I s → I { s with auditLog := some log }) : Records I (sb.record host) := by
  intro category severity event details hdetails s hs
  obtain ⟨log, hlog⟩ := Option.isSome_iff_exists.1 (hopened s hs)
  have h := recordEvent_refusesIff hpy sb.taskId category severity event hdetails log trivial
  rw [record, hlog]
  dsimp only
  cases hrecord : recordEvent host sb.taskId category severity event details log with
  | ok _ log' => exact ⟨not_false, trivial, hI s log' hs⟩
  | error err log' =>
    rw [hrecord] at h
    exact absurd h.1 not_false

theorem checkTaskId_refusesIff {I : SandboxStatus → Prop} :
    RefusesIff I (sb.checkTaskId host) (¬matchesLine isTaskId sb.taskId) fun _ => True := by
  rw [checkTaskId]
  exact .check _ _

theorem checkEntrypoint_refusesIff {I : SandboxStatus → Prop} {entrypoint : String} :
    RefusesIff I (checkEntrypoint host entrypoint) (entrypoint ∉ safeEntrypoints)
      fun _ => True := by
  rw [checkEntrypoint]
  exact .check _ _

theorem checkToken_refusesIff {I : SandboxStatus → Prop} (hrecord : Records I (sb.record host))
    (apiToken : Option String) :
    RefusesIff I (sb.checkToken host apiToken) (Unauthorized host apiToken) fun _ => True := by
  refine (recordAndThrow_refusesIff hrecord (by simp [PyVal.isJson]) _).congr ?_ fun _ => id
  -- The check for a missing token is contained in the comparison.
  refine and_congr_right fun hkey => ⟨fun h => ?_, .inr⟩
  rcases h with h | h
  · rintro rfl
    exact hkey h
  · exact h

/-- What the command consists of. -/
theorem runCommand_eq_ok {path : String} (hpath : ensureSeccompProfile host = .ok path)
    (hegress : a.egressRules = []) (henv : ∀ p ∈ a.envVars.items, EnvAccepted p) :
    sb.runCommand host a = .ok (sb.runOptions path ++
      (a.envVars.items.map fun p => ["--env", s!"{p.1}={p.2}"]).flatten ++
      [sb.config.sandboxImage, a.entrypoint] ++ workload a) := by
  rw [runCommand, hpath, hegress, mapM_eq_ok fun p hp => envOptions_of_accepted host (henv p hp)]
  rfl

theorem exists_runCommand_eq_error {path : String} (hpath : ensureSeccompProfile host = .ok path)
    (hegress : a.egressRules = []) (henv : ¬∀ p ∈ a.envVars.items, EnvAccepted p) :
    ∃ err, sb.runCommand host a = .error err := by
  have hrefused : ∃ p ∈ a.envVars.items, ∃ err, envOptions host p = .error err := by
    obtain ⟨p, hp, hrefused⟩ := not_forall₂.1 henv
    exact ⟨p, hp, exists_envOptions_eq_error host hrefused⟩
  obtain ⟨err, herr⟩ := exists_mapM_eq_error hrefused
  rw [runCommand, hpath, hegress, herr]
  exact ⟨err, rfl⟩

/-- No NUL character comes from the configuration. -/
theorem noNul_runOptions (hname : NoNul sb.containerName) (hconfig : sb.config.Passable)
    {path : String} (hpath : NoNul path) : ∀ arg ∈ sb.runOptions path, NoNul arg := by
  have hcap : NoNul (if sb.config.capDropAll then "ALL" else "") := by
    split <;> decide
  rw [runOptions]
  simp only [List.forall_mem_cons, noNul_append, noNul_toString, List.not_mem_nil,
    IsEmpty.forall_iff, implies_true, and_true]
  exact ⟨by decide, by decide, by decide, by decide, hname, by decide, hconfig.networkMode,
    by decide, hcap, by decide, by decide, by decide, ⟨by decide, hpath⟩, by decide,
    hconfig.memoryLimit, by decide, noNul_intRepr _, by decide, noNul_intRepr _, by decide,
    ⟨⟨by decide +kernel, hconfig.tmpfsSize⟩, by decide⟩, by decide⟩

theorem noNul_envArgs (henv : ∀ p ∈ a.envVars.items, EnvAccepted p) :
    ∀ arg ∈ (a.envVars.items.map fun p => ["--env", s!"{p.1}={p.2}"]).flatten, NoNul arg := by
  intro arg harg
  obtain ⟨_, hargs, harg⟩ := List.mem_flatten.1 harg
  obtain ⟨p, hp, rfl⟩ := List.mem_map.1 hargs
  obtain ⟨hname, _, _, hvalue⟩ := henv p hp
  rcases List.mem_pair.1 harg with rfl | rfl
  · decide
  · simp only [noNul_append, noNul_toString]
    exact ⟨⟨noNul_of_matchesLine hname fun _ => noNul_of_isEnvName, by decide⟩, hvalue⟩

/-- Building the command refuses exactly if an environment variable is not
    accepted; else a NUL character can only come from the workload. -/
theorem runCommand_refusesIff {σ : Type} {I : σ → Prop} (hhost : host.Ready)
    (hname : NoNul sb.containerName) (hconfig : sb.config.Passable) (hegress : a.egressRules = [])
    (hentrypoint : a.entrypoint ∈ safeEntrypoints) :
    RefusesIff I (ofExcept (sb.runCommand host a) : EStateM PyErr σ (List String))
      (¬∀ p ∈ a.envVars.items, EnvAccepted p)
      fun command => (∀ arg ∈ command, NoNul arg) ↔ ∀ arg ∈ workload a, NoNul arg := by
  obtain ⟨path, hpath, hnul⟩ := hhost.seccomp
  by_cases henv : ∀ p ∈ a.envVars.items, EnvAccepted p
  · rw [runCommand_eq_ok hpath hegress henv]
    refine .ofExcept (fun command h => ⟨not_not.2 henv, ?_⟩) fun err h => absurd h nofun
    have hsafe : ∀ entrypoint ∈ safeEntrypoints, NoNul entrypoint := by decide
    obtain rfl := Except.ok.inj h
    simp only [List.forall_mem_append, List.forall_mem_cons]
    exact ⟨fun h => h.2, fun h => ⟨⟨⟨noNul_runOptions hname hconfig hnul, noNul_envArgs henv⟩,
      hconfig.sandboxImage, hsafe _ hentrypoint, List.forall_mem_nil _⟩, h⟩⟩
  · have hrefused : ∃ err, sb.runCommand host a = .error err :=
      exists_runCommand_eq_error hpath hegress henv
    obtain ⟨err, herr⟩ := hrefused
    rw [herr]
    exact .ofExcept (fun command h => absurd h nofun) fun _ _ => henv

/-- The Podman backend refuses what the gates refuse, environment variables that
    it does not accept, and a NUL character in the workload. -/
theorem launchAudited_refusesIff (hhost : host.Ready) (hname : NoNul sb.containerName)
    (hconfig : sb.config.Passable) (hegress : a.egressRules = []) :
    RefusesIff (fun s => s.auditLog.isSome = true) (sb.launchAudited host a)
      (GateRefuses host sb.taskId a ∨
        ¬(∀ p ∈ a.envVars.items, EnvAccepted p) ∨ ¬∀ arg ∈ workload a, NoNul arg)
      fun _ => True := by
  have hrecord : Records _ (sb.record host) :=
    record_records hhost.writesJson (fun _ hs => hs) fun _ _ _ => rfl
  have hstart : ∀ p ∈ [("container", PyVal.str sb.containerName),
      ("entrypoint", PyVal.str a.entrypoint)], p.2.isJson 6 = true := by simp [PyVal.isJson]
  suffices h : RefusesIff (fun s => s.auditLog.isSome = true) (sb.launchAudited host a)
      (¬matchesLine isTaskId sb.taskId ∨ a.entrypoint ∉ safeEntrypoints ∨
        Unauthorized host a.apiToken ∨ False ∨ ScanRefuses host sb.taskId a ∨
        ¬(∀ p ∈ a.envVars.items, EnvAccepted p) ∨ False ∨ ¬∀ arg ∈ workload a, NoNul arg)
      fun _ => True from
    h.congr (by simp only [GateRefuses, or_assoc, false_or]) fun _ => id
  -- One rule for each statement of the method, in their order.
  rw [launchAudited]
  refine checkTaskId_refusesIff.bind fun _ _ _ => ?_
  refine checkEntrypoint_refusesIff.bind fun _ hentrypoint _ => ?_
  refine (checkToken_refusesIff hrecord a.apiToken).bind fun _ _ _ => ?_
  refine (hrecord _ _ _ _ hstart).bind fun _ _ _ => ?_
  refine (scanPayload_refusesIff hrecord host _ sb.taskId a).bind fun _ _ _ => ?_
  refine (runCommand_refusesIff hhost hname hconfig hegress (not_not.1 hentrypoint)).bind
    fun command _ hcommand => ?_
  refine (RefusesIff.modify ?_).bind fun _ _ _ => ?_
  · exact fun _ h => h
  exact (startProcess_refusesIff command _).congr (not_congr hcommand) fun _ => id

theorem launch_refuses_iff (hhost : host.Ready) (hname : NoNul sb.containerName)
    (hconfig : sb.config.Passable) (hegress : a.egressRules = []) (s : SandboxStatus) :
    Refuses (sb.launch host a) s ↔ GateRefuses host sb.taskId a ∨
      ¬(∀ p ∈ a.envVars.items, EnvAccepted p) ∨ ¬∀ arg ∈ workload a, NoNul arg := by
  rw [launch, openAuditLog, refuses_modify_bind]
  exact (launchAudited_refusesIff hhost hname hconfig hegress).refuses_iff rfl

end VibeShieldSandbox

/-! ## The OpenShell backend -/

namespace OpenShellSandbox

/-- The two allowlists of entrypoints are the same. -/
theorem safeEntrypoints_eq : safeEntrypoints = VibeShieldSandbox.safeEntrypoints := rfl

theorem noNul_payloadB64 (a : DeployArgs) : NoNul (payloadB64 a) :=
  noNul_ofList.2 fun h => absurd (mem_b64encode h) (by decide)

theorem noNul_script (a : DeployArgs) : NoNul (script a) := by
  unfold script
  rw [noNul_append, noNul_append, noNul_append, noNul_append, noNul_append, noNul_append]
  exact ⟨⟨⟨⟨⟨⟨by decide +kernel, by decide +kernel⟩, noNul_payloadB64 a⟩, by decide +kernel⟩,
    by decide +kernel⟩, by decide +kernel⟩, by decide +kernel⟩

variable {host : Host} {sb : OpenShellSandbox} {a : DeployArgs}

theorem noNul_createCommand (hhost : host.Ready) (hname : NoNul sb.sandboxName)
    {policy : String} (hpolicy : NoNul policy) (hentrypoint : a.entrypoint ∈ safeEntrypoints) :
    ∀ arg ∈ sb.createCommand host policy a, NoNul arg := by
  have hsafe : ∀ entrypoint ∈ safeEntrypoints, NoNul entrypoint := by decide
  have himage :
      NoNul ((host.getenv "VIBESHIELD_OPENSHELL_IMAGE").getD "vibeshield/task:24.04") := by
    cases h : host.getenv "VIBESHIELD_OPENSHELL_IMAGE" with
    | none => decide
    | some image => exact hhost.getenv _ _ h
  rw [createCommand]
  simp only [List.forall_mem_cons, List.not_mem_nil, IsEmpty.forall_iff, implies_true, and_true]
  exact ⟨by decide, by decide, by decide, by decide, hname, by decide, by decide, himage,
    by decide, hpolicy, by decide, hsafe _ hentrypoint, by decide, noNul_script a⟩

theorem writePolicy_refusesIff {σ : Type} {I : σ → Prop} (hhost : host.Ready)
    (hname : NoNul sb.sandboxName) :
    RefusesIff I (ofExcept (sb.writePolicy host) : EStateM PyErr σ String) False NoNul := by
  rw [writePolicy, hhost.policy]
  refine .ofExcept (fun policy h => ⟨not_false, ?_⟩) fun err h => absurd h nofun
  obtain rfl := Except.ok.inj h
  simp only [noNul_append, noNul_toString]
  exact ⟨⟨by decide, hname⟩, by decide⟩

/-- The OpenShell backend refuses what the gates refuse, and nothing else. -/
theorem launch_refusesIff (hhost : host.Ready) (hname : NoNul sb.sandboxName) :
    RefusesIff (fun _ => True) (sb.launch host a)
      (a.entrypoint ∉ safeEntrypoints ∨ Unauthorized host a.apiToken ∨
        ScanRefuses host sb.taskId a) fun _ => True := by
  have hrecord := recordEvent_records hhost.writesJson sb.taskId
  have hstart : ∀ p ∈ [("sandbox", PyVal.str sb.sandboxName),
      ("entrypoint", PyVal.str a.entrypoint)], p.2.isJson 6 = true := by simp [PyVal.isJson]
  suffices h : RefusesIff (fun _ => True) (sb.launch host a)
      (a.entrypoint ∉ safeEntrypoints ∨ Unauthorized host a.apiToken ∨
        ScanRefuses host sb.taskId a ∨ False ∨ False ∨ False) fun _ => True from
    h.congr (by simp only [or_false]) fun _ => id
  rw [launch, checkEntrypoint, checkToken]
  refine (RefusesIff.check _ _).bind fun _ hentrypoint _ => ?_
  refine (recordAndThrow_refusesIff hrecord (by simp [PyVal.isJson]) _).bind fun _ _ _ => ?_
  refine (scanPayload_refusesIff hrecord host _ sb.taskId a).bind fun _ _ _ => ?_
  refine (writePolicy_refusesIff hhost hname).bind fun policy _ hpolicy => ?_
  refine (hrecord _ _ _ _ hstart).bind fun _ _ _ => ?_
  exact (startProcess_refusesIff _ _).congr (iff_of_false (not_not.2 (noNul_createCommand hhost
    hname hpolicy (not_not.1 hentrypoint))) not_false) fun _ => id

theorem deploy_refuses_iff (hhost : host.Ready) (taskId : String) :
    Refuses (deploy host taskId a) newAuditLog ↔ GateRefuses host taskId a := by
  rw [deploy, new]
  by_cases hid : matchesLine isTaskId taskId
  · rw [if_neg (not_not.2 hid)]
    refine Iff.trans ((launch_refusesIff hhost ?_).refuses_iff trivial) ?_
    · exact noNul_append.2 ⟨by decide, hhost.uuidHex.slice 12⟩
    · rw [GateRefuses, safeEntrypoints_eq, or_iff_right (not_not.2 hid)]
  · rw [if_pos hid]
    exact iff_of_true ⟨_, _, rfl⟩ (.inl hid)

end OpenShellSandbox

namespace VibeShieldSandbox

theorem deploy_refuses_iff {host : Host} (hhost : host.Ready) (taskId : String)
    (config : Option SandboxConfig) (hconfig : (config.getD host.defaultConfig).Passable)
    {a : DeployArgs} (hegress : a.egressRules = []) :
    Refuses (deploy host taskId config a) newStatus ↔ GateRefuses host taskId a ∨
      ¬(∀ p ∈ a.envVars.items, EnvAccepted p) ∨ ¬∀ arg ∈ workload a, NoNul arg := by
  refine launch_refuses_iff hhost ?_ hconfig hegress newStatus
  exact noNul_append.2 ⟨by decide, hhost.uuidHex.slice 8⟩

end VibeShieldSandbox

/-! ## Parity -/

/-- If no entrypoint arguments are given, the backends agree on a task exactly if a
    gate of both refuses it, or the environment variables are accepted and the
    payload contains no NUL character. -/
theorem backends_refuse_alike_iff (host : Host) (hhost : host.Ready) (taskId : String)
    (config : Option SandboxConfig) (hconfig : (config.getD host.defaultConfig).Passable)
    (a : DeployArgs) (hargs : a.entrypointArgs = []) (hegress : a.egressRules = []) :
    (Refuses (OpenShellSandbox.deploy host taskId a) OpenShellSandbox.newAuditLog ↔
        Refuses (VibeShieldSandbox.deploy host taskId config a) VibeShieldSandbox.newStatus) ↔
      GateRefuses host taskId a ∨
        (∀ p ∈ a.envVars.items, VibeShieldSandbox.EnvAccepted p) ∧ NoNul a.encryptedPayload := by
  have hworkload : (∀ arg ∈ VibeShieldSandbox.workload a, NoNul arg) ↔
      NoNul a.encryptedPayload := by
    rw [VibeShieldSandbox.workload, hargs, if_neg (not_not.2 rfl)]
    exact ⟨fun h => h _ (by simp), fun h => by simpa using ⟨by decide, by decide +kernel, h⟩⟩
  rw [OpenShellSandbox.deploy_refuses_iff hhost,
    VibeShieldSandbox.deploy_refuses_iff hhost taskId config hconfig hegress, hworkload]
  by_cases hgate : GateRefuses host taskId a
  · exact iff_of_true (iff_of_true hgate (.inl hgate)) (.inl hgate)
  · rw [or_iff_right hgate, or_iff_right hgate, iff_false_left hgate, ← not_and_or, not_not]

namespace Sample

def podmanStartText : String :=
  "\x7b\"agent_id\":\"task-1\",\"category\":\"container_lifecycle\"," ++
  "\"details\":\x7b\"container\":\"vs_task_9f86d081\",\"entrypoint\":\"python3\"\x7d," ++
  "\"event\":\"sandbox.deploy.start\",\"prev_hash\":\"GENESISGENESISGENESISGENESIS\"," ++
  "\"severity\":\"info\",\"task_id\":\"task-1\",\"timestamp\":1.0\x7d"

def openShellStartText : String :=
  "\x7b\"agent_id\":\"task-1\",\"category\":\"container_lifecycle\"," ++
  "\"details\":\x7b\"entrypoint\":\"python3\",\"sandbox\":\"vs-9f86d081884c\"\x7d," ++
  "\"event\":\"openshell.deploy.start\",\"prev_hash\":\"GENESISGENESISGENESISGENESIS\"," ++
  "\"severity\":\"info\",\"task_id\":\"task-1\",\"timestamp\":1.0\x7d"

/-- The library, with the digests of the entries that record the two starts. -/
def deployLib : Python :=
  { Python.plain [
      (podmanStartText, "6a96389713064e0e021211765ae47dc7bfe37a0c24a8df2889a5425261779f67"),
      (openShellStartText, "67d3efc8ffc77f71fbc4b2e85e2823349f16d6a6f763f164aa1ed2a8235e2a06")] ""
    with dumps := fun v => .ok ((jsonText v).getD "") }

/-- A host with no relevant environment variables, where nothing is malicious. -/
def deployHost : Host where
  py := deployLib
  os := ⟨.ok, fun _ => true, fun _ => ([], none)⟩
  getenv _ := none
  uuidHex := "9f86d081884c4d659a2feaa0c55ad015"
  clock _ := .fin 1
  repr s := "'" ++ s ++ "'"
  fixed2 _ := "0.00"
  scan _ _ := .ok ⟨.safe, [], .fin 0⟩
  defaultConfig := ⟨"vibeshield/base:latest", "none", "512m", 50000, 100000, "100M", 300, true⟩
  seccompPath := some "/tmp/vibeshield_seccomp_1000.json"
  podmanDefault := none
  tempDir := "/tmp"
  uid := 1000
  writeFile _ _ := .ok ()
  networkInspect := .ok 0
  networkCreate := .ok ()
  defaultPolicyPath := "/opt/vibeshield/policies/vibeshield-default.yaml"
  writePolicy _ _ := .ok ()

/-- A task with one environment variable. -/
def deployArgs (key value : String) : DeployArgs where
  encryptedPayload := "encrypted"
  entrypoint := "python3"
  envVars := PyDict.empty.set key value

/-- The command that is started. -/
example : (match VibeShieldSandbox.deploy deployHost "task-1" none (deployArgs "MODE" "test")
      VibeShieldSandbox.newStatus with
    | .ok launch _ => launch.command.drop 22
    | .error _ _ => []) =
    ["--env", "MODE=test", "vibeshield/base:latest", "python3", "-m", "core.layer1_sandbox",
      "encrypted"] := by decide +kernel

theorem deployHost_ready : deployHost.Ready where
  writesJson _ _ := ⟨_, rfl⟩
  uuidHex := by decide +kernel
  getenv _ _ h := absurd h nofun
  seccomp := ⟨"/tmp/vibeshield_seccomp_1000.json", by decide +kernel, by decide +kernel⟩
  policy _ _ := rfl

theorem defaultConfig_passable : deployHost.defaultConfig.Passable :=
  ⟨by decide +kernel, by decide +kernel, by decide +kernel, by decide +kernel⟩

theorem backends_agree :
    Refuses (OpenShellSandbox.deploy deployHost "task-1" (deployArgs "MODE" "test"))
        OpenShellSandbox.newAuditLog ↔
      Refuses (VibeShieldSandbox.deploy deployHost "task-1" none (deployArgs "MODE" "test"))
        VibeShieldSandbox.newStatus := by
  refine (backends_refuse_alike_iff deployHost deployHost_ready "task-1" none
    defaultConfig_passable (deployArgs "MODE" "test") rfl rfl).2 (.inr ⟨?_, by decide +kernel⟩)
  intro p hp
  obtain rfl := List.mem_singleton.1 hp
  exact ⟨by decide +kernel, by decide +kernel, by decide +kernel, by decide +kernel⟩

/-- The variable `PATH` is refused by one backend alone. -/
theorem path_accepted :
    ¬(Refuses (OpenShellSandbox.deploy deployHost "task-1" (deployArgs "PATH" "/tmp"))
        OpenShellSandbox.newAuditLog ↔
      Refuses (VibeShieldSandbox.deploy deployHost "task-1" none (deployArgs "PATH" "/tmp"))
        VibeShieldSandbox.newStatus) := by
  have hgate : ¬GateRefuses deployHost "task-1" (deployArgs "PATH" "/tmp") := by
    rintro (h | h | h | h)
    · exact h (by decide +kernel)
    · exact absurd h (by decide +kernel)
    · exact h.1 rfl
    · exact absurd (h.2 _ rfl) nofun
  have hpath : ¬∀ p ∈ (deployArgs "PATH" "/tmp").envVars.items,
      VibeShieldSandbox.EnvAccepted p := fun h =>
    (h ("PATH", "/tmp") (List.mem_singleton_self _)).2.1 (by decide +kernel)
  rw [OpenShellSandbox.deploy_refuses_iff deployHost_ready,
    VibeShieldSandbox.deploy_refuses_iff deployHost_ready "task-1" none defaultConfig_passable rfl]
  exact fun h => hgate (h.2 (.inr (.inl hpath)))

end Sample

end VibeShield
