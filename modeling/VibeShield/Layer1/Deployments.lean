import VibeShield.Layer1.States

/-!
# The audit log over many deployments

A sandbox keeps one audit log for all its deployments. Whatever happens in them, the log is only
continued, by entries about the task, and is a valid chain at any time (`deployments_logged`); the
same holds of the log that a task on OpenShell starts with. This needs nothing of how values are
written as JSON: an entry that cannot be hashed is not recorded.

Which events a deployment records is told by its trail (`Trail`). The log of a run has the trails
of the deployments one after another (`deployment_trail`), so what one of them records does not
depend on the others.
-/

namespace VibeShield

/-! ## Logs that grow -/

/-- The entry is about the task, and reports one of the events. -/
structure AuditEntry.Reports (taskId : String) (events : List String) (e : AuditEntry) : Prop where
  agentId : e.agentId = .str taskId
  taskId : e.taskId = .str taskId
  event : ∃ event ∈ events, e.event = .str event

/-- The second log continues the first one by entries about the task, and is as sound. -/
structure AuditLog.Grows (py : Python) (taskId : String) (events : List String)
    (l l' : AuditLog) : Prop where
  sound : l.Sound py → l'.Sound py
  entries : ∃ es, l'.entries = l.entries ++ es ∧ ∀ e ∈ es, e.Reports taskId events

variable {py : Python} {taskId : String} {events : List String}

instance : Std.Refl (AuditLog.Grows py taskId events) where
  refl _ := ⟨id, [], (List.append_nil _).symm, List.forall_mem_nil _⟩

instance : IsTrans AuditLog (AuditLog.Grows py taskId events) where
  trans := by
    rintro l l' l'' ⟨hsound, es, hes, hreports⟩ ⟨hsound', es', hes', hreports'⟩
    refine ⟨hsound' ∘ hsound, es ++ es', ?_, List.forall_mem_append.2 ⟨hreports, hreports'⟩⟩
    rw [hes', hes, List.append_assoc]

/-- Recording an event lets the log grow, or leaves it as it is. -/
theorem recordEvent_leads {host : Host} (hpy : host.py = py) (taskId : String)
    (category : AuditCategory) (severity : AuditSeverity) {event : String} (hevent : event ∈ events)
    (details : List (String × PyVal)) :
    Leads (AuditLog.Grows py taskId events)
      (recordEvent host taskId category severity event details) := by
  subst hpy
  intro log
  set args : RecordArgs := ⟨.inl category, .inl severity, .str event, .str taskId, .str taskId,
    .dict (details.map fun p => (.str p.1, p.2)), host.clock event⟩ with hargs
  have hend : endState (recordEvent host taskId category severity event details log) =
      (log.record host.py args fun _ log => (log, none)).1 := by
    rw [recordEvent, ← hargs]
    cases hrecord : log.record host.py args fun _ log => (log, none) with
    | mk log' out =>
      cases out with
      | ok _ => rfl
      | error _ => rfl
  rw [hend]
  refine ⟨fun h => (AuditLog.kept_sound host.py).record h _ _ fun _ _ h => h, ?_⟩
  cases hhash : (log.newEntry args).computeHash host.py with
  | error err =>
    rw [AuditLog.record_of_computeHash_error hhash]
    exact ⟨[], (List.append_nil _).symm, List.forall_mem_nil _⟩
  | ok hash =>
    have hlog := AuditLog.record_of_computeHash_ok hhash fun _ log => (log, none)
    rw [or_self] at hlog
    rw [hlog]
    exact ⟨[_], rfl, List.forall_mem_singleton.2 ⟨rfl, rfl, event, hevent, rfl⟩⟩

/-- The scan of a payload records nothing but that it is blocked. -/
theorem scanPayload_leads {σ : Type} {R : σ → σ → Prop} [Std.Refl R] [IsTrans σ R] (host : Host)
    {record : Recorder σ} {event : String}
    (hrecord : ∀ details, Leads R (record .securityViolation .critical event details))
    (taskId : String) (a : DeployArgs) : Leads R (scanPayload host record event taskId a) := by
  rw [scanPayload]
  split
  · refine (Leads.ofExcept _).bind fun injection => ?_
    split
    · exact (hrecord _).bind fun _ => .throw _
    · exact .pure _
  · exact .pure _

/-! ## Podman -/

namespace VibeShieldSandbox

/-- The events of a deployment. -/
def auditEvents : List String :=
  ["sandbox.auth_failure", "sandbox.deploy.start", "sandbox.injection_blocked",
    "sandbox.exfil_blocked", "sandbox.deploy.complete"]

/-- The log of a sandbox, which is empty before the first deployment. -/
def log (s : SandboxStatus) : AuditLog := s.auditLog.getD (.new "/var/lib/vibeshield/audit" false)

/-- The log of the sandbox grows. -/
def LogGrows (py : Python) (sb : VibeShieldSandbox) (s s' : SandboxStatus) : Prop :=
  (log s).Grows py sb.taskId auditEvents (log s')

variable {F : Type} [PyNum F] {host : Host} {after : Aftermath F} {sb : VibeShieldSandbox}
  {a : DeployArgs}

instance : Std.Refl (LogGrows py sb) where
  refl s := Std.Refl.refl (log s)

instance : IsTrans SandboxStatus (LogGrows py sb) where
  trans s s' s'' h h' := IsTrans.trans (log s) (log s') (log s'') h h'

theorem logGrows_of_eq {s s' : SandboxStatus} (h : log s' = log s) : LogGrows py sb s s' := by
  rw [LogGrows, h]
  exact Std.Refl.refl _

theorem record_leads (hpy : host.py = py) (category : AuditCategory) (severity : AuditSeverity)
    {event : String} (hevent : event ∈ auditEvents) (details : List (String × PyVal)) :
    Leads (LogGrows py sb) (sb.record host category severity event details) := by
  intro s
  have hlog := recordEvent_leads hpy sb.taskId category severity hevent details (log s)
  rw [record, LogGrows]
  cases hopen : s.auditLog with
  | none => exact Std.Refl.refl (log s)
  | some l =>
    have hl : log s = l := by rw [log, hopen, Option.getD_some]
    rw [hl] at hlog ⊢
    dsimp only
    cases hrecord : recordEvent host sb.taskId category severity event details l with
    | ok _ l' =>
      rw [hrecord] at hlog
      exact hlog
    | error err l' =>
      rw [hrecord] at hlog
      exact hlog

/-- The state of the sandbox is not in the log. -/
theorem state_leads (state : SandboxState) :
    Leads (LogGrows py sb)
      (modify fun s => { s with state := state } : EStateM PyErr SandboxStatus PUnit) :=
  .modify fun _ => logGrows_of_eq rfl

theorem launch_leads (hpy : host.py = py) : Leads (LogGrows py sb) (sb.launch host a) := by
  have hopen : Leads (LogGrows py sb) openAuditLog := .modify fun s => logGrows_of_eq rfl
  have hrecord {category : AuditCategory} {severity : AuditSeverity} {event : String}
      (hevent : event ∈ auditEvents) {details : List (String × PyVal)} :
      Leads (LogGrows py sb) (sb.record host category severity event details) :=
    record_leads hpy category severity hevent details
  unfold launch launchAudited checkTaskId checkEntrypoint checkToken
  refine hopen.bind fun _ => Leads.bind ?_ fun _ => Leads.bind ?_ fun _ => Leads.bind ?_ fun _ => ?_
  · split
    · exact .throw _
    · exact .pure _
  · split
    · exact .throw _
    · exact .pure _
  · split
    · exact (hrecord (by decide)).bind fun _ => .throw _
    · exact .pure _
  · refine (hrecord (by decide)).bind fun _ => ?_
    refine (scanPayload_leads host (fun _ => hrecord (by decide)) _ a).bind fun _ => ?_
    exact (Leads.ofExcept _).bind fun _ => (state_leads _).bind fun _ => .ofExcept _

theorem complete_leads (hpy : host.py = py) :
    Leads (LogGrows py sb) (sb.complete host after a.securityScan) := by
  have hshred : Leads (LogGrows py sb) (cryptographicShred after) :=
    (Leads.ofExcept _).bind fun _ => (Leads.ofExcept _).bind fun _ =>
      (Leads.ofExcept _).bind fun _ => state_leads _
  rw [complete]
  cases after.outcome with
  | completed returncode stdout stderr =>
    refine (state_leads _).bind fun _ => (Leads.ofExcept _).bind fun _ => ?_
    refine (Leads.ofExcept _).bind fun exfil => ?_
    cases exfil with
    | none =>
      refine Leads.get.bind fun s => (record_leads hpy _ _ (by decide) _).bind fun _ => ?_
      exact Leads.get.bind fun _ => .pure _
    | some exfil => exact (record_leads hpy _ _ (by decide) _).bind fun _ => .pure _
  | timeoutExpired => exact (state_leads _).bind fun _ => hshred.bind fun _ => .pure _
  | calledProcessError _ text => exact (state_leads _).bind fun _ => hshred.bind fun _ => .pure _
  | raised err => exact .throw _

theorem deployAgent_leads (hpy : host.py = py) :
    Leads (LogGrows py sb) (sb.deployAgent host after a) := by
  rw [deployAgent]
  exact (launch_leads hpy).bind fun _ => complete_leads hpy

/-- The log grows over a run. -/
theorem logGrows_run (sb : VibeShieldSandbox) {calls : List (Deployment F)}
    (hcalls : ∀ d ∈ calls, d.host.py = py) (s : SandboxStatus) :
    LogGrows py sb s ((deployments sb).run s calls) := by
  induction calls generalizing s with
  | nil => exact Std.Refl.refl (log s)
  | cons d calls ih =>
    have hstep : LogGrows py sb s (endState (sb.deployAgent d.host d.after d.args s)) :=
      deployAgent_leads (hcalls d List.mem_cons_self) s
    exact IsTrans.trans s _ _ hstep (ih (fun d hd => hcalls d (List.mem_cons_of_mem _ hd)) _)

end VibeShieldSandbox

/-! ## OpenShell -/

namespace OpenShellSandbox

/-- The events of a task. -/
def auditEvents : List String :=
  ["openshell.auth_failure", "openshell.injection_blocked", "openshell.deploy.start",
    "openshell.exfil_blocked", "openshell.deploy.finish", "openshell.deploy.timeout"]

variable {F : Type} [PyNum F] {host : Host} {after : Aftermath F} {sb : OpenShellSandbox}
  {a : DeployArgs}

theorem executeTask_leads (sb : OpenShellSandbox) (after : Aftermath F) (a : DeployArgs)
    (hpy : host.py = py) :
    Leads (AuditLog.Grows py sb.taskId auditEvents) (sb.executeTask host after a) := by
  have hrecord {category : AuditCategory} {severity : AuditSeverity} {event : String}
      (hevent : event ∈ auditEvents) {details : List (String × PyVal)} :
      Leads (AuditLog.Grows py sb.taskId auditEvents)
        (recordEvent host sb.taskId category severity event details) :=
    recordEvent_leads hpy sb.taskId category severity hevent details
  have hlaunch : Leads (AuditLog.Grows py sb.taskId auditEvents) (sb.launch host a) := by
    unfold launch checkEntrypoint checkToken
    refine Leads.bind ?_ fun _ => Leads.bind ?_ fun _ => ?_
    · split
      · exact .throw _
      · exact .pure _
    · split
      · exact (hrecord (by decide)).bind fun _ => .throw _
      · exact .pure _
    · refine (scanPayload_leads host (fun _ => hrecord (by decide)) _ a).bind fun _ => ?_
      refine (Leads.ofExcept _).bind fun _ => (hrecord (by decide)).bind fun _ => ?_
      exact .ofExcept _
  refine hlaunch.bind fun _ => ?_
  rw [complete]
  cases after.outcome with
  | completed code stdout stderr =>
    refine (Leads.ofExcept _).bind fun exfil => Leads.bind ?_ fun _ => ?_
    · cases exfil with
      | none => exact .pure _
      | some exfil => exact (hrecord (by decide)).bind fun _ => .pure _
    · exact (hrecord (by decide)).bind fun _ => .pure _
  | timeoutExpired => exact (hrecord (by decide)).bind fun _ => .pure _
  | calledProcessError _ text => exact .throw _
  | raised err => exact .throw _

end OpenShellSandbox

open VibeShieldSandbox

/-- Whatever deployments find and meet, refused or not, the log of the sandbox is a valid chain, in
    which nothing is lost that has been there before, and all entries are about the task and report
    one of its events. So is the log that a task on OpenShell leaves. -/
theorem deployments_logged {F : Type} [PyNum F] (py : Python) :
    (∀ (sb : VibeShieldSandbox) (calls : List (Deployment F)), (∀ d ∈ calls, d.host.py = py) →
      let logAfter (calls : List (Deployment F)) := log ((deployments sb).run newStatus calls)
      (logAfter calls).verifyChain py = .ok .intact ∧
      (∀ e ∈ (logAfter calls).entries, e.Reports sb.taskId VibeShieldSandbox.auditEvents) ∧
      ∀ js, js <+: calls → (logAfter js).entries <+: (logAfter calls).entries) ∧
    ∀ (sb : OpenShellSandbox) (host : Host) (after : Aftermath F) (a : DeployArgs), host.py = py →
      let l := endState (sb.executeTask host after a OpenShellSandbox.newAuditLog)
      l.verifyChain py = .ok .intact ∧
      ∀ e ∈ l.entries, e.Reports sb.taskId OpenShellSandbox.auditEvents := by
  constructor
  · intro sb calls hcalls logAfter
    obtain ⟨hsound, es, hes, hreports⟩ := logGrows_run sb hcalls newStatus
    refine ⟨(hsound (AuditLog.sound_new _ _)).verifyChain, fun e he => ?_, ?_⟩
    · rw [hes] at he
      exact hreports e he
    · rintro js ⟨ks, rfl⟩
      have hks : ∀ d ∈ ks, d.host.py = py := fun d hd => hcalls d (List.mem_append_right _ hd)
      obtain ⟨_, es, hes, _⟩ := logGrows_run sb hks ((deployments sb).run newStatus js)
      rw [← Machine.run_append] at hes
      exact ⟨es, hes.symm⟩
  · intro sb host after a hpy l
    obtain ⟨hsound, es, hes, hreports⟩ :=
      OpenShellSandbox.executeTask_leads sb after a hpy OpenShellSandbox.newAuditLog
    refine ⟨(hsound (AuditLog.sound_new _ _)).verifyChain, fun e he => ?_⟩
    rw [hes] at he
    exact hreports e he

namespace Sample

/-- A task that exceeds its timeout, and is then run once more. -/
def retried : List (Deployment ℚ) :=
  [⟨deployHost, { leak with outcome := .timeoutExpired }, deployArgs "MODE" "test"⟩,
    ⟨deployHost, { leak with outcome := .completed 0 "" "" }, deployArgs "MODE" "test"⟩]

theorem retried_logged :
    (VibeShieldSandbox.log ((deployments podmanSandbox).run newStatus retried)).verifyChain
      deployHost.py = .ok .intact :=
  ((deployments_logged deployHost.py).1 podmanSandbox retried (by simp [retried])).1

end Sample

/-! ## The trail of a deployment -/

namespace VibeShieldSandbox

variable {F : Type} [PyNum F]

/-- The events that a deployment adds to the log. -/
inductive Trail (host : Host) (after : Aftermath F) (sb : VibeShieldSandbox) (a : DeployArgs) :
    List String → Prop
  /-- It is refused for its task id or its entrypoint. -/
  | refused (h : ¬(matchesLine isTaskId sb.taskId = true ∧ a.entrypoint ∈ safeEntrypoints)) :
    Trail host after sb a []
  | unauthorized (htaskId : matchesLine isTaskId sb.taskId = true)
    (hentrypoint : a.entrypoint ∈ safeEntrypoints) (htoken : Unauthorized host a.apiToken) :
    Trail host after sb a ["sandbox.auth_failure"]
  | blocked (hstarted : Started host sb a) (hblocked : Blocked host sb a) :
    Trail host after sb a ["sandbox.deploy.start", "sandbox.injection_blocked"]
  /-- The container has ended, and its output is blocked or not. -/
  | concluded (hstarted : Started host sb a) (hblocked : ¬Blocked host sb a)
    (hconcluded : Concluded host after sb a) {returncode : ℤ} {stdout stderr : String}
    (houtcome : after.outcome = .completed returncode stdout stderr)
    {exfil : Option (ExfilResult F)}
    (hexfil : scanOutput host after a.securityScan stdout = .ok exfil) :
    Trail host after sb a ["sandbox.deploy.start",
      if exfil.isSome then "sandbox.exfil_blocked" else "sandbox.deploy.complete"]
  /-- It is refused later, or the container ends in another way. -/
  | unrecorded (hstarted : Started host sb a) (hblocked : ¬Blocked host sb a)
    (hconcluded : ¬Concluded host after sb a) : Trail host after sb a ["sandbox.deploy.start"]

variable {host : Host} {after : Aftermath F} {sb : VibeShieldSandbox} {a : DeployArgs}

/-- The end of a container is recorded as the scan of its output has turned out. -/
theorem logs_end_of_concluded (hpy : host.py.WritesJson) (h : Concluded host after sb a)
    {returncode : ℤ} {stdout stderr : String}
    (houtcome : after.outcome = .completed returncode stdout stderr)
    {exfil : Option (ExfilResult F)}
    (hexfil : scanOutput host after a.securityScan stdout = .ok exfil) :
    Logs SandboxStatus.Opened SandboxStatus.events (afterStart host after sb a)
      [if exfil.isSome then "sandbox.exfil_blocked" else "sandbox.deploy.complete"] := by
  obtain ⟨path, hpath, hnul⟩ := h.command
  obtain ⟨n, hn⟩ : ∃ n, auditNetworkActivity host after = .ok n :=
    exists_auditNetworkActivity_eq_ok h.podmanLogs
  have hcommand : sb.runCommand host a = .ok _ := runCommand_eq_ok hpath h.egressRules h.env
  unfold afterStart complete
  refine (scanPayload_returns h.scan).skip_logs fun _ _ => ?_
  refine (Returns.ofExcept hcommand).skip_logs fun _ hvalue => ?_
  refine (state_returns _).skip_logs fun _ _ => ?_
  rw [hvalue, houtcome]
  refine (Returns.ofExcept (if_pos ((forall_noNul_command h.env).2 hnul))).skip_logs fun _ _ => ?_
  dsimp only
  refine (state_returns _).skip_logs fun _ _ => ?_
  refine (Returns.ofExcept hn).skip_logs fun _ hvalue => ?_
  refine (Returns.ofExcept hexfil).skip_logs fun _ hvalue' => ?_
  rw [hvalue, hvalue']
  exact conclude_logs hpy returncode stdout stderr n exfil

/-- Every deployment has a trail. -/
theorem exists_trail (hpy : host.py.WritesJson) (after : Aftermath F) (sb : VibeShieldSandbox)
    (a : DeployArgs) : ∃ ts, Trail host after sb a ts ∧
      Logs SandboxStatus.Opened SandboxStatus.events (deployAudited host after sb a) ts := by
  by_cases hstarted : Started host sb a
  · by_cases hblocked : Blocked host sb a
    · exact ⟨_, .blocked hstarted hblocked,
        logs_of_started hpy hstarted (logs_of_blocked hpy hblocked)⟩
    · by_cases hconcluded : Concluded host after sb a
      · obtain ⟨returncode, stdout, stderr, houtcome, hscan⟩ := hconcluded.outcome
        cases hexfil : scanOutput host after a.securityScan stdout with
        | error err => exact absurd hexfil (hscan err)
        | ok exfil =>
          exact ⟨_, .concluded hstarted hblocked hconcluded houtcome hexfil,
            logs_of_started hpy hstarted (logs_end_of_concluded hpy hconcluded houtcome hexfil)⟩
      · exact ⟨_, .unrecorded hstarted hblocked hconcluded,
          logs_of_started hpy hstarted (logs_nothing_of_not_concluded hblocked hconcluded)⟩
  · rcases refused_or_unauthorized hstarted with hrefused | ⟨⟨htask, hentry⟩, htoken⟩
    · exact ⟨_, .refused hrefused, logs_of_refused hrefused⟩
    · exact ⟨_, .unauthorized htask hentry htoken, logs_of_unauthorized hpy htask hentry htoken⟩

/-- Opening the log records nothing. -/
theorem events_deployAgent {ts : List String}
    (h : Logs SandboxStatus.Opened SandboxStatus.events (deployAudited host after sb a) ts)
    (s : SandboxStatus) : (endState (sb.deployAgent host after a s)).events = s.events ++ ts := by
  have hopened : ({ s with auditLog := some (log s) } : SandboxStatus).events = s.events := by
    rw [SandboxStatus.events, SandboxStatus.events, log]
    cases s.auditLog with
    | none => rfl
    | some l => rfl
  rw [deployAgent_eq, ← hopened]
  exact h _ rfl

end VibeShieldSandbox

/-- The log of a run has the trails of the deployments, one after another. -/
theorem deployment_trail {F : Type} [PyNum F] (sb : VibeShieldSandbox)
    (calls : List (Deployment F)) (hcalls : ∀ d ∈ calls, d.host.py.WritesJson) :
    ∃ trails, List.Forall₂ (fun d ts => Trail d.host d.after sb d.args ts) calls trails ∧
      ((deployments sb).run newStatus calls).events = trails.flatten := by
  induction calls using List.reverseRecOn with
  | nil => exact ⟨[], .nil, rfl⟩
  | append_singleton calls d ih =>
    obtain ⟨trails, htrails, hevents⟩ := ih fun d hd => hcalls d (List.mem_append_left _ hd)
    obtain ⟨ts, hts, hlogs⟩ := exists_trail (hcalls d (by simp)) d.after sb d.args
    refine ⟨trails ++ [ts], List.rel_append htrails (.cons hts .nil), ?_⟩
    rw [Machine.run_concat, List.flatten_append, ← hevents, List.flatten_singleton]
    exact events_deployAgent hlogs _

namespace Sample

theorem retried_trail :
    ∃ trails, List.Forall₂ (fun d ts => Trail d.host d.after podmanSandbox d.args ts) retried
      trails ∧ ((deployments podmanSandbox).run newStatus retried).events = trails.flatten :=
  deployment_trail podmanSandbox retried (by simp [retried, deployHost_ready.writesJson])

end Sample

end VibeShield
