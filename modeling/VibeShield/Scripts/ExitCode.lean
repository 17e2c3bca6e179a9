import VibeShield.Layer1.Delivery
import VibeShield.Lib.Trace
import VibeShield.Scripts.SandboxTask

/-!
# The exit code of the task runner

The exit code should tell whether the task has succeeded: it is 2 if an argument is malformed
or a gate has refused the task, 0 if the task has succeeded, and 1 otherwise
(`SandboxTask.ExpectedCode`). A task has succeeded if the workload has exited with zero and its
output was not blocked (`SandboxTask.Succeeded`).

With OpenShell the exit code is right whenever the call of the sandbox returns
(`SandboxTask.success_openshell_iff`), but with Podman no task succeeds, since no state has the
value that it is compared with (`SandboxTask.success_podman`). Malformed arguments, and
exceptions of other classes than the script catches, end it with an exception
(`SandboxTask.exit_code_iff`).
-/

namespace VibeShield.SandboxTask

/-! ## The arguments -/

section Arguments

variable {F : Type} (w : World F) (args : Args)

/-- The port in an argument is not a number. -/
def Malformed : Prop :=
  ∃ spec ∈ args.egress, (partitionOn spec ':').2 ≠ "" ∧
    ∃ err, w.int (partitionOn spec ':').2 = .error err

variable {w args}

theorem egressRule_error_iff (spec : String) :
    (∃ err, egressRule w spec = .error err) ↔ (partitionOn spec ':').2 ≠ "" ∧
      ∃ err, w.int (partitionOn spec ':').2 = .error err := by
  rw [egressRule, egressPort]
  by_cases hport : (partitionOn spec ':').2 ≠ ""
  · rw [if_pos hport, and_iff_right hport]
    cases w.int (partitionOn spec ':').2 with
    | ok port => exact iff_of_false nofun nofun
    | error err => exact iff_of_true ⟨err, rfl⟩ ⟨err, rfl⟩
  · rw [if_neg hport]
    exact iff_of_false nofun fun h => hport h.1

/-- The arguments are parsed unless one is malformed. -/
theorem malformed_iff : Malformed w args ↔ ∃ err, args.egress.mapM (egressRule w) = .error err := by
  simp only [Malformed, ← egressRule_error_iff]
  constructor
  · exact exists_mapM_eq_error
  · rintro ⟨err, herr⟩
    obtain ⟨spec, hspec, h⟩ := exists_of_mapM_eq_error herr
    exact ⟨spec, hspec, err, h⟩

end Arguments

/-! ## What the exit code should be -/

variable {F : Type} [PyNum F] (w : World F) (args : Args)

/-- The call of the sandbox up to the start of the workload. -/
def starts (a : DeployArgs) : Backend → Except PyErr Unit
  | .openshell => do
    let sandbox ← OpenShellSandbox.new w.host args.taskId
    let _ ← outcomeOf (sandbox.launch w.host a) OpenShellSandbox.newAuditLog
  | .podman => do
    let _ ← outcomeOf ((podmanSandbox w args).launch (dictRulesHost w.host) a)
      VibeShieldSandbox.newStatus

/-- A gate refuses the task before the workload is started. -/
def Refused (a : DeployArgs) (backend : Backend) : Prop :=
  ∃ err, starts w args a backend = .error err ∧ caught err = true

/-- The scan blocks the output. -/
def OutputBlocked (a : DeployArgs) (stdout : String) : Prop :=
  ∃ exfil, scanOutput w.host w.after a.securityScan stdout = .ok (some exfil)

/-- The workload runs and exits with zero, and its output is not blocked. -/
def Succeeded (a : DeployArgs) (backend : Backend) : Prop :=
  starts w args a backend = .ok () ∧
    ∃ stdout stderr, w.after.outcome = .completed 0 stdout stderr ∧ ¬OutputBlocked w a stdout

/-- The script calls the sandbox of the backend with these arguments. -/
def Calls (payload : String) (a : DeployArgs) (backend : Backend) : Prop :=
  ∃ rules, args.egress.mapM (egressRule w) = .ok rules ∧ chosenBackend w args = .ok backend ∧
    a = deployArgs args payload rules

/-- What the exit code should be. -/
inductive ExpectedCode (payload : String) : ℤ → Prop
  | malformed (h : Malformed w args) : ExpectedCode payload 2
  | refused {a : DeployArgs} {backend : Backend} (ha : Calls w args payload a backend)
      (h : Refused w args a backend) : ExpectedCode payload 2
  | succeeded {a : DeployArgs} {backend : Backend} (ha : Calls w args payload a backend)
      (h : Succeeded w args a backend) : ExpectedCode payload 0
  | otherwise (hargs : ¬Malformed w args)
      (h : ∀ a backend, Calls w args payload a backend →
        ¬Refused w args a backend ∧ ¬Succeeded w args a backend) : ExpectedCode payload 1

/-- With the payload, the script returns what it should, and the field `ok` that it prints is
    true exactly if this is zero. -/
def MeetsContract (payload : String) : Prop :=
  ∃ code output, main { w with payload := .ok payload } args = .ok (code, some output) ∧
    ExpectedCode w args payload code ∧ (output.ok = true ↔ code = 0)

variable {w args}

variable (w args) in
/-- What the exit code should be for a call of the sandbox. -/
def CodeFor (a : DeployArgs) (backend : Backend) (code : ℤ) : Prop :=
  code = 2 ∧ Refused w args a backend ∨ code = 0 ∧ Succeeded w args a backend ∨
    code = 1 ∧ ¬Refused w args a backend ∧ ¬Succeeded w args a backend

/-- If the script calls the sandbox, what the exit code should be depends on this call. -/
theorem expectedCode_iff {payload : String} {a : DeployArgs} {backend : Backend} {code : ℤ}
    (hargs : ¬Malformed w args)
    (hcalls : ∀ a' backend', Calls w args payload a' backend' ↔ a' = a ∧ backend' = backend) :
    ExpectedCode w args payload code ↔ CodeFor w args a backend code := by
  have hcall := (hcalls a backend).2 ⟨rfl, rfl⟩
  constructor
  · rintro (h | ⟨ha, h⟩ | ⟨ha, h⟩ | ⟨-, h⟩)
    · exact absurd h hargs
    · obtain ⟨rfl, rfl⟩ := (hcalls _ _).1 ha
      exact .inl ⟨rfl, h⟩
    · obtain ⟨rfl, rfl⟩ := (hcalls _ _).1 ha
      exact .inr (.inl ⟨rfl, h⟩)
    · exact .inr (.inr ⟨rfl, h a backend hcall⟩)
  · rintro (⟨rfl, h⟩ | ⟨rfl, h⟩ | ⟨rfl, h⟩)
    · exact .refused hcall h
    · exact .succeeded hcall h
    · refine .otherwise hargs fun a' backend' ha => ?_
      obtain ⟨rfl, rfl⟩ := (hcalls _ _).1 ha
      exact h

/-! ## The call of the sandbox -/

theorem outcomeOf_bind_of_error {σ α β : Type} {x : EStateM PyErr σ α} {f : α → EStateM PyErr σ β}
    {s : σ} {err : PyErr} (h : outcomeOf x s = .error err) :
    outcomeOf (x >>= f) s = .error err := by
  rw [outcomeOf] at h ⊢
  cases hx : x s with
  | ok a s' =>
    rw [hx] at h
    cases h
  | error err' s' =>
    rw [hx] at h
    cases h
    rw [bind_of_error hx]

/-- A value that is returned has what the computation ensures. -/
theorem of_outcomeOf_eq_ok {σ α : Type} {x : EStateM PyErr σ α} {V : α → Prop} {s : σ} {a : α}
    (hx : Ensures x V) (h : outcomeOf x s = .ok a) : V a := by
  rw [outcomeOf] at h
  cases hxs : x s with
  | ok b s' =>
    rw [hxs] at h
    cases h
    exact hx s _ s' hxs
  | error err s' =>
    rw [hxs] at h
    cases h

/-- If the workload is not started, there is no result. -/
theorem runSandbox_of_starts_error {a : DeployArgs} {backend : Backend} {err : PyErr}
    (h : starts w args a backend = .error err) : runSandbox w args a backend = .error err := by
  cases backend with
  | openshell =>
    rw [starts] at h
    rw [runSandbox]
    refine Except.bind_eq_error_of_imp (fun sandbox hstart => ?_) h
    have hlaunch : outcomeOf (sandbox.launch w.host a) OpenShellSandbox.newAuditLog =
        .error err := Except.eq_error_of_bind_pure hstart
    have hcall : outcomeOf (deployAgentCompat w sandbox a) OpenShellSandbox.newAuditLog =
        .error err := outcomeOf_bind_of_error (outcomeOf_bind_of_error hlaunch)
    rw [hcall]
    rfl
  | podman =>
    rw [starts] at h
    rw [runSandbox]
    have hlaunch : outcomeOf ((podmanSandbox w args).launch (dictRulesHost w.host) a)
        VibeShieldSandbox.newStatus = .error err := Except.eq_error_of_bind_pure h
    have hcall : outcomeOf ((podmanSandbox w args).deployAgent (dictRulesHost w.host) w.after a)
        VibeShieldSandbox.newStatus = .error err := outcomeOf_bind_of_error hlaunch
    rw [hcall]
    rfl

theorem starts_of_runSandbox {a : DeployArgs} {backend : Backend} {r : TaskResult F}
    (h : runSandbox w args a backend = .ok r) : starts w args a backend = .ok () := by
  cases hstarts : starts w args a backend with
  | ok _ => rfl
  | error err => exact absurd (h.symm.trans (runSandbox_of_starts_error hstarts)) nofun

/-- The result of OpenShell tells whether the process has exited with zero and its output was
    not blocked. -/
theorem ensures_complete {host : Host} {after : Aftermath F} {sb : OpenShellSandbox}
    {securityScan : Bool} : Ensures (sb.complete host after securityScan) fun r =>
      r.success = true ↔ ∃ stdout stderr, after.outcome = .completed 0 stdout stderr ∧
        ¬∃ exfil, scanOutput host after securityScan stdout = .ok (some exfil) := by
  rw [OpenShellSandbox.complete]
  cases after.outcome with
  | completed code stdout stderr =>
    refine (Ensures.ofExcept fun exfil hexfil => hexfil).bind fun exfil hexfil => ?_
    refine Ensures.any.bind fun _ _ => Ensures.any.bind fun _ _ => .pure ?_
    rw [Bool.and_eq_true, decide_eq_true_eq, Bool.not_eq_true', Option.isSome_eq_false_iff,
      Option.isNone_iff_eq_none]
    constructor
    · rintro ⟨rfl, rfl⟩
      refine ⟨stdout, stderr, rfl, ?_⟩
      rintro ⟨exfil, hblocked⟩
      cases hexfil.symm.trans hblocked
    · rintro ⟨_, _, ⟨⟩, hnone⟩
      cases exfil with
      | none => exact ⟨rfl, rfl⟩
      | some exfil => exact absurd ⟨exfil, hexfil⟩ hnone
  | timeoutExpired =>
    refine Ensures.any.bind fun _ _ => .pure (iff_of_false Bool.false_ne_true ?_)
    rintro ⟨_, _, h, _⟩
    cases h
  | calledProcessError returncode text => exact .throw _
  | raised err => exact .throw err

/-- The result of OpenShell tells whether the task has succeeded. -/
theorem success_openshell_iff {a : DeployArgs} {r : TaskResult F}
    (h : runSandbox w args a .openshell = .ok r) :
    r.success = true ↔ Succeeded w args a .openshell := by
  rw [Succeeded, and_iff_right (starts_of_runSandbox h)]
  rw [runSandbox] at h
  obtain ⟨sandbox, -, h⟩ := Except.exists_of_bind_eq_ok h
  obtain ⟨like, hresult, h⟩ := Except.exists_of_bind_eq_ok h
  cases h
  have hcompat : Ensures (deployAgentCompat w sandbox a) fun like => like.success = true ↔
      ∃ stdout stderr, w.after.outcome = .completed 0 stdout stderr ∧
        ¬OutputBlocked w a stdout :=
    (Ensures.any.bind fun _ _ => ensures_complete).bind fun _ hr => .pure hr
  have hlike := of_outcomeOf_eq_ok hcompat hresult
  exact hlike

/-- With Podman, no result tells that the task has succeeded: the values of the states are in
    lower case. -/
theorem success_podman {a : DeployArgs} {r : TaskResult F}
    (h : runSandbox w args a .podman = .ok r) : r.success = false := by
  rw [runSandbox] at h
  obtain ⟨raw, -, h⟩ := Except.exists_of_bind_eq_ok h
  cases h
  have hvalue : raw.state.value ≠ "COMPLETED" := by cases raw.state <;> decide
  change (decide (raw.state.value = "COMPLETED") && _) = false
  rw [decide_eq_false hvalue, Bool.false_and]

/-! ## The exit code -/

/-- A result tells the truth exactly if it is from OpenShell or the task has not succeeded. -/
theorem success_iff {a : DeployArgs} {backend : Backend} {r : TaskResult F}
    (h : runSandbox w args a backend = .ok r) :
    (r.success = true ↔ Succeeded w args a backend) ↔
      (backend = .podman → ¬Succeeded w args a backend) := by
  cases backend with
  | openshell => exact iff_of_true (success_openshell_iff h) nofun
  | podman =>
    rw [success_podman h, iff_false_left Bool.false_ne_true]
    exact ⟨fun hfailed _ => hfailed, fun hfailed => hfailed rfl⟩

/-- If the call of the sandbox raises an exception, the exit code is right exactly if a gate has
    refused the task. -/
theorem report_error_iff {a : DeployArgs} {backend : Backend} {err : PyErr}
    (h : runSandbox w args a backend = .error err) :
    (∃ code output, report backend (runSandbox w args a backend) = .ok (code, some output) ∧
      CodeFor w args a backend code ∧ (output.ok = true ↔ code = 0)) ↔
      Refused w args a backend := by
  rw [h, report]
  by_cases hcaught : caught err = true
  · rw [if_pos hcaught]
    constructor
    · rintro ⟨_, _, ⟨⟩, ⟨-, hrefused⟩ | ⟨hcode, -⟩ | ⟨hcode, -⟩, -⟩
      · exact hrefused
      · exact absurd hcode (by decide)
      · exact absurd hcode (by decide)
    · intro hrefused
      exact ⟨2, _, rfl, .inl ⟨rfl, hrefused⟩, iff_of_false Bool.false_ne_true (by decide)⟩
  · rw [if_neg hcaught]
    refine iff_of_false ?_ ?_
    · rintro ⟨_, _, hreport, -⟩
      cases hreport
    · rintro ⟨err', hstarts, hcaught'⟩
      cases h.symm.trans (runSandbox_of_starts_error hstarts)
      exact hcaught hcaught'

theorem not_refused {a : DeployArgs} {backend : Backend} {r : TaskResult F}
    (h : runSandbox w args a backend = .ok r) : ¬Refused w args a backend := by
  rintro ⟨err, herr, -⟩
  cases herr.symm.trans (starts_of_runSandbox h)

/-- If it returns, the exit code is right exactly if the result tells whether the task has
    succeeded. -/
theorem report_ok_iff {a : DeployArgs} {backend : Backend} {r : TaskResult F}
    (h : runSandbox w args a backend = .ok r) :
    (∃ code output, report backend (runSandbox w args a backend) = .ok (code, some output) ∧
      CodeFor w args a backend code ∧ (output.ok = true ↔ code = 0)) ↔
      (r.success = true ↔ Succeeded w args a backend) := by
  rw [h, report]
  cases hsuccess : r.success with
  | true =>
    constructor
    · rintro ⟨_, _, ⟨⟩, ⟨hcode, -⟩ | ⟨-, hsucceeded⟩ | ⟨hcode, -⟩, -⟩
      · exact absurd hcode (by decide)
      · exact iff_of_true rfl hsucceeded
      · exact absurd hcode (by decide)
    · intro hiff
      exact ⟨0, _, rfl, .inr (.inl ⟨rfl, hiff.1 rfl⟩), iff_of_true hsuccess rfl⟩
  | false =>
    constructor
    · rintro ⟨_, _, ⟨⟩, ⟨hcode, -⟩ | ⟨hcode, -⟩ | ⟨-, -, hfailed⟩, -⟩
      · exact absurd hcode (by decide)
      · exact absurd hcode (by decide)
      · exact iff_of_false Bool.false_ne_true hfailed
    · intro hiff
      have hfailed : ¬Succeeded w args a backend := fun hs => Bool.false_ne_true (hiff.2 hs)
      refine ⟨1, _, rfl, .inr (.inr ⟨rfl, not_refused h, hfailed⟩), iff_of_false ?_ (by decide)⟩
      exact Bool.eq_false_iff.1 hsuccess

/-- For a call of the sandbox, the exit code is right exactly if a gate refuses the task, or the
    call returns and, if it is of Podman, the task has not succeeded. -/
theorem report_iff (a : DeployArgs) (backend : Backend) :
    (∃ code output, report backend (runSandbox w args a backend) = .ok (code, some output) ∧
      CodeFor w args a backend code ∧ (output.ok = true ↔ code = 0)) ↔
      Refused w args a backend ∨ (∃ r, runSandbox w args a backend = .ok r) ∧
        (backend = .podman → ¬Succeeded w args a backend) := by
  cases hrun : runSandbox w args a backend with
  | error err =>
    rw [← hrun, report_error_iff hrun, hrun, or_iff_left]
    rintro ⟨⟨r, hr⟩, -⟩
    cases hr
  | ok r =>
    rw [← hrun, report_ok_iff hrun, success_iff hrun, or_iff_right (not_refused hrun),
      and_iff_right ⟨r, hrun⟩]

/-- The exit code is right exactly if no argument is malformed, a backend is chosen, and one of
    its gates refuses the task, or its call returns and, if it is Podman, the task has not
    succeeded. -/
theorem exit_code_iff (w : World F) (args : Args) (payload : String) :
    MeetsContract w args payload ↔ ¬Malformed w args ∧ ∃ a backend,
      Calls w args payload a backend ∧ (Refused w args a backend ∨
        (∃ r, runSandbox w args a backend = .ok r) ∧
          (backend = .podman → ¬Succeeded w args a backend)) := by
  have hmain : main { w with payload := .ok payload } args = mainWith w args payload := rfl
  rw [MeetsContract, hmain, mainWith]
  cases hrules : args.egress.mapM (egressRule w) with
  | error err => exact iff_of_false nofun fun h => h.1 (malformed_iff.2 ⟨err, hrules⟩)
  | ok rules =>
    have hargs : ¬Malformed w args := fun h => by
      obtain ⟨err, herr⟩ := malformed_iff.1 h
      exact nomatch hrules.symm.trans herr
    rw [and_iff_right hargs]
    cases hbackend : chosenBackend w args with
    | error err =>
      refine iff_of_false nofun ?_
      rintro ⟨_, _, ⟨_, _, hok, _⟩, _⟩
      exact nomatch hbackend.symm.trans hok
    | ok backend =>
      have hcalls (a' : DeployArgs) (backend' : Backend) :
          Calls w args payload a' backend' ↔
            a' = deployArgs args payload rules ∧ backend' = backend := by
        constructor
        · rintro ⟨rules', hrules', hbackend', rfl⟩
          cases hrules.symm.trans hrules'
          cases hbackend.symm.trans hbackend'
          exact ⟨rfl, rfl⟩
        · rintro ⟨rfl, rfl⟩
          exact ⟨rules, hrules, hbackend, rfl⟩
      simp only [hcalls, expectedCode_iff hargs hcalls, and_assoc, exists_and_left,
        exists_eq_left]
      exact report_iff (deployArgs args payload rules) backend

namespace Sample

open VibeShield.Sample

/-- The workload exits with zero and writes a harmless text. -/
def quietWorld : World ℚ where
  host := deployHost
  after := { leak with outcome := .completed 0 "done" "" }
  payload := .ok "encrypted"
  int _ := valueError "invalid literal for int() with base 10"

def podmanArgs : Args := { taskId := "task-1", backend := some .podman }

theorem quiet_succeeded :
    Succeeded quietWorld podmanArgs (SandboxTask.deployArgs podmanArgs "encrypted" []) .podman := by
  have hstarts : (match starts quietWorld podmanArgs
      (SandboxTask.deployArgs podmanArgs "encrypted" []) .podman with
    | .ok _ => true
    | .error _ => false) = true := by decide +kernel
  have hscan : (scanOutput quietWorld.host quietWorld.after true "done").toOption.map
      Option.isSome = some false := by decide +kernel
  refine ⟨?_, "done", "", rfl, ?_⟩
  · split at hstarts
    · assumption
    · cases hstarts
  · rintro ⟨exfil, hexfil⟩
    change scanOutput quietWorld.host quietWorld.after true "done" = _ at hexfil
    rw [hexfil] at hscan
    cases hscan

/-- The task succeeds, and the exit code is 1. -/
theorem podman_success_failed : ¬MeetsContract quietWorld podmanArgs "encrypted" := by
  have hmain : (main quietWorld podmanArgs).toOption.map Prod.fst = some 1 := by decide +kernel
  rintro ⟨code, output, hcode, hexpected, -⟩
  change main quietWorld podmanArgs = _ at hcode
  rw [hcode] at hmain
  have hone : code = 1 := Option.some.inj hmain
  -- Only the last case has the code 1.
  cases hexpected with
  | malformed h => exact absurd hone (by decide)
  | refused ha h => exact absurd hone (by decide)
  | succeeded ha h => exact absurd hone (by decide)
  | otherwise hargs h => exact (h _ _ ⟨[], rfl, rfl, rfl⟩).2 quiet_succeeded

end Sample

end VibeShield.SandboxTask
