import VibeShield.Layer1.Refusals

/-!
# Egress rules of the Podman sandbox

With egress rules, `deploy_agent` has `_apply_egress_rules` put the restricted network into the
command in place of the configured one, and record that it did (`EgressApplied`). This is done
for no command: the method raises when it comes to recording, as only `deploy_agent` imports
`AuditCategory`, and for itself (`applyEgressRulesWith_recordRules`).

Nor would it be done if the event were recorded. The network is an option followed by its value,
of which the method takes out the option alone. What podman reads then is not what is meant
(`not_appliesRules`): the value that is left over is taken for the image to run, or for an option.
-/

namespace VibeShield

namespace VibeShieldSandbox

/-! ## How podman reads a command -/

/-- The options of the command that have no value. -/
def bareOptions : List String := ["--rm", "--read-only"]

/-- The options with their values, up to the first element that is neither, and what follows. -/
def readOptions : List String → List (String × Option String) × List String
  | [] => ([], [])
  | [c] => if startsWith c "--" then ([(c, none)], []) else ([], [c])
  | c :: v :: cs =>
    if c ∈ bareOptions then
      let (options, positional) := readOptions (v :: cs)
      ((c, none) :: options, positional)
    else if startsWith c "--" then
      let (options, positional) := readOptions cs
      ((c, some v) :: options, positional)
    else ([], c :: v :: cs)

/-- The options after `podman run`. -/
def optionsOf (cmd : List String) : List (String × Option String) := (readOptions (cmd.drop 2)).1

/-- What the options are followed by. -/
def positionalOf (cmd : List String) : List String := (readOptions (cmd.drop 2)).2

/-- The second command is the first one, with the restricted network. -/
structure AppliesRules (cmd cmd' : List String) : Prop where
  once : cmd'.count "--network" = 1
  network : ["--network", "vibeshield-restricted"] <:+: cmd'
  /-- Every other option has its value. -/
  others : (optionsOf cmd').filter (fun o => o.1 ≠ "--network") =
    (optionsOf cmd).filter fun o => o.1 ≠ "--network"
  /-- Nothing is left over. -/
  positional : positionalOf cmd' = []

/-! ## Applying the rules -/

/-- Taking the network options out of the command, and putting in the restricted network. -/
def restrictNetwork (cmd : List String) : List String :=
  (cmd.filter fun c => !startsWith c "--network") ++ ["--network", "vibeshield-restricted"]

/-- Recording that the rules are applied. The name `AuditCategory` is evaluated after the method
    `record`. -/
def recordRules (_rules : List EgressRule) : EStateM PyErr SandboxStatus Unit := fun s =>
  match s.auditLog with
  | none => .error ⟨.attributeError, "'NoneType' object has no attribute 'record'"⟩ s
  | some _ => .error ⟨.otherException "NameError", "name 'AuditCategory' is not defined"⟩ s

variable (host : Host)

/-- `_apply_egress_rules`; `record` is how it records that the rules are applied. -/
def applyEgressRulesWith (record : List EgressRule → EStateM PyErr SandboxStatus Unit)
    (cmd : List String) (rules : List EgressRule) :
    EStateM PyErr SandboxStatus (List String) := do
  let returncode ← MonadExcept.ofExcept host.networkInspect
  if returncode ≠ 0 then MonadExcept.ofExcept host.networkCreate
  record rules
  return restrictNetwork cmd

/-- The rules are applied to a command, and this is recorded. -/
def EgressApplied (record : List EgressRule → EStateM PyErr SandboxStatus Unit)
    (cmd : List String) (rules : List EgressRule) (s : SandboxStatus) : Prop :=
  ∃ cmd' s' log log' entry, applyEgressRulesWith host record cmd rules s = .ok cmd' s' ∧
    AppliesRules cmd cmd' ∧ s.auditLog = some log ∧ s'.auditLog = some log' ∧
    log'.entries = log.entries ++ [entry] ∧ entry.event = .str "sandbox.egress_rules_applied"

/-- This is the method that `deploy_agent` calls after it has opened the audit log. -/
theorem applyEgressRulesWith_recordRules (cmd : List String) (rules : List EgressRule)
    {s : SandboxStatus} (hs : s.auditLog ≠ none) :
    applyEgressRulesWith host recordRules cmd rules s =
      (MonadExcept.ofExcept (applyEgressRules host) : EStateM PyErr SandboxStatus _) s := by
  obtain ⟨state, log⟩ := s
  cases log with
  | none => exact absurd rfl hs
  | some log =>
    rw [applyEgressRulesWith, applyEgressRules]
    cases host.networkInspect with
    | error err => rfl
    | ok returncode =>
      change (if returncode ≠ 0 then _ else _ : EStateM PyErr SandboxStatus _) _ =
        (MonadExcept.ofExcept (if returncode ≠ 0 then _ else _) : EStateM PyErr SandboxStatus _) _
      by_cases hcode : returncode ≠ 0
      · rw [if_pos hcode, if_pos hcode]
        cases host.networkCreate with
        | error err => rfl
        | ok _ => rfl
      · rw [if_neg hcode, if_neg hcode]
        rfl

/-- It never returns. -/
theorem ensures_applyEgressRulesWith (cmd : List String) (rules : List EgressRule) :
    Ensures (applyEgressRulesWith host recordRules cmd rules) fun _ => False := by
  have hrecord : Ensures (recordRules rules) fun _ => False := by
    rintro ⟨state, log⟩ _ _ h
    cases log with
    | none => cases h
    | some log => cases h
  have hrest : Ensures (do recordRules rules; pure (restrictNetwork cmd)) fun _ => False :=
    hrecord.bind fun _ h => h.elim
  exact Ensures.any.bind fun _ _ => .ite (fun _ => Ensures.any.bind fun _ _ => hrest) fun _ => hrest

/-! ## What is left over -/

theorem readOptions_bare {c : String} (hc : c ∈ bareOptions) (v : String) (cs : List String) :
    readOptions (c :: v :: cs) =
      ((c, none) :: (readOptions (v :: cs)).1, (readOptions (v :: cs)).2) := by
  rw [readOptions, if_pos hc]

theorem readOptions_value {c : String} (hc : c ∉ bareOptions) (hdash : startsWith c "--" = true)
    (v : String) (cs : List String) :
    readOptions (c :: v :: cs) = ((c, some v) :: (readOptions cs).1, (readOptions cs).2) := by
  rw [readOptions, if_neg hc, if_pos hdash]

theorem readOptions_positional {c : String} (hc : c ∉ bareOptions)
    (hdash : ¬startsWith c "--" = true) (v : String) (cs : List String) :
    readOptions (c :: v :: cs) = ([], c :: v :: cs) := by
  rw [readOptions, if_neg hc, if_neg hdash]

/-- The value of `--cap-drop`. -/
def capDrop (sb : VibeShieldSandbox) : String := if sb.config.capDropAll then "ALL" else ""

theorem capDrop_plain (sb : VibeShieldSandbox) : sb.capDrop ∉ bareOptions ∧
    ¬startsWith sb.capDrop "--" = true ∧ startsWith sb.capDrop "--network" = false := by
  rw [capDrop]
  split <;> decide

/-- What podman reads of the command that was built. -/
theorem optionsOf_runOptions (sb : VibeShieldSandbox) (path : String) :
    ∃ options, optionsOf (sb.runOptions path) = ("--rm", none) :: ("--name", sb.containerName) ::
      ("--network", sb.config.networkMode) :: ("--cap-drop", sb.capDrop) :: options := by
  refine ⟨(readOptions ((sb.runOptions path).drop 9)).1, ?_⟩
  rw [optionsOf, runOptions, List.drop_succ_cons, List.drop_succ_cons, List.drop_zero,
    readOptions_bare (by decide), readOptions_value (by decide) (by decide),
    readOptions_value (by decide) (by decide), readOptions_value (by decide) (by decide)]
  rfl

/-- The command without the option, as far as the value of the option may matter. -/
theorem restrictNetwork_runOptions {sb : VibeShieldSandbox} (path : String)
    (hmode : ¬startsWith sb.config.networkMode "--network" = true) :
    ∃ rest, restrictNetwork (sb.runOptions path) = "podman" :: "run" :: "--rm" :: "--name" ::
      ((if startsWith sb.containerName "--network" then [] else [sb.containerName]) ++
        sb.config.networkMode :: "--cap-drop" :: sb.capDrop :: "--security-opt" :: rest) := by
  have hcap : (!startsWith sb.capDrop "--network") = true := by rw [sb.capDrop_plain.2.2]; rfl
  refine ⟨((sb.runOptions path).drop 10).filter (fun c => !startsWith c "--network") ++
    ["--network", "vibeshield-restricted"], ?_⟩
  have hrest : ("--network" :: sb.config.networkMode :: "--cap-drop" :: sb.capDrop ::
      "--security-opt" :: (sb.runOptions path).drop 10).filter
        (fun c => !startsWith c "--network") = sb.config.networkMode :: "--cap-drop" ::
          sb.capDrop :: "--security-opt" ::
            ((sb.runOptions path).drop 10).filter fun c => !startsWith c "--network" := by
    rw [List.filter_cons_of_neg (by decide), List.filter_cons_of_pos (by simpa using hmode),
      List.filter_cons_of_pos (by decide), List.filter_cons_of_pos (by exact hcap),
      List.filter_cons_of_pos (by decide)]
  change ("podman" :: "run" :: "--rm" :: "--name" :: sb.containerName :: "--network" ::
    sb.config.networkMode :: "--cap-drop" :: sb.capDrop :: "--security-opt" ::
      (sb.runOptions path).drop 10).filter _ ++ _ = _
  rw [List.filter_cons_of_pos (by decide), List.filter_cons_of_pos (by decide),
    List.filter_cons_of_pos (by decide), List.filter_cons_of_pos (by decide), List.filter_cons,
    hrest]
  by_cases hname : startsWith sb.containerName "--network" = true
  · rw [if_pos hname, if_neg (by rw [hname]; decide)]
    rfl
  · rw [if_neg hname, if_pos (by simpa using hname)]
    rfl

/-- The network of the configuration is left over, unless it is taken out for looking like a
    network option. So the rules would not be applied either if this could be recorded. -/
theorem not_appliesRules (sb : VibeShieldSandbox) (path : String)
    (hmode : ¬startsWith sb.config.networkMode "--network" = true) :
    ¬AppliesRules (sb.runOptions path) (restrictNetwork (sb.runOptions path)) := by
  rintro ⟨-, -, hothers, hpositional⟩
  obtain ⟨options, hoptions⟩ := sb.optionsOf_runOptions path
  obtain ⟨rest, hcommand⟩ := restrictNetwork_runOptions path hmode
  obtain ⟨hbare, hdash, -⟩ := sb.capDrop_plain
  rw [hoptions, hcommand, optionsOf, List.drop_succ_cons, List.drop_succ_cons, List.drop_zero,
    readOptions_bare (by decide), List.filter_cons_of_pos (by simp),
    List.filter_cons_of_pos (by simp), List.filter_cons_of_pos (by simp),
    List.filter_cons_of_neg (by simp), List.filter_cons_of_pos (by simp)] at hothers
  rw [hcommand, positionalOf, List.drop_succ_cons, List.drop_succ_cons, List.drop_zero,
    readOptions_bare (by decide)] at hpositional
  replace hothers := (List.cons.inj hothers).2
  by_cases hname : startsWith sb.containerName "--network" = true
  · -- The name is taken out as well, and the network is read as the name.
    rw [if_pos hname, List.nil_append, readOptions_value (by decide) (by decide),
      List.filter_cons_of_pos (by simp)] at hothers
    have hsame : sb.config.networkMode = sb.containerName :=
      Option.some.inj (Prod.mk.inj (List.cons.inj hothers).1).2
    exact hmode (hsame ▸ hname)
  · rw [if_neg hname, List.singleton_append, readOptions_value (by decide) (by decide)]
      at hothers hpositional
    rw [List.filter_cons_of_pos (by simp)] at hothers
    replace hothers := (List.cons.inj hothers).2
    by_cases hmodeBare : sb.config.networkMode ∈ bareOptions
    · -- The network is read as an option without a value.
      have hne : sb.config.networkMode ≠ "--network" := fun h => absurd (h ▸ hmodeBare) (by decide)
      rw [readOptions_bare hmodeBare, List.filter_cons_of_pos (by simpa using hne)] at hothers
      cases (Prod.mk.inj (List.cons.inj hothers).1).2
    by_cases hmodeDash : startsWith sb.config.networkMode "--" = true
    · -- It is read as an option with the next option for its value.
      rw [readOptions_value hmodeBare hmodeDash, readOptions_positional hbare hdash] at hpositional
      cases hpositional
    · -- It is read as the image.
      rw [readOptions_positional hmodeBare hmodeDash] at hpositional
      cases hpositional

end VibeShieldSandbox

open VibeShieldSandbox

/-- The egress rules are applied to no command, in no state of the sandbox. -/
theorem egress_rules_never_applied (host : Host) (sb : VibeShieldSandbox) (path : String)
    (rules : List VibeShieldSandbox.EgressRule) (s : SandboxStatus) :
    ¬EgressApplied host recordRules (sb.runOptions path) rules s := by
  rintro ⟨cmd', s', _, _, _, hreturned, -⟩
  exact ensures_applyEgressRulesWith host _ rules s cmd' s' hreturned

namespace Sample

/-- A rule for a task that is otherwise accepted, in a sandbox with the default configuration. -/
def apiRule : VibeShieldSandbox.EgressRule where
  protocol := "tcp"
  host := "api.example.com"
  port := 443

/-- The audit log is open, as in `deploy_agent`. -/
def openStatus : SandboxStatus := ⟨.pending, some (.new "/var/lib/vibeshield/audit" false)⟩

/-- The command that `deploy_agent` has built. -/
def apiCommand : List String :=
  (VibeShieldSandbox.new deployHost "task-1" none).runOptions "/tmp/seccomp.json"

theorem rule_not_applied :
    applyEgressRulesWith deployHost recordRules apiCommand [apiRule] openStatus =
      .error ⟨.otherException "NameError", "name 'AuditCategory' is not defined"⟩ openStatus ∧
    ¬EgressApplied deployHost recordRules apiCommand [apiRule] openStatus := by
  have hraises : applyEgressRulesWith deployHost recordRules apiCommand [apiRule] openStatus =
      .error ⟨.otherException "NameError", "name 'AuditCategory' is not defined"⟩ openStatus := rfl
  refine ⟨hraises, ?_⟩
  rintro ⟨cmd', s', _, _, _, hreturned, -⟩
  cases hraises.symm.trans hreturned

end Sample

end VibeShield
