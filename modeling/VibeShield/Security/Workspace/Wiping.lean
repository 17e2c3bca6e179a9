import Mathlib.Data.List.Induction
import VibeShield.Security.Workspace.Model

/-!
# What wiping achieves

A wiped workspace should have been overwritten before its directory was removed, and nothing
should be left at its path (`Erased`). The manager overwrites only what it has mounted, and
it takes a workspace for wiped whatever the system calls have achieved.

`wipe_erases_iff` says exactly when a workspace is erased: it has been mounted (or no pass
is asked for), and its directory is `Gone`. Of a workspace without a tmpfs nothing is
overwritten (`Sample.unprivileged_not_overwritten`).
-/

namespace VibeShield

/-- The workspace at the path is erased: all passes were before the directory was removed,
    and nothing is mounted or left. -/
def Erased (config : WorkspaceConfig) (path : String) (s : WipeState) : Prop :=
  config.wipePasses ≤ (s.effects.takeWhile (· ≠ .rmtree path)).count (.overwrite path) ∧
    s.path.mounts = 0 ∧ s.path.present = false

/-! ## Conditions -/

namespace WipeOutcomes

variable (o : WipeOutcomes)

/-- The directory is seen as mounted, and unmounted as such. -/
def UnmountsThen : Prop := o.ismount.toOption = some true ∧ o.isRootThen = true

instance : Decidable o.UnmountsThen := inferInstanceAs (Decidable (_ ∧ _))

/-- The manager gets as far as removing the directory. -/
def Undisturbed : Prop :=
  o.ismount.toOption.isSome = true ∧ (o.UnmountsThen → o.umountThen.exits = true)

/-- How many file systems the first `umount` detaches, for a workspace in the state. -/
def detached (state : WorkspaceState) : ℕ :=
  if state = .mounted ∧ o.isRoot = true ∧ o.umount.takesEffect = true then 1 else 0

/-- How many the second one detaches. -/
def detachedThen : ℕ := if o.UnmountsThen ∧ o.umountThen.takesEffect = true then 1 else 0

/-- Nothing is left of the directory: there was nothing, or all that was mounted is detached
    and `rmtree` removes the rest. -/
def Gone (state : WorkspaceState) (p : PathState) : Prop :=
  p.present = false ∨
    o.Undisturbed ∧ p.mounts ≤ o.detached state + o.detachedThen ∧ o.rmtree.1 = true

end WipeOutcomes

/-! ## The path -/

namespace PathState

theorem mounts_eq_zero {p : PathState} (h : p.present = false) : p.mounts = 0 := by
  by_contra hmounts
  exact absurd (p.present_of_mounted (Nat.pos_of_ne_zero hmounts)) (by simp [h])

theorem present_remove (p : PathState) :
    p.remove.present = false ↔ p.present = false ∨ p.mounts = 0 := by
  rw [remove]
  split
  · next h => exact iff_of_true rfl (.inr h)
  · next h => rw [or_iff_left h]

end PathState

namespace WorkspaceManager

variable (o : WipeOutcomes) (path : String) (s : WipeState)

theorem endState_runUmount (outcome : MountOutcome) :
    endState (runUmount outcome path s) =
      { s with
        path := if outcome.takesEffect then s.path.umount else s.path
        effects := s.effects ++ [.umount path] } := by
  cases outcome <;> rfl

theorem runUmount_of_exits {outcome : MountOutcome} (h : outcome.exits = true) :
    runUmount outcome path s = .ok () (endState (runUmount outcome path s)) := by
  cases outcome with
  | exit returncode => rfl
  | timedOut effective => cases h
  | raised err effective => cases h

theorem runUmount_of_not_exits {outcome : MountOutcome} (h : outcome.exits = false) :
    ∃ err, runUmount outcome path s = .error err (endState (runUmount outcome path s)) := by
  cases outcome with
  | exit returncode => cases h
  | timedOut effective => exact ⟨_, rfl⟩
  | raised err effective => exact ⟨_, rfl⟩

theorem endState_catchIf {p : PyErr → Prop} [DecidablePred p] (x : WipeM Unit) :
    endState (tryCatch x (fun err => if p err then return else throw err) s) =
      endState (x s) := by
  refine endState_tryCatch (fun err s' => ?_) s
  by_cases herr : p err
  · rw [if_pos herr]
    rfl
  · rw [if_neg herr]
    rfl

theorem path_removeTree :
    (endState (removeTree o path s)).path = if o.rmtree.1 then s.path.remove else s.path := by
  have hremove : doEffect (.rmtree path) (fun p => if o.rmtree.1 then p.remove else p) s =
      .ok () { s with
        path := if o.rmtree.1 then s.path.remove else s.path
        effects := s.effects ++ [.rmtree path] } := rfl
  rw [removeTree, bind_of_ok hremove]
  cases o.rmtree.2 with
  | some err => rfl
  | none =>
    change (endState (tryCatch (raiseSome o.rmdir)
      (fun err => if err.cls = .osError then return else throw err) _)).path = _
    rw [endState_catchIf]
    cases o.rmdir <;> rfl

theorem present_removeTree :
    (endState (removeTree o path s)).path.present = false ↔
      s.path.present = false ∨ s.path.mounts = 0 ∧ o.rmtree.1 = true := by
  rw [path_removeTree]
  cases o.rmtree.1 with
  | true => simp [PathState.present_remove]
  | false => simp

/-- What the second `umount` leaves, if it is run. -/
theorem mounts_umountThen (h : o.UnmountsThen) :
    (endState (runUmount o.umountThen path s)).path.mounts = s.path.mounts - o.detachedThen := by
  rw [endState_runUmount, WipeOutcomes.detachedThen]
  cases o.umountThen.takesEffect with
  | true => simp [h, PathState.umount]
  | false => simp

theorem present_runUmount (outcome : MountOutcome) :
    (endState (runUmount outcome path s)).path.present = s.path.present := by
  rw [endState_runUmount]
  cases outcome.takesEffect <;> rfl

/-- When nothing is left after removing the directory. -/
theorem present_removeDirectory :
    (endState (removeDirectory o path s)).path.present = false ↔
      s.path.present = false ∨
        o.Undisturbed ∧ s.path.mounts ≤ o.detachedThen ∧ o.rmtree.1 = true := by
  rw [removeDirectory]
  cases hismount : o.ismount with
  | error err =>
    have hnot : ¬o.Undisturbed := by simp [WipeOutcomes.Undisturbed, hismount, Except.toOption]
    rw [or_iff_left fun h => hnot h.1]
    rfl
  | ok mounted =>
    have hseen : o.ismount.toOption = some mounted := by rw [hismount]; rfl
    have hthen : o.UnmountsThen ↔ mounted = true ∧ o.isRootThen = true := by
      rw [WipeOutcomes.UnmountsThen, hseen, Option.some.injEq]
    have hundisturbed : o.Undisturbed ↔ (o.UnmountsThen → o.umountThen.exits = true) := by
      rw [WipeOutcomes.Undisturbed, hseen]
      exact and_iff_right rfl
    have hok : (MonadExcept.ofExcept (.ok mounted) : WipeM Bool) s = .ok mounted s := rfl
    rw [bind_of_ok hok]
    by_cases hunmounts : mounted = true ∧ o.isRootThen = true
    · rw [if_pos hunmounts]
      cases hexits : o.umountThen.exits with
      | true =>
        rw [bind_of_ok (runUmount_of_exits path s hexits), present_removeTree,
          present_runUmount, mounts_umountThen o path s (hthen.2 hunmounts), Nat.sub_eq_zero_iff_le,
          and_iff_right (hundisturbed.2 fun _ => hexits)]
      | false =>
        have hnot : ¬o.Undisturbed := fun h =>
          absurd (hundisturbed.1 h (hthen.2 hunmounts)) (by simp [hexits])
        obtain ⟨err, herr⟩ := runUmount_of_not_exits path s hexits
        rw [bind_of_error herr, or_iff_left fun h => hnot h.1]
        exact (congrArg (· = false) (present_runUmount path s _)).to_iff
    · have hnot : ¬o.UnmountsThen := fun h => hunmounts (hthen.1 h)
      rw [if_neg hunmounts]
      change (endState (removeTree o path s)).path.present = false ↔ _
      rw [present_removeTree, and_iff_right (hundisturbed.2 fun h => absurd h hnot),
        WipeOutcomes.detachedThen, if_neg fun h => hnot h.1, Nat.le_zero]

/-! ## Effects -/

variable {o path s} {s' : WipeState}

/-- The passes do nothing but overwrite. -/
theorem overwritePasses_ok {i n : ℕ} (h : overwritePasses o path i n s = .ok () s') :
    s' = { s with effects := s.effects ++ List.replicate n (.overwrite path) } := by
  induction n generalizing i s with
  | zero =>
    cases h
    simp
  | succ n ih =>
    obtain ⟨_, s₁, hpass, h⟩ := exists_of_bind_eq_ok h
    cases hpass
    obtain ⟨_, s₂, hraise, h⟩ := exists_of_bind_eq_ok h
    cases hoverwrite : o.overwrite i with
    | some err =>
      rw [hoverwrite] at hraise
      cases hraise
    | none =>
      rw [hoverwrite] at hraise
      cases hraise
      rw [ih h, List.replicate_succ]
      simp

/-- What is mounted is overwritten first. -/
theorem wipeMounted_ok {passes : ℕ} (h : wipeMounted o path passes s = .ok () s') :
    s'.path.present = s.path.present ∧ s'.path.mounts = s.path.mounts - o.detached .mounted ∧
      ∃ rest, s'.effects = s.effects ++ (List.replicate passes (.overwrite path) ++ rest) := by
  obtain ⟨_, s₁, hpasses, h⟩ := exists_of_bind_eq_ok h
  obtain rfl := overwritePasses_ok hpasses
  cases hroot : o.isRoot with
  | false =>
    rw [hroot] at h
    cases h
    exact ⟨rfl, by simp [WipeOutcomes.detached, hroot], [], by simp⟩
  | true =>
    rw [hroot, if_pos rfl] at h
    have hend := congrArg endState h
    rw [endState_catchIf] at hend
    change _ = s' at hend
    subst hend
    refine ⟨present_runUmount path _ _, ?_, [.umount path], ?_⟩
    · rw [endState_runUmount, WipeOutcomes.detached]
      cases o.umount.takesEffect with
      | true => simp [hroot, PathState.umount]
      | false => simp
    · rw [endState_runUmount]
      simp

theorem appends_doEffect {effect : WorkspaceEffect} (h : effect ≠ .overwrite path)
    (change : PathState → PathState) :
    Appends WipeState.effects (· ≠ .overwrite path) (doEffect effect change) :=
  fun _ => ⟨[effect], rfl, List.forall_mem_singleton.2 h⟩

theorem endState_raiseSome (err : Option PyErr) : endState (raiseSome err s) = s := by
  cases err <;> rfl

theorem appends_raiseSome (err : Option PyErr) :
    Appends WipeState.effects (· ≠ .overwrite path) (raiseSome err) :=
  .of_eq fun _ => congrArg WipeState.effects (endState_raiseSome err)

theorem appends_removeTree :
    Appends WipeState.effects (· ≠ .overwrite path) (removeTree o path) := by
  have hrmtree : WorkspaceEffect.rmtree path ≠ .overwrite path := nofun
  have hrmdir : WorkspaceEffect.rmdir (pathDirname path) ≠ .overwrite path := nofun
  refine (appends_doEffect hrmtree _).bind fun _ => ?_
  refine (appends_raiseSome o.rmtree.2).bind fun _ => ?_
  refine (appends_doEffect hrmdir _).bind fun _ => .of_eq fun s => ?_
  rw [endState_catchIf, endState_raiseSome]

/-- Removing the directory overwrites nothing. -/
theorem appends_removeDirectory :
    Appends WipeState.effects (· ≠ .overwrite path) (removeDirectory o path) := by
  refine (Appends.ofExcept o.ismount).bind fun mounted => ?_
  dsimp only
  split
  · have humount : Appends WipeState.effects (· ≠ .overwrite path)
        (runUmount o.umountThen path) := by
      intro s
      rw [endState_runUmount]
      exact ⟨[.umount path], rfl, List.forall_mem_singleton.2 nofun⟩
    exact humount.bind fun _ => appends_removeTree
  · exact appends_removeTree

/-- Passes that come first are before the removal. -/
theorem le_count_takeWhile (passes : ℤ) (rest : List WorkspaceEffect) :
    passes ≤ ((List.replicate passes.toNat (WorkspaceEffect.overwrite path) ++ rest).takeWhile
      (· ≠ .rmtree path)).count (.overwrite path) := by
  rw [List.takeWhile_append_of_pos, List.count_append, List.count_replicate_self]
  · omega
  · intro effect heffect
    rw [List.eq_of_mem_replicate heffect]
    rfl

theorem count_takeWhile_eq_zero {effects : List WorkspaceEffect}
    (h : ∀ effect ∈ effects, effect ≠ .overwrite path) :
    (effects.takeWhile (· ≠ .rmtree path)).count (.overwrite path) = 0 :=
  List.count_eq_zero.2 fun hmem => h _ (List.takeWhile_sublist _ |>.subset hmem) rfl

/-! ## The manager -/

theorem preserves_raiseSome (err : Option PyErr) : Preserves WipeState.manager (raiseSome err) :=
  fun _ => congrArg WipeState.manager (endState_raiseSome err)

theorem preserves_runUmount (outcome : MountOutcome) :
    Preserves WipeState.manager (runUmount outcome path) := by
  intro s
  rw [endState_runUmount]

theorem preserves_doEffect (effect : WorkspaceEffect) (change : PathState → PathState) :
    Preserves WipeState.manager (doEffect effect change) := fun _ => rfl

theorem preserves_overwritePasses (i n : ℕ) :
    Preserves WipeState.manager (overwritePasses o path i n) := by
  induction n generalizing i with
  | zero => exact .pure ()
  | succ n ih =>
    exact (preserves_doEffect _ _).bind fun _ => (preserves_raiseSome _).bind fun _ => ih _

theorem preserves_wipeMounted (passes : ℕ) :
    Preserves WipeState.manager (wipeMounted o path passes) := by
  refine (preserves_overwritePasses 0 passes).bind fun _ => ?_
  split
  · intro s
    rw [endState_catchIf]
    exact preserves_runUmount o.umount s
  · exact .pure ()

theorem preserves_removeTree : Preserves WipeState.manager (removeTree o path) := by
  refine (preserves_doEffect _ _).bind fun _ => (preserves_raiseSome _).bind fun _ => ?_
  refine (preserves_doEffect _ _).bind fun _ s => ?_
  rw [endState_catchIf, endState_raiseSome]

theorem preserves_removeDirectory : Preserves WipeState.manager (removeDirectory o path) := by
  refine (Preserves.ofExcept o.ismount).bind fun mounted => ?_
  dsimp only
  split
  · exact (preserves_runUmount _).bind fun _ => preserves_removeTree
  · exact preserves_removeTree

/-- If the last steps return, the directory has been removed as far as possible. -/
theorem finishWipe_ok {workspaceId : String} {workspace : Workspace} {b : Bool}
    (h : finishWipe o workspaceId workspace s = .ok b s') :
    s'.path = (endState (removeDirectory o workspace.mountPath s)).path ∧
      s'.effects = (endState (removeDirectory o workspace.mountPath s)).effects := by
  obtain ⟨_, s₁, hremove, h⟩ := exists_of_bind_eq_ok h
  have hend := congrArg endState hremove
  rw [endState_catchIf] at hend
  rw [hend]
  cases h
  exact ⟨rfl, rfl⟩

/-- The last steps mark the workspace, unless an exception ends them. -/
theorem manager_finishWipe (o : WipeOutcomes) (workspaceId : String) (workspace : Workspace)
    (s : WipeState) :
    (endState (finishWipe o workspaceId workspace s)).manager = s.manager ∨
      (endState (finishWipe o workspaceId workspace s)).manager =
        markWiped s.manager workspaceId workspace o.now := by
  have hcatch : (endState (tryCatch (removeDirectory o workspace.mountPath)
      (fun err => if err.isException then return else throw err) s)).manager = s.manager := by
    rw [endState_catchIf]
    exact preserves_removeDirectory s
  rw [finishWipe]
  cases hrun : tryCatch (removeDirectory o workspace.mountPath)
      (fun err => if err.isException then return else throw err) s with
  | error err s₁ =>
    rw [hrun] at hcatch
    rw [bind_of_error hrun]
    exact .inl hcatch
  | ok _ s₁ =>
    rw [hrun] at hcatch
    rw [bind_of_ok hrun]
    exact .inr (congrArg (markWiped · workspaceId workspace o.now) hcatch)

/-- What a call of `wipe` does to the manager: nothing, or it marks the workspace. -/
theorem manager_wipe (o : WipeOutcomes) (workspaceId : String) (s : WipeState) :
    (endState (wipe o workspaceId s)).manager = s.manager ∨
      ∃ workspace, s.manager.workspaces.get? workspaceId = some workspace ∧
        (endState (wipe o workspaceId s)).manager =
          markWiped s.manager workspaceId workspace o.now := by
  have hget : (get : WipeM WipeState) s = .ok s s := rfl
  rw [wipe, bind_of_ok hget]
  cases hworkspace : s.manager.workspaces.get? workspaceId with
  | none => exact .inl rfl
  | some workspace =>
    dsimp only
    by_cases hmounted : workspace.state = .mounted
    · rw [if_pos hmounted]
      have hwipe : (endState (wipeMounted o workspace.mountPath
          s.manager.config.wipePasses.toNat s)).manager = s.manager := preserves_wipeMounted _ s
      cases hrun : wipeMounted o workspace.mountPath s.manager.config.wipePasses.toNat s with
      | error err s₁ =>
        rw [hrun] at hwipe
        rw [bind_of_error hrun]
        exact .inl hwipe
      | ok _ s₁ =>
        rw [hrun] at hwipe
        rw [bind_of_ok hrun]
        refine (manager_finishWipe o workspaceId workspace s₁).imp (·.trans hwipe) fun h => ?_
        exact ⟨workspace, rfl, h.trans (congrArg (markWiped · workspaceId workspace o.now) hwipe)⟩
    · rw [if_neg hmounted]
      exact (manager_finishWipe o workspaceId workspace s).imp_right fun h => ⟨workspace, rfl, h⟩

end WorkspaceManager

open WorkspaceManager

/-! ## Runs -/

/-- The call mounts a tmpfs. -/
def WorkspaceCreation.Mounts (c : WorkspaceCreation) : Prop :=
  c.isRoot = true ∧ c.mount = .exit 0

/-- The call of `create` has made the workspace that is stored under the identifier, and it has
    been stored since. -/
def Workspace.FromCall (config : WorkspaceConfig) (calls : List WorkspaceCall)
    (workspaceId : String) (workspace : Workspace) (c : WorkspaceCreation) : Prop :=
  newWorkspaceId c = workspaceId ∧ ∃ before after, calls = before ++ .create c :: after ∧
    newWorkspace (WorkspaceCall.execAll config before) c = .ok workspace ∧
    ∀ since, since <+: after →
      (WorkspaceCall.execAll config (before ++ .create c :: since)).workspaces.get? workspaceId =
        some workspace

namespace Workspace.FromCall

variable {config : WorkspaceConfig} {calls : List WorkspaceCall} {workspaceId : String}
  {workspace : Workspace} {c : WorkspaceCreation}

theorem mem (h : workspace.FromCall config calls workspaceId c) : .create c ∈ calls := by
  obtain ⟨-, before, after, rfl, -⟩ := h
  exact List.mem_append_right _ List.mem_cons_self

/-- The call that comes last has made what it has stored. -/
theorem create (hnew : newWorkspace (WorkspaceCall.execAll config calls) c = .ok workspace)
    (hid : newWorkspaceId c = workspaceId)
    (hworkspace : (WorkspaceCall.execAll config (calls ++ [.create c])).workspaces.get?
      workspaceId = some workspace) :
    workspace.FromCall config (calls ++ [.create c]) workspaceId c := by
  refine ⟨hid, calls, [], rfl, hnew, fun since hsince => ?_⟩
  rwa [List.prefix_nil.1 hsince]

/-- What is still stored after another call is from the same one. -/
theorem concat (h : workspace.FromCall config calls workspaceId c) (call : WorkspaceCall)
    (hworkspace : (WorkspaceCall.execAll config (calls ++ [call])).workspaces.get? workspaceId =
      some workspace) :
    workspace.FromCall config (calls ++ [call]) workspaceId c := by
  obtain ⟨hid, before, after, rfl, hnew, hsince⟩ := h
  refine ⟨hid, before, after ++ [call], by simp, hnew, fun since h => ?_⟩
  rcases List.prefix_concat_iff.1 h with rfl | h
  · simpa using hworkspace
  · exact hsince since h

end Workspace.FromCall

theorem mountTmpfs_ok {c : WorkspaceCreation} {state : WorkspaceState}
    (h : mountTmpfs c = .ok state) :
    state = .mounted ∧ c.Mounts ∨ state = .created ∧ ¬c.Mounts := by
  rw [mountTmpfs] at h
  rw [WorkspaceCreation.Mounts]
  cases hroot : c.isRoot with
  | false =>
    rw [hroot] at h
    cases h
    exact .inr ⟨rfl, nofun⟩
  | true =>
    rw [hroot, if_pos rfl] at h
    cases hmount : c.mount with
    | exit returncode =>
      rw [hmount] at h
      cases h
      by_cases hzero : returncode = 0
      · simp [hzero]
      · simp [hzero]
    | timedOut effective =>
      rw [hmount] at h
      cases h
      exact .inr ⟨rfl, nofun⟩
    | raised err effective =>
      rw [hmount] at h
      cases h

theorem newWorkspace_ok {m : WorkspaceManager} {c : WorkspaceCreation} {workspace : Workspace}
    (h : newWorkspace m c = .ok workspace) :
    workspace.workspaceId = newWorkspaceId c ∧
      (workspace.state = .mounted ∧ c.Mounts ∨ workspace.state = .created ∧ ¬c.Mounts) := by
  rw [newWorkspace] at h
  dsimp only at h
  split_ifs at h
  · cases h
  · cases h
  · obtain ⟨_, -, h⟩ := Except.exists_of_bind_eq_ok h
    obtain ⟨state, hmount, h⟩ := Except.exists_of_bind_eq_ok h
    cases h
    exact ⟨rfl, mountTmpfs_ok hmount⟩

/-- No call changes the configuration. -/
theorem config_execAll (config : WorkspaceConfig) (calls : List WorkspaceCall) :
    (WorkspaceCall.execAll config calls).config = config := by
  induction calls using List.reverseRecOn with
  | nil => rfl
  | append_singleton calls call ih =>
    rw [WorkspaceCall.execAll, List.foldl_concat]
    refine Eq.trans ?_ ih
    cases call with
    | create c =>
      rw [WorkspaceCall.exec, create]
      cases newWorkspace _ c <;> rfl
    | wipe workspaceId o path =>
      rw [WorkspaceCall.exec]
      rcases manager_wipe o workspaceId _ with h | ⟨_, -, h⟩
      · rw [h]
        rfl
      · rw [h]
        rfl

/-- After any calls, every workspace that is not wiped is from a call of `create`. -/
theorem fromCall_execAll {config : WorkspaceConfig} {calls : List WorkspaceCall}
    {workspaceId : String} {workspace : Workspace}
    (hworkspace : (WorkspaceCall.execAll config calls).workspaces.get? workspaceId =
      some workspace)
    (hstate : workspace.state ≠ .wiped) :
    ∃ c, workspace.FromCall config calls workspaceId c := by
  induction calls using List.reverseRecOn with
  | nil => cases hworkspace
  | append_singleton calls call ih =>
    -- What is stored after the call was stored before it, or the call is the one that made it.
    have hkept (h : (WorkspaceCall.execAll config calls).workspaces.get? workspaceId =
        some workspace) : ∃ c, workspace.FromCall config (calls ++ [call]) workspaceId c :=
      (ih h).imp fun c hc => hc.concat call hworkspace
    have h := hworkspace
    rw [WorkspaceCall.execAll, List.foldl_concat, ← WorkspaceCall.execAll] at h
    cases call with
    | create c =>
      rw [WorkspaceCall.exec, create] at h
      cases hnew : newWorkspace (WorkspaceCall.execAll config calls) c with
      | error err =>
        rw [hnew] at h
        exact hkept h
      | ok new =>
        rw [hnew] at h
        replace h : ((WorkspaceCall.execAll config calls).workspaces.set new.workspaceId
          new).get? workspaceId = some workspace := h
        rw [PyDict.get?_set] at h
        split at h
        · next heq =>
          obtain rfl := Option.some.inj h
          exact ⟨c, .create hnew ((newWorkspace_ok hnew).1.symm.trans heq.symm) hworkspace⟩
        · exact hkept h
    | wipe wipedId o path =>
      rw [WorkspaceCall.exec] at h
      rcases manager_wipe o wipedId
        { manager := WorkspaceCall.execAll config calls, path := path } with
        hsame | ⟨old, hold, hmark⟩
      · rw [hsame] at h
        exact hkept h
      · rw [hmark, markWiped, PyDict.get?_set] at h
        split at h
        · obtain rfl := Option.some.inj h
          exact absurd rfl hstate
        · exact hkept h

/-! ## Wiping -/

/-- What a successful call has done to a mounted workspace. -/
theorem wipe_mounted {s : WipeState} {o : WipeOutcomes} {workspaceId : String}
    {workspace : Workspace} {s' : WipeState}
    (hworkspace : s.manager.workspaces.get? workspaceId = some workspace)
    (hmounted : workspace.state = .mounted) (hwipe : wipe o workspaceId s = .ok true s') :
    ∃ s₁, wipeMounted o workspace.mountPath s.manager.config.wipePasses.toNat s = .ok () s₁ ∧
      finishWipe o workspaceId workspace s₁ = .ok true s' := by
  have hget : (get : WipeM WipeState) s = .ok s s := rfl
  rw [wipe, bind_of_ok hget, hworkspace] at hwipe
  dsimp only at hwipe
  rw [if_pos hmounted] at hwipe
  obtain ⟨_, s₁, hrun, hfinish⟩ := exists_of_bind_eq_ok hwipe
  exact ⟨s₁, hrun, hfinish⟩

/-- What it has done to another one. -/
theorem wipe_not_mounted {s : WipeState} {o : WipeOutcomes} {workspaceId : String}
    {workspace : Workspace} {s' : WipeState}
    (hworkspace : s.manager.workspaces.get? workspaceId = some workspace)
    (hmounted : workspace.state ≠ .mounted) (hwipe : wipe o workspaceId s = .ok true s') :
    finishWipe o workspaceId workspace s = .ok true s' := by
  have hget : (get : WipeM WipeState) s = .ok s s := rfl
  rw [wipe, bind_of_ok hget, hworkspace] at hwipe
  dsimp only at hwipe
  rwa [if_neg hmounted] at hwipe

/-- What is overwritten is erased exactly if the passes have come first, or there are none. -/
theorem erased_iff {config : WorkspaceConfig} {path : String} {s : WipeState} :
    Erased config path s ↔
      config.wipePasses ≤ (s.effects.takeWhile (· ≠ .rmtree path)).count (.overwrite path) ∧
        s.path.present = false := by
  rw [Erased]
  exact and_congr_right fun _ => and_iff_right_of_imp PathState.mounts_eq_zero

/-- After any calls, if wiping a workspace for the first time succeeds, the workspace is erased
    exactly if the call that made it has mounted a tmpfs (or no pass is asked for), and its
    directory is gone. -/
theorem wipe_erases_iff (config : WorkspaceConfig) (calls : List WorkspaceCall)
    (workspaceId : String) (workspace : Workspace) (o : WipeOutcomes) (p : PathState)
    (s' : WipeState)
    (hworkspace : (WorkspaceCall.execAll config calls).workspaces.get? workspaceId =
      some workspace)
    (hstate : workspace.state ≠ .wiped)
    (hwipe : wipe o workspaceId { manager := WorkspaceCall.execAll config calls, path := p } =
      .ok true s') :
    ∃ c, workspace.FromCall config calls workspaceId c ∧
      (Erased config workspace.mountPath s' ↔
        (c.Mounts ∨ config.wipePasses ≤ 0) ∧ o.Gone workspace.state p) := by
  obtain ⟨c, hcall⟩ := fromCall_execAll hworkspace hstate
  refine ⟨c, hcall, ?_⟩
  obtain ⟨-, before, after, -, hnew, -⟩ := hcall
  rw [erased_iff]
  have hconfig := config_execAll config calls
  rcases (newWorkspace_ok hnew).2 with ⟨hmounted, hmounts⟩ | ⟨hcreated, hmounts⟩
  · obtain ⟨s₁, hrun, hfinish⟩ := wipe_mounted hworkspace hmounted hwipe
    obtain ⟨hpath, heffects⟩ := finishWipe_ok hfinish
    obtain ⟨hpresent, hdetached, rest, hpasses⟩ := wipeMounted_ok hrun
    obtain ⟨rest', hremoval, -⟩ := appends_removeDirectory (o := o) s₁
    rw [heffects, hpath, hremoval, hpasses, hconfig, List.nil_append, List.append_assoc,
      and_iff_right (le_count_takeWhile _ _), and_iff_right (.inl hmounts),
      present_removeDirectory, hpresent, hdetached, WipeOutcomes.Gone, hmounted,
      Nat.sub_le_iff_le_add']
  · have hnot : workspace.state ≠ .mounted := by rw [hcreated]; exact nofun
    obtain ⟨hpath, heffects⟩ := finishWipe_ok (wipe_not_mounted hworkspace hnot hwipe)
    obtain ⟨rest, hremoval, hnone⟩ := appends_removeDirectory (o := o)
      { manager := WorkspaceCall.execAll config calls, path := p }
    rw [heffects, hpath, hremoval, List.nil_append, count_takeWhile_eq_zero hnone,
      present_removeDirectory, or_iff_right hmounts, WipeOutcomes.Gone, WipeOutcomes.detached,
      if_neg fun h => hnot h.1, Nat.zero_add]
    exact Iff.rfl

/-! ## Samples -/

namespace Sample

/-- Creating a workspace for the task `task-1`. -/
def newTask (isRoot : Bool) : WorkspaceCreation where
  taskId := "task-1"
  taskIdRepr := "'task-1'"
  uuidHex := "0123456789abcdef"
  keyHash := "k1"
  makedirs := .ok ()
  isRoot := isRoot
  mount := .exit 0
  now := .fin 1

/-- Every system call succeeds. -/
def smoothWipe (isRoot : Bool) : WipeOutcomes where
  isRoot := isRoot
  umount := .exit 0
  ismount := .ok false
  isRootThen := isRoot
  umountThen := .exit 0
  rmtree := (true, none)
  rmdir := none
  now := .fin 2

/-- A directory, on which `n` file systems are mounted. -/
def directory (n : ℕ) : PathState := ⟨n, true, fun _ => rfl⟩

/-- The new workspace. -/
def taskWorkspace (state : WorkspaceState) : Workspace where
  workspaceId := "ws_task-1_01234567"
  mountPath := "/run/vibeshield/workspaces/ws_task-1_01234567"
  sizeMb := 100
  state := state
  encryptionKeyHash := "k1"
  createdAt := .fin 1

/-- A wipe of it that returns `True`. -/
def taskWipe (isRoot : Bool) : EStateM.Result PyErr WipeState Bool :=
  wipe (smoothWipe isRoot) "ws_task-1_01234567"
    { manager := WorkspaceCall.execAll {} [.create (newTask isRoot)]
      path := directory (if isRoot then 1 else 0) }

/-- A workspace without a tmpfs is wiped without a pass, although all goes well. -/
theorem unprivileged_not_overwritten :
    (WorkspaceCall.execAll {} [.create (newTask false)]).workspaces.get?
        "ws_task-1_01234567" = some (taskWorkspace .created) ∧
    ∃ s', taskWipe false = .ok true s' ∧ ¬Erased {} (taskWorkspace .created).mountPath s' := by
  exact ⟨rfl, _, rfl, fun h => absurd h.1 (by decide)⟩

/-- A workspace with a tmpfs is erased if all goes well. -/
theorem mounted_erased :
    ∃ s', taskWipe true = .ok true s' ∧ Erased {} (taskWorkspace .mounted).mountPath s' := by
  refine ⟨_, rfl, ?_⟩
  obtain ⟨c, hcall, herased⟩ := wipe_erases_iff {} [.create (newTask true)] "ws_task-1_01234567"
    (taskWorkspace .mounted) (smoothWipe true) (directory 1) _ rfl nofun rfl
  obtain rfl : c = newTask true := WorkspaceCall.create.inj (List.mem_singleton.1 hcall.mem)
  have hundisturbed : (smoothWipe true).Undisturbed := ⟨rfl, fun _ => rfl⟩
  exact herased.2 ⟨.inl ⟨rfl, rfl⟩, .inr ⟨hundisturbed, by decide, rfl⟩⟩

end Sample

end VibeShield
