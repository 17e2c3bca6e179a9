import Mathlib.Data.List.TakeWhile
import VibeShield.Security.Workspace.Wiping

/-!
# Wiping what is stale

`cleanup_stale` wipes the workspaces that are too old, one after the other, and is ended by the
first wipe that raises an exception. How the wipe of a workspace ends does not depend on what the
manager knows of the others (`wipeFailure_congr`), so that the outcome can be told from the state
before: `cleanup_stale_exact`.
-/

namespace VibeShield

/-- What is recorded of a workspace that has been wiped. -/
def Workspace.wipedOn (now : PyFloat) (ws : Workspace) : Workspace :=
  { ws with state := .wiped, wipedAt := some now }

namespace WorkspaceManager

/-! ## The wipe of one workspace -/

/-- What wiping the workspace raises, if it does. -/
def wipeFailure (o : CleanupOutcomes) (m : WorkspaceManager) (workspaceId : String) :
    Option PyErr :=
  match wipeResult o m workspaceId with
  | .ok _ _ => none
  | .error err _ => some err

section Oblivious

variable (o : WipeOutcomes) (m : WorkspaceManager)

/-- The state with another manager. -/
def withManager (s : WipeState) : WipeState := { s with manager := m }

theorem oblivious_doEffect (effect : WorkspaceEffect) (change : PathState → PathState) :
    Oblivious (withManager m) (doEffect effect change) :=
  Oblivious.modify fun _ => rfl

theorem oblivious_raiseSome (err : Option PyErr) : Oblivious (withManager m) (raiseSome err) := by
  cases err with
  | none => exact .pure _
  | some err => exact .throw err

theorem oblivious_runUmount (outcome : MountOutcome) (path : String) :
    Oblivious (withManager m) (runUmount outcome path) := by
  cases outcome with
  | exit returncode => exact .bind (oblivious_doEffect m _ _) fun _ => .pure _
  | timedOut effective => exact .bind (oblivious_doEffect m _ _) fun _ => .throw _
  | raised err effective => exact .bind (oblivious_doEffect m _ _) fun _ => .throw err

/-- What is caught, and what is not. -/
theorem oblivious_catchIf {p : PyErr → Prop} [DecidablePred p] {x : WipeM Unit}
    (hx : Oblivious (withManager m) x) :
    Oblivious (withManager m) (tryCatch x fun err => if p err then return else throw err) := by
  refine .tryCatch hx fun err => ?_
  split
  · exact .pure _
  · exact .throw err

theorem oblivious_overwritePasses (path : String) (i n : ℕ) :
    Oblivious (withManager m) (overwritePasses o path i n) := by
  induction n generalizing i with
  | zero => exact .pure _
  | succ n ih =>
    exact .bind (oblivious_doEffect m _ _) fun _ =>
      .bind (oblivious_raiseSome m _) fun _ => ih (i + 1)

theorem oblivious_wipeMounted (path : String) (passes : ℕ) :
    Oblivious (withManager m) (wipeMounted o path passes) := by
  refine .bind (oblivious_overwritePasses o m path 0 passes) fun _ => ?_
  split
  · exact oblivious_catchIf m (oblivious_runUmount m o.umount path)
  · exact .pure _

theorem oblivious_removeDirectory (path : String) :
    Oblivious (withManager m) (removeDirectory o path) := by
  have htree : Oblivious (withManager m) (removeTree o path) :=
    .bind (oblivious_doEffect m _ _) fun _ => .bind (oblivious_raiseSome m _) fun _ =>
      .bind (oblivious_doEffect m _ _) fun _ => oblivious_catchIf m (oblivious_raiseSome m _)
  refine .bind (.ofExcept _) fun mounted => ?_
  dsimp only
  split
  · exact .bind (oblivious_runUmount m o.umountThen path) fun _ => htree
  · exact htree

end Oblivious

/-- The steps of a wipe before the workspace is marked. -/
def wipeSteps (o : WipeOutcomes) (ws : Workspace) (passes : ℕ) : WipeM Unit :=
  let removal : WipeM Unit := tryCatch (removeDirectory o ws.mountPath) fun err =>
    if err.isException then return else throw err
  if ws.state = .mounted then do
    wipeMounted o ws.mountPath passes
    removal
  else removal

theorem oblivious_wipeSteps (o : WipeOutcomes) (m : WorkspaceManager) (ws : Workspace)
    (passes : ℕ) : Oblivious (withManager m) (wipeSteps o ws passes) := by
  have hremoval := oblivious_catchIf (p := fun err => err.isException = true) m
    (oblivious_removeDirectory o m ws.mountPath)
  dsimp only [wipeSteps]
  split
  · exact .bind (oblivious_wipeMounted o m ws.mountPath passes) fun _ => hremoval
  · exact hremoval

/-- The wipe of a workspace: the steps, and then the mark. -/
theorem wipe_eq {s : WipeState} {workspaceId : String} {ws : Workspace}
    (h : s.manager.workspaces.get? workspaceId = some ws) (o : WipeOutcomes) :
    wipe o workspaceId s = (do
      wipeSteps o ws s.manager.config.wipePasses.toNat
      modify fun s => { s with manager := markWiped s.manager workspaceId ws o.now }
      return true : WipeM Bool) s := by
  have hget : (get : WipeM WipeState) s = .ok s s := rfl
  rw [wipe, bind_of_ok hget, h]
  dsimp only [wipeSteps]
  by_cases hmounted : ws.state = .mounted
  · rw [if_pos hmounted, if_pos hmounted, bind_assoc]
    rfl
  · rw [if_neg hmounted, if_neg hmounted]
    rfl

variable {o : CleanupOutcomes} {m m' : WorkspaceManager} {workspaceId : String} {ws : Workspace}

/-- The manager after a wipe, and whether it raises. The latter depends only on the workspace. -/
theorem wipeResult_spec (h : m.workspaces.get? workspaceId = some ws) :
    ∃ y : Except PyErr Unit, ∃ s, wipeSteps (o.wipe workspaceId) ws m.config.wipePasses.toNat
        { manager := ⟨m.config, .empty⟩, path := o.path workspaceId } = endsIn y s ∧
      match y with
      | .ok _ => ∃ s', wipeResult o m workspaceId = .ok true s' ∧
          s'.manager = markWiped m workspaceId ws (o.wipe workspaceId).now
      | .error err => ∃ s', wipeResult o m workspaceId = .error err s' ∧ s'.manager = m := by
  obtain ⟨y, hbare, hfull⟩ := (oblivious_wipeSteps (o.wipe workspaceId) m ws
    m.config.wipePasses.toNat).endsIn_iff
    { manager := ⟨m.config, .empty⟩, path := o.path workspaceId }
  refine ⟨y, _, hbare, ?_⟩
  have hwipe := wipe_eq (s := { manager := m, path := o.path workspaceId }) h (o.wipe workspaceId)
  cases y with
  | ok _ => exact ⟨_, hwipe.trans (bind_of_ok hfull), rfl⟩
  | error err => exact ⟨_, hwipe.trans (bind_of_error hfull), rfl⟩

theorem wipeResult_cases (h : m.workspaces.get? workspaceId = some ws) :
    (wipeFailure o m workspaceId = none ∧ ∃ s', wipeResult o m workspaceId = .ok true s' ∧
        s'.manager = markWiped m workspaceId ws (o.wipe workspaceId).now) ∨
      ∃ err, wipeFailure o m workspaceId = some err ∧
        ∃ s', wipeResult o m workspaceId = .error err s' ∧ s'.manager = m := by
  obtain ⟨y, _, -, hy⟩ := wipeResult_spec (o := o) h
  rw [wipeFailure]
  cases y with
  | ok _ =>
    obtain ⟨s', heq, hs'⟩ := hy
    rw [heq]
    exact .inl ⟨rfl, s', rfl, hs'⟩
  | error err =>
    obtain ⟨s', heq, hs'⟩ := hy
    rw [heq]
    exact .inr ⟨err, rfl, s', rfl, hs'⟩

/-- Whether a wipe fails does not depend on the other workspaces. -/
theorem wipeFailure_congr (hconfig : m'.config = m.config)
    (h' : m'.workspaces.get? workspaceId = some ws) (h : m.workspaces.get? workspaceId = some ws) :
    wipeFailure o m' workspaceId = wipeFailure o m workspaceId := by
  obtain ⟨y', _, hrun', hy'⟩ := wipeResult_spec (o := o) h'
  obtain ⟨y, _, hrun, hy⟩ := wipeResult_spec (o := o) h
  rw [hconfig, hrun] at hrun'
  rw [wipeFailure, wipeFailure]
  cases y with
  | ok _ =>
    cases y' with
    | ok _ =>
      obtain ⟨_, heq', _⟩ := hy'
      obtain ⟨_, heq, _⟩ := hy
      rw [heq', heq]
    | error err' => exact absurd hrun' (by simp [endsIn])
  | error err =>
    cases y' with
    | ok _ => exact absurd hrun' (by simp [endsIn])
    | error err' =>
      obtain rfl : err = err' := (EStateM.Result.error.inj hrun').1
      obtain ⟨_, heq', _⟩ := hy'
      obtain ⟨_, heq, _⟩ := hy
      rw [heq', heq]

/-! ## The loop -/

theorem keys_markWiped (h : m.workspaces.get? workspaceId = some ws) (now : PyFloat) :
    (markWiped m workspaceId ws now).workspaces.keys = m.workspaces.keys :=
  PyDict.map_items_set h rfl

theorem get?_markWiped (now : PyFloat) (k : String) :
    (markWiped m workspaceId ws now).workspaces.get? k =
      if k = workspaceId then some (ws.wipedOn now) else m.workspaces.get? k :=
  m.workspaces.get?_set workspaceId k _

/-- Wiping workspaces in turn: those before the first one that fails are wiped, and nothing else
    happens to the manager. -/
theorem wipeAll_spec (fail : String → Option PyErr) {ids : List String} (hnodup : ids.Nodup)
    (hids : ∀ id ∈ ids, ∃ ws, m.workspaces.get? id = some ws)
    (hfail : ∀ id ∈ ids, wipeFailure o m id = fail id) :
    let r := wipeAll o m ids
    r.1.config = m.config ∧ r.1.workspaces.keys = m.workspaces.keys ∧
      (∀ id, r.1.workspaces.get? id = (m.workspaces.get? id).map fun ws =>
        if id ∈ ids.takeWhile fun id => (fail id).isNone then ws.wipedOn (o.wipe id).now
        else ws) ∧
      r.2 = match ids.findSome? fail with
        | none => .ok ()
        | some err => .error err := by
  induction ids generalizing m with
  | nil => exact ⟨rfl, rfl, fun id => by simp [wipeAll], rfl⟩
  | cons id ids ih =>
    obtain ⟨hid, hnodup⟩ := List.nodup_cons.1 hnodup
    obtain ⟨ws, hws⟩ := hids id List.mem_cons_self
    rw [List.takeWhile_cons, List.findSome?_cons, ← hfail id List.mem_cons_self]
    obtain ⟨hnone, s', heq, hs'⟩ | ⟨err, hsome, s', heq, hs'⟩ := wipeResult_cases (o := o) hws
    · -- The others are as before when their turn comes.
      have hget {k : String} (hk : k ∈ ids) :
          s'.manager.workspaces.get? k = m.workspaces.get? k := by
        rw [hs', get?_markWiped, if_neg (ne_of_mem_of_not_mem hk hid)]
      have hconfig : s'.manager.config = m.config := by rw [hs']; rfl
      obtain ⟨hconfig', hkeys, hwiped, hresult⟩ := ih (m := s'.manager) hnodup
        (fun k hk => by
          rw [hget hk]
          exact hids k (List.mem_cons_of_mem _ hk))
        fun k hk => by
          obtain ⟨wk, hwk⟩ := hids k (List.mem_cons_of_mem _ hk)
          rw [wipeFailure_congr hconfig ((hget hk).trans hwk) hwk]
          exact hfail k (List.mem_cons_of_mem _ hk)
      rw [wipeAll, heq, hnone]
      refine ⟨hconfig'.trans hconfig, hkeys.trans ?_, fun k => ?_, hresult⟩
      · rw [hs']
        exact keys_markWiped hws _
      · refine (hwiped k).trans ?_
        rw [hs', get?_markWiped]
        by_cases hk : k = id
        · have hnot : id ∉ ids.takeWhile fun id => (fail id).isNone :=
            fun hmem => hid ((List.takeWhile_sublist _).subset hmem)
          subst hk
          simp [hws, hnot]
        · simp [hk]
    · have hall : wipeAll o m (id :: ids) = (m, .error err) := by
        rw [wipeAll, heq, ← hs']
      rw [hall, hsome]
      exact ⟨rfl, rfl, fun k => by simp, rfl⟩

theorem exists_of_mem_staleIds {tooOld : PyFloat → Bool} {id : String} :
    id ∈ m.staleIds tooOld ↔
      ∃ ws, m.workspaces.get? id = some ws ∧ ws.state ≠ .wiped ∧ tooOld ws.createdAt = true := by
  rw [staleIds, List.mem_map]
  constructor
  · rintro ⟨⟨_, ws⟩, hmem, rfl⟩
    obtain ⟨hmem, hstale⟩ := List.mem_filter.1 hmem
    exact ⟨ws, (m.workspaces.mem_items_iff _ _).1 hmem, by simpa using hstale⟩
  · rintro ⟨ws, hget, hstale⟩
    refine ⟨(id, ws), List.mem_filter.2 ⟨(m.workspaces.mem_items_iff _ _).2 hget, ?_⟩, rfl⟩
    simpa using hstale

theorem nodup_staleIds (tooOld : PyFloat → Bool) : (m.staleIds tooOld).Nodup :=
  m.workspaces.nodup.sublist (List.filter_sublist.map Prod.fst)

/-- What `cleanup_stale` does, told from the state before: it wipes the workspaces that are too
    old and have not been wiped, in the order of their creation, up to the first one of which the
    wipe alone would fail, and raises what that raises; everything else stays as it is. If it
    completes, nothing is stale any more. -/
theorem cleanup_stale_exact (m : WorkspaceManager) (o : CleanupOutcomes) :
    let stale := m.staleIds o.tooOld
    let r := m.cleanupStale o
    (∀ id, r.1.getWorkspace id = (m.getWorkspace id).map fun ws =>
      if id ∈ stale.takeWhile fun id => (m.wipeFailure o id).isNone then
        ws.wipedOn (o.wipe id).now
      else ws) ∧
    r.1.config = m.config ∧ r.1.workspaces.keys = m.workspaces.keys ∧
    (r.2 = match stale.findSome? (m.wipeFailure o) with
      | none => .ok ()
      | some err => .error err) ∧
    (r.2 = .ok () → r.1.staleIds o.tooOld = []) := by
  intro stale r
  obtain ⟨hconfig, hkeys, hwiped, hresult⟩ := wipeAll_spec (o := o) (m.wipeFailure o)
    (nodup_staleIds o.tooOld) (fun id hid => (exists_of_mem_staleIds.1 hid).imp fun _ h => h.1)
    fun _ _ => rfl
  refine ⟨hwiped, hconfig, hkeys, hresult, fun hok => ?_⟩
  have hall : ∀ id ∈ stale, m.wipeFailure o id = none := by
    rw [← List.findSome?_eq_none_iff]
    cases hfind : stale.findSome? (m.wipeFailure o) with
    | none => rfl
    | some err =>
      rw [hfind] at hresult
      exact absurd (hresult.symm.trans hok) nofun
  refine List.eq_nil_iff_forall_not_mem.2 fun id hid => ?_
  obtain ⟨ws', hget, hstate, hold⟩ := exists_of_mem_staleIds.1 hid
  obtain ⟨ws, hws, rfl⟩ := Option.map_eq_some_iff.1 ((hwiped id).symm.trans hget)
  have hdone : (m.staleIds o.tooOld).takeWhile (fun id => (m.wipeFailure o id).isNone) =
      m.staleIds o.tooOld :=
    List.takeWhile_eq_self_iff.2 fun k hk => by simp [hall k hk]
  rw [hdone] at hstate hold
  by_cases hmem : id ∈ m.staleIds o.tooOld
  · rw [if_pos hmem] at hstate
    exact hstate rfl
  · rw [if_neg hmem] at hstate hold
    exact hmem (exists_of_mem_staleIds.2 ⟨ws, hws, hstate, hold⟩)

end WorkspaceManager

end VibeShield
