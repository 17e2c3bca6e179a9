import VibeShield.Lib.Machine
import VibeShield.Security.Workspace.Cleanup

/-!
# Sessions of the workspace manager

The manager as a machine (`workspaceSessions`): workspaces are created, wiped one by one, or
wiped when they are stale. A request creates a workspace or marks some as wiped
(`MarksWiped`), so that the list of workspaces is, at any time, the list of the creations
(`workspaces_listed`), and all of them are where and as large as they may be
(`workspaces_confined`).
-/

namespace VibeShield

open WorkspaceManager

/-- The requests of a session. -/
inductive WorkspaceRequest
  | create (c : WorkspaceCreation)
  | wipe (workspaceId : String) (o : WipeOutcomes) (path : PathState)
  | cleanupStale (o : CleanupOutcomes)

/-- What a request returns. -/
inductive WorkspaceReply
  | workspace (ws : Workspace)
  | bool (b : Bool)
  | none

/-- The manager as a machine. -/
def workspaceSessions :
    Machine WorkspaceManager WorkspaceRequest (Except PyErr WorkspaceReply) where
  step m
    | .create c => (m.create c).map id (·.map .workspace)
    | .wipe workspaceId o path =>
      match WorkspaceManager.wipe o workspaceId { manager := m, path := path } with
      | .ok b s => (s.manager, .ok (.bool b))
      | .error err s => (s.manager, .error err)
    | .cleanupStale o => (m.cleanupStale o).map id (·.map fun _ => .none)

/-- The events of a session. -/
abbrev WorkspaceEvent :=
  Machine.Event WorkspaceManager WorkspaceRequest (Except PyErr WorkspaceReply)

/-- The workspace that a step has created. -/
def createdIn (ev : WorkspaceEvent) : Option Workspace :=
  match ev.output with
  | .ok (.workspace ws) => some ws
  | _ => none

/-- What is listed of the workspace. -/
def Workspace.row (ws : Workspace) : WorkspaceRow where
  workspaceId := ws.workspaceId
  mountPath := ws.mountPath
  sizeMb := ws.sizeMb
  state := ws.state.value
  encrypted := ws.encryptionKeyHash ≠ ""
  createdAt := ws.createdAt
  wipedAt := ws.wipedAt

/-! ## Steps -/

/-- When a request wipes the workspace, if it does. -/
def WorkspaceRequest.wipeTime (id : String) : WorkspaceRequest → Option PyFloat
  | create _ => none
  | wipe workspaceId o _ => if workspaceId = id then some o.now else none
  | cleanupStale o => some (o.wipe id).now

/-- Some workspaces are marked as wiped by the request, and nothing else is changed. -/
structure MarksWiped (r : WorkspaceRequest) (m m' : WorkspaceManager) : Prop where
  config : m'.config = m.config
  keys : m'.workspaces.keys = m.workspaces.keys
  marked : ∀ id, m'.workspaces.get? id = m.workspaces.get? id ∨ ∃ now, r.wipeTime id = some now ∧
    m'.workspaces.get? id = (m.workspaces.get? id).map (Workspace.wipedOn now)

theorem MarksWiped.rfl {r : WorkspaceRequest} {m : WorkspaceManager} : MarksWiped r m m where
  config := Eq.refl _
  keys := Eq.refl _
  marked _ := .inl (Eq.refl _)

theorem MarksWiped.markWiped {m : WorkspaceManager} {id : String} {ws : Workspace}
    (h : m.workspaces.get? id = some ws) (o : WipeOutcomes) (path : PathState) :
    MarksWiped (.wipe id o path) m (markWiped m id ws o.now) where
  config := Eq.refl _
  keys := keys_markWiped h o.now
  marked k := by
    rw [get?_markWiped]
    split
    · next hk => exact .inr ⟨o.now, if_pos hk.symm, by rw [hk, h]; rfl⟩
    · exact .inl (Eq.refl _)

theorem MarksWiped.cleanupStale (m : WorkspaceManager) (o : CleanupOutcomes) :
    MarksWiped (.cleanupStale o) m (m.cleanupStale o).1 := by
  obtain ⟨hconfig, hkeys, hwiped, _⟩ := wipeAll_spec (o := o) (m.wipeFailure o)
    (nodup_staleIds o.tooOld) (fun id hid => (exists_of_mem_staleIds.1 hid).imp fun _ h => h.1)
    fun _ _ => Eq.refl _
  refine ⟨hconfig, hkeys, fun id => ?_⟩
  by_cases hid : id ∈ (m.staleIds o.tooOld).takeWhile fun id => (m.wipeFailure o id).isNone
  · exact .inr ⟨_, Eq.refl _, (hwiped id).trans (by simp only [hid, if_true])⟩
  · exact .inl ((hwiped id).trans (by simp only [hid, if_false, Option.map_id']))

variable {m : WorkspaceManager}

/-- What a request does: it creates a workspace, or marks some as wiped. -/
theorem workspaceSessions_step (m : WorkspaceManager) (r : WorkspaceRequest) :
    (MarksWiped r m (workspaceSessions.step m r).1 ∧
        createdIn (workspaceSessions.event m r) = none) ∨
      ∃ c ws, r = .create c ∧ newWorkspace m c = .ok ws ∧
        workspaceSessions.step m r =
          ({ m with workspaces := m.workspaces.set ws.workspaceId ws }, .ok (.workspace ws)) := by
  cases r with
  | create c =>
    cases hnew : newWorkspace m c with
    | error err =>
      have hstep : workspaceSessions.step m (.create c) = (m, .error err) := by
        simp only [workspaceSessions, create, hnew]
        rfl
      rw [Machine.event, createdIn, hstep]
      exact .inl ⟨.rfl, rfl⟩
    | ok ws =>
      refine .inr ⟨c, ws, rfl, hnew, ?_⟩
      simp only [workspaceSessions, create, hnew]
      rfl
  | wipe workspaceId o path =>
    refine .inl ?_
    have hmanager := manager_wipe o workspaceId { manager := m, path := path }
    have hmarks : MarksWiped (.wipe workspaceId o path) m
        (endState (wipe o workspaceId { manager := m, path := path })).manager := by
      rcases hmanager with hsame | ⟨ws, hget, hmark⟩
      · rw [hsame]
        exact .rfl
      · rw [hmark]
        exact .markWiped hget o path
    rw [Machine.event, createdIn]
    simp only [workspaceSessions]
    cases hwipe : wipe o workspaceId { manager := m, path := path } with
    | ok b s =>
      rw [hwipe] at hmarks
      exact ⟨hmarks, rfl⟩
    | error err s =>
      rw [hwipe] at hmarks
      exact ⟨hmarks, rfl⟩
  | cleanupStale o =>
    refine .inl ⟨.cleanupStale m o, ?_⟩
    rw [Machine.event, createdIn]
    simp only [workspaceSessions]
    cases hresult : m.cleanupStale o with
    | mk m' y => cases y <;> rfl

/-! ## What is listed -/

/-- The workspaces that the steps have created, in order. -/
def created (evs : List WorkspaceEvent) : List Workspace := evs.filterMap createdIn

/-- The identifier that is drawn for a new workspace is not taken. -/
def DrawsFresh (m : WorkspaceManager) (r : WorkspaceRequest) : Prop :=
  ∀ c ws, r = .create c → newWorkspace m c = .ok ws → m.getWorkspace ws.workspaceId = none

theorem created_concat (evs : List WorkspaceEvent) (ev : WorkspaceEvent) :
    created (evs ++ [ev]) = created evs ++ (createdIn ev).toList := by
  rw [created, List.filterMap_append, ← created]
  cases hev : createdIn ev with
  | none => simp [hev]
  | some ws => simp [hev]

/-- What a workspace may have become: it is as it was created, or as one of the requests has wiped
    it. -/
def Workspace.Becomes (rs : List WorkspaceRequest) (ws ws' : Workspace) : Prop :=
  ws' = ws ∨ ∃ r ∈ rs, ∃ now, r.wipeTime ws.workspaceId = some now ∧ ws' = ws.wipedOn now

namespace Workspace.Becomes

variable {rs : List WorkspaceRequest} {ws ws' : Workspace}

theorem mono {rs' : List WorkspaceRequest} (h : ws.Becomes rs ws') (hsub : rs ⊆ rs') :
    ws.Becomes rs' ws' :=
  h.imp_right fun ⟨r, hr, hwiped⟩ => ⟨r, hsub hr, hwiped⟩

theorem workspaceId (h : ws.Becomes rs ws') : ws'.workspaceId = ws.workspaceId := by
  rcases h with rfl | ⟨_, _, _, _, rfl⟩
  · rfl
  · rfl

/-- Marking keeps what is known of the workspace. -/
theorem marked {m' : WorkspaceManager} {r : WorkspaceRequest} (h : ws.Becomes rs ws')
    (hmarks : MarksWiped r m m') (hget : m.workspaces.get? ws.workspaceId = some ws') :
    ∃ ws'', m'.workspaces.get? ws.workspaceId = some ws'' ∧ ws.Becomes (rs ++ [r]) ws'' := by
  obtain hsame | ⟨now, htime, hmark⟩ := hmarks.marked ws.workspaceId
  · exact ⟨ws', hsame.trans hget, h.mono (List.subset_append_left _ _)⟩
  · refine ⟨ws'.wipedOn now, by rw [hmark, hget, Option.map_some], ?_⟩
    refine .inr ⟨r, List.mem_append_right _ (List.mem_singleton_self r), now, htime, ?_⟩
    rcases h with rfl | ⟨_, _, _, _, rfl⟩
    · rfl
    · rfl

end Workspace.Becomes

/-- What is known after marking has been known before. -/
theorem MarksWiped.exists_get?_of_isSome {m' : WorkspaceManager} {r : WorkspaceRequest}
    (h : MarksWiped r m m') {id : String} (hget : (m'.workspaces.get? id).isSome = true) :
    ∃ ws, m.workspaces.get? id = some ws := by
  obtain hsame | ⟨now, _, hmark⟩ := h.marked id
  · rw [hsame] at hget
    exact Option.isSome_iff_exists.1 hget
  · rw [hmark, Option.isSome_map] at hget
    exact Option.isSome_iff_exists.1 hget

/-- Whatever identifiers are drawn, every workspace that is known has been created. -/
theorem exists_created_run (config : WorkspaceConfig) (rs : List WorkspaceRequest) :
    ∀ id ws', (workspaceSessions.run (.new config) rs).workspaces.get? id = some ws' →
      ∃ ws ∈ created (workspaceSessions.events (.new config) rs),
        ws.workspaceId = id ∧ ws.Becomes rs ws' := by
  have hnew : ∀ id ws', (WorkspaceManager.new config).workspaces.get? id = some ws' →
      ∃ ws ∈ created [], ws.workspaceId = id ∧ ws.Becomes [] ws' :=
    fun _ _ h => absurd h (by simp [WorkspaceManager.new])
  have hrun := Machine.history_induction (M := workspaceSessions) (G := fun _ _ => True)
    (P := fun evs m => ∀ id ws', m.workspaces.get? id = some ws' →
      ∃ ws ∈ created evs, ws.workspaceId = id ∧ ws.Becomes (evs.map Machine.Event.input) ws')
    hnew ?_ rs fun _ _ => trivial
  · rwa [Machine.map_input_events] at hrun
  intro evs m r _ h id ws' hget
  rw [created_concat, List.map_append]
  obtain ⟨hmarks, hnone⟩ | ⟨c, new, hr, hnew, hstep⟩ := workspaceSessions_step m r
  · obtain ⟨ws, hws⟩ := hmarks.exists_get?_of_isSome (by rw [hget]; rfl)
    obtain ⟨ws₀, hmem, rfl, hbecomes⟩ := h id ws hws
    obtain ⟨ws'', hget'', hbecomes'⟩ := hbecomes.marked hmarks hws
    obtain rfl := Option.some.inj (hget''.symm.trans hget)
    exact ⟨ws₀, List.mem_append_left _ hmem, rfl, hbecomes'⟩
  · rw [hstep] at hget
    have hcreated : createdIn (workspaceSessions.event m r) = some new := by
      rw [Machine.event, createdIn, hstep]
    rw [hcreated]
    replace hget : (m.workspaces.set new.workspaceId new).get? id = some ws' := hget
    rw [PyDict.get?_set] at hget
    split at hget
    · next hid =>
      obtain rfl := Option.some.inj hget
      exact ⟨new, List.mem_append_right _ (by simp), hid.symm, .inl rfl⟩
    · obtain ⟨ws, hmem, hid, hbecomes⟩ := h id ws' hget
      exact ⟨ws, List.mem_append_left _ hmem, hid,
        hbecomes.mono (List.subset_append_left _ _)⟩

/-- What is wiped stays wiped, unless its identifier is drawn again. -/
theorem wiped_run {id : String} (rs : List WorkspaceRequest)
    (hfresh : workspaceSessions.Guarded DrawsFresh m rs)
    (h : ∃ ws, m.getWorkspace id = some ws ∧ ws.state = .wiped) :
    ∃ ws, (workspaceSessions.run m rs).getWorkspace id = some ws ∧ ws.state = .wiped := by
  refine Machine.invariant (P := fun m => ∃ ws, m.getWorkspace id = some ws ∧ ws.state = .wiped)
    h ?_ rs hfresh
  rintro m r hdraws ⟨ws, hget, hstate⟩
  obtain ⟨hmarks, _⟩ | ⟨c, new, hr, hnew, hstep⟩ := workspaceSessions_step m r
  · obtain hsame | ⟨now, _, hmark⟩ := hmarks.marked id
    · exact ⟨ws, hsame.trans hget, hstate⟩
    · exact ⟨ws.wipedOn now, hmark.trans (congrArg _ hget), rfl⟩
  · have hne : id ≠ new.workspaceId := by
      rintro rfl
      exact Option.some_ne_none ws (hget.symm.trans (hdraws c new hr hnew))
    refine ⟨ws, ?_, hstate⟩
    rw [hstep]
    exact (PyDict.get?_set _ _ _ _).trans ((if_neg hne).trans hget)

/-- The manager knows the workspaces that have been created, in their order. -/
structure KnowsCreated (evs : List WorkspaceEvent) (m : WorkspaceManager) : Prop where
  keys : m.workspaces.keys = (created evs).map Workspace.workspaceId
  becomes : ∀ ws ∈ created evs, ∃ ws', m.getWorkspace ws.workspaceId = some ws' ∧
    ws.Becomes (evs.map Machine.Event.input) ws'

theorem KnowsCreated.step {evs : List WorkspaceEvent} (h : KnowsCreated evs m)
    {r : WorkspaceRequest} (hdraws : DrawsFresh m r) :
    KnowsCreated (evs ++ [workspaceSessions.event m r]) (workspaceSessions.step m r).1 := by
  obtain ⟨hmarks, hnone⟩ | ⟨c, new, hr, hnew, hstep⟩ := workspaceSessions_step m r
  · have hcreated : created (evs ++ [workspaceSessions.event m r]) = created evs := by
      rw [created_concat, hnone, Option.toList_none, List.append_nil]
    constructor
    · rw [hcreated, hmarks.keys, h.keys]
    · intro ws hws
      rw [hcreated] at hws
      obtain ⟨ws', hget, hbecomes⟩ := h.becomes ws hws
      rw [List.map_append]
      exact hbecomes.marked hmarks hget
  · have hfresh : m.workspaces.get? new.workspaceId = none := hdraws c new hr hnew
    have hcreated : created (evs ++ [workspaceSessions.event m r]) = created evs ++ [new] := by
      rw [created_concat, Machine.event, createdIn, hstep]
      rfl
    constructor
    · rw [hcreated, hstep, PyDict.keys, PyDict.items_set_of_get?_eq_none hfresh, List.map_append,
        List.map_append]
      exact congrArg (· ++ [new.workspaceId]) h.keys
    · intro ws hws
      rw [hcreated, List.mem_append, List.mem_singleton] at hws
      rw [hstep, List.map_append]
      rcases hws with hws | rfl
      · obtain ⟨ws', hget, hbecomes⟩ := h.becomes ws hws
        have hne : ws.workspaceId ≠ new.workspaceId := by
          intro heq
          rw [heq] at hget
          exact Option.some_ne_none ws' (hget.symm.trans hfresh)
        exact ⟨ws', (PyDict.get?_set _ _ _ _).trans ((if_neg hne).trans hget),
          hbecomes.mono (List.subset_append_left _ _)⟩
      · exact ⟨ws, (PyDict.get?_set _ _ _ _).trans (if_pos (Eq.refl _)), .inl (Eq.refl _)⟩

theorem knowsCreated_run (config : WorkspaceConfig) (rs : List WorkspaceRequest)
    (hfresh : workspaceSessions.Guarded DrawsFresh (.new config) rs) :
    KnowsCreated (workspaceSessions.events (.new config) rs)
      (workspaceSessions.run (.new config) rs) :=
  Machine.history_induction ⟨Eq.refl _, fun _ h => absurd h List.not_mem_nil⟩
    (fun _ _ _ hdraws h => h.step hdraws) rs hfresh

/-- The rows are those of the workspaces that have been created. -/
theorem KnowsCreated.rows {evs : List WorkspaceEvent} (h : KnowsCreated evs m) :
    List.Forall₂ (fun ws row => ∃ ws', m.getWorkspace ws.workspaceId = some ws' ∧
      ws.Becomes (evs.map Machine.Event.input) ws' ∧ row = ws'.row)
      (created evs) m.listWorkspaces := by
  have hrows : (created evs).map (fun ws => (m.getWorkspace ws.workspaceId).map Workspace.row) =
      m.listWorkspaces.map some := by
    have hitems := PyDict.map_some_items (fun _ => Workspace.row) m.workspaces
    rw [h.keys, List.map_map] at hitems
    rw [listWorkspaces, List.map_map]
    exact hitems.symm
  rw [← List.forall₂_eq_eq_eq, List.forall₂_map_left_iff, List.forall₂_map_right_iff] at hrows
  refine ((List.forall₂_and_left _ _).2 ⟨h.becomes, hrows⟩).imp ?_
  rintro ws row ⟨⟨ws', hget, hbecomes⟩, hrow⟩
  rw [hget] at hrow
  exact ⟨ws', hget, hbecomes, (Option.some.inj hrow).symm⟩

theorem WorkspaceState.value_eq_wiped {state : WorkspaceState}
    (h : state.value = WorkspaceState.wiped.value) : state = .wiped := by
  cases state <;> first | rfl | exact absurd h (by decide)

/-- Lists that are related item by item are so at every index. -/
theorem exists_getElem?_of_forall₂ {α β : Type*} {R : α → β → Prop} {l : List α} {l' : List β}
    (h : List.Forall₂ R l l') {n : ℕ} {b : β} (hb : l'[n]? = some b) :
    ∃ a, l[n]? = some a ∧ R a b := by
  obtain ⟨hn, rfl⟩ := List.getElem?_eq_some_iff.1 hb
  have hn' : n < l.length := h.length_eq ▸ hn
  exact ⟨l[n], List.getElem?_eq_getElem hn', h.get hn' hn⟩

/-- As long as no identifier is drawn twice, the list of workspaces is, after any requests, the
    list of the creations so far, in their order. Each has the row of what is found under its
    identifier: the workspace as it was created, or as one of the requests has wiped it; no other
    workspace is found. A row that is listed as wiped stays so. -/
theorem workspaces_listed (config : WorkspaceConfig) (rs : List WorkspaceRequest)
    (hfresh : workspaceSessions.Guarded DrawsFresh (.new config) rs) :
    let after (js : List WorkspaceRequest) := workspaceSessions.run (.new config) js
    let all := created (workspaceSessions.events (.new config) rs)
    List.Forall₂ (fun ws row => ∃ ws', (after rs).getWorkspace ws.workspaceId = some ws' ∧
      ws.Becomes rs ws' ∧ row = ws'.row) all (after rs).listWorkspaces ∧
    (∀ id ws', (after rs).getWorkspace id = some ws' →
      ∃ ws ∈ all, ws.workspaceId = id ∧ ws.Becomes rs ws') ∧
    ∀ js, js <+: rs → ∀ (n : ℕ) (row : WorkspaceRow), (after js).listWorkspaces[n]? = some row →
      row.state = WorkspaceState.wiped.value → ∃ row', (after rs).listWorkspaces[n]? = some row' ∧
        row'.workspaceId = row.workspaceId ∧ row'.state = WorkspaceState.wiped.value := by
  intro after all
  have hrows := (knowsCreated_run config rs hfresh).rows
  rw [Machine.map_input_events] at hrows
  refine ⟨hrows, exists_created_run config rs, ?_⟩
  rintro js ⟨ks, rfl⟩ n row hrow hstate
  obtain ⟨hjs, hks⟩ := Machine.guarded_append.1 hfresh
  obtain ⟨ws, hws, ws', hget, hbecomes, rfl⟩ :=
    exists_getElem?_of_forall₂ (knowsCreated_run config js hjs).rows hrow
  -- The workspace is in the same place in both lists.
  have hall : all[n]? = some ws := by
    have hlt : n < ((workspaceSessions.events (.new config) js).filterMap createdIn).length :=
      (List.getElem?_eq_some_iff.1 hws).1
    change (created (workspaceSessions.events (.new config) (js ++ ks)))[n]? = some ws
    rw [Machine.events_append, created, List.filterMap_append, List.getElem?_append_left hlt]
    exact hws
  obtain ⟨row', hrow', ws'', hget', hbecomes', rfl⟩ := exists_getElem?_of_forall₂ hrows.flip hall
  refine ⟨_, hrow', ?_, ?_⟩
  · exact hbecomes'.workspaceId.trans hbecomes.workspaceId.symm
  · have hwiped := wiped_run ks hks ⟨ws', hget, WorkspaceState.value_eq_wiped hstate⟩
    rw [← Machine.run_append] at hwiped
    obtain ⟨_, hget'', hstate'⟩ := hwiped
    obtain rfl := Option.some.inj (hget''.symm.trans hget')
    exact congrArg WorkspaceState.value hstate'

namespace Sample

/-- A workspace is created, and wiped when the task is done. -/
def taskSession : List WorkspaceRequest := [
  .create (newTask true),
  .wipe "ws_task-1_01234567" (smoothWipe true) (directory 1)]

theorem task_listed :
    (workspaceSessions.run (.new {}) taskSession).listWorkspaces =
      [((taskWorkspace .mounted).wipedOn (.fin 2)).row] := by
  have hfresh : workspaceSessions.Guarded DrawsFresh (.new {}) taskSession := by
    intro ev hev
    simp only [taskSession, Machine.events, List.mem_cons, List.not_mem_nil, or_false] at hev
    rcases hev with rfl | rfl
    · exact fun _ _ _ _ => rfl
    · exact fun _ _ h => by cases h
  obtain ⟨ws', hget, _, hrow⟩ :=
    (List.forall₂_cons.1 (workspaces_listed {} taskSession hfresh).1).1
  obtain rfl : (taskWorkspace .mounted).wipedOn (.fin 2) = ws' := Option.some.inj hget
  exact congrArg (fun row => [row]) hrow

end Sample

/-! ## Where workspaces are, and how large -/

/-- What holds of every workspace that is known. -/
structure Workspace.Confined (config : WorkspaceConfig) (ws : Workspace) : Prop where
  one_le_size : 1 ≤ ws.sizeMb
  size_le : ws.sizeMb ≤ config.sizeMb * 5
  path : ws.mountPath = pathJoin config.mountBase ws.workspaceId
  /-- The identifier is the name of an entry of a directory. -/
  no_slash : '/' ∉ ws.workspaceId.toList
  wiped_iff : ws.state = .wiped ↔ ws.wipedAt.isSome
  not_destroyed : ws.state ≠ .destroyed

theorem no_slash_of_isTaskId {cs : List Char} (h : isTaskId cs = true) : '/' ∉ cs := by
  intro hmem
  rw [isTaskId, Bool.and_eq_true, List.all_eq_true] at h
  exact absurd (h.2 _ hmem) (by decide)

theorem no_slash_of_matchesLine {s : String} (h : matchesLine isTaskId s = true) :
    '/' ∉ s.toList := by
  rw [matchesLine, Bool.or_eq_true, Bool.and_eq_true] at h
  rcases h with h | ⟨hlast, h⟩
  · exact no_slash_of_isTaskId h
  · -- The last character may be a newline.
    have hne : s.toList ≠ [] := by
      rintro hnil
      rw [hnil] at hlast
      exact absurd hlast (by decide)
    have hnewline : s.toList.getLast hne = '\n' := by
      rw [List.getLast?_eq_some_getLast hne] at hlast
      exact Option.some.inj (of_decide_eq_true hlast)
    rw [← List.dropLast_concat_getLast hne, hnewline, List.mem_append, List.mem_singleton]
    exact not_or.2 ⟨no_slash_of_isTaskId h, by decide⟩

theorem no_slash_newWorkspaceId {c : WorkspaceCreation}
    (htask : matchesLine isTaskId c.taskId = true)
    (huuid : ∀ x ∈ c.uuidHex.toList, x.isAlphanum = true) :
    '/' ∉ (newWorkspaceId c).toList := by
  have htake : '/' ∉ c.uuidHex.toList.take 8 := fun hmem =>
    absurd (huuid _ (List.mem_of_mem_take hmem)) (by decide)
  have hid : (newWorkspaceId c).toList =
      "ws_".toList ++ c.taskId.toList ++ "_".toList ++ c.uuidHex.toList.take 8 := by
    simp [newWorkspaceId, slice, toString]
  rw [hid]
  simp only [List.mem_append, not_or]
  exact ⟨⟨⟨by decide, no_slash_of_matchesLine htask⟩, by decide⟩, htake⟩

theorem newWorkspace_confined {c : WorkspaceCreation} {ws : Workspace}
    (h : newWorkspace m c = .ok ws) (huuid : ∀ x ∈ c.uuidHex.toList, x.isAlphanum = true) :
    ws.Confined m.config := by
  rw [newWorkspace] at h
  dsimp only at h
  split_ifs at h with htask hsize
  · cases h
  · cases h
  · obtain ⟨_, -, h⟩ := Except.exists_of_bind_eq_ok h
    obtain ⟨state, hmount, h⟩ := Except.exists_of_bind_eq_ok h
    obtain ⟨_, htask⟩ := not_or.1 htask
    obtain ⟨hone, hle⟩ := not_or.1 hsize
    have hstate : state ≠ .wiped ∧ state ≠ .destroyed := by
      rcases mountTmpfs_ok hmount with ⟨rfl, _⟩ | ⟨rfl, _⟩ <;> decide
    cases h
    exact ⟨not_lt.1 hone, not_lt.1 hle, rfl, no_slash_newWorkspaceId (not_not.1 htask) huuid,
      iff_of_false hstate.1 (by simp), hstate.2⟩

theorem Workspace.Confined.becomes {config : WorkspaceConfig} {rs : List WorkspaceRequest}
    {ws ws' : Workspace} (h : ws.Confined config) (h' : ws.Becomes rs ws') :
    ws'.Confined config := by
  rcases h' with rfl | ⟨_, _, now, _, rfl⟩
  · exact h
  · exact ⟨h.one_le_size, h.size_le, h.path, h.no_slash, iff_of_true rfl rfl, nofun⟩

/-- The directory of a path that is joined from a directory and a name. -/
theorem pathDirname_pathJoin {base name : String} (hbase : base ≠ "")
    (hlast : base.toList.getLast? ≠ some '/') (hname : '/' ∉ name.toList) :
    pathDirname (pathJoin base name) = base := by
  have hrelative : startsWith name "/" = false := by
    rw [startsWith, Bool.eq_false_iff, Ne, List.isPrefixOf_iff_prefix]
    rintro ⟨rest, hrest⟩
    exact hname (hrest ▸ List.mem_append_left _ (by decide))
  -- The path read backwards: the name, a slash and the directory, which ends in something else.
  obtain ⟨x, xs, hxs⟩ : ∃ x xs, base.toList.reverse = x :: xs := by
    cases hrev : base.toList.reverse with
    | nil => exact absurd (String.toList_eq_nil_iff.1 (List.reverse_eq_nil_iff.1 hrev)) hbase
    | cons x xs => exact ⟨x, xs, rfl⟩
  have hx : x ≠ '/' := by
    rintro rfl
    rw [← List.head?_reverse, hxs] at hlast
    exact hlast rfl
  have hrev : (base ++ "/" ++ name).toList.reverse = name.toList.reverse ++ '/' :: x :: xs := by
    rw [String.toList_append, String.toList_append, List.reverse_append, List.reverse_append, hxs]
    rfl
  have hhead : (base ++ "/" ++ name).toList.reverse.dropWhile (fun c => decide (c ≠ '/')) =
      '/' :: x :: xs := by
    rw [hrev, List.dropWhile_append_of_pos fun c hc => ?_]
    · rfl
    · have hc' : c ∈ name.toList := List.mem_reverse.1 hc
      simpa using ne_of_mem_of_not_mem hc' hname
  have hall : ('/' :: x :: xs).all (fun c => decide (c = '/')) = false := by simp [hx]
  have hdrop : ('/' :: x :: xs).dropWhile (fun c => decide (c = '/')) = x :: xs := by simp [hx]
  rw [pathJoin, if_neg (by simp [hrelative]), if_neg (by simp [hbase, hlast]), pathDirname]
  simp only [hhead, hall, hdrop, Bool.false_eq_true, if_false]
  rw [← hxs, List.reverse_reverse, String.ofList_toList]

/-- After any requests, every workspace that is known has an admissible size and is a directory
    right below the mount base, so that wiping it removes nothing else but, if it is empty, the
    mount base; it has been wiped at a time exactly if it is in the state of a wiped one, and
    none is ever destroyed. -/
theorem workspaces_confined (config : WorkspaceConfig) (rs : List WorkspaceRequest)
    (huuid : ∀ c, WorkspaceRequest.create c ∈ rs → ∀ x ∈ c.uuidHex.toList, x.isAlphanum = true)
    (id : String) (ws : Workspace)
    (hget : (workspaceSessions.run (.new config) rs).getWorkspace id = some ws) :
    ws.workspaceId = id ∧ ws.Confined config ∧
      (config.mountBase ≠ "" → config.mountBase.toList.getLast? ≠ some '/' →
        pathDirname ws.mountPath = config.mountBase) := by
  have hcreated : ∀ ws ∈ created (workspaceSessions.events (.new config) rs),
      ws.Confined config := by
    intro ws hmem
    obtain ⟨ev, hev, hws⟩ := List.mem_filterMap.1 hmem
    obtain ⟨js, r, ks, rfl, rfl⟩ := Machine.exists_prefix_of_mem_events hev
    have hconfig : (workspaceSessions.run (.new config) js).config = config := by
      refine Machine.invariant (G := fun _ _ => True)
        (P := fun (m : WorkspaceManager) => m.config = config) rfl ?_ js fun _ _ => trivial
      intro m r _ h
      obtain ⟨hmarks, _⟩ | ⟨c, new, _, _, hstep⟩ := workspaceSessions_step m r
      · exact hmarks.config.trans h
      · rw [hstep]
        exact h
    obtain ⟨_, hnone⟩ | ⟨c, new, rfl, hnew, hstep⟩ :=
      workspaceSessions_step (workspaceSessions.run (.new config) js) r
    · exact absurd (hnone.symm.trans hws) nofun
    · rw [Machine.event, createdIn, hstep] at hws
      obtain rfl := Option.some.inj hws
      exact hconfig ▸ newWorkspace_confined hnew (huuid c (by simp))
  obtain ⟨ws₀, hmem, hid, hbecomes⟩ := exists_created_run config rs id ws hget
  have hconfined := (hcreated ws₀ hmem).becomes hbecomes
  have hsame : ws.workspaceId = id := by
    rw [hbecomes.workspaceId, hid]
  refine ⟨hsame, hconfined, fun hbase hlast => ?_⟩
  rw [hconfined.path]
  exact pathDirname_pathJoin hbase hlast hconfined.no_slash

namespace Sample

theorem task_confined : (taskWorkspace .mounted).Confined {} :=
  (workspaces_confined {} [.create (newTask true)]
    (fun c hc => by
      obtain rfl := WorkspaceRequest.create.inj (List.mem_singleton.1 hc)
      exact List.all_eq_true.1 (by decide +kernel))
    "ws_task-1_01234567" (taskWorkspace .mounted) rfl).2.1

end Sample

end VibeShield
