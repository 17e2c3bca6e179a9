import VibeShield.Layer1.Host
import VibeShield.Lib.Trace

/-!
# The workspace manager

A workspace is a directory for the files of a task, on which a tmpfs is mounted if the
manager runs as root and the mount succeeds (`WorkspaceManager.create`). When the task is
done, the workspace is wiped (`WorkspaceManager.wipe`): overwritten, unmounted and removed.

How the system calls end is an input of the model. What they do to the path of the
workspace is part of the state (`PathState`), as is what the manager has done so far
(`WorkspaceEffect`).
-/

namespace VibeShield

/-- The state of a workspace. -/
inductive WorkspaceState
  | created
  | mounted
  | wiped
  | destroyed
deriving DecidableEq, Repr

/-- The configuration of workspaces. -/
structure WorkspaceConfig where
  sizeMb : ℤ := 100
  wipePasses : ℤ := 3
  mountBase : String := "/run/vibeshield/workspaces"

/-- A workspace for a task. -/
structure Workspace where
  workspaceId : String
  mountPath : String
  sizeMb : ℤ
  state : WorkspaceState
  encryptionKeyHash : String
  createdAt : PyFloat
  wipedAt : Option PyFloat := none

/-- The manager: its configuration and the workspaces it has created. -/
structure WorkspaceManager where
  config : WorkspaceConfig
  workspaces : PyDict String Workspace

/-! ## System calls -/

/-- How running `mount` or `umount` ends. If it does not exit, it may have taken effect or
    not. -/
inductive MountOutcome
  | exit (returncode : ℤ)
  /-- `subprocess.TimeoutExpired`. -/
  | timedOut (effective : Bool)
  | raised (err : PyErr) (effective : Bool)

namespace MountOutcome

/-- Whether the process exits. -/
def exits : MountOutcome → Bool
  | exit _ => true
  | timedOut _ | raised _ _ => false

/-- Whether it takes effect: if it exits, exactly if it exits with zero. -/
def takesEffect : MountOutcome → Bool
  | exit returncode => returncode = 0
  | timedOut effective | raised _ effective => effective

end MountOutcome

/-- What is at a path: a directory, with file systems mounted on it. -/
structure PathState where
  /-- How many file systems are mounted, one over the other. -/
  mounts : ℕ
  present : Bool
  present_of_mounted : 0 < mounts → present = true

namespace PathState

/-- Detaching the last file system. -/
def umount (p : PathState) : PathState where
  mounts := p.mounts - 1
  present := p.present
  present_of_mounted h := p.present_of_mounted (by omega)

/-- Removing the directory, which is refused while something is mounted. -/
def remove (p : PathState) : PathState :=
  if p.mounts = 0 then ⟨0, false, fun h => absurd h (lt_irrefl 0)⟩ else p

end PathState

/-- What the manager does to the file system. -/
inductive WorkspaceEffect
  /-- A pass over all files below the path. -/
  | overwrite (path : String)
  | umount (path : String)
  | rmtree (path : String)
  | rmdir (path : String)
deriving DecidableEq

/-! ## Creating a workspace -/

/-- A call of `create`, and what it meets. -/
structure WorkspaceCreation where
  taskId : String
  sizeMb : Option ℤ := none
  /-- `repr(task_id)`. -/
  taskIdRepr : String
  /-- `uuid.uuid4().hex`. -/
  uuidHex : String
  /-- The hash of the new key. -/
  keyHash : String
  makedirs : Except PyErr Unit
  isRoot : Bool
  mount : MountOutcome
  now : PyFloat

namespace WorkspaceManager

variable (m : WorkspaceManager) (c : WorkspaceCreation)

/-- The manager at first. -/
def new (config : WorkspaceConfig) : WorkspaceManager := ⟨config, PyDict.empty⟩

/-- The identifier of a new workspace. -/
def newWorkspaceId : String := s!"ws_{c.taskId}_{slice c.uuidHex 8}"

/-- The size that is asked for, or the default. -/
def requestedSize : ℤ :=
  match c.sizeMb with
  | some sizeMb => if sizeMb ≠ 0 then sizeMb else m.config.sizeMb
  | none => m.config.sizeMb

/-- Mounting a tmpfs: the state of the new workspace. Only a timeout is caught. -/
def mountTmpfs : Except PyErr WorkspaceState :=
  if c.isRoot then
    match c.mount with
    | .exit returncode => .ok (if returncode ≠ 0 then .created else .mounted)
    | .timedOut _ => .ok .created
    | .raised err _ => .error err
  else .ok .created

/-- A new workspace, if the arguments are valid. -/
def newWorkspace : Except PyErr Workspace := do
  let sizeMb := requestedSize m c
  if c.taskId = "" ∨ ¬matchesLine isTaskId c.taskId then
    valueError s!"Invalid task_id: {c.taskIdRepr} (must match [a-zA-Z0-9_-]+)"
  else
    let maxSize := m.config.sizeMb * 5
    if sizeMb < 1 ∨ maxSize < sizeMb then
      valueError s!"Invalid size_mb: {sizeMb} (must be 1-{maxSize})"
    else
      c.makedirs
      let state ← mountTmpfs c
      return {
        workspaceId := newWorkspaceId c
        mountPath := pathJoin m.config.mountBase (newWorkspaceId c)
        sizeMb := sizeMb
        state := state
        encryptionKeyHash := c.keyHash
        createdAt := c.now }

/-- Creating a workspace. -/
def create : WorkspaceManager × Except PyErr Workspace :=
  match newWorkspace m c with
  | .error err => (m, .error err)
  | .ok workspace =>
    ({ m with workspaces := m.workspaces.set workspace.workspaceId workspace }, .ok workspace)

end WorkspaceManager

/-! ## Wiping a workspace -/

/-- What a call of `wipe` meets. -/
structure WipeOutcomes where
  /-- What ends the passes, if something does: errors of the file system are caught. -/
  overwrite : ℕ → Option PyErr := fun _ => none
  /-- Whether the process is root when it unmounts. -/
  isRoot : Bool
  /-- The first `umount`. -/
  umount : MountOutcome
  /-- `os.path.ismount(mount_path)`. -/
  ismount : Except PyErr Bool
  /-- Whether the process is root when it removes the directory. -/
  isRootThen : Bool
  /-- The `umount` of what is still mounted. -/
  umountThen : MountOutcome
  /-- Whether `shutil.rmtree` can remove all that is in the directory, and what it raises. -/
  rmtree : Bool × Option PyErr
  /-- What `os.rmdir(parent)` raises. -/
  rmdir : Option PyErr
  now : PyFloat

/-- The state of a call of `wipe`. -/
structure WipeState where
  manager : WorkspaceManager
  /-- What is at the path of the workspace. -/
  path : PathState
  effects : List WorkspaceEffect := []

/-- A computation of `wipe`. -/
abbrev WipeM := EStateM PyErr WipeState

/-- Raising an exception, if there is one. -/
def raiseSome : Option PyErr → WipeM Unit
  | none => return
  | some err => throw err

/-- Doing something that changes the path. -/
def doEffect (effect : WorkspaceEffect) (change : PathState → PathState) : WipeM Unit :=
  modify fun s => { s with path := change s.path, effects := s.effects ++ [effect] }

/-- Running `umount -l`. -/
def runUmount (outcome : MountOutcome) (path : String) : WipeM Unit := do
  doEffect (.umount path) fun p => if outcome.takesEffect then p.umount else p
  match outcome with
  | .exit _ => return
  | .timedOut _ => throw ⟨.otherException "TimeoutExpired", "umount timed out"⟩
  | .raised err _ => throw err

namespace WorkspaceManager

variable (o : WipeOutcomes)

/-- Overwriting the files in a directory `n` times, from pass number `i` on. -/
def overwritePasses (path : String) (i : ℕ) : ℕ → WipeM Unit
  | 0 => return
  | n + 1 => do
    doEffect (.overwrite path) id
    raiseSome (o.overwrite i)
    overwritePasses path (i + 1) n

/-- Wiping what is mounted. -/
def wipeMounted (path : String) (passes : ℕ) : WipeM Unit := do
  overwritePasses o path 0 passes
  if o.isRoot then
    tryCatch (runUmount o.umount path) fun err =>
      if err.cls = .otherException "TimeoutExpired" then return else throw err

/-- Removing what is in the directory, the directory, and the one it is in if this is empty
    then. -/
def removeTree (path : String) : WipeM Unit := do
  doEffect (.rmtree path) fun p => if o.rmtree.1 then p.remove else p
  raiseSome o.rmtree.2
  doEffect (.rmdir (pathDirname path)) id
  tryCatch (raiseSome o.rmdir) fun err => if err.cls = .osError then return else throw err

/-- Removing the directory, which may still be mounted. -/
def removeDirectory (path : String) : WipeM Unit := do
  let mounted ← MonadExcept.ofExcept o.ismount
  if mounted ∧ o.isRootThen then runUmount o.umountThen path
  removeTree o path

/-- Marking a workspace as wiped. -/
def markWiped (m : WorkspaceManager) (workspaceId : String) (workspace : Workspace)
    (now : PyFloat) : WorkspaceManager :=
  let wiped := { workspace with state := .wiped, wipedAt := some now }
  { m with workspaces := m.workspaces.set workspaceId wiped }

/-- The last steps of `wipe`: removing the directory, as far as possible, and marking the
    workspace. -/
def finishWipe (workspaceId : String) (workspace : Workspace) : WipeM Bool := do
  tryCatch (removeDirectory o workspace.mountPath) fun err =>
    if err.isException then return else throw err
  modify fun s => { s with manager := markWiped s.manager workspaceId workspace o.now }
  return true

/-- Wiping a workspace. -/
def wipe (workspaceId : String) : WipeM Bool := do
  let m := (← get).manager
  match m.workspaces.get? workspaceId with
  | none => return false
  | some workspace =>
    if workspace.state = .mounted then
      wipeMounted o workspace.mountPath m.config.wipePasses.toNat
    finishWipe o workspaceId workspace

end WorkspaceManager

/-! ## All workspaces -/

/-- `state.value`. -/
def WorkspaceState.value : WorkspaceState → String
  | created => "created"
  | mounted => "mounted"
  | wiped => "wiped"
  | destroyed => "destroyed"

/-- What is listed of a workspace. -/
structure WorkspaceRow where
  workspaceId : String
  mountPath : String
  sizeMb : ℤ
  state : String
  encrypted : Bool
  createdAt : PyFloat
  wipedAt : Option PyFloat

namespace WorkspaceManager

/-- A workspace by its identifier. -/
def getWorkspace (m : WorkspaceManager) (workspaceId : String) : Option Workspace :=
  m.workspaces.get? workspaceId

/-- Listing all workspaces. -/
def listWorkspaces (m : WorkspaceManager) : List WorkspaceRow :=
  m.workspaces.items.map fun (_, ws) => {
    workspaceId := ws.workspaceId
    mountPath := ws.mountPath
    sizeMb := ws.sizeMb
    state := ws.state.value
    encrypted := ws.encryptionKeyHash ≠ ""
    createdAt := ws.createdAt
    wipedAt := ws.wipedAt }

/-- What a call of `cleanup_stale` meets: at the path of every workspace, and when it wipes it. -/
structure CleanupOutcomes where
  /-- Whether a workspace that was created then is too old, `now - created_at > max_age`. -/
  tooOld : PyFloat → Bool
  wipe : String → WipeOutcomes
  path : String → PathState

/-- The workspaces that are too old and have not been wiped. -/
def staleIds (m : WorkspaceManager) (tooOld : PyFloat → Bool) : List String :=
  (m.workspaces.items.filter fun (_, ws) => ws.state ≠ .wiped && tooOld ws.createdAt).map Prod.fst

/-- How wiping a workspace ends. -/
def wipeResult (o : CleanupOutcomes) (m : WorkspaceManager) (workspaceId : String) :
    EStateM.Result PyErr WipeState Bool :=
  wipe (o.wipe workspaceId) workspaceId { manager := m, path := o.path workspaceId }

/-- Wiping workspaces in turn. An exception ends the loop. -/
def wipeAll (o : CleanupOutcomes) (m : WorkspaceManager) :
    List String → WorkspaceManager × Except PyErr Unit
  | [] => (m, .ok ())
  | workspaceId :: rest =>
    match wipeResult o m workspaceId with
    | .ok _ s => wipeAll o s.manager rest
    | .error err s => (s.manager, .error err)

/-- Wiping the workspaces that are too old. -/
def cleanupStale (m : WorkspaceManager) (o : CleanupOutcomes) :
    WorkspaceManager × Except PyErr Unit :=
  wipeAll o m (m.staleIds o.tooOld)

end WorkspaceManager

/-! ## Calls -/

/-- A call of the manager: for `wipe` with what is at the path. -/
inductive WorkspaceCall
  | create (c : WorkspaceCreation)
  | wipe (workspaceId : String) (o : WipeOutcomes) (path : PathState)

namespace WorkspaceCall

/-- The manager after a call. -/
def exec (m : WorkspaceManager) : WorkspaceCall → WorkspaceManager
  | create c => (m.create c).1
  | wipe workspaceId o path =>
    (endState (WorkspaceManager.wipe o workspaceId { manager := m, path := path })).manager

/-- The manager after a list of calls. -/
def execAll (config : WorkspaceConfig) (calls : List WorkspaceCall) : WorkspaceManager :=
  calls.foldl exec (.new config)

end WorkspaceCall

end VibeShield
