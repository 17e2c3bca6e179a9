import VibeShield.Security.Audit.Log
import VibeShield.Security.Utils

/-!
# Importing an audit log

`AuditLog.importJsonl` reads a file of one JSON object a line and appends an
entry for each line that continues the chain, until a line does not
(`AuditLog.importLine`, `AuditLog.importLines`). The entries appended up to there
stay.
-/

namespace VibeShield

/-- The keys a line must have. -/
def requiredFields : List String :=
  ["timestamp", "category", "severity", "event", "prev_hash", "entry_hash", "sequence"]

/-- Why an import stops at a line: a check fails, or an exception is raised. -/
inductive ImportStop
  | missingFields
  | detailsTooLarge
  | sequenceGap
  | chainBroken
  | hashMismatch
  | error (err : PyErr)

/-- The ways `import_jsonl` ends. -/
inductive ImportResult
  | pathRejected
  | stopped (s : ImportStop)
  /-- The final verification failed and the log was cleared. -/
  | cleared
  | imported
  /-- An exception that is not caught. -/
  | raised (err : PyErr)

namespace ImportResult

/-- What the caller sees. -/
def returned : ImportResult → Except PyErr Bool
  | imported => .ok true
  | pathRejected | stopped _ | cleared => .ok false
  | raised err => .error err

/-- The end of an import by an exception in its `try` block: `JSONDecodeError`
    and all other exceptions are caught. -/
def ofError (err : PyErr) : ImportResult :=
  if err.isException then stopped (.error err) else raised err

/-- The end of an import that stops at a line. -/
def ofStop : ImportStop → ImportResult
  | .error err => ofError err
  | s => stopped s

end ImportResult

namespace AuditLog

/-- One JSON object: the entry is appended if it has all fields and continues
    the chain. -/
def importData (py : Python) (l : AuditLog) (data : List (PyVal × PyVal)) :
    Except ImportStop AuditLog :=
  if !requiredFields.all fun k => (PyVal.dictGet? data k).isSome then .error .missingFields
  else
    let get (k : String) : PyVal := (PyVal.dictGet? data k).getD .none
    let details := (PyVal.dictGet? data "details").getD (.dict [])
    if details.isDict ∧ 10000 < (py.str details).length then .error .detailsTooLarge
    else if (get "sequence").toInt? ≠ some ((l.length : ℤ) + 1) then .error .sequenceGap
    else if (get "prev_hash").toStr? ≠ some l.lastHash then .error .chainBroken
    else
      let entry : AuditEntry := {
        timestamp := get "timestamp"
        category := get "category"
        severity := get "severity"
        event := get "event"
        agentId := get "agent_id"
        taskId := get "task_id"
        details := details
        -- The string that `data["prev_hash"]` was just found equal to.
        prevHash := l.lastHash
        sequence := get "sequence" }
      match entry.computeHash py with
      | .error err => .error (.error err)
      | .ok expectedHash =>
        if (get "entry_hash").toStr? ≠ some expectedHash then .error .hashMismatch
        else .ok (l.append (l.length + 1) { entry with entryHash := expectedHash })

/-- One line: a blank one is skipped, any other must be a JSON object. -/
def importLine (py : Python) (l : AuditLog) (line : String) : Except ImportStop AuditLog :=
  let line := pyStrip line
  if line = "" then .ok l
  else
    match py.loads line with
    | .error err => .error (.error err)
    | .ok (.dict data) => l.importData py data
    | .ok _ => .error (.error ⟨.attributeError, "object has no attribute 'keys'"⟩)

/-- The lines up to the first one that is refused. -/
def importLines (py : Python) (l : AuditLog) : List String → AuditLog × Option ImportStop
  | [] => (l, none)
  | line :: lines =>
    match l.importLine py line with
    | .error stop => (l, some stop)
    | .ok l' => l'.importLines py lines

/-- Clearing the log. -/
def clear (l : AuditLog) : AuditLog := { l with entries := [], index := PyDict.empty }

/-- Importing and verifying a JSONL audit log. -/
def importJsonl (py : Python) (os : Os) (l : AuditLog) (path : String) :
    AuditLog × ImportResult :=
  match validatePath os l.auditDir path false with
  | .error err => (l, if err.isValueError then .pathRejected else .raised err)
  | .ok validatedPath =>
    let file := os.readLines validatedPath
    match l.importLines py file.1 with
    | (l, some stop) => (l, .ofStop stop)
    | (l, none) =>
      -- Reading the file may fail after the lines that have been imported.
      match file.2 with
      | some err => (l, .ofError err)
      | none =>
        match l.verifyChain py with
        | .error err => (l, .ofError err)
        | .ok report => if report.valid then (l, .imported) else (l.clear, .cleared)

end AuditLog

end VibeShield
