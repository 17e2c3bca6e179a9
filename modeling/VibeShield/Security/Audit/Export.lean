import VibeShield.Lib.Trace
import VibeShield.Python.Files
import VibeShield.Security.Audit.Import
import VibeShield.Security.Audit.Merkle

/-!
# Exporting an audit log

A log is exported as one JSON object a line, as a whole or the last entry
(`AuditState.exportJsonl`) or what is new since the last time
(`AuditState.exportIncremental`, which keeps the number of the last entry in a second file),
or as a single JSON document (`AuditState.exportJson`). The calls work on a log and a disk
(`AuditState`), and so does the import (`AuditState.importJsonl`).
-/

namespace VibeShield

/-- What the exports call besides. -/
structure ExportLib where
  py : Python
  /-- `json.dumps(v)`. -/
  dumpsLine : PyVal → Except PyErr String
  /-- `json.dump(v, f, indent=2)`: what is written, and the exception that ends it early. -/
  dumpIndented : PyVal → String × Option PyErr
  /-- `int(s)`. -/
  parseInt : String → Except PyErr ℤ
  /-- `round((last - first) / 3600, 2)`. -/
  hoursBetween : PyVal → PyVal → Except PyErr PyVal

variable (lib : ExportLib)

/-! ## Entries -/

namespace AuditEntry

/-- `entry.to_dict()`. -/
def toDict (e : AuditEntry) : PyVal :=
  .dict [
    (.str "timestamp", e.timestamp),
    (.str "category", e.category),
    (.str "severity", e.severity),
    (.str "event", e.event),
    (.str "agent_id", e.agentId),
    (.str "task_id", e.taskId),
    (.str "details", e.details),
    (.str "prev_hash", .str e.prevHash),
    (.str "entry_hash", .str e.entryHash),
    (.str "sequence", e.sequence)]

/-- `entry.to_json()`. -/
def toJson (e : AuditEntry) : Except PyErr String := lib.dumpsLine e.toDict

end AuditEntry

/-! ## Statistics -/

namespace PyVal

/-- The number a value is equal to. -/
def toNumber? : PyVal → Option PyFloat
  | bool b => some (.fin (if b then 1 else 0))
  | int n => some (.fin n)
  | float .negZero => some (.fin 0)
  | float x => some x
  | _ => Option.none

/-- Whether two values are one key of a dictionary. A NaN is none: that a dictionary finds the
    very same object is left out. -/
def sameKey : PyVal → PyVal → Bool
  | none, none => true
  | str s, str t => s = t
  | object r, object s => r = s
  | v, w =>
    match v.toNumber?, w.toNumber? with
    | some x, some y => x = y ∧ x ≠ .nan
    | _, _ => false

/-- The exception raised if the value is used as a key. -/
def keyError? : PyVal → Option PyErr
  | list _ => some ⟨.typeError, "unhashable type: 'list'"⟩
  | dict _ => some ⟨.typeError, "unhashable type: 'dict'"⟩
  | _ => Option.none

/-- `v > n`. -/
def isGreater (v : PyVal) (n : ℤ) : Except PyErr Bool :=
  match v.toNumber? with
  | some (.fin q) => .ok (n < q)
  | some .inf => .ok true
  | some _ => .ok false
  | Option.none => .error ⟨.typeError, "'>' not supported between these types"⟩

end PyVal

/-- Counting one more `key`. -/
def countKey (key : PyVal) : List (PyVal × ℕ) → List (PyVal × ℕ)
  | [] => [(key, 1)]
  | (k, n) :: counts =>
    if k.sameKey key then (k, n + 1) :: counts else (k, n) :: countKey key counts

/-- How often each key occurs, in the order of the first occurrences. -/
def countKeys (keys : List PyVal) : List (PyVal × ℕ) :=
  keys.foldl (fun counts key => countKey key counts) []

/-- A dictionary of counts. -/
def countsDict (counts : List (PyVal × ℕ)) : PyVal := .dict (counts.map fun p => (p.1, .int p.2))

/-- The ten greatest counts. -/
def topTen (counts : List (PyVal × ℕ)) : List (PyVal × ℕ) :=
  (counts.mergeSort fun p q => q.2 ≤ p.2).take 10

/-- What an entry is counted by. -/
def AuditEntry.statisticsKeys (e : AuditEntry) : List PyVal :=
  [e.category, e.severity, e.event] ++ if e.agentId.truthy then [e.agentId] else []

namespace AuditLog

/-- Statistics about the log. -/
def statistics (l : AuditLog) : Except PyErr PyVal :=
  match l.entries.head?, l.entries.getLast? with
  | some first, some last =>
    match (l.entries.flatMap AuditEntry.statisticsKeys).findSome? PyVal.keyError? with
    | some err => .error err
    | none => do
      let hours ← lib.hoursBetween first.timestamp last.timestamp
      return .dict [
        (.str "total", .int l.length),
        (.str "categories", countsDict (countKeys (l.entries.map AuditEntry.category))),
        (.str "severities", countsDict (countKeys (l.entries.map AuditEntry.severity))),
        (.str "top_events", countsDict (topTen (countKeys (l.entries.map AuditEntry.event)))),
        (.str "top_agents", countsDict (topTen (countKeys
          ((l.entries.map AuditEntry.agentId).filter PyVal.truthy)))),
        (.str "merkle_root", .str (l.computeMerkleRoot lib.py)),
        (.str "time_range", .dict [
          (.str "first", first.timestamp),
          (.str "last", last.timestamp),
          (.str "duration_hours", hours)])]
  | _, _ => .ok (.dict [(.str "total", .int 0)])

/-- The document that `export_json` writes. -/
def exportData (l : AuditLog) (logId : String) (includeMerkle : Bool) : Except PyErr PyVal := do
  let statistics ← l.statistics lib
  return .dict ([
    (.str "log_id", .str logId),
    (.str "entries", .list (l.entries.map AuditEntry.toDict)),
    (.str "statistics", statistics)] ++
    if includeMerkle then [(.str "merkle_root", .str (l.computeMerkleRoot lib.py))] else [])

end AuditLog

/-- The entries with a number above `last`. -/
def newEntries (last : ℤ) : List AuditEntry → Except PyErr (List AuditEntry)
  | [] => .ok []
  | e :: es => do
    let isNew ← e.sequence.isGreater last
    let new ← newEntries last es
    return if isNew then e :: new else new

/-! ## Files -/

/-- A log and a disk. -/
structure AuditState where
  log : AuditLog
  disk : Disk

/-- Working on the disk. -/
def onDisk {α : Type} (x : EStateM PyErr Disk α) : EStateM PyErr AuditState α := fun s =>
  match x s.disk with
  | .ok a disk => .ok a { s with disk := disk }
  | .error err disk => .error err { s with disk := disk }

/-- Working on the disk leaves the log as it is. -/
theorem endState_onDisk {α : Type} (x : EStateM PyErr Disk α) (s : AuditState) :
    endState (onDisk x s) = ⟨s.log, endState (x s.disk)⟩ := by
  rw [onDisk]
  cases x s.disk with
  | ok a disk => rfl
  | error err disk => rfl

namespace FileSys

variable (fs : FileSys)

/-- Writing lines, one for each entry. -/
def writeLines (file : String) : List AuditEntry → EStateM PyErr Disk Unit
  | [] => pure ()
  | e :: es => do
    let line ← ofExcept (e.toJson lib)
    fs.writeText file (line ++ "\n")
    writeLines file es

/-- Opening a file and writing lines. -/
def writeEntries (mode : OpenMode) (path : String) (es : List AuditEntry) :
    EStateM PyErr Disk Unit := do
  let file ← fs.openFile mode path
  fs.writeLines lib file es

/-- Making the directory of a file. -/
def makeParent (path : String) : Except PyErr Unit :=
  fs.makedirs (if pathDirname path ≠ "" then pathDirname path else ".")

/-- The number of the last entry that has been exported: 0 if the tracker is not there or
    does not hold a number. -/
def lastExported (trackerPath : String) : EStateM PyErr Disk ℤ := fun disk =>
  match (do ofExcept (lib.parseInt (pyStrip (← fs.readFile trackerPath)))) disk with
  | .ok n disk => .ok n disk
  | .error err disk =>
    if err.cls = fileNotFound ∨ err.isValueError then .ok 0 disk else .error err disk

/-- `json.dump(data, f, indent=2)`. -/
def dumpJson (data : PyVal) (file : String) : EStateM PyErr Disk Unit := do
  fs.writeText file (lib.dumpIndented data).1
  match (lib.dumpIndented data).2 with
  | some err => throw err
  | none => pure ()

/-- Opening a file and writing a document. -/
def writeDocument (path : String) (data : PyVal) : EStateM PyErr Disk Unit := do
  fs.dumpJson lib data (← fs.openFile .write path)

/-- Writing the number of the last entry. -/
def updateTracker (trackerPath : String) (es : List AuditEntry) : EStateM PyErr Disk Unit := do
  let file ← fs.openFile .write trackerPath
  match es.getLast? with
  | some e => fs.writeText file (lib.py.str e.sequence)
  | none => throw ⟨.otherException "IndexError", "list index out of range"⟩

end FileSys

namespace AuditState

variable (fs : FileSys)

/-- The path that is written to, if it lies in the directory of the log. -/
def validatedPath (path : String) : EStateM PyErr AuditState String := do
  let s ← get
  let validated ← ofExcept (validatePath (fs.os s.disk) s.log.auditDir path true)
  ofExcept (fs.makeParent validated)
  return validated

/-- Writing the log to a file: all entries, or the last one if `mode` is `"a"`. -/
def exportTo (mode validated : String) : EStateM PyErr AuditState Unit := do
  let s ← get
  if mode = "a" then
    match s.log.entries.getLast? with
    | some e => onDisk (fs.writeEntries lib .append validated [e])
    | none => pure ()
  else onDisk (fs.writeEntries lib .write validated s.log.entries)
  modify fun s => { s with log := { s.log with dirty := false } }

/-- Exporting the log as one JSON object a line. -/
def exportJsonl (path : String) (mode : String := "w") : EStateM PyErr AuditState Unit := do
  exportTo lib fs mode (← validatedPath fs path)

/-- Exporting the log as a single document. -/
def exportJson (logId path : String) (includeMerkle : Bool := true) :
    EStateM PyErr AuditState Unit := do
  let s ← get
  let data ← ofExcept (s.log.exportData lib logId includeMerkle)
  ofExcept (fs.makeParent path)
  onDisk (fs.writeDocument lib path data)

/-- Appending new entries to a file and updating the tracker. -/
def appendTo (trackerPath : String) (new : List AuditEntry) (validated : String) :
    EStateM PyErr AuditState Unit := do
  onDisk (fs.writeEntries lib .append validated new)
  let s ← get
  onDisk (fs.updateTracker lib trackerPath s.log.entries)

/-- Exporting the entries with a number above `last`. -/
def exportSince (path trackerPath : String) (last : ℤ) : EStateM PyErr AuditState Unit := do
  let s ← get
  let new ← ofExcept (newEntries last s.log.entries)
  if new.isEmpty then return ()
  else appendTo lib fs trackerPath new (← validatedPath fs path)

/-- Exporting the entries that are new since the last time. -/
def exportIncremental (path : String) : EStateM PyErr AuditState Unit := do
  let trackerPath := path ++ ".seq"
  exportSince lib fs path trackerPath (← onDisk (fs.lastExported lib trackerPath))

/-- The disk after an import: the file is opened if its path is valid. -/
def importedDisk (path : String) (s : AuditState) : Disk :=
  match validatePath (fs.os s.disk) s.log.auditDir path false with
  | .error _ => s.disk
  | .ok validated => endState (fs.openFile .read validated s.disk)

/-- Importing a file into the log. -/
def importJsonl (path : String) : EStateM PyErr AuditState Bool := fun s =>
  let imported := s.log.importJsonl lib.py (fs.os s.disk) path
  endsIn imported.2.returned ⟨imported.1, importedDisk fs path s⟩

end AuditState

/-! ## A library to run them with -/

namespace Sample

/-- The number that digits stand for. -/
def parseDigits (text : String) : Except PyErr ℤ :=
  if text ≠ "" ∧ text.toList.all Char.isDigit then
    .ok (text.toList.foldl (fun n c => 10 * n + (c.toNat - 48)) 0)
  else .error ⟨.valueError, s!"invalid literal for int() with base 10: '{text}'"⟩

/-- The library, which can parse the texts of some values. -/
def exportLib (vs : List PyVal) : ExportLib where
  py := { Sample.lib with loads := parseLine vs }
  dumpsLine v :=
    match jsonLine v with
    | some text => .ok text
    | none => .error ⟨.typeError, "Object is not JSON serializable"⟩
  dumpIndented _ := ("\x7b\n  \"log_id\": \"log\",\n  \"entries\": [],\n" ++
    "  \"statistics\": \x7b\n    \"total\": 0\n  \x7d\n\x7d", none)
  parseInt := parseDigits
  hoursBetween _ _ := .ok (.float (.fin 0))

end Sample

end VibeShield
