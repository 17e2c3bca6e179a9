import VibeShield.Lib.PyDict
import VibeShield.Lib.HashChain
import VibeShield.Python.Json
import VibeShield.Security.Audit.Entry

/-!
# The audit log

A log is a list of entries, each naming the hash of the one before it, and an
index from sequence numbers to positions (`AuditLog`). `AuditLog.record` appends
an entry, `AuditLog.verifyChain` walks the list from the genesis hash on.

`verifyChain_eq_intact` says what a verified log is: its entries are numbered
from 1 (`Numbered`) and form a hash chain (`HashChain.Linked`).
-/

namespace VibeShield

/-- `GENESIS_HASH`, which the first entry names as the hash before it. -/
def genesisHash : String := String.join (List.replicate 4 "GENESIS")

/-- The audit log. `onCritical` tells whether there is an alert callback; a key
    of the index is the integer that the sequence number is equal to. -/
structure AuditLog where
  auditDir : String
  entries : List AuditEntry
  /-- From sequence numbers to positions in `entries`. -/
  index : PyDict ℤ ℕ
  onCritical : Bool
  /-- Whether an export is needed. -/
  dirty : Bool

/-- The arguments of `record`, and the reading of the clock. -/
structure RecordArgs where
  category : AuditCategory ⊕ PyVal
  severity : AuditSeverity ⊕ PyVal
  event : PyVal
  agentId : PyVal := .none
  taskId : PyVal := .none
  details : PyVal := .none
  now : PyFloat

/-- What `verify_chain` returns. -/
structure ChainReport where
  valid : Bool
  brokenAt : Option PyVal
  reason : String

/-- The report on a log without damage. -/
def ChainReport.intact : ChainReport := ⟨true, none, "Chain integrity verified"⟩

namespace AuditLog

/-- The empty log. -/
def new (auditDir : String) (onCritical : Bool) : AuditLog where
  auditDir := auditDir
  entries := []
  index := PyDict.empty
  onCritical := onCritical
  dirty := false

/-- The number of entries. -/
def length (l : AuditLog) : ℕ := l.entries.length

/-- The hash of the last entry. -/
def lastHash (l : AuditLog) : String :=
  match l.entries.getLast? with
  | none => genesisHash
  | some e => e.entryHash

theorem lastHash_eq_tip (l : AuditLog) :
    l.lastHash = HashChain.tip AuditEntry.entryHash genesisHash l.entries := by
  rw [lastHash]
  rcases List.eq_nil_or_concat' l.entries with h | ⟨es, e, h⟩
  · rw [h]; rfl
  · rw [h, List.getLast?_concat, HashChain.tip_concat]

/-! ## Recording -/

/-- The entry that `record` makes of its arguments, not sealed yet. -/
def newEntry (l : AuditLog) (a : RecordArgs) : AuditEntry where
  timestamp := .float a.now
  category := a.category.elim (fun c => .str c.value) id
  severity := a.severity.elim (fun s => .str s.value) id
  event := a.event
  agentId := a.agentId
  taskId := a.taskId
  details := if a.details.truthy then a.details else .dict []
  prevHash := l.lastHash
  sequence := .int (l.length + 1)

/-- Appending an entry under the key `k` of the index. -/
def append (l : AuditLog) (k : ℤ) (e : AuditEntry) : AuditLog :=
  { l with entries := l.entries ++ [e], index := l.index.set k l.length }

/-- Appending a new entry to the chain. `callback` is what the alert callback
    does to the log it is called on, and the exception it ends in, if any. -/
def record (py : Python) (l : AuditLog) (a : RecordArgs)
    (callback : AuditEntry → AuditLog → AuditLog × Option PyErr) :
    AuditLog × Except PyErr AuditEntry :=
  match (l.newEntry a).sealEntry py with
  | .error err => (l, .error err)
  | .ok entry =>
    let l := { l.append (l.length + 1) entry with dirty := true }
    match entry.severity with
    | .str severity =>
      if severity = AuditSeverity.critical.value ∧ l.onCritical then
        -- The entry is in the log already. Only an `Exception` of the callback is caught.
        match callback entry l with
        | (l, none) => (l, .ok entry)
        | (l, some err) => (l, if err.isException then .ok entry else .error err)
      else (l, .ok entry)
    -- The debug message asks for `severity.upper()`, which only strings have.
    | _ => (l, .error ⟨.attributeError, "object has no attribute 'upper'"⟩)

/-! ## Chain verification -/

/-- The loop of `verify_chain`, from the position `i` on. -/
def verifyFrom (py : Python) (i : ℕ) (prevHash : String) :
    List AuditEntry → Except PyErr ChainReport
  | [] => .ok .intact
  | entry :: entries =>
    if entry.sequence.toInt? ≠ some ((i : ℤ) + 1) then
      .ok ⟨false, some entry.sequence,
        s!"Sequence gap: expected {i + 1}, got {py.str entry.sequence}"⟩
    else if entry.prevHash ≠ prevHash then
      .ok ⟨false, some entry.sequence, s!"Chain broken at entry {py.str entry.sequence}: " ++
        s!"prev_hash mismatch (expected {slice prevHash 16}..., " ++
        s!"got {slice entry.prevHash 16}...)"⟩
    else
      match entry.computeHash py with
      | .error err => .error err
      | .ok expectedHash =>
        if entry.entryHash ≠ expectedHash then
          .ok ⟨false, some entry.sequence, s!"Hash mismatch at entry {py.str entry.sequence}: " ++
            "entry was modified after sealing"⟩
        else verifyFrom py (i + 1) entry.entryHash entries

/-- Verifying the integrity of the entire chain. -/
def verifyChain (py : Python) (l : AuditLog) : Except PyErr ChainReport :=
  verifyFrom py 0 genesisHash l.entries

end AuditLog

/-! ## What is verified -/

/-- The entry carries the hash of its content. -/
def IsSealed (py : Python) (e : AuditEntry) : Prop := e.computeHash py = .ok e.entryHash

/-- The entries form a chain from the hash `g` on. -/
abbrev Chained (py : Python) (g : String) (es : List AuditEntry) : Prop :=
  HashChain.Linked AuditEntry.prevHash AuditEntry.entryHash (IsSealed py) g es

/-- The entries are numbered from `i + 1` on. -/
def Numbered : ℕ → List AuditEntry → Prop
  | _, [] => True
  | i, e :: es => e.sequence.toInt? = some ((i : ℤ) + 1) ∧ Numbered (i + 1) es

theorem numbered_append {i : ℕ} {es fs : List AuditEntry} :
    Numbered i (es ++ fs) ↔ Numbered i es ∧ Numbered (i + es.length) fs := by
  induction es generalizing i with
  | nil => simp [Numbered]
  | cons e es ih =>
    rw [List.cons_append, Numbered, Numbered, ih, and_assoc, List.length_cons, Nat.add_right_comm,
      Nat.add_assoc]

theorem Numbered.getElem {i k : ℕ} {es : List AuditEntry} (h : Numbered i es)
    (hk : k < es.length) : es[k].sequence.toInt? = some ((i : ℤ) + k + 1) := by
  induction es generalizing i k with
  | nil => exact absurd hk (Nat.not_lt_zero k)
  | cons e es ih =>
    cases k with
    | zero => simpa using h.1
    | succ k =>
      have := ih h.2 (Nat.lt_of_succ_lt_succ hk)
      rw [List.getElem_cons_succ, this]
      congr 1
      omega

namespace AuditLog

variable {py : Python}

theorem verifyFrom_eq_intact {i : ℕ} {g : String} {es : List AuditEntry} :
    verifyFrom py i g es = .ok .intact ↔ Numbered i es ∧ Chained py g es := by
  induction es generalizing i g with
  | nil => exact ⟨fun _ => ⟨trivial, trivial⟩, fun _ => rfl⟩
  | cons e es ih =>
    -- The three checks of the loop are what the list has to satisfy at `e`.
    rw [verifyFrom, Numbered, Chained, HashChain.Linked]
    split
    · next h => simp [ChainReport.intact, h]
    · next h =>
      rw [not_not] at h
      split
      · next hp => simp [ChainReport.intact, hp]
      · next hp =>
        rw [not_not] at hp
        rw [IsSealed]
        cases he : e.computeHash py with
        | error err => simp
        | ok hash =>
          by_cases hh : e.entryHash = hash
          · simp [hh, h, hp, ih]
          · simp [hh, ChainReport.intact, Ne.symm hh]

/-- A log is verified exactly if its entries are numbered from 1 on and form a
    chain from the genesis hash. -/
theorem verifyChain_eq_intact {l : AuditLog} :
    l.verifyChain py = .ok .intact ↔ Numbered 0 l.entries ∧ Chained py genesisHash l.entries :=
  verifyFrom_eq_intact

end AuditLog

/-! ## A log of two entries -/

namespace Sample

def startHash : String := "80e7eb84ca325766047deaa773765a38e37023ad3d06a6b4a2b15d3b35f72399"

def stopHash : String := "dd00b28aec42e7de5f7e6f0ddd3889df21adbb9c854141ea2ca477e92259530f"

def rootHash : String := "15e2fb193613c238e00b8295b004214ccdcb53444e225bded003394fe9815af6"

def startArgs : RecordArgs where
  category := .inl .agentCommand
  severity := .inl .info
  event := .str "start"
  now := .fin 1

def stopArgs : RecordArgs := { startArgs with event := .str "stop", now := .fin 2 }

def startText : String :=
  "\x7b\"agent_id\":null,\"category\":\"agent_command\",\"details\":\x7b\x7d," ++
  "\"event\":\"start\",\"prev_hash\":\"GENESISGENESISGENESISGENESIS\"," ++
  "\"severity\":\"info\",\"task_id\":null,\"timestamp\":1.0\x7d"

def stopText : String :=
  "\x7b\"agent_id\":null,\"category\":\"agent_command\",\"details\":\x7b\x7d," ++
  "\"event\":\"stop\"," ++
  "\"prev_hash\":\"80e7eb84ca325766047deaa773765a38e37023ad3d06a6b4a2b15d3b35f72399\"," ++
  "\"severity\":\"info\",\"task_id\":null,\"timestamp\":2.0\x7d"

/-- The library, with the digests of all strings that are hashed. -/
def lib : Python := .plain [(startText, startHash), (stopText, stopHash),
  (startHash ++ stopHash, rootHash),
  ("EMPTY_LOG", "50432a0fd7dbc736661946dfd14857347c0dbc2fa399c9dcb637b39b422d3619")]
  "e3b0c44298fc1c149afbf4c8996fb92427ae41e4649b934ca495991b7852b855"

def emptyLog : AuditLog := .new "/var/lib/vibeshield/audit" false

def startEntry : AuditEntry := { emptyLog.newEntry startArgs with entryHash := startHash }

def startLog : AuditLog := { emptyLog.append 1 startEntry with dirty := true }

def stopEntry : AuditEntry := { startLog.newEntry stopArgs with entryHash := stopHash }

def log : AuditLog := { startLog.append 2 stopEntry with dirty := true }

theorem jsonText_startEntry : jsonText startEntry.content = some startText := by decide +kernel

theorem dumps_startEntry : lib.dumps startEntry.content = .ok startText :=
  jsonDumps_eq_ok.2 jsonText_startEntry

theorem jsonText_stopEntry : jsonText stopEntry.content = some stopText := by decide +kernel

theorem dumps_stopEntry : lib.dumps stopEntry.content = .ok stopText :=
  jsonDumps_eq_ok.2 jsonText_stopEntry

theorem sha256_startText : lib.sha256 startText = startHash := by decide +kernel

theorem sha256_stopText : lib.sha256 stopText = stopHash := by decide +kernel

theorem isSealed_startEntry : IsSealed lib startEntry :=
  AuditEntry.computeHash_eq_ok.2 ⟨_, dumps_startEntry, sha256_startText⟩

theorem isSealed_stopEntry : IsSealed lib stopEntry :=
  AuditEntry.computeHash_eq_ok.2 ⟨_, dumps_stopEntry, sha256_stopText⟩

theorem log_verified : log.verifyChain lib = .ok .intact :=
  AuditLog.verifyChain_eq_intact.2 ⟨⟨rfl, rfl, trivial⟩,
    rfl, isSealed_startEntry, rfl, isSealed_stopEntry, trivial⟩

end Sample

end VibeShield
