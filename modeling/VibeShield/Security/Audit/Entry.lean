import VibeShield.Python.Runtime

/-!
# Audit entries

An entry of the audit log (`AuditEntry`) holds what happened and two hashes: the
one of the entry before it (`prevHash`) and its own (`entryHash`), the digest of
the canonical JSON text of its other fields, `prevHash` included
(`AuditEntry.computeHash`). The `sequence` number is not hashed.

An imported entry may hold any JSON value in its content fields, so these are
`PyVal`s; the hashes are strings.
-/

namespace VibeShield

/-- How grave an event is. -/
inductive AuditSeverity
  | info
  | warning
  | critical
deriving DecidableEq, Repr

/-- `severity.value`. -/
def AuditSeverity.value : AuditSeverity → String
  | info => "info"
  | warning => "warning"
  | critical => "critical"

/-- What an event is about. -/
inductive AuditCategory
  | containerLifecycle
  | networkEgress
  | agentCommand
  | securityViolation
  | escrowEvent
  | accessControl
  | integrityCheck
deriving DecidableEq, Repr

/-- `category.value`. -/
def AuditCategory.value : AuditCategory → String
  | containerLifecycle => "container_lifecycle"
  | networkEgress => "network_egress"
  | agentCommand => "agent_command"
  | securityViolation => "security_violation"
  | escrowEvent => "escrow_event"
  | accessControl => "access_control"
  | integrityCheck => "integrity_check"

/-- A single tamper-evident audit log entry. -/
structure AuditEntry where
  timestamp : PyVal
  category : PyVal
  severity : PyVal
  event : PyVal
  agentId : PyVal := .none
  taskId : PyVal := .none
  details : PyVal := .dict []
  prevHash : String := ""
  entryHash : String := ""
  sequence : PyVal := .int 0

namespace AuditEntry

/-- The hashed fields, as the dictionary that is written as JSON. -/
def content (e : AuditEntry) : PyVal :=
  .dict [
    (.str "timestamp", e.timestamp),
    (.str "category", e.category),
    (.str "severity", e.severity),
    (.str "event", e.event),
    (.str "agent_id", e.agentId),
    (.str "task_id", e.taskId),
    (.str "details", e.details),
    (.str "prev_hash", .str e.prevHash)]

/-- The digest of the content and the previous hash; it raises if some field
    cannot be written as JSON. -/
def computeHash (py : Python) (e : AuditEntry) : Except PyErr String := do
  let content ← py.dumps e.content
  return py.sha256 content

/-- Setting the entry hash. -/
def sealEntry (py : Python) (e : AuditEntry) : Except PyErr AuditEntry := do
  return { e with entryHash := ← e.computeHash py }

/-- Entries with the same content hold the same values in the hashed fields. -/
theorem content_inj {e f : AuditEntry} (h : e.content = f.content) :
    e.timestamp = f.timestamp ∧ e.category = f.category ∧ e.severity = f.severity ∧
      e.event = f.event ∧ e.agentId = f.agentId ∧ e.taskId = f.taskId ∧
      e.details = f.details ∧ e.prevHash = f.prevHash := by
  simpa [content] using h

/-- An entry is determined by its content, its own hash and its number. -/
theorem eq_of_content_eq {e f : AuditEntry} (h : e.content = f.content)
    (hhash : e.entryHash = f.entryHash) (hseq : e.sequence = f.sequence) : e = f := by
  obtain ⟨h₁, h₂, h₃, h₄, h₅, h₆, h₇, h₈⟩ := content_inj h
  cases e
  cases f
  simp_all

variable {py : Python}

theorem computeHash_eq_ok {e : AuditEntry} {hash : String} :
    e.computeHash py = .ok hash ↔
      ∃ text, py.dumps e.content = .ok text ∧ py.sha256 text = hash := by
  rw [computeHash]
  cases py.dumps e.content with
  | error err => exact ⟨fun h => absurd h nofun, fun ⟨_, h, _⟩ => absurd h nofun⟩
  | ok text =>
    exact ⟨fun h => ⟨text, rfl, Except.ok.inj h⟩,
      fun ⟨_, ht, h⟩ => congrArg Except.ok ((congrArg py.sha256 (Except.ok.inj ht)).trans h)⟩

/-- Sealing sets the entry hash to the computed one and nothing else. -/
theorem sealEntry_eq_ok {e f : AuditEntry} :
    e.sealEntry py = .ok f ↔
      ∃ hash, e.computeHash py = .ok hash ∧ f = { e with entryHash := hash } := by
  rw [sealEntry]
  cases e.computeHash py with
  | error err => exact ⟨fun h => absurd h nofun, fun ⟨_, h, _⟩ => absurd h nofun⟩
  | ok hash =>
    exact ⟨fun h => ⟨hash, rfl, (Except.ok.inj h).symm⟩,
      fun ⟨_, hh, h⟩ => h ▸ Except.ok.inj hh ▸ rfl⟩

theorem sealEntry_eq_error {e : AuditEntry} {err : PyErr} :
    e.sealEntry py = .error err ↔ e.computeHash py = .error err := by
  rw [sealEntry]
  cases e.computeHash py with
  | error err' =>
    exact ⟨fun h => congrArg Except.error (Except.error.inj h),
      fun h => congrArg Except.error (Except.error.inj h)⟩
  | ok hash => exact ⟨fun h => absurd h nofun, fun h => absurd h nofun⟩

end AuditEntry

end VibeShield
