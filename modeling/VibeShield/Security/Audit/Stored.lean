import VibeShield.Security.Audit.Commitment

/-!
# Entries whose fields hold anything

The hashes of an entry that the log has made are strings (`AuditEntry`). Whoever tampers with an
entry may set its fields to any values, these two included (`StoredEntry`). The verification of
such entries (`StoredEntry.verifyFrom`) is the one of the log if the hashes are strings
(`verifyFrom_map_stored`). Of a wrong previous hash it reports the first sixteen characters, so it
raises an exception if the value has no slices (`PyVal.hasSlices`).
-/

namespace VibeShield

/-- An entry whose fields have been set to any values. -/
structure StoredEntry where
  timestamp : PyVal
  category : PyVal
  severity : PyVal
  event : PyVal
  agentId : PyVal
  taskId : PyVal
  details : PyVal
  prevHash : PyVal
  entryHash : PyVal
  sequence : PyVal

/-- The entry as the log has made it. -/
def AuditEntry.stored (e : AuditEntry) : StoredEntry where
  timestamp := e.timestamp
  category := e.category
  severity := e.severity
  event := e.event
  agentId := e.agentId
  taskId := e.taskId
  details := e.details
  prevHash := .str e.prevHash
  entryHash := .str e.entryHash
  sequence := e.sequence

/-- `v[:n]` does not raise: strings and lists have slices. -/
def PyVal.hasSlices : PyVal → Bool
  | str _ | list _ => true
  | _ => false

/-- `str(v[:16])`, with the exceptions of Python 3.11. -/
def PyVal.sliceText (py : Python) : PyVal → Except PyErr String
  | str s => .ok (slice s 16)
  | list vs => .ok (py.str (list (vs.take 16)))
  | dict _ => .error ⟨.typeError, "unhashable type: 'slice'"⟩
  | _ => .error ⟨.typeError, "object is not subscriptable"⟩

namespace StoredEntry

/-- The hashed fields, as the dictionary that is written as JSON. -/
def content (e : StoredEntry) : PyVal :=
  .dict [
    (.str "timestamp", e.timestamp),
    (.str "category", e.category),
    (.str "severity", e.severity),
    (.str "event", e.event),
    (.str "agent_id", e.agentId),
    (.str "task_id", e.taskId),
    (.str "details", e.details),
    (.str "prev_hash", e.prevHash)]

/-- The digest of the content and the previous hash. -/
def computeHash (py : Python) (e : StoredEntry) : Except PyErr String := do
  let content ← py.dumps e.content
  return py.sha256 content

/-- The loop of `verify_chain`, from the position `i` on. -/
def verifyFrom (py : Python) (i : ℕ) (prevHash : String) :
    List StoredEntry → Except PyErr ChainReport
  | [] => .ok .intact
  | entry :: entries =>
    if entry.sequence.toInt? ≠ some ((i : ℤ) + 1) then
      .ok ⟨false, some entry.sequence,
        s!"Sequence gap: expected {i + 1}, got {py.str entry.sequence}"⟩
    else if entry.prevHash.toStr? ≠ some prevHash then
      match entry.prevHash.sliceText py with
      | .error err => .error err
      | .ok got =>
        .ok ⟨false, some entry.sequence, s!"Chain broken at entry {py.str entry.sequence}: " ++
          s!"prev_hash mismatch (expected {slice prevHash 16}..., " ++ s!"got {got}...)"⟩
    else
      match entry.computeHash py with
      | .error err => .error err
      | .ok expectedHash =>
        if entry.entryHash.toStr? ≠ some expectedHash then
          .ok ⟨false, some entry.sequence, s!"Hash mismatch at entry {py.str entry.sequence}: " ++
            "entry was modified after sealing"⟩
        -- The hash of the entry is the expected one.
        else verifyFrom py (i + 1) expectedHash entries

/-- Verifying the integrity of the entire chain. -/
def verifyChain (py : Python) (es : List StoredEntry) : Except PyErr ChainReport :=
  verifyFrom py 0 genesisHash es

end StoredEntry

/-- The texts of which the entries have the digests. -/
def storedTexts (py : Python) (es : List StoredEntry) : Set String :=
  {t | ∃ e ∈ es, py.dumps e.content = .ok t}

variable {py : Python}

/-! ## One turn of the loop -/

theorem PyVal.exists_sliceText_eq_ok_iff (py : Python) (v : PyVal) :
    (∃ s, v.sliceText py = .ok s) ↔ v.hasSlices = true := by
  cases v <;> simp [sliceText, hasSlices]

namespace StoredEntry

variable {i : ℕ} {g : String} {e : StoredEntry} {es : List StoredEntry}

/-- A wrong number is reported. -/
theorem verifyFrom_of_gap (h : e.sequence.toInt? ≠ some ((i : ℤ) + 1)) :
    ∃ r, verifyFrom py i g (e :: es) = .ok r ∧ r.valid = false := by
  rw [verifyFrom, if_pos h]
  exact ⟨_, rfl, rfl⟩

/-- A wrong previous hash is reported if it has slices. -/
theorem verifyFrom_of_unlinked (hseq : e.sequence.toInt? = some ((i : ℤ) + 1))
    (h : e.prevHash.toStr? ≠ some g) :
    (∃ r, verifyFrom py i g (e :: es) = .ok r ∧ r.valid = false) ↔ e.prevHash.hasSlices = true := by
  rw [verifyFrom, if_neg (not_not.2 hseq), if_pos h, ← PyVal.exists_sliceText_eq_ok_iff py]
  cases e.prevHash.sliceText py with
  | error err => simp
  | ok got => simp

/-- If the entry is linked, its hash is computed. -/
theorem verifyFrom_of_linked (hseq : e.sequence.toInt? = some ((i : ℤ) + 1))
    (h : e.prevHash.toStr? = some g) :
    (∀ err, e.computeHash py = .error err → verifyFrom py i g (e :: es) = .error err) ∧
    ∀ hash, e.computeHash py = .ok hash →
      (e.entryHash = .str hash → verifyFrom py i g (e :: es) = verifyFrom py (i + 1) hash es) ∧
      (e.entryHash ≠ .str hash → ∃ r, verifyFrom py i g (e :: es) = .ok r ∧ r.valid = false) := by
  rw [verifyFrom, if_neg (not_not.2 hseq), if_neg (not_not.2 h)]
  constructor
  · intro err herr
    rw [herr]
  · intro hash hhash
    rw [hhash]
    constructor
    · intro hsealed
      exact if_neg (not_not.2 (PyVal.toStr?_eq_some_iff.2 hsealed))
    · intro hbroken
      dsimp only
      rw [if_pos fun hstr => hbroken (PyVal.toStr?_eq_some_iff.1 hstr)]
      exact ⟨_, rfl, rfl⟩

end StoredEntry

/-! ## Entries that the log has made -/

@[simp] theorem content_stored (e : AuditEntry) : e.stored.content = e.content := rfl

@[simp] theorem computeHash_stored (e : AuditEntry) : e.stored.computeHash py = e.computeHash py :=
  rfl

/-- The entries that the log has made are verified as before. -/
theorem verifyFrom_map_stored (i : ℕ) (g : String) (es : List AuditEntry) :
    StoredEntry.verifyFrom py i g (es.map AuditEntry.stored) = AuditLog.verifyFrom py i g es := by
  induction es generalizing i g with
  | nil => rfl
  | cons e es ih =>
    rw [List.map_cons, StoredEntry.verifyFrom, AuditLog.verifyFrom, computeHash_stored]
    have hprev : e.stored.prevHash.toStr? ≠ some g ↔ e.prevHash ≠ g := by
      rw [AuditEntry.stored, PyVal.toStr?_str, Ne, Option.some_inj]
    have hsequence : e.stored.sequence = e.sequence := rfl
    simp only [hprev, hsequence]
    split
    · rfl
    split
    · rfl
    cases e.computeHash py with
    | error err => rfl
    | ok hash =>
      have hhash : e.stored.entryHash.toStr? ≠ some hash ↔ e.entryHash ≠ hash := by
        rw [AuditEntry.stored, PyVal.toStr?_str, Ne, Option.some_inj]
      dsimp only
      simp only [hhash]
      split
      · rfl
      · next hsealed =>
        rw [ih, not_not.1 hsealed]

theorem storedTexts_map_stored (es : List AuditEntry) :
    storedTexts py (es.map AuditEntry.stored) = hashedTexts py es := by
  ext t
  simp [storedTexts, hashedTexts]

end VibeShield
