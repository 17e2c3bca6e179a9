import VibeShield.Security.Audit.Import

/-!
# Runs of the audit log

What can be done to a log from outside (`Call`): recording an event, with an
alert callback that may itself make calls and may raise, and importing a file.

Every log that calls lead to is *sound* (`AuditLog.Sound`): its entries are
numbered and chained, so `verify_chain` accepts it, and its index sends `k` to
`k - 1`. Recording and importing append an entry only if it continues the chain
(`AuditEntry.Continues`), and do nothing else to a sound log; so what such an
entry keeps (`AuditLog.Kept`) is kept by all calls (`AuditLog.Kept.execAll`).
-/

namespace VibeShield

/-- A call. A callback finds the log as the calls before it left it; so what one
    does is listed with the call that fires it: the calls it makes and the
    exception it ends in, if any. -/
inductive Call
  | record (args : RecordArgs) (alert : List Call) (raises : Option PyErr)
  | importJsonl (os : Os) (path : String)

mutual

/-- The log after a call. -/
def Call.exec (py : Python) : Call → AuditLog → AuditLog
  | .record args alert raises, l => (l.record py args fun _ l => (execAll py alert l, raises)).1
  | .importJsonl os path, l => (l.importJsonl py os path).1

/-- The log after a list of calls. -/
def execAll (py : Python) : List Call → AuditLog → AuditLog
  | [], l => l
  | c :: cs, l => execAll py cs (c.exec py l)

end

/-- The entry continues the log. -/
structure AuditEntry.Continues (py : Python) (l : AuditLog) (e : AuditEntry) : Prop where
  sequence : e.sequence.toInt? = some ((l.length : ℤ) + 1)
  prevHash : e.prevHash = l.lastHash
  isSealed : IsSealed py e

namespace AuditLog

variable {py : Python}

/-- The invariant of the log. -/
structure Sound (py : Python) (l : AuditLog) : Prop where
  numbered : Numbered 0 l.entries
  chained : Chained py genesisHash l.entries
  indexed : ∀ k p, l.index.get? k = some p ↔ 1 ≤ k ∧ k ≤ l.length ∧ (p : ℤ) = k - 1

/-- A sound log is verified. -/
theorem Sound.verifyChain {l : AuditLog} (h : l.Sound py) : l.verifyChain py = .ok .intact :=
  verifyChain_eq_intact.2 ⟨h.numbered, h.chained⟩

theorem sound_new (auditDir : String) (onCritical : Bool) : (new auditDir onCritical).Sound py where
  numbered := trivial
  chained := trivial
  indexed k p := by
    rw [new, PyDict.get?_empty, length, List.length_nil]
    refine ⟨fun h => absurd h nofun, fun ⟨h₁, h₂, _⟩ => ?_⟩
    omega

/-- An entry that continues the log keeps it sound. -/
theorem Sound.append {l : AuditLog} (h : l.Sound py) {e : AuditEntry} (he : e.Continues py l) :
    (l.append (l.length + 1) e).Sound py where
  numbered :=
    numbered_append.2 ⟨h.numbered, by rw [Nat.zero_add]; exact ⟨he.sequence, trivial⟩⟩
  chained := (HashChain.linked_concat _ _).2
    ⟨h.chained, he.prevHash.trans l.lastHash_eq_tip, he.isSealed⟩
  indexed k p := by
    -- The only new key is the new length, for the position that was the length.
    have hlen : (l.append (l.length + 1) e).length = l.length + 1 := List.length_append
    rw [hlen, AuditLog.append, PyDict.get?_set]
    by_cases hk : k = l.length + 1
    · rw [if_pos hk, Option.some.injEq]
      omega
    · rw [if_neg hk, h.indexed]
      omega

/-- The second log has the entries of the first one, and may have more. -/
structure Extends (l l' : AuditLog) : Prop where
  auditDir_eq : l'.auditDir = l.auditDir
  isPrefix_entries : l.entries <+: l'.entries

/-- A property of sound logs that entries which continue them keep. -/
structure Kept (py : Python) (P : AuditLog → Prop) : Prop where
  sound {l : AuditLog} : P l → l.Sound py
  append {l : AuditLog} {e : AuditEntry} :
    P l → e.Continues py l → P (l.append (l.length + 1) e)
  dirty {l : AuditLog} : P l → P { l with dirty := true }

theorem kept_sound (py : Python) : Kept py (Sound py) where
  sound h := h
  append h he := h.append he
  dirty h := ⟨h.numbered, h.chained, h.indexed⟩

/-- A sound log is only extended. -/
theorem kept_extends (py : Python) (l : AuditLog) :
    Kept py fun l' => l.Extends l' ∧ l'.Sound py where
  sound h := h.2
  append h he :=
    ⟨⟨h.1.auditDir_eq, h.1.isPrefix_entries.trans (List.prefix_append _ _)⟩, h.2.append he⟩
  dirty h := ⟨⟨h.1.auditDir_eq, h.1.isPrefix_entries⟩, (kept_sound py).dirty h.2⟩

/-! ## Recording -/

theorem toInt?_sequence_newEntry (l : AuditLog) (a : RecordArgs) :
    (l.newEntry a).sequence.toInt? = some ((l.length : ℤ) + 1) := rfl

/-- A call of `record` that raises while hashing changes nothing. -/
theorem record_of_computeHash_error {l : AuditLog} {a : RecordArgs} {err : PyErr}
    (h : (l.newEntry a).computeHash py = .error err)
    (callback : AuditEntry → AuditLog → AuditLog × Option PyErr) :
    l.record py a callback = (l, .error err) := by
  rw [record, AuditEntry.sealEntry_eq_error.2 h]

/-- What `record` leaves otherwise: the log with the new entry, or what the
    callback makes of it. -/
theorem record_of_computeHash_ok {l : AuditLog} {a : RecordArgs} {hash : String}
    (h : (l.newEntry a).computeHash py = .ok hash)
    (callback : AuditEntry → AuditLog → AuditLog × Option PyErr) :
    let e := { l.newEntry a with entryHash := hash }
    let l' := { l.append (l.length + 1) e with dirty := true }
    (l.record py a callback).1 = l' ∨ (l.record py a callback).1 = (callback e l').1 := by
  rw [record, AuditEntry.sealEntry_eq_ok.2 ⟨hash, h, rfl⟩]
  dsimp only
  split
  · split
    · split
      · next hcb => exact .inr (congrArg Prod.fst hcb).symm
      · next hcb => exact .inr (congrArg Prod.fst hcb).symm
    · exact .inl rfl
  · exact .inl rfl

/-- What an entry keeps is kept by recording, if the callback keeps it. -/
theorem Kept.record {P : AuditLog → Prop} (hP : Kept py P) {l : AuditLog} (h : P l)
    (a : RecordArgs) (callback : AuditEntry → AuditLog → AuditLog × Option PyErr)
    (hcb : ∀ e l', P l' → P (callback e l').1) : P (l.record py a callback).1 := by
  cases hhash : (l.newEntry a).computeHash py with
  | error err => rwa [record_of_computeHash_error hhash]
  | ok hash =>
    have he : AuditEntry.Continues py l { l.newEntry a with entryHash := hash } :=
      ⟨l.toInt?_sequence_newEntry a, rfl, hhash⟩
    rcases record_of_computeHash_ok hhash callback with heq | heq
    · rw [heq]
      exact hP.dirty (hP.append h he)
    · rw [heq]
      exact hcb _ _ (hP.dirty (hP.append h he))

/-! ## Importing -/

/-- An object is imported only as an entry that continues the log. -/
theorem importData_eq_ok {l l' : AuditLog} {data : List (PyVal × PyVal)}
    (hl : l.importData py data = .ok l') :
    ∃ e : AuditEntry, e.Continues py l ∧ l' = l.append (l.length + 1) e := by
  unfold AuditLog.importData at hl
  simp only at hl
  split_ifs at hl with hreq hbig hseq hprev
  split at hl
  · exact absurd hl nofun
  · next hash hhash =>
    split_ifs at hl
    rw [not_not] at hseq
    -- The hash that is stored is the one just computed, so the entry is sealed.
    refine ⟨_, ?_, (Except.ok.inj hl).symm⟩
    exact ⟨hseq, rfl, hhash⟩

theorem Kept.importLine {P : AuditLog → Prop} (hP : Kept py P) {l l' : AuditLog} (h : P l)
    {line : String} (hl : l.importLine py line = .ok l') : P l' := by
  unfold AuditLog.importLine at hl
  simp only at hl
  split_ifs at hl
  · exact Except.ok.inj hl ▸ h
  · split at hl
    · exact absurd hl nofun
    · obtain ⟨e, he, rfl⟩ := importData_eq_ok hl
      exact hP.append h he
    · exact absurd hl nofun

/-- The entries appended before a line is refused keep it, too. -/
theorem Kept.importLines {P : AuditLog → Prop} (hP : Kept py P) {l : AuditLog} (h : P l)
    (lines : List String) : P (l.importLines py lines).1 := by
  induction lines generalizing l with
  | nil => exact h
  | cons line lines ih =>
    rw [AuditLog.importLines]
    cases hline : l.importLine py line with
    | error stop => exact h
    | ok l' => exact ih (hP.importLine h hline)

/-- Importing keeps it, and never clears the log: the final verification finds a sound
    log. -/
theorem Kept.importJsonl {P : AuditLog → Prop} (hP : Kept py P) {l : AuditLog} (h : P l)
    (os : Os) (path : String) :
    P (l.importJsonl py os path).1 ∧ (l.importJsonl py os path).2 ≠ .cleared := by
  have hofError (err : PyErr) : ImportResult.ofError err ≠ .cleared := by
    rw [ImportResult.ofError]
    split <;> exact nofun
  rw [AuditLog.importJsonl]
  split
  · exact ⟨h, by split <;> exact nofun⟩
  · next p _ =>
    have hlines := hP.importLines h (os.readLines p).1
    dsimp only
    split
    · next l' stop heq =>
      rw [heq] at hlines
      exact ⟨hlines, by cases stop <;> first | exact hofError _ | exact nofun⟩
    · next l' heq =>
      rw [heq] at hlines
      split
      · exact ⟨hlines, hofError _⟩
      · -- What is verified at the end is sound, so the log is not cleared.
        rw [(hP.sound hlines).verifyChain]
        exact ⟨hlines, nofun⟩

end AuditLog

/-! ## Runs -/

/-- A call of `record` that can hash the entry adds it, if the callback makes no calls. -/
theorem Call.exec_record_nil {py : Python} {l : AuditLog} {a : RecordArgs} {raises : Option PyErr}
    {hash : String} (h : (l.newEntry a).computeHash py = .ok hash) :
    (Call.record a [] raises).exec py l =
      { l.append (l.length + 1) { l.newEntry a with entryHash := hash } with dirty := true } := by
  rw [Call.exec]
  rcases AuditLog.record_of_computeHash_ok h _ with heq | heq
  · exact heq
  · exact heq

mutual

theorem AuditLog.Kept.exec {py : Python} {P : AuditLog → Prop} (hP : Kept py P) :
    ∀ (c : Call) {l : AuditLog}, P l → P (c.exec py l)
  | .record args alert raises, l, h => by
    rw [Call.exec]
    exact hP.record h args _ fun _ _ hl => hP.execAll alert hl
  | .importJsonl os path, l, h => by
    rw [Call.exec]
    exact (hP.importJsonl h os path).1

/-- Calls keep what an entry keeps. -/
theorem AuditLog.Kept.execAll {py : Python} {P : AuditLog → Prop} (hP : Kept py P) :
    ∀ (cs : List Call) {l : AuditLog}, P l → P (VibeShield.execAll py cs l)
  | [], l, h => by rwa [VibeShield.execAll]
  | c :: cs, l, h => by
    rw [VibeShield.execAll]
    exact hP.execAll cs (hP.exec c h)

end

/-- Calls keep the log sound. -/
theorem sound_execAll {py : Python} (cs : List Call) {l : AuditLog} (h : l.Sound py) :
    (execAll py cs l).Sound py := (AuditLog.kept_sound py).execAll cs h

theorem Call.sound_exec {py : Python} (c : Call) {l : AuditLog} (h : l.Sound py) :
    (c.exec py l).Sound py := (AuditLog.kept_sound py).exec c h

/-- A call extends a sound log. -/
theorem Call.extends_exec {py : Python} (c : Call) {l : AuditLog} (h : l.Sound py) :
    l.Extends (c.exec py l) :=
  ((AuditLog.kept_extends py l).exec c ⟨⟨rfl, List.prefix_refl _⟩, h⟩).1

/-- Every log that calls lead to is verified and indexed by position. A call of
    `record` on it that raises while hashing leaves it as it is, and an import
    into it is never undone by the final verification. As the calls a callback
    makes are calls, this is so also for the logs it finds. -/
theorem audit_run_invariant (py : Python) (auditDir : String) (onCritical : Bool)
    (cs : List Call) :
    let l := execAll py cs (AuditLog.new auditDir onCritical)
    l.verifyChain py = .ok .intact ∧
      (∀ k p, l.index.get? k = some p ↔ 1 ≤ k ∧ k ≤ l.length ∧ (p : ℤ) = k - 1) ∧
      (∀ a callback err, (l.newEntry a).computeHash py = .error err →
        l.record py a callback = (l, .error err)) ∧
      ∀ os path, (l.importJsonl py os path).2 ≠ .cleared := by
  have h : (execAll py cs (AuditLog.new auditDir onCritical)).Sound py :=
    sound_execAll cs (AuditLog.sound_new auditDir onCritical)
  exact ⟨h.verifyChain, h.indexed,
    fun _ callback _ herr => AuditLog.record_of_computeHash_error herr callback,
    fun os path => ((AuditLog.kept_sound py).importJsonl h os path).2⟩

end VibeShield
