import VibeShield.Security.Audit.Run
import VibeShield.Security.Audit.Stored

/-!
# Which tampering is detected

Entries of a log are deleted, reordered, or changed in one field (`Tampering`).
`tampering_detected_iff` says exactly when `verify_chain` then reports the log as
invalid (`Tampering.Detectable`):

* a deletion is detected unless it only cuts off the end of the log: what
  remains is a chain, too, and the log does not say how long it should be;
* a reordering is always detected, by the sequence numbers;
* so is a change of `entry_hash` or `sequence`, to any value;
* a change of `prev_hash` is detected if the new value has slices. If it has none,
  the verification raises when it reports the value;
* a change of another field is detected if the entry still has a canonical text,
  and this is another one than before. Without a text, the verification raises.

What is reported of an invalid log is the number of the first entry with which it is not
intact. This is its position, unless the number itself is wrong (`verifyChain_locates_iff`).
-/

namespace VibeShield

/-- The hashed fields, without `prev_hash`. -/
inductive ContentField
  | timestamp
  | category
  | severity
  | event
  | agentId
  | taskId
  | details
deriving DecidableEq

/-- The value of a field. -/
def ContentField.get : ContentField → AuditEntry → PyVal
  | timestamp, e => e.timestamp
  | category, e => e.category
  | severity, e => e.severity
  | event, e => e.event
  | agentId, e => e.agentId
  | taskId, e => e.taskId
  | details, e => e.details

/-- Replacing the value of a field. -/
def ContentField.set (v : PyVal) : ContentField → StoredEntry → StoredEntry
  | timestamp, e => { e with timestamp := v }
  | category, e => { e with category := v }
  | severity, e => { e with severity := v }
  | event, e => { e with event := v }
  | agentId, e => { e with agentId := v }
  | taskId, e => { e with taskId := v }
  | details, e => { e with details := v }

/-- The replacement of one field of an entry by any value. -/
inductive Edit
  | content (field : ContentField) (v : PyVal)
  | prevHash (v : PyVal)
  | entryHash (v : PyVal)
  | sequence (v : PyVal)

namespace Edit

/-- The entry with the field replaced. -/
def apply : Edit → StoredEntry → StoredEntry
  | content field v, e => field.set v e
  | prevHash v, e => { e with prevHash := v }
  | entryHash v, e => { e with entryHash := v }
  | sequence v, e => { e with sequence := v }

/-- The new value is different from the old one; a sequence number is different
    if it is not equal as a number. -/
def Changes (e : AuditEntry) : Edit → Prop
  | content field v => v ≠ field.get e
  | prevHash v => v ≠ .str e.prevHash
  | entryHash v => v ≠ .str e.entryHash
  | sequence v => v.toInt? ≠ e.sequence.toInt?

end Edit

/-- A way to tamper with a list of entries. -/
inductive Tampering
  | delete (kept : List AuditEntry)
  | reorder (reordered : List AuditEntry)
  | edit (i : ℕ) (edit : Edit)

namespace Tampering

/-- The entries afterwards. -/
def result (es : List AuditEntry) : Tampering → List StoredEntry
  | delete kept => kept.map AuditEntry.stored
  | reorder reordered => reordered.map AuditEntry.stored
  | edit i ed => (es.map AuditEntry.stored).modify i ed.apply

/-- Something is deleted, moved or changed. -/
def IsTampering (es : List AuditEntry) : Tampering → Prop
  | delete kept => kept.Sublist es ∧ kept ≠ es
  | reorder reordered => reordered.Perm es ∧ reordered ≠ es
  | edit i ed => ∃ e, es[i]? = some e ∧ ed.Changes e

/-- The condition under which the tampering is detected. -/
def Detectable (py : Python) (es : List AuditEntry) : Tampering → Prop
  | delete kept => ¬kept <+: es
  | edit i (.content field v) => ∃ e t, es[i]? = some e ∧
      py.dumps (field.set v e.stored).content = .ok t ∧ py.dumps e.content ≠ .ok t
  | edit _ (.prevHash v) => v.hasSlices = true
  | _ => True

end Tampering

/-- The verification reports the entries as invalid. -/
def ReportedInvalid (py : Python) (es : List StoredEntry) : Prop :=
  ∃ r, StoredEntry.verifyChain py es = .ok r ∧ r.valid = false

variable {py : Python}

/-! ## The verification of parts of a log -/

/-- A verified part is passed over. -/
theorem verifyFrom_stored_append {i : ℕ} {g : String} {es : List AuditEntry} (hn : Numbered i es)
    (hc : Chained py g es) (fs : List StoredEntry) :
    StoredEntry.verifyFrom py i g (es.map AuditEntry.stored ++ fs) =
      StoredEntry.verifyFrom py (i + es.length) (HashChain.tip AuditEntry.entryHash g es) fs := by
  induction es generalizing i g with
  | nil => rfl
  | cons e es ih =>
    obtain ⟨hprev, hseal, hc⟩ := hc
    have hlink : e.stored.prevHash.toStr? = some g := congrArg some hprev
    have hturn : StoredEntry.verifyFrom py i g (e.stored :: (es.map AuditEntry.stored ++ fs)) =
        StoredEntry.verifyFrom py (i + 1) e.entryHash (es.map AuditEntry.stored ++ fs) :=
      ((StoredEntry.verifyFrom_of_linked hn.1 hlink).2 e.entryHash hseal).1 rfl
    rw [List.map_cons, List.cons_append, hturn, ih hn.2 hc, HashChain.tip, List.length_cons,
      Nat.add_right_comm, Nat.add_assoc]

theorem verifyFrom_append {i : ℕ} {g : String} {es : List AuditEntry} (hn : Numbered i es)
    (hc : Chained py g es) (fs : List AuditEntry) :
    AuditLog.verifyFrom py i g (es ++ fs) = AuditLog.verifyFrom py (i + es.length)
      (HashChain.tip AuditEntry.entryHash g es) fs := by
  rw [← verifyFrom_map_stored, List.map_append, verifyFrom_stored_append hn hc,
    verifyFrom_map_stored]

/-- If all entries can be hashed, the verification reports that the list is
    invalid or that it is intact. -/
theorem verifyFrom_total {i : ℕ} {g : String} {es : List AuditEntry}
    (h : ∀ e ∈ es, ∃ hash, e.computeHash py = .ok hash) :
    ∃ r, AuditLog.verifyFrom py i g es = .ok r ∧ (r = .intact ∨ r.valid = false) := by
  induction es generalizing i g with
  | nil => exact ⟨_, rfl, .inl rfl⟩
  | cons e es ih =>
    rw [AuditLog.verifyFrom]
    split
    · exact ⟨_, rfl, .inr rfl⟩
    split
    · exact ⟨_, rfl, .inr rfl⟩
    obtain ⟨hash, hhash⟩ := h e List.mem_cons_self
    rw [hhash]
    dsimp only
    split
    · exact ⟨_, rfl, .inr rfl⟩
    · exact ih fun e he => h e (List.mem_cons_of_mem _ he)

/-- Among the entries of a list numbered from 1 on, only its prefixes are
    numbered from 1 on. -/
theorem Numbered.prefix_of_subset {es fs : List AuditEntry} (he : Numbered 0 es)
    (hf : Numbered 0 fs) (h : fs ⊆ es) : fs <+: es := by
  -- The entry at `k` in `fs` stands at some `j` in `es`, and its number says `j = k`.
  have hget : ∀ k (hk : k < fs.length), ∃ hk' : k < es.length, es[k] = fs[k] := by
    intro k hk
    obtain ⟨j, hj, hjk⟩ := List.getElem_of_mem (h (List.getElem_mem hk))
    have hnum := hf.getElem hk
    rw [← hjk, he.getElem hj, Option.some.injEq] at hnum
    obtain rfl : j = k := by omega
    exact ⟨hj, hjk⟩
  have hlen : fs.length ≤ es.length := by
    by_contra hlt
    obtain ⟨hk, _⟩ := hget es.length (by omega)
    exact absurd hk (Nat.lt_irrefl _)
  rw [List.prefix_iff_eq_take]
  refine List.ext_getElem (by rw [List.length_take]; omega) fun k hk _ => ?_
  rw [List.getElem_take, (hget k hk).2]

theorem Numbered.of_prefix {i : ℕ} {es fs : List AuditEntry} (h : Numbered i es)
    (hp : fs <+: es) : Numbered i fs := by
  obtain ⟨gs, rfl⟩ := hp
  exact (numbered_append.1 h).1

/-! ## Deletions and reorderings -/

/-- If entries are kept of a sound log, in any order, this is detected exactly
    if they are not a prefix of it. -/
theorem reportedInvalid_iff_of_subset {l : AuditLog} (h : l.Sound py) {kept : List AuditEntry}
    (hsub : kept ⊆ l.entries) :
    ReportedInvalid py (kept.map AuditEntry.stored) ↔ ¬kept <+: l.entries := by
  have htotal : ∃ r, AuditLog.verifyFrom py 0 genesisHash kept = .ok r ∧
      (r = .intact ∨ r.valid = false) :=
    verifyFrom_total fun e he => ⟨e.entryHash, h.chained.isSealed e (hsub he)⟩
  have hintact : AuditLog.verifyFrom py 0 genesisHash kept = .ok .intact ↔ kept <+: l.entries := by
    rw [AuditLog.verifyFrom_eq_intact]
    exact ⟨fun hv => h.numbered.prefix_of_subset hv.1 hsub,
      fun hp => ⟨h.numbered.of_prefix hp, h.chained.of_prefix hp⟩⟩
  obtain ⟨r, hr, hr'⟩ := htotal
  rw [ReportedInvalid, StoredEntry.verifyChain, verifyFrom_map_stored, ← hintact]
  constructor
  · rintro ⟨r', hr₁, hr₂⟩ heq
    rw [heq] at hr₁
    exact absurd ((congrArg ChainReport.valid (Except.ok.inj hr₁)).trans hr₂) nofun
  · intro hne
    exact ⟨r, hr, hr'.resolve_left fun h => hne (h ▸ hr)⟩

/-! ## Edits -/

/-- The verification of a sound log with one entry replaced gets as far as this
    entry. -/
theorem verifyChain_tampered_edit {l : AuditLog} (h : l.Sound py) {i : ℕ} {e : AuditEntry}
    (he : l.entries[i]? = some e) (ed : Edit) :
    ∃ g rest, e.sequence.toInt? = some ((i : ℤ) + 1) ∧ e.prevHash = g ∧
      StoredEntry.verifyChain py ((Tampering.edit i ed).result l.entries) =
        StoredEntry.verifyFrom py i g (ed.apply e.stored :: rest) ∧
      StoredEntry.verifyFrom py (i + 1) e.entryHash rest = .ok .intact := by
  obtain ⟨hi, rfl⟩ := List.getElem?_eq_some_iff.1 he
  have hsplit : l.entries = l.entries.take i ++ l.entries[i] :: l.entries.drop (i + 1) := by
    rw [List.getElem_cons_drop, List.take_append_drop]
  have hlen : 0 + (l.entries.take i).length = i := by rw [List.length_take]; omega
  obtain ⟨hn, hn'⟩ := numbered_append.1 (hsplit ▸ h.numbered)
  obtain ⟨hc, hc'⟩ := (HashChain.linked_append _ _).1 (hsplit ▸ h.chained)
  rw [hlen] at hn'
  refine ⟨_, (l.entries.drop (i + 1)).map AuditEntry.stored, hn'.1, hc'.1, ?_, ?_⟩
  · have hi' : i < (l.entries.map AuditEntry.stored).length := by rwa [List.length_map]
    rw [StoredEntry.verifyChain, Tampering.result, List.modify_eq_take_cons_drop hi',
      List.getElem_map, ← List.map_take, ← List.map_drop, verifyFrom_stored_append hn hc, hlen]
  · rw [verifyFrom_map_stored]
    exact AuditLog.verifyFrom_eq_intact.2 ⟨hn'.2, hc'.2.2⟩

theorem ContentField.chain_fields_set (field : ContentField) (v : PyVal) (e : StoredEntry) :
    (field.set v e).sequence = e.sequence ∧ (field.set v e).prevHash = e.prevHash ∧
      (field.set v e).entryHash = e.entryHash := by
  cases field <;> exact ⟨rfl, rfl, rfl⟩

/-- A change of the number is always detected: it is compared first. -/
theorem reportedInvalid_sequence {l : AuditLog} (h : l.Sound py) {i : ℕ} {e : AuditEntry}
    (he : l.entries[i]? = some e) {v : PyVal} (hv : v.toInt? ≠ e.sequence.toInt?) :
    ReportedInvalid py ((Tampering.edit i (.sequence v)).result l.entries) := by
  obtain ⟨g, rest, hseq, _, hverify, _⟩ := verifyChain_tampered_edit h he (.sequence v)
  rw [hseq] at hv
  rw [ReportedInvalid, hverify]
  exact StoredEntry.verifyFrom_of_gap hv

/-- A change of `entry_hash` is always detected: it does not change what is hashed. -/
theorem reportedInvalid_entryHash {l : AuditLog} (h : l.Sound py) {i : ℕ} {e : AuditEntry}
    (he : l.entries[i]? = some e) {v : PyVal} (hv : v ≠ .str e.entryHash) :
    ReportedInvalid py ((Tampering.edit i (.entryHash v)).result l.entries) := by
  obtain ⟨g, rest, hseq, hprev, hverify, _⟩ := verifyChain_tampered_edit h he (.entryHash v)
  have hlink : ((Edit.entryHash v).apply e.stored).prevHash.toStr? = some g := congrArg some hprev
  -- The old hash is computed again.
  have hseal : StoredEntry.computeHash py ((Edit.entryHash v).apply e.stored) = .ok e.entryHash :=
    h.chained.isSealed e (List.mem_of_getElem? he)
  rw [ReportedInvalid, hverify]
  exact ((StoredEntry.verifyFrom_of_linked hseq hlink).2 _ hseal).2 hv

/-- A change of `prev_hash` is always found, before the entry is hashed. It is reported unless the
    value has no slices. -/
theorem reportedInvalid_prevHash_iff {l : AuditLog} (h : l.Sound py) {i : ℕ} {e : AuditEntry}
    (he : l.entries[i]? = some e) {v : PyVal} (hv : v ≠ .str e.prevHash) :
    ReportedInvalid py ((Tampering.edit i (.prevHash v)).result l.entries) ↔
      v.hasSlices = true := by
  obtain ⟨g, rest, hseq, hprev, hverify, _⟩ := verifyChain_tampered_edit h he (.prevHash v)
  have hlink : v.toStr? ≠ some g := fun hstr => hv (hprev ▸ PyVal.toStr?_eq_some_iff.1 hstr)
  rw [ReportedInvalid, hverify]
  exact StoredEntry.verifyFrom_of_unlinked hseq hlink

/-- A change of a content field is detected exactly if the entry has a text
    afterwards, and this is another one than before. -/
theorem reportedInvalid_content_iff {l : AuditLog} (h : l.Sound py) {i : ℕ} {e : AuditEntry}
    (he : l.entries[i]? = some e) (field : ContentField) (v : PyVal)
    (hsha : ∀ t u, py.dumps (field.set v e.stored).content = .ok t →
      py.dumps e.content = .ok u → py.sha256 t = py.sha256 u → t = u) :
    ReportedInvalid py ((Tampering.edit i (.content field v)).result l.entries) ↔
      ∃ t, py.dumps (field.set v e.stored).content = .ok t ∧ py.dumps e.content ≠ .ok t := by
  obtain ⟨g, rest, hseq, hprev, hverify, hrest⟩ := verifyChain_tampered_edit h he (.content field v)
  obtain ⟨hseq', hprev', hhash'⟩ := field.chain_fields_set v e.stored
  have hnumber : (field.set v e.stored).sequence.toInt? = some ((i : ℤ) + 1) := by
    rw [hseq']
    exact hseq
  have hlink : (field.set v e.stored).prevHash.toStr? = some g := by
    rw [hprev']
    exact congrArg some hprev
  obtain ⟨u, hu, hue⟩ :=
    AuditEntry.computeHash_eq_ok.1 (h.chained.isSealed e (List.mem_of_getElem? he))
  obtain ⟨hraises, hreports⟩ := StoredEntry.verifyFrom_of_linked hnumber hlink
  rw [ReportedInvalid, hverify]
  cases ht : py.dumps (field.set v e.stored).content with
  | error err =>
    -- No text: the verification raises and reports nothing.
    have hhash : (field.set v e.stored).computeHash py = .error err := by
      rw [StoredEntry.computeHash, ht]
      rfl
    constructor
    · rintro ⟨r, hr, _⟩
      cases (hraises err hhash).symm.trans hr
    · rintro ⟨_, h, _⟩
      cases h
  | ok t =>
    have hhash : (field.set v e.stored).computeHash py = .ok (py.sha256 t) := by
      rw [StoredEntry.computeHash, ht]
      rfl
    obtain ⟨hsealed, hbroken⟩ := hreports _ hhash
    rw [hhash'] at hsealed hbroken
    by_cases htu : t = u
    · -- The same text: the entry is still sealed, and so is the rest.
      have hsame : py.sha256 t = e.entryHash := by rw [htu, hue]
      have hintact := hsealed (congrArg PyVal.str hsame.symm)
      rw [hsame, hrest] at hintact
      constructor
      · rintro ⟨r, hr, hinvalid⟩
        cases hintact.symm.trans hr
        cases hinvalid
      · rintro ⟨_, ht', hne⟩
        cases ht'
        exact absurd (htu ▸ hu) hne
    · -- Another text: it has another digest than the stored one.
      have hother : PyVal.str e.entryHash ≠ .str (py.sha256 t) := fun heq =>
        htu (hsha t u ht hu ((PyVal.str.inj heq).symm.trans hue.symm))
      refine iff_of_true (hbroken hother) ⟨t, rfl, fun htext => ?_⟩
      exact htu (Except.ok.inj (hu.symm.trans htext)).symm

/-! ## Runs -/

/-- What tampering with a log that calls lead to is detected, if no two of the
    texts hashed before and after have the same digest. -/
theorem tampering_detected_iff (py : Python) (auditDir : String) (onCritical : Bool)
    (cs : List Call) (t : Tampering) :
    let l := execAll py cs (AuditLog.new auditDir onCritical)
    t.IsTampering l.entries →
    Set.InjOn py.sha256 (storedTexts py (l.entries.map AuditEntry.stored ++ t.result l.entries)) →
    (ReportedInvalid py (t.result l.entries) ↔ t.Detectable py l.entries) := by
  intro l ht hsha
  have h : l.Sound py := sound_execAll cs (AuditLog.sound_new auditDir onCritical)
  cases t with
  | delete kept => exact reportedInvalid_iff_of_subset h ht.1.subset
  | reorder reordered =>
    rw [Tampering.result, reportedInvalid_iff_of_subset h ht.1.subset]
    -- A prefix of the same length is the list itself.
    exact ⟨fun _ => trivial, fun _ hp => ht.2 (hp.eq_of_length ht.1.length_eq)⟩
  | edit i ed =>
    obtain ⟨e, he, hch⟩ := ht
    cases ed with
    | content field v =>
      have hbefore : e.stored ∈ l.entries.map AuditEntry.stored :=
        List.mem_map_of_mem (List.mem_of_getElem? he)
      have hafter : field.set v e.stored ∈ (Tampering.edit i (.content field v)).result l.entries :=
        List.mem_of_getElem? (i := i) (by simp [Tampering.result, he, Edit.apply])
      rw [reportedInvalid_content_iff h he field v fun t u ht hu =>
        hsha ⟨_, List.mem_append_right _ hafter, ht⟩ ⟨_, List.mem_append_left _ hbefore, hu⟩]
      constructor
      · rintro ⟨t, htext⟩
        exact ⟨e, t, he, htext⟩
      · rintro ⟨e', t, he', htext⟩
        obtain rfl : e = e' := Option.some.inj (he.symm.trans he')
        exact ⟨t, htext⟩
    | prevHash v => exact reportedInvalid_prevHash_iff h he hch
    | entryHash v => exact iff_of_true (reportedInvalid_entryHash h he hch) trivial
    | sequence v => exact iff_of_true (reportedInvalid_sequence h he hch) trivial

/-- The log of two entries is the one that two calls of `record` lead to. -/
theorem Sample.execAll_eq_log : execAll lib [.record startArgs [] none, .record stopArgs [] none]
    (AuditLog.new "/var/lib/vibeshield/audit" false) = log := by
  have hstart : (Call.record startArgs [] none).exec lib emptyLog = startLog :=
    Call.exec_record_nil isSealed_startEntry
  have hstop : (Call.record stopArgs [] none).exec lib startLog = log :=
    Call.exec_record_nil isSealed_stopEntry
  rw [execAll, execAll, execAll, ← hstop, ← hstart]
  rfl

/-- No two texts of the log have the same digest, also if entries are deleted. -/
theorem Sample.injOn_storedTexts_delete {kept : List AuditEntry}
    (hkept : kept.Sublist log.entries) : Set.InjOn lib.sha256 (storedTexts lib
      (log.entries.map AuditEntry.stored ++ (Tampering.delete kept).result log.entries)) := by
  rw [Tampering.result, ← List.map_append, storedTexts_map_stored]
  refine injOn_sha256.mono fun t ht => ?_
  have hsub : log.entries ++ kept ⊆ log.entries ++ log.entries := List.append_subset.2
    ⟨List.subset_append_left _ _, List.subset_append_of_subset_right _ hkept.subset⟩
  rcases hashedTexts_log (hashedTexts_mono hsub ht) with rfl | rfl <;> simp

/-- Cutting off the end of a log is not detected. -/
theorem Sample.truncation_undetected :
    let l := execAll lib [.record startArgs [] none, .record stopArgs [] none]
      (AuditLog.new "/var/lib/vibeshield/audit" false)
    let t := Tampering.delete [startEntry]
    1 ≤ l.length ∧ t.IsTampering l.entries ∧
      Set.InjOn lib.sha256
        (storedTexts lib (l.entries.map AuditEntry.stored ++ t.result l.entries)) ∧
      ¬ReportedInvalid lib (t.result l.entries) := by
  rw [execAll_eq_log]
  have hpre : [startEntry] <+: log.entries := ⟨[stopEntry], rfl⟩
  have hverify : AuditLog.verifyFrom lib 0 genesisHash [startEntry] = .ok .intact := by
    obtain ⟨hn, hc⟩ := AuditLog.verifyChain_eq_intact.1 log_verified
    exact AuditLog.verifyFrom_eq_intact.2 ⟨hn.of_prefix hpre, hc.of_prefix hpre⟩
  refine ⟨by decide, ⟨hpre.sublist, nofun⟩, injOn_storedTexts_delete hpre.sublist, ?_⟩
  rintro ⟨r, hr, hinvalid⟩
  rw [StoredEntry.verifyChain, Tampering.result, verifyFrom_map_stored, hverify] at hr
  exact absurd (Except.ok.inj hr ▸ hinvalid) nofun

/-- Deleting the first entry is. -/
theorem Sample.deletion_detected :
    let l := execAll lib [.record startArgs [] none, .record stopArgs [] none]
      (AuditLog.new "/var/lib/vibeshield/audit" false)
    ReportedInvalid lib ((Tampering.delete [stopEntry]).result l.entries) := by
  have hne : stopEntry ≠ startEntry := fun h =>
    absurd (congrArg AuditEntry.entryHash h) (by decide +kernel)
  have hsub : [stopEntry].Sublist log.entries := .cons _ (.refl _)
  refine (tampering_detected_iff lib "/var/lib/vibeshield/audit" false
    [.record startArgs [] none, .record stopArgs [] none] (.delete [stopEntry]) ?_ ?_).2 ?_
  · rw [execAll_eq_log]
    exact ⟨hsub, nofun⟩
  · rw [execAll_eq_log]
    exact injOn_storedTexts_delete hsub
  · rw [execAll_eq_log]
    exact fun hp => hne (List.cons_prefix_cons.1 hp).1

/-! ## Where the damage is -/

namespace AuditLog

/-- The log of the first entries. -/
def firstEntries (l : AuditLog) (n : ℕ) : AuditLog := { l with entries := l.entries.take n }

/-- The number says where the log is broken: the entries before it are intact, and with the
    entry of this number they are not. -/
def BrokenAt (py : Python) (l : AuditLog) (k : PyVal) : Prop :=
  ∃ n : ℕ, k.toInt? = some ((n : ℤ) + 1) ∧ (l.firstEntries n).verifyChain py = .ok .intact ∧
    (l.firstEntries (n + 1)).verifyChain py ≠ .ok .intact

/-- An entry has the number of its position if the entries before it are intact. -/
def NumberedToDamage (py : Python) (l : AuditLog) : Prop :=
  ∀ n e, l.entries[n]? = some e → Numbered 0 (l.entries.take n) →
    Chained py genesisHash (l.entries.take n) → e.sequence.toInt? = some ((n : ℤ) + 1)

end AuditLog

theorem AuditLog.firstEntries_intact_of_le {l : AuditLog} {m n : ℕ} (hmn : m ≤ n)
    (h : (l.firstEntries n).verifyChain py = .ok .intact) :
    (l.firstEntries m).verifyChain py = .ok .intact := by
  obtain ⟨hn, hc⟩ := verifyChain_eq_intact.1 h
  have hpre : l.entries.take m <+: l.entries.take n := List.take_prefix_take_left hmn
  exact verifyChain_eq_intact.2 ⟨hn.of_prefix hpre, hc.of_prefix hpre⟩

/-- The loop stops at the first entry with which the list is not intact, and reports its
    number. -/
theorem verifyFrom_invalid {i : ℕ} {g : String} {es : List AuditEntry} {r : ChainReport}
    (h : AuditLog.verifyFrom py i g es = .ok r) (hr : r.valid = false) :
    ∃ n e, es[n]? = some e ∧ r.brokenAt = some e.sequence ∧
      AuditLog.verifyFrom py i g (es.take n) = .ok .intact ∧
      AuditLog.verifyFrom py i g (es.take (n + 1)) ≠ .ok .intact := by
  induction es generalizing i g with
  | nil =>
    obtain rfl : ChainReport.intact = r := Except.ok.inj h
    exact absurd hr (by decide)
  | cons e es ih =>
    by_cases hpass : Numbered i [e] ∧ Chained py g [e]
    · -- The entry is passed over, in each of the three lists.
      have hcons := verifyFrom_append hpass.1 hpass.2
      obtain ⟨n, f, hf, hbroken, htake, htake'⟩ := ih ((hcons es).symm.trans h)
      exact ⟨n + 1, f, hf, hbroken, (hcons _).trans htake, fun heq => htake' <|
        (hcons (es.take (n + 1))).symm.trans heq⟩
    · refine ⟨0, e, rfl, ?_, rfl, fun heq => hpass (AuditLog.verifyFrom_eq_intact.1 heq)⟩
      rw [AuditLog.verifyFrom] at h
      split at h
      · exact (congrArg ChainReport.brokenAt (Except.ok.inj h).symm :)
      next hseq =>
      split at h
      · exact (congrArg ChainReport.brokenAt (Except.ok.inj h).symm :)
      next hprev =>
      cases hhash : e.computeHash py with
      | error err =>
        rw [hhash] at h
        cases h
      | ok hash =>
        rw [hhash] at h
        dsimp only at h
        split at h
        · exact (congrArg ChainReport.brokenAt (Except.ok.inj h).symm :)
        · next hsealed =>
          rw [not_not] at hseq hprev hsealed
          have hseal : IsSealed py e := hhash.trans (congrArg _ hsealed.symm)
          exact absurd ⟨⟨hseq, trivial⟩, hprev, hseal, trivial⟩ hpass

/-- What is reported is where the log is broken, if and only if the first damage is no gap in
    the numbers: the number of the entry behind a gap may be any. -/
theorem verifyChain_locates_iff (py : Python) (l : AuditLog) :
    (∀ r k, l.verifyChain py = .ok r → r.valid = false → r.brokenAt = some k →
      l.BrokenAt py k) ↔ l.NumberedToDamage py := by
  constructor
  · intro h n e he hn hc
    by_contra hseq
    obtain ⟨hlt, rfl⟩ := List.getElem?_eq_some_iff.1 he
    have hlen : (l.entries.take n).length = n := List.length_take_of_le hlt.le
    -- The loop comes to the entry, and reports its number.
    have hreport : l.verifyChain py = .ok ⟨false, some l.entries[n].sequence,
        s!"Sequence gap: expected {n + 1}, got {py.str l.entries[n].sequence}"⟩ := by
      have happend := verifyFrom_append hn hc (l.entries.drop n)
      rw [List.take_append_drop, hlen, Nat.zero_add, List.drop_eq_getElem_cons hlt,
        AuditLog.verifyFrom, if_pos hseq] at happend
      exact happend
    obtain ⟨m, hm, hintact, hbroken⟩ := h _ _ hreport rfl rfl
    -- With the entry the list is not intact, so it is the one that is named.
    have hnext : (l.firstEntries (n + 1)).verifyChain py ≠ .ok .intact := by
      intro hnext
      have hnlt : n < (l.entries.take (n + 1)).length := by
        rw [List.length_take_of_le hlt]
        exact Nat.lt_succ_self n
      have hget := (AuditLog.verifyChain_eq_intact.1 hnext).1.getElem hnlt
      exact hseq (by simpa [AuditLog.firstEntries] using hget)
    have hthis : (l.firstEntries n).verifyChain py = .ok .intact :=
      AuditLog.verifyChain_eq_intact.2 ⟨hn, hc⟩
    have hmn : m = n := by
      rcases Nat.lt_trichotomy m n with hlt | heq | hlt
      · exact absurd (AuditLog.firstEntries_intact_of_le hlt hthis) hbroken
      · exact heq
      · exact absurd (AuditLog.firstEntries_intact_of_le hlt hintact) hnext
    exact hseq (hmn ▸ hm)
  · intro h r k hr hinvalid hk
    obtain ⟨n, e, he, hbroken, htake, htake'⟩ := verifyFrom_invalid hr hinvalid
    obtain ⟨hn, hc⟩ := AuditLog.verifyFrom_eq_intact.1 htake
    obtain rfl : e.sequence = k := Option.some.inj (hbroken.symm.trans hk)
    exact ⟨n, h n e he hn hc, htake, htake'⟩

/-- Two entries, of which the second one carries the number 999. -/
def Sample.gapLog : AuditLog :=
  { log with entries := [startEntry, { stopEntry with sequence := .int 999 }] }

theorem Sample.gap_not_located : ∃ r, gapLog.verifyChain lib = .ok r ∧ r.valid = false ∧
    r.brokenAt = some (.int 999) ∧ ¬gapLog.BrokenAt lib (.int 999) := by
  have hn : Numbered 0 [startEntry] := ⟨rfl, trivial⟩
  have hc : Chained lib genesisHash [startEntry] := ⟨rfl, isSealed_startEntry, trivial⟩
  refine ⟨_, (verifyFrom_append hn hc _).trans (if_pos (by decide)), rfl, rfl, ?_⟩
  rintro ⟨n, hk, hintact, _⟩
  have hn998 : n = 998 := by
    have := Option.some.inj hk
    omega
  -- All entries together are not intact.
  subst hn998
  have hnumbered : Numbered 0 gapLog.entries := (AuditLog.verifyChain_eq_intact.1 hintact).1
  exact absurd hnumbered.2.1 (by decide)

end VibeShield
