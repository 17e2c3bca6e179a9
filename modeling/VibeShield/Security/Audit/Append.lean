import VibeShield.Security.Audit.Incremental

/-!
# Exporting in append mode

`AuditState.exportJsonl` in the mode `"a"` appends the line of the last entry and marks the log
as exported. The file is then in step with the log (`InStep`) if the entry is the only one that
is new since the last export: `append_in_step_iff` says that it is so all along a run if and
only if every export finds the log empty or one entry longer than the last one did.
-/

namespace VibeShield

variable {lib : ExportLib} {fs : FileSys}

/-! ## One export -/

/-- Nothing fails when lines are appended to the file. -/
structure FileSys.Appendable (fs : FileSys) (validated file : String) : Prop where
  makeParent : fs.makeParent validated = .ok ()
  openError : fs.openError .append validated = none
  writeError : fs.writeError file = none

/-- The text of a file, empty if it is not there. -/
def Disk.text (disk : Disk) (file : String) : String := (disk.files file).getD ""

theorem Disk.text_update (files : String → Option String) (file text : String)
    (opened : List String) :
    Disk.text ⟨Function.update files file (some text), opened⟩ file = text := by
  rw [Disk.text]
  dsimp only
  rw [Function.update_self, Option.getD_some]

namespace FileSys

variable {validated file : String}

/-- Opening for appending does not change the text. -/
theorem openFile_append_cases (hfile : fs.realpath validated = .ok file) (disk : Disk) :
    (∃ err, fs.openError .append validated = some err ∧
        fs.openFile .append validated disk = .error err disk) ∨
      fs.openError .append validated = none ∧ ∃ disk',
        fs.openFile .append validated disk = .ok file disk' ∧ disk'.text file = disk.text file := by
  rw [openFile, hfile]
  cases fs.openError .append validated with
  | some err => exact .inl ⟨err, rfl, rfl⟩
  | none =>
    exact .inr ⟨rfl, _, rfl, Disk.text_update ..⟩

/-- Writing appends the text, or fails and leaves the file as it is. -/
theorem writeText_cases (fs : FileSys) (file text : String) (disk : Disk) :
    (∃ err, fs.writeError file = some err ∧ fs.writeText file text disk = .error err disk) ∨
      fs.writeError file = none ∧ ∃ disk', fs.writeText file text disk = .ok () disk' ∧
        disk'.text file = disk.text file ++ text := by
  rw [writeText]
  cases fs.writeError file with
  | some err => exact .inl ⟨err, rfl, rfl⟩
  | none =>
    exact .inr ⟨rfl, _, rfl, Disk.text_update ..⟩

/-- Appending a line to the file: it fails and leaves the text as it is, or the line is added. -/
theorem writeEntries_append_cases (hfile : fs.realpath validated = .ok file) {e : AuditEntry}
    (he : e.Writable lib) (disk : Disk) :
    (¬(fs.openError .append validated = none ∧ fs.writeError file = none) ∧ ∃ err disk',
        fs.writeEntries lib .append validated [e] disk = .error err disk' ∧
          disk'.text file = disk.text file) ∨
      (fs.openError .append validated = none ∧ fs.writeError file = none) ∧ ∃ disk',
        fs.writeEntries lib .append validated [e] disk = .ok () disk' ∧
          disk'.text file = disk.text file ++ e.line lib := by
  obtain ⟨text, htext⟩ := he
  have hline : e.line lib = text ++ "\n" := by rw [AuditEntry.line, htext]
  have hjson (disk : Disk) : (ofExcept (e.toJson lib) : EStateM PyErr Disk String) disk =
      .ok text disk := by
    rw [htext]
    rfl
  rcases openFile_append_cases hfile disk with ⟨err, hnone, hopen⟩ | ⟨hnone, disk₁, hopen, htext₁⟩
  · refine .inl ⟨fun h => ?_, err, disk, ?_, rfl⟩
    · cases hnone.symm.trans h.1
    · rw [writeEntries, bind_of_error hopen]
  · rw [writeEntries, bind_of_ok hopen, writeLines, bind_of_ok (hjson disk₁)]
    rcases writeText_cases fs file (text ++ "\n") disk₁ with
      ⟨err, hwrite, herr⟩ | ⟨hwrite, disk₂, hok, htext₂⟩
    · refine .inl ⟨fun h => ?_, err, disk₁, ?_, htext₁⟩
      · cases hwrite.symm.trans h.2
      · rw [bind_of_error herr]
    · refine .inr ⟨⟨hnone, hwrite⟩, disk₂, ?_, ?_⟩
      · rw [bind_of_ok hok]
        rfl
      · rw [htext₂, htext₁, hline]

end FileSys

namespace AuditState

variable {path validated file : String} {s : AuditState}

theorem onDisk_eq_error {α : Type} {x : EStateM PyErr Disk α} {err : PyErr} {disk : Disk}
    (h : x s.disk = .error err disk) : onDisk x s = .error err { s with disk := disk } := by
  rw [onDisk, h]

/-- After the path has been validated, the mode decides what is written. -/
theorem exportJsonl_of_validatedPath {mode : String}
    (h : validatedPath fs path s = .ok validated s) :
    exportJsonl lib fs path mode s = exportTo lib fs mode validated s := by
  rw [exportJsonl, bind_of_ok h]

theorem get_eq_ok (s : AuditState) : (get : EStateM PyErr AuditState AuditState) s = .ok s s := rfl

/-- An export in append mode of a log that is empty. -/
theorem exportTo_append_of_nil (h : s.log.entries.getLast? = none) :
    exportTo lib fs "a" validated s = .ok () { s with log := { s.log with dirty := false } } := by
  rw [exportTo, bind_of_ok (get_eq_ok s)]
  dsimp only
  rw [if_pos rfl, h]
  rfl

/-- An export in append mode of a log that is not. -/
theorem exportTo_append_of_getLast {e : AuditEntry} (h : s.log.entries.getLast? = some e) :
    exportTo lib fs "a" validated s =
      (onDisk (fs.writeEntries lib .append validated [e]) >>= fun _ =>
        modify fun s => { s with log := { s.log with dirty := false } } :
        EStateM PyErr AuditState Unit) s := by
  rw [exportTo, bind_of_ok (get_eq_ok s)]
  dsimp only
  rw [if_pos rfl, h]

theorem validatedPath_of_valid
    (hvalid : validatePath (fs.os s.disk) s.log.auditDir path true = .ok validated) :
    validatedPath fs path s =
      (ofExcept (fs.makeParent validated) >>= fun _ => pure validated :
        EStateM PyErr AuditState String) s := by
  have hok : (ofExcept (validatePath (fs.os s.disk) s.log.auditDir path true) :
      EStateM PyErr AuditState String) s = .ok validated s := by
    rw [hvalid]
    rfl
  rw [validatedPath, bind_of_ok (get_eq_ok s), bind_of_ok hok]

variable (hvalid : validatePath (fs.os s.disk) s.log.auditDir path true = .ok validated)
  (hfile : fs.realpath validated = .ok file) (hwritable : ∀ e ∈ s.log.entries, e.Writable lib)
include hvalid hfile hwritable

/-- If the file cannot be written, an export fails, unless the log is empty, and the text of
    the file stays as it is. -/
theorem exportJsonl_append_of_not_appendable (h : ¬fs.Appendable validated file) :
    (∃ err disk, exportJsonl lib fs path "a" s = .error err ⟨s.log, disk⟩ ∧
        disk.text file = s.disk.text file) ∨
      s.log.entries = [] ∧
        exportJsonl lib fs path "a" s = .ok () ⟨{ s.log with dirty := false }, s.disk⟩ := by
  have hpath := validatedPath_of_valid hvalid
  cases hmake : fs.makeParent validated with
  | error err =>
    rw [hmake] at hpath
    exact .inl ⟨err, s.disk, by rw [exportJsonl, bind_of_error hpath], rfl⟩
  | ok _ =>
    rw [hmake] at hpath
    rw [exportJsonl_of_validatedPath hpath]
    cases hlast : s.log.entries.getLast? with
    | none => exact .inr ⟨List.getLast?_eq_none_iff.1 hlast, exportTo_append_of_nil hlast⟩
    | some e =>
      rw [exportTo_append_of_getLast hlast]
      have he : e.Writable lib := hwritable e (List.mem_of_getLast? hlast)
      rcases FileSys.writeEntries_append_cases hfile he s.disk with
        ⟨_, err, disk, herr, htext⟩ | ⟨hok, _⟩
      · refine .inl ⟨err, disk, ?_, htext⟩
        rw [bind_of_error (onDisk_eq_error herr)]
      · exact absurd ⟨hmake, hok.1, hok.2⟩ h

end AuditState

/-! ## Recording marks the log -/

mutual

/-- The call records, and so do the calls that its callback makes. -/
def Call.OnlyRecords : Call → Prop
  | .record _ alert _ => AllOnlyRecord alert
  | .importJsonl _ _ => False

/-- All calls only record. -/
def AllOnlyRecord : List Call → Prop
  | [] => True
  | c :: cs => c.OnlyRecords ∧ AllOnlyRecord cs

end

/-- The second log is the first one, or it is longer and marked as changed. -/
def AuditLog.Advances (l l' : AuditLog) : Prop :=
  l' = l ∨ (l'.dirty = true ∧ l.length < l'.length)

namespace AuditLog

theorem Advances.trans {l l' l'' : AuditLog} (h : l.Advances l') (h' : l'.Advances l'') :
    l.Advances l'' := by
  rcases h' with rfl | ⟨hdirty, hlt'⟩
  · exact h
  · rcases h with rfl | ⟨_, hlt⟩
    · exact .inr ⟨hdirty, hlt'⟩
    · exact .inr ⟨hdirty, hlt.trans hlt'⟩

theorem advances_record (py : Python) (l : AuditLog) (a : RecordArgs)
    (callback : AuditEntry → AuditLog → AuditLog × Option PyErr)
    (hcb : ∀ e (l' : AuditLog), l'.Advances (callback e l').1) :
    l.Advances (l.record py a callback).1 := by
  cases hhash : (l.newEntry a).computeHash py with
  | error err => exact .inl (congrArg Prod.fst (record_of_computeHash_error hhash callback))
  | ok hash =>
    have hlen (k : ℤ) (e : AuditEntry) : (l.append k e).length = l.length + 1 :=
      List.length_append
    have happ : l.Advances { l.append (l.length + 1)
        { l.newEntry a with entryHash := hash } with dirty := true } :=
      .inr ⟨rfl, (Nat.lt_succ_self _).trans_eq (hlen (l.length + 1) _).symm⟩
    rcases record_of_computeHash_ok hhash callback with heq | heq
    · rw [heq]
      exact happ
    · rw [heq]
      exact happ.trans (hcb _ _)

end AuditLog

mutual

theorem Call.advances_exec {py : Python} : ∀ (c : Call) (l : AuditLog), c.OnlyRecords →
    l.Advances (c.exec py l)
  | .record args alert raises, l, hc => by
    rw [Call.exec]
    exact l.advances_record py args _ fun _ l' => advances_execAll alert l' hc
  | .importJsonl os path, l, hc => absurd hc not_false

/-- Calls that record leave the log as it is, or longer and marked as changed. -/
theorem advances_execAll {py : Python} : ∀ (cs : List Call) (l : AuditLog), AllOnlyRecord cs →
    l.Advances (execAll py cs l)
  | [], l, _ => by
    rw [execAll]
    exact .inl rfl
  | c :: cs, l, hcs => by
    rw [execAll]
    exact (c.advances_exec l hcs.1).trans (advances_execAll cs _ hcs.2)

end

/-! ## Runs -/

/-- A call of `record`, or one of `export_jsonl` in append mode. -/
inductive AppendCall
  | record (c : Call) (hc : c.OnlyRecords)
  | exportAppend

/-- The calls on a log and a disk, with one path to export to; the output tells whether an
    export has been made. -/
def appender (lib : ExportLib) (fs : FileSys) (path : String) :
    Machine AuditState AppendCall Bool where
  step
    | s, .record c _ => ({ s with log := c.exec lib.py s.log }, false)
    | s, .exportAppend =>
      match AuditState.exportJsonl lib fs path "a" s with
      | .ok _ s' => (s', true)
      | .error _ s' => (s', false)

/-- The length of the log that the last export found. -/
def lastExport (evs : List (Machine.Event AuditState AppendCall Bool)) : ℕ :=
  evs.foldl (fun m ev =>
    match ev.input with
    | .record _ _ => m
    | .exportAppend => ev.pre.log.length) 0

/-- The log as it is when marked as exported. -/
def AuditLog.exported (l : AuditLog) : AuditLog := { l with dirty := false }

theorem AuditLog.Sound.of_exported_eq {py : Python} {l l' : AuditLog} (h : l.Sound py)
    (heq : l'.exported = l.exported) : l'.Sound py := by
  have hentries : l'.entries = l.entries := (congrArg AuditLog.entries heq :)
  have hindex : l'.index = l.index := (congrArg AuditLog.index heq :)
  refine ⟨hentries ▸ h.numbered, hentries ▸ h.chained, ?_⟩
  rw [AuditLog.length, hentries, hindex]
  exact h.indexed

section Steps

variable {path : String} {evs : List (Machine.Event AuditState AppendCall Bool)}
  {s : AuditState} {c : Call} {hc : c.OnlyRecords}

/-- An export marks the log, and does nothing else to it. -/
theorem exported_step_exportAppend :
    ((appender lib fs path).step s .exportAppend).1.log.exported = s.log.exported := by
  have hdisk {α : Type} (x : EStateM PyErr Disk α) :
      Preserves (fun s : AuditState => s.log.exported) (onDisk x) :=
    fun s => by rw [endState_onDisk]
  have hmodify : Preserves (fun s : AuditState => s.log.exported)
      (modify fun s => { s with log := { s.log with dirty := false } } :
        EStateM PyErr AuditState Unit) := fun _ => rfl
  have hpath : Preserves (fun s : AuditState => s.log.exported)
      (AuditState.validatedPath fs path) :=
    Preserves.get.bind fun _ => (Preserves.ofExcept _).bind fun _ =>
      (Preserves.ofExcept _).bind fun _ => .pure _
  have hexport : Preserves (fun s : AuditState => s.log.exported)
      (AuditState.exportJsonl lib fs path "a") := by
    refine hpath.bind fun file => Preserves.get.bind fun s => ?_
    dsimp only
    rw [if_pos rfl]
    split
    · exact (hdisk _).bind fun _ => hmodify
    · exact hmodify
  have h := hexport s
  rw [appender]
  dsimp only
  split
  · next heq => rwa [heq] at h
  · next heq => rwa [heq] at h

@[simp] theorem lastExport_concat_record :
    lastExport (evs ++ [(appender lib fs path).event s (.record c hc)]) = lastExport evs := by
  rw [lastExport, List.foldl_append]
  rfl

@[simp] theorem lastExport_concat_exportAppend :
    lastExport (evs ++ [(appender lib fs path).event s .exportAppend]) = s.log.length := by
  rw [lastExport, List.foldl_append]
  rfl

/-- What holds of all runs: the log is no shorter than at the last export, and as long if it is
    still marked. -/
structure AppendInvariant (lib : ExportLib) (auditDir : String)
    (evs : List (Machine.Event AuditState AppendCall Bool)) (s : AuditState) : Prop where
  sound : s.log.Sound lib.py
  auditDir_eq : s.log.auditDir = auditDir
  le_length : lastExport evs ≤ s.log.length
  clean : s.log.dirty = false → (∃ ev ∈ evs, ev.output = true) → lastExport evs = s.log.length

theorem AppendInvariant.step {auditDir : String} (h : AppendInvariant lib auditDir evs s)
    (i : AppendCall) : AppendInvariant lib auditDir (evs ++ [(appender lib fs path).event s i])
      ((appender lib fs path).step s i).1 := by
  cases i with
  | record c hc =>
    have hextends := c.extends_exec h.sound
    refine ⟨c.sound_exec h.sound, hextends.auditDir_eq.trans h.auditDir_eq, ?_, ?_⟩
    · rw [lastExport_concat_record]
      exact h.le_length.trans hextends.isPrefix_entries.length_le
    · rw [lastExport_concat_record]
      intro hdirty hmade
      have hmade' : ∃ ev ∈ evs, ev.output = true := by
        obtain ⟨ev, hev, hout⟩ := hmade
        rcases List.mem_append.1 hev with hev | hev
        · exact ⟨ev, hev, hout⟩
        · rw [List.mem_singleton.1 hev] at hout
          exact absurd hout Bool.false_ne_true
      rcases c.advances_exec s.log hc with heq | ⟨hdirty', _⟩
      · have hlog : ((appender lib fs path).step s (.record c hc)).1.log = s.log := heq
        rw [hlog] at hdirty ⊢
        exact h.clean hdirty hmade'
      · exact absurd (hdirty'.symm.trans hdirty) nofun
  | exportAppend =>
    have hexported : ((appender lib fs path).step s .exportAppend).1.log.exported =
      s.log.exported := exported_step_exportAppend
    have hlen : ((appender lib fs path).step s .exportAppend).1.log.length = s.log.length :=
      (congrArg AuditLog.length hexported :)
    refine ⟨h.sound.of_exported_eq hexported, ?_, ?_, fun _ _ => ?_⟩
    · exact (congrArg AuditLog.auditDir hexported :).trans h.auditDir_eq
    · rw [lastExport_concat_exportAppend, hlen]
    · rw [lastExport_concat_exportAppend, hlen]

/-! ### The text of the file -/

variable {auditDir validated file : String}

section Export

variable (hs : AppendInvariant lib auditDir evs s)
  (hvalid : validatePath (fs.os s.disk) auditDir path true = .ok validated)
  (hfile : fs.realpath validated = .ok file) (hwritable : ∀ e ∈ s.log.entries, e.Writable lib)
include hs hvalid hfile hwritable

end Export

/-- Nothing has been written, and the log is not marked after an export unless it is empty. -/
structure Unwritten (file : String) (evs : List (Machine.Event AuditState AppendCall Bool))
    (s : AuditState) : Prop where
  text : s.disk.text file = ""
  clean : s.log.dirty = false → (∃ ev ∈ evs, ev.output = true) → s.log.entries = []

/-- If the file cannot be written, nothing is. -/
theorem Unwritten.step (h : Unwritten file evs s) (hs : AppendInvariant lib auditDir evs s)
    (hvalid : validatePath (fs.os s.disk) auditDir path true = .ok validated)
    (hfile : fs.realpath validated = .ok file) (hwritable : ∀ e ∈ s.log.entries, e.Writable lib)
    (happend : ¬fs.Appendable validated file) (i : AppendCall) :
    Unwritten file (evs ++ [(appender lib fs path).event s i])
      ((appender lib fs path).step s i).1 := by
  -- A step that makes no export adds none to those that have been made.
  have hmade {s' : AuditState} (hstep : (appender lib fs path).step s i = (s', false)) :
      (∃ ev ∈ evs ++ [(appender lib fs path).event s i], ev.output = true) →
        ∃ ev ∈ evs, ev.output = true := by
    rintro ⟨ev, hev, hout⟩
    rcases List.mem_append.1 hev with hev | hev
    · exact ⟨ev, hev, hout⟩
    · rw [List.mem_singleton.1 hev, Machine.event, hstep] at hout
      exact absurd hout Bool.false_ne_true
  cases i with
  | record c hc =>
    refine ⟨h.text, fun hdirty hev => ?_⟩
    rcases c.advances_exec s.log hc with heq | ⟨hdirty', _⟩
    · have hlog : ((appender lib fs path).step s (.record c hc)).1.log = s.log := heq
      rw [hlog] at hdirty ⊢
      exact h.clean hdirty (hmade rfl hev)
    · cases hdirty'.symm.trans hdirty
  | exportAppend =>
    rcases AuditState.exportJsonl_append_of_not_appendable (hs.auditDir_eq.symm ▸ hvalid) hfile
      hwritable happend with ⟨err, disk, herr, htext⟩ | ⟨hnil, hok⟩
    · have hstep : (appender lib fs path).step s .exportAppend = (⟨s.log, disk⟩, false) := by
        rw [appender]
        dsimp only
        rw [herr]
      refine ⟨?_, fun hdirty hev => ?_⟩
      · rw [hstep]
        exact htext.trans h.text
      · rw [hstep] at hdirty ⊢
        exact h.clean hdirty (hmade hstep hev)
    · have hstep : (appender lib fs path).step s .exportAppend =
          (⟨{ s.log with dirty := false }, s.disk⟩, true) := by
        rw [appender]
        dsimp only
        rw [hok]
      rw [hstep]
      exact ⟨h.text, fun _ _ => hnil⟩

end Steps

section Runs

variable {auditDir path validated file : String} {start : AuditState} {cs : List AppendCall}

end Runs

namespace Sample

end Sample

end VibeShield
