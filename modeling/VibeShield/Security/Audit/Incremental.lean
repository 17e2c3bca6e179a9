import VibeShield.Lib.Machine
import VibeShield.Security.Audit.RoundTrip

/-!
# Exporting a log step by step

A log is recorded, imported into and exported incrementally in any order (`exporter`). The
file then holds the lines of the first entries of the log, each once, and the tracker how
many these are (`export_incremental_exact`), as long as every export finds an integer as the
number of the last entry: a number that is imported may be `1.0` or `True`, which the
tracker does not give back.
-/

namespace VibeShield

variable {lib : ExportLib} {fs : FileSys}

/-! ## New entries -/

/-- A value that is equal to an integer is a number. -/
theorem PyVal.toNumber?_of_toInt? {v : PyVal} {n : ℤ} (h : v.toInt? = some n) :
    v.toNumber? = some (.fin n) := by
  cases v with
  | bool b =>
    obtain rfl := Option.some.inj h
    cases b <;> rfl
  | int k =>
    obtain rfl := Option.some.inj h
    rfl
  | float x =>
    cases x with
    | fin q =>
      change (if q.den = 1 then some q.num else Option.none) = some n at h
      split_ifs at h with hden
      obtain rfl := Option.some.inj h
      exact congrArg (fun r => some (PyFloat.fin r)) (Rat.coe_int_num_of_den_eq_one hden).symm
    | negZero =>
      obtain rfl := Option.some.inj h
      rfl
    | inf => exact absurd h nofun
    | negInf => exact absurd h nofun
    | nan => exact absurd h nofun
  | none => exact absurd h nofun
  | str s => exact absurd h nofun
  | list vs => exact absurd h nofun
  | dict items => exact absurd h nofun
  | object r => exact absurd h nofun

theorem PyVal.isGreater_of_toInt? {v : PyVal} {n : ℤ} (h : v.toInt? = some n) (m : ℤ) :
    v.isGreater m = .ok (m < n) := by
  rw [isGreater, toNumber?_of_toInt? h]
  simp only [Rat.intCast_lt_intCast]

/-- In a list of entries that are numbered from `i + 1` on, those with a number above `m`
    are the ones after the first `m - i`. -/
theorem newEntries_eq_drop {i : ℕ} {es : List AuditEntry} (hnum : Numbered i es) (m : ℕ) :
    newEntries m es = .ok (es.drop (m - i)) := by
  induction es generalizing i with
  | nil => rw [newEntries, List.drop_nil]
  | cons e es ih =>
    rw [newEntries, PyVal.isGreater_of_toInt? hnum.1, ih hnum.2]
    by_cases hm : m ≤ i
    · have hnew : (m : ℤ) < i + 1 := by omega
      have hi : m - i = 0 := by omega
      have hi' : m - (i + 1) = 0 := by omega
      rw [hi, hi', decide_eq_true hnew]
      rfl
    · have hold : ¬(m : ℤ) < i + 1 := by omega
      have hi : m - i = (m - (i + 1)) + 1 := by omega
      rw [hi, List.drop_succ_cons, decide_eq_false hold]
      rfl

/-! ## The tracker -/

/-- A text that starts and ends with other characters than blanks is not changed. -/
theorem pyStrip_eq_self {s : String} (h : ∀ c ∈ s.toList, isPySpace c = false) :
    pyStrip s = s := by
  have hdrop (cs : List Char) (hcs : ∀ c ∈ cs, isPySpace c = false) :
      cs.dropWhile isPySpace = cs := by
    cases cs with
    | nil => rfl
    | cons c cs => exact List.dropWhile_cons_of_neg (by simp [hcs c List.mem_cons_self])
  rw [pyStrip, hdrop _ h, hdrop _ fun c hc => h c (List.mem_reverse.1 hc), List.reverse_reverse,
    String.ofList_toList]

theorem isDigit_of_mem_toString {n : ℕ} {c : Char} (hc : c ∈ (toString n).toList) :
    c.isDigit = true := by
  change c ∈ (Nat.repr n).toList at hc
  rw [Nat.repr, String.toList_ofList] at hc
  exact Nat.isDigit_of_mem_toDigits (by decide) (by decide) hc

theorem isPySpace_of_isDigit {c : Char} (hc : c.isDigit = true) : isPySpace c = false := by
  rw [Char.isDigit] at hc
  simp only [Bool.and_eq_true, decide_eq_true_eq] at hc
  have h₁ : 48 ≤ c.toNat := hc.1
  have h₂ : c.toNat ≤ 57 := hc.2
  rw [isPySpace, decide_eq_false_iff_not]
  simp only [List.mem_cons, List.not_mem_nil, or_false]
  omega

theorem pyStrip_toString (n : ℕ) : pyStrip (toString n) = toString n :=
  pyStrip_eq_self fun _ hc => isPySpace_of_isDigit (isDigit_of_mem_toString hc)

theorem not_mem_toString (n : ℕ) : '\r' ∉ (toString n).toList :=
  fun hc => absurd (isDigit_of_mem_toString hc) (by decide)

namespace FileSys

/-- Before the first export the tracker is not there. -/
theorem lastExported_of_none (hfs : fs.Succeeds) {trackerPath tracker : String}
    (htracker : fs.realpath trackerPath = .ok tracker) {disk : Disk}
    (hdisk : disk.files tracker = none) : fs.lastExported lib trackerPath disk = .ok 0 disk := by
  have hopen : fs.openFile .read trackerPath disk = .error ⟨fileNotFound,
      s!"[Errno 2] No such file or directory: '{trackerPath}'"⟩ disk := by
    rw [openFile, htracker, hfs.openError]
    dsimp only
    rw [if_pos hdisk]
  rw [lastExported, readFile, bind_of_error (bind_of_error hopen)]
  exact if_pos (.inl rfl)

/-- What the tracker holds is read as a number, or as 0 if it is none. -/
theorem lastExported_of_some (hfs : fs.Succeeds) {trackerPath tracker text : String}
    (htracker : fs.realpath trackerPath = .ok tracker) {disk : Disk}
    (hdisk : disk.files tracker = some text) (hnewline : '\r' ∉ text.toList)
    (hstrip : pyStrip text = text) {n : ℤ} (hn : lib.parseInt text = .ok n ∨
      n = 0 ∧ ∃ err, lib.parseInt text = .error err ∧ err.isValueError = true) :
    fs.lastExported lib trackerPath disk =
      .ok n { disk with opened := disk.opened ++ [trackerPath] } := by
  rw [lastExported, bind_of_ok (readFile_eq_ok hfs htracker hdisk hnewline), hstrip]
  rcases hn with hn | ⟨rfl, err, herr, hvalue⟩
  · rw [hn]
    rfl
  · rw [herr]
    exact if_pos (.inr hvalue)

variable (lib) in
/-- Updating the tracker. -/
theorem updateTracker_eq_ok (hfs : fs.Succeeds) {trackerPath tracker : String}
    (htracker : fs.realpath trackerPath = .ok tracker) {es : List AuditEntry} {e : AuditEntry}
    (he : es.getLast? = some e) (disk : Disk) :
    fs.updateTracker lib trackerPath es disk = .ok ()
      ⟨Function.update disk.files tracker (some (lib.py.str e.sequence)),
        disk.opened ++ [trackerPath]⟩ := by
  have hwrite : OpenMode.write ≠ .read := nofun
  rw [updateTracker, bind_of_ok (openFile_eq_ok hfs hwrite htracker disk), he]
  dsimp only
  rw [writeText_eq_ok hfs (Function.update_self ..), Function.update_idem, startText,
    String.empty_append]

end FileSys

/-! ## One export -/

/-- A path that may be created is valid on every disk. -/
theorem FileSys.validatePath_os {disk : Disk} {auditDir path file : String}
    (h : validatePath (fs.os disk) auditDir path true = .ok file) (disk' : Disk) :
    validatePath (fs.os disk') auditDir path true = .ok file := by
  obtain ⟨hempty, htraversal, hbase, htarget, _⟩ := validatePath_eq_ok_iff.1 h
  exact validatePath_eq_ok_iff.2 ⟨hempty, htraversal, hbase, htarget, .inl rfl⟩

namespace AuditState

theorem exportSince_eq {path trackerPath : String} {last : ℤ} {log : AuditLog}
    {new : List AuditEntry} (hnew : newEntries last log.entries = .ok new) (disk : Disk) :
    exportSince lib fs path trackerPath last ⟨log, disk⟩ =
      (if new.isEmpty then pure ()
        else validatedPath fs path >>= appendTo lib fs trackerPath new :
          EStateM PyErr AuditState Unit) ⟨log, disk⟩ := by
  have hget : exportSince lib fs path trackerPath last ⟨log, disk⟩ =
      (ofExcept (newEntries last log.entries) >>= fun new => if new.isEmpty then pure ()
        else validatedPath fs path >>= appendTo lib fs trackerPath new :
          EStateM PyErr AuditState Unit) ⟨log, disk⟩ := rfl
  rw [hget, hnew]
  rfl

/-- An export that finds nothing new leaves all files as they are. -/
theorem exportIncremental_of_nil {path : String} {s : AuditState} {last : ℤ} {disk : Disk}
    (hlast : fs.lastExported lib (path ++ ".seq") s.disk = .ok last disk)
    (hnew : newEntries last s.log.entries = .ok []) :
    exportIncremental lib fs path s = .ok () { s with disk := disk } := by
  rw [exportIncremental, bind_of_ok (onDisk_eq_ok hlast)]
  exact exportSince_eq hnew disk

/-- An export appends the lines of the new entries and updates the tracker. -/
theorem exportIncremental_of_ne_nil (hfs : fs.Succeeds) (hreal : fs.Resolves)
    {path file tracker : String} {s : AuditState} {last : ℤ} {disk : Disk}
    (hlast : fs.lastExported lib (path ++ ".seq") s.disk = .ok last disk)
    {new : List AuditEntry} (hnew : newEntries last s.log.entries = .ok new) (hne : new ≠ [])
    (hwritable : ∀ e ∈ new, e.Writable lib)
    (hvalid : validatePath (fs.os s.disk) s.log.auditDir path true = .ok file)
    (htracker : fs.realpath (path ++ ".seq") = .ok tracker) {e : AuditEntry}
    (he : s.log.entries.getLast? = some e) :
    exportIncremental lib fs path s = .ok () ⟨s.log,
      ⟨Function.update (Function.update disk.files file
          (some ((disk.files file).getD "" ++ linesText lib new)))
        tracker (some (lib.py.str e.sequence)),
        disk.opened ++ [file] ++ [path ++ ".seq"]⟩⟩ := by
  have happend : OpenMode.append ≠ .read := nofun
  have hwrite := FileSys.writeEntries_eq_ok hfs hwritable happend
    (hreal _ _ (validatePath_eq_ok hvalid).1) disk
  have hupdate := FileSys.updateTracker_eq_ok lib hfs htracker he
    ⟨Function.update disk.files file (some ((disk.files file).getD "" ++ linesText lib new)),
      disk.opened ++ [file]⟩
  rw [exportIncremental, bind_of_ok (onDisk_eq_ok hlast)]
  refine (exportSince_eq hnew disk).trans ?_
  have hpath : validatedPath fs path ⟨s.log, disk⟩ = .ok file ⟨s.log, disk⟩ :=
    validatedPath_eq_ok hfs (FileSys.validatePath_os hvalid disk)
  have happended : onDisk (fs.writeEntries lib .append file new) ⟨s.log, disk⟩ = .ok () _ :=
    onDisk_eq_ok hwrite
  rw [if_neg (by simpa using hne), bind_of_ok hpath, appendTo, bind_of_ok happended]
  exact onDisk_eq_ok hupdate

end AuditState

/-! ## Runs -/

/-- A call of `record` or `import_jsonl`, or one of `export_incremental`. A callback finds
    the entry in the log and nothing follows it, so an export that a callback makes is listed
    after the call that fires it. -/
inductive ExportCall
  | call (c : Call)
  | exportIncremental

/-- The calls on a log and a disk, with one path to export to. -/
def exporter (lib : ExportLib) (fs : FileSys) (path : String) :
    Machine AuditState ExportCall Unit where
  step
    | s, .call c => ({ s with log := c.exec lib.py s.log }, ())
    | s, .exportIncremental => (endState (AuditState.exportIncremental lib fs path s), ())

/-- The length of the log at the last export that found it non-empty. -/
def exportedLength (evs : List (Machine.Event AuditState ExportCall Unit)) : ℕ :=
  evs.foldl (fun m ev =>
    match ev.input with
    | .call _ => m
    | .exportIncremental => if ev.pre.log.entries = [] then m else ev.pre.log.length) 0

/-- An export finds the log empty, or an integer as the number of the last entry. -/
def Trackable (s : AuditState) : ExportCall → Prop
  | .call _ => True
  | .exportIncremental => ∀ e, s.log.entries.getLast? = some e → ∃ n, e.sequence = .int n

/-- What is assumed of the library: `json.dumps` writes an entry of the log if it writes its
    content with sorted keys, and numbers up to the length of the log are written and parsed
    in decimal. -/
structure ExportLib.Writes (lib : ExportLib) (l : AuditLog) : Prop where
  writable : ∀ e ∈ l.entries, (∃ text, lib.py.dumps e.content = .ok text) → e.Writable lib
  str_int : ∀ n : ℕ, n ≤ l.length → lib.py.str (.int n) = toString n
  parseInt_toString : ∀ n : ℕ, n ≤ l.length → lib.parseInt (toString n) = .ok n

/-- If it is assumed for a log, it is assumed for the logs that the log extends. -/
theorem ExportLib.Writes.of_extends {l l' : AuditLog} (h : lib.Writes l') (hl : l.Extends l') :
    lib.Writes l where
  writable e he := h.writable e (hl.isPrefix_entries.subset he)
  str_int n hn := h.str_int n (hn.trans hl.isPrefix_entries.length_le)
  parseInt_toString n hn := h.parseInt_toString n (hn.trans hl.isPrefix_entries.length_le)

variable {path file tracker auditDir : String}

/-- The first `m` entries have been exported: the file holds their lines and the tracker
    their number. Before the first export neither is there. -/
structure Exported (lib : ExportLib) (file tracker : String) (m : ℕ) (s : AuditState) :
    Prop where
  le_length : m ≤ s.log.length
  files_file : s.disk.files file =
    if m = 0 then none else some (linesText lib (s.log.entries.take m))
  files_tracker : s.disk.files tracker = if m = 0 then none else some (toString m)

namespace Exported

variable {m : ℕ} {s : AuditState}

/-- What has been exported stays so when the log is extended. -/
theorem of_extends (h : Exported lib file tracker m s) {log : AuditLog}
    (hlog : s.log.Extends log) : Exported lib file tracker m { s with log := log } where
  le_length := h.le_length.trans hlog.isPrefix_entries.length_le
  files_file := by
    obtain ⟨es, hes⟩ := hlog.isPrefix_entries
    have htake : log.entries.take m = s.log.entries.take m := by
      rw [← hes, List.take_append_of_le_length h.le_length]
    rw [htake]
    exact h.files_file
  files_tracker := h.files_tracker

/-- The tracker is read. -/
theorem lastExported (h : Exported lib file tracker m s) (hfs : fs.Succeeds)
    (htracker : fs.realpath (path ++ ".seq") = .ok tracker)
    (hparse : lib.parseInt (toString m) = .ok m) :
    ∃ opened, fs.lastExported lib (path ++ ".seq") s.disk =
      .ok m ⟨s.disk.files, opened⟩ := by
  by_cases hm : m = 0
  · subst hm
    exact ⟨_, FileSys.lastExported_of_none hfs htracker h.files_tracker⟩
  · have hfiles := h.files_tracker
    rw [if_neg hm] at hfiles
    exact ⟨_, FileSys.lastExported_of_some hfs htracker hfiles (not_mem_toString m)
      (pyStrip_toString m) (.inl hparse)⟩

/-- The text of the file, which is empty if the file is not there. -/
theorem getD_files_file (h : Exported lib file tracker m s) :
    (s.disk.files file).getD "" = linesText lib (s.log.entries.take m) := by
  rw [h.files_file]
  by_cases hm : m = 0
  · rw [if_pos hm, hm, List.take_zero]
    rfl
  · rw [if_neg hm]
    rfl

/-- After an export that finds an integer as the number of the last entry, all entries have
    been exported. -/
theorem exportIncremental (h : Exported lib file tracker m s) (hfs : fs.Succeeds)
    (hreal : fs.Resolves) (hsound : s.log.Sound lib.py) (hlib : lib.Writes s.log)
    (hvalid : validatePath (fs.os s.disk) s.log.auditDir path true = .ok file)
    (htracker : fs.realpath (path ++ ".seq") = .ok tracker) (hne : file ≠ tracker)
    (htrackable : Trackable s .exportIncremental) :
    ∃ disk, AuditState.exportIncremental lib fs path s = .ok () ⟨s.log, disk⟩ ∧
      Exported lib file tracker s.log.length ⟨s.log, disk⟩ := by
  obtain ⟨opened, hlast⟩ := h.lastExported hfs htracker (hlib.parseInt_toString m h.le_length)
  have hnew : newEntries m s.log.entries = .ok (s.log.entries.drop m) :=
    newEntries_eq_drop hsound.numbered m
  rcases h.le_length.eq_or_lt with rfl | hlt
  · -- All entries have been exported before.
    rw [AuditLog.length, List.drop_length] at hnew
    exact ⟨_, AuditState.exportIncremental_of_nil hlast hnew, h.le_length, h.files_file,
      h.files_tracker⟩
  · have hpos : s.log.length ≠ 0 := Nat.ne_zero_of_lt hlt
    obtain ⟨es, e, hes⟩ : ∃ es e, s.log.entries = es ++ [e] :=
      (List.eq_nil_or_concat' s.log.entries).resolve_left fun hnil =>
        hpos (congrArg List.length hnil)
    have hgetLast : s.log.entries.getLast? = some e := by rw [hes, List.getLast?_concat]
    -- The number of the last entry is the integer that is equal to the length.
    have hsequence : e.sequence = .int s.log.length := by
      obtain ⟨n, hn⟩ := htrackable e hgetLast
      have hnum := hsound.numbered
      rw [hes, numbered_append] at hnum
      have htoInt := hnum.2.1
      rw [hn, PyVal.toInt?_int] at htoInt
      have hlen : s.log.length = es.length + 1 := by
        rw [AuditLog.length, hes, List.length_append]
        rfl
      rw [hn, Option.some.inj htoInt, hlen]
      simp
    have hwritable (e : AuditEntry) (he : e ∈ s.log.entries.drop m) : e.Writable lib := by
      have he := List.mem_of_mem_drop he
      obtain ⟨text, htext, _⟩ :=
        AuditEntry.computeHash_eq_ok.1 (hsound.chained.isSealed e he)
      exact hlib.writable e he ⟨text, htext⟩
    refine ⟨_, AuditState.exportIncremental_of_ne_nil hfs hreal hlast hnew
      (fun hnil => absurd (List.drop_eq_nil_iff.1 hnil) (Nat.not_le_of_lt hlt)) hwritable hvalid
      htracker hgetLast, le_rfl, ?_, ?_⟩
    · dsimp only
      rw [if_neg hpos, Function.update_of_ne hne, Function.update_self, h.getD_files_file,
        ← linesText_append, List.take_append_drop, AuditLog.length, List.take_length]
    · dsimp only
      rw [if_neg hpos, Function.update_self, hsequence, hlib.str_int _ le_rfl]

end Exported

/-- An export leaves the log as it is, also if it fails. -/
theorem AuditState.preserves_exportIncremental (path : String) :
    Preserves AuditState.log (exportIncremental lib fs path) := by
  have hdisk {α : Type} (x : EStateM PyErr Disk α) : Preserves AuditState.log (onDisk x) :=
    fun s => by rw [endState_onDisk]
  have happend (trackerPath : String) (new : List AuditEntry) (file : String) :
      Preserves AuditState.log (appendTo lib fs trackerPath new file) :=
    (hdisk _).bind fun _ => Preserves.get.bind fun _ => hdisk _
  have hpath : Preserves AuditState.log (validatedPath fs path) :=
    Preserves.get.bind fun _ => (Preserves.ofExcept _).bind fun _ =>
      (Preserves.ofExcept _).bind fun _ => .pure _
  refine (hdisk _).bind fun last => Preserves.get.bind fun s => ?_
  refine (Preserves.ofExcept _).bind fun new => ?_
  split
  · exact .pure _
  · exact hpath.bind fun file => happend _ new file

theorem log_step_call (s : AuditState) (c : Call) :
    ((exporter lib fs path).step s (.call c)).1.log = c.exec lib.py s.log := rfl

/-- An export leaves the log as it is. -/
theorem log_step_exportIncremental (s : AuditState) :
    ((exporter lib fs path).step s .exportIncremental).1.log = s.log :=
  AuditState.preserves_exportIncremental path s

/-- All calls extend the log. -/
theorem extends_run (cs : List ExportCall) {s : AuditState} (h : s.log.Sound lib.py) :
    s.log.Extends ((exporter lib fs path).run s cs).log ∧
      ((exporter lib fs path).run s cs).log.Sound lib.py := by
  refine Machine.invariant (G := fun _ _ => True)
    (P := fun t : AuditState => s.log.Extends t.log ∧ t.log.Sound lib.py)
    ⟨⟨rfl, List.prefix_refl _⟩, h⟩ ?_ cs fun _ _ => trivial
  rintro t (c | _) _ ⟨hextends, hsound⟩
  · exact (AuditLog.kept_extends lib.py s.log).exec c ⟨hextends, hsound⟩
  · rw [log_step_exportIncremental]
    exact ⟨hextends, hsound⟩

theorem exportedLength_concat_call (evs : List (Machine.Event AuditState ExportCall Unit))
    (s : AuditState) (c : Call) :
    exportedLength (evs ++ [(exporter lib fs path).event s (.call c)]) = exportedLength evs := by
  rw [exportedLength, List.foldl_append]
  rfl

theorem exportedLength_concat_exportIncremental
    (evs : List (Machine.Event AuditState ExportCall Unit)) (s : AuditState) :
    exportedLength (evs ++ [(exporter lib fs path).event s .exportIncremental]) =
      if s.log.entries = [] then exportedLength evs else s.log.length := by
  rw [exportedLength, List.foldl_append]
  rfl

/-- The invariant of the runs. -/
structure RunInvariant (lib : ExportLib) (auditDir file tracker : String)
    (evs : List (Machine.Event AuditState ExportCall Unit)) (s : AuditState) : Prop where
  sound : s.log.Sound lib.py
  auditDir_eq : s.log.auditDir = auditDir
  exported : Exported lib file tracker (exportedLength evs) s

/-- A step that finds an integer as the number of the last entry keeps the invariant. -/
theorem RunInvariant.step {evs : List (Machine.Event AuditState ExportCall Unit)}
    {s : AuditState} (h : RunInvariant lib auditDir file tracker evs s) (hfs : fs.Succeeds)
    (hreal : fs.Resolves) (hvalid : validatePath (fs.os s.disk) auditDir path true = .ok file)
    (htracker : fs.realpath (path ++ ".seq") = .ok tracker) (hne : file ≠ tracker)
    (hlib : lib.Writes s.log) {c : ExportCall} (hc : Trackable s c) :
    RunInvariant lib auditDir file tracker (evs ++ [(exporter lib fs path).event s c])
      ((exporter lib fs path).step s c).1 := by
  cases c with
  | call c =>
    have hextends := c.extends_exec h.sound
    refine ⟨c.sound_exec h.sound, hextends.auditDir_eq.trans h.auditDir_eq, ?_⟩
    rw [exportedLength_concat_call]
    exact h.exported.of_extends hextends
  | exportIncremental =>
    obtain ⟨disk, hexport, hexported⟩ := h.exported.exportIncremental hfs hreal h.sound hlib
      (h.auditDir_eq.symm ▸ hvalid) htracker hne hc
    have hstep : ((exporter lib fs path).step s .exportIncremental).1 = ⟨s.log, disk⟩ :=
      congrArg endState hexport
    rw [hstep]
    refine ⟨h.sound, h.auditDir_eq, ?_⟩
    rw [exportedLength_concat_exportIncremental]
    split
    · -- An empty log has been exported as far as it goes.
      next hnil =>
        have hlen : s.log.length = 0 := congrArg List.length hnil
        have hm : exportedLength evs = 0 := Nat.le_zero.1 (hlen ▸ h.exported.le_length)
        rw [hm, ← hlen]
        exact hexported
    · exact hexported

/-- Whatever is recorded, imported and exported, in any order: the file holds the lines of
    the first `m` entries, and the tracker `m`, where `m` is the length of the log at the last
    export that found it non-empty, if every export that finds the log non-empty finds an
    integer as the number of its last entry. -/
theorem export_incremental_exact (lib : ExportLib) (fs : FileSys) (hfs : fs.Succeeds)
    (hreal : fs.Resolves) (auditDir path file tracker : String) (onCritical : Bool)
    (disk : Disk) (hvalid : validatePath (fs.os disk) auditDir path true = .ok file)
    (htracker : fs.realpath (path ++ ".seq") = .ok tracker) (hne : file ≠ tracker)
    (hfile : disk.files file = none) (hseq : disk.files tracker = none)
    (cs : List ExportCall)
    (hlib : lib.Writes ((exporter lib fs path).run ⟨.new auditDir onCritical, disk⟩ cs).log)
    (hcs : (exporter lib fs path).Guarded Trackable ⟨.new auditDir onCritical, disk⟩ cs) :
    let s := (exporter lib fs path).run ⟨.new auditDir onCritical, disk⟩ cs
    let m := exportedLength ((exporter lib fs path).events ⟨.new auditDir onCritical, disk⟩ cs)
    m ≤ s.log.length ∧
      (∀ e ∈ s.log.entries, ∃ text, e.toJson lib = .ok text ∧ e.line lib = text ++ "\n") ∧
      s.disk.files file =
        (if m = 0 then none
        else some (String.join ((s.log.entries.take m).map (AuditEntry.line lib)))) ∧
      s.disk.files tracker = if m = 0 then none else some (toString m) := by
  intro s m
  have hnew : (AuditLog.new auditDir onCritical).Sound lib.py :=
    AuditLog.sound_new auditDir onCritical
  -- Every log on the way is extended by the last one, so what is assumed holds of it, too.
  have hguard : (exporter lib fs path).Guarded (fun t c => lib.Writes t.log ∧ Trackable t c)
      ⟨.new auditDir onCritical, disk⟩ cs := by
    intro ev hev
    refine ⟨?_, hcs ev hev⟩
    obtain ⟨js, c, ks, rfl, rfl⟩ := Machine.exists_prefix_of_mem_events hev
    rw [Machine.run_append] at hlib
    exact hlib.of_extends (extends_run (c :: ks) (extends_run js hnew).2).1
  have h : RunInvariant lib auditDir file tracker _ s := Machine.history_induction
    (P := RunInvariant lib auditDir file tracker)
    ⟨hnew, rfl, Nat.zero_le _, hfile, hseq⟩
    (fun evs t c hc ht => ht.step hfs hreal (FileSys.validatePath_os hvalid t.disk) htracker hne
      hc.1 hc.2) cs hguard
  refine ⟨h.exported.le_length, fun e he => ?_, h.exported.files_file, h.exported.files_tracker⟩
  obtain ⟨hash, hhash, _⟩ := AuditEntry.computeHash_eq_ok.1 (h.sound.chained.isSealed e he)
  obtain ⟨text, htext⟩ := hlib.writable e he ⟨hash, hhash⟩
  exact ⟨text, htext, by rw [AuditEntry.line, htext]⟩

namespace Sample

theorem exportPath_valid_absolute (disk : Disk) :
    validatePath ((FileSys.working id).os disk) "/var/lib/vibeshield/audit" exportPath true =
      .ok exportPath :=
  validatePath_working (by decide +kernel) (by decide +kernel) (by decide +kernel)
    (by decide +kernel) disk

theorem exportPath_ne_tracker : exportPath ≠ exportPath ++ ".seq" := by
  decide +kernel

/-- A library that parses nothing. -/
def startLib : ExportLib := exportLib []

/-- The audit log, before its file is there. -/
abbrev exportStart : AuditState := ⟨.new "/var/lib/vibeshield/audit" false, emptyDisk⟩

/-- The state after calls. -/
abbrev exportRun (cs : List ExportCall) : AuditState :=
  (exporter startLib (.working id) exportPath).run exportStart cs

/-- The first entry is recorded and exported, and the second one is recorded. -/
def recordCalls : List ExportCall :=
  [.call (.record startArgs [] none), .exportIncremental, .call (.record stopArgs [] none)]

/-- A run with two entries and two exports. -/
def exportCalls : List ExportCall := recordCalls ++ [.exportIncremental]

theorem log_recordStart : (exportRun [.call (.record startArgs [] none)]).log = startLog :=
  Call.exec_record_nil isSealed_startEntry

theorem log_recordCalls : (exportRun recordCalls).log = log := by
  have hsplit : recordCalls = ([.call (.record startArgs [] none)] ++ [.exportIncremental]) ++
      [.call (.record stopArgs [] none)] := rfl
  rw [exportRun, hsplit, Machine.run_concat, log_step_call, Machine.run_concat,
    log_step_exportIncremental, log_recordStart]
  exact Call.exec_record_nil isSealed_stopEntry

theorem log_exportCalls : (exportRun exportCalls).log = log := by
  rw [exportRun, exportCalls, Machine.run_concat, log_step_exportIncremental]
  exact log_recordCalls

theorem writable_of_jsonLine {e : AuditEntry} (h : (jsonLine e.toDict).isSome = true) :
    e.Writable startLib := by
  obtain ⟨text, htext⟩ := Option.isSome_iff_exists.1 h
  refine ⟨text, ?_⟩
  dsimp only [AuditEntry.toJson, startLib, exportLib]
  rw [htext]

theorem writable_startEntry : startEntry.Writable startLib :=
  writable_of_jsonLine (by decide +kernel)

theorem writable_stopEntry : stopEntry.Writable startLib :=
  writable_of_jsonLine (by decide +kernel)

theorem number_cases {n : ℕ} (hn : n ≤ log.length) : n = 0 ∨ n = 1 ∨ n = 2 := by
  have hlen : log.length = 2 := rfl
  omega

theorem writes_log : startLib.Writes log where
  writable e he _ := by
    rcases List.mem_pair.1 he with rfl | rfl
    · exact writable_startEntry
    · exact writable_stopEntry
  str_int n hn := by
    obtain rfl | rfl | rfl := number_cases hn <;> rfl
  parseInt_toString n hn := by
    obtain rfl | rfl | rfl := number_cases hn <;> rfl

theorem trackable_of_log {s : AuditState} {e : AuditEntry} {n : ℤ}
    (hlast : s.log.entries.getLast? = some e) (hn : e.sequence = .int n) :
    Trackable s .exportIncremental := by
  intro e' he'
  obtain rfl : e = e' := Option.some.inj (hlast.symm.trans he')
  exact ⟨n, hn⟩

/-- Each entry is exported once, by the export that comes after it. -/
theorem entries_exported :
    (exportRun exportCalls).disk.files exportPath =
        some (startEntry.line startLib ++ stopEntry.line startLib) ∧
      (exportRun exportCalls).disk.files (exportPath ++ ".seq") = some "2" := by
  have hm : exportedLength ((exporter startLib (.working id) exportPath).events exportStart
      exportCalls) = 2 := by
    rw [exportCalls, Machine.events_concat, exportedLength_concat_exportIncremental,
      log_recordCalls]
    rfl
  have hcs : (exporter startLib (.working id) exportPath).Guarded Trackable exportStart
      exportCalls := by
    intro ev hev
    simp only [exportCalls, recordCalls, List.cons_append, List.nil_append, Machine.events,
      List.mem_cons, List.not_mem_nil, or_false] at hev
    rcases hev with rfl | rfl | rfl | rfl
    · trivial
    · exact trackable_of_log (congrArg (·.entries.getLast?) log_recordStart) rfl
    · trivial
    · exact trackable_of_log (congrArg (·.entries.getLast?) log_recordCalls) rfl
  obtain ⟨_, _, hfile, htracker⟩ := export_incremental_exact startLib (.working id)
    FileSys.succeeds_working (FileSys.resolves_working fun _ => rfl)
    "/var/lib/vibeshield/audit" exportPath exportPath (exportPath ++ ".seq") false emptyDisk
    (exportPath_valid_absolute _) rfl exportPath_ne_tracker rfl rfl exportCalls
    (log_exportCalls.symm ▸ writes_log) hcs
  rw [hm, if_neg two_ne_zero] at hfile htracker
  have hlines : String.join ((log.entries.take 2).map (AuditEntry.line startLib)) =
      startEntry.line startLib ++ stopEntry.line startLib := by
    change "" ++ startEntry.line startLib ++ stopEntry.line startLib = _
    rw [String.empty_append]
  rw [← hlines, ← log_exportCalls]
  -- Unfolded first, so that the two sides are compared without running anything.
  unfold exportRun exportStart
  exact ⟨hfile, htracker⟩

/-- An entry with the number `1.0`. -/
def floatEntry : AuditEntry := { startEntry with sequence := .float (.fin 1) }

/-- The library, which can parse the line of this entry. -/
def floatLib : ExportLib := exportLib [floatEntry.toDict]

/-- The path the entry is imported from. -/
def importPath : String := "/var/lib/vibeshield/audit/import.jsonl"

/-- The disk before the import. -/
def importDisk : Disk :=
  ⟨fun file => if file = importPath then some (linesText floatLib [floatEntry]) else none, []⟩

/-- A run in which the entry is imported and exported twice. -/
def floatCalls : List ExportCall :=
  [.call (.importJsonl ((FileSys.working id).os importDisk) "import.jsonl"),
    .exportIncremental, .exportIncremental]

theorem roundTrips_floatEntry : floatLib.RoundTrips floatEntry.toDict :=
  roundTrips_of_loads rfl rfl (by decide +kernel)

theorem numbered_floatEntry : Numbered 0 [floatEntry] := ⟨rfl, trivial⟩

/-- The entry is imported. -/
theorem floatEntry_imported : ∃ l,
    Call.exec floatLib.py (.importJsonl ((FileSys.working id).os importDisk) "import.jsonl")
      (.new "/var/lib/vibeshield/audit" false) = l ∧
    l.entries = [floatEntry] ∧ l.auditDir = "/var/lib/vibeshield/audit" := by
  have hvalid : validatePath ((FileSys.working id).os importDisk) "/var/lib/vibeshield/audit"
      "import.jsonl" true = .ok importPath :=
    validatePath_working (by decide +kernel) (by decide) (by decide +kernel) (by decide +kernel) _
  have hfile : importDisk.files importPath = some (linesText floatLib [floatEntry]) := by
    dsimp only [importDisk]
    rw [if_pos rfl]
  have hreal : (FileSys.working id).Resolves := FileSys.resolves_working fun _ => rfl
  obtain ⟨l, hl, hentries⟩ := (AuditLog.importJsonl_linesText FileSys.succeeds_working hreal hvalid
    hfile numbered_floatEntry ⟨rfl, isSealed_startEntry, trivial⟩ (List.forall_mem_singleton.2 rfl)
    (List.forall_mem_singleton.2 roundTrips_floatEntry) false).1
    (List.forall_mem_singleton.2 (by decide +kernel))
  have hsound : (AuditLog.new "/var/lib/vibeshield/audit" false).Sound floatLib.py :=
    AuditLog.sound_new _ _
  have hexec : Call.exec floatLib.py (.importJsonl ((FileSys.working id).os importDisk)
      "import.jsonl") (.new "/var/lib/vibeshield/audit" false) = l := by rw [Call.exec, hl]
  have hdir := (Call.extends_exec (.importJsonl ((FileSys.working id).os importDisk)
    "import.jsonl") hsound).auditDir_eq
  rw [hexec] at hdir
  exact ⟨l, hexec, hentries, hdir⟩

/-- An export that reads 0 from the tracker exports the entry again. -/
theorem exportIncremental_floatEntry {log : AuditLog} (hentries : log.entries = [floatEntry])
    (hdir : log.auditDir = "/var/lib/vibeshield/audit") {disk disk' : Disk}
    (hlast : (FileSys.working id).lastExported floatLib (exportPath ++ ".seq") disk =
      .ok 0 disk') :
    ∃ opened, AuditState.exportIncremental floatLib (.working id) exportPath ⟨log, disk⟩ =
      .ok () ⟨log, ⟨Function.update (Function.update disk'.files exportPath
          (some ((disk'.files exportPath).getD "" ++ floatEntry.line floatLib)))
        (exportPath ++ ".seq") (some "1.0"), opened⟩⟩ := by
  have hnew : newEntries 0 log.entries = .ok [floatEntry] := by
    rw [hentries]
    exact newEntries_eq_drop numbered_floatEntry 0
  have hwritable : ∀ e ∈ [floatEntry], e.Writable floatLib := by
    obtain ⟨text, htext, _⟩ := roundTrips_floatEntry
    exact List.forall_mem_singleton.2 ⟨text, htext⟩
  have hlastEntry : log.entries.getLast? = some floatEntry := by
    rw [hentries]
    rfl
  have hexport := AuditState.exportIncremental_of_ne_nil (s := ⟨log, disk⟩)
    FileSys.succeeds_working (FileSys.resolves_working fun _ => rfl) hlast hnew
    (List.cons_ne_nil _ _) hwritable (hdir.symm ▸ exportPath_valid_absolute disk) rfl hlastEntry
  rw [linesText_singleton] at hexport
  exact ⟨_, hexport⟩

/-- What the first export leaves in the tracker is no number. -/
theorem lastExported_floatEntry {files : String → Option String}
    (h : files (exportPath ++ ".seq") = some "1.0") (opened : List String) :
    ∃ opened', (FileSys.working id).lastExported floatLib (exportPath ++ ".seq")
      ⟨files, opened⟩ = .ok 0 ⟨files, opened'⟩ := by
  have htracker : (FileSys.working id).realpath (exportPath ++ ".seq") =
      .ok (exportPath ++ ".seq") := rfl
  have hnewline : '\r' ∉ "1.0".toList := by decide
  have hstrip : pyStrip "1.0" = "1.0" := by decide
  have hparse : ∃ err, floatLib.parseInt "1.0" = .error err ∧ err.isValueError = true :=
    ⟨_, rfl, rfl⟩
  have hfiles : (⟨files, opened⟩ : Disk).files (exportPath ++ ".seq") = some "1.0" := h
  exact ⟨_, FileSys.lastExported_of_some FileSys.succeeds_working htracker hfiles hnewline hstrip
    (.inr ⟨rfl, hparse⟩)⟩

/-- An imported number `1.0` is not given back by the tracker: the entry is exported twice. -/
theorem floatEntry_exported_twice :
    let s := (exporter floatLib (.working id) exportPath).run
      ⟨.new "/var/lib/vibeshield/audit" false, importDisk⟩ floatCalls
    (importDisk.files exportPath = none) ∧ importDisk.files (exportPath ++ ".seq") = none ∧
      s.log.entries = [floatEntry] ∧
      s.disk.files exportPath =
        some (floatEntry.line floatLib ++ floatEntry.line floatLib) ∧
      s.disk.files exportPath ≠ some (floatEntry.line floatLib) ∧
      s.disk.files (exportPath ++ ".seq") = some "1.0" := by
  have hnone {file : String} (hne : file ≠ importPath) : importDisk.files file = none := by
    dsimp only [importDisk]
    rw [if_neg hne]
  have hfile : importDisk.files exportPath = none := hnone (by decide +kernel)
  have htracker : importDisk.files (exportPath ++ ".seq") = none := hnone (by decide +kernel)
  obtain ⟨l, hl, hentries, hdir⟩ := floatEntry_imported
  -- At the first export there is no tracker, at the second one it holds no number.
  obtain ⟨opened₁, hexport₁⟩ := exportIncremental_floatEntry hentries hdir
    (FileSys.lastExported_of_none FileSys.succeeds_working rfl htracker)
  rw [hfile, Option.getD_none, String.empty_append] at hexport₁
  obtain ⟨opened, hlast⟩ := lastExported_floatEntry (Function.update_self (exportPath ++ ".seq")
    (some "1.0") (Function.update importDisk.files exportPath
      (some (floatEntry.line floatLib)))) opened₁
  obtain ⟨opened₂, hexport₂⟩ := exportIncremental_floatEntry hentries hdir hlast
  dsimp only at hexport₂
  rw [Function.update_of_ne exportPath_ne_tracker, Function.update_self, Option.getD_some]
    at hexport₂
  have himport : ((exporter floatLib (.working id) exportPath).step
      ⟨.new "/var/lib/vibeshield/audit" false, importDisk⟩ (.call (.importJsonl
        ((FileSys.working id).os importDisk) "import.jsonl"))).1 = ⟨l, importDisk⟩ :=
    congrArg (AuditState.mk · importDisk) hl
  have hstep {s t : AuditState} (h : AuditState.exportIncremental floatLib (.working id)
      exportPath s = .ok () t) :
      ((exporter floatLib (.working id) exportPath).step s .exportIncremental).1 = t :=
    congrArg endState h
  have hlength : (floatEntry.line floatLib).length ≠ 0 := by
    obtain ⟨text, htext, _⟩ := roundTrips_floatEntry
    rw [AuditEntry.line, AuditEntry.toJson, htext, String.length_append]
    exact Nat.succ_ne_zero _
  rw [floatCalls, Machine.run, Machine.run, Machine.run, Machine.run, himport, hstep hexport₁,
    hstep hexport₂]
  refine ⟨hfile, htracker, hentries, ?_, ?_, ?_⟩
  · dsimp only
    rw [Function.update_of_ne exportPath_ne_tracker, Function.update_self]
  · dsimp only
    rw [Function.update_of_ne exportPath_ne_tracker, Function.update_self]
    intro h
    have hlen := congrArg String.length (Option.some.inj h)
    rw [String.length_append] at hlen
    omega
  · dsimp only
    rw [Function.update_self]

end Sample

end VibeShield
