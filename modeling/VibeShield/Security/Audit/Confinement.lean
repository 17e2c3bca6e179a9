import VibeShield.Security.Audit.Lines

/-!
# Which files are opened

The audit directory is to confine the files of a log: what a call opens lies in it, and a
path that leads out of it makes the call fail before it opens a file (`Confined`).
Exporting and importing JSON lines is confined, as both validate their path. The other two
exports are not: `export_json` opens its path as it is, and `export_incremental` opens its
tracker before it validates anything, and never validates the path of the tracker.
`audit_files_confined_iff` tells on which paths they are confined nevertheless.
-/

namespace VibeShield

/-! ## What is opened -/

/-- The paths that have been opened. -/
def AuditState.opened (s : AuditState) : List String := s.disk.opened

namespace FileSys

variable (fs : FileSys) (lib : ExportLib)

theorem appends_openFile (mode : OpenMode) (path : String) :
    Appends Disk.opened (· = path) (fs.openFile mode path) := by
  intro disk
  rw [openFile]
  split
  · exact ⟨[], (List.append_nil _).symm, fun _ h => absurd h List.not_mem_nil⟩
  · exact ⟨[], (List.append_nil _).symm, fun _ h => absurd h List.not_mem_nil⟩
  · cases mode with
    | read =>
      dsimp only
      split
      · exact ⟨[], (List.append_nil _).symm, fun _ h => absurd h List.not_mem_nil⟩
      · exact ⟨[path], rfl, fun _ h => List.mem_singleton.1 h⟩
    | write => exact ⟨[path], rfl, fun _ h => List.mem_singleton.1 h⟩
    | append => exact ⟨[path], rfl, fun _ h => List.mem_singleton.1 h⟩

variable {P : String → Prop}

theorem appends_readText (file : String) : Appends Disk.opened P (fs.readText file) := by
  refine .of_eq fun disk => ?_
  rw [readText]
  split <;> rfl

theorem appends_writeText (file text : String) :
    Appends Disk.opened P (fs.writeText file text) := by
  refine .of_eq fun disk => ?_
  rw [writeText]
  split <;> rfl

theorem appends_writeLines (file : String) (es : List AuditEntry) :
    Appends Disk.opened P (fs.writeLines lib file es) := by
  induction es with
  | nil => exact .pure _
  | cons e es ih =>
    exact (Appends.ofExcept _).bind fun _ => (fs.appends_writeText file _).bind fun _ => ih

theorem appends_writeEntries (mode : OpenMode) (path : String) (es : List AuditEntry) :
    Appends Disk.opened (· = path) (fs.writeEntries lib mode path es) :=
  (fs.appends_openFile mode path).bind fun file => fs.appends_writeLines lib file es

theorem appends_dumpJson (data : PyVal) (file : String) :
    Appends Disk.opened P (fs.dumpJson lib data file) := by
  refine (fs.appends_writeText file _).bind fun _ => ?_
  split
  · exact .throw _
  · exact .pure _

/-- Asking for the last number leaves the disk as reading the tracker does. -/
theorem endState_lastExported (path : String) (disk : Disk) :
    endState (fs.lastExported lib path disk) = endState (fs.readFile path disk) := by
  rw [lastExported]
  cases hread : fs.readFile path disk with
  | error err disk' =>
    rw [bind_of_error hread]
    dsimp only
    split
    · rfl
    · rfl
  | ok text disk' =>
    rw [bind_of_ok hread]
    cases lib.parseInt (pyStrip text) with
    | ok n => rfl
    | error err =>
      change endState (if _ then _ else _) = disk'
      split
      · rfl
      · rfl

theorem appends_lastExported (path : String) :
    Appends Disk.opened (· = path) (fs.lastExported lib path) := by
  intro disk
  rw [endState_lastExported]
  exact ((fs.appends_openFile .read path).bind fun file => fs.appends_readText file) disk

theorem appends_updateTracker (path : String) (es : List AuditEntry) :
    Appends Disk.opened (· = path) (fs.updateTracker lib path es) := by
  refine (fs.appends_openFile .write path).bind fun file => ?_
  split
  · exact fs.appends_writeText file _
  · exact .throw _

end FileSys

/-- A call on a log opens what it opens on its disk. -/
theorem appends_onDisk {α : Type} {P : String → Prop} {x : EStateM PyErr Disk α}
    (hx : Appends Disk.opened P x) : Appends AuditState.opened P (onDisk x) := by
  intro s
  obtain ⟨ts, hts, hP⟩ := hx s.disk
  refine ⟨ts, ?_, hP⟩
  rw [endState_onDisk]
  exact hts

/-! ## Confinement -/

/-- The path leads into the directory, where `resolve` resolves paths. -/
def Inside (resolve : String → String) (dir path : String) : Prop :=
  Below (resolve dir) (resolve path)

instance (resolve : String → String) (dir path : String) :
    Decidable (Inside resolve dir path) :=
  inferInstanceAs (Decidable (Below _ _))

/-- The call has raised an exception, or returned a value that tells that it has failed. -/
def Failed {ε σ α : Type} (fails : α → Prop) : EStateM.Result ε σ α → Prop
  | .ok a _ => fails a
  | .error _ _ => True

/-- What a call does that is to stay in the directory: the files it opens lie there, and if its
    path leads out of it, it fails and opens none. -/
structure Stays {α : Type} (resolve : String → String) (dir path : String) (fails : α → Prop)
    (result : EStateM.Result PyErr AuditState α) : Prop where
  inside : ∀ p ∈ (endState result).opened, Inside resolve dir p
  outside : ¬Inside resolve dir (pathJoin dir path) →
    Failed fails result ∧ (endState result).opened = []

/-- Whatever files there are and whichever operations fail, the call on the log stays in the
    audit directory. -/
def Confined {α : Type} (resolve : String → String) (log : AuditLog) (path : String)
    (fails : α → Prop) (call : FileSys → EStateM PyErr AuditState α) : Prop :=
  ∀ (fs : FileSys) (files : String → Option String), (∀ p, fs.realpath p = .ok (resolve p)) →
    Stays resolve log.auditDir path fails (call fs ⟨log, files, []⟩)

section

variable {lib : ExportLib} {resolve : String → String} {log : AuditLog} {path : String}
  {α : Type} {fails : α → Prop}

/-- An exception before any file is opened. -/
theorem Stays.of_error {dir : String} {err : PyErr} {s : AuditState} (hs : s.opened = []) :
    Stays resolve dir path fails (.error err s) where
  inside p hp := by
    rw [endState, hs] at hp
    exact absurd hp List.not_mem_nil
  outside _ := ⟨trivial, hs⟩

/-- A call whose path leads into the directory and which opens only files there. -/
theorem Stays.of_appends {dir : String} {P : String → Prop} {x : EStateM PyErr AuditState α}
    {s : AuditState} (hx : Appends AuditState.opened P x) (hs : s.opened = [])
    (hP : ∀ p, P p → Inside resolve dir p) (hpath : Inside resolve dir (pathJoin dir path)) :
    Stays resolve dir path fails (x s) where
  inside p hp := by
    rcases hx.of_mem hp with hp | hp
    · rw [hs] at hp
      exact absurd hp List.not_mem_nil
    · exact hP p hp
  outside houtside := absurd hpath houtside

/-- A validated path leads into the directory, and so does the path it comes from. -/
theorem inside_of_validatePath {os : Os} (hos : ∀ p, os.realpath p = .ok (resolve p))
    (hresolve : ∀ p, resolve (resolve p) = resolve p) {dir file : String} {allowCreate : Bool}
    (h : validatePath os dir path allowCreate = .ok file) :
    Inside resolve dir file ∧ Inside resolve dir (pathJoin dir path) := by
  obtain ⟨hfile, base, hbase, hbelow⟩ := validatePath_eq_ok h
  rw [hos] at hfile hbase
  rw [← Except.ok.inj hfile, ← Except.ok.inj hbase] at hbelow
  rw [Inside, Inside, ← Except.ok.inj hfile, hresolve]
  exact ⟨hbelow, hbelow⟩

namespace AuditState

theorem appends_exportTo (fs : FileSys) (mode file : String) :
    Appends opened (· = file) (exportTo lib fs mode file) := by
  rw [exportTo]
  refine Appends.get.bind fun s => ?_
  split
  · split
    · exact (appends_onDisk (fs.appends_writeEntries lib _ file _)).bind fun _ =>
        .modify fun _ => rfl
    · exact .modify fun _ => rfl
  · exact (appends_onDisk (fs.appends_writeEntries lib _ file _)).bind fun _ =>
      .modify fun _ => rfl

/-- Exporting JSON lines is confined: only the validated path is opened. -/
theorem confined_exportJsonl (hresolve : ∀ p, resolve (resolve p) = resolve p) (mode : String) :
    Confined resolve log path (fun _ => False) fun fs => exportJsonl lib fs path mode := by
  intro fs files hfs
  change Stays _ _ _ _ ((validatedPath fs path >>= exportTo lib fs mode) _)
  rcases validatedPath_cases fs path ⟨log, files, []⟩ with ⟨err, herr⟩ | ⟨file, hfile, hok⟩
  · rw [bind_of_error herr]
    exact .of_error rfl
  · obtain ⟨hinside, htarget⟩ := inside_of_validatePath hfs hresolve hfile
    rw [bind_of_ok hok]
    refine .of_appends (appends_exportTo fs mode file) rfl ?_ htarget
    rintro p rfl
    exact hinside

/-- Importing is confined. -/
theorem confined_importJsonl (hresolve : ∀ p, resolve (resolve p) = resolve p) :
    Confined resolve log path (· = false) fun fs => importJsonl lib fs path := by
  intro fs files hfs
  cases hfile : validatePath (fs.os ⟨files, []⟩) log.auditDir path false with
  | error err =>
    have hdisk : importedDisk fs path ⟨log, files, []⟩ = ⟨files, []⟩ := by
      rw [importedDisk, hfile]
    have himport : log.importJsonl lib.py (fs.os ⟨files, []⟩) path =
        (log, if err.isValueError then .pathRejected else .raised err) := by
      rw [AuditLog.importJsonl, hfile]
    dsimp only [importJsonl]
    rw [hdisk, himport]
    by_cases herr : err.isValueError = true
    · rw [if_pos herr]
      exact ⟨fun p hp => absurd hp List.not_mem_nil, fun _ => ⟨rfl, rfl⟩⟩
    · rw [if_neg herr]
      exact .of_error rfl
  | ok file =>
    obtain ⟨hinside, htarget⟩ := inside_of_validatePath hfs hresolve hfile
    have hdisk : importedDisk fs path ⟨log, files, []⟩ =
        endState (fs.openFile .read file ⟨files, []⟩) := by rw [importedDisk, hfile]
    refine ⟨fun p hp => ?_, fun houtside => absurd htarget houtside⟩
    dsimp only [importJsonl] at hp
    rw [endState_endsIn, opened, hdisk] at hp
    rcases (fs.appends_openFile .read file).of_mem hp with hp | rfl
    · exact absurd hp List.not_mem_nil
    · exact hinside

/-! ### The other exports -/

theorem appends_exportJson (fs : FileSys) (logId : String) (includeMerkle : Bool) :
    Appends opened (· = path) (exportJson lib fs logId path includeMerkle) := by
  exact Appends.get.bind fun s => (Appends.ofExcept _).bind fun data =>
    (Appends.ofExcept _).bind fun _ => appends_onDisk <|
      (fs.appends_openFile .write path).bind fun file => fs.appends_dumpJson lib data file

variable (resolve path) in
/-- If no operation fails, the path of a document is opened. -/
theorem mem_opened_exportJson {logId : String} {includeMerkle : Bool} {data : PyVal}
    (hdata : log.exportData lib logId includeMerkle = .ok data) (s : AuditState)
    (hs : s.log = log) : path ∈ (endState (exportJson lib (.working resolve) logId path
      includeMerkle s)).opened := by
  have hend : exportJson lib (.working resolve) logId path includeMerkle s =
      onDisk (FileSys.writeDocument lib (.working resolve) path data) s := by
    change (ofExcept (s.log.exportData lib logId includeMerkle) >>= _ :
      EStateM PyErr AuditState Unit) s = _
    rw [hs, hdata]
    rfl
  have hopen : (FileSys.working resolve).openFile .write path s.disk =
      .ok (resolve path) ⟨Function.update s.disk.files (resolve path) (some ""),
        s.disk.opened ++ [path]⟩ := rfl
  rw [hend, opened, endState_onDisk, FileSys.writeDocument, bind_of_ok hopen]
  refine (FileSys.appends_dumpJson (P := (· = path)) _ lib data _).mem_of_mem ?_
  exact List.mem_append_right _ List.mem_cons_self

/-- Exporting a document is confined exactly if its path leads into the directory, from the
    working directory and from the audit directory. -/
theorem confined_exportJson_iff (logId : String) (includeMerkle : Bool) :
    (Confined resolve log path (fun _ => False) fun fs =>
      exportJson lib fs logId path includeMerkle) ↔
    ∀ data, log.exportData lib logId includeMerkle = .ok data →
      Inside resolve log.auditDir path ∧
        Inside resolve log.auditDir (pathJoin log.auditDir path) := by
  constructor
  · intro h data hdata
    have hmem := mem_opened_exportJson resolve path hdata
      ⟨log, fun _ => none, []⟩ rfl
    have hstays := h (.working resolve) (fun _ => none) fun _ => rfl
    refine ⟨hstays.inside path hmem, by_contra fun houtside => ?_⟩
    exact List.ne_nil_of_mem hmem (hstays.outside houtside).2
  · intro h fs files hfs
    cases hdata : log.exportData lib logId includeMerkle with
    | error err =>
      have hend : exportJson lib fs logId path includeMerkle ⟨log, files, []⟩ =
          .error err ⟨log, files, []⟩ := by
        change (ofExcept (log.exportData lib logId includeMerkle) >>= _ :
          EStateM PyErr AuditState Unit) _ = _
        rw [hdata]
        rfl
      dsimp only
      rw [hend]
      exact .of_error rfl
    | ok data =>
      obtain ⟨hinside, htarget⟩ := h data hdata
      refine .of_appends (appends_exportJson fs logId includeMerkle) rfl ?_ htarget
      rintro p rfl
      exact hinside

variable (lib) in
theorem appends_appendTo (fs : FileSys) (trackerPath file : String) (new : List AuditEntry) :
    Appends opened (fun p => p = file ∨ p = trackerPath)
      (appendTo lib fs trackerPath new file) := by
  have hdata := (fs.appends_writeEntries lib .append file new).mono
    (Q := fun p => p = file ∨ p = trackerPath) fun _ => .inl
  have htracker (es : List AuditEntry) := (fs.appends_updateTracker lib trackerPath es).mono
    (Q := fun p => p = file ∨ p = trackerPath) fun _ => .inr
  exact (appends_onDisk hdata).bind fun _ => Appends.get.bind fun s =>
    appends_onDisk (htracker s.log.entries)

variable (lib path) in
/-- What is opened once the tracker has been read. -/
theorem opened_exportSince {fs : FileSys} (hfs : ∀ p, fs.realpath p = .ok (resolve p))
    (hresolve : ∀ p, resolve (resolve p) = resolve p) (trackerPath : String) (last : ℤ)
    (s : AuditState) :
    ∃ ts, (endState (exportSince lib fs path trackerPath last s)).opened = s.opened ++ ts ∧
      ∀ p ∈ ts, Inside resolve s.log.auditDir p ∨ p = trackerPath := by
  have hnone {result : EStateM.Result PyErr AuditState Unit} (h : endState result = s) :
      ∃ ts, (endState result).opened = s.opened ++ ts ∧
        ∀ p ∈ ts, Inside resolve s.log.auditDir p ∨ p = trackerPath :=
    ⟨[], by rw [h, List.append_nil], fun _ hp => absurd hp List.not_mem_nil⟩
  have hget : exportSince lib fs path trackerPath last s =
      (ofExcept (newEntries last s.log.entries) >>= fun new =>
        if new.isEmpty then pure () else validatedPath fs path >>=
          appendTo lib fs trackerPath new : EStateM PyErr AuditState Unit) s := rfl
  rw [hget]
  cases newEntries last s.log.entries with
  | error err => exact hnone rfl
  | ok new =>
    have hok : (ofExcept (.ok new) : EStateM PyErr AuditState _) s = .ok new s := rfl
    rw [bind_of_ok hok]
    cases new with
    | nil => exact hnone rfl
    | cons e es =>
      rw [if_neg nofun]
      rcases validatedPath_cases fs path s with ⟨err, herr⟩ | ⟨file, hfile, hok⟩
      · rw [bind_of_error herr]
        exact hnone rfl
      · rw [bind_of_ok hok]
        obtain ⟨ts, hts, hP⟩ := appends_appendTo lib fs trackerPath file (e :: es) s
        refine ⟨ts, hts, fun p hp => (hP p hp).imp_left ?_⟩
        rintro rfl
        exact (inside_of_validatePath hfs hresolve hfile).1

variable (lib path) in
/-- What is opened besides the tracker, when it is read at first. -/
theorem opened_exportIncremental {fs : FileSys} (hfs : ∀ p, fs.realpath p = .ok (resolve p))
    (hresolve : ∀ p, resolve (resolve p) = resolve p) (s : AuditState) :
    ∃ ts, (endState (exportIncremental lib fs path s)).opened =
        (endState (fs.lastExported lib (path ++ ".seq") s.disk)).opened ++ ts ∧
      ∀ p ∈ ts, Inside resolve s.log.auditDir p ∨ p = path ++ ".seq" := by
  have hend := endState_onDisk (fs.lastExported lib (path ++ ".seq")) s
  cases hlast : onDisk (fs.lastExported lib (path ++ ".seq")) s with
  | error err s' =>
    rw [exportIncremental, bind_of_error hlast]
    rw [hlast] at hend
    exact ⟨[], (congrArg AuditState.opened hend).trans (List.append_nil _).symm,
      fun _ hp => absurd hp List.not_mem_nil⟩
  | ok last s' =>
    rw [exportIncremental, bind_of_ok hlast]
    rw [hlast] at hend
    change s' = _ at hend
    obtain ⟨ts, hts, hP⟩ := opened_exportSince lib path hfs hresolve (path ++ ".seq") last s'
    rw [hend] at hts hP
    rw [hend]
    exact ⟨ts, hts, hP⟩

/-- Exporting what is new is confined exactly if the path of the tracker leads into the
    directory, from the working directory, and the path itself, from the audit directory. -/
theorem confined_exportIncremental_iff (hresolve : ∀ p, resolve (resolve p) = resolve p) :
    (Confined resolve log path (fun _ => False) fun fs => exportIncremental lib fs path) ↔
      Inside resolve log.auditDir (path ++ ".seq") ∧
        Inside resolve log.auditDir (pathJoin log.auditDir path) := by
  constructor
  · intro h
    have hstays := h (.working resolve) (fun _ => some "") fun _ => rfl
    have hworking (p : String) : (FileSys.working resolve).realpath p = .ok (resolve p) := rfl
    obtain ⟨ts, hts, _⟩ := opened_exportIncremental lib path hworking hresolve
      ⟨log, fun _ => some "", []⟩
    have hmem : path ++ ".seq" ∈ (endState (exportIncremental lib (.working resolve) path
        ⟨log, fun _ => some "", []⟩)).opened := by
      rw [hts, FileSys.endState_lastExported]
      exact List.mem_append_left _ List.mem_cons_self
    refine ⟨hstays.inside _ hmem, by_contra fun houtside => ?_⟩
    exact List.ne_nil_of_mem hmem (hstays.outside houtside).2
  · rintro ⟨htracker, hpath⟩ fs files hfs
    obtain ⟨ts, hts, hP⟩ := opened_exportIncremental lib path hfs hresolve
      ⟨log, files, []⟩
    refine ⟨fun p hp => ?_, fun houtside => absurd hpath houtside⟩
    rw [hts] at hp
    rcases List.mem_append.1 hp with hp | hp
    · rcases (fs.appends_lastExported lib _).of_mem hp with hp | rfl
      · exact absurd hp List.not_mem_nil
      · exact htracker
    · rcases hP p hp with hp | rfl
      · exact hp
      · exact htracker

end AuditState

end

/-- The files that the calls on a log open stay in its audit directory for exporting JSON
    lines and importing them on all paths, and for the other two exports exactly on these. -/
theorem audit_files_confined_iff (lib : ExportLib) (resolve : String → String)
    (hresolve : ∀ p, resolve (resolve p) = resolve p) (log : AuditLog)
    (path mode logId : String) (includeMerkle : Bool) :
    (Confined resolve log path (fun _ => False) fun fs =>
      AuditState.exportJsonl lib fs path mode) ∧
    (Confined resolve log path (· = false) fun fs => AuditState.importJsonl lib fs path) ∧
    ((Confined resolve log path (fun _ => False) fun fs =>
        AuditState.exportJson lib fs logId path includeMerkle) ↔
      ∀ data, log.exportData lib logId includeMerkle = .ok data →
        Inside resolve log.auditDir path ∧
          Inside resolve log.auditDir (pathJoin log.auditDir path)) ∧
    ((Confined resolve log path (fun _ => False) fun fs =>
        AuditState.exportIncremental lib fs path) ↔
      Inside resolve log.auditDir (path ++ ".seq") ∧
        Inside resolve log.auditDir (pathJoin log.auditDir path)) :=
  ⟨AuditState.confined_exportJsonl hresolve mode, AuditState.confined_importJsonl hresolve,
    AuditState.confined_exportJson_iff logId includeMerkle,
    AuditState.confined_exportIncremental_iff hresolve⟩

namespace Sample

/-- A path in the audit directory. -/
theorem confined_below : Confined id emptyLog "/var/lib/vibeshield/audit/log.jsonl"
    (fun _ => False) fun fs =>
      AuditState.exportIncremental (exportLib []) fs "/var/lib/vibeshield/audit/log.jsonl" :=
  (audit_files_confined_iff (exportLib []) id (fun _ => rfl) emptyLog
    "/var/lib/vibeshield/audit/log.jsonl" "w" "log" false).2.2.2.2
      ⟨by decide +kernel, by decide +kernel⟩

/-- A path that leads out of it is opened all the same. -/
theorem not_confined_outside :
    (¬Confined id emptyLog "/tmp/audit.json" (fun _ => False) fun fs =>
      AuditState.exportJson (exportLib []) fs "log" "/tmp/audit.json" false) ∧
    ¬Confined id emptyLog "/tmp/audit.jsonl" (fun _ => False) fun fs =>
      AuditState.exportIncremental (exportLib []) fs "/tmp/audit.jsonl" := by
  constructor
  · intro h
    have hinside := (AuditState.confined_exportJson_iff "log" false).1 h _ rfl
    exact absurd hinside.1 (by decide +kernel)
  · intro h
    have hinside := (AuditState.confined_exportIncremental_iff fun _ => rfl).1 h
    exact absurd hinside.1 (by decide +kernel)

end Sample

end VibeShield
