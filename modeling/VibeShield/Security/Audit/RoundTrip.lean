import VibeShield.Security.Audit.Lines
import VibeShield.Security.Audit.Run

/-!
# Exporting and importing a log

A log that is exported and then imported into a fresh log comes back entry by entry, unless
the details of some entry are larger than the import allows (`export_import_iff`).
What is assumed of the JSON library is that it parses a line that it has written back to
the same value (`ExportLib.RoundTrips`).
-/

namespace VibeShield

/-- The value is written as a line, and read from it again. -/
def ExportLib.RoundTrips (lib : ExportLib) (v : PyVal) : Prop :=
  ∃ text, lib.dumpsLine v = .ok text ∧ lib.py.loads text = .ok v ∧ IsLine text

/-- The entry is of a size that an import allows. -/
def AuditEntry.Importable (py : Python) (e : AuditEntry) : Prop :=
  (py.str e.details).length ≤ 10000

instance (py : Python) (e : AuditEntry) : Decidable (e.Importable py) :=
  inferInstanceAs (Decidable (_ ≤ _))

/-! ## One line -/

variable {lib : ExportLib}

namespace AuditLog

/-- An entry that continues the log is read back, if it is not too large. -/
theorem importData_toDict {py : Python} {l : AuditLog} {e : AuditEntry}
    (he : e.Continues py l) (hdetails : e.details.isDict = true)
    {items : List (PyVal × PyVal)} (hitems : e.toDict = .dict items) :
    l.importData py items =
      if e.Importable py then .ok (l.append (l.length + 1) e) else .error .detailsTooLarge := by
  obtain ⟨⟩ := hitems
  have hcompute : AuditEntry.computeHash py { e with prevHash := l.lastHash, entryHash := "" } =
      .ok e.entryHash := by
    rw [← he.prevHash]
    exact he.isSealed
  rw [importData]
  simp only [requiredFields, PyVal.dictGet?_cons, List.all_cons, List.all_nil]
  by_cases hsize : e.Importable py
  · rw [if_pos hsize]
    have hsmall : ¬(e.details.isDict = true ∧ 10000 < (py.str e.details).length) :=
      fun h => absurd hsize (Nat.not_le_of_lt h.2)
    simp [hsmall, he.sequence, he.prevHash, hcompute]
    rw [← he.prevHash]
  · rw [if_neg hsize]
    have hbig : e.details.isDict = true ∧ 10000 < (py.str e.details).length :=
      ⟨hdetails, Nat.lt_of_not_le hsize⟩
    simp [hbig]

/-- So is its line. -/
theorem importLine_line {l : AuditLog} {e : AuditEntry} (he : e.Continues lib.py l)
    (hdetails : e.details.isDict = true) (hround : lib.RoundTrips e.toDict) :
    l.importLine lib.py (e.line lib) =
      if e.Importable lib.py then .ok (l.append (l.length + 1) e)
      else .error .detailsTooLarge := by
  obtain ⟨text, htext, hloads, hline⟩ := hround
  have hwritten : e.line lib = text ++ "\n" := by rw [AuditEntry.line, AuditEntry.toJson, htext]
  rw [importLine, hwritten, pyStrip_append_newline hline.stripped]
  rw [if_neg hline.nonempty, hloads]
  exact importData_toDict he hdetails rfl

/-- The lines of entries that continue a log: they are all appended if none is too large. -/
theorem importLines_lines {l : AuditLog} {es : List AuditEntry} (hnum : Numbered l.length es)
    (hchain : Chained lib.py l.lastHash es) (hdetails : ∀ e ∈ es, e.details.isDict = true)
    (hround : ∀ e ∈ es, lib.RoundTrips e.toDict) :
    ((∀ e ∈ es, e.Importable lib.py) → ∃ l',
        l.importLines lib.py (es.map (AuditEntry.line lib)) = (l', none) ∧
          l'.entries = l.entries ++ es) ∧
      ((¬∀ e ∈ es, e.Importable lib.py) → ∃ l',
        l.importLines lib.py (es.map (AuditEntry.line lib)) = (l', some .detailsTooLarge)) := by
  induction es generalizing l with
  | nil =>
    exact ⟨fun _ => ⟨l, rfl, (List.append_nil _).symm⟩,
      fun h => absurd (fun _ he => absurd he List.not_mem_nil) h⟩
  | cons e es ih =>
    rw [List.forall_mem_cons] at hdetails hround
    have hline := importLine_line ⟨hnum.1, hchain.1, hchain.2.1⟩ hdetails.1 hround.1
    rw [List.map_cons, importLines, hline]
    by_cases he : e.Importable lib.py
    · -- The entry is appended, and the others continue the log with it.
      have hlen : (l.append (l.length + 1) e).length = l.length + 1 := List.length_append
      have hlast : (l.append (l.length + 1) e).lastHash = e.entryHash := by
        rw [lastHash_eq_tip]
        exact HashChain.tip_concat _ _
      obtain ⟨hsmall, hlarge⟩ := ih (l := l.append (l.length + 1) e) (hlen ▸ hnum.2)
        (hlast ▸ hchain.2.2) hdetails.2 hround.2
      rw [if_pos he]
      refine ⟨fun h => ?_, fun h => hlarge fun hes => h (List.forall_mem_cons.2 ⟨he, hes⟩)⟩
      obtain ⟨l', hl', hentries⟩ := hsmall (List.forall_mem_cons.1 h).2
      exact ⟨l', hl', hentries.trans (List.append_assoc _ _ _)⟩
    · rw [if_neg he]
      exact ⟨fun h => absurd (List.forall_mem_cons.1 h).1 he, fun _ => ⟨l, rfl⟩⟩

/-- Importing a file of the lines of a log into a fresh log. -/
theorem importJsonl_linesText {fs : FileSys} (hfs : fs.Succeeds) (hreal : fs.Resolves)
    {auditDir path file : String} {disk disk' : Disk}
    (hvalid : validatePath (fs.os disk) auditDir path true = .ok file) {es : List AuditEntry}
    (hfile : disk'.files file = some (linesText lib es)) (hnum : Numbered 0 es)
    (hchain : Chained lib.py genesisHash es) (hdetails : ∀ e ∈ es, e.details.isDict = true)
    (hround : ∀ e ∈ es, lib.RoundTrips e.toDict) (onCritical : Bool) :
    ((∀ e ∈ es, e.Importable lib.py) → ∃ l',
        (AuditLog.new auditDir onCritical).importJsonl lib.py (fs.os disk') path =
          (l', .imported) ∧ l'.entries = es) ∧
      ((¬∀ e ∈ es, e.Importable lib.py) → ∃ l',
        (AuditLog.new auditDir onCritical).importJsonl lib.py (fs.os disk') path =
          (l', .stopped .detailsTooLarge)) := by
  have hresolved : fs.realpath file = .ok file := hreal _ _ (validatePath_eq_ok hvalid).1
  have hexists : (fs.os disk').pathExists file = true := by
    dsimp only [FileSys.os]
    rw [hresolved]
    dsimp only
    rw [hfile]
    rfl
  have hvalid' : validatePath (fs.os disk') (AuditLog.new auditDir onCritical).auditDir path
      false = .ok file := validatePath_of_pathExists hvalid rfl hexists
  have hlines : (fs.os disk').readLines file = (es.map (AuditEntry.line lib), none) := by
    refine FileSys.readLines_os hfs hresolved (fun e he => ?_) hfile
    obtain ⟨text, htext, _, hline⟩ := hround e he
    exact ⟨text, htext, hline⟩
  obtain ⟨hsmall, hlarge⟩ := importLines_lines (l := .new auditDir onCritical) hnum hchain
    hdetails hround
  constructor
  · intro h
    obtain ⟨l', hl', hentries⟩ := hsmall h
    have hentries : l'.entries = es := hentries
    have hverified : l'.verifyChain lib.py = .ok .intact :=
      verifyChain_eq_intact.2 (hentries.symm ▸ ⟨hnum, hchain⟩)
    refine ⟨l', ?_, hentries⟩
    rw [importJsonl, hvalid']
    dsimp only
    rw [hlines]
    dsimp only
    rw [hl']
    dsimp only
    rw [hverified]
    rfl
  · intro h
    obtain ⟨l', hl'⟩ := hlarge h
    refine ⟨l', ?_⟩
    rw [importJsonl, hvalid']
    dsimp only
    rw [hlines]
    dsimp only
    rw [hl']
    rfl

end AuditLog

/-- Exporting a sound log and importing the file into a fresh log. -/
theorem AuditState.importJsonl_exported {fs : FileSys} (hfs : fs.Succeeds) (hreal : fs.Resolves)
    {path : String} {s s' : AuditState} (hsound : s.log.Sound lib.py)
    (hdetails : ∀ e ∈ s.log.entries, e.details.isDict = true)
    (hround : ∀ e ∈ s.log.entries, lib.RoundTrips e.toDict)
    (hexport : exportJsonl lib fs path "w" s = .ok () s') (onCritical : Bool) :
    ((∀ e ∈ s.log.entries, e.Importable lib.py) →
        ∃ s'', importJsonl lib fs path ⟨.new s.log.auditDir onCritical, s'.disk⟩ = .ok true s'' ∧
          s''.log.entries = s.log.entries) ∧
      ((¬∀ e ∈ s.log.entries, e.Importable lib.py) →
        ∃ s'', importJsonl lib fs path ⟨.new s.log.auditDir onCritical, s'.disk⟩ =
          .ok false s'') := by
  obtain ⟨file, hvalid, hfile⟩ := exportJsonl_eq_ok hfs hreal (fun e he => by
    obtain ⟨text, htext, _⟩ := hround e he
    exact ⟨text, htext⟩) hexport
  obtain ⟨hsmall, hlarge⟩ := AuditLog.importJsonl_linesText hfs hreal hvalid hfile
    hsound.numbered hsound.chained hdetails hround onCritical
  have himported : importJsonl lib fs path ⟨.new s.log.auditDir onCritical, s'.disk⟩ =
      endsIn _ _ := rfl
  constructor
  · intro h
    obtain ⟨l', hl', hentries⟩ := hsmall h
    rw [himported, hl']
    exact ⟨_, rfl, hentries⟩
  · intro h
    obtain ⟨l', hl'⟩ := hlarge h
    rw [himported, hl']
    exact ⟨_, rfl⟩

/-! ## Recorded entries -/

/-- The arguments of a call of `record` as their types say, with details that are a JSON
    object, if there are any. -/
structure RecordArgs.Plain (a : RecordArgs) : Prop where
  category : ∀ v, a.category = .inr v → ∃ s, v = .str s
  severity : ∀ v, a.severity = .inr v → ∃ s, v = .str s
  event : ∃ s, a.event = .str s
  agentId : a.agentId = .none ∨ ∃ s, a.agentId = .str s
  taskId : a.taskId = .none ∨ ∃ s, a.taskId = .str s
  details : a.details = .none ∨ (a.details.isDict = true ∧ a.details.Json)

mutual

/-- A call of `record` with such arguments; so are the calls its callback makes. -/
def Call.Records : Call → Prop
  | .record args alert _ => args.Plain ∧ AllRecord alert
  | .importJsonl _ _ => False

/-- All calls are such calls. -/
def AllRecord : List Call → Prop
  | [] => True
  | c :: cs => c.Records ∧ AllRecord cs

end

/-- The entry is a JSON object, and so are its details. -/
structure AuditEntry.Plain (e : AuditEntry) : Prop where
  details : e.details.isDict = true
  json : e.toDict.Json

/-- The entry that is made of such arguments. -/
theorem RecordArgs.Plain.newEntry {a : RecordArgs} (ha : a.Plain) (l : AuditLog)
    (hash : String) : ({ l.newEntry a with entryHash := hash } : AuditEntry).Plain := by
  have hstr (v : PyVal) (h : v = .none ∨ ∃ s, v = .str s) : v.Json := by
    rcases h with rfl | ⟨s, rfl⟩
    · exact .none
    · exact .str s
  have hcategory : (l.newEntry a).category.Json := by
    dsimp only [AuditLog.newEntry]
    cases h : a.category with
    | inl c => exact .str _
    | inr v => exact hstr v (.inr (ha.category v h))
  have hseverity : (l.newEntry a).severity.Json := by
    dsimp only [AuditLog.newEntry]
    cases h : a.severity with
    | inl c => exact .str _
    | inr v => exact hstr v (.inr (ha.severity v h))
  have hdetails : (l.newEntry a).details.isDict = true ∧ (l.newEntry a).details.Json := by
    rw [AuditLog.newEntry]
    dsimp only
    split
    · next h =>
      rcases ha.details with hnone | hdict
      · rw [hnone] at h
        exact absurd h nofun
      · exact hdict
    · exact ⟨rfl, .dict [] (by simp) (by simp) (by simp)⟩
  refine ⟨hdetails.1, .dict _ (by simp) (by simp) ?_⟩
  simp only [List.forall_mem_cons]
  exact ⟨.float _, hcategory, hseverity, hstr _ (.inr ha.event), hstr _ ha.agentId,
    hstr _ ha.taskId, hdetails.2, .str _, .str _, .int _, fun _ h => absurd h List.not_mem_nil⟩

namespace AuditLog

/-- A log in the directory whose entries are JSON objects with JSON objects as details. -/
structure Recorded (auditDir : String) (l : AuditLog) : Prop where
  auditDir_eq : l.auditDir = auditDir
  plain : ∀ e ∈ l.entries, e.Plain

/-- Recording keeps the log so, if the callback does. -/
theorem Recorded.record {py : Python} {auditDir : String} {l : AuditLog}
    (h : l.Recorded auditDir) {a : RecordArgs} (ha : a.Plain)
    (callback : AuditEntry → AuditLog → AuditLog × Option PyErr)
    (hcb : ∀ e l', Recorded auditDir l' → Recorded auditDir (callback e l').1) :
    (l.record py a callback).1.Recorded auditDir := by
  cases hhash : (l.newEntry a).computeHash py with
  | error err => rwa [record_of_computeHash_error hhash]
  | ok hash =>
    have happ : Recorded auditDir { l.append (l.length + 1)
        { l.newEntry a with entryHash := hash } with dirty := true } := by
      refine ⟨h.auditDir_eq, fun e he => ?_⟩
      rcases List.mem_append.1 he with he | he
      · exact h.plain e he
      · exact List.mem_singleton.1 he ▸ ha.newEntry l hash
    rcases record_of_computeHash_ok hhash callback with heq | heq
    · rw [heq]
      exact happ
    · rw [heq]
      exact hcb _ _ happ

end AuditLog

mutual

theorem Call.recorded_exec {py : Python} {auditDir : String} : ∀ (c : Call) {l : AuditLog},
    c.Records → l.Recorded auditDir → (c.exec py l).Recorded auditDir
  | .record args alert raises, l, hc, h => by
    rw [Call.exec]
    exact h.record hc.1 _ fun _ _ hl => recorded_execAll alert hc.2 hl
  | .importJsonl os path, l, hc, h => absurd hc not_false

/-- Calls of `record` keep the log so. -/
theorem recorded_execAll {py : Python} {auditDir : String} : ∀ (cs : List Call)
    {l : AuditLog}, AllRecord cs → l.Recorded auditDir → (execAll py cs l).Recorded auditDir
  | [], l, _, h => by rwa [execAll]
  | c :: cs, l, hcs, h => by
    rw [execAll]
    exact recorded_execAll cs hcs.2 (c.recorded_exec hcs.1 h)

end

/-- A log that `record` has made is exported and imported into a fresh log without a change,
    unless the details of an entry are too large for the import, which then fails. -/
theorem export_import_iff (lib : ExportLib) (fs : FileSys) (hfs : fs.Succeeds)
    (hreal : fs.Resolves) (auditDir path : String) (onCritical onCritical' : Bool)
    (cs : List Call) (hcs : AllRecord cs) (disk : Disk) (s : AuditState)
    (hround : ∀ e ∈ (execAll lib.py cs (.new auditDir onCritical)).entries, e.toDict.Json →
      lib.RoundTrips e.toDict)
    (hexport : AuditState.exportJsonl lib fs path "w"
      ⟨execAll lib.py cs (.new auditDir onCritical), disk⟩ = .ok () s) :
    let entries := (execAll lib.py cs (.new auditDir onCritical)).entries
    let imported := AuditState.importJsonl lib fs path ⟨.new auditDir onCritical', s.disk⟩
    ((∀ e ∈ entries, (lib.py.str e.details).length ≤ 10000) →
        ∃ s', imported = .ok true s' ∧ s'.log.entries = entries) ∧
      ((∃ e ∈ entries, 10000 < (lib.py.str e.details).length) →
        ∃ s', imported = .ok false s') := by
  intro entries imported
  have hsound : (execAll lib.py cs (.new auditDir onCritical)).Sound lib.py :=
    sound_execAll cs (AuditLog.sound_new auditDir onCritical)
  have hrecorded : (execAll lib.py cs (.new auditDir onCritical)).Recorded auditDir :=
    recorded_execAll cs hcs ⟨rfl, fun _ he => absurd he List.not_mem_nil⟩
  have hround' (e : AuditEntry) (he : e ∈ entries) : lib.RoundTrips e.toDict :=
    hround e he (hrecorded.plain e he).json
  obtain ⟨hsmall, hlarge⟩ := AuditState.importJsonl_exported hfs hreal hsound
    (fun e he => (hrecorded.plain e he).details) hround' hexport onCritical'
  rw [hrecorded.auditDir_eq] at hsmall hlarge
  refine ⟨hsmall, ?_⟩
  rintro ⟨e, he, hsize⟩
  exact hlarge fun h => absurd (h e he) (Nat.not_le_of_lt hsize)

namespace Sample

/-- The text of a dictionary is a line. -/
theorem isLine_jsonLine {items : List (PyVal × PyVal)} {text : String}
    (h : jsonLine (.dict items) = some text) : IsLine text := by
  have hprintable := printable_jsonLine _ h
  rw [jsonLine, Option.map_eq_some_iff] at h
  obtain ⟨ts, _, rfl⟩ := h
  refine ⟨?_, fun hc => ?_, fun hc => ?_, ?_⟩
  · simp
  · exact absurd (hprintable _ hc) (by decide)
  · exact absurd (hprintable _ hc) (by decide)
  · -- It starts and ends with a brace.
    have htoList (m : String) :
        ("\x7b" ++ m ++ "\x7d").toList = '\x7b' :: (m.toList ++ ['\x7d']) := by
      rw [String.toList_append, String.toList_append]
      rfl
    have hopen : isPySpace '\x7b' = false := by decide
    have hclose : isPySpace '\x7d' = false := by decide
    have hstripped (m : List Char) : ((('\x7b' :: (m ++ ['\x7d'])).dropWhile
        isPySpace).reverse.dropWhile isPySpace).reverse = '\x7b' :: (m ++ ['\x7d']) := by
      simp [hopen, hclose]
    rw [pyStrip, htoList, hstripped, ← htoList, String.ofList_toList]

/-- A library that parses the line of the one value it knows. -/
theorem roundTrips_of_loads {lib : ExportLib} {items : List (PyVal × PyVal)}
    (hdumps : lib.dumpsLine = (exportLib []).dumpsLine)
    (hloads : lib.py.loads = parseLine [.dict items])
    (h : (jsonLine (.dict items)).isSome = true) : lib.RoundTrips (.dict items) := by
  obtain ⟨text, htext⟩ := Option.isSome_iff_exists.1 h
  refine ⟨text, ?_, ?_, isLine_jsonLine htext⟩
  · rw [hdumps]
    dsimp only [exportLib]
    rw [htext]
  · have hfind : [PyVal.dict items].find? (fun v => jsonLine v = some text) =
        some (.dict items) := List.find?_cons_of_pos (decide_eq_true htext)
    rw [hloads, parseLine, hfind]

/-- The log after one call of `record`. -/
def recorded (lib : ExportLib) (a : RecordArgs) : AuditLog :=
  execAll lib.py [.record a [] none] emptyLog

theorem entries_recorded {lib : ExportLib} {a : RecordArgs} {hash : String}
    (h : (emptyLog.newEntry a).computeHash lib.py = .ok hash) :
    (recorded lib a).entries = [{ emptyLog.newEntry a with entryHash := hash }] := by
  have hcallback (l : AuditLog) : execAll lib.py [] l = l := by rw [execAll]
  rw [recorded, execAll, execAll, Call.exec]
  rcases AuditLog.record_of_computeHash_ok h fun _ l => (execAll lib.py [] l, none) with heq | heq
  · rw [heq]
    rfl
  · rw [heq, hcallback]
    rfl

/-- The disk before the export. -/
def emptyDisk : Disk := ⟨fun _ => none, []⟩

/-- The path in the audit directory. -/
def exportPath : String := "/var/lib/vibeshield/audit/audit.jsonl"

/-- A path in the directory is valid. -/
theorem validatePath_working {path file : String} (hpath : inSplit ".." '/' path = false)
    (hne : path ≠ "") (hjoin : pathJoin "/var/lib/vibeshield/audit" path = file)
    (hfile : startsWith file "/var/lib/vibeshield/audit/" = true) (disk : Disk) :
    validatePath ((FileSys.working id).os disk) "/var/lib/vibeshield/audit" path true =
      .ok file := by
  have hempty : ¬("/var/lib/vibeshield/audit" = "" ∨ path = "") := by simp [hne]
  exact validatePath_eq_ok_iff.2 ⟨hempty, hpath, ⟨_, rfl, .inl hfile⟩,
    congrArg Except.ok hjoin, .inl rfl⟩

theorem exportPath_valid (disk : Disk) : validatePath ((FileSys.working id).os disk)
    "/var/lib/vibeshield/audit" "audit.jsonl" true = .ok exportPath :=
  validatePath_working (by decide +kernel) (by decide) (by decide +kernel) (by decide +kernel) disk

theorem allRecord_singleton {a : RecordArgs} (ha : a.Plain) :
    AllRecord [.record a [] none] := ⟨⟨ha, trivial⟩, trivial⟩

/-- The log of one call is exported. -/
theorem export_recorded {lib : ExportLib} {a : RecordArgs} (ha : a.Plain) {hash : String}
    (h : (emptyLog.newEntry a).computeHash lib.py = .ok hash)
    (hround : lib.RoundTrips ({ emptyLog.newEntry a with entryHash := hash } : AuditEntry).toDict) :
    ∃ s, AuditState.exportJsonl lib (.working id) "audit.jsonl" "w"
      ⟨recorded lib a, emptyDisk⟩ = .ok () s := by
  have hdir : (recorded lib a).auditDir = "/var/lib/vibeshield/audit" :=
    (recorded_execAll _ (allRecord_singleton ha)
      ⟨rfl, fun _ he => absurd he List.not_mem_nil⟩).auditDir_eq
  have hvalid : validatePath ((FileSys.working id).os emptyDisk) (recorded lib a).auditDir
      "audit.jsonl" true = .ok exportPath := by
    rw [hdir]
    exact exportPath_valid emptyDisk
  refine ⟨_, AuditState.exportJsonl_of_valid FileSys.succeeds_working
    (FileSys.resolves_working fun _ => rfl) (fun e he => ?_) hvalid⟩
  rw [entries_recorded h] at he
  obtain ⟨text, htext, _⟩ := hround
  exact ⟨text, List.mem_singleton.1 he ▸ htext⟩

theorem startArgs_plain : startArgs.Plain where
  category := nofun
  severity := nofun
  event := ⟨"start", rfl⟩
  agentId := .inl rfl
  taskId := .inl rfl
  details := .inl rfl

/-- A log with one entry comes back. -/
theorem startEntry_imported : ∃ s s',
    AuditState.exportJsonl (exportLib [startEntry.toDict]) (.working id) "audit.jsonl" "w"
      ⟨recorded (exportLib [startEntry.toDict]) startArgs, emptyDisk⟩ = .ok () s ∧
    AuditState.importJsonl (exportLib [startEntry.toDict]) (.working id) "audit.jsonl"
      ⟨emptyLog, s.disk⟩ = .ok true s' ∧ s'.log.entries = [startEntry] := by
  have hhash : (emptyLog.newEntry startArgs).computeHash (exportLib [startEntry.toDict]).py =
      .ok startHash := isSealed_startEntry
  have hround : (exportLib [startEntry.toDict]).RoundTrips startEntry.toDict :=
    roundTrips_of_loads rfl rfl (by decide +kernel)
  have hmem (e : AuditEntry) (he : e ∈ (recorded (exportLib [startEntry.toDict])
      startArgs).entries) : e = startEntry := by
    rw [entries_recorded hhash] at he
    exact List.mem_singleton.1 he
  obtain ⟨s, hs⟩ := export_recorded startArgs_plain hhash hround
  obtain ⟨s', hs', hentries⟩ := (export_import_iff (exportLib [startEntry.toDict]) (.working id)
    FileSys.succeeds_working (FileSys.resolves_working fun _ => rfl) "/var/lib/vibeshield/audit"
    "audit.jsonl" false false [.record startArgs [] none] (allRecord_singleton startArgs_plain)
    emptyDisk s (fun e he _ => (hmem e he).symm ▸ hround) hs).1
      fun e he => (hmem e he).symm ▸ by decide +kernel
  exact ⟨s, s', hs, hs', hentries.trans (entries_recorded hhash)⟩

/-- A text of `n` letters. -/
def letters (n : ℕ) : String := String.ofList (List.replicate n 'x')

theorem jsonString_letters (n : ℕ) :
    jsonString (letters n) = some ("\"" ++ letters n ++ "\"") := by
  rw [jsonString, if_pos]
  refine List.all_eq_true.2 fun c hc => ?_
  rw [letters, String.toList_ofList] at hc
  rw [List.eq_of_mem_replicate hc]
  decide

/-- The details with this text. -/
def letterDetails (n : ℕ) : PyVal := .dict [(.str "text", .str (letters n))]

/-- Recording it. -/
def letterArgs (n : ℕ) : RecordArgs := { startArgs with details := letterDetails n }

def letterHash : String := "dd5534d03db8e2a0f8c802d136d8449fecc7d8c893b01f32b54c650e7a55b212"

def letterEntry (n : ℕ) : AuditEntry :=
  { emptyLog.newEntry (letterArgs n) with entryHash := letterHash }

/-- The library that knows the digest and the line of the entry. -/
def letterLib (n : ℕ) : ExportLib :=
  { exportLib [(letterEntry n).toDict] with
    py := { Python.plain [((jsonText (letterEntry n).content).getD "", letterHash)] "" with
      loads := parseLine [(letterEntry n).toDict] } }

theorem letterArgs_plain (n : ℕ) : (letterArgs n).Plain where
  category := nofun
  severity := nofun
  event := ⟨"start", rfl⟩
  agentId := .inl rfl
  taskId := .inl rfl
  details := .inr ⟨rfl, .dict _ (by simp) (by simp) (by simp [PyVal.Json.str])⟩

theorem jsonPairs_letters (n : ℕ) : jsonPairs [(.str "text", .str (letters n))] =
    some [("text", "\"text\"" ++ ":" ++ ("\"" ++ letters n ++ "\""))] := by
  rw [jsonPairs, jsonPairs, jsonText, jsonString_letters]
  rfl

/-- The entry has a text as the one without details has. -/
theorem isSome_jsonText_letterEntry (n : ℕ) :
    (jsonText (letterEntry n).content).isSome = true := by
  have hdetails : (jsonText (letterEntry n).details).isSome = true := by
    change (jsonText (.dict [(.str "text", .str (letters n))])).isSome = true
    rw [jsonText, jsonPairs_letters]
    rfl
  have hstart : (jsonText startEntry.content).isSome = true := by decide +kernel
  rw [AuditEntry.content, jsonText, Option.isSome_map] at hstart ⊢
  simp only [isSome_jsonPairs_cons, Bool.and_eq_true] at hstart ⊢
  obtain ⟨htimestamp, hcategory, hseverity, hevent, hagent, htask, ⟨hkey, _⟩, hprev⟩ := hstart
  exact ⟨htimestamp, hcategory, hseverity, hevent, hagent, htask, ⟨hkey, hdetails⟩, hprev⟩

/-- So it has a line. -/
theorem isSome_jsonLine_letterEntry (n : ℕ) :
    (jsonLine (letterEntry n).toDict).isSome = true := by
  have hdetails : (jsonLine (letterEntry n).details).isSome = true := by
    change (jsonLine (.dict [(.str "text", .str (letters n))])).isSome = true
    rw [jsonLine, Option.isSome_map, isSome_jsonLinePairs_cons]
    change (_ && (jsonString (letters n)).isSome && _) = true
    rw [jsonString_letters]
    rfl
  have hstart : (jsonLine { startEntry with entryHash := letterHash }.toDict).isSome = true := by
    decide +kernel
  rw [AuditEntry.toDict, jsonLine, Option.isSome_map] at hstart ⊢
  simp only [isSome_jsonLinePairs_cons, Bool.and_eq_true] at hstart ⊢
  obtain ⟨htimestamp, hcategory, hseverity, hevent, hagent, htask, ⟨hkey, _⟩, hhashes⟩ := hstart
  exact ⟨htimestamp, hcategory, hseverity, hevent, hagent, htask, ⟨hkey, hdetails⟩, hhashes⟩

theorem lt_length_letterDetails (n : ℕ) :
    n < ((letterLib n).py.str (letterDetails n)).length := by
  have hstr : (letterLib n).py.str (letterDetails n) =
      jsonObject [("text", "\"text\"" ++ ":" ++ ("\"" ++ letters n ++ "\""))] := by
    change (jsonText (.dict [(.str "text", .str (letters n))])).getD "" = _
    rw [jsonText, jsonPairs_letters]
    rfl
  have hletters : (letters n).length = n := by
    rw [letters, String.length_ofList, List.length_replicate]
  have hquote : "\"".length = 1 := rfl
  rw [hstr, jsonObject]
  simp only [List.foldr_cons, List.foldr_nil, insertKey, List.map_cons, List.map_nil,
    String.intercalate_singleton, String.length_append, hletters]
  omega

theorem computeHash_letterEntry (n : ℕ) :
    (emptyLog.newEntry (letterArgs n)).computeHash (letterLib n).py = .ok letterHash := by
  obtain ⟨text, htext⟩ := Option.isSome_iff_exists.1 (isSome_jsonText_letterEntry n)
  refine AuditEntry.computeHash_eq_ok.2 ⟨text, jsonDumps_eq_ok.2 htext, ?_⟩
  have hlookup : [((jsonText (letterEntry n).content).getD "", letterHash)].lookup text =
      some letterHash := by
    rw [htext]
    exact List.lookup_cons_self
  change ([_].lookup text).getD _ = letterHash
  rw [hlookup]
  rfl

theorem roundTrips_letterEntry (n : ℕ) : (letterLib n).RoundTrips (letterEntry n).toDict :=
  roundTrips_of_loads rfl rfl (isSome_jsonLine_letterEntry n)

/-- A log with `n` letters in the details of its entry does not come back from the import
    if `n` is 10000 or more. -/
theorem importJsonl_letters {n : ℕ} (hn : 10000 ≤ n) : ∃ s s',
    AuditState.exportJsonl (letterLib n) (.working id) "audit.jsonl" "w"
      ⟨recorded (letterLib n) (letterArgs n), emptyDisk⟩ = .ok () s ∧
    AuditState.importJsonl (letterLib n) (.working id) "audit.jsonl" ⟨emptyLog, s.disk⟩ =
      .ok false s' := by
  have hentries := entries_recorded (computeHash_letterEntry n)
  have hround : (letterLib n).RoundTrips ({ emptyLog.newEntry (letterArgs n) with
      entryHash := letterHash } : AuditEntry).toDict := roundTrips_letterEntry n
  have hrecorded : (recorded (letterLib n) (letterArgs n)).Recorded "/var/lib/vibeshield/audit" :=
    recorded_execAll _ (allRecord_singleton (letterArgs_plain n))
      ⟨rfl, fun _ he => absurd he List.not_mem_nil⟩
  obtain ⟨s, hs⟩ := export_recorded (letterArgs_plain n) (computeHash_letterEntry n) hround
  obtain ⟨s', hs'⟩ := (AuditState.importJsonl_exported FileSys.succeeds_working
    (FileSys.resolves_working fun _ => rfl)
    (sound_execAll _ (AuditLog.sound_new "/var/lib/vibeshield/audit" false))
    (fun e he => (hrecorded.plain e he).details)
    (fun e he => by
      rw [hentries] at he
      exact List.mem_singleton.1 he ▸ hround) hs false).2 fun h => by
        -- The details are larger than the import allows.
        refine absurd (h (letterEntry n) (hentries.symm ▸ List.mem_singleton_self _)) ?_
        exact Nat.not_le_of_lt (Nat.lt_of_le_of_lt hn (lt_length_letterDetails n))
  rw [hrecorded.auditDir_eq] at hs'
  exact ⟨s, s', hs, hs'⟩

/-- Details with a text of 10000 letters are recorded and exported, but the import into a
    fresh log fails. -/
theorem letters_not_imported :
    AllRecord [.record (letterArgs 10000) [] none] ∧
    (∀ e ∈ (recorded (letterLib 10000) (letterArgs 10000)).entries,
      (letterLib 10000).RoundTrips e.toDict) ∧
    ∃ s s', AuditState.exportJsonl (letterLib 10000) (.working id) "audit.jsonl" "w"
        ⟨recorded (letterLib 10000) (letterArgs 10000), emptyDisk⟩ = .ok () s ∧
      AuditState.importJsonl (letterLib 10000) (.working id) "audit.jsonl"
        ⟨emptyLog, s.disk⟩ = .ok false s' := by
  refine ⟨allRecord_singleton (letterArgs_plain _), fun e he => ?_, importJsonl_letters le_rfl⟩
  rw [entries_recorded (computeHash_letterEntry _)] at he
  exact List.mem_singleton.1 he ▸ roundTrips_letterEntry _

end Sample

end VibeShield
