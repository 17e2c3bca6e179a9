import VibeShield.Security.Audit.RoundTrip

/-!
# Imports that fail

An import that is refused at a line keeps the entries of the lines before it. So the log is
left by a failed import as it was exactly if it has accepted no line, that is if already the
first line that is not blank is refused (`failed_import_unchanged_iff`).
-/

namespace VibeShield

/-- The first line that is not blank. -/
def firstLine (lines : List String) : Option String := lines.find? fun line => pyStrip line ≠ ""

namespace AuditLog

variable {py : Python} {os : Os} {l : AuditLog}

/-- A log that calls of `record` and `import_jsonl` lead to. -/
def Reachable (py : Python) (l : AuditLog) : Prop :=
  ∃ auditDir onCritical cs, l = execAll py cs (.new auditDir onCritical)

theorem Reachable.sound (h : l.Reachable py) : l.Sound py := by
  obtain ⟨auditDir, onCritical, cs, rfl⟩ := h
  exact sound_execAll cs (sound_new auditDir onCritical)

/-- No line of the file is accepted: the first one that is not blank is refused. -/
def AcceptsNoLine (py : Python) (os : Os) (l : AuditLog) (path : String) : Prop :=
  ∀ file line, validatePath os l.auditDir path false = .ok file →
    firstLine (os.readLines file).1 = some line → ∃ stop, l.importLine py line = .error stop

/-! ## Lines -/

theorem importLine_of_blank {line : String} (h : pyStrip line = "") :
    l.importLine py line = .ok l := if_pos h

/-- A line that is accepted and not blank adds an entry. -/
theorem length_of_importLine {line : String} (hline : pyStrip line ≠ "") {l' : AuditLog}
    (h : l.importLine py line = .ok l') : l'.entries.length = l.entries.length + 1 := by
  rw [importLine, if_neg hline] at h
  split at h
  · cases h
  · obtain ⟨e, _, rfl⟩ := importData_eq_ok h
    exact List.length_append
  · cases h

/-- Lines do not remove entries. -/
theorem length_le_importLines (hl : l.Sound py) (lines : List String) :
    l.entries.length ≤ (l.importLines py lines).1.entries.length := by
  have hextends := (kept_extends py l).importLines ⟨⟨rfl, List.prefix_refl _⟩, hl⟩ lines
  exact hextends.1.isPrefix_entries.length_le

/-- If the first line that is not blank is refused, the lines leave the log as it is; else
    they leave more entries. -/
theorem importLines_cases (hl : l.Sound py) (lines : List String) :
    ((∀ line, firstLine lines = some line → ∃ stop, l.importLine py line = .error stop) ∧
        (l.importLines py lines).1 = l) ∨
      ((∃ line l', firstLine lines = some line ∧ l.importLine py line = .ok l') ∧
        l.entries.length < (l.importLines py lines).1.entries.length) := by
  induction lines with
  | nil => exact .inl ⟨fun _ h => absurd h nofun, rfl⟩
  | cons line lines ih =>
    by_cases hline : pyStrip line = ""
    · rw [importLines, importLine_of_blank hline, firstLine,
        List.find?_cons_of_neg (by simpa using hline)]
      exact ih
    · have hfirst : firstLine (line :: lines) = some line :=
        List.find?_cons_of_pos (by simpa using hline)
      rw [hfirst, importLines]
      cases himport : l.importLine py line with
      | error stop =>
        refine .inl ⟨fun line' hline' => ?_, rfl⟩
        rw [← Option.some.inj hline']
        exact ⟨stop, himport⟩
      | ok l' =>
        have hlonger := length_of_importLine hline himport
        have hle := length_le_importLines ((kept_sound py).importLine hl himport) lines
        refine .inr ⟨⟨line, l', rfl, himport⟩, ?_⟩
        dsimp only
        omega

/-! ## Files -/

/-- An import into a sound log leaves what its lines make of the log. -/
theorem importJsonl_fst (hl : l.Sound py) {path file : String}
    (hvalid : validatePath os l.auditDir path false = .ok file) :
    (l.importJsonl py os path).1 = (l.importLines py (os.readLines file).1).1 := by
  have hsound := (kept_sound py).importLines hl (os.readLines file).1
  rw [importJsonl, hvalid]
  dsimp only
  split
  · next heq => rw [heq]
  · next heq =>
    rw [heq] at hsound ⊢
    split
    · rfl
    · -- The log is not cleared: the final verification finds a sound log.
      rw [hsound.verifyChain]
      rfl

/-- If the lines stop an import, it ends with what they leave. -/
theorem importJsonl_of_stop {l' : AuditLog} {path file : String}
    {stop : ImportStop}
    (hvalid : validatePath os l.auditDir path false = .ok file)
    (hlines : l.importLines py (os.readLines file).1 = (l', some stop)) :
    l.importJsonl py os path = (l', .ofStop stop) := by
  rw [importJsonl, hvalid]
  dsimp only
  rw [hlines]

/-- An import that accepts no line leaves the log as it is, any other one leaves more
    entries. -/
theorem importJsonl_cases (hl : l.Sound py) (path : String) :
    (l.AcceptsNoLine py os path ∧ (l.importJsonl py os path).1 = l) ∨
      (¬l.AcceptsNoLine py os path ∧
        l.entries.length < (l.importJsonl py os path).1.entries.length) := by
  cases hvalid : validatePath os l.auditDir path false with
  | error err =>
    refine .inl ⟨fun file _ hfile => ?_, ?_⟩
    · cases hvalid.symm.trans hfile
    · rw [importJsonl, hvalid]
  | ok file =>
    rw [importJsonl_fst hl hvalid]
    rcases importLines_cases hl (os.readLines file).1 with
      ⟨hrefused, hsame⟩ | ⟨⟨line, l', hfirst, himport⟩, hlonger⟩
    · refine .inl ⟨fun file' line hfile' hline => ?_, hsame⟩
      obtain rfl := Except.ok.inj (hvalid.symm.trans hfile')
      exact hrefused line hline
    · refine .inr ⟨fun h => ?_, hlonger⟩
      obtain ⟨stop, hstop⟩ := h file line hvalid hfirst
      cases himport.symm.trans hstop

end AuditLog

/-- A failed import leaves the entries and the index as they were if and only if it has
    accepted no line of the file. -/
theorem failed_import_unchanged_iff (py : Python) (os : Os) (l : AuditLog) (hl : l.Reachable py)
    (path : String) : (l.importJsonl py os path).2.returned = .ok false →
      ((l.importJsonl py os path).1.entries = l.entries ∧
          (l.importJsonl py os path).1.index = l.index ↔ l.AcceptsNoLine py os path) := by
  intro _
  rcases AuditLog.importJsonl_cases hl.sound path with ⟨hnone, hsame⟩ | ⟨hsome, hlonger⟩
  · rw [hsame]
    exact iff_of_true ⟨rfl, rfl⟩ hnone
  · exact iff_of_false (fun h => absurd (congrArg List.length h.1) hlonger.ne') hsome

namespace Sample

/-- A line that is cut off. -/
def cutLine : String := "\x7b\"timestamp\": 1.0"

/-- A file with the line of an entry before it. -/
def cutLines : List String := [startEntry.line (exportLib [startEntry.toDict]), cutLine]

/-- The file system with this file. -/
def cutOs : Os := ⟨.ok, fun _ => true, fun _ => (cutLines, none)⟩

theorem emptyLog_reachable (py : Python) : emptyLog.Reachable py :=
  ⟨"/var/lib/vibeshield/audit", false, [], by rw [execAll]; rfl⟩

theorem cutFile_valid : validatePath cutOs emptyLog.auditDir "audit.jsonl" false =
    .ok exportPath := by
  refine validatePath_eq_ok_iff.2 ⟨by decide, by decide +kernel, ⟨_, rfl, .inl ?_⟩, ?_, .inr rfl⟩
  · decide +kernel
  · exact congrArg Except.ok (by decide +kernel)

theorem importLines_cutLines : ∃ err, err.isException = true ∧
    emptyLog.importLines (exportLib [startEntry.toDict]).py cutLines =
      (emptyLog.append 1 startEntry, some (.error err)) := by
  have hround : (exportLib [startEntry.toDict]).RoundTrips startEntry.toDict :=
    roundTrips_of_loads rfl rfl (by decide +kernel)
  have hfirst : emptyLog.importLine (exportLib [startEntry.toDict]).py
      (startEntry.line (exportLib [startEntry.toDict])) = .ok (emptyLog.append 1 startEntry) := by
    rw [AuditLog.importLine_line ⟨rfl, rfl, isSealed_startEntry⟩ rfl hround,
      if_pos (by decide +kernel)]
    rfl
  -- The second line is no JSON text.
  have hunknown : jsonLine startEntry.toDict ≠ some cutLine := by decide +kernel
  have hloads : (exportLib [startEntry.toDict]).py.loads cutLine =
      .error ⟨.jsonDecodeError, "Expecting value"⟩ := by
    have hfind : [startEntry.toDict].find? (fun v => jsonLine v = some cutLine) = none :=
      List.find?_cons_of_neg (by simpa using hunknown)
    change parseLine [startEntry.toDict] cutLine = _
    rw [parseLine, hfind]
  have hsecond : (emptyLog.append 1 startEntry).importLine (exportLib [startEntry.toDict]).py
      cutLine = .error (.error ⟨.jsonDecodeError, "Expecting value"⟩) := by
    have hstrip : pyStrip cutLine = cutLine := by decide +kernel
    rw [AuditLog.importLine, hstrip, if_neg (by decide), hloads]
  refine ⟨⟨.jsonDecodeError, "Expecting value"⟩, rfl, ?_⟩
  rw [cutLines, AuditLog.importLines, hfirst]
  dsimp only
  rw [AuditLog.importLines, hsecond]

/-- The import of the file fails, and the entry of the first line stays. -/
theorem cutFile_kept :
    ¬((emptyLog.importJsonl (exportLib [startEntry.toDict]).py cutOs "audit.jsonl").2.returned =
        .ok false →
      (emptyLog.importJsonl (exportLib [startEntry.toDict]).py cutOs "audit.jsonl").1.entries =
          emptyLog.entries ∧
        (emptyLog.importJsonl (exportLib [startEntry.toDict]).py cutOs "audit.jsonl").1.index =
          emptyLog.index) := by
  obtain ⟨err, herr, hlines⟩ := importLines_cutLines
  have himport : emptyLog.importJsonl (exportLib [startEntry.toDict]).py cutOs "audit.jsonl" =
      (emptyLog.append 1 startEntry, .ofStop (.error err)) :=
    AuditLog.importJsonl_of_stop cutFile_valid hlines
  rw [himport, ImportResult.ofStop, ImportResult.ofError, if_pos herr]
  intro h
  have hentries : [startEntry] = [] := (h rfl).1
  exact absurd hentries (List.cons_ne_nil _ _)

/-- A file system whose files hold no JSON text. -/
def noiseOs : Os := ⟨.ok, fun _ => true, fun _ => (["not json"], none)⟩

/-- The import of such a file leaves the log as it was. -/
theorem noise_unchanged :
    (emptyLog.importJsonl lib noiseOs "audit.jsonl").1.entries = emptyLog.entries ∧
      (emptyLog.importJsonl lib noiseOs "audit.jsonl").1.index = emptyLog.index := by
  have hreturned : (emptyLog.importJsonl lib noiseOs "audit.jsonl").2.returned.toOption =
      some false := by decide +kernel
  have hfailed : (emptyLog.importJsonl lib noiseOs "audit.jsonl").2.returned = .ok false := by
    cases h : (emptyLog.importJsonl lib noiseOs "audit.jsonl").2.returned with
    | ok b =>
      rw [h] at hreturned
      exact congrArg Except.ok (Option.some.inj hreturned)
    | error err =>
      rw [h] at hreturned
      exact absurd hreturned nofun
  refine (failed_import_unchanged_iff lib noiseOs emptyLog (emptyLog_reachable lib) "audit.jsonl"
    hfailed).2 ?_
  rintro file line _ hline
  have hfirst : firstLine ["not json"] = some "not json" := by decide +kernel
  have hnoise : line = "not json" := Option.some.inj (hline.symm.trans hfirst)
  have hstrip : pyStrip "not json" = "not json" := by decide +kernel
  rw [hnoise, AuditLog.importLine, hstrip, if_neg (by decide)]
  exact ⟨_, rfl⟩

end Sample

end VibeShield
