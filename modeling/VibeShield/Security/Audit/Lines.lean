import VibeShield.Security.Audit.Export

/-!
# The lines of a log in a file

What the exports write if no operation fails: a line for each entry (`linesText`), after what
the file starts with. A file of such lines is read back line by line.
-/

namespace VibeShield

variable {lib : ExportLib} {fs : FileSys}

/-- The line of an entry in a file. -/
def AuditEntry.line (lib : ExportLib) (e : AuditEntry) : String :=
  match e.toJson lib with
  | .ok text => text ++ "\n"
  | .error _ => ""

/-- The text of a file with a line for each entry. -/
def linesText (lib : ExportLib) (es : List AuditEntry) : String :=
  String.join (es.map (AuditEntry.line lib))

@[simp] theorem linesText_nil : linesText lib [] = "" := rfl

theorem linesText_cons (e : AuditEntry) (es : List AuditEntry) :
    linesText lib (e :: es) = e.line lib ++ linesText lib es := String.join_cons

theorem linesText_singleton (e : AuditEntry) : linesText lib [e] = e.line lib := by
  rw [linesText_cons, linesText_nil, String.append_empty]

theorem linesText_append (es fs : List AuditEntry) :
    linesText lib (es ++ fs) = linesText lib es ++ linesText lib fs := by
  rw [linesText, List.map_append, String.join_append]
  rfl

/-- The entry can be written as a line. -/
def AuditEntry.Writable (lib : ExportLib) (e : AuditEntry) : Prop := ∃ text, e.toJson lib = .ok text

/-! ## Writing -/

/-- What a file that is opened for writing starts with. -/
def startText : OpenMode → Option String → String
  | .write, _ => ""
  | _, text => text.getD ""

namespace FileSys

theorem openFile_eq_ok (hfs : fs.Succeeds) {mode : OpenMode} (hmode : mode ≠ .read)
    {path file : String} (hfile : fs.realpath path = .ok file) (disk : Disk) :
    fs.openFile mode path disk = .ok file
      ⟨Function.update disk.files file (some (startText mode (disk.files file))),
        disk.opened ++ [path]⟩ := by
  rw [openFile, hfile, hfs.openError]
  cases mode with
  | read => exact absurd rfl hmode
  | write => rfl
  | append => rfl

theorem writeText_eq_ok (hfs : fs.Succeeds) {file t : String} {disk : Disk}
    (ht : disk.files file = some t) (text : String) :
    fs.writeText file text disk =
      .ok () { disk with files := Function.update disk.files file (some (t ++ text)) } := by
  rw [writeText, hfs.writeError, ht]
  rfl

/-- Lines are written after the text that is there. -/
theorem writeLines_eq_ok (hfs : fs.Succeeds) {es : List AuditEntry}
    (hes : ∀ e ∈ es, e.Writable lib) {file t : String} {disk : Disk}
    (ht : disk.files file = some t) :
    fs.writeLines lib file es disk =
      .ok () { disk with
        files := Function.update disk.files file (some (t ++ linesText lib es)) } := by
  induction es generalizing disk t with
  | nil =>
    rw [linesText_nil, String.append_empty, ← ht, Function.update_eq_self]
    rfl
  | cons e es ih =>
    rw [List.forall_mem_cons] at hes
    obtain ⟨text, htext⟩ := hes.1
    have hline : e.line lib = text ++ "\n" := by rw [AuditEntry.line, htext]
    have hjson : (ofExcept (e.toJson lib) : EStateM PyErr Disk String) disk = .ok text disk := by
      rw [htext]
      rfl
    rw [writeLines, bind_of_ok hjson, bind_of_ok (writeText_eq_ok hfs ht _),
      ih hes.2 (Function.update_self ..), linesText_cons, hline, Function.update_idem,
      String.append_assoc]

theorem writeEntries_eq_ok (hfs : fs.Succeeds) {es : List AuditEntry}
    (hes : ∀ e ∈ es, e.Writable lib) {mode : OpenMode} (hmode : mode ≠ .read)
    {path file : String} (hfile : fs.realpath path = .ok file) (disk : Disk) :
    fs.writeEntries lib mode path es disk = .ok ()
      ⟨Function.update disk.files file
        (some (startText mode (disk.files file) ++ linesText lib es)),
        disk.opened ++ [path]⟩ := by
  rw [writeEntries, bind_of_ok (openFile_eq_ok hfs hmode hfile disk),
    writeLines_eq_ok hfs hes (Function.update_self ..), Function.update_idem]

end FileSys

namespace AuditState

/-- Validating a path changes nothing. -/
theorem validatedPath_cases (fs : FileSys) (path : String) (s : AuditState) :
    (∃ err, validatedPath fs path s = .error err s) ∨
      ∃ file, validatePath (fs.os s.disk) s.log.auditDir path true = .ok file ∧
        validatedPath fs path s = .ok file s := by
  have hget : validatedPath fs path s =
      (ofExcept (validatePath (fs.os s.disk) s.log.auditDir path true) >>= fun file =>
        ofExcept (fs.makeParent file) >>= fun _ => pure file : EStateM PyErr AuditState _) s := rfl
  rw [hget]
  cases hfile : validatePath (fs.os s.disk) s.log.auditDir path true with
  | error err => exact .inl ⟨err, rfl⟩
  | ok file =>
    have hok : (ofExcept (.ok file) : EStateM PyErr AuditState String) s = .ok file s := rfl
    rw [bind_of_ok hok]
    cases fs.makeParent file with
    | error err => exact .inl ⟨err, rfl⟩
    | ok _ => exact .inr ⟨file, rfl, rfl⟩

/-- Working on the disk, if this does not fail. -/
theorem onDisk_eq_ok {α : Type} {x : EStateM PyErr Disk α} {s : AuditState} {a : α} {disk : Disk}
    (h : x s.disk = .ok a disk) : onDisk x s = .ok a { s with disk := disk } := by
  rw [onDisk, h]

/-- A path that is valid is returned, if no operation fails. -/
theorem validatedPath_eq_ok (hfs : fs.Succeeds) {path file : String} {s : AuditState}
    (hfile : validatePath (fs.os s.disk) s.log.auditDir path true = .ok file) :
    validatedPath fs path s = .ok file s := by
  have hvalid : (ofExcept (validatePath (fs.os s.disk) s.log.auditDir path true) :
      EStateM PyErr AuditState String) s = .ok file s := by
    rw [hfile]
    rfl
  have hmake : (ofExcept (fs.makeParent file) : EStateM PyErr AuditState Unit) s = .ok () s := by
    rw [FileSys.makeParent, hfs.makedirs]
    rfl
  change (ofExcept _ >>= _ : EStateM PyErr AuditState String) s = _
  rw [bind_of_ok hvalid, bind_of_ok hmake]
  rfl

/-- What an export of the log leaves. -/
theorem exportJsonl_of_valid (hfs : fs.Succeeds) (hreal : fs.Resolves) {path file : String}
    {s : AuditState} (hes : ∀ e ∈ s.log.entries, e.Writable lib)
    (hfile : validatePath (fs.os s.disk) s.log.auditDir path true = .ok file) :
    exportJsonl lib fs path "w" s = .ok () ⟨{ s.log with dirty := false },
      ⟨Function.update s.disk.files file (some (linesText lib s.log.entries)),
        s.disk.opened ++ [file]⟩⟩ := by
  have hmode : OpenMode.write ≠ .read := nofun
  have hwrite := FileSys.writeEntries_eq_ok hfs hes hmode
    (hreal _ _ (validatePath_eq_ok hfile).1) s.disk
  rw [startText, String.empty_append] at hwrite
  rw [exportJsonl, bind_of_ok (validatedPath_eq_ok hfs hfile)]
  change (onDisk _ >>= _ : EStateM PyErr AuditState Unit) s = _
  rw [bind_of_ok (onDisk_eq_ok hwrite)]
  rfl

/-- An export that succeeds leaves the lines of the log in a file of the directory. -/
theorem exportJsonl_eq_ok (hfs : fs.Succeeds) (hreal : fs.Resolves) {path : String}
    {s s' : AuditState} (hes : ∀ e ∈ s.log.entries, e.Writable lib)
    (h : exportJsonl lib fs path "w" s = .ok () s') :
    ∃ file, validatePath (fs.os s.disk) s.log.auditDir path true = .ok file ∧
      s'.disk.files file = some (linesText lib s.log.entries) := by
  rcases validatedPath_cases fs path s with ⟨err, herr⟩ | ⟨file, hfile, _⟩
  · rw [exportJsonl, bind_of_error herr] at h
    exact absurd h nofun
  · rw [exportJsonl_of_valid hfs hreal hes hfile] at h
    obtain ⟨⟩ := h
    exact ⟨file, hfile, Function.update_self ..⟩

end AuditState

/-! ## Reading -/

/-- The text is a line of its own, without blanks around it. -/
structure IsLine (text : String) : Prop where
  nonempty : text ≠ ""
  newline : '\n' ∉ text.toList
  carriageReturn : '\r' ∉ text.toList
  stripped : pyStrip text = text

/-- The entry is written as a line. -/
def AuditEntry.HasLine (lib : ExportLib) (e : AuditEntry) : Prop :=
  ∃ text, e.toJson lib = .ok text ∧ IsLine text

theorem AuditEntry.HasLine.writable {e : AuditEntry} (h : e.HasLine lib) : e.Writable lib := by
  obtain ⟨text, htext, _⟩ := h
  exact ⟨text, htext⟩

/-- The lines are read back one by one. -/
theorem fileLines_linesText {es : List AuditEntry} (hes : ∀ e ∈ es, e.HasLine lib) :
    (fileLines (linesText lib es).toList).map String.ofList = es.map (AuditEntry.line lib) := by
  induction es with
  | nil => rfl
  | cons e es ih =>
    rw [List.forall_mem_cons] at hes
    obtain ⟨text, htext, hline⟩ := hes.1
    have hcons : e.line lib = text ++ "\n" := by rw [AuditEntry.line, htext]
    have htoList : (linesText lib (e :: es)).toList =
        text.toList ++ '\n' :: (linesText lib es).toList := by
      rw [linesText_cons, hcons, String.toList_append, String.toList_append, List.append_assoc]
      rfl
    rw [htoList, fileLines_append hline.newline, List.map_cons, ih hes.2, List.map_cons, hcons]
    congr 1
    rw [String.ofList_append, String.ofList_toList]

theorem not_mem_linesText {es : List AuditEntry} (hes : ∀ e ∈ es, e.HasLine lib) :
    '\r' ∉ (linesText lib es).toList := by
  induction es with
  | nil => exact List.not_mem_nil
  | cons e es ih =>
    rw [List.forall_mem_cons] at hes
    obtain ⟨text, htext, hline⟩ := hes.1
    rw [linesText_cons, AuditEntry.line, htext, String.toList_append, String.toList_append,
      List.mem_append, List.mem_append, not_or, not_or]
    exact ⟨⟨hline.carriageReturn, by decide⟩, ih hes.2⟩

/-- Reading a file without carriage returns. -/
theorem FileSys.readFile_eq_ok (hfs : fs.Succeeds) {path file text : String}
    (hfile : fs.realpath path = .ok file) {disk : Disk} (hdisk : disk.files file = some text)
    (htext : '\r' ∉ text.toList) :
    fs.readFile path disk = .ok text { disk with opened := disk.opened ++ [path] } := by
  have hopen : fs.openFile .read path disk =
      .ok file { disk with opened := disk.opened ++ [path] } := by
    rw [openFile, hfile, hfs.openError]
    dsimp only
    rw [if_neg (by rw [hdisk]; exact nofun)]
  rw [readFile, bind_of_ok hopen, readText, hfs.readError]
  dsimp only
  rw [hdisk, Option.getD_some, universalNewlines_of_not_mem htext, String.ofList_toList]

/-- Reading a file of lines. -/
theorem FileSys.readLines_os (hfs : fs.Succeeds) {path file : String}
    (hfile : fs.realpath path = .ok file) {es : List AuditEntry}
    (hes : ∀ e ∈ es, e.HasLine lib) {disk : Disk}
    (hdisk : disk.files file = some (linesText lib es)) :
    (fs.os disk).readLines path = (es.map (AuditEntry.line lib), none) := by
  dsimp only [os]
  rw [readFile_eq_ok hfs hfile hdisk (not_mem_linesText hes)]
  exact congrArg (·, none) (fileLines_linesText hes)

end VibeShield
