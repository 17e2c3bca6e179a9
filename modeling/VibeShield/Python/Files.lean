import Mathlib.Logic.Function.Basic
import VibeShield.Python.Runtime

/-!
# Text files

A disk holds the texts of files by their resolved paths (`Disk`). Which paths resolve to
which, and which operations fail, does not depend on it (`FileSys`). The operations are
computations on a disk with exceptions; a disk also keeps which paths have been opened.

`FileSys.os` is the view of a call that only asks for paths and lines.
-/

namespace VibeShield

/-- The mode in which a file is opened. -/
inductive OpenMode
  | read
  /-- The file is emptied. -/
  | write
  | append
deriving DecidableEq, Repr

/-- The directories and links, and the exceptions in which operations end, if any. -/
structure FileSys where
  /-- `os.path.realpath`. -/
  realpath : String → Except PyErr String
  isDir : String → Bool
  /-- `os.makedirs(path, exist_ok=True)`. -/
  makedirs : String → Except PyErr Unit
  openError : OpenMode → String → Option PyErr
  readError : String → Option PyErr
  /-- An operation that fails writes nothing. -/
  writeError : String → Option PyErr

/-- The files. -/
structure Disk where
  /-- The text of a file, by its resolved path. -/
  files : String → Option String
  /-- The paths that have been opened, in order. -/
  opened : List String

/-- `FileNotFoundError`. -/
def fileNotFound : ExcClass := .otherException "FileNotFoundError"

/-- The text that is read: all ends of lines are newlines. The first argument tells if the
    last character was a carriage return. -/
def universalNewlines : Bool → List Char → List Char
  | _, [] => []
  | cr, c :: cs =>
    if c = '\r' then '\n' :: universalNewlines true cs
    else if c = '\n' ∧ cr then universalNewlines false cs
    else c :: universalNewlines false cs

example : universalNewlines false "a\r\nb\rc\n".toList = "a\nb\nc\n".toList := by decide

theorem universalNewlines_of_not_mem {cs : List Char} (h : '\r' ∉ cs) :
    universalNewlines false cs = cs := by
  induction cs with
  | nil => rfl
  | cons c cs ih =>
    rw [List.mem_cons, not_or] at h
    rw [universalNewlines, if_neg (Ne.symm h.1), if_neg fun hc => absurd hc.2 nofun, ih h.2]

/-- The lines an iteration over a file yields, each with its newline. -/
def fileLines : List Char → List (List Char)
  | [] => []
  | c :: cs =>
    if c = '\n' then [c] :: fileLines cs
    else
      match fileLines cs with
      | [] => [[c]]
      | line :: lines => (c :: line) :: lines

theorem fileLines_append {line : List Char} (h : '\n' ∉ line) (cs : List Char) :
    fileLines (line ++ '\n' :: cs) = (line ++ ['\n']) :: fileLines cs := by
  induction line with
  | nil => rw [List.nil_append, fileLines, if_pos rfl, List.nil_append]
  | cons c line ih =>
    rw [List.mem_cons, not_or] at h
    rw [List.cons_append, fileLines, if_neg (Ne.symm h.1), ih h.2, List.cons_append]

/-- The newline at the end of a line is stripped. -/
theorem pyStrip_append_newline {line : String} (h : pyStrip line = line) :
    pyStrip (line ++ "\n") = line := by
  rw [pyStrip, String.toList_append, List.dropWhile_append]
  by_cases hblank : (line.toList.dropWhile isPySpace).isEmpty
  · -- A line of blanks is empty when stripped, so it is empty.
    rw [if_pos hblank]
    rw [pyStrip, List.isEmpty_iff.1 hblank] at h
    rw [← h]
    rfl
  · rw [if_neg hblank, List.reverse_append]
    rw [pyStrip] at h
    exact h

namespace FileSys

variable (fs : FileSys)

/-- `open(path, mode)`: the file that is opened. -/
def openFile (mode : OpenMode) (path : String) : EStateM PyErr Disk String := fun disk =>
  match fs.realpath path, fs.openError mode path with
  | .error err, _ => .error err disk
  | .ok _, some err => .error err disk
  | .ok file, none =>
    let opened := disk.opened ++ [path]
    match mode with
    | .read =>
      if disk.files file = none then
        .error ⟨fileNotFound, s!"[Errno 2] No such file or directory: '{path}'"⟩ disk
      else .ok file { disk with opened := opened }
    | .write => .ok file ⟨Function.update disk.files file (some ""), opened⟩
    | .append =>
      .ok file ⟨Function.update disk.files file (some ((disk.files file).getD "")), opened⟩

/-- `f.read()`. -/
def readText (file : String) : EStateM PyErr Disk String := fun disk =>
  match fs.readError file with
  | some err => .error err disk
  | none => .ok (String.ofList (universalNewlines false ((disk.files file).getD "").toList)) disk

/-- `f.write(text)`, at the end of the file. -/
def writeText (file text : String) : EStateM PyErr Disk Unit := fun disk =>
  match fs.writeError file with
  | some err => .error err disk
  | none =>
    .ok () { disk with
      files := Function.update disk.files file (some ((disk.files file).getD "" ++ text)) }

/-- Opening a file and reading it. -/
def readFile (path : String) : EStateM PyErr Disk String := do
  let file ← fs.openFile .read path
  fs.readText file

/-- The view of a call that only asks for paths and lines. -/
def os (disk : Disk) : Os where
  realpath := fs.realpath
  pathExists path :=
    match fs.realpath path with
    | .error _ => false
    | .ok file => (disk.files file).isSome || fs.isDir file
  readLines path :=
    match fs.readFile path disk with
    | .error err _ => ([], some err)
    | .ok text _ => ((fileLines text.toList).map String.ofList, none)

/-- No operation fails. -/
structure Succeeds : Prop where
  makedirs (path : String) : fs.makedirs path = .ok ()
  openError (mode : OpenMode) (path : String) : fs.openError mode path = none
  readError (file : String) : fs.readError file = none
  writeError (file : String) : fs.writeError file = none

/-- `os.path.realpath` returns paths that are resolved. -/
def Resolves : Prop := ∀ path file, fs.realpath path = .ok file → fs.realpath file = .ok file

/-- A file system in which no operation fails. -/
def working (resolve : String → String) : FileSys where
  realpath path := .ok (resolve path)
  isDir _ := false
  makedirs _ := .ok ()
  openError _ _ := none
  readError _ := none
  writeError _ := none

variable {resolve : String → String}

theorem succeeds_working : (working resolve).Succeeds :=
  ⟨fun _ => rfl, fun _ _ => rfl, fun _ => rfl, fun _ => rfl⟩

theorem resolves_working (h : ∀ path, resolve (resolve path) = resolve path) :
    (working resolve).Resolves := by
  rintro path _ ⟨⟩
  exact congrArg Except.ok (h path)

end FileSys

end VibeShield
