import Mathlib.Data.Vector.Basic
import VibeShield.Lib.FileTree

/-!
# Overwriting a workspace

A pass over a workspace writes random data over its files and, to overwrite the names of its
directories, creates a file `.wipe` in each of them and unlinks it again
(`overwriteDirectory`). What is written over is the first 10 MiB of a file: opening it
truncates it, and the rest is cut off (`overwriteDirectory_overwrites`).

The model is of regular files and directories. Operations fail where these make them fail: a
file is not opened if there is a directory with its name.
-/

namespace VibeShield

/-- What is in a directory: the contents of files are bytes. -/
abbrev Directory := FileTree String (List UInt8)

/-- `os.urandom`: the bytes that are written to the file at a path. -/
abbrev Urandom := List String → (size : ℕ) → List.Vector UInt8 size

/-- At most so many bytes of a file are overwritten: 10 MiB. -/
def maxOverwritten : ℕ := 10 * 1024 * 1024

variable (urandom : Urandom)

/-- Overwriting a file, which is empty after it is opened. -/
def overwriteFile (path : List String) (content : List UInt8) : List UInt8 :=
  let size := content.length
  if 0 < size then (urandom path (min size maxOverwritten)).toList else content

/-- Overwriting the name of a directory: a file is created in it and unlinked. -/
def overwriteName (path : List String) (t : Directory) : Directory :=
  match t.write ".wipe" (urandom (path ++ [".wipe"]) 1024).toList with
  | none => t
  | some created => (created.unlink ".wipe").getD created

variable {urandom} {path : List String} {t : Directory}

theorem overwriteName_of_none
    (h : t.write ".wipe" (urandom (path ++ [".wipe"]) 1024).toList = none) :
    overwriteName urandom path t = t := by
  rw [overwriteName, h]

theorem overwriteName_of_some {created : Directory}
    (h : t.write ".wipe" (urandom (path ++ [".wipe"]) 1024).toList = some created) :
    overwriteName urandom path t = (created.unlink ".wipe").getD created := by
  rw [overwriteName, h]

theorem dirCount_overwriteName (path : List String) (t : Directory) :
    (overwriteName urandom path t).dirCount = t.dirCount := by
  rcases hwrite : t.write ".wipe" (urandom (path ++ [".wipe"]) 1024).toList with _ | created
  · rw [overwriteName_of_none hwrite]
  · rw [overwriteName_of_some hwrite, ← FileTree.dirCount_of_write hwrite]
    rcases hunlink : created.unlink ".wipe" with _ | unlinked
    · rfl
    · exact FileTree.dirCount_of_unlink hunlink

variable (urandom) in
/-- A pass over a directory: in every directory below it the files are overwritten, and then the
    names of the directories. -/
def overwriteDirectory (t : Directory) : Directory :=
  FileTree.walk (overwriteFile urandom) ⟨overwriteName urandom, dirCount_overwriteName⟩ [] t

/-! ## What is overwritten -/

theorem overwriteFile_eq (path : List String) (content : List UInt8) :
    overwriteFile urandom path content =
      (urandom path (min content.length maxOverwritten)).toList := by
  rcases content with _ | ⟨b, content⟩
  · exact (List.length_eq_zero_iff.1 (List.Vector.toList_length _)).symm
  · rw [overwriteFile, if_pos (List.length_pos_iff.2 (List.cons_ne_nil _ _))]

/-- Overwriting the name of a directory changes nothing in it, unless a regular file has the name
    of the one that is created. -/
theorem node?_overwriteName {p : List String}
    (hp : ¬(p = [".wipe"] ∧ ∃ content, t.node? p = some (.file content))) :
    (overwriteName urandom path t).node? p = t.node? p := by
  rcases hwrite : t.write ".wipe" (urandom (path ++ [".wipe"]) 1024).toList with _ | created
  · rw [overwriteName_of_none hwrite]
  rw [overwriteName_of_some hwrite]
  by_cases hname : p = [".wipe"]
  · subst hname
    rcases hnode : t.node? [".wipe"] with _ | ⟨content⟩ | _
    · rw [FileTree.unlink_of_write hwrite hnode, Option.getD_some, hnode]
    · exact absurd ⟨rfl, content, hnode⟩ hp
    · rw [FileTree.write_of_dir hnode] at hwrite
      simp at hwrite
  · rw [← FileTree.node?_of_write hwrite hname]
    rcases hunlink : created.unlink ".wipe" with _ | unlinked
    · rfl
    · exact FileTree.node?_of_unlink hunlink hname

/-- A regular file `.wipe` in one of the directories below. -/
def IsWipeFile (t : Directory) (path : List String) : Prop :=
  (∃ parent, parent ≠ [] ∧ path = parent ++ [".wipe"]) ∧
    ∃ content, t.node? path = some (.file content)

/-- At any other path, overwriting the names of the directories on it loses nothing. -/
theorem spared_of_not_isWipeFile (h : ¬IsWipeFile t path) :
    FileTree.Spared (fun p x => p = [".wipe"] ∧ ∃ content, x = some (.file content)) path
      (t.node? path) := by
  rintro parent p rfl hparent ⟨rfl, hcontent⟩
  exact h ⟨⟨parent, hparent, rfl⟩, hcontent⟩

/-- A pass changes nothing but the contents of files, except for these. -/
theorem node?_overwriteDirectory (h : ¬IsWipeFile t path) :
    (overwriteDirectory urandom t).node? path =
      (t.node? path).map (.map (overwriteFile urandom path)) :=
  FileTree.node?_walk (fun _ _ _ => node?_overwriteName) [] t path (spared_of_not_isWipeFile h)

theorem not_isWipeFile_overwriteDirectory (h : ¬IsWipeFile t path) :
    ¬IsWipeFile (overwriteDirectory urandom t) path := by
  rintro ⟨hpath, content, hcontent⟩
  rw [node?_overwriteDirectory h] at hcontent
  obtain ⟨_ | _, hnode, hmap⟩ := Option.map_eq_some_iff.1 hcontent
  · exact h ⟨hpath, _, hnode⟩
  · simp [FileTree.Node.map] at hmap

/-- Several passes do so as well, each with its own random data. -/
theorem node?_passes (passes : List Urandom) (h : ¬IsWipeFile t path) :
    (passes.foldl (fun t urandom => overwriteDirectory urandom t) t).node? path =
      (t.node? path).map (.map fun content =>
        passes.foldl (fun content urandom => overwriteFile urandom path content) content) := by
  induction passes generalizing t with
  | nil => simp
  | cons urandom passes ih =>
    rw [List.foldl_cons, ih (not_isWipeFile_overwriteDirectory h), node?_overwriteDirectory h]
    simp [Function.comp_def]

/-- At the path is what was there before: nothing, a directory, or a file. In a file there are
    random bytes now, as many as `size` says for its length. -/
def Overwritten (urandom : Urandom) (size : ℕ → ℕ) (t t' : Directory) (path : List String) : Prop :=
  t'.node? path =
    (t.node? path).map (.map fun content => (urandom path (size content.length)).toList)

/-- A pass overwrites every file, wherever it is, and cuts off what is beyond 10 MiB. No other
    file or directory appears or goes away. -/
theorem overwriteDirectory_overwrites (urandom : Urandom) (t : Directory) (path : List String)
    (h : ¬IsWipeFile t path) :
    Overwritten urandom (min · maxOverwritten) t (overwriteDirectory urandom t) path := by
  have hfile : overwriteFile urandom path =
      fun content => (urandom path (min content.length maxOverwritten)).toList := by
    ext1 content
    exact overwriteFile_eq path content
  rw [Overwritten, node?_overwriteDirectory h, hfile]

namespace Sample

/-- A source of zeros. -/
def zeros : Urandom := fun _ size => List.Vector.replicate size 0

/-- A file in a directory is overwritten. -/
theorem small_overwritten :
    Overwritten zeros (min · maxOverwritten) (.dir "d" (.file "x" [1, 2, 3] .nil) .nil)
      (overwriteDirectory zeros (.dir "d" (.file "x" [1, 2, 3] .nil) .nil)) ["d", "x"] := by
  refine overwriteDirectory_overwrites zeros _ ["d", "x"] ?_
  rintro ⟨⟨parent, -, hpath⟩, -⟩
  have hlast := congrArg List.getLast? hpath
  simp at hlast

/-- A file of more than 10 MiB. -/
def large : Directory := .file "a" (.replicate (maxOverwritten + 1) 1) .nil

/-- It does not keep its length. -/
theorem large_not_overwritten :
    ¬Overwritten zeros id large (overwriteDirectory zeros large) ["a"] := by
  have hpath : ¬IsWipeFile large ["a"] := by
    rintro ⟨⟨parent, hparent, hpath⟩, -⟩
    have hlength := congrArg List.length hpath
    rw [List.length_append, List.length_singleton, List.length_singleton] at hlength
    exact hparent (List.length_eq_zero_iff.1 (by omega))
  intro h
  rw [Overwritten, node?_overwriteDirectory hpath, large, FileTree.node?_file,
    if_pos ⟨rfl, rfl⟩, Option.map_some, Option.map_some, Option.some_inj, FileTree.Node.map,
    FileTree.Node.map, FileTree.Node.file.injEq, overwriteFile_eq] at h
  have hlength := congrArg List.length h
  rw [List.Vector.toList_length, List.Vector.toList_length, List.length_replicate] at hlength
  simp at hlength

end Sample

end VibeShield
