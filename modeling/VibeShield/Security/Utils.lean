import Mathlib.Logic.Basic
import VibeShield.Python.Runtime

/-!
# Validation shared by the security modules

The part of `security/utils.py` that the audit log calls: `validatePath` keeps a
path below a base directory (`Below`).
-/

namespace VibeShield

/-- `raise ValueError(msg)`. -/
def valueError {α : Type*} (msg : String) : Except PyErr α := .error ⟨.valueError, msg⟩

/-- The resolved target, if it lies in the base directory. -/
def validatePath (os : Os) (baseDir targetPath : String) (allowCreate : Bool) :
    Except PyErr String := do
  if baseDir = "" ∨ targetPath = "" then
    valueError "Base directory and target path must be non-empty"
  else if inSplit ".." '/' targetPath then
    valueError s!"Path traversal detected: {targetPath}"
  else
    let realBase ← os.realpath baseDir
    let realTarget ← os.realpath (pathJoin baseDir targetPath)
    if !startsWith realTarget (realBase ++ "/") && realTarget ≠ realBase then
      valueError (s!"Path escapes base directory: {targetPath} " ++
        s!"(resolves to {realTarget}, base is {realBase})")
    else if !allowCreate && !os.pathExists realTarget then
      valueError s!"Path does not exist: {realTarget}"
    else
      return realTarget

/-- A target is valid if it is resolved to the base or to what starts with the base and a
    slash, and exists if it has to. -/
theorem validatePath_eq_ok_iff {os : Os} {baseDir targetPath file : String}
    {allowCreate : Bool} :
    validatePath os baseDir targetPath allowCreate = .ok file ↔
      ¬(baseDir = "" ∨ targetPath = "") ∧ inSplit ".." '/' targetPath = false ∧
        (∃ base, os.realpath baseDir = .ok base ∧
          (startsWith file (base ++ "/") = true ∨ file = base)) ∧
        os.realpath (pathJoin baseDir targetPath) = .ok file ∧
        (allowCreate = true ∨ os.pathExists file = true) := by
  rw [validatePath]
  by_cases hempty : baseDir = "" ∨ targetPath = ""
  · rw [if_pos hempty]
    exact iff_of_false nofun fun h => h.1 hempty
  rw [if_neg hempty]
  by_cases htraversal : inSplit ".." '/' targetPath = true
  · rw [if_pos htraversal]
    exact iff_of_false nofun fun h => absurd (htraversal.symm.trans h.2.1) nofun
  rw [if_neg htraversal]
  cases hbase : os.realpath baseDir with
  | error err => exact iff_of_false nofun fun ⟨_, _, ⟨_, h, _⟩, _⟩ => absurd h nofun
  | ok base =>
    cases htarget : os.realpath (pathJoin baseDir targetPath) with
    | error err => exact iff_of_false nofun fun ⟨_, _, _, h, _⟩ => absurd h nofun
    | ok target =>
      change (if _ then _ else if _ then _ else _) = _ ↔ _
      constructor
      · intro h
        split_ifs at h with hescapes hexists
        · exact absurd h nofun
        · exact absurd h nofun
        · obtain rfl := Except.ok.inj h
          refine ⟨hempty, eq_false_of_ne_true htraversal, ⟨base, rfl, ?_⟩, rfl, ?_⟩
          · by_contra hnot
            rw [not_or] at hnot
            exact hescapes (by simp [hnot])
          · by_contra hnot
            rw [not_or] at hnot
            exact hexists (by simp [hnot])
      · rintro ⟨_, _, ⟨base', hbase', hfile⟩, htarget', hexists⟩
        obtain rfl := Except.ok.inj hbase'
        obtain rfl := Except.ok.inj htarget'
        rw [if_neg, if_neg]
        · rfl
        · rcases hexists with h | h
          · simp [h]
          · simp [h]
        · rcases hfile with h | h
          · simp [h]
          · simp [h]

/-! ## Paths below a base -/

/-- The components of a resolved path. -/
def pathComponents (path : String) : List (List Char) := (path.toList.splitOn '/').filter (· ≠ [])

/-- The path is the base or lies below it; both are resolved. -/
def Below (base path : String) : Prop := pathComponents base <+: pathComponents path

instance (base path : String) : Decidable (Below base path) :=
  inferInstanceAs (Decidable (_ <+: _))

theorem below_refl (base : String) : Below base base := List.prefix_refl _

/-- What starts with the base and a slash lies below the base. -/
theorem below_of_startsWith {base path : String} (h : startsWith path (base ++ "/") = true) :
    Below base path := by
  rw [startsWith, List.isPrefixOf_iff_prefix, String.toList_append] at h
  obtain ⟨rest, hrest⟩ := h
  have hpath : path.toList = base.toList ++ '/' :: rest := by
    rw [← hrest, List.append_assoc]
    rfl
  rw [Below, pathComponents, pathComponents, hpath, List.splitOn_append_cons_self,
    List.filter_append]
  exact List.prefix_append _ _

/-- A validated path is the resolved target, and lies in the base directory. -/
theorem validatePath_eq_ok {os : Os} {baseDir targetPath file : String} {allowCreate : Bool}
    (h : validatePath os baseDir targetPath allowCreate = .ok file) :
    os.realpath (pathJoin baseDir targetPath) = .ok file ∧
      ∃ base, os.realpath baseDir = .ok base ∧ Below base file := by
  obtain ⟨_, _, ⟨base, hbase, hfile⟩, htarget, _⟩ := validatePath_eq_ok_iff.1 h
  refine ⟨htarget, base, hbase, ?_⟩
  rcases hfile with hfile | rfl
  · exact below_of_startsWith hfile
  · exact below_refl file

/-- Once the file is there, its path is valid without leave to create it. -/
theorem validatePath_of_pathExists {os os' : Os} {baseDir targetPath file : String}
    (h : validatePath os baseDir targetPath true = .ok file) (hos : os'.realpath = os.realpath)
    (hfile : os'.pathExists file = true) :
    validatePath os' baseDir targetPath false = .ok file := by
  obtain ⟨hempty, htraversal, hbase, htarget, _⟩ := validatePath_eq_ok_iff.1 h
  rw [← hos] at hbase htarget
  exact validatePath_eq_ok_iff.2 ⟨hempty, htraversal, hbase, htarget, .inr hfile⟩

end VibeShield
