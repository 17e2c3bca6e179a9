import VibeShield.Layer1.Refusals
import VibeShield.Security.Workspace.Model

/-!
# What the validators of identifiers accept

Task ids, other identifiers and the names of environment variables are matched with a pattern
before they reach paths and command lines. The validators are to accept exactly the texts of
the pattern between its anchors (`ValidatorsExact`). They do so except for such a text with a
newline behind it, before which `$` also matches (`validators_exact_iff`).
-/

namespace VibeShield

/-! ## The validators of the security modules -/

section

variable (repr : String → String)

/-- Validating an identifier, with the default pattern. -/
def validateIdentifier (value name : String) : Except PyErr String :=
  if value = "" then valueError s!"{name} must be non-empty"
  else if ¬matchesLine isTaskId value then
    valueError s!"Invalid {name}: {repr value} must match pattern ^[a-zA-Z0-9_-]+$"
  else if 256 < value.length then
    valueError s!"{name} too long: {value.length} chars (max 256)"
  else return value

/-- `_DANGEROUS`: fewer variables than the sandbox blocks. -/
def dangerousNames : List String := [
  "LD_PRELOAD", "LD_LIBRARY_PATH", "PATH", "PYTHONPATH",
  "PYTHONSTARTUP", "PYTHONHOME", "PYTHONINSPECT",
  "IFS", "SHELL", "BASH_ENV", "ENV",
  "DYLD_INSERT_LIBRARIES", "DYLD_LIBRARY_PATH"]

/-- Validating the name of an environment variable. -/
def sanitizeEnvVarName (name : String) : Except PyErr String :=
  if ¬matchesLine VibeShieldSandbox.isEnvName name then
    valueError s!"Invalid env var name: {repr name} (must match [A-Z][A-Z0-9_]*)"
  else if name ∈ dangerousNames then valueError s!"Blocked dangerous env var: {name}"
  else return name

end

/-! ## Patterns -/

/-- A text that `p` accepts, with a newline behind it. -/
def NewlineAfter (p : List Char → Bool) (s : String) : Prop :=
  ∃ w : String, s = w ++ "\n" ∧ p w.toList = true

section

variable {p : List Char → Bool} {s : String}

/-- What an anchored pattern matches. -/
theorem matchesLine_iff : matchesLine p s = true ↔ p s.toList = true ∨ NewlineAfter p s := by
  rw [matchesLine, Bool.or_eq_true, Bool.and_eq_true, decide_eq_true_eq]
  refine or_congr_right ⟨?_, ?_⟩
  · rintro ⟨hlast, hp⟩
    refine ⟨String.ofList s.toList.dropLast, ?_, by rwa [String.toList_ofList]⟩
    rw [← String.toList_inj, String.toList_append, String.toList_ofList]
    exact (List.dropLast_append_getLast? _ hlast).symm
  · rintro ⟨w, rfl, hp⟩
    rw [String.toList_append]
    exact ⟨List.getLast?_concat, by rwa [show "\n".toList = ['\n'] from rfl, List.dropLast_concat]⟩

/-- If it accepts no newline, it is matched exactly unless the text ends in one. -/
theorem matchesLine_exact_iff (hp : ∀ cs, p cs = true → '\n' ∉ cs) :
    (matchesLine p s = true ↔ p s.toList = true) ↔ ¬NewlineAfter p s := by
  rw [matchesLine_iff]
  have hnot : NewlineAfter p s → ¬p s.toList = true := by
    rintro ⟨w, rfl, -⟩ hs
    refine hp _ hs ?_
    rw [String.toList_append]
    exact List.mem_append_right _ List.mem_cons_self
  tauto

end

theorem newline_notMem_of_isTaskId {cs : List Char} (h : isTaskId cs = true) : '\n' ∉ cs := by
  intro hmem
  rw [isTaskId, Bool.and_eq_true, List.all_eq_true] at h
  exact absurd (h.2 _ hmem) (by decide)

/-- The name of a variable is an identifier. -/
theorem isTaskId_of_isEnvName {cs : List Char} (h : VibeShieldSandbox.isEnvName cs = true) :
    isTaskId cs = true := by
  rcases cs with _ | ⟨c, cs⟩
  · simp [VibeShieldSandbox.isEnvName] at h
  · rw [VibeShieldSandbox.isEnvName, Bool.and_eq_true, List.all_eq_true] at h
    have hupper (d : Char) (hd : d.isUpper = true) : d.isAlphanum = true := by
      change ((d.isUpper || d.isLower) || d.isDigit) = true
      simp [hd]
    have hdigit (d : Char) (hd : d.isDigit = true) : d.isAlphanum = true := by
      change ((d.isUpper || d.isLower) || d.isDigit) = true
      simp [hd]
    rw [isTaskId, Bool.and_eq_true, List.all_cons, Bool.and_eq_true, List.all_eq_true]
    refine ⟨rfl, by simp [hupper c h.1], fun d hd => ?_⟩
    have hd' := h.2 d hd
    simp only [Bool.or_eq_true, decide_eq_true_eq] at hd' ⊢
    rcases hd' with (hd' | hd') | hd'
    · exact .inl (.inl (hupper d hd'))
    · exact .inl (.inl (hdigit d hd'))
    · exact .inl (.inr hd')

/-! ## What is accepted -/

theorem validateIdentifier_ok_iff (repr : String → String) (v name : String) :
    (∃ r, validateIdentifier repr v name = .ok r) ↔
      matchesLine isTaskId v = true ∧ v.length ≤ 256 := by
  rw [validateIdentifier]
  by_cases hempty : v = ""
  · subst hempty
    simp [valueError, matchesLine, isTaskId]
  · rw [if_neg hempty]
    by_cases hmatch : matchesLine isTaskId v = true
    · by_cases hlength : 256 < v.length
      · simp [valueError, hmatch, hlength]
      · simp [hmatch, hlength, pure, Except.pure]
        omega
    · simp [valueError, hmatch]

theorem sanitizeEnvVarName_ok_iff (repr : String → String) (v : String) :
    (∃ r, sanitizeEnvVarName repr v = .ok r) ↔
      matchesLine VibeShieldSandbox.isEnvName v = true ∧ v ∉ dangerousNames := by
  rw [sanitizeEnvVarName]
  by_cases hmatch : matchesLine VibeShieldSandbox.isEnvName v = true
  · by_cases hblocked : v ∈ dangerousNames
    · simp [valueError, hmatch, hblocked]
    · simp [hmatch, hblocked, pure, Except.pure]
  · simp [valueError, hmatch]

theorem OpenShellSandbox.new_ok_iff (host : Host) (v : String) :
    (∃ sb, OpenShellSandbox.new host v = .ok sb) ↔ matchesLine isTaskId v = true := by
  rw [OpenShellSandbox.new]
  by_cases hmatch : matchesLine isTaskId v = true
  · simp [hmatch, pure, Except.pure]
  · simp [valueError, hmatch]

namespace WorkspaceManager

/-- Apart from the task id, nothing keeps the call from creating a workspace. -/
structure Proceeds (m : WorkspaceManager) (c : WorkspaceCreation) : Prop where
  pos : 1 ≤ m.requestedSize c
  le_max : m.requestedSize c ≤ m.config.sizeMb * 5
  makedirs : c.makedirs = .ok ()
  mount : ∃ state, mountTmpfs c = .ok state

theorem snd_create (m : WorkspaceManager) (c : WorkspaceCreation) :
    (m.create c).2 = m.newWorkspace c := by
  rw [create]
  rcases m.newWorkspace c with err | workspace <;> rfl

theorem create_ok_iff {m : WorkspaceManager} {c : WorkspaceCreation} (h : m.Proceeds c) :
    (∃ workspace, (m.create c).2 = .ok workspace) ↔ matchesLine isTaskId c.taskId = true := by
  obtain ⟨state, hstate⟩ := h.mount
  rw [snd_create, newWorkspace]
  by_cases hempty : c.taskId = ""
  · rw [hempty]
    simp [valueError, matchesLine, isTaskId]
  · by_cases hmatch : matchesLine isTaskId c.taskId = true
    · have hsize : ¬(m.requestedSize c < 1 ∨ m.config.sizeMb * 5 < m.requestedSize c) := by
        have hpos := h.pos
        have hle := h.le_max
        omega
      rw [if_neg (not_or.2 ⟨hempty, not_not.2 hmatch⟩), if_neg hsize, h.makedirs, hstate]
      exact iff_of_true ⟨_, rfl⟩ hmatch
    · simp [valueError, hmatch]

end WorkspaceManager

/-- At the text, the validators accept exactly what they are to accept. -/
structure ValidatorsExact (host : Host) (v : String) : Prop where
  identifier : ∀ name, (∃ r, validateIdentifier host.repr v name = .ok r) ↔
    isTaskId v.toList = true ∧ v.length ≤ 256
  sandbox : ∀ (sb : VibeShieldSandbox) (status : SandboxStatus), sb.taskId = v →
    (¬Refuses (sb.checkTaskId host) status ↔ isTaskId v.toList = true)
  openShell : (∃ sb, OpenShellSandbox.new host v = .ok sb) ↔ isTaskId v.toList = true
  workspace : ∀ (m : WorkspaceManager) (c : WorkspaceCreation), c.taskId = v → m.Proceeds c →
    ((∃ workspace, (m.create c).2 = .ok workspace) ↔ isTaskId v.toList = true)
  envVar : (∃ r, sanitizeEnvVarName host.repr v = .ok r) ↔
    VibeShieldSandbox.isEnvName v.toList = true ∧ v ∉ dangerousNames

/-- Where the pattern of task ids is matched exactly, so is that of variables. -/
theorem matchesLine_isEnvName {v : String} (h : ¬NewlineAfter isTaskId v) :
    matchesLine VibeShieldSandbox.isEnvName v = true ↔
      VibeShieldSandbox.isEnvName v.toList = true := by
  rw [matchesLine_iff]
  exact or_iff_left fun ⟨w, hw, hname⟩ => h ⟨w, hw, isTaskId_of_isEnvName hname⟩

/-- The validators accept exactly their grammars if and only if the text is not one of letters,
    digits, `_` and `-` with a newline behind it. -/
theorem validators_exact_iff (host : Host) (v : String) :
    ValidatorsExact host v ↔ ¬NewlineAfter isTaskId v := by
  have hexact := matchesLine_exact_iff (s := v) fun _ => newline_notMem_of_isTaskId
  constructor
  · intro h
    rw [← hexact, ← OpenShellSandbox.new_ok_iff host]
    exact h.openShell
  · intro h
    have hid := hexact.2 h
    refine ⟨fun name => ?_, fun sb status hsb => ?_, ?_, fun m c hc hproceeds => ?_, ?_⟩
    · rw [validateIdentifier_ok_iff, hid]
    · subst hsb
      have hrefuses : Refuses (sb.checkTaskId host) status ↔ ¬matchesLine isTaskId sb.taskId :=
        (VibeShieldSandbox.checkTaskId_refusesIff (I := fun _ => True)).refuses_iff trivial
      rw [hrefuses, not_not, hid]
    · rw [OpenShellSandbox.new_ok_iff, hid]
    · subst hc
      rw [WorkspaceManager.create_ok_iff hproceeds, hid]
    · rw [sanitizeEnvVarName_ok_iff, matchesLine_isEnvName h]

namespace Sample

/-- A task id with a newline behind it is accepted. -/
theorem newline_accepted : ¬ValidatorsExact deployHost "abc\n" := by
  intro h
  have haccepted : ∃ sb, OpenShellSandbox.new deployHost "abc\n" = .ok sb :=
    ⟨_, if_neg (by decide)⟩
  exact absurd (h.openShell.1 haccepted) (by decide)

end Sample

end VibeShield
