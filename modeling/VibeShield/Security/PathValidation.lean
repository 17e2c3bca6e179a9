import VibeShield.Security.Utils

/-!
# What path validation accepts

`validatePath` compares strings: the resolved target has to be the resolved base, or to start with
it and a slash. Of normalised paths (`Normalised`) this says that the components of the target
extend those of the base (`startsWith_or_eq_iff`), whatever siblings the base has and whatever links
the target runs through. The root is an exception: it ends in a slash already, and no normalised
path starts with two.

So validation is exact, except that it rejects what lies below the root if this is the base
(`validatePath_exact_iff`).
-/

namespace VibeShield

/-! ## Normalised paths -/

/-- The path from the root along these names. -/
def rootedAt (names : List (List Char)) : List Char :=
  if names = [] then ['/'] else names.flatMap ('/' :: ·)

/-- An absolute path, with one slash before each component, none of which is `.` or `..`. -/
structure Normalised (path : String) : Prop where
  toList_eq : path.toList = rootedAt (pathComponents path)
  not_dots : ∀ name ∈ pathComponents path, name ≠ ['.'] ∧ name ≠ ['.', '.']

theorem not_mem_of_mem_splitOn {α : Type*} [DecidableEq α] {a : α} {xs part : List α}
    (h : part ∈ xs.splitOn a) : a ∉ part := by
  induction xs generalizing part with
  | nil =>
    rw [List.splitOn_nil, List.mem_singleton] at h
    rw [h]
    exact List.not_mem_nil
  | cons x xs ih =>
    obtain ⟨first, rest, hsplit⟩ := List.exists_cons_of_ne_nil (List.splitOn_ne_nil a xs)
    rw [hsplit] at ih
    rw [List.splitOn_cons_eq_if_modifyHead, hsplit] at h
    split at h
    · rcases List.mem_cons.1 h with rfl | h
      · exact List.not_mem_nil
      · exact ih h
    · next hne =>
      rcases List.mem_cons.1 h with rfl | h
      · have hxa : a ≠ x := fun hax => hne (beq_iff_eq.2 hax.symm)
        exact List.not_mem_cons_of_ne_of_not_mem hxa (ih List.mem_cons_self)
      · exact ih (List.mem_cons_of_mem _ h)

theorem mem_pathComponents {path : String} {name : List Char} (h : name ∈ pathComponents path) :
    name ≠ [] ∧ '/' ∉ name := by
  rw [pathComponents, List.mem_filter] at h
  exact ⟨by simpa using h.2, not_mem_of_mem_splitOn h.1⟩

theorem pathComponents_root : pathComponents "/" = [] := by decide

/-- All paths lie below the root. -/
theorem below_root (path : String) : Below "/" path := by
  rw [Below, pathComponents_root]
  exact List.nil_prefix

namespace Normalised

variable {base target : String}

/-- Only the root has no components. -/
theorem eq_root_iff (h : Normalised base) : base = "/" ↔ pathComponents base = [] := by
  constructor
  · intro hroot
    rw [hroot, pathComponents_root]
  · intro hnil
    rw [← String.toList_inj, h.toList_eq, hnil]
    rfl

theorem toList_of_ne_root (h : Normalised base) (hroot : base ≠ "/") :
    base.toList = (pathComponents base).flatMap ('/' :: ·) := by
  have hne : pathComponents base ≠ [] := fun hnil => hroot (h.eq_root_iff.2 hnil)
  rw [h.toList_eq, rootedAt, if_neg hne]

/-- No normalised path starts with two slashes. -/
theorem not_startsWith_slashes (h : Normalised target) :
    startsWith target ("/" ++ "/") = false := by
  by_cases hroot : target = "/"
  · rw [hroot]
    decide
  · have hlist := h.toList_of_ne_root hroot
    obtain ⟨name, names, hnames⟩ := List.exists_cons_of_ne_nil fun hnil =>
      hroot (h.eq_root_iff.2 hnil)
    obtain ⟨hne, hslash⟩ := mem_pathComponents (hnames ▸ List.mem_cons_self)
    obtain ⟨x, xs, rfl⟩ := List.exists_cons_of_ne_nil hne
    have hx : '/' ≠ x := fun hx => hslash (hx ▸ List.mem_cons_self)
    rw [startsWith, hlist, hnames]
    simp [List.isPrefixOf, hx]

/-- A target starts with a base other than the root and a slash, or is the base, exactly if it lies
    below the base. -/
theorem startsWith_or_eq_iff (hbase : Normalised base) (htarget : Normalised target)
    (hroot : base ≠ "/") :
    startsWith target (base ++ "/") = true ∨ target = base ↔ Below base target := by
  constructor
  · rintro (h | rfl)
    · exact below_of_startsWith h
    · exact below_refl target
  · rintro ⟨names, hnames⟩
    have hne : target ≠ "/" := by
      intro htop
      rw [htop, pathComponents_root, List.append_eq_nil_iff] at hnames
      exact hroot (hbase.eq_root_iff.2 hnames.1)
    have hlist : target.toList = base.toList ++ names.flatMap ('/' :: ·) := by
      rw [htarget.toList_of_ne_root hne, hbase.toList_of_ne_root hroot, ← hnames,
        List.flatMap_append]
    rcases names with _ | ⟨name, names⟩
    · right
      rw [← String.toList_inj, hlist]
      simp
    · left
      rw [startsWith, List.isPrefixOf_iff_prefix, hlist, String.toList_append]
      exact ⟨name ++ names.flatMap ('/' :: ·), by simp⟩

end Normalised

/-! ## Validation -/

/-- With leave to create the path, validation accepts it exactly if `p` holds, with what it is
    resolved to, and ends in a `ValueError` otherwise. -/
structure ValidatesIff (os : Os) (baseDir targetPath realTarget : String) (p : Prop) : Prop where
  accepts : p → validatePath os baseDir targetPath true = .ok realTarget
  rejects : ¬p → ∃ msg, validatePath os baseDir targetPath true = .error ⟨.valueError, msg⟩

section Validation

variable {os : Os} {baseDir targetPath realBase realTarget : String} {p q : Prop}

/-- What validation accepts is told by one condition only. -/
theorem ValidatesIff.congr_iff (h : ValidatesIff os baseDir targetPath realTarget p) :
    ValidatesIff os baseDir targetPath realTarget q ↔ (p ↔ q) := by
  refine ⟨fun h' => ⟨fun hp => ?_, fun hq => ?_⟩, fun hpq => propext hpq ▸ h⟩
  · by_contra hq
    obtain ⟨msg, hreject⟩ := h'.rejects hq
    exact absurd ((h.accepts hp).symm.trans hreject) (by simp)
  · by_contra hp
    obtain ⟨msg, hreject⟩ := h.rejects hp
    exact absurd ((h'.accepts hq).symm.trans hreject) (by simp)

/-- The condition of the code. -/
theorem validatesIff_startsWith (hbase : baseDir ≠ "") (htarget : targetPath ≠ "")
    (hrealBase : os.realpath baseDir = .ok realBase)
    (hrealTarget : os.realpath (pathJoin baseDir targetPath) = .ok realTarget) :
    ValidatesIff os baseDir targetPath realTarget (inSplit ".." '/' targetPath = false ∧
      (startsWith realTarget (realBase ++ "/") = true ∨ realTarget = realBase)) := by
  have hempty : ¬(baseDir = "" ∨ targetPath = "") := not_or.2 ⟨hbase, htarget⟩
  constructor
  · rintro ⟨hdots, hbelow⟩
    exact validatePath_eq_ok_iff.2
      ⟨hempty, hdots, ⟨realBase, hrealBase, hbelow⟩, hrealTarget, .inl rfl⟩
  · intro hnot
    rw [validatePath, if_neg hempty]
    by_cases hdots : inSplit ".." '/' targetPath = true
    · rw [if_pos hdots]
      exact ⟨_, rfl⟩
    · rw [Bool.not_eq_true] at hdots
      have hescapes :
          ¬(startsWith realTarget (realBase ++ "/") = true ∨ realTarget = realBase) :=
        fun hbelow => hnot ⟨hdots, hbelow⟩
      rw [if_neg (by simp [hdots]), hrealBase, hrealTarget]
      exact ⟨_, if_pos (by simpa [not_or] using hescapes)⟩

/-- If `realpath` returns normalised paths, validation is exact, unless the base is the root, and
    the target something below it and without a component `..`. -/
theorem validatePath_exact_iff (hbase : baseDir ≠ "") (htarget : targetPath ≠ "")
    (hrealBase : os.realpath baseDir = .ok realBase)
    (hrealTarget : os.realpath (pathJoin baseDir targetPath) = .ok realTarget)
    (hnormalBase : Normalised realBase) (hnormalTarget : Normalised realTarget) :
    ValidatesIff os baseDir targetPath realTarget
        (inSplit ".." '/' targetPath = false ∧ Below realBase realTarget) ↔
      realBase ≠ "/" ∨ realTarget = "/" ∨ inSplit ".." '/' targetPath = true := by
  rw [(validatesIff_startsWith hbase htarget hrealBase hrealTarget).congr_iff]
  by_cases hroot : realBase = "/"
  · -- Below the root there is everything, but nothing starts with two slashes.
    have hbelow : startsWith realTarget (realBase ++ "/") = true ∨ realTarget = realBase ↔
        realTarget = "/" := by
      rw [hroot, hnormalTarget.not_startsWith_slashes, or_iff_right Bool.false_ne_true]
    have hall : Below realBase realTarget := hroot ▸ below_root realTarget
    rw [hbelow, and_iff_left hall, or_iff_right (not_not.2 hroot), and_iff_left_iff_imp,
      ← Bool.not_eq_true]
    tauto
  · rw [hnormalBase.startsWith_or_eq_iff hnormalTarget hroot]
    exact iff_of_true Iff.rfl (.inl hroot)

end Validation

namespace Sample

/-- A file system without links. -/
def plainOs : Os := ⟨.ok, fun _ => true, fun _ => ([], none)⟩

theorem normalised_workspace : Normalised "/srv/ws" := ⟨by decide, by decide⟩

/-- A sibling of the base is not below it, although its path starts with that of the base. -/
theorem sibling_rejected : ∃ msg, validatePath plainOs "/srv/ws" "/srv/ws2/a" true =
    .error ⟨.valueError, msg⟩ :=
  ((validatePath_exact_iff (by decide) (by decide) rfl rfl normalised_workspace
    ⟨by decide, by decide⟩).2 (.inl (by decide))).rejects (by decide)

/-- A file at the root is not accepted. -/
theorem not_validatesIff_below_root :
    plainOs.realpath "/" = .ok "/" ∧ plainOs.realpath (pathJoin "/" "etc") = .ok "/etc" ∧
      Normalised "/" ∧ Normalised "/etc" ∧
      ¬ValidatesIff plainOs "/" "etc" "/etc"
        (inSplit ".." '/' "etc" = false ∧ Below "/" "/etc") := by
  refine ⟨rfl, rfl, ⟨by decide, by decide⟩, ⟨by decide, by decide⟩, fun h => ?_⟩
  have haccepts := h.accepts (by decide)
  exact absurd haccepts (by decide)

end Sample

end VibeShield
