import Mathlib.Data.List.Basic

/-!
# Trees of files and directories

A directory is the list of what is in it: files, with their contents, and directories
(`FileTree`). What is found at a path is a `Node`. Files are written and unlinked by name
(`write`, `unlink`, which are both an `edit`), which changes nothing at any other path.

A *walk* goes through a directory and all directories below it, from the top: it changes the
files of a directory, visits each of its subdirectories and then goes on into these. `node?_walk`
says what is found at a path after a walk, if it is not lost on a visit.
-/

/-- What is in a directory. If a name is there more than once, the first one counts. -/
inductive FileTree (ν α : Type*)
  | nil
  | file (name : ν) (content : α) (rest : FileTree ν α)
  | dir (name : ν) (sub rest : FileTree ν α)

namespace FileTree

/-- What is found at a path. -/
inductive Node (α : Type*)
  | file (content : α)
  | dir
deriving DecidableEq

/-- Changing the content of a file. -/
def Node.map {α : Type*} (f : α → α) : Node α → Node α
  | file c => file (f c)
  | dir => dir

@[simp] theorem Node.map_id {α : Type*} : Node.map (fun c : α => c) = id := by
  funext x
  rcases x with c | _ <;> rfl

@[simp] theorem Node.map_map {α : Type*} (f g : α → α) (x : Node α) :
    (x.map f).map g = x.map fun c => g (f c) := by
  rcases x with c | _ <;> rfl

variable {ν α : Type*}

/-- How many directories there are. -/
def dirCount : FileTree ν α → ℕ
  | nil => 0
  | file _ _ rest => rest.dirCount
  | dir _ sub rest => sub.dirCount + rest.dirCount + 1

/-- Changing the files of the directory. -/
def mapFiles (f : ν → α → α) : FileTree ν α → FileTree ν α
  | nil => nil
  | file n c rest => file n (f n c) (rest.mapFiles f)
  | dir n sub rest => dir n sub (rest.mapFiles f)

/-- Changing what is in its subdirectories. -/
def mapDirs (g : ν → FileTree ν α → FileTree ν α) : FileTree ν α → FileTree ν α
  | nil => nil
  | file n c rest => file n c (rest.mapDirs g)
  | dir n sub rest => dir n (g n sub) (rest.mapDirs g)

theorem dirCount_mapFiles (f : ν → α → α) (t : FileTree ν α) :
    (t.mapFiles f).dirCount = t.dirCount := by
  induction t with
  | nil => rfl
  | file n c rest ih => rw [mapFiles, dirCount, ih, dirCount]
  | dir n sub rest _ ih => rw [mapFiles, dirCount, ih, dirCount]

theorem dirCount_mapDirs {g : ν → FileTree ν α → FileTree ν α}
    (hg : ∀ n sub, (g n sub).dirCount = sub.dirCount) (t : FileTree ν α) :
    (t.mapDirs g).dirCount = t.dirCount := by
  induction t with
  | nil => rfl
  | file n c rest ih => rw [mapDirs, dirCount, ih, dirCount]
  | dir n sub rest _ ih => rw [mapDirs, dirCount, hg, ih, dirCount]

variable [DecidableEq ν]

/-- What is at a path, which starts from the directory. -/
def node? : FileTree ν α → List ν → Option (Node α)
  | _, [] => some .dir
  | nil, _ :: _ => none
  | file n c rest, m :: p => if m = n ∧ p = [] then some (.file c) else rest.node? (m :: p)
  | dir n sub rest, m :: p => if m = n then sub.node? p else rest.node? (m :: p)

/-- Going through a directory to the file with a name: `found` is what takes the place of the
    file and of what comes after it, and `missing` what is appended if there is none. If there is
    a directory with this name, it fails. -/
def edit (name : ν) (missing : Option (FileTree ν α)) (found : FileTree ν α → FileTree ν α) :
    FileTree ν α → Option (FileTree ν α)
  | nil => missing
  | file n c rest =>
    if n = name then some (found rest) else (rest.edit name missing found).map (file n c)
  | dir n sub rest => if n = name then none else (rest.edit name missing found).map (dir n sub)

/-- Writing a file in the directory: it is created, or what was in it is replaced. -/
def write (name : ν) (content : α) (t : FileTree ν α) : Option (FileTree ν α) :=
  t.edit name (some (file name content nil)) (file name content)

/-- Unlinking a file in the directory. -/
def unlink (name : ν) (t : FileTree ν α) : Option (FileTree ν α) := t.edit name none id

/-! ## Paths -/

section

variable {t : FileTree ν α} {m n : ν} {c : α} {sub rest : FileTree ν α} {p : List ν}

@[simp] theorem node?_nil_path (t : FileTree ν α) : t.node? [] = some .dir := by
  cases t <;> rfl

theorem node?_file : (file n c rest).node? (m :: p) =
    if m = n ∧ p = [] then some (.file c) else rest.node? (m :: p) := rfl

theorem node?_dir : (dir n sub rest).node? (m :: p) =
    if m = n then sub.node? p else rest.node? (m :: p) := rfl

theorem node?_mapFiles (f : ν → α → α) : (t.mapFiles f).node? (m :: p) =
    if p = [] then (t.node? [m]).map (.map (f m)) else t.node? (m :: p) := by
  induction t with
  | nil => split <;> rfl
  | file n c rest ih =>
    rw [mapFiles, node?_file, ih, node?_file, node?_file]
    by_cases hp : p = []
    · by_cases hm : m = n
      · simp [hp, hm, Node.map]
      · simp [hp, hm]
    · simp [hp]
  | dir n sub rest _ ih =>
    rw [mapFiles, node?_dir, ih, node?_dir, node?_dir]
    by_cases hp : p = []
    · by_cases hm : m = n
      · simp [hp, hm, Node.map]
      · simp [hp, hm]
    · simp [hp]

/-- Changing subdirectories changes nothing at a path that is left alone in all of them. -/
theorem node?_mapDirs {g : ν → FileTree ν α → FileTree ν α} {x : Option (Node α)}
    (ht : t.node? (m :: p) = x) (hg : ∀ sub, sub.node? p = x → (g m sub).node? p = x) :
    (t.mapDirs g).node? (m :: p) = x := by
  induction t with
  | nil => exact ht
  | file n c rest ih =>
    rw [mapDirs, node?_file]
    rw [node?_file] at ht
    split
    · rwa [if_pos ‹_›] at ht
    · exact ih (by rwa [if_neg ‹_›] at ht)
  | dir n sub rest _ ih =>
    rw [mapDirs, node?_dir]
    rw [node?_dir] at ht
    split
    · next hm =>
      subst hm
      exact hg sub (by rwa [if_pos rfl] at ht)
    · exact ih (by rwa [if_neg ‹_›] at ht)

end

/-! ## Writing and unlinking -/

section

variable {t t' : FileTree ν α} {name : ν} {content : α} {p : List ν}
  {missing : Option (FileTree ν α)} {found : FileTree ν α → FileTree ν α}

theorem dirCount_of_edit (h : t.edit name missing found = some t')
    (hmissing : ∀ t', missing = some t' → t'.dirCount = 0)
    (hfound : ∀ rest, (found rest).dirCount = rest.dirCount) : t'.dirCount = t.dirCount := by
  induction t generalizing t' with
  | nil => exact hmissing t' h
  | file n c rest ih =>
    rw [edit] at h
    split at h
    · rw [← Option.some_inj.1 h, hfound, dirCount]
    · obtain ⟨rest', hrest, rfl⟩ := Option.map_eq_some_iff.1 h
      rw [dirCount, ih hrest, dirCount]
  | dir n sub rest _ ih =>
    rw [edit] at h
    split at h
    · simp at h
    · obtain ⟨rest', hrest, rfl⟩ := Option.map_eq_some_iff.1 h
      rw [dirCount, ih hrest, dirCount]

theorem dirCount_of_write (h : t.write name content = some t') : t'.dirCount = t.dirCount := by
  refine dirCount_of_edit h ?_ fun _ => rfl
  rintro _ ⟨⟩
  rfl

theorem dirCount_of_unlink (h : t.unlink name = some t') : t'.dirCount = t.dirCount :=
  dirCount_of_edit h (by simp) fun _ => rfl

/-- An edit changes nothing at a path where neither of the two parts does. -/
theorem node?_of_edit (h : t.edit name missing found = some t') (hp : p ≠ [name])
    (hmissing : ∀ t', missing = some t' → t'.node? p = nil.node? p)
    (hfound : ∀ rest, (found rest).node? p = rest.node? p) : t'.node? p = t.node? p := by
  rcases p with _ | ⟨m, p⟩
  · rw [node?_nil_path, node?_nil_path]
  have hm : m = name → p ≠ [] := fun hm hnil => hp (by rw [hm, hnil])
  induction t generalizing t' with
  | nil => exact hmissing t' h
  | file n c rest ih =>
    rw [edit] at h
    split at h
    · next hn =>
      rw [← Option.some_inj.1 h, hfound, node?_file, if_neg fun h => hm (h.1.trans hn) h.2]
    · obtain ⟨rest', hrest, rfl⟩ := Option.map_eq_some_iff.1 h
      rw [node?_file, ih hrest, node?_file]
  | dir n sub rest _ ih =>
    rw [edit] at h
    split at h
    · simp at h
    · obtain ⟨rest', hrest, rfl⟩ := Option.map_eq_some_iff.1 h
      rw [node?_dir, ih hrest, node?_dir]

/-- A file in front changes nothing at any other path. -/
theorem node?_file_of_ne (hp : p ≠ [name]) : (file name content t).node? p = t.node? p := by
  rcases p with _ | ⟨m, p⟩
  · rw [node?_nil_path, node?_nil_path]
  · rw [node?_file, if_neg fun h => hp (by rw [h.1, h.2])]

/-- Writing a file changes nothing at any other path. -/
theorem node?_of_write (h : t.write name content = some t') (hp : p ≠ [name]) :
    t'.node? p = t.node? p := by
  refine node?_of_edit h hp ?_ fun _ => node?_file_of_ne hp
  rintro _ ⟨⟩
  exact node?_file_of_ne hp

/-- Unlinking a file changes nothing at any other path. -/
theorem node?_of_unlink (h : t.unlink name = some t') (hp : p ≠ [name]) :
    t'.node? p = t.node? p :=
  node?_of_edit h hp (by simp) fun _ => rfl

/-- A file cannot be written if there is a directory with its name. -/
theorem write_of_dir (h : t.node? [name] = some .dir) : t.write name content = none := by
  rw [write]
  induction t with
  | nil => simp [node?] at h
  | file n c rest ih =>
    rw [node?_file] at h
    have hn : n ≠ name := fun hn => by simp [hn] at h
    rw [if_neg fun h => hn h.1.symm] at h
    rw [edit, if_neg hn, ih h, Option.map_none]
  | dir n sub rest _ ih =>
    rw [edit]
    split
    · rfl
    · next hn =>
      rw [node?_dir, if_neg (Ne.symm hn)] at h
      rw [ih h, Option.map_none]

/-- If a name is free, unlinking a file written under it undoes the writing. -/
theorem unlink_of_write (h : t.write name content = some t') (hfree : t.node? [name] = none) :
    t'.unlink name = some t := by
  rw [write] at h
  rw [unlink]
  induction t generalizing t' with
  | nil =>
    rw [edit, Option.some_inj] at h
    rw [← h, edit, if_pos rfl]
    rfl
  | file n c rest ih =>
    rw [node?_file] at hfree
    have hn : n ≠ name := fun hn => by simp [hn] at hfree
    rw [edit, if_neg hn] at h
    rw [if_neg fun h => hn h.1.symm] at hfree
    obtain ⟨rest', hrest, rfl⟩ := Option.map_eq_some_iff.1 h
    rw [edit, if_neg hn, ih hrest hfree, Option.map_some]
  | dir n sub rest _ ih =>
    rw [node?_dir] at hfree
    have hn : n ≠ name := fun hn => by simp [hn] at hfree
    rw [edit, if_neg hn] at h
    rw [if_neg (Ne.symm hn)] at hfree
    obtain ⟨rest', hrest, rfl⟩ := Option.map_eq_some_iff.1 h
    rw [edit, if_neg hn, ih hrest hfree, Option.map_some]

end

/-! ## Walks -/

/-- What a walk does to the directories it visits, each with its path: no directory is created
    or removed. -/
structure Visit (ν α : Type*) where
  run : List ν → FileTree ν α → FileTree ν α
  dirCount_run : ∀ path t, (run path t).dirCount = t.dirCount

section Walk

variable (f : List ν → α → α) (v : Visit ν α)

/-- The changes in one directory: its files are changed, then its subdirectories visited. -/
def walkStep (path : List ν) (t : FileTree ν α) : FileTree ν α :=
  (t.mapFiles fun n => f (path ++ [n])).mapDirs fun n => v.run (path ++ [n])

omit [DecidableEq ν] in
theorem dirCount_walkStep (path : List ν) (t : FileTree ν α) :
    (walkStep f v path t).dirCount = t.dirCount := by
  rw [walkStep, dirCount_mapDirs fun _ _ => v.dirCount_run _ _, dirCount_mapFiles]

mutual

/-- Going through a directory and all directories below it. -/
def walk (path : List ν) (t : FileTree ν α) : FileTree ν α :=
  walkDirs path (walkStep f v path t)
termination_by (t.dirCount, 1, 0)
decreasing_by
  rw [dirCount_walkStep]
  decreasing_tactic

/-- Going on into the subdirectories of a directory. -/
def walkDirs (path : List ν) (t : FileTree ν α) : FileTree ν α :=
  match t with
  | nil => nil
  | file n c rest => file n c (walkDirs path rest)
  | dir n sub rest => dir n (walk (path ++ [n]) sub) (walkDirs path rest)
termination_by (t.dirCount, 0, sizeOf t)
decreasing_by
  · rw [dirCount]
    decreasing_tactic
  · exact Prod.Lex.left _ _ (by rw [dirCount]; omega)
  · exact Prod.Lex.left _ _ (by rw [dirCount]; omega)

end

variable {f : List ν → α → α} {v : Visit ν α}

theorem node?_walkStep {lost : List ν → Option (Node α) → Prop}
    (hv : ∀ path t p, ¬lost p (t.node? p) → (v.run path t).node? p = t.node? p)
    (path : List ν) {t : FileTree ν α} {m : ν} {p : List ν} (hp : ¬lost p (t.node? (m :: p))) :
    (walkStep f v path t).node? (m :: p) =
      if p = [] then (t.node? [m]).map (.map (f (path ++ [m]))) else t.node? (m :: p) := by
  rw [walkStep, ← node?_mapFiles fun n => f (path ++ [n])]
  refine node?_mapDirs rfl fun sub hsub => ?_
  rcases p with _ | ⟨m', p⟩
  · rw [← hsub, node?_nil_path, node?_nil_path]
  · rw [node?_mapFiles, if_neg (List.cons_ne_nil _ _)] at hsub ⊢
    rw [← hsub] at hp ⊢
    exact hv _ sub _ hp

/-- No visit of a directory on the path loses what is at its end: `lost q x` says that a visit
    loses `x` at the path `q`. -/
def Spared (lost : List ν → Option (Node α) → Prop) (p : List ν) (x : Option (Node α)) : Prop :=
  ∀ r q, p = r ++ q → r ≠ [] → ¬lost q x

section

variable {lost : List ν → Option (Node α) → Prop} {m : ν} {p : List ν} {x : Option (Node α)}

omit [DecidableEq ν] in
theorem spared_nil : Spared lost [] x := fun _ _ h hr =>
  absurd (List.append_eq_nil_iff.1 h.symm).1 hr

omit [DecidableEq ν] in
theorem Spared.not_lost (h : Spared lost (m :: p) x) : ¬lost p x :=
  h [m] p rfl (List.cons_ne_nil _ _)

omit [DecidableEq ν] in
theorem Spared.tail (h : Spared lost (m :: p) x) : Spared lost p x := fun r q hq _ =>
  h (m :: r) q (by rw [hq, List.cons_append]) (List.cons_ne_nil _ _)

end

/-- What a walk finds at a path it leaves there, with the content of a file changed, unless a
    visit of a directory on the path loses it. -/
theorem node?_walk {lost : List ν → Option (Node α) → Prop}
    (hv : ∀ path t p, ¬lost p (t.node? p) → (v.run path t).node? p = t.node? p)
    (path : List ν) (t : FileTree ν α) (p : List ν) (hp : Spared lost p (t.node? p)) :
    (walk f v path t).node? p = (t.node? p).map (.map (f (path ++ p))) := by
  -- Going on into the subdirectories leaves the directory itself as it is after its step.
  refine walk.induct f v
    (fun path t => ∀ p, Spared lost p (t.node? p) →
      (walk f v path t).node? p = (t.node? p).map (.map (f (path ++ p))))
    (fun path t => ∀ m p, Spared lost p (t.node? (m :: p)) →
      (walkDirs f v path t).node? (m :: p) =
        if p = [] then t.node? [m] else (t.node? (m :: p)).map (.map (f (path ++ m :: p))))
    ?step ?nil ?file ?dir path t p hp
  case step =>
    intro path t ih p hp
    rcases p with _ | ⟨m, p⟩
    · rw [node?_nil_path, node?_nil_path]
      rfl
    · have hstep := node?_walkStep (f := f) hv path hp.not_lost
      by_cases hnil : p = []
      · subst hnil
        rw [walk, ih m [] spared_nil, if_pos rfl, hstep, if_pos rfl]
      · rw [if_neg hnil] at hstep
        rw [walk, ih m p (hstep ▸ hp.tail), if_neg hnil, hstep]
  case nil =>
    intro path m p _
    rw [walkDirs]
    split <;> rfl
  case file =>
    intro path n c rest ih m p hp
    rw [walkDirs, node?_file, node?_file, node?_file]
    rw [node?_file] at hp
    by_cases h : m = n ∧ p = []
    · simp [h]
    · rw [if_neg h] at hp
      rw [if_neg h, ih m p hp, if_neg h]
      split
      · next hnil => rw [if_neg fun hm => h ⟨hm.1, hnil⟩]
      · rfl
  case dir =>
    intro path n sub rest ihsub ihrest m p hp
    rw [walkDirs, node?_dir, node?_dir, node?_dir]
    rw [node?_dir] at hp
    by_cases hm : m = n
    · rw [if_pos hm] at hp
      rw [if_pos hm, if_pos hm, if_pos hm, ihsub p hp]
      split
      · next hnil =>
        subst hnil
        rw [node?_nil_path]
        rfl
      · rw [hm, List.append_assoc, List.singleton_append]
    · rw [if_neg hm] at hp
      rw [if_neg hm, if_neg hm, if_neg hm, ihrest m p hp]

end Walk

end FileTree
