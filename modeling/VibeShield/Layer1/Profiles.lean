import VibeShield.Layer1.Outcomes
import VibeShield.Security.Seccomp.Hardening

/-!
# The seccomp profile that the sandboxes share

The containers of all sandboxes use one file with a seccomp profile. Its path is cached at class
level (`ProfileStore`): the first deployment saves the profile, and the others use the file as long
as it exists (`profile_shared`). `ensureProfile` is `_ensure_seccomp_profile` on these files;
`ensureSeccompProfile` is what it returns (`ensureProfile_eq`).

The file lies in the directory for temporary files, where others may change it as well, and it is
not looked into again. What is known of the profile that a container is started with is where it
comes from: some deployment has saved it, and it hardens the default profile of Podman that this
deployment has found, or others have written it (`profiles_hardened`).
-/

namespace VibeShield

/-! ## The files -/

/-- The files, and the path of the profile. -/
structure ProfileStore where
  /-- `VibeShieldSandbox._seccomp_path`. -/
  seccompPath : Option String
  /-- What is in a file, by its resolved path: a profile, or something else. -/
  files : String → Option (Option SeccompDict)

/-- What it comes to when a profile is written to a file. -/
inductive Writing
  | written
  /-- The file cannot be opened. -/
  | notOpened (err : PyErr)
  /-- The file is emptied, but not all of the profile gets there. -/
  | interrupted (err : PyErr)

/-- The exception in which it ends, if any. -/
def Writing.result : Writing → Except PyErr Unit
  | written => .ok ()
  | notOpened err => .error err
  | interrupted err => .error err

namespace ProfileStore

/-- `os.path.exists`. -/
def pathExists (realpath : String → Except PyErr String) (store : ProfileStore) (path : String) :
    Bool :=
  match realpath path with
  | .ok file => (store.files file).isSome
  | .error _ => false

/-- Changing a file. -/
def put (store : ProfileStore) (file : String) (content : Option (Option SeccompDict)) :
    ProfileStore :=
  { store with files := Function.update store.files file content }

@[simp] theorem seccompPath_put (store : ProfileStore) (file : String)
    (content : Option (Option SeccompDict)) :
    (store.put file content).seccompPath = store.seccompPath := rfl

@[simp] theorem files_put_self (store : ProfileStore) (file : String)
    (content : Option (Option SeccompDict)) : (store.put file content).files file = content :=
  Function.update_self _ _ _

theorem files_put_of_ne {file file' : String} (h : file' ≠ file) (store : ProfileStore)
    (content : Option (Option SeccompDict)) :
    (store.put file content).files file' = store.files file' :=
  Function.update_of_ne h _ _

/-- Opening a file for writing, and writing a profile to it. -/
def write (writing : Writing) (file : String) (d : SeccompDict) :
    EStateM PyErr ProfileStore Unit := fun store =>
  match writing with
  | .written => .ok () (store.put file (some (some d)))
  | .notOpened err => .error err store
  | .interrupted err => .error err (store.put file (some none))

end ProfileStore

/-- The host as a deployment finds it. -/
def Host.within (host : Host) (writing : Writing) (store : ProfileStore) : Host :=
  { host with
    os := { host.os with pathExists := store.pathExists host.os.realpath }
    seccompPath := store.seccompPath
    writeFile := fun _ _ => writing.result }

/-- Where the profile is saved. -/
def Host.profilePath (host : Host) : String :=
  pathJoin host.tempDir s!"vibeshield_seccomp_{host.uid}.json"

/-- `profile.save(path, base_dir)`. -/
def SeccompProfile.saveTo (profile : SeccompProfile) (host : Host) (writing : Writing)
    (path baseDir : String) : EStateM PyErr ProfileStore String := do
  let validatedPath ← ofExcept (validatePath host.os baseDir path true)
  ProfileStore.write writing validatedPath (profile.toDict blocklistSyscalls)
  return validatedPath

/-- Generating the profile, saving it and caching its path. -/
def generateProfile (host : Host) (writing : Writing) : EStateM PyErr ProfileStore String := do
  let profile ← ofExcept (SeccompProfile.fromPodmanDefault host.podmanDefault)
  let _ ← profile.saveTo host writing host.profilePath (pathDirname host.profilePath)
  modify fun store => { store with seccompPath := some host.profilePath }
  return host.profilePath

/-- The path of the profile, which is generated unless it is there. -/
def ensureProfile (host : Host) (writing : Writing) : EStateM PyErr ProfileStore String := do
  let store ← get
  let cached := store.seccompPath.getD ""
  if cached ≠ "" ∧ store.pathExists host.os.realpath cached then return cached
  else generateProfile host writing

/-! ## What a call can do -/

/-- A host where paths are resolved in this way, and `tempfile.gettempdir()` is an absolute path.
    It is assumed of all hosts of a run with one `realpath`: links are not changed during it. -/
structure Host.Resolves (realpath : String → Except PyErr String) (host : Host) : Prop where
  realpath : host.os.realpath = realpath
  tempDir : startsWith host.tempDir "/" = true

theorem startsWith_append_right {s p : String} (h : startsWith s p = true) (t : String) :
    startsWith (s ++ t) p = true := by
  rw [startsWith, List.isPrefixOf_iff_prefix] at h ⊢
  rw [String.toList_append]
  exact h.trans (List.prefix_append _ _)

theorem startsWith_pathJoin {base target : String} (h : startsWith base "/" = true) :
    startsWith (pathJoin base target) "/" = true := by
  rw [pathJoin]
  split_ifs with htarget
  · exact htarget
  · exact startsWith_append_right h _
  · exact startsWith_append_right (startsWith_append_right h _) _

theorem Host.Resolves.profilePath {realpath : String → Except PyErr String} {host : Host}
    (hhost : host.Resolves realpath) : startsWith host.profilePath "/" = true :=
  startsWith_pathJoin hhost.tempDir

/-- What a call may come to. -/
inductive Ensured (host : Host) (writing : Writing) (store : ProfileStore) :
    EStateM.Result PyErr ProfileStore String → Prop
  /-- The profile has been saved before, and the file exists. -/
  | cached {path : String} (hpath : store.seccompPath = some path) (hne : path ≠ "")
    (hexists : store.pathExists host.os.realpath path = true) :
    Ensured host writing store (.ok path store)
  | saved {file : String} {base d : SeccompDict} (hbase : host.podmanDefault = some base)
    (hfile : host.os.realpath host.profilePath = .ok file) (hhardens : Hardens [] base d) :
    Ensured host writing store
      (.ok host.profilePath { store.put file (some (some d)) with seccompPath := host.profilePath })
  /-- Nothing has changed. -/
  | failed (err : PyErr) : Ensured host writing store (.error err store)
  | interrupted (err : PyErr) (file : String) :
    Ensured host writing store (.error err (store.put file (some none)))

section Calls

variable {realpath : String → Except PyErr String} {host : Host}

theorem pathJoin_profilePath (hhost : host.Resolves realpath) (base : String) :
    pathJoin base host.profilePath = host.profilePath := by
  rw [pathJoin, if_pos hhost.profilePath]

/-- A profile is saved at its path, or nothing is written, or half of it. -/
theorem saveTo_cases (hhost : host.Resolves realpath) (profile : SeccompProfile) (writing : Writing)
    (base : String) (store : ProfileStore) :
    (∃ file, host.os.realpath host.profilePath = .ok file ∧
      profile.saveTo host writing host.profilePath base store =
        .ok file (store.put file (some (some (profile.toDict blocklistSyscalls))))) ∨
    (∃ err, profile.saveTo host writing host.profilePath base store = .error err store) ∨
    ∃ err file, profile.saveTo host writing host.profilePath base store =
      .error err (store.put file (some none)) := by
  rw [SeccompProfile.saveTo]
  cases hvalid : validatePath host.os base host.profilePath true with
  | error err => exact .inr (.inl ⟨err, rfl⟩)
  | ok file =>
    have hfile : host.os.realpath host.profilePath = .ok file := by
      rw [← pathJoin_profilePath hhost base]
      exact (validatePath_eq_ok hvalid).1
    cases writing with
    | written => exact .inl ⟨file, hfile, rfl⟩
    | notOpened err => exact .inr (.inl ⟨err, rfl⟩)
    | interrupted err => exact .inr (.inr ⟨err, file, rfl⟩)

/-- A profile that is made from the default one hardens it. -/
theorem hardens_of_fromPodmanDefault {data : Option SeccompDict} {profile : SeccompProfile}
    (h : SeccompProfile.fromPodmanDefault data = .ok profile) :
    ∃ base, data = some base ∧ Hardens [] base (profile.toDict blocklistSyscalls) := by
  rcases data with _ | base
  · cases h
  · obtain ⟨hempty, hbase⟩ := SeccompProfile.fromPodmanDefault_eq h
    refine ⟨base, rfl, ?_⟩
    rw [SeccompProfile.toDict, hbase]
    exact SeccompProfile.toDictHarden_hardens hempty [] base

theorem ensureProfile_eq_ite (host : Host) (writing : Writing) (store : ProfileStore) :
    ensureProfile host writing store =
      if store.seccompPath.getD "" ≠ "" ∧
          store.pathExists host.os.realpath (store.seccompPath.getD "") = true then
        .ok (store.seccompPath.getD "") store
      else generateProfile host writing store := by
  change (ite _ _ _ : EStateM PyErr ProfileStore String) store = _
  split_ifs
  · rfl
  · rfl

theorem ensured (hhost : host.Resolves realpath) (writing : Writing) (store : ProfileStore) :
    Ensured host writing store (ensureProfile host writing store) := by
  rw [ensureProfile_eq_ite]
  split_ifs with hcached
  · rcases hpath : store.seccompPath with _ | path
    · exact absurd (by rw [hpath]; rfl) hcached.1
    · rw [hpath] at hcached
      exact .cached hpath hcached.1 hcached.2
  · rw [generateProfile]
    cases hprofile : SeccompProfile.fromPodmanDefault host.podmanDefault with
    | error err => exact .failed err
    | ok profile =>
      obtain ⟨base, hbase, hhardens⟩ := hardens_of_fromPodmanDefault hprofile
      have hgenerated : (ofExcept (.ok profile) : EStateM PyErr ProfileStore SeccompProfile) store =
          .ok profile store := rfl
      rw [bind_of_ok hgenerated]
      obtain ⟨file, hfile, hsave⟩ | ⟨err, hsave⟩ | ⟨err, file, hsave⟩ :=
        saveTo_cases hhost profile writing (pathDirname host.profilePath) store
      · rw [bind_of_ok hsave]
        exact .saved hbase hfile hhardens
      · rw [bind_of_error hsave]
        exact .failed err
      · rw [bind_of_error hsave]
        exact .interrupted err file

/-- With leave to create the file, it does not matter which files exist. -/
theorem validatePath_within (host : Host) (writing : Writing) (store : ProfileStore)
    (base path : String) : validatePath (host.within writing store).os base path true =
      validatePath host.os base path true := by
  rw [validatePath, validatePath]
  rfl

theorem saveTo_eq (profile : SeccompProfile) (host : Host) (writing : Writing) (path base : String)
    (store : ProfileStore) : ∃ store', profile.saveTo host writing path base store =
      endsIn (profile.save blocklistSyscalls (host.within writing store).os
        (host.within writing store).writeFile path base) store' := by
  rw [SeccompProfile.saveTo, SeccompProfile.save, validatePath_within]
  cases validatePath host.os base path true with
  | error err => exact ⟨store, rfl⟩
  | ok file =>
    cases writing with
    | written => exact ⟨_, rfl⟩
    | notOpened err => exact ⟨_, rfl⟩
    | interrupted err => exact ⟨_, rfl⟩

/-- A call returns what has been said of a deployment that finds these files. -/
theorem ensureProfile_eq (host : Host) (writing : Writing) (store : ProfileStore) :
    ∃ store', ensureProfile host writing store =
      endsIn (VibeShieldSandbox.ensureSeccompProfile (host.within writing store)) store' := by
  rw [ensureProfile_eq_ite, VibeShieldSandbox.ensureSeccompProfile]
  change ∃ store', _ = endsIn (ite (store.seccompPath.getD "" ≠ "" ∧
    store.pathExists host.os.realpath (store.seccompPath.getD "") = true) _ _) store'
  split_ifs with hcached
  · exact ⟨store, rfl⟩
  · refine exists_bind_eq_endsIn ⟨store, ofExcept_apply _ store⟩ fun profile store' hprofile => ?_
    obtain rfl : store = store' := by
      rw [ofExcept_apply] at hprofile
      exact (endState_endsIn _ store).symm.trans (congrArg endState hprofile)
    refine exists_bind_eq_endsIn (saveTo_eq profile host writing _ _ store) fun _ store' _ => ?_
    exact ⟨_, rfl⟩

end Calls

/-! ## Many deployments -/

/-- What happens to the files. -/
inductive ProfileOp
  /-- A deployment asks for the path of the profile. -/
  | ensure (host : Host) (writing : Writing)
  /-- A file is changed by others: created, overwritten or deleted. -/
  | others (file : String) (content : Option (Option SeccompDict))

/-- The deployments of all sandboxes, and others. -/
def profiles : Machine ProfileStore ProfileOp (Option (Except PyErr String)) where
  step store op :=
    match op with
    | .ensure host writing =>
      match ensureProfile host writing store with
      | .ok path store => (store, some (.ok path))
      | .error err store => (store, some (.error err))
    | .others file content => (store.put file content, none)

namespace ProfileOp

/-- The host of a deployment resolves paths in this way. -/
def Resolves (realpath : String → Except PyErr String) : ProfileOp → Prop
  | ensure host _ => host.Resolves realpath
  | others _ _ => True

/-- The profile in the file is from this operation. One that is from a deployment hardens the
    default profile of Podman there. -/
def Puts (realpath : String → Except PyErr String) (file : String) (d : SeccompDict) :
    ProfileOp → Prop
  | ensure host _ => ∃ base, host.podmanDefault = some base ∧
      realpath host.profilePath = .ok file ∧ Hardens [] base d
  | others file' content => file' = file ∧ content = some (some d)

end ProfileOp

section Runs

variable {realpath : String → Except PyErr String} {host : Host} {writing : Writing}
  {store store' : ProfileStore} {op : ProfileOp} {ops : List ProfileOp} {file path : String}
  {d : SeccompDict}

theorem step_of_ok (h : ensureProfile host writing store = .ok path store') :
    profiles.step store (.ensure host writing) = (store', some (.ok path)) := by
  rw [profiles]
  dsimp only
  rw [h]

theorem step_of_error {err : PyErr} (h : ensureProfile host writing store = .error err store') :
    profiles.step store (.ensure host writing) = (store', some (.error err)) := by
  rw [profiles]
  dsimp only
  rw [h]

/-- A profile that is in a file after an operation has been there before, or is from it. -/
theorem puts_of_step (hop : op.Resolves realpath)
    (h : (profiles.step store op).1.files file = some (some d)) :
    store.files file = some (some d) ∨ op.Puts realpath file d := by
  have hput {file' : String} {content : Option (Option SeccompDict)}
      (h : (store.put file' content).files file = some (some d)) :
      store.files file = some (some d) ∨ file' = file ∧ content = some (some d) := by
    by_cases hfile : file = file'
    · rw [hfile, ProfileStore.files_put_self] at h
      exact .inr ⟨hfile.symm, h⟩
    · rw [ProfileStore.files_put_of_ne hfile] at h
      exact .inl h
  rcases op with ⟨host, writing⟩ | ⟨file', content⟩
  · have hensured := ensured hop writing store
    generalize hr : ensureProfile host writing store = r at hensured
    rcases hensured with ⟨_, _, _⟩ | ⟨hbase, hfile, hhardens⟩ | err | ⟨err, file'⟩
    · rw [step_of_ok hr] at h
      exact .inl h
    · rw [step_of_ok hr] at h
      refine (hput h).imp_right ?_
      rintro ⟨rfl, hd⟩
      rw [hop.realpath] at hfile
      obtain rfl := Option.some.inj (Option.some.inj hd)
      exact ⟨_, hbase, hfile, hhardens⟩
    · rw [step_of_error hr] at h
      exact .inl h
    · rw [step_of_error hr] at h
      exact (hput h).imp_right fun hd => absurd hd.2 (by simp)
  · exact hput h

/-- A path that is returned is cached, and there is a file. -/
structure Cached (realpath : String → Except PyErr String) (path file : String)
    (store : ProfileStore) : Prop where
  seccompPath : store.seccompPath = some path
  ne : path ≠ ""
  realpath : realpath path = .ok file
  exists_file : (store.files file).isSome = true

theorem exists_cached_of_ok (hhost : host.Resolves realpath)
    (h : ensureProfile host writing store = .ok path store') :
    ∃ file, Cached realpath path file store' := by
  have hensured := ensured hhost writing store
  rw [h] at hensured
  rcases hensured with ⟨hpath, hne, hexists⟩ | ⟨_, hfile, _⟩
  · rw [ProfileStore.pathExists, hhost.realpath] at hexists
    cases hfile : realpath path with
    | error err =>
      rw [hfile] at hexists
      cases hexists
    | ok file =>
      rw [hfile] at hexists
      exact ⟨file, hpath, hne, hfile, hexists⟩
  · rw [hhost.realpath] at hfile
    have hne : host.profilePath ≠ "" := by
      intro hempty
      have hslash := hhost.profilePath
      rw [hempty] at hslash
      exact absurd hslash (by decide)
    exact ⟨_, rfl, hne, hfile, by simp⟩

/-- Then calls return the path, and change nothing. -/
theorem Cached.ensureProfile_eq_ok (h : Cached realpath path file store)
    (hhost : host.Resolves realpath) (writing : Writing) :
    ensureProfile host writing store = .ok path store := by
  have hcached : store.seccompPath.getD "" = path := by rw [h.seccompPath, Option.getD_some]
  rw [ensureProfile_eq_ite, hcached, if_pos]
  refine ⟨h.ne, ?_⟩
  rw [ProfileStore.pathExists, hhost.realpath, h.realpath]
  exact h.exists_file

/-- Only who deletes the file can change this. -/
theorem Cached.step (h : Cached realpath path file store) (hop : op.Resolves realpath)
    (hkept : op ≠ .others file none) : Cached realpath path file (profiles.step store op).1 := by
  rcases op with ⟨host, writing⟩ | ⟨file', content⟩
  · rw [step_of_ok (h.ensureProfile_eq_ok hop writing)]
    exact h
  · refine ⟨h.seccompPath, h.ne, h.realpath, ?_⟩
    change ((store.put file' content).files file).isSome = true
    by_cases hfile : file = file'
    · rw [hfile, ProfileStore.files_put_self, Option.isSome_iff_ne_none]
      rintro rfl
      exact hkept (by rw [hfile])
    · rw [ProfileStore.files_put_of_ne hfile]
      exact h.exists_file

/-- In the run, a deployment has saved the profile at the path: what can be read there next is its
    profile. -/
def SavedAt (realpath : String → Except PyErr String) (store : ProfileStore)
    (ops : List ProfileOp) (path : String) : Prop :=
  ∃ file xs op ys, realpath path = .ok file ∧ ops = xs ++ op :: ys ∧
    ∀ d, (profiles.run store (xs ++ [op])).files file = some (some d) → op.Puts realpath file d

/-- The profile in the file is from one of the operations, and has been there since. -/
def IsFrom (realpath : String → Except PyErr String) (store : ProfileStore)
    (ops : List ProfileOp) (file : String) (d : SeccompDict) : Prop :=
  ∃ xs op ys, ops = xs ++ op :: ys ∧ op.Puts realpath file d ∧
    ∀ zs, zs <+: ys → (profiles.run store (xs ++ op :: zs)).files file = some (some d)

/-- A path that is cached after an operation has been cached before, or the profile is saved
    there. -/
theorem savedAt_of_step (hop : op.Resolves realpath)
    (h : (profiles.step store op).1.seccompPath = some path) :
    store.seccompPath = some path ∨ ∃ file, realpath path = .ok file ∧
      ∀ d, (profiles.step store op).1.files file = some (some d) → op.Puts realpath file d := by
  rcases op with ⟨host, writing⟩ | ⟨file, content⟩
  · have hensured := ensured hop writing store
    generalize hr : ensureProfile host writing store = r at hensured
    rcases hensured with ⟨_, _, _⟩ | ⟨hbase, hfile, hhardens⟩ | err | ⟨err, file⟩
    · rw [step_of_ok hr] at h
      exact .inl h
    · rw [step_of_ok hr] at h ⊢
      obtain rfl : host.profilePath = path := Option.some.inj h
      rw [hop.realpath] at hfile
      refine .inr ⟨_, hfile, fun d hd => ⟨_, hbase, hfile, ?_⟩⟩
      dsimp only at hd
      rw [ProfileStore.files_put_self] at hd
      obtain rfl := Option.some.inj (Option.some.inj hd)
      exact hhardens
    · rw [step_of_error hr] at h
      exact .inl h
    · rw [step_of_error hr] at h
      exact .inl h
  · exact .inl h

/-- The cached path is one where a deployment has saved the profile. -/
theorem savedAt_of_run {files : String → Option (Option SeccompDict)}
    (hops : ∀ op ∈ ops, op.Resolves realpath)
    (h : (profiles.run ⟨none, files⟩ ops).seccompPath = some path) :
    SavedAt realpath ⟨none, files⟩ ops path := by
  induction ops using List.reverseRecOn with
  | nil => cases h
  | append_singleton ops op ih =>
    rw [Machine.run_concat] at h
    obtain h | ⟨file, hfile, hputs⟩ := savedAt_of_step (hops op (by simp)) h
    · obtain ⟨file, xs, op', ys, hfile, rfl, hputs⟩ :=
        ih (fun op hop => hops op (List.mem_append_left _ hop)) h
      exact ⟨file, xs, op', ys ++ [op], hfile, by simp, hputs⟩
    · rw [← Machine.run_concat] at hputs
      exact ⟨file, ops, op, [], hfile, rfl, hputs⟩

/-- Once the profile has been saved at a path, it is known where one comes from that is read
    there. -/
theorem SavedAt.isFrom (h : SavedAt realpath store ops path)
    (hops : ∀ op ∈ ops, op.Resolves realpath) : ∃ file, realpath path = .ok file ∧
      ∀ d, (profiles.run store ops).files file = some (some d) →
        IsFrom realpath store ops file d := by
  obtain ⟨file, xs, op, ys, hfile, rfl, hputs⟩ := h
  have hrun (zs : List ProfileOp) : profiles.run store (xs ++ op :: zs) =
      profiles.run (profiles.run store (xs ++ [op])) zs := by
    rw [← Machine.run_append, List.append_assoc, List.singleton_append]
  refine ⟨file, hfile, fun d hd => ?_⟩
  rw [hrun] at hd
  have hstep : ∀ t, ∀ op' ∈ ys, (profiles.step t op').1.files file = some (some d) →
      t.files file = some (some d) ∨ op'.Puts realpath file d := fun t op' hop' =>
    puts_of_step (hops op' (List.mem_append_right _ (List.mem_cons_of_mem _ hop')))
  -- The profile has been there since it has been saved, or since a later operation.
  obtain hall | ⟨zs, op', ws, rfl, hop', hsince⟩ :=
    Machine.since_of_run (P := fun t : ProfileStore => t.files file = some (some d)) hstep hd
  · refine ⟨xs, op, ys, rfl, hputs d (hall [] List.nil_prefix), fun zs hzs => ?_⟩
    rw [hrun]
    exact hall zs hzs
  · refine ⟨xs ++ op :: zs, op', ws, by simp, hop', fun vs hvs => ?_⟩
    rw [List.append_assoc, List.cons_append, hrun]
    exact hsince vs hvs

end Runs

/-! ## Containers -/

namespace VibeShieldSandbox

/-- A container is started with the profile at the path that has been asked for. -/
theorem exists_ensureSeccompProfile_of_launch {host : Host} {sb : VibeShieldSandbox}
    {a : DeployArgs} {s s' : SandboxStatus} {started : Launch}
    (h : sb.launch host a s = .ok started s') :
    ∃ path, ensureSeccompProfile host = .ok path ∧
      ["--security-opt", s!"seccomp={path}"] <:+: started.command := by
  suffices hall : Ensures (sb.launch host a) fun started =>
      ∃ path, ensureSeccompProfile host = .ok path ∧
        ["--security-opt", s!"seccomp={path}"] <:+: started.command from hall s started s' h
  rw [launch, launchAudited]
  -- Nothing needs to be known of the gates.
  refine Ensures.any.bind fun _ _ => Ensures.any.bind fun _ _ => Ensures.any.bind fun _ _ => ?_
  refine Ensures.any.bind fun _ _ => Ensures.any.bind fun _ _ => Ensures.any.bind fun _ _ => ?_
  refine (Ensures.ofExcept fun command hcommand => hcommand).bind fun command hcommand => ?_
  refine Ensures.any.bind fun _ _ => .ofExcept fun started hstarted => ?_
  obtain ⟨_, _, path, hpath, rfl⟩ := runCommand_eq_ok_iff.1 hcommand
  rw [startProcess] at hstarted
  split_ifs at hstarted with hnul
  obtain rfl := Except.ok.inj hstarted
  refine ⟨path, hpath, ?_⟩
  have hoptions : ["--security-opt", s!"seccomp={path}"] <:+: sb.runOptions path :=
    ⟨(sb.runOptions path).take 11, (sb.runOptions path).drop 13, rfl⟩
  refine hoptions.trans ?_
  simp only [List.append_assoc]
  exact (List.prefix_append _ _).isInfix

end VibeShieldSandbox

section Containers

variable {realpath : String → Except PyErr String} {host : Host} {writing : Writing}

/-- Once the profile has been saved, all deployments share it until others delete the file: they
    get the same path, whatever they find, and change nothing. Paths resolve in the same way all
    the time, and the directory for temporary files is absolute. -/
theorem profile_shared {store store' : ProfileStore} {path file : String}
    (hhost : host.Resolves realpath) (h : ensureProfile host writing store = .ok path store')
    (hfile : realpath path = .ok file) {ops : List ProfileOp}
    (hops : ∀ op ∈ ops, op.Resolves realpath) (hkept : .others file none ∉ ops)
    {before : List ProfileOp} {host' : Host} {writing' : Writing}
    (hbefore : before ++ [.ensure host' writing'] <+: ops) :
    let found := profiles.run store' before
    ensureProfile host' writing' found = .ok path found := by
  obtain ⟨rest, rfl⟩ := hbefore
  obtain ⟨file', hcached⟩ := exists_cached_of_ok hhost h
  obtain rfl : file' = file := Except.ok.inj (hcached.realpath.symm.trans hfile)
  have hrun : Cached realpath path file' (profiles.run store' before) := by
    refine Machine.invariant (G := fun _ op => op.Resolves realpath ∧ op ≠ .others file' none)
      hcached (fun t op hop ht => ht.step hop.1 hop.2) before fun ev hev => ?_
    have hmem := Machine.input_mem_of_mem_events hev
    exact ⟨hops _ (by simp [hmem]), fun hothers => hkept (by simp [← hothers, hmem])⟩
  exact hrun.ensureProfile_eq_ok (hops (.ensure host' writing') (by simp)) writing'

/-- Whatever deployments and others do in any order, a container is started with a profile at a
    path where there is a file. Whatever can be read there, then or later, hardens the default
    profile of Podman that some deployment has found, or others have written it, and it has been
    there since. Paths resolve in the same way all the time, and the directory for temporary files
    is absolute. -/
theorem profiles_hardened {ops : List ProfileOp} (hops : ∀ op ∈ ops, op.Resolves realpath)
    (files : String → Option (Option SeccompDict)) {before : List ProfileOp}
    (hbefore : before ++ [.ensure host writing] <+: ops) {sb : VibeShieldSandbox} {a : DeployArgs}
    {s s' : SandboxStatus} {started : Launch}
    (h : sb.launch (host.within writing (profiles.run ⟨none, files⟩ before)) a s =
      .ok started s') :
    ∃ path file, ["--security-opt", s!"seccomp={path}"] <:+: started.command ∧
      realpath path = .ok file ∧
      ((profiles.run ⟨none, files⟩ (before ++ [.ensure host writing])).files file).isSome = true ∧
      ∀ d, (profiles.run ⟨none, files⟩ ops).files file = some (some d) →
        IsFrom realpath ⟨none, files⟩ ops file d := by
  obtain ⟨rest, rfl⟩ := hbefore
  obtain ⟨path, hpath, hcommand⟩ := VibeShieldSandbox.exists_ensureSeccompProfile_of_launch h
  obtain ⟨store', hensure⟩ := ensureProfile_eq host writing (profiles.run ⟨none, files⟩ before)
  rw [hpath] at hensure
  obtain ⟨file, hcached⟩ := exists_cached_of_ok (hops (.ensure host writing) (by simp)) hensure
  have hstep : profiles.run ⟨none, files⟩ (before ++ [.ensure host writing]) = store' := by
    rw [Machine.run_concat, step_of_ok hensure]
  have hsaved := savedAt_of_run (fun op hop => hops op (List.mem_append_left _ hop))
    (hstep ▸ hcached.seccompPath)
  obtain ⟨file', xs, op, ys, hfile', hsplit, hputs⟩ := hsaved
  have hsaved' : SavedAt realpath ⟨none, files⟩ (before ++ [.ensure host writing] ++ rest) path :=
    ⟨file', xs, op, ys ++ rest, hfile', by rw [hsplit]; simp, hputs⟩
  obtain ⟨file'', hfile'', hfrom⟩ := hsaved'.isFrom hops
  obtain rfl : file = file'' := Except.ok.inj (hcached.realpath.symm.trans hfile'')
  exact ⟨path, file, hcommand, hfile'', hstep ▸ hcached.exists_file, hfrom⟩

end Containers

namespace Sample

/-- A host where Podman is installed. -/
def podmanHost : Host := { deployHost with podmanDefault := some (allowing "mount") }

theorem podmanHost_resolves : podmanHost.Resolves .ok := ⟨rfl, by decide⟩

/-- Nothing has been saved yet. -/
def noProfile : ProfileStore := ⟨none, fun _ => none⟩

/-- A file that is spoiled is used nevertheless. -/
theorem spoiled_shared :
    ∃ store, ensureProfile podmanHost .written noProfile = .ok podmanHost.profilePath store ∧
      let found := profiles.run store [.others podmanHost.profilePath (some none)]
      ensureProfile podmanHost .written found = .ok podmanHost.profilePath found := by
  have hpath : VibeShieldSandbox.ensureSeccompProfile (podmanHost.within .written noProfile) =
      .ok podmanHost.profilePath := by decide +kernel
  obtain ⟨store, hsaved⟩ := ensureProfile_eq podmanHost .written noProfile
  rw [hpath] at hsaved
  refine ⟨store, hsaved, ?_⟩
  have hops : ∀ op ∈ [ProfileOp.others podmanHost.profilePath (some none),
      .ensure podmanHost .written], op.Resolves .ok := by
    simp [ProfileOp.Resolves, podmanHost_resolves]
  exact profile_shared podmanHost_resolves hsaved rfl hops (by simp) (List.prefix_refl _)

/-- The profile of the first container. -/
theorem container_hardened : ∃ file,
    ((profiles.run noProfile [.ensure podmanHost .written]).files file).isSome = true ∧
      ∀ d, (profiles.run noProfile [.ensure podmanHost .written]).files file = some (some d) →
        IsFrom .ok noProfile [.ensure podmanHost .written] file d := by
  have hok : (match podmanSandbox.launch (podmanHost.within .written (profiles.run noProfile []))
      (deployArgs "MODE" "test") VibeShieldSandbox.newStatus with
    | .ok _ _ => true
    | .error _ _ => false) = true := by decide +kernel
  rcases h : podmanSandbox.launch (podmanHost.within .written (profiles.run noProfile []))
    (deployArgs "MODE" "test") VibeShieldSandbox.newStatus with ⟨started, s⟩ | ⟨err, s⟩
  · have hops : ∀ op ∈ [ProfileOp.ensure podmanHost .written], op.Resolves .ok := by
      simp [ProfileOp.Resolves, podmanHost_resolves]
    have hbefore : [] ++ [ProfileOp.ensure podmanHost .written] <+:
      [ProfileOp.ensure podmanHost .written] := List.prefix_refl _
    obtain ⟨path, file, _, _, hexists, hfrom⟩ := profiles_hardened hops (fun _ => none) hbefore h
    exact ⟨file, hexists, hfrom⟩
  · rw [h] at hok
    cases hok

end Sample

end VibeShield
