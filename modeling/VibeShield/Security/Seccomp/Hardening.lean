import VibeShield.Lib.Machine
import VibeShield.Security.Seccomp.Precedence

/-!
# What a hardened profile decides

Hardening a base profile should only restrict it (`Hardens`): a syscall of `HARDEN_KILL_SYSCALLS`,
or one whose last block kills, is killed; one whose last block has an error number gets this; the
first rule for any other one is that of the base profile.

`to_dict` may be called again and again, so it must not change the base profile that it hardens,
whose list of rules is an object in memory. It copies this object (`SeccompObject.deepcopy`) and
inserts rules into the copy (`SeccompProfile.toDictObject`). So at the end of every run, the base
profile still reads as it was loaded, and each dictionary that was returned as it was when it was
returned (`hardening_restricts`).
-/

namespace VibeShield

/-- The first rule that names the syscall. -/
def SeccompDict.firstRule (d : SeccompDict) (x : String) : Option SeccompRule :=
  d.syscalls.find? fun rule => x ∈ rule.names

/-- Whether a syscall is to be killed. -/
def Kills (ops : List SeccompOp) (x : String) : Prop :=
  x ∈ hardenKillSyscalls ∨ ∃ errno, lastBlock ops x = some (errno, "SCMP_ACT_KILL")

/-- A profile restricts a base profile as the operations say. -/
structure Hardens (ops : List SeccompOp) (base d : SeccompDict) : Prop where
  kill : ∀ x, Kills ops x →
    ∃ rule, d.firstRule x = some rule ∧ rule.action = "SCMP_ACT_KILL"
  errno : ∀ x, ¬Kills ops x → ∀ errno, lastBlock ops x = some (errno, "SCMP_ACT_ERRNO") →
    ∃ rule, d.firstRule x = some rule ∧ rule.action = "SCMP_ACT_ERRNO" ∧
      rule.errnoRet = some errno
  keep : ∀ x, ¬Kills ops x → (∀ errno, lastBlock ops x ≠ some (errno, "SCMP_ACT_ERRNO")) →
    d.firstRule x = base.firstRule x
  default : d.defaultAction = base.defaultAction

namespace SeccompProfile

variable {p : SeccompProfile} {ops : List SeccompOp} {base : SeccompDict} {x : String}

/-- The syscalls to kill are the specified ones. -/
theorem mem_killNames_build (hp : p.blockedSpecific = PyDict.empty) :
    x ∈ (p.build ops).killNames ↔ Kills ops x := by
  rw [mem_killNames, get?_build p hp, Kills]
  refine or_congr_right ?_
  simp only [Option.map_eq_some_iff]
  constructor
  · rintro ⟨_, ⟨⟨errno, action⟩, hlast, rfl⟩, rfl⟩
    exact ⟨errno, hlast⟩
  · rintro ⟨errno, hlast⟩
    exact ⟨_, ⟨_, hlast, rfl⟩, rfl⟩

/-- There are rules for those whose last block has an error number, with this number. -/
theorem mem_errnoRules_build (hp : p.blockedSpecific = PyDict.empty) {r : SeccompRule}
    (hr : r ∈ (p.build ops).errnoRules) (hx : x ∈ r.names) :
    ∃ errno, lastBlock ops x = some (errno, "SCMP_ACT_ERRNO") ∧ r.errnoRet = some errno := by
  rw [errnoRules, List.mem_map] at hr
  obtain ⟨⟨y, rule⟩, hitem, rfl⟩ := hr
  obtain rfl := List.mem_singleton.1 hx
  obtain ⟨hitem, haction⟩ := List.mem_filter.1 hitem
  replace haction : rule.action = "SCMP_ACT_ERRNO" := of_decide_eq_true haction
  rw [PyDict.mem_items_iff, get?_build p hp, Option.map_eq_some_iff] at hitem
  obtain ⟨⟨errno, action⟩, hlast, rfl⟩ := hitem
  obtain rfl : action = "SCMP_ACT_ERRNO" := haction
  exact ⟨errno, hlast, rfl⟩

theorem exists_errnoRules_build (hp : p.blockedSpecific = PyDict.empty) {errno : ℤ}
    (hlast : lastBlock ops x = some (errno, "SCMP_ACT_ERRNO")) :
    ∃ r ∈ (p.build ops).errnoRules, x ∈ r.names := by
  rw [names_errnoRules, get?_build p hp, hlast]
  exact ⟨_, rfl, rfl⟩

/-- The hardened profile restricts the base profile. -/
theorem toDictHarden_hardens (hp : p.blockedSpecific = PyDict.empty) (ops : List SeccompOp)
    (base : SeccompDict) : Hardens ops base ((p.build ops).toDictHarden base) := by
  obtain ⟨killRule, hnames, hkill, hsyscalls⟩ := (p.build ops).syscalls_toDictHarden base
  have hkills (x : String) : x ∈ killRule.names ↔ Kills ops x :=
    (hnames x).trans (mem_killNames_build hp)
  have hskip {x : String} (hx : ¬Kills ops x) :
      ((p.build ops).toDictHarden base).firstRule x =
        ((p.build ops).errnoRules.reverse ++ base.syscalls).find? fun rule => x ∈ rule.names := by
    rw [SeccompDict.firstRule, hsyscalls, find?_append_of_not_names]
    intro r hr
    rw [List.mem_singleton.1 hr, hkills]
    exact hx
  constructor
  case kill =>
    intro x hx
    have hnamed : ∃ r ∈ [killRule], x ∈ r.names :=
      ⟨killRule, List.mem_singleton_self _, (hkills x).2 hx⟩
    obtain ⟨rule, hrule, _, hfind⟩ :=
      exists_find?_append_of_names hnamed ((p.build ops).errnoRules.reverse ++ base.syscalls)
    obtain rfl := List.mem_singleton.1 hrule
    refine ⟨rule, ?_, hkill⟩
    rw [SeccompDict.firstRule, hsyscalls]
    exact hfind
  case errno =>
    intro x hx errno hlast
    obtain ⟨r, hr, hxr⟩ := exists_errnoRules_build hp hlast
    obtain ⟨rule, hrule, hxrule, hfind⟩ := exists_find?_append_of_names
      ⟨r, List.mem_reverse.2 hr, hxr⟩ base.syscalls
    obtain ⟨errno', hlast', herrno⟩ := mem_errnoRules_build hp (List.mem_reverse.1 hrule) hxrule
    obtain ⟨rfl, _⟩ := Prod.mk.inj (Option.some.inj (hlast.symm.trans hlast'))
    exact ⟨rule, (hskip hx).trans hfind, action_errnoRules (List.mem_reverse.1 hrule), herrno⟩
  case keep =>
    intro x hx hlast
    rw [hskip hx, find?_append_of_not_names, SeccompDict.firstRule]
    intro r hr hxr
    obtain ⟨errno, h, _⟩ := mem_errnoRules_build hp (List.mem_reverse.1 hr) hxr
    exact hlast errno h
  case default => rfl

end SeccompProfile

/-! ## In memory -/

/-- A profile in memory: it refers to its list of rules by the address of it. -/
structure SeccompObject where
  defaultAction : String
  syscalls : ℕ
  other : List (String × PyVal)

/-- The lists of rules in memory, by their addresses. -/
abbrev RuleLists : Type := List (List SeccompRule)

namespace SeccompObject

/-- What a profile in memory holds. -/
def read (o : SeccompObject) (mem : RuleLists) : SeccompDict :=
  ⟨o.defaultAction, mem.getD o.syscalls [], o.other⟩

/-- `copy.deepcopy(profile)`: with a list of its own. -/
def deepcopy (o : SeccompObject) (mem : RuleLists) : SeccompObject × RuleLists :=
  ({ o with syscalls := mem.length }, mem ++ [mem.getD o.syscalls []])

/-- `profile["syscalls"].insert(index, rule)`. -/
def insert (o : SeccompObject) (mem : RuleLists) (index : ℕ) (rule : SeccompRule) : RuleLists :=
  mem.modify o.syscalls fun syscalls => syscalls.insertIdx index rule

/-- Inserting into the list that was allocated last leaves the others as they are. -/
theorem insert_concat {o : SeccompObject} {mem : RuleLists} (h : o.syscalls = mem.length)
    (syscalls : List SeccompRule) (index : ℕ) (rule : SeccompRule) :
    o.insert (mem ++ [syscalls]) index rule = mem ++ [syscalls.insertIdx index rule] := by
  have hlt : mem.length < (mem ++ [syscalls]).length := by simp
  rw [insert, h, List.modify_eq_take_cons_drop hlt]
  simp

theorem foldl_insert_concat {o : SeccompObject} {mem : RuleLists} (h : o.syscalls = mem.length)
    (index : ℕ) (rules : List SeccompRule) (syscalls : List SeccompRule) :
    rules.foldl (fun mem rule => o.insert mem index rule) (mem ++ [syscalls]) =
      mem ++ [rules.foldl (fun syscalls rule => syscalls.insertIdx index rule) syscalls] := by
  induction rules generalizing syscalls with
  | nil => rfl
  | cons rule rules ih => rw [List.foldl_cons, insert_concat h, ih, List.foldl_cons]

/-- Reading a list does not depend on those that were allocated after it. -/
theorem read_of_prefix {o : SeccompObject} {mem mem' : RuleLists} (h : mem <+: mem')
    (ho : o.syscalls < mem.length) : o.read mem' = o.read mem := by
  obtain ⟨new, rfl⟩ := h
  rw [read, read, List.getD_eq_getElem?_getD, List.getElem?_append_left ho,
    List.getD_eq_getElem?_getD]

end SeccompObject

namespace SeccompProfile

/-- The rule that kills. -/
def killRule (p : SeccompProfile) : SeccompRule where
  names := sorted p.killNames
  action := "SCMP_ACT_KILL"
  comment := some "VibeShield: dangerous syscalls blocked"

/-- Hardening a base profile in memory: the rules are inserted into a copy of it. -/
def toDictObject (p : SeccompProfile) (base : SeccompObject) (mem : RuleLists) :
    SeccompObject × RuleLists :=
  let (profile, mem) := base.deepcopy mem
  (profile, p.errnoRules.foldl (fun mem rule => profile.insert mem 1 rule)
    (profile.insert mem 0 p.killRule))

/-- The hardened profile has a list of its own, and nothing else changes. -/
theorem toDictObject_eq (p : SeccompProfile) (base : SeccompObject) (mem : RuleLists) :
    p.toDictObject base mem = ({ base with syscalls := mem.length },
      mem ++ [(p.toDictHarden (base.read mem)).syscalls]) := by
  rw [toDictObject, SeccompObject.deepcopy]
  dsimp only
  rw [SeccompObject.insert_concat rfl, SeccompObject.foldl_insert_concat rfl]
  rfl

theorem read_toDictObject (p : SeccompProfile) (base : SeccompObject) (mem : RuleLists) :
    (p.toDictObject base mem).1.read (p.toDictObject base mem).2 =
      p.toDictHarden (base.read mem) := by
  simp only [toDictObject_eq, SeccompObject.read, List.getD_eq_getElem?_getD,
    List.getElem?_concat_length]
  rfl

end SeccompProfile

/-- A call of a method of a profile: one that builds it up, or `to_dict`. -/
inductive SeccompCall
  | apply (op : SeccompOp)
  | toDict

/-- The operations among the calls. -/
def SeccompCall.ops (calls : List SeccompCall) : List SeccompOp :=
  calls.filterMap fun call =>
    match call with
    | .apply op => some op
    | .toDict => none

/-- A profile that hardens `base`, and the memory. -/
def hardening (base : SeccompObject) :
    Machine (SeccompProfile × RuleLists) SeccompCall (Option SeccompObject) where
  step s call :=
    match call with
    | .apply op => ((s.1.apply op, s.2), none)
    | .toDict =>
      let (d, mem) := s.1.toDictObject base s.2
      ((s.1, mem), some d)

/-- Every call leaves the lists in memory as they are. -/
theorem prefix_hardening_step (base : SeccompObject) (s : SeccompProfile × RuleLists)
    (call : SeccompCall) : s.2 <+: ((hardening base).step s call).1.2 := by
  cases call with
  | apply op => exact List.prefix_refl _
  | toDict =>
    change s.2 <+: (s.1.toDictObject base s.2).2
    rw [SeccompProfile.toDictObject_eq]
    exact List.prefix_append _ _

theorem prefix_hardening_run (base : SeccompObject) (s : SeccompProfile × RuleLists)
    (calls : List SeccompCall) : s.2 <+: ((hardening base).run s calls).2 := by
  induction calls generalizing s with
  | nil => exact List.prefix_refl _
  | cons call calls ih => exact (prefix_hardening_step base s call).trans (ih _)

/-- A run builds the profile up by the operations among the calls. -/
theorem profile_hardening_run (base : SeccompObject) (s : SeccompProfile × RuleLists)
    (calls : List SeccompCall) :
    ((hardening base).run s calls).1 = s.1.build (SeccompCall.ops calls) := by
  induction calls generalizing s with
  | nil => rfl
  | cons call calls ih =>
    cases call with
    | apply op => exact ih _
    | toDict => exact ih _

/-- However a profile that hardens Podman's default one is used, this still reads as it was
    loaded, and what `to_dict` returned still reads as the profile that the operations before the
    call define, which restricts it. -/
theorem hardening_restricts {data : SeccompDict} {p : SeccompProfile}
    (hp : SeccompProfile.fromPodmanDefault (some data) = .ok p) {base : SeccompObject}
    {mem : RuleLists} (hmem : base.syscalls < mem.length) (hbase : base.read mem = data)
    (calls : List SeccompCall) (order : List String) :
    let after := fun calls => (hardening base).run (p, mem) calls
    base.read (after calls).2 = data ∧
      ∀ before, before ++ [.toDict] <+: calls →
        ∃ d, ((hardening base).step (after before) .toDict).2 = some d ∧
          d.read (after calls).2 = (p.build (SeccompCall.ops before)).toDict order ∧
          Hardens (SeccompCall.ops before) data (d.read (after calls).2) := by
  intro after
  obtain ⟨hempty, hdata⟩ := SeccompProfile.fromPodmanDefault_eq hp
  have hread (calls : List SeccompCall) : base.read (after calls).2 = data := by
    rw [SeccompObject.read_of_prefix (prefix_hardening_run base (p, mem) calls) hmem, hbase]
  refine ⟨hread calls, fun before hbefore =>
    ⟨((after before).1.toDictObject base (after before).2).1, rfl, ?_⟩⟩
  obtain ⟨rest, rfl⟩ := hbefore
  -- The list of rules that is returned stays as it is in the calls that follow.
  have hcall : (after (before ++ [.toDict])).2 =
      ((after before).1.toDictObject base (after before).2).2 :=
    congrArg Prod.snd (Machine.run_concat (p, mem) before .toDict)
  have hrest : (after (before ++ [.toDict])).2 <+: (after (before ++ [.toDict] ++ rest)).2 := by
    have h := prefix_hardening_run base (after (before ++ [.toDict])) rest
    rwa [← Machine.run_append] at h
  rw [hcall] at hrest
  have hreturned : ((after before).1.toDictObject base (after before).2).1.read
      (after (before ++ [.toDict] ++ rest)).2 =
        (p.build (SeccompCall.ops before)).toDictHarden data := by
    rw [SeccompObject.read_of_prefix hrest, SeccompProfile.read_toDictObject, hread,
      profile_hardening_run]
    rw [SeccompProfile.toDictObject_eq, List.length_append]
    exact Nat.lt_succ_self _
  have hstored : (p.build (SeccompCall.ops before)).toDict order =
      (p.build (SeccompCall.ops before)).toDictHarden data := by
    rw [SeccompProfile.toDict, SeccompProfile.baseProfile_build, hdata]
  rw [hreturned, hstored]
  exact ⟨rfl, SeccompProfile.toDictHarden_hardens hempty _ data⟩

namespace Sample

/-- The base profile allows `mount` and `read`; the calls make `read` fail. -/
def readFails : List SeccompCall :=
  [.apply (.blockSyscall "read" 5 "SCMP_ACT_ERRNO"), .toDict, .toDict]

theorem read_not_killed :
    ¬Kills (SeccompCall.ops [.apply (.blockSyscall "read" 5 "SCMP_ACT_ERRNO")]) "read" := by
  rintro (h | ⟨errno, h⟩)
  · revert h
    decide +kernel
  · have hlast := (Option.some.inj h : ((5 : ℤ), "SCMP_ACT_ERRNO") = (errno, "SCMP_ACT_KILL"))
    exact absurd (Prod.mk.inj hlast).2 (by decide)

theorem read_fails :
    let base : SeccompObject := ⟨"SCMP_ACT_ERRNO", 0, []⟩
    let after := (hardening base).run (hardened "mount", [(allowing "mount").syscalls]) readFails
    base.read after.2 = allowing "mount" ∧ ∃ d : SeccompObject, ∃ rule,
      (d.read after.2).firstRule "read" = some rule ∧ rule.action = "SCMP_ACT_ERRNO" ∧
        rule.errnoRet = some 5 := by
  have hloaded : (⟨"SCMP_ACT_ERRNO", 0, []⟩ : SeccompObject).read [(allowing "mount").syscalls] =
      allowing "mount" := rfl
  obtain ⟨hbase, hreturned⟩ := hardening_restricts
    (show SeccompProfile.fromPodmanDefault (some (allowing "mount")) = .ok _ from rfl)
    Nat.zero_lt_one hloaded readFails blocklistSyscalls
  obtain ⟨d, _, _, hhardens⟩ :=
    hreturned [.apply (.blockSyscall "read" 5 "SCMP_ACT_ERRNO")] ⟨[.toDict], rfl⟩
  exact ⟨hbase, d, hhardens.errno "read" read_not_killed 5 rfl⟩

end Sample

end VibeShield
