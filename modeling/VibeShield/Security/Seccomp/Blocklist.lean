import VibeShield.Security.Seccomp.Model

/-!
# The blocklist in the two modes

No profile should let a syscall of `BLOCKLIST_SYSCALLS` through. A profile from
scratch does not, as its first rules kill these (`effectiveAction_defaultDeny`).
A hardened one kills `HARDEN_KILL_SYSCALLS` instead, which is not a superset: any
other syscall that is not blocked explicitly keeps its action of the base profile
(`effectiveAction_harden_of_not_blocked`). `blocklist_blocked_iff` says what this
comes to.
-/

namespace VibeShield

/-! ## The first rule for a syscall -/

/-- Rules that name the syscall decide. -/
theorem exists_find?_append_of_names {rs : List SeccompRule} {x : String}
    (hx : ∃ r ∈ rs, x ∈ r.names) (ts : List SeccompRule) :
    ∃ rule ∈ rs, x ∈ rule.names ∧
      (rs ++ ts).find? (fun rule => x ∈ rule.names) = some rule := by
  obtain ⟨r, hr, hxr⟩ := hx
  obtain ⟨q, hq⟩ := Option.isSome_iff_exists.1
    (List.find?_isSome (p := fun r : SeccompRule => decide (x ∈ r.names)) |>.2
      ⟨r, hr, decide_eq_true hxr⟩)
  refine ⟨q, List.mem_of_find?_eq_some hq, ?_, ?_⟩
  · exact of_decide_eq_true (List.find?_some (p := fun r : SeccompRule => decide (x ∈ r.names)) hq)
  · rw [List.find?_append, hq, Option.some_or]

/-- Rules that do not name the syscall are passed over. -/
theorem find?_append_of_not_names {rs : List SeccompRule} {x : String}
    (hx : ∀ r ∈ rs, x ∉ r.names) (ts : List SeccompRule) :
    (rs ++ ts).find? (fun rule => x ∈ rule.names) = ts.find? fun rule => x ∈ rule.names := by
  rw [List.find?_append, List.find?_eq_none.2 fun r hr => by simp [hx r hr], Option.none_or]

/-- If rules that name the syscall all have the same action, this is it. -/
theorem firstAction_append_of_names {rs : List SeccompRule} {x a : String}
    (hx : ∃ r ∈ rs, x ∈ r.names) (ha : ∀ r ∈ rs, x ∈ r.names → r.action = a)
    (ts : List SeccompRule) (d : String) : firstAction (rs ++ ts) d x = a := by
  obtain ⟨rule, hrule, hx, hfind⟩ := exists_find?_append_of_names hx ts
  rw [firstAction, hfind]
  exact ha rule hrule hx

theorem firstAction_append_of_not_names {rs : List SeccompRule} {x : String}
    (hx : ∀ r ∈ rs, x ∉ r.names) (ts : List SeccompRule) (d : String) :
    firstAction (rs ++ ts) d x = firstAction ts d x := by
  rw [firstAction, find?_append_of_not_names hx, firstAction]

/-! ## Building -/

/-- The operations block the syscall. -/
def Blocks (ops : List SeccompOp) (x : String) : Prop :=
  ∃ errno action, .blockSyscall x errno action ∈ ops

/-- Syscalls are blocked by killing or by an error number. -/
def SeccompOp.BlocksByKillOrErrno : SeccompOp → Prop
  | blockSyscall _ _ action => action = "SCMP_ACT_KILL" ∨ action = "SCMP_ACT_ERRNO"
  | _ => True

namespace SeccompProfile

/-- Adding to the allowlist changes nothing else. -/
theorem addSyscalls_eq (p : SeccompProfile) (syscalls : List String) :
    ∃ allowed, p.addSyscalls syscalls = { p with allowedSyscalls := allowed } := by
  rw [addSyscalls]
  induction syscalls generalizing p with
  | nil => exact ⟨p.allowedSyscalls, rfl⟩
  | cons x xs ih =>
    rw [List.foldl_cons]
    split
    · exact ih p
    · obtain ⟨allowed, h⟩ := ih { p with allowedSyscalls := p.allowedSyscalls.insert x }
      exact ⟨allowed, h⟩

theorem blockedSpecific_addSyscalls (p : SeccompProfile) (syscalls : List String) :
    (p.addSyscalls syscalls).blockedSpecific = p.blockedSpecific := by
  obtain ⟨allowed, h⟩ := p.addSyscalls_eq syscalls
  rw [h]

theorem baseProfile_build (p : SeccompProfile) (ops : List SeccompOp) :
    (p.build ops).baseProfile = p.baseProfile := by
  rw [build]
  induction ops generalizing p with
  | nil => rfl
  | cons op ops ih =>
    rw [List.foldl_cons, ih]
    cases op with
    | addSyscalls syscalls =>
      obtain ⟨allowed, h⟩ := p.addSyscalls_eq syscalls
      rw [SeccompProfile.apply, h]
    | allowNetwork =>
      obtain ⟨allowed, h⟩ := p.addSyscalls_eq networkSyscalls
      rw [SeccompProfile.apply, allowNetwork, h]
    | blockSyscall x errno action => rfl

/-- What is blocked explicitly is what was before and what the operations block. -/
theorem exists_get?_build (p : SeccompProfile) (ops : List SeccompOp) (x : String) :
    (∃ rule, (p.build ops).blockedSpecific.get? x = some rule) ↔
      (∃ rule, p.blockedSpecific.get? x = some rule) ∨ Blocks ops x := by
  rw [build]
  induction ops generalizing p with
  | nil => simp [Blocks]
  | cons op ops ih =>
    rw [List.foldl_cons, ih]
    cases op with
    | addSyscalls syscalls =>
      rw [SeccompProfile.apply, blockedSpecific_addSyscalls]
      simp [Blocks]
    | allowNetwork =>
      rw [SeccompProfile.apply, allowNetwork, blockedSpecific_addSyscalls]
      simp [Blocks]
    | blockSyscall y errno action =>
      simp only [SeccompProfile.apply, blockSyscall, PyDict.get?_set, Blocks, List.mem_cons,
        SeccompOp.blockSyscall.injEq]
      by_cases hxy : x = y
      · rw [if_pos hxy]
        exact iff_of_true (.inl ⟨_, rfl⟩) (.inr ⟨errno, action, .inl ⟨hxy, rfl, rfl⟩⟩)
      · simp [hxy]

/-- Every syscall that is blocked explicitly is killed or gets an error number. -/
def KillsOrErrno (p : SeccompProfile) : Prop :=
  ∀ x rule, p.blockedSpecific.get? x = some rule →
    rule.action = "SCMP_ACT_KILL" ∨ rule.action = "SCMP_ACT_ERRNO"

theorem KillsOrErrno.build {p : SeccompProfile} (h : p.KillsOrErrno) {ops : List SeccompOp}
    (hops : ∀ op ∈ ops, op.BlocksByKillOrErrno) : (p.build ops).KillsOrErrno := by
  rw [SeccompProfile.build]
  induction ops generalizing p with
  | nil => exact h
  | cons op ops ih =>
    refine ih ?_ fun op hop => hops op (List.mem_cons_of_mem _ hop)
    have hop := hops op List.mem_cons_self
    cases op with
    | addSyscalls syscalls =>
      rw [KillsOrErrno, SeccompProfile.apply, blockedSpecific_addSyscalls]
      exact h
    | allowNetwork =>
      rw [KillsOrErrno, SeccompProfile.apply, allowNetwork, blockedSpecific_addSyscalls]
      exact h
    | blockSyscall y errno action =>
      intro x rule hx
      rw [SeccompProfile.apply, blockSyscall, PyDict.get?_set] at hx
      split at hx
      · exact Option.some.inj hx ▸ hop
      · exact h x rule hx

/-! ## From scratch -/

/-- A profile from scratch kills the syscalls of the blocklist. -/
theorem effectiveAction_defaultDeny (p : SeccompProfile) {order : List String} {x : String}
    (hx : x ∈ order) : (p.toDictDefaultDeny order).effectiveAction x = "SCMP_ACT_KILL" := by
  rw [SeccompDict.effectiveAction, toDictDefaultDeny, defaultDenyRules, List.append_assoc]
  refine firstAction_append_of_names ⟨_, List.mem_map_of_mem hx, List.mem_singleton_self x⟩ ?_ _ _
  intro r hr _
  obtain ⟨y, _, rfl⟩ := List.mem_map.1 hr
  rfl

/-! ## Hardening -/

theorem mem_foldl_insert_kill {items : List (String × BlockRule)} {names : List String}
    {x : String} :
    x ∈ items.foldl (fun names (syscall, rule) =>
        if rule.action = "SCMP_ACT_KILL" then names.insert syscall else names) names ↔
      x ∈ names ∨ ∃ rule, (x, rule) ∈ items ∧ rule.action = "SCMP_ACT_KILL" := by
  induction items generalizing names with
  | nil => simp
  | cons item items ih =>
    obtain ⟨y, rule⟩ := item
    rw [List.foldl_cons, ih]
    simp only [List.mem_cons, Prod.mk.injEq]
    by_cases hkill : rule.action = "SCMP_ACT_KILL"
    · rw [if_pos hkill, List.mem_insert_iff]
      grind
    · rw [if_neg hkill]
      grind

/-- The syscalls to kill are the ones of the hardening list and the ones blocked
    by killing. -/
theorem mem_killNames {p : SeccompProfile} {x : String} : x ∈ p.killNames ↔
    x ∈ hardenKillSyscalls ∨
      ∃ rule, p.blockedSpecific.get? x = some rule ∧ rule.action = "SCMP_ACT_KILL" := by
  rw [killNames, mem_foldl_insert_kill]
  simp only [PyDict.mem_items_iff]

/-- The rules for error numbers are the ones of the syscalls blocked so. -/
theorem names_errnoRules {p : SeccompProfile} {x : String} :
    (∃ r ∈ p.errnoRules, x ∈ r.names) ↔
      ∃ rule, p.blockedSpecific.get? x = some rule ∧ rule.action = "SCMP_ACT_ERRNO" := by
  simp only [errnoRules, List.mem_map, List.mem_filter, decide_eq_true_eq, Prod.exists,
    ← PyDict.mem_items_iff]
  constructor
  · rintro ⟨r, ⟨y, rule, ⟨hmem, haction⟩, rfl⟩, hx⟩
    obtain rfl := List.mem_singleton.1 hx
    exact ⟨rule, hmem, haction⟩
  · rintro ⟨rule, hmem, haction⟩
    exact ⟨_, ⟨x, rule, ⟨hmem, haction⟩, rfl⟩, List.mem_singleton_self x⟩

theorem action_errnoRules {p : SeccompProfile} {r : SeccompRule} (hr : r ∈ p.errnoRules) :
    r.action = "SCMP_ACT_ERRNO" := by
  obtain ⟨_, _, rfl⟩ := List.mem_map.1 hr
  rfl

/-- Inserting rules one by one behind the first one reverses them. -/
theorem foldl_insertIdx_one {α : Type*} (x : α) (ys rs : List α) :
    rs.foldl (fun l r => l.insertIdx 1 r) (x :: ys) = x :: (rs.reverse ++ ys) := by
  induction rs generalizing ys with
  | nil => rfl
  | cons r rs ih => simp [ih]

theorem syscalls_toDictHarden (p : SeccompProfile) (base : SeccompDict) :
    ∃ killRule : SeccompRule, (∀ x, x ∈ killRule.names ↔ x ∈ p.killNames) ∧
      killRule.action = "SCMP_ACT_KILL" ∧
      (p.toDictHarden base).syscalls = [killRule] ++ (p.errnoRules.reverse ++ base.syscalls) :=
  ⟨_, fun _ => (List.perm_insertionSort _ _).mem_iff, rfl, foldl_insertIdx_one _ _ _⟩

/-- A hardened profile lets none of the syscalls through that it is to kill or to
    answer with an error number. -/
theorem effectiveAction_harden_of_blocked {p : SeccompProfile} (base : SeccompDict) {x : String}
    (hx : x ∈ p.killNames ∨ ∃ r ∈ p.errnoRules, x ∈ r.names) :
    ¬Allowing ((p.toDictHarden base).effectiveAction x) := by
  obtain ⟨killRule, hnames, hkill, hsyscalls⟩ := p.syscalls_toDictHarden base
  rw [SeccompDict.effectiveAction, hsyscalls]
  -- The kill rule comes first, then the ones for error numbers, then the base.
  by_cases hx' : x ∈ p.killNames
  · rw [firstAction_append_of_names (a := "SCMP_ACT_KILL")
      ⟨killRule, List.mem_singleton_self _, (hnames x).2 hx'⟩ (by simp [hkill])]
    decide
  · rw [firstAction_append_of_not_names (by simpa [hnames] using hx')]
    obtain ⟨r, hr, hxr⟩ := hx.resolve_left hx'
    rw [firstAction_append_of_names (a := "SCMP_ACT_ERRNO") ⟨r, List.mem_reverse.2 hr, hxr⟩
      fun r hr _ => action_errnoRules (List.mem_reverse.1 hr)]
    decide

/-- Any other syscall keeps its action of the base profile. -/
theorem effectiveAction_harden_of_not_blocked {p : SeccompProfile} (base : SeccompDict)
    {x : String} (hkill : x ∉ p.killNames) (herrno : ¬∃ r ∈ p.errnoRules, x ∈ r.names) :
    (p.toDictHarden base).effectiveAction x = base.effectiveAction x := by
  obtain ⟨killRule, hnames, _, hsyscalls⟩ := p.syscalls_toDictHarden base
  rw [SeccompDict.effectiveAction, hsyscalls,
    firstAction_append_of_not_names (by simpa [hnames] using hkill),
    firstAction_append_of_not_names fun r hr hxr => herrno ⟨r, List.mem_reverse.1 hr, hxr⟩]
  rfl

/-- So it lets a syscall through exactly if the base profile does, the hardening
    list does not kill it, and it is not blocked explicitly. -/
theorem allowing_harden_iff {p : SeccompProfile} (hp : p.KillsOrErrno) (base : SeccompDict)
    (x : String) : ¬Allowing ((p.toDictHarden base).effectiveAction x) ↔
      x ∈ hardenKillSyscalls ∨ (∃ rule, p.blockedSpecific.get? x = some rule) ∨
        ¬Allowing (base.effectiveAction x) := by
  by_cases hx : x ∈ p.killNames ∨ ∃ r ∈ p.errnoRules, x ∈ r.names
  · refine iff_of_true (effectiveAction_harden_of_blocked base hx) ?_
    rw [mem_killNames, names_errnoRules] at hx
    rcases hx with (hx | ⟨rule, hx, _⟩) | ⟨rule, hx, _⟩
    · exact .inl hx
    · exact .inr (.inl ⟨rule, hx⟩)
    · exact .inr (.inl ⟨rule, hx⟩)
  · obtain ⟨hkill, herrno⟩ := not_or.1 hx
    rw [effectiveAction_harden_of_not_blocked base hkill herrno]
    rw [mem_killNames, not_or] at hkill
    rw [names_errnoRules] at herrno
    refine ⟨fun h => .inr (.inr h), ?_⟩
    rintro (h | ⟨rule, h⟩ | h)
    · exact absurd h hkill.1
    · rcases hp x rule h with h' | h'
      · exact absurd ⟨rule, h, h'⟩ hkill.2
      · exact absurd ⟨rule, h, h'⟩ herrno
    · exact h

end SeccompProfile

/-! ## Both modes -/

/-- A profile as it is constructed. -/
inductive SeccompProfile.IsNew : SeccompProfile → Prop
  | scratch (defaultAction : SeccompAction) (archs : Option (List SeccompArch))
      (auditMode : Bool) : IsNew (.new defaultAction archs auditMode)
  | podmanDefault {data : SeccompDict} {p : SeccompProfile}
      (h : SeccompProfile.fromPodmanDefault (some data) = .ok p) : IsNew p

theorem SeccompProfile.fromPodmanDefault_eq {data : SeccompDict} {p : SeccompProfile}
    (h : SeccompProfile.fromPodmanDefault (some data) = .ok p) :
    p.blockedSpecific = PyDict.empty ∧ p.baseProfile = some data := by
  rw [SeccompProfile.fromPodmanDefault] at h
  cases haction : SeccompAction.ofValue data.defaultAction with
  | error err => rw [haction] at h; exact absurd h nofun
  | ok a => rw [haction] at h; exact Except.ok.inj h ▸ ⟨rfl, rfl⟩

theorem SeccompProfile.IsNew.blockedSpecific_eq {p : SeccompProfile} (h : p.IsNew) :
    p.blockedSpecific = PyDict.empty := by
  cases h with
  | scratch => rfl
  | podmanDefault h => exact (SeccompProfile.fromPodmanDefault_eq h).1

/-- No syscall of the blocklist gets through. -/
def KeepsBlocklist (d : SeccompDict) : Prop :=
  ∀ x ∈ blocklistSyscalls, ¬Allowing (d.effectiveAction x)

/-- The blocklist stays blocked exactly if the profile is from scratch, or each
    syscall on it is also on the hardening list, or blocked explicitly, or not let
    through by the base profile. -/
theorem blocklist_blocked_iff (p : SeccompProfile) (hp : p.IsNew) (ops : List SeccompOp)
    (hops : ∀ op ∈ ops, op.BlocksByKillOrErrno) (order : List String)
    (horder : order.Perm blocklistSyscalls) :
    KeepsBlocklist ((p.build ops).toDict order) ↔
      ∀ base, p.baseProfile = some base → ∀ x ∈ blocklistSyscalls,
        x ∈ hardenKillSyscalls ∨ Blocks ops x ∨ ¬Allowing (base.effectiveAction x) := by
  have hbase := p.baseProfile_build ops
  have hblocked (x : String) :
      (∃ rule, (p.build ops).blockedSpecific.get? x = some rule) ↔ Blocks ops x := by
    rw [p.exists_get?_build, hp.blockedSpecific_eq]
    simp
  have hkills : (p.build ops).KillsOrErrno := by
    refine SeccompProfile.KillsOrErrno.build (fun x rule h => ?_) hops
    rw [hp.blockedSpecific_eq] at h
    exact absurd h nofun
  rw [SeccompProfile.toDict, hbase]
  cases p.baseProfile with
  | none =>
    -- From scratch, both sides hold.
    refine iff_of_true (fun x hx => ?_) fun base h => absurd h nofun
    dsimp only
    rw [SeccompProfile.effectiveAction_defaultDeny _ (horder.mem_iff.2 hx)]
    decide
  | some base =>
    simp only [KeepsBlocklist, SeccompProfile.allowing_harden_iff hkills, hblocked]
    exact ⟨fun h base' hb => Option.some.inj hb ▸ h, fun h => h base rfl⟩

namespace Sample

/-- A base profile that allows the syscall `x` besides `read`. -/
def allowing (x : String) : SeccompDict where
  defaultAction := "SCMP_ACT_ERRNO"
  syscalls := [{ names := ["read", x], action := "SCMP_ACT_ALLOW" }]
  other := []

/-- It is hardened, and then built up by these calls. -/
def hardened (x : String) : SeccompProfile :=
  { SeccompProfile.new .errno none false with baseProfile := some (allowing x) }

def networkCalls : List SeccompOp := [.allowNetwork, .blockSyscall "swapon" 1 "SCMP_ACT_ERRNO"]

theorem hardened_isNew (x : String) : (hardened x).IsNew :=
  .podmanDefault (show SeccompProfile.fromPodmanDefault (some (allowing x)) = .ok _ from rfl)

theorem mount_blocked :
    KeepsBlocklist (((hardened "mount").build networkCalls).toDict blocklistSyscalls) := by
  refine (blocklist_blocked_iff (hardened "mount") (hardened_isNew "mount") networkCalls ?_
    blocklistSyscalls (.refl _)).2 fun base hbase x hx => ?_
  · simp [networkCalls, SeccompOp.BlocksByKillOrErrno]
  · obtain rfl := Option.some.inj hbase
    have hdenied : ∀ x ∈ blocklistSyscalls,
        x ∈ hardenKillSyscalls ∨ ¬Allowing ((allowing "mount").effectiveAction x) := by
      decide +kernel
    exact (hdenied x hx).imp_right .inr

/-- The namespace syscall `unshare` is on the blocklist alone. -/
theorem unshare_allowed :
    (hardened "unshare").IsNew ∧ ¬KeepsBlocklist ((hardened "unshare").toDict blocklistSyscalls) :=
  ⟨hardened_isNew "unshare", fun h => h "unshare" (by decide) (by decide +kernel)⟩

end Sample

end VibeShield
