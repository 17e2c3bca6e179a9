import Mathlib.Data.List.Induction
import VibeShield.Security.Seccomp.Blocklist

/-!
# What a profile from scratch decides

A profile from scratch should decide every syscall by these rules, the first that applies
(`specifiedAction`): the blocklist kills; a syscall that was blocked explicitly gets the action of
the last time it was blocked (`lastBlock`); one that was added (`Adds`) is allowed, or logged in
audit mode; any other one gets the default action.

The dictionary does this with a list of rules, one for each syscall, of which the first
decides (`effectiveAction_scratch`). So it does not matter in which order syscalls are added and
blocked, except that the last block counts, and only a syscall that is both on the blocklist and
blocked explicitly has two rules (`scratch_decides`).
-/

namespace VibeShield

/-! ## The history -/

/-- Whether an operation blocks a syscall. -/
def SeccompOp.isBlock : SeccompOp → Bool
  | blockSyscall _ _ _ => true
  | _ => false

/-- How an operation blocks the syscall `x`, if it does: the error number and the action. -/
def SeccompOp.block? (x : String) : SeccompOp → Option (ℤ × String)
  | blockSyscall y errno action => if y = x then some (errno, action) else none
  | _ => none

/-- How the operations blocked the syscall the last time. -/
def lastBlock (ops : List SeccompOp) (x : String) : Option (ℤ × String) :=
  (ops.filterMap (SeccompOp.block? x)).getLast?

/-- The syscalls that an operation adds. -/
def SeccompOp.added : SeccompOp → List String
  | addSyscalls syscalls => syscalls
  | allowNetwork => networkSyscalls
  | blockSyscall _ _ _ => []

/-- The operations add the syscall. -/
def Adds (ops : List SeccompOp) (x : String) : Prop := ∃ op ∈ ops, x ∈ op.added

instance (ops : List SeccompOp) (x : String) : Decidable (Adds ops x) :=
  inferInstanceAs (Decidable (∃ op ∈ ops, _))

theorem lastBlock_concat (ops : List SeccompOp) (op : SeccompOp) (x : String) :
    lastBlock (ops ++ [op]) x = (op.block? x).or (lastBlock ops x) := by
  rw [lastBlock, List.filterMap_append, List.getLast?_append, lastBlock]
  cases h : op.block? x with
  | none => rw [List.filterMap_cons_none h]; rfl
  | some block => rw [List.filterMap_cons_some h]; rfl

theorem adds_concat (ops : List SeccompOp) (op : SeccompOp) (x : String) :
    Adds (ops ++ [op]) x ↔ Adds ops x ∨ x ∈ op.added := by
  simp [Adds, or_and_right, exists_or]

/-- Only the blocks matter to the last one. -/
theorem lastBlock_filter (ops : List SeccompOp) (x : String) :
    lastBlock (ops.filter SeccompOp.isBlock) x = lastBlock ops x := by
  rw [lastBlock, List.filterMap_filter, lastBlock]
  refine congrArg List.getLast? (List.filterMap_congr fun op _ => ?_)
  cases op <;> rfl

/-- Only the other operations add syscalls. -/
theorem adds_filter (ops : List SeccompOp) (x : String) :
    Adds (ops.filter fun op => !op.isBlock) x ↔ Adds ops x := by
  refine ⟨fun ⟨op, hop, hx⟩ => ⟨op, (List.mem_filter.1 hop).1, hx⟩, fun ⟨op, hop, hx⟩ => ?_⟩
  refine ⟨op, List.mem_filter.2 ⟨hop, ?_⟩, hx⟩
  cases op with
  | blockSyscall y errno action => exact absurd hx List.not_mem_nil
  | _ => rfl

/-- A syscall was blocked if there is a last time. -/
theorem blocks_iff_lastBlock {ops : List SeccompOp} {x : String} :
    Blocks ops x ↔ lastBlock ops x ≠ none := by
  rw [lastBlock, ne_eq, List.getLast?_eq_none_iff, List.filterMap_eq_nil_iff]
  push Not
  constructor
  · rintro ⟨errno, action, hop⟩
    refine ⟨_, hop, ?_⟩
    rw [SeccompOp.block?, if_pos rfl]
    exact Option.some_ne_none _
  · rintro ⟨op, hop, hblock⟩
    cases op with
    | blockSyscall y errno action =>
      rw [SeccompOp.block?] at hblock
      by_cases hy : y = x
      · exact ⟨errno, action, hy ▸ hop⟩
      · exact absurd (if_neg hy) hblock
    | _ => exact absurd rfl hblock

/-- What a block stores. -/
def blockRule (x : String) (block : ℤ × String) : BlockRule where
  action := block.2
  comment := s!"Blocked by VibeShield: {x}"
  errnoRet := if block.2 = "SCMP_ACT_ERRNO" then some block.1 else none

namespace SeccompProfile

theorem build_concat (p : SeccompProfile) (ops : List SeccompOp) (op : SeccompOp) :
    p.build (ops ++ [op]) = (p.build ops).apply op :=
  List.foldl_concat _ _ _ _

/-- What is stored for a syscall is what its last block stored. -/
theorem get?_build (p : SeccompProfile) (hp : p.blockedSpecific = PyDict.empty)
    (ops : List SeccompOp) (x : String) :
    (p.build ops).blockedSpecific.get? x = (lastBlock ops x).map (blockRule x) := by
  induction ops using List.reverseRecOn with
  | nil => rw [build, List.foldl_nil, hp]; rfl
  | append_singleton ops op ih =>
    rw [build_concat, lastBlock_concat]
    cases op with
    | addSyscalls syscalls =>
      rw [SeccompProfile.apply, blockedSpecific_addSyscalls, ih]
      rfl
    | allowNetwork =>
      rw [SeccompProfile.apply, allowNetwork, blockedSpecific_addSyscalls, ih]
      rfl
    | blockSyscall y errno action =>
      rw [SeccompProfile.apply, blockSyscall, SeccompOp.block?]
      dsimp only
      rw [PyDict.get?_set]
      by_cases hxy : x = y
      · subst hxy
        rw [if_pos rfl, if_pos rfl]
        rfl
      · rw [if_neg hxy, if_neg (Ne.symm hxy), ih]
        rfl

theorem mem_allowedSyscalls_addSyscalls (p : SeccompProfile) (syscalls : List String) (x : String) :
    x ∈ (p.addSyscalls syscalls).allowedSyscalls ↔
      x ∈ p.allowedSyscalls ∨ x ∈ syscalls ∧ x ∉ blocklistSyscalls := by
  rw [addSyscalls]
  induction syscalls generalizing p with
  | nil => simp
  | cons y ys ih =>
    rw [List.foldl_cons, ih]
    by_cases hy : y ∈ blocklistSyscalls
    · rw [if_pos hy]
      grind
    · rw [if_neg hy, List.mem_insert_iff]
      grind

theorem nodup_allowedSyscalls_addSyscalls {p : SeccompProfile} (h : p.allowedSyscalls.Nodup)
    (syscalls : List String) : (p.addSyscalls syscalls).allowedSyscalls.Nodup := by
  rw [addSyscalls]
  induction syscalls generalizing p with
  | nil => exact h
  | cons y ys ih =>
    rw [List.foldl_cons]
    split
    · exact ih h
    · exact ih h.insert

/-- The allowlist holds what was added and is not on the blocklist, once each. -/
theorem allowedSyscalls_build (p : SeccompProfile) (hp : p.allowedSyscalls = [])
    (ops : List SeccompOp) : (p.build ops).allowedSyscalls.Nodup ∧
      ∀ x, x ∈ (p.build ops).allowedSyscalls ↔ Adds ops x ∧ x ∉ blocklistSyscalls := by
  induction ops using List.reverseRecOn with
  | nil =>
    rw [build, List.foldl_nil, hp]
    exact ⟨List.nodup_nil, fun x => iff_of_false List.not_mem_nil (by simp [Adds])⟩
  | append_singleton ops op ih =>
    rw [build_concat]
    have hadd (syscalls : List String) :
        ((p.build ops).addSyscalls syscalls).allowedSyscalls.Nodup ∧
          ∀ x, x ∈ ((p.build ops).addSyscalls syscalls).allowedSyscalls ↔
            (Adds ops x ∨ x ∈ syscalls) ∧ x ∉ blocklistSyscalls := by
      refine ⟨nodup_allowedSyscalls_addSyscalls ih.1 syscalls, fun x => ?_⟩
      rw [mem_allowedSyscalls_addSyscalls, ih.2, or_and_right]
    simp only [adds_concat]
    cases op with
    | addSyscalls syscalls => exact hadd syscalls
    | allowNetwork => exact hadd networkSyscalls
    | blockSyscall y errno action =>
      refine ⟨ih.1, fun x => (ih.2 x).trans ?_⟩
      simp [SeccompOp.added]

theorem defaultAction_build (p : SeccompProfile) (ops : List SeccompOp) :
    (p.build ops).defaultAction = p.defaultAction ∧ (p.build ops).auditMode = p.auditMode := by
  induction ops using List.reverseRecOn with
  | nil => exact ⟨rfl, rfl⟩
  | append_singleton ops op ih =>
    rw [build_concat]
    cases op with
    | addSyscalls syscalls =>
      obtain ⟨allowed, h⟩ := (p.build ops).addSyscalls_eq syscalls
      rw [SeccompProfile.apply, h]
      exact ih
    | allowNetwork =>
      obtain ⟨allowed, h⟩ := (p.build ops).addSyscalls_eq networkSyscalls
      rw [SeccompProfile.apply, allowNetwork, h]
      exact ih
    | blockSyscall y errno action => exact ih

end SeccompProfile

/-! ## The decision -/

/-- The action that a profile from scratch is to have for a syscall. -/
def specifiedAction (defaultAction : SeccompAction) (auditMode : Bool) (ops : List SeccompOp)
    (x : String) : String :=
  if x ∈ blocklistSyscalls then "SCMP_ACT_KILL"
  else match lastBlock ops x with
    | some block => block.2
    | none =>
      if Adds ops x then if auditMode then "SCMP_ACT_LOG" else "SCMP_ACT_ALLOW"
      else if auditMode then "SCMP_ACT_LOG" else defaultAction.value

/-- The allowlist as it is written: without what is blocked, and sorted. -/
def SeccompProfile.listedSyscalls (p : SeccompProfile) : List String :=
  (sorted (p.allowedSyscalls.filter (· ∉ blocklistSyscalls))).filter (· ∉ p.blockedSpecific.keys)

namespace SeccompProfile

theorem mem_listedSyscalls {p : SeccompProfile} {x : String} : x ∈ p.listedSyscalls ↔
    x ∈ p.allowedSyscalls ∧ x ∉ blocklistSyscalls ∧ p.blockedSpecific.get? x = none := by
  have hkeys : x ∉ p.blockedSpecific.keys ↔ p.blockedSpecific.get? x = none := by
    rw [PyDict.mem_keys_iff, Option.eq_none_iff_forall_ne_some, not_exists]
  rw [listedSyscalls, List.mem_filter, sorted, (List.perm_insertionSort _ _).mem_iff,
    List.mem_filter, decide_eq_true_iff, decide_eq_true_iff, hkeys, and_assoc]

theorem nodup_listedSyscalls {p : SeccompProfile} (h : p.allowedSyscalls.Nodup) :
    p.listedSyscalls.Nodup :=
  ((List.perm_insertionSort _ _).nodup_iff.2 (h.filter _)).filter _

variable {defaultAction : SeccompAction} {archs : Option (List SeccompArch)} {auditMode : Bool}
  {ops : List SeccompOp} {order : List String}

/-- Of the rules for single syscalls, those with other names are passed over. -/
theorem firstAction_map_of_not_mem {α : Type*} {l : List α} (name : α → String)
    {rule : α → SeccompRule} (hrule : ∀ a, (rule a).names = [name a]) {x : String}
    (hx : ∀ a ∈ l, name a ≠ x) (ts : List SeccompRule) (d : String) :
    firstAction (l.map rule ++ ts) d x = firstAction ts d x := by
  refine firstAction_append_of_not_names (fun r hr => ?_) ts d
  obtain ⟨a, ha, rfl⟩ := List.mem_map.1 hr
  rw [hrule, List.mem_singleton]
  exact (hx a ha).symm

/-- The first rule for a syscall has the action that is specified. -/
theorem effectiveAction_scratch (horder : order.Perm blocklistSyscalls) (x : String) :
    (((new defaultAction archs auditMode).build ops).toDictDefaultDeny order).effectiveAction x =
      specifiedAction defaultAction auditMode ops x := by
  have hget := (new defaultAction archs auditMode).get?_build rfl ops x
  have hallowed := ((new defaultAction archs auditMode).allowedSyscalls_build rfl ops).2 x
  obtain ⟨hdefault, haudit⟩ := (new defaultAction archs auditMode).defaultAction_build ops
  generalize (new defaultAction archs auditMode).build ops = p at hget hallowed hdefault haudit ⊢
  replace hdefault : p.defaultAction = defaultAction := hdefault
  replace haudit : p.auditMode = auditMode := haudit
  rw [specifiedAction]
  by_cases hblocklist : x ∈ blocklistSyscalls
  · rw [if_pos hblocklist]
    exact p.effectiveAction_defaultDeny (horder.mem_iff.2 hblocklist)
  · rw [if_neg hblocklist, SeccompDict.effectiveAction, toDictDefaultDeny, defaultDenyRules,
      List.append_assoc]
    refine Eq.trans (firstAction_map_of_not_mem id ?_ ?_ _ _) ?_
    · exact fun _ => rfl
    · rintro y hy rfl
      exact hblocklist (horder.mem_iff.1 hy)
    cases hlast : lastBlock ops x with
    | some block =>
      rw [hlast] at hget
      refine firstAction_append_of_names ⟨_, List.mem_map_of_mem ((PyDict.mem_items_iff _ _ _).2
        hget), List.mem_singleton_self x⟩ (fun r hr hxr => ?_) _ _
      obtain ⟨⟨y, rule⟩, hitem, rfl⟩ := List.mem_map.1 hr
      obtain rfl := List.mem_singleton.1 hxr
      have hrule := ((PyDict.mem_items_iff _ _ _).1 hitem).symm.trans hget
      exact congrArg BlockRule.action (Option.some.inj hrule)
    | none =>
      rw [hlast] at hget
      refine Eq.trans (firstAction_map_of_not_mem Prod.fst ?_ ?_ _ _) ?_
      · exact fun _ => rfl
      · rintro ⟨y, rule⟩ hitem rfl
        cases hget.symm.trans ((PyDict.mem_items_iff _ _ _).1 hitem)
      rw [← listedSyscalls, ← List.append_nil (p.listedSyscalls.map _)]
      have hlisted : x ∈ p.listedSyscalls ↔ Adds ops x := by
        rw [mem_listedSyscalls, hallowed]
        exact ⟨fun h => h.1.1, fun h => ⟨⟨h, hblocklist⟩, hblocklist, hget⟩⟩
      dsimp only
      rw [haudit, hdefault]
      by_cases hadds : Adds ops x
      · rw [if_pos hadds]
        refine firstAction_append_of_names ⟨_, List.mem_map_of_mem (hlisted.2 hadds),
          List.mem_singleton_self x⟩ (fun r hr _ => ?_) _ _
        obtain ⟨_, _, rfl⟩ := List.mem_map.1 hr
        rfl
      · rw [if_neg hadds]
        refine firstAction_map_of_not_mem id ?_ ?_ _ _
        · exact fun _ => rfl
        · rintro y hy rfl
          exact hadds (hlisted.1 hy)

/-! ## One rule for a syscall -/

/-- Rules for single syscalls name as many syscalls as there are. -/
theorem countP_names_map {α : Type*} (l : List α) (name : α → String) (rule : α → SeccompRule)
    (hrule : ∀ a, (rule a).names = [name a]) (x : String) :
    (l.map rule).countP (fun r => x ∈ r.names) = (l.map name).count x := by
  rw [List.countP_map, List.count, List.countP_map]
  refine List.countP_congr fun a _ => ?_
  simp only [Function.comp_apply, hrule, List.mem_singleton, decide_eq_true_eq, beq_iff_eq]
  exact eq_comm

/-- Only a syscall that is on the blocklist and blocked explicitly has two rules. -/
theorem countP_names_le (horder : order.Perm blocklistSyscalls) {x : String}
    (hx : ¬(x ∈ blocklistSyscalls ∧ Blocks ops x)) :
    (((new defaultAction archs auditMode).build ops).toDictDefaultDeny order).syscalls.countP
      (fun r => x ∈ r.names) ≤ 1 := by
  have hget := (new defaultAction archs auditMode).get?_build rfl ops x
  have hnodup := ((new defaultAction archs auditMode).allowedSyscalls_build rfl ops).1
  generalize (new defaultAction archs auditMode).build ops = p at hget hnodup ⊢
  have hblocks : Blocks ops x ↔ x ∈ p.blockedSpecific.keys := by
    rw [blocks_iff_lastBlock, PyDict.mem_keys_iff, hget, Option.ne_none_iff_exists']
    simp
  rw [toDictDefaultDeny, defaultDenyRules, ← listedSyscalls]
  dsimp only
  rw [List.countP_append, List.countP_append, countP_names_map order id _ fun _ => rfl,
    countP_names_map p.blockedSpecific.items Prod.fst _ fun _ => rfl,
    countP_names_map p.listedSyscalls id _ fun _ => rfl, List.map_id, List.map_id, ← PyDict.keys]
  have horderNodup : order.Nodup := horder.nodup_iff.2 (by decide +kernel)
  have hfirst : order.count x ≤ 1 := List.nodup_iff_count_le_one.1 horderNodup x
  have hsecond : p.blockedSpecific.keys.count x ≤ 1 :=
    List.nodup_iff_count_le_one.1 p.blockedSpecific.nodup x
  have hthird : p.listedSyscalls.count x ≤ 1 :=
    List.nodup_iff_count_le_one.1 (nodup_listedSyscalls hnodup) x
  by_cases hblocklist : x ∈ blocklistSyscalls
  · have hkeys : p.blockedSpecific.keys.count x = 0 :=
      List.count_eq_zero.2 fun h => hx ⟨hblocklist, hblocks.2 h⟩
    have hlisted : p.listedSyscalls.count x = 0 :=
      List.count_eq_zero.2 fun h => (mem_listedSyscalls.1 h).2.1 hblocklist
    omega
  · have hnot : order.count x = 0 :=
      List.count_eq_zero.2 fun h => hblocklist (horder.mem_iff.1 h)
    by_cases hkey : x ∈ p.blockedSpecific.keys
    · have hlisted : p.listedSyscalls.count x = 0 := by
        refine List.count_eq_zero.2 fun h => ?_
        obtain ⟨rule, hrule⟩ := (PyDict.mem_keys_iff _ _).1 hkey
        cases (mem_listedSyscalls.1 h).2.2.symm.trans hrule
      omega
    · have hkeys : p.blockedSpecific.keys.count x = 0 := List.count_eq_zero.2 hkey
      omega

end SeccompProfile

/-- A profile from scratch decides every syscall as specified. How adding is interleaved with
    blocking does not matter, and no syscall has two rules but those on the blocklist that are
    blocked explicitly as well. -/
theorem scratch_decides (defaultAction : SeccompAction) (archs : Option (List SeccompArch))
    (auditMode : Bool) (ops : List SeccompOp) (order : List String)
    (horder : order.Perm blocklistSyscalls) :
    let profile := fun ops : List SeccompOp =>
      ((SeccompProfile.new defaultAction archs auditMode).build ops).toDict order
    (∀ x, (profile ops).effectiveAction x = specifiedAction defaultAction auditMode ops x) ∧
    (∀ ops', ops'.filter SeccompOp.isBlock = ops.filter SeccompOp.isBlock →
      (ops'.filter fun op => !op.isBlock).Perm (ops.filter fun op => !op.isBlock) →
      ∀ x, (profile ops').effectiveAction x = (profile ops).effectiveAction x) ∧
    ∀ x, ¬(x ∈ blocklistSyscalls ∧ Blocks ops x) →
      (profile ops).syscalls.countP (fun rule => x ∈ rule.names) ≤ 1 := by
  have hscratch (ops : List SeccompOp) :
      ((SeccompProfile.new defaultAction archs auditMode).build ops).toDict order =
        ((SeccompProfile.new defaultAction archs auditMode).build ops).toDictDefaultDeny order := by
    rw [SeccompProfile.toDict, SeccompProfile.baseProfile_build]
    rfl
  dsimp only
  simp only [hscratch, SeccompProfile.effectiveAction_scratch horder]
  refine ⟨fun _ => trivial, fun ops' hblocks hadds x => ?_, fun x hx =>
    SeccompProfile.countP_names_le horder hx⟩
  have hadds' : Adds ops' x ↔ Adds ops x := by
    rw [← adds_filter ops', ← adds_filter ops]
    exact exists_congr fun op => and_congr_left fun _ => hadds.mem_iff
  rw [specifiedAction, specifiedAction, ← lastBlock_filter ops', hblocks, lastBlock_filter]
  simp only [hadds']

namespace Sample

/-- The calls allow `read`, block it, and allow it again; `ptrace` is on the blocklist. -/
def readCalls : List SeccompOp :=
  [.addSyscalls ["read"], .blockSyscall "read" 5 "SCMP_ACT_ERRNO", .addSyscalls ["read", "ptrace"]]

theorem read_blocked :
    let d := ((SeccompProfile.new .kill none true).build readCalls).toDict blocklistSyscalls
    d.effectiveAction "read" = "SCMP_ACT_ERRNO" ∧ d.effectiveAction "ptrace" = "SCMP_ACT_KILL" ∧
      d.effectiveAction "write" = "SCMP_ACT_LOG" := by
  obtain ⟨hdecides, _, _⟩ := scratch_decides .kill none true readCalls blocklistSyscalls (.refl _)
  exact ⟨(hdecides "read").trans (by decide +kernel), (hdecides "ptrace").trans (by decide +kernel),
    (hdecides "write").trans (by decide +kernel)⟩

end Sample

end VibeShield
