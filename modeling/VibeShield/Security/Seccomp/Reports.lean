import VibeShield.Security.Seccomp.Precedence

/-!
# What a profile reports

The counts of a profile are those of the syscalls that were added and of those that were blocked.
A syscall that was added and is blocked is in both, so the profile lets through fewer than it
counts as allowed, by the number of these (`syscall_count_exact`).

The difference of two profiles is told by the operations that built them (`audit_diff_exact`):
what it lists is in order and is not listed twice, and what is added from one profile to the other
is what is removed in the other direction.
-/

namespace VibeShield

namespace SeccompProfile

/-- The number of allowed syscalls. -/
def syscallCount (p : SeccompProfile) : ℕ :=
  (p.allowedSyscalls.filter (· ∉ blocklistSyscalls)).length

/-- The number of blocked syscalls. -/
def blockedCount (p : SeccompProfile) : ℕ :=
  match p.baseProfile with
  | some _ => (hardenKillSyscalls ∪ p.blockedSpecific.keys).length
  | none => (blocklistSyscalls ∪ p.blockedSpecific.keys).length

/-- The difference of two profiles. -/
structure Diff where
  added : List String
  removed : List String
  common : List String
deriving DecidableEq

/-- Comparing two profiles. -/
def auditDiff (p other : SeccompProfile) : Diff where
  added := sorted (other.allowedSyscalls.filter (· ∉ p.allowedSyscalls))
  removed := sorted (p.allowedSyscalls.filter (· ∉ other.allowedSyscalls))
  common := sorted (p.allowedSyscalls.filter (· ∈ other.allowedSyscalls))

/-! ## The counts -/

/-- The number of members of a list without repetitions. -/
theorem length_eq_ncard {l : List String} (h : l.Nodup) : l.length = {x | x ∈ l}.ncard := by
  rw [← List.toFinset_card_of_nodup h, ← Set.ncard_coe_finset, List.coe_toFinset]

theorem length_union_eq_ncard (l : List String) {m : List String} (h : m.Nodup) :
    (l ∪ m).length = {x | x ∈ l ∨ x ∈ m}.ncard := by
  rw [length_eq_ncard (h.union l)]
  simp only [List.mem_union_iff]

variable {p q : SeccompProfile} {ops : List SeccompOp}

theorem IsNew.allowedSyscalls_eq (h : p.IsNew) : p.allowedSyscalls = [] := by
  cases h with
  | scratch => rfl
  | @podmanDefault data _ h =>
    rw [fromPodmanDefault] at h
    cases haction : SeccompAction.ofValue data.defaultAction with
    | error err =>
      rw [haction] at h
      cases h
    | ok a =>
      rw [haction] at h
      rw [← Except.ok.inj h]
      rfl

theorem syscallCount_build (h : p.IsNew) (ops : List SeccompOp) :
    (p.build ops).syscallCount = {x | Adds ops x ∧ x ∉ blocklistSyscalls}.ncard := by
  obtain ⟨hnodup, hmem⟩ := p.allowedSyscalls_build h.allowedSyscalls_eq ops
  rw [syscallCount, length_eq_ncard (hnodup.filter _)]
  refine congrArg Set.ncard (Set.ext fun x => ?_)
  simp only [Set.mem_ofPred, List.mem_filter, hmem, decide_eq_true_eq, and_assoc, and_self]

theorem mem_keys_build (h : p.IsNew) {x : String} :
    x ∈ (p.build ops).blockedSpecific.keys ↔ Blocks ops x := by
  rw [PyDict.mem_keys_iff, p.exists_get?_build, h.blockedSpecific_eq]
  simp

theorem blockedCount_build (h : p.IsNew) (ops : List SeccompOp) :
    (p.build ops).blockedCount = {x | x ∈ (if p.baseProfile.isSome then hardenKillSyscalls
      else blocklistSyscalls) ∨ Blocks ops x}.ncard := by
  have hkeys : (p.build ops).blockedSpecific.keys.Nodup := (p.build ops).blockedSpecific.nodup
  rw [blockedCount, p.baseProfile_build]
  cases p.baseProfile with
  | none =>
    dsimp only
    rw [length_union_eq_ncard _ hkeys]
    simp [mem_keys_build h]
  | some base =>
    dsimp only
    rw [length_union_eq_ncard _ hkeys]
    simp [mem_keys_build h]

end SeccompProfile

theorem mem_of_lastBlock {ops : List SeccompOp} {x : String} {block : ℤ × String}
    (h : lastBlock ops x = some block) : .blockSyscall x block.1 block.2 ∈ ops := by
  obtain ⟨op, hop, hblock⟩ := List.mem_filterMap.1 (List.mem_of_getLast? h)
  cases op with
  | blockSyscall y errno action =>
    rw [SeccompOp.block?] at hblock
    split at hblock
    · next hy =>
      rw [← Option.some.inj hblock, ← hy]
      exact hop
    · cases hblock
  | addSyscalls syscalls => cases hblock
  | allowNetwork => cases hblock

/-- A profile lets a syscall through that is added, unless it is blocked. -/
theorem allowing_specifiedAction_iff {defaultAction : SeccompAction}
    (hdefault : ¬Allowing defaultAction.value) {ops : List SeccompOp}
    (hops : ∀ op ∈ ops, op.BlocksByKillOrErrno) (x : String) :
    Allowing (specifiedAction defaultAction false ops x) ↔
      Adds ops x ∧ x ∉ blocklistSyscalls ∧ ¬Blocks ops x := by
  have hdenies : ¬Allowing "SCMP_ACT_KILL" ∧ ¬Allowing "SCMP_ACT_ERRNO" := by decide
  rw [specifiedAction, blocks_iff_lastBlock]
  by_cases hx : x ∈ blocklistSyscalls
  · rw [if_pos hx]
    exact iff_of_false hdenies.1 fun h => h.2.1 hx
  · rw [if_neg hx]
    cases hlast : lastBlock ops x with
    | some block =>
      have hdenied : ¬Allowing block.2 := by
        obtain hkill | herrno := hops _ (mem_of_lastBlock hlast)
        · exact hkill ▸ hdenies.1
        · exact herrno ▸ hdenies.2
      exact iff_of_false hdenied fun h => h.2.2 (Option.some_ne_none _)
    | none =>
      by_cases hadds : Adds ops x
      · simp [hadds, hx, Allowing]
      · simpa [hadds] using hdefault

/-- Whatever builds a profile from scratch, it lets as many syscalls through as it counts as
    allowed, but for those that are blocked as well; and counts those as blocked that are on the
    blocklist or blocked. -/
theorem syscall_count_exact (defaultAction : SeccompAction)
    (hdefault : ¬Allowing defaultAction.value) (archs : Option (List SeccompArch))
    (ops : List SeccompOp) (hops : ∀ op ∈ ops, op.BlocksByKillOrErrno) (order : List String)
    (horder : order.Perm blocklistSyscalls) :
    let p := (SeccompProfile.new defaultAction archs false).build ops
    p.syscallCount = {x | Allowing ((p.toDict order).effectiveAction x)}.ncard +
      {x | Adds ops x ∧ x ∉ blocklistSyscalls ∧ Blocks ops x}.ncard ∧
    p.blockedCount = {x | x ∈ blocklistSyscalls ∨ Blocks ops x}.ncard := by
  intro p
  have hnew := SeccompProfile.IsNew.scratch defaultAction archs false
  refine ⟨?_, SeccompProfile.blockedCount_build hnew ops⟩
  have hdict : p.toDict order = p.toDictDefaultDeny order := by
    rw [SeccompProfile.toDict, SeccompProfile.baseProfile_build]
    rfl
  have hlets (x : String) : Allowing ((p.toDict order).effectiveAction x) ↔
      Adds ops x ∧ x ∉ blocklistSyscalls ∧ ¬Blocks ops x := by
    rw [hdict, SeccompProfile.effectiveAction_scratch horder]
    exact allowing_specifiedAction_iff hdefault hops x
  have hsplit : {x | Adds ops x ∧ x ∉ blocklistSyscalls} =
      {x | Adds ops x ∧ x ∉ blocklistSyscalls ∧ ¬Blocks ops x} ∪
        {x | Adds ops x ∧ x ∉ blocklistSyscalls ∧ Blocks ops x} := by
    ext x
    simp only [Set.mem_union, Set.mem_ofPred]
    tauto
  have hfinite : {x | Adds ops x ∧ x ∉ blocklistSyscalls}.Finite := by
    refine (p.allowedSyscalls.toFinset.finite_toSet).subset fun x hx => ?_
    rw [List.coe_toFinset]
    exact ((SeccompProfile.allowedSyscalls_build _ hnew.allowedSyscalls_eq ops).2 x).2 hx
  simp only [hlets]
  rw [SeccompProfile.syscallCount_build hnew, hsplit]
  rw [hsplit, Set.finite_union] at hfinite
  refine Set.ncard_union_eq (Set.disjoint_left.2 ?_) hfinite.1 hfinite.2
  exact fun x hx hx' => hx.2.2 hx'.2.2

namespace Sample

/-- `read` is added, and is blocked. -/
theorem read_counted :
    let p := (SeccompProfile.new .errno none false).build readCalls
    p.syscallCount = {x | Allowing ((p.toDict blocklistSyscalls).effectiveAction x)}.ncard +
      {x | Adds readCalls x ∧ x ∉ blocklistSyscalls ∧ Blocks readCalls x}.ncard ∧
    p.blockedCount = {x | x ∈ blocklistSyscalls ∨ Blocks readCalls x}.ncard :=
  syscall_count_exact .errno (by decide) none readCalls (by simp [readCalls,
    SeccompOp.BlocksByKillOrErrno]) blocklistSyscalls (.refl _)

end Sample

/-! ## The difference -/

namespace SeccompProfile

variable {p q : SeccompProfile}

/-- A sorted list without repetitions is strictly sorted. -/
theorem pairwise_lt_sorted {l : List String} (h : l.Nodup) : (sorted l).Pairwise (· < ·) := by
  have hnodup : (sorted l).Nodup := (List.perm_insertionSort _ l).nodup_iff.2 h
  refine ((List.pairwise_insertionSort (· ≤ ·) l).and hnodup).imp ?_
  exact fun h => lt_of_le_of_ne h.1 h.2

theorem mem_sorted {l : List String} {x : String} : x ∈ sorted l ↔ x ∈ l :=
  (List.perm_insertionSort _ l).mem_iff

theorem length_sorted (l : List String) : (sorted l).length = l.length :=
  (List.perm_insertionSort _ l).length_eq

/-- Sorting does not tell lists with the same elements apart. -/
theorem sorted_congr {l m : List String} (hl : l.Nodup) (hm : m.Nodup) (h : ∀ x, x ∈ l ↔ x ∈ m) :
    sorted l = sorted m := by
  have hperm : (sorted l).Perm (sorted m) :=
    (List.perm_insertionSort _ l).trans
      (((List.perm_ext_iff_of_nodup hl hm).2 h).trans (List.perm_insertionSort _ m).symm)
  refine hperm.eq_of_pairwise (fun a b _ _ hab hba => le_antisymm hab hba) ?_ ?_
  · exact List.pairwise_insertionSort _ l
  · exact List.pairwise_insertionSort _ m

/-- The difference in the other direction. -/
def Diff.reverse (d : Diff) : Diff := ⟨d.removed, d.added, d.common⟩

theorem auditDiff_reverse (hp : p.allowedSyscalls.Nodup) (hq : q.allowedSyscalls.Nodup) :
    q.auditDiff p = (p.auditDiff q).reverse := by
  have hcommon : sorted (q.allowedSyscalls.filter (· ∈ p.allowedSyscalls)) =
      sorted (p.allowedSyscalls.filter (· ∈ q.allowedSyscalls)) := by
    refine sorted_congr (hq.filter _) (hp.filter _) fun x => ?_
    simp only [List.mem_filter, decide_eq_true_eq]
    exact and_comm
  rw [auditDiff, hcommon]
  rfl

/-- What is not removed is common. -/
theorem length_common_add_removed (p q : SeccompProfile) :
    (p.auditDiff q).common.length + (p.auditDiff q).removed.length = p.allowedSyscalls.length := by
  have hparts := (List.filter_append_perm (· ∈ q.allowedSyscalls) p.allowedSyscalls).length_eq
  rw [List.length_append] at hparts
  simpa [auditDiff, length_sorted] using hparts

end SeccompProfile

/-- Whatever builds two profiles, their difference lists, in order, the syscalls that are added by
    the operations of one of them alone, and by both; in the other direction, what is added is
    removed. The counts of the two profiles differ by what is added and removed. -/
theorem audit_diff_exact (p q : SeccompProfile) (hp : p.IsNew) (hq : q.IsNew)
    (ops ops' : List SeccompOp) :
    let d := (p.build ops).auditDiff (q.build ops')
    (d.added.Pairwise (· < ·) ∧ d.removed.Pairwise (· < ·) ∧ d.common.Pairwise (· < ·)) ∧
    (∀ x, x ∈ d.added ↔ Adds ops' x ∧ x ∉ blocklistSyscalls ∧ ¬Adds ops x) ∧
    (∀ x, x ∈ d.removed ↔ Adds ops x ∧ x ∉ blocklistSyscalls ∧ ¬Adds ops' x) ∧
    (∀ x, x ∈ d.common ↔ Adds ops x ∧ Adds ops' x ∧ x ∉ blocklistSyscalls) ∧
    (q.build ops').auditDiff (p.build ops) = d.reverse ∧
    (p.build ops).syscallCount + d.added.length =
      (q.build ops').syscallCount + d.removed.length := by
  intro d
  obtain ⟨hpnodup, hpmem⟩ := p.allowedSyscalls_build hp.allowedSyscalls_eq ops
  obtain ⟨hqnodup, hqmem⟩ := q.allowedSyscalls_build hq.allowedSyscalls_eq ops'
  have hreverse := SeccompProfile.auditDiff_reverse hpnodup hqnodup
  refine ⟨⟨?_, ?_, ?_⟩, fun x => ?_, fun x => ?_, fun x => ?_, hreverse, ?_⟩
  · exact SeccompProfile.pairwise_lt_sorted (hqnodup.filter _)
  · exact SeccompProfile.pairwise_lt_sorted (hpnodup.filter _)
  · exact SeccompProfile.pairwise_lt_sorted (hpnodup.filter _)
  · refine SeccompProfile.mem_sorted.trans ?_
    simp only [List.mem_filter, hpmem, hqmem, decide_eq_true_eq]
    tauto
  · refine SeccompProfile.mem_sorted.trans ?_
    simp only [List.mem_filter, hpmem, hqmem, decide_eq_true_eq]
    tauto
  · refine SeccompProfile.mem_sorted.trans ?_
    simp only [List.mem_filter, hpmem, hqmem, decide_eq_true_eq]
    tauto
  · -- Nothing that is kept is on the blocklist.
    have hcount {r : SeccompProfile} {as : List SeccompOp}
        (hmem : ∀ x, x ∈ r.allowedSyscalls ↔ Adds as x ∧ x ∉ blocklistSyscalls) :
        r.syscallCount = r.allowedSyscalls.length := by
      rw [SeccompProfile.syscallCount, List.filter_eq_self.2 fun x hx => ?_]
      exact decide_eq_true ((hmem x).1 hx).2
    have hremoved := SeccompProfile.length_common_add_removed (p.build ops) (q.build ops')
    have hadded := SeccompProfile.length_common_add_removed (q.build ops') (p.build ops)
    rw [hreverse] at hadded
    rw [hcount hpmem, hcount hqmem, ← hremoved, ← hadded]
    change d.common.length + d.removed.length + d.added.length =
      d.common.length + d.added.length + d.removed.length
    exact Nat.add_right_comm _ _ _

namespace Sample

/-- From a profile that reads to one that writes. -/
theorem read_write_diff :
    let p := SeccompProfile.new .errno none false
    let d := (p.build [.addSyscalls ["read", "exit"]]).auditDiff
      (p.build [.addSyscalls ["write", "exit", "ptrace"]])
    d = ⟨["write"], ["read"], ["exit"]⟩ ∧ ∀ x, x ∈ d.added ↔
      Adds [.addSyscalls ["write", "exit", "ptrace"]] x ∧ x ∉ blocklistSyscalls ∧
        ¬Adds [.addSyscalls ["read", "exit"]] x :=
  ⟨by decide +kernel, (audit_diff_exact _ _ (.scratch .errno none false)
    (.scratch .errno none false) _ _).2.1⟩

end Sample

end VibeShield
