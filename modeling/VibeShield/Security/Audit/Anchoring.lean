import VibeShield.Lib.MerkleCollision
import VibeShield.Security.Audit.Atomicity
import VibeShield.Security.Audit.Commitment

/-!
# Anchored Merkle roots

A root that has been anchored is compared with the root of the log as it is later
(`AuditLog.verifyMerkle`). Other hashes than the anchored ones pass if their tree is the same
(`MerkleTree.SameTree`): `verifyMerkle_pins_iff`. They are not the same if there are as many
hashes as before, but the last entry of a log of odd length may be appended once more
(`valid_verifyMerkle_of_repeated`).
-/

namespace VibeShield

/-- The leaves of the tree of a log; the digest for an empty log if there are none. -/
def AuditLog.treeLeaves (py : Python) (l : AuditLog) : List String :=
  if l.leaves = [] then [emptyRoot py] else l.leaves

/-- The trees over the hashes of two logs are the same. -/
def SameMerkleTree (py : Python) (l m : AuditLog) : Prop :=
  MerkleTree.SameTree (merkleNode py) (l.treeLeaves py) (m.treeLeaves py)

/-- What is assumed for the roots of two logs: digests have 64 digits, those of the strings that
    are hashed in the trees are different, and the entry hashes of both logs have 64 digits. -/
structure AnchorAssumptions (py : Python) (l m : AuditLog) : Prop where
  sha256_inj : Set.InjOn py.sha256 (treeTexts py l.leaves ∪ treeTexts py m.leaves)
  isHexDigest : ∀ t, IsHexDigest (py.sha256 t)
  isHexDigest_left : ∀ x ∈ l.leaves, IsHexDigest x
  isHexDigest_right : ∀ x ∈ m.leaves, IsHexDigest x

variable {py : Python} {l m : AuditLog}

theorem AuditLog.treeLeaves_ne_nil (l : AuditLog) : l.treeLeaves py ≠ [] := by
  rw [treeLeaves]
  split
  · exact List.cons_ne_nil _ _
  · next h => exact h

theorem AuditLog.pairs_treeLeaves (l : AuditLog) :
    MerkleTree.pairs (merkleNode py) (l.treeLeaves py) =
      MerkleTree.pairs (merkleNode py) l.leaves := by
  rw [treeLeaves]
  split
  · next h =>
    have hnil {xs : List String} (hxs : ¬1 < xs.length) :
        MerkleTree.pairs (merkleNode py) xs = [] := by
      rw [MerkleTree.pairs, if_neg hxs]
    rw [h, hnil (by simp), hnil (by simp)]
  · rfl

theorem AuditLog.computeMerkleRoot_eq_root (l : AuditLog) :
    l.computeMerkleRoot py =
      MerkleTree.root (merkleNode py) (emptyRoot py) (l.treeLeaves py) := by
  rw [computeMerkleRoot_eq, treeLeaves]
  split
  · next h => rw [h, merkleRoot_nil, MerkleTree.root_of_not_one_lt _ (by simp), List.headD_cons]
  · rfl

/-- A root is never empty. -/
theorem AuditLog.computeMerkleRoot_ne_empty (hsha : ∀ t, IsHexDigest (py.sha256 t))
    (hl : ∀ x ∈ l.leaves, IsHexDigest x) : l.computeMerkleRoot py ≠ "" := by
  have hempty : ¬IsHexDigest "" := by decide
  rw [computeMerkleRoot_eq_root]
  intro h
  by_cases hone : 1 < (l.treeLeaves py).length
  · obtain ⟨p, _, hroot⟩ := @MerkleTree.root_eq_node _ (merkleNode py) (emptyRoot py) _ hone
    exact hempty (h ▸ hroot ▸ hsha _)
  · rw [MerkleTree.root_of_not_one_lt _ hone, treeLeaves] at h
    split at h
    · exact hempty (h ▸ hsha _)
    · next hne =>
      obtain ⟨x, xs, hx⟩ := List.exists_cons_of_ne_nil hne
      rw [hx, List.headD_cons] at h
      exact hempty (h ▸ hl x (hx ▸ List.mem_cons_self))

/-- Two logs have the same root if and only if their trees are the same. -/
theorem AnchorAssumptions.root_eq_iff (h : AnchorAssumptions py l m) :
    m.computeMerkleRoot py = l.computeMerkleRoot py ↔ SameMerkleTree py l m := by
  rw [eq_comm, l.computeMerkleRoot_eq_root, m.computeMerkleRoot_eq_root]
  refine MerkleTree.root_eq_root_iff _ l.treeLeaves_ne_nil m.treeLeaves_ne_nil
    fun p hp q hq hnode => ?_
  rw [AuditLog.pairs_treeLeaves] at hp hq
  have htext : p.1 ++ p.2 = q.1 ++ q.2 :=
    h.sha256_inj (.inl ⟨p, hp, rfl⟩) (.inr ⟨q, hq, rfl⟩) hnode
  -- Digests have one length, so a concatenation of two can be taken apart.
  have hp₁ := (MerkleTree.forall_mem_pairs h.isHexDigest_left (fun _ _ => h.isHexDigest _) p hp).1
  have hq₁ := (MerkleTree.forall_mem_pairs h.isHexDigest_right (fun _ _ => h.isHexDigest _) q hq).1
  obtain ⟨h₁, h₂⟩ := hp₁.append_inj hq₁ htext
  exact Prod.ext h₁ h₂

/-- A later list of hashes that passes the verification of an anchored root is the anchored
    list if and only if it is so anyway or its tree is another one. -/
theorem verifyMerkle_pins_iff (py : Python) (l m : AuditLog) (h : AnchorAssumptions py l m) :
    ((m.verifyMerkle py (some (l.computeMerkleRoot py))).valid = true → m.leaves = l.leaves) ↔
      m.leaves = l.leaves ∨ ¬SameMerkleTree py l m := by
  rw [AuditLog.valid_verifyMerkle_iff
    (AuditLog.computeMerkleRoot_ne_empty h.isHexDigest h.isHexDigest_left), h.root_eq_iff,
    or_comm]
  exact imp_iff_not_or

/-- If as many hashes are there as at the time of anchoring, they are the anchored ones. -/
theorem leaves_eq_of_valid_verifyMerkle (h : AnchorAssumptions py l m)
    (hlen : m.length = l.length)
    (hvalid : (m.verifyMerkle py (some (l.computeMerkleRoot py))).valid = true) :
    m.leaves = l.leaves := by
  have hleaves : l.leaves.length = m.leaves.length := by
    rw [AuditLog.leaves, List.length_map, AuditLog.leaves, List.length_map]
    exact hlen.symm
  have hsame : SameMerkleTree py l m := h.root_eq_iff.1 <| (AuditLog.valid_verifyMerkle_iff
    (AuditLog.computeMerkleRoot_ne_empty h.isHexDigest h.isHexDigest_left)).1 hvalid
  rw [SameMerkleTree, AuditLog.treeLeaves, AuditLog.treeLeaves] at hsame
  by_cases hl : l.leaves = []
  · rw [hl, List.length_nil] at hleaves
    rw [hl, List.eq_nil_of_length_eq_zero hleaves.symm]
  · have hm : m.leaves ≠ [] := by
      rw [← List.length_pos_iff, ← hleaves]
      exact List.length_pos_iff.2 hl
    rw [if_neg hl, if_neg hm] at hsame
    exact (hsame.eq_of_length_eq hleaves).symm

/-- A log of odd length may repeat its last entry. -/
theorem valid_verifyMerkle_of_repeated {e : AuditEntry} (hone : 1 < l.length)
    (hodd : l.length % 2 = 1) (hlast : l.entries.getLast? = some e)
    (hm : m.entries = l.entries ++ [e]) :
    (m.verifyMerkle py (some (l.computeMerkleRoot py))).valid = true := by
  have hlen : l.leaves.length = l.length := List.length_map _
  have hleaves : m.leaves = MerkleTree.pad l.leaves := by
    rw [MerkleTree.pad, hlen, if_pos hodd, AuditLog.leaves, hm, AuditLog.leaves,
      List.getLast?_map, hlast, List.map_append]
    rfl
  have hpad : MerkleTree.pad m.leaves = MerkleTree.pad l.leaves := by
    rw [hleaves, MerkleTree.pad, if_neg]
    rw [MerkleTree.length_pad]
    omega
  have hlen' : m.leaves.length = l.length + 1 := by
    rw [hleaves, MerkleTree.length_pad, hlen, hodd]
  have hroot : m.computeMerkleRoot py = l.computeMerkleRoot py := by
    rw [AuditLog.computeMerkleRoot_eq, AuditLog.computeMerkleRoot_eq]
    exact MerkleTree.root_eq_of_pad_eq _ (by omega) (by omega) hpad
  rw [AuditLog.verifyMerkle]
  split
  · next h => exact absurd hroot h.2
  · rfl

namespace Sample

def doneHash : String := "a68480d6bcb1373f1690b90c18d7bd5536f3fdf65f188459749c1e2e3deee0bd"

def doneArgs : RecordArgs := { startArgs with event := .str "done", now := .fin 3 }

def doneText : String :=
  "\x7b\"agent_id\":null,\"category\":\"agent_command\",\"details\":\x7b\x7d," ++
  "\"event\":\"done\"," ++
  "\"prev_hash\":\"dd00b28aec42e7de5f7e6f0ddd3889df21adbb9c854141ea2ca477e92259530f\"," ++
  "\"severity\":\"info\",\"task_id\":null,\"timestamp\":3.0\x7d"

def doneTwiceHash : String := "9e79b0464ff66309548d3c4cc62c32468476355962dca9137d0308de6fa0ba92"

/-- The digests of the three entries and of their tree. -/
def anchorDigests : List (String × String) := [(startText, startHash), (stopText, stopHash),
  (doneText, doneHash), (startHash ++ stopHash, rootHash), (doneHash ++ doneHash, doneTwiceHash),
  (rootHash ++ doneTwiceHash, "fc1fca03c6acb40136c47a1980f435a77dc2d7672e9fe23763c882f1393bdf9f")]

def anchorLib : Python :=
  .plain anchorDigests "e3b0c44298fc1c149afbf4c8996fb92427ae41e4649b934ca495991b7852b855"

def doneEntry : AuditEntry := { log.newEntry doneArgs with entryHash := doneHash }

/-- The log of three events. -/
def doneLog : AuditLog := { log.append 3 doneEntry with dirty := true }

/-- The same with its last entry twice. -/
def doneTwiceLog : AuditLog := { doneLog with entries := doneLog.entries ++ [doneEntry] }

theorem doneLog_reachable : doneLog.Reachable anchorLib := by
  have hstart : (emptyLog.newEntry startArgs).computeHash anchorLib = .ok startHash :=
    AuditEntry.computeHash_eq_ok.2 ⟨_, dumps_startEntry, by decide +kernel⟩
  have hstop : (startLog.newEntry stopArgs).computeHash anchorLib = .ok stopHash :=
    AuditEntry.computeHash_eq_ok.2 ⟨_, dumps_stopEntry, by decide +kernel⟩
  have hdone : (log.newEntry doneArgs).computeHash anchorLib = .ok doneHash := by
    have htext : jsonText (log.newEntry doneArgs).content = some doneText := by decide +kernel
    exact AuditEntry.computeHash_eq_ok.2 ⟨_, jsonDumps_eq_ok.2 htext, by decide +kernel⟩
  have hstart : (Call.record startArgs [] none).exec anchorLib emptyLog = startLog :=
    Call.exec_record_nil hstart
  have hstop : (Call.record stopArgs [] none).exec anchorLib startLog = log :=
    Call.exec_record_nil hstop
  have hdone : (Call.record doneArgs [] none).exec anchorLib log = doneLog :=
    Call.exec_record_nil hdone
  refine ⟨"/var/lib/vibeshield/audit", false,
    [.record startArgs [] none, .record stopArgs [] none, .record doneArgs [] none], ?_⟩
  rw [execAll, execAll, execAll, execAll, ← hdone, ← hstop, ← hstart]
  rfl

theorem leaves_doneLog : doneLog.leaves = [startHash, stopHash, doneHash] := rfl

theorem leaves_doneTwiceLog :
    doneTwiceLog.leaves = [startHash, stopHash, doneHash, doneHash] := rfl

/-- Both trees hash the same strings. -/
theorem mem_pairs_doneLog {p : String × String}
    (hp : p ∈ MerkleTree.pairs (merkleNode anchorLib) doneLog.leaves ∨
      p ∈ MerkleTree.pairs (merkleNode anchorLib) doneTwiceLog.leaves) :
    p.1 ++ p.2 ∈ [startHash ++ stopHash, doneHash ++ doneHash, rootHash ++ doneTwiceHash] := by
  have hroot : anchorLib.sha256 (startHash ++ stopHash) = rootHash := by decide +kernel
  have htwice : anchorLib.sha256 (doneHash ++ doneHash) = doneTwiceHash := by decide +kernel
  have hpairs : MerkleTree.pairs (merkleNode anchorLib) doneLog.leaves =
      [(startHash, stopHash), (doneHash, doneHash), (rootHash, doneTwiceHash)] := by
    simp [leaves_doneLog, MerkleTree.pairs, MerkleTree.pad, MerkleTree.parents,
      MerkleTree.pairUp, merkleNode, hroot, htwice]
  have hpairs' : MerkleTree.pairs (merkleNode anchorLib) doneTwiceLog.leaves =
      [(startHash, stopHash), (doneHash, doneHash), (rootHash, doneTwiceHash)] := by
    simp [leaves_doneTwiceLog, MerkleTree.pairs, MerkleTree.pad, MerkleTree.parents,
      MerkleTree.pairUp, merkleNode, hroot, htwice]
  rw [hpairs, hpairs', or_self] at hp
  simp only [List.mem_cons, List.not_mem_nil, or_false] at hp
  rcases hp with rfl | rfl | rfl <;> simp

theorem anchorAssumptions_doneLog : AnchorAssumptions anchorLib doneLog doneTwiceLog where
  sha256_inj := by
    have hinj : Set.InjOn anchorLib.sha256 {t | t ∈ anchorDigests.map Prod.fst} :=
      Python.injOn_plain (by decide +kernel)
    have hsub : [startHash ++ stopHash, doneHash ++ doneHash, rootHash ++ doneTwiceHash] ⊆
        anchorDigests.map Prod.fst := (List.suffix_append [startText, stopText, doneText] _).subset
    refine hinj.mono ?_
    rintro t (⟨p, hp, rfl⟩ | ⟨p, hp, rfl⟩)
    · exact hsub (mem_pairs_doneLog (.inl hp))
    · exact hsub (mem_pairs_doneLog (.inr hp))
  isHexDigest t := by
    have hdigests : ∀ d ∈ "e3b0c44298fc1c149afbf4c8996fb92427ae41e4649b934ca495991b7852b855" ::
        anchorDigests.map Prod.snd, IsHexDigest d := by decide +kernel
    exact hdigests _ (Python.sha256_plain_mem t)
  isHexDigest_left := by
    rw [leaves_doneLog]
    decide +kernel
  isHexDigest_right := by
    rw [leaves_doneTwiceLog]
    decide +kernel

theorem valid_doneTwiceLog :
    (doneTwiceLog.verifyMerkle anchorLib
      (some (doneLog.computeMerkleRoot anchorLib))).valid = true :=
  valid_verifyMerkle_of_repeated (e := doneEntry) (by decide) (by decide) rfl rfl

theorem leaves_doneTwiceLog_ne : doneTwiceLog.leaves ≠ doneLog.leaves :=
  fun h => absurd (congrArg List.length h) (by decide)

/-- The root of three entries is the one of four, if the last two of them are the same. -/
theorem anchored_root_admits_repetition :
    doneLog.Reachable anchorLib ∧ AnchorAssumptions anchorLib doneLog doneTwiceLog ∧
      (doneTwiceLog.verifyMerkle anchorLib
        (some (doneLog.computeMerkleRoot anchorLib))).valid = true ∧
      doneTwiceLog.leaves ≠ doneLog.leaves := by
  exact ⟨doneLog_reachable, anchorAssumptions_doneLog, valid_doneTwiceLog, leaves_doneTwiceLog_ne⟩

theorem sameMerkleTree_doneTwiceLog : SameMerkleTree anchorLib doneLog doneTwiceLog := by
  by_contra htree
  exact leaves_doneTwiceLog_ne <|
    (verifyMerkle_pins_iff anchorLib doneLog doneTwiceLog anchorAssumptions_doneLog).2
      (.inr htree) valid_doneTwiceLog

end Sample

end VibeShield
