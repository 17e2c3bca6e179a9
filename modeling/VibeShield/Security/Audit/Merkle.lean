import VibeShield.Lib.MerkleTree
import VibeShield.Security.Audit.Log

/-!
# The Merkle tree of an audit log

The leaves are the entry hashes, a node is the digest of the concatenation of
the two below it (`merkleNode`), and an odd level repeats its last node: a
`MerkleTree`. A proof for an entry lists the siblings on its way to the root,
and is checked by hashing upwards from the entry hash (`foldProof`).
-/

namespace VibeShield

/-- The node above two nodes. -/
def merkleNode (py : Python) (left right : String) : String := py.sha256 (left ++ right)

/-- The root of a tree without leaves. -/
def emptyRoot (py : Python) : String := py.sha256 "EMPTY_LOG"

/-- The root over a list of leaf hashes. -/
def merkleRoot (py : Python) (leaves : List String) : String :=
  MerkleTree.root (merkleNode py) (emptyRoot py) leaves

theorem merkleRoot_nil (py : Python) : merkleRoot py [] = emptyRoot py :=
  MerkleTree.root_of_not_one_lt _ (Nat.not_lt_zero 1)

/-- Hashing upwards from `hash` along a proof for the entry of the given
    number: at level `k`, bit `k` of `sequence - 1` tells if the sibling is on
    the left. -/
def foldProof (py : Python) (sequence : ℕ) (hash : String) (proof : List String) : String :=
  MerkleTree.climb (merkleNode py) (sequence - 1) 0 hash proof

/-- The strings hashed on the way. -/
def foldTexts (py : Python) (sequence : ℕ) (hash : String) (proof : List String) :
    List String :=
  (MerkleTree.climbPairs (merkleNode py) (sequence - 1) 0 hash proof).map fun p => p.1 ++ p.2

/-- What `verify_merkle` returns. -/
structure MerkleReport where
  valid : Bool
  merkleRoot : String
  entryCount : ℕ
  reason : Option String

namespace AuditLog

/-- The leaves of the tree. -/
def leaves (l : AuditLog) : List String := l.entries.map AuditEntry.entryHash

/-- The root over the audit chain. -/
def computeMerkleRoot (py : Python) (l : AuditLog) : String :=
  if l.entries = [] then emptyRoot py else merkleRoot py l.leaves

/-- The siblings on the way from an entry to the root. -/
def computeMerkleProof (py : Python) (l : AuditLog) (sequence : ℤ) : List String :=
  let idx := sequence - 1
  if l.entries = [] ∨ idx < 0 ∨ l.leaves.length ≤ idx then []
  else MerkleTree.proof (merkleNode py) l.leaves idx.toNat

/-- Comparing the root with an expected one, unless it is empty or not given. -/
def verifyMerkle (py : Python) (l : AuditLog) (expectedRoot : Option String) : MerkleReport :=
  let currentRoot := l.computeMerkleRoot py
  match expectedRoot with
  | some expected =>
    if expected ≠ "" ∧ currentRoot ≠ expected then
      ⟨false, currentRoot, l.length, some <| s!"Merkle root mismatch: expected " ++
        s!"{slice expected 16}..., got {slice currentRoot 16}..."⟩
    else ⟨true, currentRoot, l.length, none⟩
  | none => ⟨true, currentRoot, l.length, none⟩

variable {py : Python}

theorem valid_verifyMerkle_iff {l : AuditLog} {expected : String} (hne : expected ≠ "") :
    (l.verifyMerkle py (some expected)).valid = true ↔ l.computeMerkleRoot py = expected := by
  rw [verifyMerkle]
  split
  · next h => exact iff_of_false Bool.false_ne_true h.2
  · next h => exact iff_of_true rfl (by_contra fun hroot => h ⟨hne, hroot⟩)

theorem computeMerkleRoot_eq (l : AuditLog) : l.computeMerkleRoot py = merkleRoot py l.leaves := by
  rw [computeMerkleRoot]
  split
  · next h => rw [leaves, h, List.map_nil, merkleRoot_nil]
  · rfl

theorem computeMerkleProof_of_lt {l : AuditLog} {i : ℕ} (hi : i < l.length) :
    l.computeMerkleProof py ((i : ℤ) + 1) = MerkleTree.proof (merkleNode py) l.leaves i := by
  have hne : l.entries ≠ [] := List.ne_nil_of_length_pos (Nat.zero_lt_of_lt hi)
  have hlen : l.leaves.length = l.length := List.length_map _
  simp only [computeMerkleProof, hne, hlen, add_sub_cancel_right, false_or, Int.toNat_natCast]
  rw [if_neg (by omega)]

/-- The proof for an entry leads from its hash to the root. -/
theorem foldProof_computeMerkleProof {l : AuditLog} {i : ℕ} (hi : i < l.entries.length) :
    foldProof py (i + 1) l.entries[i].entryHash (l.computeMerkleProof py ((i : ℤ) + 1)) =
      l.computeMerkleRoot py := by
  have hi' : i < l.leaves.length := (List.length_map _).symm ▸ hi
  rw [computeMerkleProof_of_lt hi, computeMerkleRoot_eq, foldProof, merkleRoot, Nat.add_sub_cancel,
    ← MerkleTree.climb_proof _ hi']
  simp only [leaves, List.getElem_map]

end AuditLog

/-- Along the same proof, different hashes lead to different roots: of two equal
    concatenations sharing one side, the other sides are equal. -/
theorem foldProof_injective {py : Python} {sequence : ℕ} {x y : String} {proof : List String}
    (hinj : Set.InjOn py.sha256
      {t | t ∈ foldTexts py sequence x proof ++ foldTexts py sequence y proof})
    (h : foldProof py sequence x proof = foldProof py sequence y proof) : x = y := by
  refine MerkleTree.climb_injective (fun a ha b hb hab => ?_) h
  -- Nothing is asked of the lengths: the sibling is on the same side of both.
  have htext : a.1 ++ a.2 = b.1 ++ b.2 :=
    hinj (List.mem_append_left _ (List.mem_map_of_mem ha))
      (List.mem_append_right _ (List.mem_map_of_mem hb)) hab
  constructor
  · intro h₁
    rw [h₁] at htext
    exact (String.append_right_inj _).1 htext
  · intro h₂
    rw [h₂] at htext
    exact (String.append_left_inj _).1 htext

/-- The proof for an entry verifies against the root, and no other hash does. -/
theorem merkle_proof_sound (py : Python) (l : AuditLog) (i : ℕ) (hi : i < l.entries.length) :
    let proof := l.computeMerkleProof py ((i : ℤ) + 1)
    let hash := l.entries[i].entryHash
    foldProof py (i + 1) hash proof = l.computeMerkleRoot py ∧
      ∀ other, Set.InjOn py.sha256
          {t | t ∈ foldTexts py (i + 1) hash proof ++ foldTexts py (i + 1) other proof} →
        other ≠ hash → foldProof py (i + 1) other proof ≠ l.computeMerkleRoot py := by
  intro proof hash
  have hroot : foldProof py (i + 1) hash proof = l.computeMerkleRoot py :=
    AuditLog.foldProof_computeMerkleProof hi
  exact ⟨hroot, fun other hinj hne h =>
    hne (foldProof_injective hinj (hroot.trans h.symm)).symm⟩

theorem Sample.computeMerkleProof_log : log.computeMerkleProof lib 2 = [startHash] := by
  rw [show (2 : ℤ) = ((1 : ℕ) : ℤ) + 1 from rfl, AuditLog.computeMerkleProof_of_lt (by decide)]
  simp [AuditLog.leaves, log, startLog, emptyLog, AuditLog.new, AuditLog.append, MerkleTree.proof,
    MerkleTree.pad, MerkleTree.parents, MerkleTree.pairUp, startEntry, stopEntry]

theorem Sample.merkle_proof_sound_log :
    foldProof Sample.lib 2 Sample.stopHash (Sample.log.computeMerkleProof Sample.lib 2) =
        Sample.log.computeMerkleRoot Sample.lib ∧
      foldProof Sample.lib 2 Sample.startHash (Sample.log.computeMerkleProof Sample.lib 2) ≠
        Sample.log.computeMerkleRoot Sample.lib := by
  obtain ⟨hroot, hother⟩ := merkle_proof_sound Sample.lib Sample.log 1 (by decide)
  refine ⟨hroot, hother Sample.startHash ?_ (by decide +kernel)⟩
  have hhash : lib.sha256 (startHash ++ stopHash) ≠ lib.sha256 (startHash ++ startHash) := by
    decide +kernel
  have htexts : ∀ t ∈ foldTexts lib 2 stopHash [startHash] ++ foldTexts lib 2 startHash [startHash],
      t = startHash ++ stopHash ∨ t = startHash ++ startHash := fun t ht => by
    simpa using (show t ∈ [startHash ++ stopHash, startHash ++ startHash] from ht)
  rintro t ht u hu h
  obtain ht := htexts t (computeMerkleProof_log ▸ ht)
  obtain hu := htexts u (computeMerkleProof_log ▸ hu)
  rcases ht with rfl | rfl <;> rcases hu with rfl | rfl
  · rfl
  · exact absurd h hhash
  · exact absurd h.symm hhash
  · rfl

end VibeShield
