import Mathlib.Data.Set.Function
import VibeShield.Security.Audit.Merkle

/-!
# What the last hash and the Merkle root commit to

Two verified logs with the same last hash, or with the same Merkle root, are
equal entry by entry (`last_hash_commits`, `merkle_root_commits`). This rests on
two assumptions about the strings that are hashed in the two logs: different ones
have different digests, and the canonical text of an entry determines its hashed
fields (`DumpsInjOn`).

The sequence numbers are not hashed. They agree because both logs are numbered
from 1 on; as an imported log may hold `1.0` or `true` for `1`, they agree as
numbers (`AuditEntry.Same`).
-/

namespace VibeShield

/-- Equality of entries field by field, of the sequences as numbers. -/
structure AuditEntry.Same (e f : AuditEntry) : Prop where
  content : e.content = f.content
  entryHash : e.entryHash = f.entryHash
  sequence : ∃ n, e.sequence.toInt? = some n ∧ f.sequence.toInt? = some n

/-- The texts hashed for the entries. -/
def hashedTexts (py : Python) (es : List AuditEntry) : Set String :=
  {t | ∃ e ∈ es, py.dumps e.content = .ok t}

theorem hashedTexts_mono {py : Python} {es fs : List AuditEntry} (h : es ⊆ fs) :
    hashedTexts py es ⊆ hashedTexts py fs :=
  fun _ ⟨e, he, ht⟩ => ⟨e, h he, ht⟩

/-- Among the entries, the canonical text determines the hashed fields. -/
def DumpsInjOn (py : Python) (es : List AuditEntry) : Prop :=
  ∀ e ∈ es, ∀ f ∈ es, ∀ t, py.dumps e.content = .ok t → py.dumps f.content = .ok t →
    e.content = f.content

variable {py : Python}

/-- Sealed entries with the same hash have the same content. -/
theorem content_eq_of_entryHash_eq {es : List AuditEntry}
    (hsha : Set.InjOn py.sha256 (hashedTexts py es)) (hdumps : DumpsInjOn py es)
    {e f : AuditEntry} (he : e ∈ es) (hf : f ∈ es) (hes : IsSealed py e) (hfs : IsSealed py f)
    (h : e.entryHash = f.entryHash) : e.content = f.content := by
  obtain ⟨t, ht, hte⟩ := AuditEntry.computeHash_eq_ok.1 hes
  obtain ⟨u, hu, huf⟩ := AuditEntry.computeHash_eq_ok.1 hfs
  have htu : t = u := hsha ⟨e, he, ht⟩ ⟨f, hf, hu⟩ (hte.trans (h.trans huf.symm))
  exact hdumps e he f hf t ht (htu ▸ hu)

theorem IsSealed.entryHash_ne_genesisHash (hgen : ∀ t, py.sha256 t ≠ genesisHash)
    {e : AuditEntry} (he : IsSealed py e) : e.entryHash ≠ genesisHash := by
  obtain ⟨t, _, ht⟩ := AuditEntry.computeHash_eq_ok.1 he
  exact ht ▸ hgen t

/-! ## The last hash -/

/-- Lists numbered alike that agree item by item agree in the numbers. -/
theorem Numbered.forall₂_same {i : ℕ} {es fs : List AuditEntry} (he : Numbered i es)
    (hf : Numbered i fs)
    (h : List.Forall₂ (fun e f => e.content = f.content ∧ e.entryHash = f.entryHash) es fs) :
    List.Forall₂ AuditEntry.Same es fs := by
  induction h generalizing i with
  | nil => exact .nil
  | cons hef _ ih => exact .cons ⟨hef.1, hef.2, _, he.1, hf.1⟩ (ih he.2 hf.2)

/-- Of integers, being the same number is being equal. -/
theorem AuditEntry.Same.eq_of_int {e f : AuditEntry} (h : e.Same f)
    (he : ∃ n, e.sequence = .int n) (hf : ∃ n, f.sequence = .int n) : e = f := by
  obtain ⟨n, hn⟩ := he
  obtain ⟨k, hk⟩ := hf
  obtain ⟨j, hej, hfj⟩ := h.sequence
  rw [hn, PyVal.toInt?_int, Option.some.injEq] at hej
  rw [hk, PyVal.toInt?_int, Option.some.injEq] at hfj
  refine eq_of_content_eq h.content h.entryHash ?_
  rw [hn, hk, hej, hfj]

theorem eq_of_forall₂_same {es fs : List AuditEntry} (h : List.Forall₂ AuditEntry.Same es fs)
    (hint : ∀ e ∈ es ++ fs, ∃ n, e.sequence = .int n) : es = fs := by
  induction h with
  | nil => rfl
  | cons hef _ ih =>
    rw [hef.eq_of_int (hint _ (by simp)) (hint _ (by simp)),
      ih fun e he => hint e (by simp at he ⊢; tauto)]

/-- Verified logs ending in the same hash are the same log. -/
theorem forall₂_same_of_lastHash_eq {l m : AuditLog}
    (hsha : Set.InjOn py.sha256 (hashedTexts py (l.entries ++ m.entries)))
    (hgen : ∀ t, py.sha256 t ≠ genesisHash) (hdumps : DumpsInjOn py (l.entries ++ m.entries))
    (hl : l.verifyChain py = .ok .intact) (hm : m.verifyChain py = .ok .intact)
    (h : l.lastHash = m.lastHash) : List.Forall₂ AuditEntry.Same l.entries m.entries := by
  obtain ⟨hnl, hcl⟩ := AuditLog.verifyChain_eq_intact.1 hl
  obtain ⟨hnm, hcm⟩ := AuditLog.verifyChain_eq_intact.1 hm
  -- The chains agree from their last entries backwards; the numbers, which are not
  -- hashed, agree because both count from 1.
  rw [l.lastHash_eq_tip, m.lastHash_eq_tip] at h
  refine hnl.forall₂_same hnm <| hcl.forall₂_of_tip_eq hcm
    (fun e he => (hcl.isSealed e he).entryHash_ne_genesisHash hgen)
    (fun e he => (hcm.isSealed e he).entryHash_ne_genesisHash hgen) (fun e he f hf hef => ?_) h
  have hcontent : e.content = f.content :=
    content_eq_of_entryHash_eq hsha hdumps (List.mem_append_left _ he)
      (List.mem_append_right _ hf) (hcl.isSealed e he) (hcm.isSealed f hf) hef
  exact ⟨⟨hcontent, hef⟩, (AuditEntry.content_inj hcontent).2.2.2.2.2.2.2⟩

/-- The last hash commits to the whole log. -/
theorem last_hash_commits (py : Python) (l m : AuditLog)
    (hsha : Set.InjOn py.sha256 (hashedTexts py (l.entries ++ m.entries)))
    (hgen : ∀ t, py.sha256 t ≠ genesisHash) (hdumps : DumpsInjOn py (l.entries ++ m.entries))
    (hl : l.verifyChain py = .ok .intact) (hm : m.verifyChain py = .ok .intact)
    (h : l.lastHash = m.lastHash) :
    List.Forall₂ AuditEntry.Same l.entries m.entries ∧
      ((∀ e ∈ l.entries ++ m.entries, ∃ n, e.sequence = .int n) → l.entries = m.entries) := by
  have hsame := forall₂_same_of_lastHash_eq hsha hgen hdumps hl hm h
  exact ⟨hsame, eq_of_forall₂_same hsame⟩

namespace Sample

theorem mem_log_entries {e : AuditEntry} (he : e ∈ log.entries ++ log.entries) :
    e = startEntry ∨ e = stopEntry := by
  have : e ∈ [startEntry, stopEntry] ++ [startEntry, stopEntry] := he
  simp only [List.cons_append, List.nil_append, List.mem_cons, List.not_mem_nil] at this
  tauto

theorem hashedTexts_log {t : String} (ht : t ∈ hashedTexts lib (log.entries ++ log.entries)) :
    t = startText ∨ t = stopText := by
  obtain ⟨e, he, ht⟩ := ht
  rcases mem_log_entries he with rfl | rfl
  · exact .inl (Except.ok.inj (ht.symm.trans dumps_startEntry))
  · exact .inr (Except.ok.inj (ht.symm.trans dumps_stopEntry))

theorem dumpsInjOn_log : DumpsInjOn lib (log.entries ++ log.entries) := by
  have hne : startText ≠ stopText := by decide +kernel
  intro e he f hf t het hft
  rcases mem_log_entries he with rfl | rfl <;> rcases mem_log_entries hf with rfl | rfl <;>
    simp_all [dumps_startEntry, dumps_stopEntry]

/-- No two of the hashed strings have the same digest. -/
theorem injOn_sha256 : Set.InjOn lib.sha256
    {t | t ∈ [startText, stopText, startHash ++ stopHash, "EMPTY_LOG"]} :=
  Python.injOn_plain (by decide +kernel)

/-- What holds of the five digests holds of all. -/
theorem forall_sha256 {P : String → Prop}
    (h : ∀ d ∈ ["e3b0c44298fc1c149afbf4c8996fb92427ae41e4649b934ca495991b7852b855", startHash,
      stopHash, rootHash, "50432a0fd7dbc736661946dfd14857347c0dbc2fa399c9dcb637b39b422d3619"], P d)
    (t : String) : P (lib.sha256 t) :=
  h _ (Python.sha256_plain_mem t)

theorem last_hash_commits_log : List.Forall₂ AuditEntry.Same log.entries log.entries := by
  have hgen : ∀ t, lib.sha256 t ≠ genesisHash :=
    forall_sha256 (P := fun d => d ≠ genesisHash) (by decide +kernel)
  refine (last_hash_commits lib log log (injOn_sha256.mono fun t ht => ?_) hgen dumpsInjOn_log
    log_verified log_verified rfl).1
  rcases hashedTexts_log ht with rfl | rfl <;> simp

end Sample

/-! ## The Merkle root -/

/-- Whether a character is a hexadecimal digit, in lower case. -/
def isHexDigit (c : Char) : Bool := c.isDigit || (97 ≤ c.toNat && c.toNat ≤ 102)

/-- A digest of 64 hexadecimal digits. -/
def IsHexDigest (s : String) : Prop := s.toList.length = 64 ∧ s.toList.all isHexDigit = true

instance (s : String) : Decidable (IsHexDigest s) :=
  inferInstanceAs (Decidable (_ ∧ _))

/-- The strings hashed in the tree over the leaves. -/
def treeTexts (py : Python) (leaves : List String) : Set String :=
  {t | ∃ p ∈ MerkleTree.pairs (merkleNode py) leaves, t = p.1 ++ p.2}

/-- The strings hashed for the entries and the tree of a log, or for an empty one. -/
def logTexts (py : Python) (l : AuditLog) : Set String :=
  hashedTexts py l.entries ∪ treeTexts py l.leaves ∪ {"EMPTY_LOG"}

/-- What is assumed of the library for the Merkle roots of two logs: the strings
    hashed for them have different digests of 64 digits, and the canonical text
    of an entry is a JSON object that determines its hashed fields. -/
structure MerkleAssumptions (py : Python) (l m : AuditLog) : Prop where
  sha256_inj : Set.InjOn py.sha256 (logTexts py l ∪ logTexts py m)
  isHexDigest : ∀ t, IsHexDigest (py.sha256 t)
  dumps_inj : DumpsInjOn py (l.entries ++ m.entries)
  dumps_object : ∀ e ∈ l.entries ++ m.entries, ∀ t, py.dumps e.content = .ok t →
    t.toList.head? = some '{'

theorem IsHexDigest.ne_genesisHash {s : String} (h : IsHexDigest s) : s ≠ genesisHash := by
  rintro rfl
  exact absurd h.1 (by decide)

/-- The concatenation of two digests has 128 characters, none of them a brace. -/
theorem IsHexDigest.length_append {s t : String} (hs : IsHexDigest s) (ht : IsHexDigest t) :
    (s ++ t).toList.length = 128 := by
  rw [String.toList_append, List.length_append, hs.1, ht.1]

theorem IsHexDigest.head?_append {s t : String} (hs : IsHexDigest s) :
    (s ++ t).toList.head? ≠ some '{' := by
  rw [String.toList_append, List.head?_append_of_ne_nil _ (by
    rw [← List.length_pos_iff, hs.1]; decide)]
  exact fun h => absurd (List.all_eq_true.1 hs.2 _ (List.mem_of_head? h)) (by decide)

theorem IsHexDigest.append_inj {s t u v : String} (hs : IsHexDigest s) (hu : IsHexDigest u)
    (h : s ++ t = u ++ v) : s = u ∧ t = v := by
  have hlist : s.toList ++ t.toList = u.toList ++ v.toList := by
    rw [← String.toList_append, ← String.toList_append, h]
  obtain ⟨h₁, h₂⟩ := List.append_inj hlist (hs.1.trans hu.1.symm)
  exact ⟨String.toList_inj.1 h₁, String.toList_inj.1 h₂⟩

section Merkle

variable {l m : AuditLog}

theorem lastHash_eq_getLast (l : AuditLog) : l.lastHash = l.leaves.getLast?.getD genesisHash := by
  rw [AuditLog.lastHash, AuditLog.leaves, List.getLast?_map]
  cases l.entries.getLast? <;> rfl

/-- In a chain, a leaf is the digest of the text of its entry. -/
theorem exists_text_of_mem_leaves (hl : Chained py genesisHash l.entries) {x : String}
    (hx : x ∈ l.leaves) : ∃ e ∈ l.entries, ∃ t, py.dumps e.content = .ok t ∧ py.sha256 t = x := by
  obtain ⟨e, he, rfl⟩ := List.mem_map.1 hx
  exact ⟨e, he, AuditEntry.computeHash_eq_ok.1 (hl.isSealed e he)⟩

variable (hyp : MerkleAssumptions py l m)
include hyp

theorem MerkleAssumptions.symm : MerkleAssumptions py m l where
  sha256_inj := Set.union_comm (logTexts py l) _ ▸ hyp.sha256_inj
  isHexDigest := hyp.isHexDigest
  dumps_inj e he f hf := hyp.dumps_inj e (List.mem_append.2 (List.mem_append.1 he).symm) f
    (List.mem_append.2 (List.mem_append.1 hf).symm)
  dumps_object e he := hyp.dumps_object e (List.mem_append.2 (List.mem_append.1 he).symm)

theorem MerkleAssumptions.sha256_inj_entries :
    Set.InjOn py.sha256 (hashedTexts py (l.entries ++ m.entries)) := by
  refine hyp.sha256_inj.mono ?_
  rintro t ⟨e, he, ht⟩
  rcases List.mem_append.1 he with he | he
  · exact .inl (.inl (.inl ⟨e, he, ht⟩))
  · exact .inr (.inl (.inl ⟨e, he, ht⟩))

theorem MerkleAssumptions.isHexDigest_of_mem (hl : Chained py genesisHash l.entries) {x : String}
    (hx : x ∈ l.leaves) : IsHexDigest x := by
  obtain ⟨_, _, t, _, rfl⟩ := exists_text_of_mem_leaves hl hx
  exact hyp.isHexDigest t

/-- A verified chain has no two leaves alike. -/
theorem MerkleAssumptions.nodup_leaves (hl : Chained py genesisHash l.entries) :
    l.leaves.Nodup := by
  refine hl.nodup_map_digest
    (fun e he => (hyp.isHexDigest_of_mem hl (List.mem_map_of_mem he)).ne_genesisHash)
    (fun e he f hf hef => ?_)
  have hcontent : e.content = f.content :=
    content_eq_of_entryHash_eq hyp.sha256_inj_entries hyp.dumps_inj (List.mem_append_left _ he)
      (List.mem_append_left _ hf) (hl.isSealed e he) (hl.isSealed f hf) hef
  exact (AuditEntry.content_inj hcontent).2.2.2.2.2.2.2

/-- The two sides of a pair combined in the tree are digests. -/
theorem MerkleAssumptions.isHexDigest_of_mem_pairs (hl : Chained py genesisHash l.entries)
    {p : String × String} (hp : p ∈ MerkleTree.pairs (merkleNode py) l.leaves) :
    IsHexDigest p.1 ∧ IsHexDigest p.2 :=
  MerkleTree.forall_mem_pairs (fun _ => hyp.isHexDigest_of_mem hl)
    (fun _ _ => hyp.isHexDigest _) p hp

/-- An inner node is no leaf: what is hashed for it does not begin with a brace. -/
theorem MerkleAssumptions.node_ne_leaf (hl : Chained py genesisHash l.entries) {t : String}
    (ht : t ∈ logTexts py l ∪ logTexts py m) (hhead : t.toList.head? ≠ some '{') :
    py.sha256 t ∉ l.leaves := by
  intro hmem
  obtain ⟨e, he, u, hu, hut⟩ := exists_text_of_mem_leaves hl hmem
  obtain rfl : u = t := hyp.sha256_inj (.inl (.inl (.inl ⟨e, he, hu⟩))) ht hut
  exact hhead (hyp.dumps_object e (List.mem_append_left _ he) u hu)

theorem MerkleAssumptions.separated (hl : Chained py genesisHash l.entries)
    (hm : Chained py genesisHash m.entries) :
    MerkleTree.Separated (merkleNode py) l.leaves m.leaves := by
  -- Every pair consists of digests, and its concatenation is hashed.
  have hpair : ∀ p ∈ MerkleTree.pairs (merkleNode py) l.leaves ++
      MerkleTree.pairs (merkleNode py) m.leaves,
      (IsHexDigest p.1 ∧ IsHexDigest p.2) ∧ p.1 ++ p.2 ∈ logTexts py l ∪ logTexts py m := by
    intro p hp
    rcases List.mem_append.1 hp with hp | hp
    · exact ⟨hyp.isHexDigest_of_mem_pairs hl hp, .inl (.inl (.inr ⟨p, hp, rfl⟩))⟩
    · exact ⟨hyp.symm.isHexDigest_of_mem_pairs hm hp, .inr (.inl (.inr ⟨p, hp, rfl⟩))⟩
  refine ⟨fun p hp q hq hpq => ?_, fun p hp hmem => ?_⟩
  · -- Two digests can be read off their concatenation, as all are of one length.
    obtain ⟨⟨hp₁, _⟩, hpt⟩ := hpair p hp
    obtain ⟨⟨hq₁, _⟩, hqt⟩ := hpair q hq
    exact Prod.ext_iff.2 (hp₁.append_inj hq₁ (hyp.sha256_inj hpt hqt hpq))
  · obtain ⟨⟨hp₁, _⟩, hpt⟩ := hpair p hp
    rcases List.mem_append.1 hmem with hmem | hmem
    · exact hyp.node_ne_leaf hl hpt hp₁.head?_append hmem
    · exact hyp.symm.node_ne_leaf hm (Set.union_comm _ _ ▸ hpt) hp₁.head?_append hmem

/-- Only the empty log has the root of the empty log. -/
theorem MerkleAssumptions.merkleRoot_ne_emptyRoot (hm : Chained py genesisHash m.entries)
    (hne : m.leaves ≠ []) : merkleRoot py m.leaves ≠ emptyRoot py := by
  have hempty : "EMPTY_LOG" ∈ logTexts py m := .inr rfl
  rw [merkleRoot]
  by_cases hlen : 1 < m.leaves.length
  · obtain ⟨p, hp, hroot⟩ := @MerkleTree.root_eq_node _ (merkleNode py) (emptyRoot py) _ hlen
    rw [hroot]
    intro h
    -- What is hashed for the root is too long to be this text.
    have htext : p.1 ++ p.2 = "EMPTY_LOG" :=
      hyp.sha256_inj (.inr (.inl (.inr ⟨p, hp, rfl⟩))) (.inr hempty) h
    obtain ⟨h₁, h₂⟩ := hyp.symm.isHexDigest_of_mem_pairs hm hp
    have := h₁.length_append h₂
    rw [htext] at this
    exact absurd this (by decide)
  · -- The root is a leaf, the digest of a text that begins with a brace.
    obtain ⟨x, xs, hx⟩ := List.exists_cons_of_ne_nil hne
    rw [MerkleTree.root_of_not_one_lt _ hlen, hx, List.headD_cons]
    rintro rfl
    exact hyp.symm.node_ne_leaf hm (.inl hempty) (by decide) (hx ▸ List.mem_cons_self)

theorem MerkleAssumptions.leaves_eq (hl : Chained py genesisHash l.entries)
    (hm : Chained py genesisHash m.entries)
    (h : merkleRoot py l.leaves = merkleRoot py m.leaves) : l.leaves = m.leaves := by
  by_cases hle : l.leaves = [] <;> by_cases hme : m.leaves = []
  · rw [hle, hme]
  · rw [hle, merkleRoot_nil] at h
    exact absurd h.symm (hyp.merkleRoot_ne_emptyRoot hm hme)
  · rw [hme, merkleRoot_nil] at h
    exact absurd h (hyp.symm.merkleRoot_ne_emptyRoot hl hle)
  · exact MerkleTree.root_injective _ (hyp.nodup_leaves hl) (hyp.symm.nodup_leaves hm) hle hme
      (hyp.separated hl hm) h

end Merkle

/-- The Merkle root commits to a verified log. -/
theorem merkle_root_commits (py : Python) (l m : AuditLog) (hyp : MerkleAssumptions py l m)
    (hl : l.verifyChain py = .ok .intact) (hm : m.verifyChain py = .ok .intact)
    (h : l.computeMerkleRoot py = m.computeMerkleRoot py) :
    List.Forall₂ AuditEntry.Same l.entries m.entries ∧
      ((∀ e ∈ l.entries ++ m.entries, ∃ n, e.sequence = .int n) → l.entries = m.entries) := by
  obtain ⟨_, hcl⟩ := AuditLog.verifyChain_eq_intact.1 hl
  obtain ⟨_, hcm⟩ := AuditLog.verifyChain_eq_intact.1 hm
  rw [l.computeMerkleRoot_eq, m.computeMerkleRoot_eq] at h
  -- The root gives the leaves, the last of them is the last hash, and this one
  -- commits to the log.
  have hleaves : l.leaves = m.leaves := hyp.leaves_eq hcl hcm h
  have hlast : l.lastHash = m.lastHash := by
    rw [lastHash_eq_getLast, lastHash_eq_getLast, hleaves]
  have hsame := forall₂_same_of_lastHash_eq hyp.sha256_inj_entries
    (fun t => (hyp.isHexDigest t).ne_genesisHash) hyp.dumps_inj hl hm hlast
  exact ⟨hsame, eq_of_forall₂_same hsame⟩

namespace Sample

theorem pairs_leaves_log :
    MerkleTree.pairs (merkleNode lib) log.leaves = [(startHash, stopHash)] := by
  simp [AuditLog.leaves, log, startLog, emptyLog, AuditLog.new, AuditLog.append, MerkleTree.pairs,
    MerkleTree.pad, MerkleTree.parents, MerkleTree.pairUp, startEntry, stopEntry]

theorem merkleAssumptions_log : MerkleAssumptions lib log log where
  sha256_inj := injOn_sha256.mono <| by
    rw [Set.union_self]
    rintro t ((ht | ⟨p, hp, rfl⟩) | rfl)
    · have hmem := hashedTexts_log (hashedTexts_mono (List.subset_append_left _ _) ht)
      rcases hmem with rfl | rfl <;> simp
    · rw [pairs_leaves_log, List.mem_singleton] at hp
      simp [hp]
    · simp
  isHexDigest := forall_sha256 (by decide +kernel)
  dumps_inj := dumpsInjOn_log
  dumps_object _ _ _ ht := head?_jsonText_dict (jsonDumps_eq_ok.1 ht)

theorem merkle_root_commits_log : List.Forall₂ AuditEntry.Same log.entries log.entries :=
  (merkle_root_commits lib log log merkleAssumptions_log log_verified log_verified rfl).1

end Sample

end VibeShield
