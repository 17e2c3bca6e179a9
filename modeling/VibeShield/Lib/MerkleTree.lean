import Mathlib.Data.List.Nodup
import Mathlib.Data.Nat.Bitwise

/-!
# Merkle trees that duplicate the last node of an odd level

A tree over a list of leaves, built level by level: a level of odd length
repeats its last node (`pad`), the nodes are paired up from the left (`pairUp`)
and each pair makes a node of the next level (`parents`), until one is left,
the `root`. How two digests make one is left open (`node`).

* `climb_proof`: the siblings on the way up from a leaf (`proof`) lead from it
  to the root (`climb`);
* `climb_injective`: from any other leaf they do not;
* `root_injective`: the root determines the list of leaves, its length
  included, among the lists without repetition. Without this condition it does
  not: `[a, b, c]` and `[a, b, c, c]` have the same root.

The last two ask something of `node` only on the pairs that the climbs (or the
trees) at hand combine (`climbPairs`, `pairs`): that it can be cancelled, or that
it is injective and makes no leaf.
-/

namespace MerkleTree

variable {δ : Type*}

/-! ## Levels -/

/-- A level of odd length repeats its last node. -/
def pad (l : List δ) : List δ := if l.length % 2 = 1 then l ++ l.getLast?.toList else l

/-- The nodes at the positions `2 * j` and `2 * j + 1`, for every `j`. -/
def pairUp : List δ → List (δ × δ)
  | a :: b :: l => (a, b) :: pairUp l
  | _ => []

theorem length_pad (l : List δ) : (pad l).length = l.length + l.length % 2 := by
  rw [pad]
  split
  · next h =>
    have hl : l ≠ [] := by rintro rfl; simp at h
    simp [List.getLast?_eq_some_getLast hl, h]
  · omega

theorem getElem_pad {l : List δ} {i : ℕ} (h : i < l.length) (hp : i < (pad l).length) :
    (pad l)[i] = l[i] := by
  simp only [pad]
  split
  · exact List.getElem_append_left h
  · rfl

theorem length_pairUp : ∀ l : List δ, (pairUp l).length = l.length / 2
  | [] => by simp [pairUp]
  | [_] => by simp [pairUp]
  | _ :: _ :: l => by simp only [pairUp, List.length_cons, length_pairUp l]; omega

theorem getElem_pairUp : ∀ (l : List δ) (j : ℕ) (h : 2 * j + 1 < l.length)
    (hp : j < (pairUp l).length), (pairUp l)[j] = (l[2 * j], l[2 * j + 1])
  | [], _, h, _ => absurd h (Nat.not_lt_zero _)
  | [_], _, h, _ => absurd h (by simp)
  | _ :: _ :: _, 0, _, _ => rfl
  | _ :: _ :: l, j + 1, h, hp =>
    getElem_pairUp l j (by simp only [List.length_cons] at h; omega) (Nat.lt_of_succ_lt_succ hp)

variable (node : δ → δ → δ)

/-- The next level. -/
def parents (l : List δ) : List δ := (pairUp (pad l)).map fun p => node p.1 p.2

theorem length_parents (l : List δ) : (parents node l).length = (l.length + 1) / 2 := by
  rw [parents, List.length_map, length_pairUp, length_pad]
  omega

theorem length_parents_lt {l : List δ} (h : 1 < l.length) :
    (parents node l).length < l.length := by
  rw [length_parents]
  omega

theorem getElem_parents {l : List δ} {j : ℕ} (h : j < (parents node l).length)
    (h' : 2 * j + 1 < (pad l).length) :
    (parents node l)[j] = node (pad l)[2 * j] (pad l)[2 * j + 1] := by
  have hp : j < (pairUp (pad l)).length := by rwa [parents, List.length_map] at h
  simp only [parents, List.getElem_map, getElem_pairUp (pad l) j h' hp]

/-! ## Roots, proofs and climbs -/

/-- The root of the tree over the leaves `l`; `d` if there are none. -/
def root (d : δ) (l : List δ) : δ :=
  if 1 < l.length then root d (parents node l) else l.headD d
termination_by l.length
decreasing_by exact length_parents_lt node ‹_›

/-- The siblings on the way from the leaf `i` to the root. -/
def proof (l : List δ) (i : ℕ) : List δ :=
  if 1 < l.length then (pad l)[i ^^^ 1]?.toList ++ proof (parents node l) (i / 2) else []
termination_by l.length
decreasing_by exact length_parents_lt node ‹_›

/-- Climbing from the level `k`, at the node `x` on the way from the leaf `i`,
    along the siblings `p`: a sibling stands on the left of a node whose
    position is odd, i.e., if bit `k` of `i` is set. -/
def climb (i : ℕ) : ℕ → δ → List δ → δ
  | _, x, [] => x
  | k, x, s :: p => climb i (k + 1) (if i.testBit k then node s x else node x s) p

/-- The pairs a climb combines. -/
def climbPairs (i : ℕ) : ℕ → δ → List δ → List (δ × δ)
  | _, _, [] => []
  | k, x, s :: p => (if i.testBit k then (s, x) else (x, s)) ::
      climbPairs i (k + 1) (if i.testBit k then node s x else node x s) p

/-- The pairs combined in the tree over the leaves `l`, level by level. -/
def pairs (l : List δ) : List (δ × δ) :=
  if 1 < l.length then pairUp (pad l) ++ pairs (parents node l) else []
termination_by l.length
decreasing_by exact length_parents_lt node ‹_›

variable {node}

theorem root_of_one_lt (d : δ) {l : List δ} (h : 1 < l.length) :
    root node d l = root node d (parents node l) := by
  rw [root, if_pos h]

theorem root_of_not_one_lt (d : δ) {l : List δ} (h : ¬1 < l.length) :
    root node d l = l.headD d := by
  rw [root, if_neg h]

theorem climb_succ (i k : ℕ) (x : δ) (p : List δ) :
    climb node i (k + 1) x p = climb node (i / 2) k x p := by
  induction p generalizing k x with
  | nil => rfl
  | cons s p ih => rw [climb, climb, Nat.testBit_succ, ih]

/-- The sibling of a node stands before it if its position is odd, else after it. -/
theorem xor_one (i : ℕ) : i ^^^ 1 = if i % 2 = 1 then i - 1 else i + 1 := by
  split
  · next h => exact Nat.xor_one_of_odd (Nat.odd_iff.2 h)
  · next h => exact Nat.xor_one_of_even (Nat.even_iff.2 (by omega))

/-- A node of a level and its sibling make their parent. -/
theorem parent_eq {l : List δ} {i : ℕ} (h : i < l.length) (hp : i / 2 < (parents node l).length)
    (hs : i ^^^ 1 < (pad l).length) :
    (if i.testBit 0 then node (pad l)[i ^^^ 1] l[i] else node l[i] (pad l)[i ^^^ 1]) =
      (parents node l)[i / 2] := by
  have hi : i < (pad l).length := by rw [length_pad]; omega
  have hi' : 2 * (i / 2) + 1 < (pad l).length := by rw [length_pad] at hi ⊢; omega
  rw [getElem_parents node hp hi', ← getElem_pad h hi]
  simp only [xor_one, Nat.testBit_zero, decide_eq_true_eq]
  split
  · next hodd =>
    have h₁ : i - 1 = 2 * (i / 2) := by omega
    have h₂ : i = 2 * (i / 2) + 1 := by omega
    simp only [h₁, ← h₂]
  · next heven =>
    have h₁ : 2 * (i / 2) = i := by omega
    simp only [h₁]

/-- The siblings of a leaf lead from it to the root. -/
theorem climb_proof (d : δ) {l : List δ} {i : ℕ} (h : i < l.length) :
    climb node i 0 l[i] (proof node l i) = root node d l := by
  induction hn : l.length using Nat.strong_induction_on generalizing l i with
  | _ n ih =>
    rw [proof, root]
    split
    · next hl =>
      have hs : i ^^^ 1 < (pad l).length := by
        rw [length_pad, xor_one]
        split <;> omega
      have hp : i / 2 < (parents node l).length := by rw [length_parents]; omega
      -- The first sibling leads to the parent, the node `i / 2` of the next level.
      rw [List.getElem?_eq_getElem hs, Option.toList_some, List.singleton_append, climb,
        parent_eq h hp hs, climb_succ]
      exact ih _ (hn ▸ length_parents_lt node hl) hp rfl
    · next hl =>
      obtain ⟨x, rfl⟩ := List.length_eq_one_iff.1 (show l.length = 1 by omega)
      obtain rfl : i = 0 := by simpa using h
      rfl

/-- Along the same siblings, different nodes lead to different roots, if two
    pairs combined on the way that make the same node and agree on one side
    agree on the other side, too. -/
theorem climb_injective {i k : ℕ} {x y : δ} {p : List δ}
    (hinj : ∀ a ∈ climbPairs node i k x p, ∀ b ∈ climbPairs node i k y p,
      node a.1 a.2 = node b.1 b.2 → (a.1 = b.1 ↔ a.2 = b.2))
    (h : climb node i k x p = climb node i k y p) : x = y := by
  induction p generalizing k x y with
  | nil => exact h
  | cons s p ih =>
    -- The parents agree, as they lead to the same root; so do then the nodes, as
    -- their sibling, on whichever side, is the same.
    have hxy := ih (fun a ha b hb => hinj a (List.mem_cons_of_mem _ ha) b
      (List.mem_cons_of_mem _ hb)) h
    have hpair := hinj _ List.mem_cons_self _ List.mem_cons_self
    cases hb : i.testBit k with
    | false =>
      rw [hb, if_neg Bool.false_ne_true, if_neg Bool.false_ne_true] at hxy hpair
      exact (hpair hxy).2 rfl
    | true =>
      rw [hb, if_pos rfl, if_pos rfl] at hxy hpair
      exact (hpair hxy).1 rfl

/-! ## The root determines the leaves -/

theorem fst_pairUp_sublist : ∀ l : List δ, ((pairUp l).map Prod.fst).Sublist l
  | [] => .slnil
  | [_] => List.nil_sublist _
  | _ :: b :: l => .cons_cons _ ((fst_pairUp_sublist l).cons b)

/-- The left nodes of the pairs are different nodes of the level, even if its
    last node is repeated. -/
theorem fst_pairUp_concat_sublist (x : δ) :
    ∀ l : List δ, ((pairUp (l ++ [x])).map Prod.fst).Sublist l
  | [] => List.nil_sublist _
  | [_] => List.Sublist.refl _
  | _ :: b :: l => .cons_cons _ ((fst_pairUp_concat_sublist x l).cons b)

theorem fst_pairUp_pad_sublist (l : List δ) : ((pairUp (pad l)).map Prod.fst).Sublist l := by
  rw [pad]
  split
  · cases l.getLast? with
    | none => simpa using fst_pairUp_sublist l
    | some x => exact fst_pairUp_concat_sublist x l
  · exact fst_pairUp_sublist l

theorem pairUp_injective : ∀ {l m : List δ}, l.length % 2 = 0 → m.length % 2 = 0 →
    pairUp l = pairUp m → l = m
  | [], [], _, _, _ => rfl
  | [], _ :: _ :: _, _, _, h => by simp [pairUp] at h
  | _ :: _ :: _, [], _, _, h => by simp [pairUp] at h
  | a :: b :: l, c :: d :: m, hl, hm, h => by
    rw [pairUp, pairUp, List.cons.injEq, Prod.mk.injEq] at h
    simp only [List.length_cons] at hl hm
    rw [h.1.1, h.1.2, pairUp_injective (by omega) (by omega) h.2]
  | [_], _, hl, _, _ => by simp at hl
  | _, [_], _, hm, _ => by simp at hm

/-- A level without repetition can be read off its padding. -/
theorem pad_injective {l m : List δ} (hl : l.Nodup) (hm : m.Nodup) (h : pad l = pad m) :
    l = m := by
  -- If only one level is odd, the other one is its padding, which repeats a node.
  have key : ∀ {l m : List δ}, m.Nodup → l.length % 2 = 1 → m.length % 2 ≠ 1 →
      pad l = pad m → False := by
    intro l m hm hodd heven h
    have hne : l ≠ [] := by rintro rfl; simp at hodd
    rw [pad, pad, if_pos hodd, if_neg heven, List.getLast?_eq_some_getLast hne,
      Option.toList_some] at h
    rw [← h, List.nodup_append] at hm
    exact hm.2.2 _ (List.getLast_mem hne) _ (List.mem_singleton_self _) rfl
  by_cases hlo : l.length % 2 = 1 <;> by_cases hmo : m.length % 2 = 1
  · rw [pad, pad, if_pos hlo, if_pos hmo] at h
    have hne : l ≠ [] := by rintro rfl; simp at hlo
    have hne' : m ≠ [] := by rintro rfl; simp at hmo
    rw [List.getLast?_eq_some_getLast hne, List.getLast?_eq_some_getLast hne'] at h
    exact (List.append_inj' h rfl).1
  · exact (key hm hlo hmo h).elim
  · exact (key hl hmo hlo h.symm).elim
  · rwa [pad, pad, if_neg hlo, if_neg hmo] at h

theorem mem_pairs {l : List δ} (h : 1 < l.length) {p : δ × δ} :
    p ∈ pairs node l ↔ p ∈ pairUp (pad l) ∨ p ∈ pairs node (parents node l) := by
  rw [pairs, if_pos h, List.mem_append]

theorem mem_of_mem_pairUp : ∀ {l : List δ} {p : δ × δ}, p ∈ pairUp l → p.1 ∈ l ∧ p.2 ∈ l
  | [], _, h => absurd h List.not_mem_nil
  | [_], _, h => absurd h List.not_mem_nil
  | a :: b :: l, p, h => by
    rcases List.mem_cons.1 h with rfl | h
    · exact ⟨List.mem_cons_self, List.mem_cons_of_mem _ List.mem_cons_self⟩
    · exact (mem_of_mem_pairUp h).imp (fun h => .tail _ (.tail _ h)) fun h => .tail _ (.tail _ h)

theorem mem_of_mem_pad {l : List δ} {x : δ} (h : x ∈ pad l) : x ∈ l := by
  rw [pad] at h
  split at h
  · rcases List.mem_append.1 h with h | h
    · exact h
    · exact List.mem_of_getLast? (Option.mem_toList.1 h)
  · exact h

/-- What holds of the leaves and of every node holds of all that is combined. -/
theorem forall_mem_pairs {P : δ → Prop} {l : List δ} (hl : ∀ x ∈ l, P x)
    (hn : ∀ x y, P (node x y)) : ∀ p ∈ pairs node l, P p.1 ∧ P p.2 := by
  induction hlen : l.length using Nat.strong_induction_on generalizing l with
  | _ n ih =>
    intro p hp
    by_cases hl₁ : 1 < l.length
    · rcases (mem_pairs hl₁).1 hp with hp | hp
      · obtain ⟨h₁, h₂⟩ := mem_of_mem_pairUp hp
        exact ⟨hl _ (mem_of_mem_pad h₁), hl _ (mem_of_mem_pad h₂)⟩
      · refine ih _ (hlen ▸ length_parents_lt node hl₁) (fun x hx => ?_) rfl p hp
        obtain ⟨q, _, rfl⟩ := List.mem_map.1 hx
        exact hn q.1 q.2
    · rw [pairs, if_neg hl₁] at hp
      exact absurd hp List.not_mem_nil

/-- The left node of a pair is a leaf or an inner node. -/
theorem fst_mem_pairs {l : List δ} {p : δ × δ} (hp : p ∈ pairs node l) :
    p.1 ∈ l ∨ ∃ q ∈ pairs node l, p.1 = node q.1 q.2 := by
  induction hn : l.length using Nat.strong_induction_on generalizing l with
  | _ n ih =>
    by_cases hl : 1 < l.length
    · rcases (mem_pairs hl).1 hp with hp | hp
      · exact .inl ((fst_pairUp_pad_sublist l).subset (List.mem_map_of_mem hp))
      · rcases ih _ (hn ▸ length_parents_lt node hl) hp rfl with hm | ⟨q, hq, e⟩
        · obtain ⟨q, hq, e⟩ := List.mem_map.1 hm
          exact .inr ⟨q, (mem_pairs hl).2 (.inl hq), e.symm⟩
        · exact .inr ⟨q, (mem_pairs hl).2 (.inr hq), e⟩
    · rw [pairs, if_neg hl] at hp
      exact absurd hp List.not_mem_nil

/-- Above the leaves, the left node of a pair is an inner node. -/
theorem fst_mem_pairs_parents {l : List δ} (hl : 1 < l.length) {p : δ × δ}
    (hp : p ∈ pairs node (parents node l)) : ∃ q ∈ pairs node l, p.1 = node q.1 q.2 := by
  rcases fst_mem_pairs hp with hm | ⟨q, hq, e⟩
  · obtain ⟨q, hq, e⟩ := List.mem_map.1 hm
    exact ⟨q, (mem_pairs hl).2 (.inl hq), e.symm⟩
  · exact ⟨q, (mem_pairs hl).2 (.inr hq), e⟩

/-- The root of a tree of more than one leaf is an inner node. -/
theorem root_eq_node (d : δ) {l : List δ} (hl : 1 < l.length) :
    ∃ p ∈ pairs node l, root node d l = node p.1 p.2 := by
  induction hn : l.length using Nat.strong_induction_on generalizing l with
  | _ n ih =>
    rw [root_of_one_lt d hl]
    by_cases hp : 1 < (parents node l).length
    · obtain ⟨p, hp, e⟩ := ih _ (hn ▸ length_parents_lt node hl) hp rfl
      exact ⟨p, (mem_pairs hl).2 (.inr hp), e⟩
    · rw [root_of_not_one_lt d hp]
      -- The next level is the root alone, made by the one pair of this level.
      have hne : parents node l ≠ [] := by
        rw [← List.length_pos_iff, length_parents]; omega
      obtain ⟨x, xs, hx⟩ := List.exists_cons_of_ne_nil hne
      obtain ⟨p, hp, e⟩ := List.mem_map.1 (hx ▸ List.mem_cons_self : x ∈ parents node l)
      exact ⟨p, (mem_pairs hl).2 (.inl hp), by rw [hx, e]; rfl⟩

/-- If no two pairs of a level without repetition make the same node, the next
    level is without repetition. -/
theorem nodup_parents {l : List δ} (hl : l.Nodup)
    (hinj : ∀ p ∈ pairUp (pad l), ∀ q ∈ pairUp (pad l), node p.1 p.2 = node q.1 q.2 → p = q) :
    (parents node l).Nodup :=
  List.Nodup.map_on hinj (.of_map Prod.fst (hl.sublist (fst_pairUp_pad_sublist l)))

theorem map_injOn {f : δ × δ → δ} : ∀ {l m : List (δ × δ)},
    (∀ p ∈ l, ∀ q ∈ m, f p = f q → p = q) → l.map f = m.map f → l = m
  | [], [], _, _ => rfl
  | [], _ :: _, _, h => absurd h (List.cons_ne_nil _ _).symm
  | _ :: _, [], _, h => absurd h (List.cons_ne_nil _ _)
  | p :: l, q :: m, hf, h => by
    rw [List.map_cons, List.map_cons, List.cons.injEq] at h
    rw [hf p List.mem_cons_self q List.mem_cons_self h.1,
      map_injOn (fun p hp q hq => hf p (List.mem_cons_of_mem _ hp) q (List.mem_cons_of_mem _ hq))
        h.2]

variable (node) in
/-- No two pairs combined in the trees over `l` and `m` make the same node, and
    none makes a leaf. -/
structure Separated (l m : List δ) : Prop where
  inj : ∀ p ∈ pairs node l ++ pairs node m, ∀ q ∈ pairs node l ++ pairs node m,
    node p.1 p.2 = node q.1 q.2 → p = q
  not_leaf : ∀ p ∈ pairs node l ++ pairs node m, node p.1 p.2 ∉ l ++ m

section Separated

variable {l m : List δ} (hl₁ : 1 < l.length) (hm₁ : 1 < m.length)
include hl₁ hm₁

theorem mem_pairs_of_level {p : δ × δ} (hp : p ∈ pairUp (pad l) ++ pairUp (pad m)) :
    p ∈ pairs node l ++ pairs node m :=
  List.mem_append.2 ((List.mem_append.1 hp).imp (fun h => (mem_pairs hl₁).2 (.inl h))
    (fun h => (mem_pairs hm₁).2 (.inl h)))

theorem mem_pairs_of_parents {p : δ × δ}
    (hp : p ∈ pairs node (parents node l) ++ pairs node (parents node m)) :
    p ∈ pairs node l ++ pairs node m :=
  List.mem_append.2 ((List.mem_append.1 hp).imp (fun h => (mem_pairs hl₁).2 (.inr h))
    (fun h => (mem_pairs hm₁).2 (.inr h)))

/-- Separation holds again one level up: a node of that level made by a pair
    above it would be made by two pairs, hence have an inner node for a leaf. -/
theorem Separated.parents (h : Separated node l m) :
    Separated node (parents node l) (parents node m) where
  inj p hp q hq :=
    h.inj p (mem_pairs_of_parents hl₁ hm₁ hp) q (mem_pairs_of_parents hl₁ hm₁ hq)
  not_leaf p hp hmem := by
    rw [MerkleTree.parents, MerkleTree.parents, ← List.map_append] at hmem
    obtain ⟨q, hq, e⟩ := List.mem_map.1 hmem
    -- So the pair `p` above is a pair `q` of the level: its left node is a leaf, and
    -- it is an inner node.
    obtain rfl := h.inj q (mem_pairs_of_level hl₁ hm₁ hq) p (mem_pairs_of_parents hl₁ hm₁ hp) e
    have hfst : q.1 ∈ l ++ m := List.mem_append.2 ((List.mem_append.1 hq).imp
      (fun h => (fst_pairUp_pad_sublist l).subset (List.mem_map_of_mem h))
      (fun h => (fst_pairUp_pad_sublist m).subset (List.mem_map_of_mem h)))
    rcases List.mem_append.1 hp with hp | hp
    · obtain ⟨r, hr, e'⟩ := fst_mem_pairs_parents hl₁ hp
      exact h.not_leaf r (List.mem_append_left _ hr) (e' ▸ hfst)
    · obtain ⟨r, hr, e'⟩ := fst_mem_pairs_parents hm₁ hp
      exact h.not_leaf r (List.mem_append_right _ hr) (e' ▸ hfst)

theorem Separated.nodup_parents (h : Separated node l m) (hl : l.Nodup) (hm : m.Nodup) :
    (MerkleTree.parents node l).Nodup ∧ (MerkleTree.parents node m).Nodup :=
  ⟨MerkleTree.nodup_parents hl fun p hp q hq =>
      h.inj p (mem_pairs_of_level hl₁ hm₁ (List.mem_append_left _ hp)) q
        (mem_pairs_of_level hl₁ hm₁ (List.mem_append_left _ hq)),
    MerkleTree.nodup_parents hm fun p hp q hq =>
      h.inj p (mem_pairs_of_level hl₁ hm₁ (List.mem_append_right _ hp)) q
        (mem_pairs_of_level hl₁ hm₁ (List.mem_append_right _ hq))⟩

/-- The next level determines a level without repetition. -/
theorem Separated.eq_of_parents_eq (h : Separated node l m) (hl : l.Nodup) (hm : m.Nodup)
    (hpar : MerkleTree.parents node l = MerkleTree.parents node m) : l = m := by
  have hup : pairUp (pad l) = pairUp (pad m) := map_injOn (fun p hp q hq =>
    h.inj p (mem_pairs_of_level hl₁ hm₁ (List.mem_append_left _ hp)) q
      (mem_pairs_of_level hl₁ hm₁ (List.mem_append_right _ hq))) hpar
  exact pad_injective hl hm (pairUp_injective (by rw [length_pad]; omega)
    (by rw [length_pad]; omega) hup)

end Separated

/-- The only leaf of a tree is not the root of a tree with more leaves. -/
theorem Separated.root_ne (d : δ) {l m : List δ} (h : Separated node l m) (hl₁ : 1 < l.length)
    (hm₁ : m.length = 1) : root node d l ≠ root node d m := by
  intro e
  obtain ⟨x, rfl⟩ := List.length_eq_one_iff.1 hm₁
  obtain ⟨p, hp, e'⟩ := @root_eq_node _ node d _ hl₁
  rw [root_of_not_one_lt d (l := [x]) (Nat.lt_irrefl 1), e'] at e
  exact h.not_leaf p (List.mem_append_left _ hp) (by rw [e]; simp)

theorem Separated.symm {l m : List δ} (h : Separated node l m) : Separated node m l where
  inj p hp q hq := h.inj p (List.mem_append.2 (List.mem_append.1 hp).symm) q
    (List.mem_append.2 (List.mem_append.1 hq).symm)
  not_leaf p hp hmem := h.not_leaf p (List.mem_append.2 (List.mem_append.1 hp).symm)
    (List.mem_append.2 (List.mem_append.1 hmem).symm)

/-- Separated trees with the same root have the same leaves, if these are
    without repetition. -/
theorem root_injective (d : δ) {l m : List δ} (hl : l.Nodup) (hm : m.Nodup)
    (hl₀ : l ≠ []) (hm₀ : m ≠ []) (hs : Separated node l m)
    (h : root node d l = root node d m) : l = m := by
  induction hn : l.length using Nat.strong_induction_on generalizing l m with
  | _ n ih =>
    -- With a next level on both sides, the root determines that level, and it
    -- determines this one. A leaf alone is not the root of a larger tree.
    have hpos := List.length_pos_iff.2 hl₀
    have hpos' := List.length_pos_iff.2 hm₀
    by_cases hl₁ : 1 < l.length <;> by_cases hm₁ : 1 < m.length
    · rw [root_of_one_lt d hl₁, root_of_one_lt d hm₁] at h
      obtain ⟨hpl, hpm⟩ := hs.nodup_parents hl₁ hm₁ hl hm
      exact hs.eq_of_parents_eq hl₁ hm₁ hl hm <| ih _ (hn ▸ length_parents_lt node hl₁) hpl hpm
        (by rw [← List.length_pos_iff, length_parents]; omega)
        (by rw [← List.length_pos_iff, length_parents]; omega)
        (hs.parents hl₁ hm₁) h rfl
    · exact absurd h (hs.root_ne d hl₁ (by omega))
    · exact absurd h.symm (hs.symm.root_ne d hm₁ (by omega))
    · obtain ⟨x, rfl⟩ := List.length_eq_one_iff.1 (show l.length = 1 by omega)
      obtain ⟨y, rfl⟩ := List.length_eq_one_iff.1 (show m.length = 1 by omega)
      rw [root_of_not_one_lt d hl₁, root_of_not_one_lt d hm₁] at h
      exact congrArg (fun x => [x]) h

end MerkleTree
