import Mathlib.Data.Nat.Log
import Mathlib.Logic.Function.Iterate
import VibeShield.Lib.MerkleTree

/-!
# Which Merkle trees have the same root

A tree that repeats the last node of an odd level is a complete binary tree over more leaves
than it is given; `completed` writes them out. Trees of the same height have the same root if
and only if they are completed to the same leaves, and of two heights, the higher one is cut
off at the height of the other (`level`): `root_eq_root_iff`. This asks of `node` only that it
is injective on the pairs that the trees combine.
-/

namespace MerkleTree

variable {δ : Type*}

/-! ## Trees over images -/

section Map

variable {ε : Type*} {node : δ → δ → δ} {node' : ε → ε → ε} {f : δ → ε}

theorem pad_map (l : List δ) : pad (l.map f) = (pad l).map f := by
  rw [pad, pad, List.length_map]
  split
  · rw [List.getLast?_map, List.map_append]
    cases l.getLast? <;> rfl
  · rfl

theorem pairUp_map : ∀ l : List δ, pairUp (l.map f) = (pairUp l).map (Prod.map f f)
  | [] => rfl
  | [_] => rfl
  | a :: b :: l => congrArg ((f a, f b) :: ·) (pairUp_map l)

variable (hom : ∀ a b, f (node a b) = node' (f a) (f b))
include hom

theorem parents_map (l : List δ) : parents node' (l.map f) = (parents node l).map f := by
  rw [parents, parents, pad_map, pairUp_map, List.map_map, List.map_map]
  exact List.map_congr_left fun p _ => (hom p.1 p.2).symm

theorem root_map (d : δ) (l : List δ) : root node' (f d) (l.map f) = f (root node d l) := by
  induction hn : l.length using Nat.strong_induction_on generalizing l with
  | _ n ih =>
    by_cases hl : 1 < l.length
    · rw [root_of_one_lt d hl, root_of_one_lt (f d) (by rwa [List.length_map]), parents_map hom]
      exact ih _ (hn ▸ length_parents_lt node hl) _ rfl
    · rw [root_of_not_one_lt d hl, root_of_not_one_lt (f d) (by rwa [List.length_map])]
      cases l <;> rfl

end Map

/-! ## Levels -/

/-- The number of levels above the leaves. -/
def height (l : List δ) : ℕ := Nat.clog 2 l.length

/-- The nodes `k` levels above the leaves. -/
def level (node : δ → δ → δ) (k : ℕ) (l : List δ) : List δ := (parents node)^[k] l

variable {node : δ → δ → δ}

theorem height_eq_zero_iff {l : List δ} : height l = 0 ↔ ¬1 < l.length := by
  refine ⟨fun h hl => absurd h (Nat.clog_pos (by decide) hl).ne', fun h => ?_⟩
  exact Nat.clog_of_right_le_one (Nat.le_of_not_lt h) 2

theorem height_parents (node : δ → δ → δ) {l : List δ} (hl : 1 < l.length) :
    height l = height (parents node l) + 1 := by
  rw [height, Nat.clog_of_two_le (by decide) hl, height, length_parents]
  rfl

theorem parents_ne_nil (node : δ → δ → δ) {l : List δ} (hl : l ≠ []) : parents node l ≠ [] := by
  rw [← List.length_pos_iff, length_parents]
  have := List.length_pos_iff.2 hl
  omega

/-- Below the root, a level has the same tree above it, and no other pairs. -/
theorem level_spec (node : δ → δ → δ) {k : ℕ} {l : List δ} (hl : l ≠ []) (hk : k ≤ height l) :
    level node k l ≠ [] ∧ height (level node k l) = height l - k ∧
      (∀ p ∈ pairs node (level node k l), p ∈ pairs node l) ∧
      ∀ d, root node d (level node k l) = root node d l := by
  induction k generalizing l with
  | zero => exact ⟨hl, rfl, fun p hp => hp, fun d => rfl⟩
  | succ k ih =>
    have hone : 1 < l.length := by
      by_contra h
      rw [height_eq_zero_iff.2 h] at hk
      exact absurd hk (Nat.not_succ_le_zero k)
    have hheight := height_parents node hone
    obtain ⟨hne, hlevel, hpairs, hroot⟩ := ih (parents_ne_nil node hl) (by omega)
    rw [level, Function.iterate_succ_apply, ← level]
    refine ⟨hne, by omega, fun p hp => (mem_pairs hone).2 (.inr (hpairs p hp)), fun d => ?_⟩
    rw [hroot, root_of_one_lt d hone]

/-! ## Completed trees -/

/-- The leaves of the complete tree: the leaves, as often as the tree repeats them. -/
def completed (l : List δ) : List δ := root (· ++ ·) [] (l.map fun x => [x])

/-- The nodes of two levels stand for the same leaves, `n` for each, if they are equal. -/
structure Matched {τ : Type*} (n : ℕ) (l m : List (δ × List τ)) : Prop where
  iff : ∀ x ∈ l, ∀ y ∈ m, x.1 = y.1 ↔ x.2 = y.2
  length_left : ∀ x ∈ l, x.2.length = n
  length_right : ∀ y ∈ m, y.2.length = n

/-- A node together with the leaves it stands for. -/
def nodeWith {τ : Type*} (node : δ → δ → δ) (p q : δ × List τ) : δ × List τ :=
  (node p.1 q.1, p.2 ++ q.2)

section Matched

variable {τ : Type*} {n : ℕ} {l m : List (δ × List τ)}

theorem length_of_mem_parents (hl : ∀ x ∈ l, x.2.length = n) :
    ∀ x ∈ parents (nodeWith node) l, x.2.length = n + n := by
  intro x hx
  obtain ⟨p, hp, rfl⟩ := List.mem_map.1 hx
  obtain ⟨h₁, h₂⟩ := mem_of_mem_pairUp hp
  rw [nodeWith, List.length_append, hl _ (mem_of_mem_pad h₁), hl _ (mem_of_mem_pad h₂)]

/-- If no two pairs make the same node, the next levels match, too. -/
theorem Matched.parents (h : Matched n l m)
    (hinj : ∀ p ∈ pairUp (pad l), ∀ q ∈ pairUp (pad m),
      node p.1.1 p.2.1 = node q.1.1 q.2.1 → p.1.1 = q.1.1 ∧ p.2.1 = q.2.1) :
    Matched (n + n) (parents (nodeWith node) l) (MerkleTree.parents (nodeWith node) m) where
  iff x hx y hy := by
    obtain ⟨p, hp, rfl⟩ := List.mem_map.1 hx
    obtain ⟨q, hq, rfl⟩ := List.mem_map.1 hy
    obtain ⟨hp₁, hp₂⟩ := mem_of_mem_pairUp hp
    obtain ⟨hq₁, hq₂⟩ := mem_of_mem_pairUp hq
    have h₁ := h.iff _ (mem_of_mem_pad hp₁) _ (mem_of_mem_pad hq₁)
    have h₂ := h.iff _ (mem_of_mem_pad hp₂) _ (mem_of_mem_pad hq₂)
    constructor
    · intro hnode
      obtain ⟨e₁, e₂⟩ := hinj p hp q hq hnode
      exact congrArg₂ _ (h₁.1 e₁) (h₂.1 e₂)
    · intro happend
      have hlen : p.1.2.length = q.1.2.length := by
        rw [h.length_left _ (mem_of_mem_pad hp₁), h.length_right _ (mem_of_mem_pad hq₁)]
      obtain ⟨e₁, e₂⟩ := List.append_inj happend hlen
      exact congrArg₂ node (h₁.2 e₁) (h₂.2 e₂)
  length_left := length_of_mem_parents h.length_left
  length_right := length_of_mem_parents h.length_right

theorem fst_parents (l : List (δ × List τ)) :
    (MerkleTree.parents (nodeWith node) l).map Prod.fst =
      MerkleTree.parents node (l.map Prod.fst) :=
  (parents_map (fun _ _ => rfl) l).symm

/-- Matched trees of one height have equal roots if and only if these stand for the same
    leaves. -/
theorem Matched.root_iff (h : Matched n l m) (hl : l ≠ []) (hm : m ≠ [])
    (hheight : height l = height m)
    (hinj : ∀ p ∈ pairs node (l.map Prod.fst), ∀ q ∈ pairs node (m.map Prod.fst),
      node p.1 p.2 = node q.1 q.2 → p = q) (d : δ × List τ) :
    (root (nodeWith node) d l).1 = (root (nodeWith node) d m).1 ↔
      (root (nodeWith node) d l).2 = (root (nodeWith node) d m).2 := by
  induction hn : l.length using Nat.strong_induction_on generalizing n l m with
  | _ k ih =>
    by_cases hone : 1 < l.length
    · have hone' : 1 < m.length := by
        by_contra h'
        rw [height_eq_zero_iff.2 h', height_eq_zero_iff] at hheight
        exact hheight hone
      have hmap : 1 < (l.map Prod.fst).length := by rwa [List.length_map]
      have hmap' : 1 < (m.map Prod.fst).length := by rwa [List.length_map]
      rw [root_of_one_lt d hone, root_of_one_lt d hone']
      refine ih _ (hn ▸ length_parents_lt _ hone) (h.parents fun p hp q hq hnode => ?_)
        (parents_ne_nil _ hl) (parents_ne_nil _ hm) ?_ (fun p hp q hq => ?_) rfl
      · -- The pairs of this level, without the leaves they stand for.
        have hmem {l : List (δ × List τ)} {p : (δ × List τ) × (δ × List τ)}
            (hlen : 1 < (l.map Prod.fst).length) (hp : p ∈ pairUp (pad l)) :
            (p.1.1, p.2.1) ∈ pairs node (l.map Prod.fst) := by
          rw [mem_pairs hlen, pad_map, pairUp_map]
          exact .inl (List.mem_map.2 ⟨p, hp, rfl⟩)
        exact Prod.mk.inj (hinj _ (hmem hmap hp) _ (hmem hmap' hq) hnode)
      · have hl' := height_parents (nodeWith node) hone
        have hm' := height_parents (nodeWith node) hone'
        omega
      · rw [fst_parents] at hp hq
        exact hinj p ((mem_pairs hmap).2 (.inr hp)) q ((mem_pairs hmap').2 (.inr hq))
    · have hone' : ¬1 < m.length := by
        rw [← height_eq_zero_iff, ← hheight, height_eq_zero_iff]
        exact hone
      obtain ⟨x, xs, rfl⟩ := List.exists_cons_of_ne_nil hl
      obtain ⟨y, ys, rfl⟩ := List.exists_cons_of_ne_nil hm
      rw [root_of_not_one_lt d hone, root_of_not_one_lt d hone']
      exact h.iff x List.mem_cons_self y List.mem_cons_self

end Matched

/-- Trees of one height have the same root if and only if they are completed to the same
    leaves. -/
theorem root_eq_root_iff_of_height_eq (d : δ) {l m : List δ} (hl : l ≠ []) (hm : m ≠ [])
    (hheight : height l = height m)
    (hinj : ∀ p ∈ pairs node l, ∀ q ∈ pairs node m, node p.1 p.2 = node q.1 q.2 → p = q) :
    root node d l = root node d m ↔ completed l = completed m := by
  have hfst (l : List δ) : (l.map fun x => (x, [x])).map Prod.fst = l := by
    rw [List.map_map]
    exact List.map_id l
  have hroot (l : List δ) : (root (nodeWith node) (d, []) (l.map fun x => (x, [x]))).1 =
      root node d l := by
    refine (root_map (f := Prod.fst) (fun _ _ => rfl) _ _).symm.trans ?_
    rw [hfst]
  have hcompleted (l : List δ) : (root (nodeWith node) (d, []) (l.map fun x => (x, [x]))).2 =
      completed l := by
    refine (root_map (f := Prod.snd) (fun _ _ => rfl) _ _).symm.trans ?_
    rw [List.map_map, completed]
    rfl
  -- At first each leaf stands for itself.
  have hmatched : Matched 1 (l.map fun x => (x, [x])) (m.map fun x => (x, [x])) := by
    refine ⟨fun x hx y hy => ?_, fun x hx => ?_, fun y hy => ?_⟩
    · obtain ⟨a, _, rfl⟩ := List.mem_map.1 hx
      obtain ⟨b, _, rfl⟩ := List.mem_map.1 hy
      simp
    · obtain ⟨a, _, rfl⟩ := List.mem_map.1 hx
      rfl
    · obtain ⟨b, _, rfl⟩ := List.mem_map.1 hy
      rfl
  have hiff : (root (nodeWith node) (d, []) _).1 = (root (nodeWith node) (d, []) _).1 ↔ _ :=
    hmatched.root_iff (by simpa using hl) (by simpa using hm)
      (by rwa [height, List.length_map, height, List.length_map]) (by rwa [hfst, hfst]) (d, [])
  rwa [hroot, hroot, hcompleted, hcompleted] at hiff

/-- Two trees are the same if the higher one, cut off at the height of the other one, is
    completed to the same leaves. -/
def SameTree (node : δ → δ → δ) (l m : List δ) : Prop :=
  completed (level node (height l - height m) l) = completed (level node (height m - height l) m)

/-- Trees have the same root if and only if they are the same. -/
theorem root_eq_root_iff (d : δ) {l m : List δ} (hl : l ≠ []) (hm : m ≠ [])
    (hinj : ∀ p ∈ pairs node l, ∀ q ∈ pairs node m, node p.1 p.2 = node q.1 q.2 → p = q) :
    root node d l = root node d m ↔ SameTree node l m := by
  have hkl : height l - height m ≤ height l := Nat.sub_le _ _
  have hkm : height m - height l ≤ height m := Nat.sub_le _ _
  obtain ⟨hnel, hheightl, hpairsl, hrootl⟩ := level_spec node hl hkl
  obtain ⟨hnem, hheightm, hpairsm, hrootm⟩ := level_spec node hm hkm
  rw [← hrootl d, ← hrootm d, SameTree]
  refine root_eq_root_iff_of_height_eq d hnel hnem (by omega) fun p hp q hq => ?_
  exact hinj p (hpairsl p hp) q (hpairsm q hq)

/-! ## Trees that are the same -/

/-- Repeating the last leaf of an odd number of leaves does not change the tree. -/
theorem root_eq_of_pad_eq (d : δ) {l m : List δ} (hl : 1 < l.length) (hm : 1 < m.length)
    (h : pad l = pad m) : root node d l = root node d m := by
  rw [root_of_one_lt d hl, root_of_one_lt d hm, parents, parents, h]

theorem flatten_pairUp : ∀ l : List (List δ), l.length % 2 = 0 →
    ((pairUp l).map fun p => p.1 ++ p.2).flatten = l.flatten
  | [], _ => rfl
  | [_], h => by simp at h
  | a :: b :: l, h => by
    have hl : l.length % 2 = 0 := by
      rw [List.length_cons, List.length_cons] at h
      omega
    rw [pairUp, List.map_cons, List.flatten_cons, flatten_pairUp l hl, List.flatten_cons,
      List.flatten_cons, List.append_assoc]

theorem isPrefix_flatten_root (l : List (List δ)) : l.flatten <+: root (· ++ ·) [] l := by
  induction hn : l.length using Nat.strong_induction_on generalizing l with
  | _ n ih =>
    by_cases hl : 1 < l.length
    · have heven : (pad l).length % 2 = 0 := by
        rw [length_pad]
        omega
      have hpad : l.flatten <+: (pad l).flatten := by
        rw [pad]
        split
        · rw [List.flatten_append]
          exact List.prefix_append _ _
        · exact List.prefix_refl _
      have hparents := ih _ (hn ▸ length_parents_lt (· ++ ·) hl) _ rfl
      rw [parents, flatten_pairUp _ heven] at hparents
      rw [root_of_one_lt [] hl]
      exact hpad.trans hparents
    · rw [root_of_not_one_lt [] hl]
      cases l with
      | nil => exact List.prefix_refl _
      | cons x xs =>
        have hxs : xs = [] := by
          rw [List.length_cons] at hl
          exact List.length_eq_zero_iff.1 (by omega)
        rw [hxs, List.flatten_singleton]
        exact List.prefix_refl _

/-- The completed leaves begin with the leaves. -/
theorem isPrefix_completed (l : List δ) : l <+: completed l := by
  have h := isPrefix_flatten_root (l.map fun x => [x])
  rwa [← List.flatMap_def, List.flatMap_singleton'] at h

/-- Among lists of one length, only equal ones have the same tree. -/
theorem SameTree.eq_of_length_eq {l m : List δ} (h : SameTree node l m)
    (hlen : l.length = m.length) : l = m := by
  have hheight : height l = height m := congrArg (Nat.clog 2) hlen
  rw [SameTree, hheight, Nat.sub_self] at h
  have hl := isPrefix_completed l
  rw [show completed l = completed m from h] at hl
  exact (List.prefix_of_prefix_length_le hl (isPrefix_completed m) hlen.le).eq_of_length hlen

end MerkleTree
