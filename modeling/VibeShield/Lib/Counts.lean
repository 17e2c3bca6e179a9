import Mathlib.Algebra.GroupWithZero.Nat
import Mathlib.Data.List.Induction

/-!
# Counting keys

The counts of a list of keys, as pairs in the order in which the keys occur first
(`Counts.ofKeys`). Which keys count as one is told by `same`, which is symmetric and transitive. A
key need not be the same as itself: such a key is counted alone, every time it occurs.

The counts are right (`Counts.isCount_ofKeys`): there is one for every key, it is how often the
key occurs, and together they are the number of all keys (`Counts.IsCount`).
-/

namespace Counts

variable {κ : Type*} (same : κ → κ → Bool)

/-- Counting one more key. -/
def add (key : κ) : List (κ × ℕ) → List (κ × ℕ)
  | [] => [(key, 1)]
  | (k, n) :: counts => if same k key then (k, n + 1) :: counts else (k, n) :: add key counts

/-- The counts of keys. -/
def ofKeys (keys : List κ) : List (κ × ℕ) := keys.foldl (fun counts key => add same key counts) []

/-- The counts are those of the keys. -/
structure IsCount (keys : List κ) (counts : List (κ × ℕ)) : Prop where
  /-- No two counts are of the same key. -/
  distinct : (counts.map Prod.fst).Pairwise fun j k => same j k = false
  /-- They are in the order of the keys. -/
  ordered : (counts.map Prod.fst).Sublist keys
  /-- Every key has one. -/
  covers : ∀ k ∈ keys, k ∈ counts.map Prod.fst ∨ ∃ j ∈ counts.map Prod.fst, same j k = true
  /-- It is how often the key occurs. -/
  count : ∀ p ∈ counts, p.2 = if same p.1 p.1 then keys.countP (same p.1) else 1
  total : (counts.map Prod.snd).sum = keys.length

theorem add_cases (key : κ) (counts : List (κ × ℕ)) :
    (∃ before k n after, counts = before ++ (k, n) :: after ∧ same k key = true ∧
      add same key counts = before ++ (k, n + 1) :: after) ∨
    (∀ p ∈ counts, same p.1 key = false) ∧ add same key counts = counts ++ [(key, 1)] := by
  induction counts with
  | nil => exact .inr ⟨List.forall_mem_nil _, rfl⟩
  | cons p counts ih =>
    obtain ⟨k, n⟩ := p
    rw [add]
    cases hk : same k key with
    | true => exact .inl ⟨[], k, n, counts, rfl, hk, rfl⟩
    | false =>
      obtain ⟨before, j, m, after, rfl, hj, hadd⟩ | ⟨hnone, hadd⟩ := ih
      · exact .inl ⟨(k, n) :: before, j, m, after, rfl, hj, by simp [hadd]⟩
      · exact .inr ⟨List.forall_mem_cons.2 ⟨hk, hnone⟩, by simp [hadd]⟩

section Laws

variable {same}

variable (symm : ∀ j k, same j k = true → same k j = true)
  (trans : ∀ i j k, same i j = true → same j k = true → same i k = true)
include symm trans

/-- Counting one more key. -/
theorem IsCount.add {keys : List κ} {counts : List (κ × ℕ)} (h : IsCount same keys counts)
    (key : κ) : IsCount same (keys ++ [key]) (add same key counts) := by
  obtain ⟨before, k, n, after, rfl, hk, hadd⟩ | ⟨hnone, hadd⟩ := add_cases same key counts
  · have hfst : (before ++ (k, n + 1) :: after).map Prod.fst =
        (before ++ (k, n) :: after).map Prod.fst := by simp
    have hrefl : same k k = true := trans _ _ _ hk (symm _ _ hk)
    rw [hadd]
    refine ⟨hfst ▸ h.distinct, hfst ▸ h.ordered.trans (List.sublist_append_left _ _), ?_, ?_, ?_⟩
    · rw [hfst, List.forall_mem_append]
      refine ⟨h.covers, List.forall_mem_singleton.2 (.inr ⟨k, by simp, hk⟩)⟩
    · -- The other keys that are counted are not the same as `k`, and so not as `key`.
      have hother {p : κ × ℕ} (hp : same p.1 k = false) : same p.1 key = false := by
        by_contra hkey
        rw [Bool.not_eq_false] at hkey
        exact absurd (trans _ _ _ hkey (symm _ _ hk)) (by simp [hp])
      have hkept {p : κ × ℕ} (hp : p ∈ before ++ (k, n) :: after) (hne : same p.1 k = false) :
          p.2 = if same p.1 p.1 then (keys ++ [key]).countP (same p.1) else 1 := by
        rw [h.count p hp, List.countP_append, List.countP_singleton, hother hne]
        simp
      have hdistinct := h.distinct
      rw [List.map_append, List.map_cons, List.pairwise_append, List.pairwise_cons] at hdistinct
      obtain ⟨-, ⟨hafter, -⟩, hbefore⟩ := hdistinct
      rw [List.forall_mem_append, List.forall_mem_cons]
      refine ⟨fun p hp => ?_, ?_, fun p hp => ?_⟩
      · exact hkept (List.mem_append_left _ hp)
          (hbefore _ (List.mem_map_of_mem hp) k List.mem_cons_self)
      · have hn := h.count (k, n) (List.mem_append_right _ List.mem_cons_self)
        rw [if_pos hrefl] at hn
        rw [if_pos hrefl, List.countP_append, List.countP_singleton, hk, ← hn]
        rfl
      · refine hkept (List.mem_append_right _ (List.mem_cons_of_mem _ hp)) ?_
        by_contra hsame
        rw [Bool.not_eq_false] at hsame
        exact absurd (hafter _ (List.mem_map_of_mem hp)) (by simp [symm _ _ hsame])
    · have htotal := h.total
      simp only [List.map_append, List.map_cons, List.sum_append, List.sum_cons,
        List.length_append, List.length_singleton] at htotal ⊢
      omega
  · rw [hadd]
    have hnew : ∀ k ∈ keys, same key k = false := by
      intro k hk
      by_contra hsame
      rw [Bool.not_eq_false] at hsame
      obtain hmem | ⟨j, hmem, hj⟩ := h.covers k hk
      · obtain ⟨p, hp, rfl⟩ := List.mem_map.1 hmem
        exact absurd (symm _ _ hsame) (by simp [hnone p hp])
      · obtain ⟨p, hp, rfl⟩ := List.mem_map.1 hmem
        exact absurd (trans _ _ _ hj (symm _ _ hsame)) (by simp [hnone p hp])
    refine ⟨?_, ?_, ?_, ?_, ?_⟩
    · rw [List.map_append, List.pairwise_append]
      refine ⟨h.distinct, List.pairwise_singleton _ _, fun j hj k hk => ?_⟩
      obtain ⟨p, hp, rfl⟩ := List.mem_map.1 hj
      obtain rfl := List.mem_singleton.1 hk
      exact hnone p hp
    · rw [List.map_append]
      exact h.ordered.append (List.Sublist.refl _)
    · rw [List.map_append, List.forall_mem_append]
      refine ⟨fun k hk => ?_, List.forall_mem_singleton.2 (.inl (by simp))⟩
      obtain hmem | ⟨j, hmem, hj⟩ := h.covers k hk
      · exact .inl (List.mem_append_left _ hmem)
      · exact .inr ⟨j, List.mem_append_left _ hmem, hj⟩
    · rw [List.forall_mem_append, List.forall_mem_singleton]
      constructor
      · intro p hp
        rw [h.count p hp, List.countP_append, List.countP_singleton, hnone p hp]
        simp
      · have hzero : keys.countP (same key) = 0 :=
          List.countP_eq_zero.2 fun k hk => by simp [hnew k hk]
        rw [List.countP_append, List.countP_singleton, hzero]
        split <;> simp_all
    · rw [List.map_append, List.sum_append, h.total, List.length_append]
      rfl

/-- The counts of keys are right. -/
theorem isCount_ofKeys (keys : List κ) : IsCount same keys (ofKeys same keys) := by
  induction keys using List.reverseRecOn with
  | nil => exact ⟨.nil, List.Sublist.refl _, List.forall_mem_nil _, List.forall_mem_nil _, rfl⟩
  | append_singleton keys key ih =>
    rw [ofKeys, List.foldl_append]
    exact ih.add symm trans key

end Laws

end Counts
