import VibeShield.Escrow.Model
import VibeShield.Lib.RecencyMean

/-!
# The reputation score

In exact arithmetic, `calculate_rs` is the mean of the scores of the history, weighted by their
recency (`RecencyMean.mean`), and rounded to four decimals. So it lies in `[0, 1]` like the
scores, a new result moves it towards its own score, and better or later good results do not
lower it: `reputation_recency_weighted`.
-/

namespace VibeShield

namespace Reputation

/-- The weights of `n` results in exact arithmetic. -/
def exactWeights (d : ℚ) (n : ℕ) : List ℚ := (List.range n).map fun i => d ^ (n - 1 - i)

/-- The weighted mean of the scores, before it is rounded. -/
def unroundedRs (d : ℚ) (scores : List ℚ) : ℚ :=
  (List.zipWith (· * ·) (exactWeights d scores.length) scores).sum /
    (exactWeights d scores.length).sum

/-- The scores of the history. -/
def scores (r : Reputation ℚ) : List ℚ := r.history.map HistoryEntry.score

theorem weights_eq_ok (d : ℚ) (n : ℕ) : weights d n = .ok (exactWeights d n) := by
  exact List.mapM_pure

theorem exactWeights_succ (d : ℚ) (n : ℕ) : exactWeights d (n + 1) = d ^ n :: exactWeights d n := by
  rw [exactWeights, List.range_succ_eq_map, List.map_cons, List.map_map, exactWeights]
  refine congrArg₂ _ rfl (List.map_congr_left fun i _ => ?_)
  rw [Function.comp_apply, Nat.add_sub_cancel]
  congr 1
  omega

theorem sum_exactWeights (d : ℚ) (n : ℕ) : (exactWeights d n).sum = RecencyMean.weight d n := by
  induction n with
  | zero => rfl
  | succ n ih => rw [exactWeights_succ, List.sum_cons, ih, RecencyMean.weight_succ]

theorem sum_zipWith_exactWeights (d : ℚ) (xs : List ℚ) :
    (List.zipWith (· * ·) (exactWeights d xs.length) xs).sum = RecencyMean.total d xs := by
  induction xs with
  | nil => rfl
  | cons x xs ih =>
    rw [List.length_cons, exactWeights_succ, List.zipWith_cons_cons, List.sum_cons, ih,
      RecencyMean.total]

theorem unroundedRs_eq_mean (d : ℚ) (xs : List ℚ) : unroundedRs d xs = RecencyMean.mean d xs := by
  rw [unroundedRs, sum_zipWith_exactWeights, sum_exactWeights, RecencyMean.mean]

variable {d : ℚ} {r : Reputation ℚ}

/-- The weights of the results do not add up to zero. -/
theorem isZero_sum_exactWeights (hd : 0 < d) (hne : r.history ≠ []) :
    PyArith.isZero (PyArith.sum (exactWeights d r.history.length)) = false := by
  have hpos : 0 < (exactWeights d r.history.length).sum := by
    rw [sum_exactWeights]
    exact RecencyMean.weight_pos hd.le fun h => hne (List.length_eq_zero_iff.1 h)
  exact decide_eq_false hpos.ne'

/-- What is computed for a history with results. -/
theorem calculateRs_eq_ok (hd : 0 < d) (hne : r.history ≠ []) :
    r.calculateRs d = .ok (PyArith.round (unroundedRs d r.scores) 4) := by
  have hlen : r.scores.length = r.history.length := List.length_map _
  rw [calculateRs, if_neg hne, weights_eq_ok, unroundedRs, hlen]
  change (if PyArith.isZero (PyArith.sum (exactWeights d r.history.length)) then _ else _) = _
  rw [isZero_sum_exactWeights hd hne]
  rfl

theorem scores_update (r : Reputation ℚ) (s : ℚ) (wasVerified wasDisputed : Bool) (t₁ t₂ : ℚ) :
    (r.update s wasVerified wasDisputed t₁ t₂).scores = r.scores ++ [s] :=
  List.map_append

/-- What is computed after one more result. -/
theorem calculateRs_update (hd : 0 < d) (r : Reputation ℚ) (s : ℚ) (wasVerified wasDisputed : Bool)
    (t₁ t₂ : ℚ) : (r.update s wasVerified wasDisputed t₁ t₂).calculateRs d =
      .ok (PyArith.round (unroundedRs d (r.scores ++ [s])) 4) := by
  rw [calculateRs_eq_ok hd (List.append_ne_nil_of_right_ne_nil _ (List.cons_ne_nil _ _)),
    scores_update]

/-- A score between 0 and 1 remains so when it is rounded. -/
theorem round_mem_unit {x : ℚ} (h : 0 ≤ x ∧ x ≤ 1) (n : ℕ) :
    0 ≤ PyArith.round x n ∧ PyArith.round x n ≤ 1 := by
  have hpow : (0 : ℚ) < 10 ^ n := pow_pos (by norm_num) n
  have hcast : ((10 ^ n : ℤ) : ℚ) = 10 ^ n := Int.cast_pow 10 n
  constructor
  · refine div_nonneg (Int.cast_nonneg (le_roundHalfEven ?_)) hpow.le
    exact Int.cast_zero.trans_le (mul_nonneg h.1 hpow.le)
  · refine (div_le_one hpow).2 (hcast ▸ Int.cast_le.2 (roundHalfEven_le ?_))
    rw [hcast]
    exact mul_le_of_le_one_left hpow.le h.2

end Reputation

open RecencyMean Reputation in
/-- The reputation is a mean of the scores, weighted by recency. -/
theorem reputation_recency_weighted (d : ℚ) (hd : 0 < d) (hd' : d ≤ 1) (r : Reputation ℚ)
    (hne : r.history ≠ []) (hunit : ∀ x ∈ r.scores, 0 ≤ x ∧ x ≤ 1) :
    let h := r.scores
    (∃ ws, weights d r.history.length = .ok ws ∧ PyArith.isZero (PyArith.sum ws) = false) ∧
      r.calculateRs d = .ok (PyArith.round (unroundedRs d h) 4) ∧
      (∀ s wasVerified wasDisputed t₁ t₂,
        (r.update s wasVerified wasDisputed t₁ t₂).calculateRs d =
          .ok (PyArith.round (unroundedRs d (h ++ [s])) 4)) ∧
      (∀ s, unroundedRs d (h ++ [s]) =
          (d * weight d h.length * unroundedRs d h + s) / (d * weight d h.length + 1) ∧
        min (unroundedRs d h) s ≤ unroundedRs d (h ++ [s]) ∧
        unroundedRs d (h ++ [s]) ≤ max (unroundedRs d h) s) ∧
      (0 ≤ unroundedRs d h ∧ unroundedRs d h ≤ 1) ∧
      (0 ≤ PyArith.round (unroundedRs d h) 4 ∧ PyArith.round (unroundedRs d h) 4 ≤ 1) ∧
      (∀ i (hi : i < h.length) s, h[i] ≤ s → unroundedRs d h ≤ unroundedRs d (h.set i s)) ∧
      ∀ xs a b ys, h = xs ++ a :: b :: ys → b ≤ a →
        unroundedRs d h ≤ unroundedRs d (xs ++ b :: a :: ys) := by
  intro h
  have hh : h ≠ [] := fun hnil => hne (List.map_eq_nil_iff.1 hnil)
  have hmem : 0 ≤ unroundedRs d h ∧ unroundedRs d h ≤ 1 := by
    rw [unroundedRs_eq_mean]
    exact ⟨le_mean hd.le hh fun x hx => (hunit x hx).1, mean_le hd.le hh fun x hx => (hunit x hx).2⟩
  refine ⟨⟨_, weights_eq_ok d _, isZero_sum_exactWeights hd hne⟩, calculateRs_eq_ok hd hne,
    calculateRs_update hd r, fun s => ⟨?_, ?_⟩, hmem, round_mem_unit hmem 4,
    fun i hi s hs => ?_, fun xs a b ys hsplit hab => ?_⟩
  · rw [unroundedRs_eq_mean, unroundedRs_eq_mean]
    exact mean_concat hd.le hh s
  · rw [unroundedRs_eq_mean, unroundedRs_eq_mean]
    exact mean_concat_mem hd.le hh s
  · rw [unroundedRs_eq_mean, unroundedRs_eq_mean]
    exact mean_le_mean_set hd.le hi hs
  · rw [unroundedRs_eq_mean, unroundedRs_eq_mean, hsplit]
    exact mean_swap_le hd.le hd' xs ys hab

namespace Sample

/-- A reputation with a good result and a later bad one. -/
def mixed : Reputation ℚ :=
  ((Reputation.new (some "agent") 0).update 1 true false 1 1).update 0 false true 2 2

theorem mixed_between : 0 ≤ Reputation.unroundedRs (19 / 20) mixed.scores ∧
    Reputation.unroundedRs (19 / 20) mixed.scores ≤ 1 :=
  (reputation_recency_weighted (19 / 20) (by decide +kernel) (by decide +kernel) mixed
    (List.cons_ne_nil _ _) (by decide +kernel)).2.2.2.2.1

end Sample

end VibeShield
