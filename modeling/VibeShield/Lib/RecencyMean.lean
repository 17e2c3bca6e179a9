import Mathlib.Algebra.Order.Field.Basic
import Mathlib.Algebra.Order.Ring.GeomSum
import Mathlib.Tactic.Linarith
import Mathlib.Tactic.Ring

/-!
# Recency-weighted means

The mean of a list whose last value has the weight 1 and every other one `d` times the weight
of the value after it.

* `mean_concat`: one more value moves the mean towards it (`mean_concat_mem`);
* `le_mean`, `mean_le`: the mean lies within the bounds of the values;
* `mean_mono`, `mean_swap_le`: greater values raise it, and so does, if `d ≤ 1`, a greater
  value that changes places with the smaller one after it.
-/

namespace RecencyMean

variable {K : Type*} [Field K]

/-- The sum of the weights of `n` values. -/
def weight (d : K) (n : ℕ) : K := ∑ i ∈ Finset.range n, d ^ i

/-- The weighted sum of the values. -/
def total (d : K) : List K → K
  | [] => 0
  | x :: xs => d ^ xs.length * x + total d xs

/-- The weighted mean of the values. -/
def mean (d : K) (xs : List K) : K := total d xs / weight d xs.length

variable {d : K}

theorem weight_succ (d : K) (n : ℕ) : weight d (n + 1) = d ^ n + weight d n := by
  rw [weight, Finset.sum_range_succ, add_comm]
  rfl

/-- With one more value, the weights of the others are multiplied by `d`. -/
theorem weight_succ' (d : K) (n : ℕ) : weight d (n + 1) = d * weight d n + 1 :=
  geom_sum_succ

theorem total_append (xs ys : List K) :
    total d (xs ++ ys) = d ^ ys.length * total d xs + total d ys := by
  induction xs with
  | nil => rw [List.nil_append, total, mul_zero, zero_add]
  | cons x xs ih =>
    rw [List.cons_append, total, total, ih, List.length_append, pow_add]
    ring

theorem total_concat (xs : List K) (x : K) : total d (xs ++ [x]) = d * total d xs + x := by
  rw [total_append, List.length_singleton, pow_one, total, total, List.length_nil, pow_zero,
    one_mul, add_zero]

theorem total_replicate (d c : K) (n : ℕ) : total d (List.replicate n c) = weight d n * c := by
  induction n with
  | zero => rw [List.replicate_zero, total, weight, Finset.sum_range_zero, zero_mul]
  | succ n ih =>
    rw [List.replicate_succ, total, ih, List.length_replicate, weight_succ, add_mul]

/-! ## The mean -/

variable [LinearOrder K] [IsStrictOrderedRing K]

theorem weight_nonneg (hd : 0 ≤ d) (n : ℕ) : 0 ≤ weight d n :=
  Finset.sum_nonneg fun i _ => pow_nonneg hd i

theorem weight_pos (hd : 0 ≤ d) {n : ℕ} (hn : n ≠ 0) : 0 < weight d n := geom_sum_pos hd hn

theorem weight_length_pos (hd : 0 ≤ d) {xs : List K} (hxs : xs ≠ []) : 0 < weight d xs.length :=
  weight_pos hd fun h => hxs (List.length_eq_zero_iff.1 h)

theorem weight_mul_mean (hd : 0 ≤ d) {xs : List K} (hxs : xs ≠ []) :
    weight d xs.length * mean d xs = total d xs :=
  mul_div_cancel₀ _ (weight_length_pos hd hxs).ne'

/-- The mean with one more value. -/
theorem mean_concat (hd : 0 ≤ d) {xs : List K} (hxs : xs ≠ []) (x : K) :
    mean d (xs ++ [x]) =
      (d * weight d xs.length * mean d xs + x) / (d * weight d xs.length + 1) := by
  rw [mul_assoc, weight_mul_mean hd hxs, ← weight_succ', ← total_concat, mean, List.length_append,
    List.length_singleton]

/-- A weighted mean of two values lies between them. -/
theorem div_add_one_mem_Icc {w x y : K} (hw : 0 ≤ w) :
    min x y ≤ (w * x + y) / (w + 1) ∧ (w * x + y) / (w + 1) ≤ max x y := by
  have hpos : 0 < w + 1 := add_pos_of_nonneg_of_pos hw one_pos
  constructor
  · rw [le_div_iff₀ hpos, mul_add, mul_one, mul_comm]
    exact add_le_add (mul_le_mul_of_nonneg_left (min_le_left x y) hw) (min_le_right x y)
  · rw [div_le_iff₀ hpos, mul_add, mul_one, mul_comm _ w]
    exact add_le_add (mul_le_mul_of_nonneg_left (le_max_left x y) hw) (le_max_right x y)

/-- One more value moves the mean towards it, and not beyond. -/
theorem mean_concat_mem (hd : 0 ≤ d) {xs : List K} (hxs : xs ≠ []) (x : K) :
    min (mean d xs) x ≤ mean d (xs ++ [x]) ∧ mean d (xs ++ [x]) ≤ max (mean d xs) x := by
  rw [mean_concat hd hxs]
  exact div_add_one_mem_Icc (mul_nonneg hd (weight_nonneg hd _))

/-! ## Comparing means -/

theorem total_mono (hd : 0 ≤ d) {xs ys : List K} (h : List.Forall₂ (· ≤ ·) xs ys) :
    total d xs ≤ total d ys := by
  induction h with
  | nil => exact le_rfl
  | cons hxy htail ih =>
    rw [total, total, htail.length_eq]
    exact add_le_add (mul_le_mul_of_nonneg_left hxy (pow_nonneg hd _)) ih

/-- Greater values have a greater mean. -/
theorem mean_mono (hd : 0 ≤ d) {xs ys : List K} (h : List.Forall₂ (· ≤ ·) xs ys) :
    mean d xs ≤ mean d ys := by
  rw [mean, mean, h.length_eq]
  exact div_le_div_of_nonneg_right (total_mono hd h) (weight_nonneg hd _)

theorem mean_replicate (hd : 0 ≤ d) (c : K) {n : ℕ} (hn : n ≠ 0) :
    mean d (List.replicate n c) = c := by
  rw [mean, total_replicate, List.length_replicate]
  exact mul_div_cancel_left₀ c (weight_pos hd hn).ne'

/-- A lower bound of the values is one of the mean. -/
theorem le_mean (hd : 0 ≤ d) {xs : List K} (hxs : xs ≠ []) {c : K} (h : ∀ x ∈ xs, c ≤ x) :
    c ≤ mean d xs := by
  have hlen : xs.length ≠ 0 := fun h => hxs (List.length_eq_zero_iff.1 h)
  rw [← mean_replicate hd c hlen]
  refine mean_mono hd (List.forall₂_iff_get.2 ⟨List.length_replicate, fun i hi hi' => ?_⟩)
  rw [List.get_eq_getElem, List.getElem_replicate]
  exact h _ (List.get_mem xs ⟨i, hi'⟩)

/-- An upper bound of the values is one of the mean. -/
theorem mean_le (hd : 0 ≤ d) {xs : List K} (hxs : xs ≠ []) {c : K} (h : ∀ x ∈ xs, x ≤ c) :
    mean d xs ≤ c := by
  have hlen : xs.length ≠ 0 := fun h => hxs (List.length_eq_zero_iff.1 h)
  rw [← mean_replicate hd c hlen]
  refine mean_mono hd (List.forall₂_iff_get.2 ⟨List.length_replicate.symm, fun i hi hi' => ?_⟩)
  rw [List.get_eq_getElem, List.get_eq_getElem, List.getElem_replicate]
  exact h _ (List.get_mem xs ⟨i, hi⟩)

/-- Raising one of the values does not lower the mean. -/
theorem mean_le_mean_set (hd : 0 ≤ d) {xs : List K} {i : ℕ} (hi : i < xs.length) {x : K}
    (hx : xs[i] ≤ x) : mean d xs ≤ mean d (xs.set i x) := by
  refine mean_mono hd (List.forall₂_iff_get.2 ⟨List.length_set.symm, fun j hj hj' => ?_⟩)
  rw [List.get_eq_getElem, List.get_eq_getElem, List.getElem_set]
  split
  · next h =>
    subst h
    exact hx
  · exact le_rfl

/-- If the greater one of two neighbours becomes the later one, the mean does not fall. -/
theorem mean_swap_le (hd : 0 ≤ d) (hd' : d ≤ 1) (xs : List K) {a b : K} (ys : List K)
    (hab : b ≤ a) : mean d (xs ++ a :: b :: ys) ≤ mean d (xs ++ b :: a :: ys) := by
  have hlen : (xs ++ b :: a :: ys).length = (xs ++ a :: b :: ys).length := by
    rw [List.length_append, List.length_append, List.length_cons, List.length_cons,
      List.length_cons, List.length_cons]
  -- The two terms have the weights `d ^ (ys.length + 1)` and `d ^ ys.length`.
  have hterms : d ^ (ys.length + 1) * a + d ^ ys.length * b ≤
      d ^ (ys.length + 1) * b + d ^ ys.length * a := by
    have hpow : d ^ (ys.length + 1) ≤ d ^ ys.length :=
      pow_le_pow_of_le_one hd hd' (Nat.le_succ _)
    have hmul : d ^ (ys.length + 1) * (a - b) ≤ d ^ ys.length * (a - b) :=
      mul_le_mul_of_nonneg_right hpow (sub_nonneg.2 hab)
    rw [mul_sub, mul_sub] at hmul
    linarith
  have htotal : total d (xs ++ a :: b :: ys) ≤ total d (xs ++ b :: a :: ys) := by
    rw [total_append, total_append, total, total, total, total]
    simp only [List.length_cons]
    linarith
  rw [mean, mean, hlen]
  exact div_le_div_of_nonneg_right htotal (weight_nonneg hd _)

end RecencyMean
