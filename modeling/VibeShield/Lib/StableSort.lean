import Mathlib.Data.List.Sort

/-!
# Stable sorting

`sortDesc key l` is `l` with the greatest keys first; elements with equal keys stay in their
order. It is determined by what it does to the elements of each key
(`filter_key_sortDesc`), that it loses none (`sortDesc_perm`) and its order
(`pairwise_sortDesc`). Sorting and filtering can be exchanged (`filter_mergeSort`). Its first
elements are the greatest ones of `l` (`greatest_take`).
-/

namespace StableSort

variable {α β κ : Type*}

/-! ## Sorting and filtering -/

section MergeSort

variable {le : α → α → Bool} (trans : ∀ a b c, le a b → le b c → le a c)
  (total : ∀ a b, le a b || le b a)

/-- A list can be cut in only one way into a part where `q` holds and one where it does not. -/
theorem append_inj_of_forall {q : α → Bool} {l₁ l₂ m₁ m₂ : List α} (h : l₁ ++ l₂ = m₁ ++ m₂)
    (hl₁ : ∀ b ∈ l₁, q b = true) (hl₂ : ∀ b ∈ l₂, q b = false)
    (hm₁ : ∀ b ∈ m₁, q b = true) (hm₂ : ∀ b ∈ m₂, q b = false) : l₁ = m₁ ∧ l₂ = m₂ := by
  have hcut {n₁ n₂ : List α} (hn₁ : ∀ b ∈ n₁, q b = true) (hn₂ : ∀ b ∈ n₂, q b = false) :
      (n₁ ++ n₂).filter q = n₁ := by
    rw [List.filter_append, List.filter_eq_self.2 hn₁,
      List.filter_eq_nil_iff.2 fun b hb => by simp [hn₂ b hb], List.append_nil]
  have h₁ : l₁ = m₁ := by rw [← hcut hl₁ hl₂, h, hcut hm₁ hm₂]
  exact ⟨h₁, List.append_cancel_left (h₁ ▸ h)⟩

include trans total in
/-- The first element goes in front of what is not smaller than it. -/
theorem exists_mergeSort_cons (a : α) (l : List α) :
    ∃ l₁ l₂, (a :: l).mergeSort le = l₁ ++ a :: l₂ ∧ l.mergeSort le = l₁ ++ l₂ ∧
      (∀ b ∈ l₁, le a b = false) ∧ ∀ b ∈ l₂, le a b = true := by
  obtain ⟨l₁, l₂, hcons, happend, hl₁⟩ := List.mergeSort_cons trans total a l
  refine ⟨l₁, l₂, hcons, happend, fun b hb => by simpa using hl₁ b hb, fun b hb => ?_⟩
  have hsorted := List.pairwise_mergeSort trans total (a :: l)
  rw [hcons] at hsorted
  exact (List.pairwise_cons.1 (List.pairwise_append.1 hsorted).2.1).1 b hb

include trans total in
/-- What is kept of a sorted list is what is kept, sorted. -/
theorem filter_mergeSort (p : α → Bool) (l : List α) :
    (l.mergeSort le).filter p = (l.filter p).mergeSort le := by
  induction l with
  | nil => simp
  | cons a l ih =>
    obtain ⟨l₁, l₂, hcons, happend, hl₁, hl₂⟩ := exists_mergeSort_cons trans total a l
    have hfilter : l₁.filter p ++ l₂.filter p = (l.filter p).mergeSort le := by
      rw [← ih, happend, List.filter_append]
    rw [hcons, List.filter_append]
    by_cases ha : p a = true
    · rw [List.filter_cons_of_pos ha, List.filter_cons_of_pos ha]
      obtain ⟨m₁, m₂, hcons', happend', hm₁, hm₂⟩ :=
        exists_mergeSort_cons trans total a (l.filter p)
      -- Both sides have `a` where the greater elements end.
      obtain ⟨h₁, h₂⟩ := append_inj_of_forall (q := fun b => !le a b)
        (hfilter.trans happend') (fun b hb => by simp [hl₁ b (List.mem_of_mem_filter hb)])
        (fun b hb => by simp [hl₂ b (List.mem_of_mem_filter hb)])
        (fun b hb => by simp [hm₁ b hb]) fun b hb => by simp [hm₂ b hb]
      rw [hcons', h₁, h₂]
    · rw [List.filter_cons_of_neg ha, List.filter_cons_of_neg ha, hfilter]

end MergeSort

/-! ## By a key, the greatest first -/

variable [LinearOrder κ]

/-- The elements with the greatest keys first, and in their order if the keys are equal. -/
def sortDesc (key : α → κ) (l : List α) : List α := l.mergeSort fun a b => key b ≤ key a

variable (key : α → κ) (l : List α)

theorem sortDesc_perm : (sortDesc key l).Perm l := List.mergeSort_perm l _

theorem pairwise_sortDesc : (sortDesc key l).Pairwise fun a b => key b ≤ key a := by
  have hsorted : (l.mergeSort fun a b => decide (key b ≤ key a)).Pairwise fun a b =>
      decide (key b ≤ key a) = true := List.pairwise_mergeSort
    (fun a b c hab hbc => by simpa using (of_decide_eq_true hbc).trans (of_decide_eq_true hab))
    (fun a b => by simpa using le_total (key b) (key a)) l
  exact hsorted.imp of_decide_eq_true

theorem filter_sortDesc (p : α → Bool) :
    (sortDesc key l).filter p = sortDesc key (l.filter p) :=
  filter_mergeSort (fun a b c hab hbc => by
    simpa using (of_decide_eq_true hbc).trans (of_decide_eq_true hab))
    (fun a b => by simpa using le_total (key b) (key a)) p l

/-- The elements of a key stay in their order. -/
theorem filter_key_sortDesc (k : κ) :
    ((sortDesc key l).filter fun a => key a = k) = l.filter fun a => key a = k := by
  rw [filter_sortDesc]
  refine List.mergeSort_of_pairwise (List.pairwise_of_forall_mem_list fun a ha b hb => ?_)
  have hka : key a = k := by simpa using (List.mem_filter.1 ha).2
  have hkb : key b = k := by simpa using (List.mem_filter.1 hb).2
  simp [hka, hkb]

theorem map_sortDesc (f : α → β) (key : β → κ) :
    (sortDesc (fun a => key (f a)) l).map f = sortDesc key (l.map f) :=
  List.map_mergeSort fun _ _ _ _ => rfl

/-- The `m` greatest elements of a list, the greatest first. Of elements with equal keys, those
    that come first. -/
structure Greatest (m : ℕ) (l top : List α) : Prop where
  length_eq : top.length = min m l.length
  ordered : top.Pairwise fun a b => key b ≤ key a
  greatest : ∃ rest, (top ++ rest).Perm l ∧ ∀ a ∈ top, ∀ b ∈ rest, key b ≤ key a
  stable : ∀ k, (top.filter fun a => key a = k) <+: l.filter fun a => key a = k

theorem greatest_take (m : ℕ) : Greatest key m l ((sortDesc key l).take m) where
  length_eq := by rw [List.length_take, (sortDesc_perm key l).length_eq]
  ordered := (pairwise_sortDesc key l).sublist (List.take_sublist _ _)
  greatest := by
    have hsorted := pairwise_sortDesc key l
    rw [← List.take_append_drop m (sortDesc key l), List.pairwise_append] at hsorted
    refine ⟨(sortDesc key l).drop m, ?_, hsorted.2.2⟩
    rw [List.take_append_drop]
    exact sortDesc_perm key l
  stable k := by
    rw [← filter_key_sortDesc key l k]
    exact (List.take_prefix m _).filter _

end StableSort
