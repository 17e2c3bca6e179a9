import Mathlib.Algebra.GroupWithZero.Nat
import Mathlib.Data.List.Nodup
import Mathlib.Data.Set.Card

/-!
# Insertion-ordered dictionaries

A dictionary as Python keeps it (`PyDict`): every key once, in the order of its
first insertion. An assignment to a key already there replaces its value in
place, one to a new key appends the pair, and a deletion closes the gap.

The pairs are a list, and that no key occurs twice is a field: a list that is
not a dictionary cannot be built. Proofs read a dictionary by `get?` alone,
through `get?_set` and `get?_erase`; `mem_items_iff` connects it to iteration.
A dictionary may count its keys (`count`).
-/

/-- A dictionary from `κ` to `α`: its pairs in order of insertion. -/
structure PyDict (κ α : Type*) where
  /-- The pairs, in the order an iteration visits them. -/
  items : List (κ × α)
  /-- No key occurs twice. -/
  nodup : (items.map Prod.fst).Nodup

namespace PyDict

variable {κ α : Type*}

/-- The dictionary without pairs. -/
def empty : PyDict κ α := ⟨[], List.nodup_nil⟩

/-- The keys, in order of insertion. -/
def keys (d : PyDict κ α) : List κ := d.items.map Prod.fst

variable [DecidableEq κ]

/-- The value at the key `k`, if there is one. -/
def get? (d : PyDict κ α) (k : κ) : Option α := d.items.lookup k

/-! ## Lists of pairs -/

/-- Replacing the value at `k` in a list of pairs, or appending one. -/
def upsert (k : κ) (v : α) : List (κ × α) → List (κ × α)
  | [] => [(k, v)]
  | (j, w) :: l => if j = k then (k, v) :: l else (j, w) :: upsert k v l

theorem map_fst_upsert (k : κ) (v : α) (l : List (κ × α)) :
    (upsert k v l).map Prod.fst =
      if k ∈ l.map Prod.fst then l.map Prod.fst else l.map Prod.fst ++ [k] := by
  induction l with
  | nil => rfl
  | cons p l ih =>
    obtain ⟨j, w⟩ := p
    by_cases hj : j = k
    · simp [upsert, hj]
    · have hk : k ≠ j := fun h => hj h.symm
      simp only [upsert, hj, if_false, List.map_cons, List.mem_cons, hk, false_or, ih]
      split <;> rfl

theorem lookup_cons_self (k : κ) (v : α) (l : List (κ × α)) :
    ((k, v) :: l).lookup k = some v := by
  rw [List.lookup_cons, beq_self_eq_true]

theorem lookup_cons_of_ne {k j : κ} (h : k ≠ j) (w : α) (l : List (κ × α)) :
    ((j, w) :: l).lookup k = l.lookup k := by
  rw [List.lookup_cons, beq_eq_false_iff_ne.2 h]

theorem lookup_upsert (k j : κ) (v : α) (l : List (κ × α)) :
    (upsert k v l).lookup j = if j = k then some v else l.lookup j := by
  induction l with
  | nil =>
    split
    · next hj => rw [hj, upsert, lookup_cons_self]
    · next hj => rw [upsert, lookup_cons_of_ne hj]
  | cons p l ih =>
    obtain ⟨i, w⟩ := p
    rw [upsert]
    split
    · next hi =>
      split
      · next hj => rw [hj, lookup_cons_self]
      · next hj => rw [lookup_cons_of_ne hj, lookup_cons_of_ne (hi ▸ hj)]
    · next hi =>
      by_cases hji : j = i
      · rw [hji, lookup_cons_self, lookup_cons_self, if_neg hi]
      · rw [lookup_cons_of_ne hji, lookup_cons_of_ne hji, ih]

theorem lookup_filter_ne (k j : κ) (l : List (κ × α)) :
    (l.filter fun p => p.1 ≠ k).lookup j = if j = k then none else l.lookup j := by
  induction l with
  | nil => split <;> rfl
  | cons p l ih =>
    obtain ⟨i, w⟩ := p
    by_cases hi : i = k
    · rw [List.filter_cons_of_neg (by simp [hi]), ih]
      split
      · rfl
      · next hj => rw [lookup_cons_of_ne (hi ▸ hj)]
    · rw [List.filter_cons_of_pos (by simp [hi])]
      by_cases hji : j = i
      · rw [hji, lookup_cons_self, lookup_cons_self, if_neg hi]
      · rw [lookup_cons_of_ne hji, lookup_cons_of_ne hji, ih]

theorem mem_iff_lookup {l : List (κ × α)} (hl : (l.map Prod.fst).Nodup) (k : κ) (v : α) :
    (k, v) ∈ l ↔ l.lookup k = some v := by
  induction l with
  | nil => exact ⟨fun h => absurd h List.not_mem_nil, fun h => absurd h (by simp)⟩
  | cons p l ih =>
    obtain ⟨j, w⟩ := p
    rw [List.map_cons, List.nodup_cons] at hl
    by_cases hk : k = j
    · -- The value found is the only one at `k`: the key does not occur again.
      subst hk
      have hv : (k, v) ∉ l := fun h => hl.1 (List.mem_map.2 ⟨(k, v), h, rfl⟩)
      simp [hv, eq_comm]
    · rw [lookup_cons_of_ne hk, ← ih hl.2, List.mem_cons, Prod.mk.injEq]
      exact ⟨fun h => h.elim (fun h => absurd h.1 hk) id, .inr⟩

theorem lookup_filter {l : List (κ × α)} (hl : (l.map Prod.fst).Nodup) (p : κ → α → Bool)
    (k : κ) : (l.filter fun q => p q.1 q.2).lookup k = (l.lookup k).filter (p k) := by
  refine Option.ext fun v => ?_
  have hl' : ((l.filter fun q => p q.1 q.2).map Prod.fst).Nodup :=
    hl.sublist (List.filter_sublist.map Prod.fst)
  rw [← mem_iff_lookup hl', List.mem_filter, mem_iff_lookup hl, Option.filter_eq_some_iff]

/-! ## Assignment and deletion -/

/-- The assignment `d[k] = v`. -/
def set (d : PyDict κ α) (k : κ) (v : α) : PyDict κ α where
  items := upsert k v d.items
  nodup := by
    rw [map_fst_upsert]
    split
    · exact d.nodup
    · next hk => exact List.nodup_append.2 ⟨d.nodup, List.nodup_singleton k,
        fun a ha b hb hab => hk (List.mem_singleton.1 hb ▸ hab ▸ ha)⟩

/-- The deletion `d.pop(k, None)`. -/
def erase (d : PyDict κ α) (k : κ) : PyDict κ α where
  items := d.items.filter fun p => p.1 ≠ k
  nodup := d.nodup.sublist (List.filter_sublist.map Prod.fst)

/-- The pairs that `p` keeps. -/
def filter (d : PyDict κ α) (p : κ → α → Bool) : PyDict κ α where
  items := d.items.filter fun q => p q.1 q.2
  nodup := d.nodup.sublist (List.filter_sublist.map Prod.fst)

/-- `len(d)`. -/
def size (d : PyDict κ α) : ℕ := d.items.length

@[simp] theorem get?_empty (k : κ) : (empty : PyDict κ α).get? k = none := rfl

/-- Reading after an assignment. -/
theorem get?_set (d : PyDict κ α) (k j : κ) (v : α) :
    (d.set k v).get? j = if j = k then some v else d.get? j :=
  lookup_upsert k j v d.items

/-- Reading after a deletion. -/
theorem get?_erase (d : PyDict κ α) (k j : κ) :
    (d.erase k).get? j = if j = k then none else d.get? j :=
  lookup_filter_ne k j d.items

/-- Reading a dictionary of which some pairs are kept. -/
theorem get?_filter (d : PyDict κ α) (p : κ → α → Bool) (k : κ) :
    (d.filter p).get? k = (d.get? k).filter (p k) :=
  lookup_filter d.nodup p k

/-- An iteration visits exactly the pairs that reading finds. -/
theorem mem_items_iff (d : PyDict κ α) (k : κ) (v : α) :
    (k, v) ∈ d.items ↔ d.get? k = some v :=
  mem_iff_lookup d.nodup k v

/-- A key is listed exactly if it has a value. -/
theorem mem_keys_iff (d : PyDict κ α) (k : κ) : k ∈ d.keys ↔ ∃ v, d.get? k = some v := by
  rw [keys, List.mem_map]
  constructor
  · rintro ⟨⟨_, v⟩, hv, rfl⟩
    exact ⟨v, (d.mem_items_iff _ v).1 hv⟩
  · rintro ⟨v, hv⟩
    exact ⟨(k, v), (d.mem_items_iff k v).2 hv, rfl⟩

/-- The pairs, told by the keys and what reading finds there. -/
theorem map_some_items {β : Type*} (f : κ → α → β) (d : PyDict κ α) :
    (d.items.map fun p => some (f p.1 p.2)) = d.keys.map fun k => (d.get? k).map (f k) := by
  rw [keys, List.map_map]
  refine List.map_congr_left fun p hp => ?_
  rw [Function.comp_apply, (d.mem_items_iff p.1 p.2).1 hp, Option.map_some]

/-- Assigning to a new key adds a pair, to another one none. -/
theorem size_set (d : PyDict κ α) (k : κ) (v : α) :
    (d.set k v).size = if (d.get? k).isSome then d.size else d.size + 1 := by
  have hkeys : (d.set k v).size = ((upsert k v d.items).map Prod.fst).length := by
    rw [List.length_map]
    rfl
  rw [hkeys, map_fst_upsert]
  have hmem : k ∈ d.items.map Prod.fst ↔ (d.get? k).isSome := by
    rw [Option.isSome_iff_exists]
    exact d.mem_keys_iff k
  by_cases hk : k ∈ d.items.map Prod.fst
  · rw [if_pos hk, if_pos (hmem.1 hk), List.length_map, size]
  · rw [if_neg hk, if_neg (hmem.not.1 hk), List.length_append, List.length_map, size,
      List.length_singleton]

/-- There are as many pairs in a dictionary as there are keys with a value. -/
theorem size_eq_ncard (d : PyDict κ α) : d.size = {k | (d.get? k).isSome}.ncard := by
  have hkeys : {k | (d.get? k).isSome} = (d.keys.toFinset : Set κ) := by
    ext k
    rw [Set.mem_ofPred, Option.isSome_iff_exists, ← mem_keys_iff, Finset.mem_coe, List.mem_toFinset]
  have hcard : d.keys.toFinset.card = d.keys.length := List.toFinset_card_of_nodup d.nodup
  rw [hkeys, Set.ncard_coe_finset, hcard, keys, List.length_map, size]

/-- There are fewer pairs than keys that may have a value if one of them has none. -/
theorem size_lt_card {d : PyDict κ α} {K : Finset κ} (hK : ∀ k, (d.get? k).isSome → k ∈ K) {k : κ}
    (hk : k ∈ K) (hnone : d.get? k = none) : d.size < K.card := by
  rw [size_eq_ncard, ← Set.ncard_coe_finset]
  have hout : k ∉ {k | (d.get? k).isSome} := by
    rw [Set.mem_ofPred, hnone]
    exact Bool.false_ne_true
  exact Set.ncard_lt_ncard ((Set.ssubset_iff_of_subset hK).2 ⟨k, hk, hout⟩) K.finite_toSet

/-- The pairs whose values have a property are as many as the keys of such values. -/
theorem countP_items_eq_ncard (p : α → Bool) (d : PyDict κ α) :
    (d.items.countP fun q => p q.2) = {k | ∃ v, d.get? k = some v ∧ p v = true}.ncard := by
  have hsize : (d.items.countP fun q => p q.2) = (d.filter fun _ v => p v).size :=
    List.countP_eq_length_filter
  rw [hsize, size_eq_ncard]
  refine congrArg Set.ncard (Set.ext fun k => ?_)
  rw [Set.mem_ofPred, Set.mem_ofPred, get?_filter, Option.isSome_iff_exists]
  exact exists_congr fun v => Option.filter_eq_some_iff

theorem upsert_of_lookup_eq_none {k : κ} {l : List (κ × α)} (h : l.lookup k = none) (v : α) :
    upsert k v l = l ++ [(k, v)] := by
  induction l with
  | nil => rfl
  | cons p l ih =>
    obtain ⟨j, w⟩ := p
    have hj : j ≠ k := by
      rintro rfl
      rw [lookup_cons_self] at h
      exact absurd h (by simp)
    rw [lookup_cons_of_ne (Ne.symm hj)] at h
    rw [upsert, if_neg hj, ih h, List.cons_append]

/-- A new key comes last. -/
theorem items_set_of_get?_eq_none {d : PyDict κ α} {k : κ} (h : d.get? k = none) (v : α) :
    (d.set k v).items = d.items ++ [(k, v)] :=
  upsert_of_lookup_eq_none h v

theorem map_upsert {β : Type*} {f : κ × α → β} {k : κ} {v w : α} {l : List (κ × α)}
    (h : l.lookup k = some w) (hf : f (k, v) = f (k, w)) : (upsert k v l).map f = l.map f := by
  induction l with
  | nil => exact absurd h (by simp)
  | cons p l ih =>
    obtain ⟨j, u⟩ := p
    rw [upsert]
    split
    · next hj =>
      subst hj
      rw [lookup_cons_self, Option.some.injEq] at h
      rw [List.map_cons, List.map_cons, hf, h]
    · next hj =>
      rw [lookup_cons_of_ne (Ne.symm hj)] at h
      rw [List.map_cons, List.map_cons, ih h]

/-- Replacing a value by one that `f` does not tell from it changes nothing that `f` reads. -/
theorem map_items_set {β : Type*} {f : κ × α → β} {d : PyDict κ α} {k : κ} {v w : α}
    (h : d.get? k = some w) (hf : f (k, v) = f (k, w)) :
    (d.set k v).items.map f = d.items.map f :=
  map_upsert h hf

/-! ## Counting -/

/-- Counting one more at `k`: `d[k] = d.get(k, 0) + 1`. -/
def count (d : PyDict κ ℕ) (k : κ) : PyDict κ ℕ := d.set k ((d.get? k).getD 0 + 1)

/-- The sum of all counts. -/
def total (d : PyDict κ ℕ) : ℕ := (d.items.map Prod.snd).sum

/-- The sum of what `f` reads off the values. -/
def sumOf (d : PyDict κ α) (f : α → ℕ) : ℕ := (d.items.map fun p => f p.2).sum

theorem sum_upsert (f : α → ℕ) (k : κ) (v : α) (l : List (κ × α)) :
    ((upsert k v l).map fun p => f p.2).sum + ((l.lookup k).map f).getD 0 =
      (l.map fun p => f p.2).sum + f v := by
  induction l with
  | nil => simp [upsert]
  | cons p l ih =>
    obtain ⟨j, w⟩ := p
    rw [upsert]
    split
    · next hj =>
      subst hj
      rw [lookup_cons_self]
      simp only [List.map_cons, List.sum_cons, Option.map_some, Option.getD_some]
      omega
    · next hj =>
      rw [lookup_cons_of_ne (Ne.symm hj)]
      simp only [List.map_cons, List.sum_cons]
      omega

/-- An assignment replaces a summand, or adds one. -/
theorem sumOf_set (d : PyDict κ α) (f : α → ℕ) (k : κ) (v : α) :
    (d.set k v).sumOf f + ((d.get? k).map f).getD 0 = d.sumOf f + f v :=
  sum_upsert f k v d.items

/-- Reading after counting. -/
theorem getD_get?_count (d : PyDict κ ℕ) (k j : κ) :
    ((d.count k).get? j).getD 0 = (d.get? j).getD 0 + if j = k then 1 else 0 := by
  rw [count, get?_set]
  by_cases hj : j = k
  · rw [if_pos hj, if_pos hj, hj, Option.getD_some]
  · rw [if_neg hj, if_neg hj, add_zero]

/-- Counting adds one to the sum. -/
theorem total_count (d : PyDict κ ℕ) (k : κ) : (d.count k).total = d.total + 1 := by
  have hsum : (d.count k).total + ((d.get? k).map id).getD 0 =
      d.total + ((d.get? k).getD 0 + 1) := d.sumOf_set id k _
  rw [Option.map_id, id_eq] at hsum
  omega

end PyDict
