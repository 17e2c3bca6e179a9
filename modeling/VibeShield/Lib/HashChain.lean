import Mathlib.Data.List.Forall2
import Mathlib.Data.List.Nodup
import Mathlib.Data.List.Induction

/-!
# Hash chains

A list whose items are chained by digests: every item names the digest of the
item before it (`prev`), the first one a fixed origin, and is itself sealed, i.e.
carries the right digest of its own contents (`digest`). What sealing means is
left open (`Sealed`); the digests may be of any type.

* `Linked`: the chains from an origin, and their `tip`, the digest they end in.
* `Linked.forall₂_of_tip_eq`: a chain is determined by its tip, item by item and
  in its length, as far as an item is determined by its digest, if no digest is
  the origin: otherwise a chain could be a suffix of another one.
* `Linked.nodup_map_digest`: so a chain never repeats a digest.
-/

namespace HashChain

variable {β δ : Type*} (prev digest : β → δ) (Sealed : β → Prop)

/-- The list is a chain from the origin `g`. -/
def Linked : δ → List β → Prop
  | _, [] => True
  | g, e :: es => prev e = g ∧ Sealed e ∧ Linked (digest e) es

/-- The digest a chain from `g` ends in. -/
def tip : δ → List β → δ
  | g, [] => g
  | _, e :: es => tip (digest e) es

variable {prev digest Sealed} {g : δ}

@[simp] theorem tip_append (xs ys : List β) :
    tip digest g (xs ++ ys) = tip digest (tip digest g xs) ys := by
  induction xs generalizing g with
  | nil => rfl
  | cons e es ih => exact ih

theorem tip_concat (xs : List β) (e : β) : tip digest g (xs ++ [e]) = digest e := by
  rw [tip_append]; rfl

theorem linked_append (xs ys : List β) : Linked prev digest Sealed g (xs ++ ys) ↔
    Linked prev digest Sealed g xs ∧ Linked prev digest Sealed (tip digest g xs) ys := by
  induction xs generalizing g with
  | nil => exact ⟨fun h => ⟨trivial, h⟩, fun h => h.2⟩
  | cons e es ih =>
    rw [List.cons_append, Linked, Linked, ih, tip, and_assoc, and_assoc]

theorem linked_concat (xs : List β) (e : β) : Linked prev digest Sealed g (xs ++ [e]) ↔
    Linked prev digest Sealed g xs ∧ prev e = tip digest g xs ∧ Sealed e := by
  rw [linked_append, Linked, Linked, and_true]

namespace Linked

/-- A prefix of a chain is a chain. -/
theorem of_prefix {xs ys : List β} (h : Linked prev digest Sealed g ys) (hp : xs <+: ys) :
    Linked prev digest Sealed g xs := by
  obtain ⟨zs, rfl⟩ := hp
  exact ((linked_append xs zs).1 h).1

theorem isSealed {xs : List β} (h : Linked prev digest Sealed g xs) : ∀ e ∈ xs, Sealed e := by
  induction xs generalizing g with
  | nil => exact fun _ he => absurd he List.not_mem_nil
  | cons x xs ih => exact List.forall_mem_cons.2 ⟨h.2.1, ih h.2.2⟩

/-- Chains ending in the same digest agree item by item, from the last one
    backwards; and one does not run out before the other, as that would make
    the digest of an item the origin. -/
theorem forall₂_of_tip_eq {R : β → β → Prop} {xs ys : List β}
    (hx : Linked prev digest Sealed g xs) (hy : Linked prev digest Sealed g ys)
    (hxg : ∀ e ∈ xs, digest e ≠ g) (hyg : ∀ e ∈ ys, digest e ≠ g)
    (hR : ∀ a ∈ xs, ∀ b ∈ ys, digest a = digest b → R a b ∧ prev a = prev b)
    (htip : tip digest g xs = tip digest g ys) : List.Forall₂ R xs ys := by
  -- From the last item backwards: the tip is its digest, and its `prev` is the
  -- tip of the items before it.
  induction xs using List.reverseRecOn generalizing ys with
  | nil =>
    rcases List.eq_nil_or_concat' ys with rfl | ⟨ys, b, rfl⟩
    · exact .nil
    · rw [tip_concat] at htip
      exact absurd htip.symm (hyg b (by simp))
  | append_singleton xs a ih =>
    rcases List.eq_nil_or_concat' ys with rfl | ⟨ys, b, rfl⟩
    · rw [tip_concat] at htip
      exact absurd htip (hxg a (by simp))
    · rw [tip_concat, tip_concat] at htip
      obtain ⟨hab, hprev⟩ := hR a (by simp) b (by simp) htip
      obtain ⟨hx, hxa, _⟩ := (linked_concat xs a).1 hx
      obtain ⟨hy, hyb, _⟩ := (linked_concat ys b).1 hy
      have hxy : List.Forall₂ R xs ys := ih hx hy
        (fun e he => hxg e (List.mem_append_left _ he))
        (fun e he => hyg e (List.mem_append_left _ he))
        (fun a ha b hb => hR a (List.mem_append_left _ ha) b (List.mem_append_left _ hb))
        (hxa.symm.trans (hprev.trans hyb))
      exact List.rel_append hxy (.cons hab .nil)

/-- A chain does not repeat a digest: the two prefixes ending in it would have
    the same length. -/
theorem nodup_map_digest {xs : List β} (hx : Linked prev digest Sealed g xs)
    (hg : ∀ e ∈ xs, digest e ≠ g)
    (hprev : ∀ a ∈ xs, ∀ b ∈ xs, digest a = digest b → prev a = prev b) :
    (xs.map digest).Nodup := by
  induction xs using List.reverseRecOn with
  | nil => exact List.nodup_nil
  | append_singleton xs a ih =>
    have hxs : (xs.map digest).Nodup := ih ((linked_concat xs a).1 hx).1
      (fun e he => hg e (List.mem_append_left _ he))
      (fun a ha b hb => hprev a (List.mem_append_left _ ha) b (List.mem_append_left _ hb))
    rw [List.map_append, List.nodup_append]
    refine ⟨hxs, List.nodup_singleton _, ?_⟩
    rintro _ hd _ ha rfl
    obtain ⟨b, hb, hba⟩ := List.mem_map.1 hd
    rw [List.map_singleton, List.mem_singleton] at ha
    -- Up to an earlier item `b` with the digest of `a`, the chain is a chain with
    -- the tip of the whole one, so it would have to be as long.
    obtain ⟨ps, qs, rfl⟩ := List.append_of_mem hb
    have hp : (ps ++ [b]) <+: (ps ++ b :: qs ++ [a]) := ⟨qs ++ [a], by simp⟩
    have hlen : List.Forall₂ (fun _ _ => True) (ps ++ [b]) (ps ++ b :: qs ++ [a]) :=
      forall₂_of_tip_eq (hx.of_prefix hp) hx (fun e he => hg e (hp.subset he)) hg
        (fun a ha b hb h => ⟨trivial, hprev a (hp.subset ha) b hb h⟩)
        (by rw [tip_concat, tip_concat, hba, ha])
    have := hlen.length_eq
    simp at this

end Linked

end HashChain
