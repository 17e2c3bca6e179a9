import Mathlib.Data.List.Infix
import Mathlib.Order.Bounds.Lattice
import VibeShield.Python.Json
import VibeShield.Security.Exfil.Model

/-!
# The entropy of an output

The detector takes the greatest entropy of the windows of a text. They are its contiguous segments
of the length of the window, if it is that long; a shorter text has no window, and its entropy
counts as none (`maxShannonEntropy_covers_iff`). What the entropy of a segment is does not matter,
so it is a parameter here (`maxEntropyOf`).

`Sample` is a text of two characters, which has an entropy of one bit.
-/

namespace VibeShield

variable {F : Type*} [PyNum F]

open PyArith

namespace ExfiltrationDetector

/-- The greatest entropy in a window, for any entropy of a segment. -/
def maxEntropyOf (entropy : List Char → F) (window : ℕ) (text : List Char) : F :=
  (List.range (text.length + 1 - window)).foldl (fun maxEnt i =>
    pyMax maxEnt (entropy ((text.drop i).take window))) (lit 0)

theorem maxShannonEntropy_eq (lib : ScanLib F) (d : ExfiltrationDetector F) (text : List Char) :
    maxShannonEntropy lib d text = maxEntropyOf (shannonEntropy lib) d.entropyWindowSize text :=
  rfl

/-- The contiguous segments of a text that are as long as the window, or as the text if it is
    shorter. -/
def segments (window : ℕ) (text : List Char) : Set (List Char) :=
  {s | s <:+: text ∧ s.length = min window text.length}

/-- In a text that is long enough, they are the windows. -/
theorem segments_eq_image {window : ℕ} {text : List Char} (h : window ≤ text.length) :
    segments window text = (fun i => (text.drop i).take window) ''
      {i | i ∈ List.range (text.length + 1 - window)} := by
  ext s
  rw [segments, min_eq_left h]
  constructor
  · rintro ⟨⟨before, after, rfl⟩, hlen⟩
    rw [List.length_append, List.length_append, hlen] at h
    refine ⟨before.length, List.mem_range.2 ?_, ?_⟩
    · rw [List.length_append, List.length_append, hlen]
      omega
    · dsimp only
      rw [List.append_assoc, List.drop_left, ← hlen, List.take_left]
  · rintro ⟨i, hi, rfl⟩
    have hi := List.mem_range.1 hi
    refine ⟨( List.take_prefix window (text.drop i)).isInfix.trans (text.drop_suffix i).isInfix, ?_⟩
    rw [List.length_take, List.length_drop, min_eq_left (by omega)]

/-- The only segment of a shorter text is the text. -/
theorem segments_of_lt {window : ℕ} {text : List Char} (h : text.length < window) :
    segments window text = {text} := by
  ext s
  rw [segments, min_eq_right h.le, Set.mem_singleton_iff]
  constructor
  · rintro ⟨hwindow, hlen⟩
    exact hwindow.eq_of_length hlen
  · rintro rfl
    exact ⟨List.infix_rfl, rfl⟩

/-- If nothing is less than what a maximum starts from, this does not matter. -/
theorem isGreatest_of_insert {α : Type*} [PartialOrder α] {s : Set α} {a m : α}
    (h : IsGreatest (insert a s) m) (hs : s.Nonempty) (ha : ∀ x ∈ s, a ≤ x) :
    IsGreatest s m := by
  refine ⟨?_, fun x hx => h.2 (Set.mem_insert_of_mem a hx)⟩
  rcases h.1 with rfl | hm
  · obtain ⟨x, hx⟩ := hs
    exact (ha x hx).antisymm (h.2 (Set.mem_insert_of_mem m hx)) ▸ hx
  · exact hm

variable [LinearOrder F] [PyArith.Ordered F]

/-- What a loop ends with that takes the maximum, and starts from `a`. -/
theorem isGreatest_foldl_pyMax {α : Type*} (f : α → F) (a : F) (l : List α) :
    IsGreatest (insert a (f '' {x | x ∈ l})) (l.foldl (fun m x => pyMax m (f x)) a) := by
  induction l using List.reverseRecOn with
  | nil => simp
  | append_singleton l x ih =>
    have himage : insert a (f '' {y | y ∈ l ++ [x]}) =
        insert (f x) (insert a (f '' {y | y ∈ l})) := by
      rw [Set.insert_comm, ← Set.image_insert_eq]
      congr 2
      ext y
      simp [or_comm]
    rw [List.foldl_append, List.foldl_cons, List.foldl_nil, pyMax_eq_max, himage, max_comm]
    exact ih.insert (f x)

/-- The greatest entropy of a segment is found exactly if there is a window, or no entropy in the
    text. -/
theorem maxShannonEntropy_covers_iff {entropy : List Char → F} (hentropy : ∀ s, lit 0 ≤ entropy s)
    (window : ℕ) (text : List Char) :
    (IsGreatest (entropy '' segments window text) (maxEntropyOf entropy window text) ↔
      window ≤ text.length ∨ entropy text = lit 0) ∧
    ∀ (lib : ScanLib F) (d : ExfiltrationDetector F), maxShannonEntropy lib d text =
      maxEntropyOf (shannonEntropy lib) d.entropyWindowSize text := by
  refine ⟨?_, fun lib d => maxShannonEntropy_eq lib d text⟩
  rcases le_or_gt window text.length with hlong | hshort
  · refine iff_of_true ?_ (.inl hlong)
    have hgreatest := isGreatest_foldl_pyMax (fun i => entropy ((text.drop i).take window)) (lit 0)
      (List.range (text.length + 1 - window))
    rw [segments_eq_image hlong, Set.image_image]
    refine isGreatest_of_insert hgreatest ⟨_, 0, ?_, rfl⟩ ?_
    · exact List.mem_range.2 (by omega)
    · rintro _ ⟨i, _, rfl⟩
      exact hentropy _
  · have hnone : text.length + 1 - window = 0 := by omega
    have hzero : maxEntropyOf entropy window text = lit 0 := by
      rw [maxEntropyOf, hnone]
      rfl
    rw [segments_of_lt hshort, Set.image_singleton, hzero, or_iff_right (not_le.2 hshort)]
    refine ⟨fun h => h.1.symm, fun h => ?_⟩
    rw [h]
    exact isGreatest_singleton

namespace Sample

/-- A library with the logarithm of a half. -/
def halfLib : ScanLib ℚ where
  py := .plain [] ""
  unicode := ⟨Char.isDigit, Char.isAlphanum⟩
  float := ⟨fun p => if p = 1 / 2 then -1 else 0, fun _ _ => "", fun _ => "", fun _ => "", .fin⟩
  setOrder := id

/-- The text has one bit of entropy, and counts as having none. -/
theorem short_text_unexamined :
    shannonEntropy halfLib ['a', 'b'] = 1 ∧
    maxShannonEntropy halfLib .default ['a', 'b'] = 0 ∧
    ¬IsGreatest (shannonEntropy halfLib '' segments 200 ['a', 'b'])
      (maxShannonEntropy halfLib .default ['a', 'b']) := by
  have hentropy : shannonEntropy halfLib ['a', 'b'] = 1 := by decide +kernel
  have hmax : maxShannonEntropy halfLib .default ['a', 'b'] = 0 := by decide +kernel
  refine ⟨hentropy, hmax, fun h => ?_⟩
  rw [segments_of_lt (by decide), Set.image_singleton, hentropy, hmax] at h
  exact absurd (Set.mem_singleton_iff.1 h.1) (by decide)

/-- In a window of one character, the entropy is found. -/
theorem character_examined : IsGreatest ((fun s : List Char => (s.count 'b' : ℚ)) ''
      segments 1 ['a', 'b']) (maxEntropyOf (fun s => (s.count 'b' : ℚ)) 1 ['a', 'b']) :=
  (maxShannonEntropy_covers_iff (fun s => Nat.cast_nonneg _) 1 ['a', 'b']).1.2 (.inl (by decide))

end Sample

end ExfiltrationDetector

end VibeShield
