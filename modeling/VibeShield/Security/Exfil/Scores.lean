import Mathlib.Algebra.Order.BigOperators.Group.List
import Mathlib.Tactic.Linarith
import Mathlib.Tactic.NormNum
import Mathlib.Tactic.Ring
import VibeShield.Python.Json
import VibeShield.Security.Exfil.Model

/-!
# What the score consists of

In exact arithmetic the order of the checks does not matter: the score of a scan is the sum of
what the patterns found and the other checks add to it, cut off at one (`scan_eq`). None of them
takes anything away.
-/

namespace VibeShield.ExfiltrationDetector

open PyArith PyNum

variable (lib : ScanLib ℚ) (d : ExfiltrationDetector ℚ)

/-- What the patterns that are found add to the score. -/
def patternScore (patterns : List (Regex × String)) (score : String → ℚ) (output : String) : ℚ :=
  ((patterns.filter fun p => p.1.search lib.unicode output).map fun p => score p.2).sum

/-- What a check adds to the score. -/
def added (check : Tally ℚ → Tally ℚ) : ℚ := (check ([], 0)).2

/-- What signs of a structure add to the score. -/
def structureScore (output : String) : ℚ :=
  match checkStructuralAnomaly lib output with
  | .ok (some _) => 1 / 5
  | _ => 0

/-- What everything but the secrets and the context adds to the score. -/
def baseScore (output : String) (expectedSize : Option ℤ) : ℚ :=
  patternScore lib (piiPatterns lib.unicode) piiScore output +
    patternScore lib (covertPatterns lib.unicode) (fun _ => lit (1 / 4)) output +
    added (checkEntropy lib d (maxShannonEntropy lib d output.toList)) +
    added (checkExpectedSize lib expectedSize output) + added (checkMaxSize d output) +
    structureScore lib output

/-- What everything adds to the score. -/
def totalScore (output : String) (expectedSize : Option ℤ) (contextData : Option String) : ℚ :=
  patternScore lib secretPatterns secretScore output + baseScore lib d output expectedSize +
    added (checkContext lib contextData output)

/-! ## The checks add up -/

section Checks

variable (t : Tally ℚ) (output : String)

theorem snd_add (finding : String) (score : ℚ) : (t.add finding score).2 = t.2 + score := rfl

theorem patternScore_cons (p : Regex × String) (patterns : List (Regex × String))
    (score : String → ℚ) : patternScore lib (p :: patterns) score output =
      (if p.1.search lib.unicode output then score p.2 else 0) +
        patternScore lib patterns score output := by
  rw [patternScore, List.filter_cons]
  split
  · rw [List.map_cons, List.sum_cons, patternScore]
  · rw [zero_add, patternScore]

theorem patternScore_nonneg {patterns : List (Regex × String)} {score : String → ℚ}
    (h : ∀ desc, 0 ≤ score desc) : 0 ≤ patternScore lib patterns score output := by
  refine List.sum_nonneg fun x hx => ?_
  obtain ⟨p, _, rfl⟩ := List.mem_map.1 hx
  exact h p.2

theorem snd_findPatterns (patterns : List (Regex × String)) (tag : String) (score : String → ℚ) :
    (findPatterns lib patterns tag score output t).2 =
      t.2 + patternScore lib patterns score output := by
  induction patterns generalizing t with
  | nil => exact (add_zero t.2).symm
  | cons p patterns ih =>
    rw [patternScore_cons, ← add_assoc]
    refine (ih _).trans (congrArg (· + _) ?_)
    dsimp only
    split
    · rfl
    · exact (add_zero t.2).symm

theorem snd_checkEntropy (maxEntropy : ℚ) : (checkEntropy lib d maxEntropy t).2 =
    t.2 + added (checkEntropy lib d maxEntropy) := by
  rw [added, checkEntropy, checkEntropy]
  split
  · dsimp only
    split
    · change t.2 + 3 / 10 + 1 / 5 = t.2 + (0 + 3 / 10 + 1 / 5)
      ring
    · change t.2 + 3 / 10 = t.2 + (0 + 3 / 10)
      ring
  · exact (add_zero t.2).symm

theorem snd_checkExpectedSize (expectedSize : Option ℤ) :
    (checkExpectedSize lib expectedSize output t).2 =
      t.2 + added (checkExpectedSize lib expectedSize output) := by
  rw [added, checkExpectedSize, checkExpectedSize]
  dsimp only
  split
  · rw [snd_add, snd_add, zero_add]
  · exact (add_zero t.2).symm

theorem snd_checkMaxSize : (checkMaxSize d output t).2 = t.2 + added (checkMaxSize d output) := by
  rw [added, checkMaxSize, checkMaxSize]
  split
  · rw [snd_add, snd_add, zero_add]
  · exact (add_zero t.2).symm

theorem snd_checkContext (contextData : Option String) :
    (checkContext lib contextData output t).2 =
      t.2 + added (checkContext lib contextData output) := by
  rw [added, checkContext, checkContext]
  dsimp only
  split
  · split
    · rw [snd_add, snd_add, zero_add]
    · exact (add_zero t.2).symm
  · exact (add_zero t.2).symm

/-- In exact arithmetic, no power is out of range. -/
theorem exists_checkStructuralAnomaly_eq_ok (text : String) :
    ∃ anomaly, checkStructuralAnomaly lib text = .ok anomaly := by
  have hlines : ∃ anomaly, uniformLines lib text = .ok anomaly := by
    rw [uniformLines]
    dsimp only
    split
    · exact ⟨none, rfl⟩
    · have hpow (avg : ℚ) (lengths : List ℕ) :
          (lengths.mapM fun l : ℕ => PyArith.pow (sub (lit l) avg) 2) =
            (.ok (lengths.map fun l : ℕ => ((l : ℚ) - avg) ^ 2) : Except PyErr (List ℚ)) :=
        List.mapM_pure
      rw [hpow]
      exact ⟨_, rfl⟩
  obtain ⟨_ | anomaly, heq⟩ := hlines <;> rw [checkStructuralAnomaly, heq]
  · exact ⟨_, rfl⟩
  · exact ⟨_, rfl⟩

/-! ## Nothing is taken away -/

theorem piiScore_nonneg (desc : String) : (0 : ℚ) ≤ piiScore desc := by
  rw [piiScore]
  split <;> norm_num

theorem secretScore_pos (desc : String) : (0 : ℚ) < secretScore desc := by
  rw [secretScore]
  split
  · norm_num
  · split <;> norm_num

theorem added_checkEntropy_nonneg (maxEntropy : ℚ) : 0 ≤ added (checkEntropy lib d maxEntropy) := by
  rw [added, checkEntropy]
  split
  · dsimp only
    split
    · change (0 : ℚ) ≤ 0 + 3 / 10 + 1 / 5
      norm_num
    · change (0 : ℚ) ≤ 0 + 3 / 10
      norm_num
  · exact le_refl _

theorem added_checkExpectedSize_nonneg (expectedSize : Option ℤ) :
    0 ≤ added (checkExpectedSize lib expectedSize output) := by
  rw [added, checkExpectedSize]
  dsimp only
  split
  · rw [snd_add, zero_add, pyMin_eq_min]
    have hexpected : (0 : ℚ) ≤ (max (expectedSize.getD 0) 1 : ℤ) :=
      Int.cast_nonneg (zero_le_one.trans (le_max_right _ _))
    have hratio : (0 : ℚ) ≤ output.length / (max (expectedSize.getD 0) 1 : ℤ) :=
      div_nonneg (Nat.cast_nonneg _) hexpected
    refine le_min ?_ (by norm_num)
    exact mul_nonneg (by norm_num) (div_nonneg hratio (by norm_num))
  · exact le_refl _

theorem added_checkMaxSize_nonneg : 0 ≤ added (checkMaxSize d output) := by
  rw [added, checkMaxSize]
  split
  · change (0 : ℚ) ≤ 0 + 3 / 10
    norm_num
  · exact le_refl _

theorem added_checkContext_nonneg (contextData : Option String) :
    0 ≤ added (checkContext lib contextData output) := by
  rw [added, checkContext]
  dsimp only
  split
  · split
    · next hpos =>
      rw [snd_add, zero_add, pyMin_eq_min]
      refine le_min (mul_nonneg (div_nonneg ?_ (by norm_num)) (by norm_num)) (by norm_num)
      exact (of_decide_eq_true hpos).le
    · exact le_refl _
  · exact le_refl _

theorem structureScore_nonneg : 0 ≤ structureScore lib output := by
  rw [structureScore]
  split <;> norm_num

theorem baseScore_nonneg (expectedSize : Option ℤ) :
    0 ≤ baseScore lib d output expectedSize := by
  have hpii : 0 ≤ patternScore lib (piiPatterns lib.unicode) piiScore output :=
    patternScore_nonneg lib output piiScore_nonneg
  have hcovert : 0 ≤ patternScore lib (covertPatterns lib.unicode) (fun _ => lit (1 / 4)) output :=
    patternScore_nonneg lib output fun _ => by norm_num
  have hentropy := added_checkEntropy_nonneg lib d (maxShannonEntropy lib d output.toList)
  have hsize := added_checkExpectedSize_nonneg lib output expectedSize
  have hmax := added_checkMaxSize_nonneg d output
  have hstructure := structureScore_nonneg lib output
  rw [baseScore]
  linarith

end Checks

/-- The score of a scan is what everything adds to it, cut off at one, and the risk goes by
    it. -/
theorem scan_eq {output : String} (houtput : output ≠ "") (expectedSize : Option ℤ)
    (contextData : Option String) : ∃ r, scan lib d output expectedSize contextData = .ok r ∧
      r.risk = scoreToRisk (min (totalScore lib d output expectedSize contextData) 1) ∧
      r.score = round (min (totalScore lib d output expectedSize contextData) 1) 3 := by
  obtain ⟨anomaly, hanomaly⟩ := exists_checkStructuralAnomaly_eq_ok lib output
  rw [scan, if_neg houtput]
  dsimp only
  rw [hanomaly]
  refine ⟨_, rfl, ?_⟩
  dsimp only
  rw [pyMin_eq_min]
  refine (fun hscore => ⟨congrArg (fun x => scoreToRisk (min x 1)) hscore,
    congrArg (fun x => round (min x 1) 3) hscore⟩) ?_
  rw [totalScore, baseScore, structureScore, hanomaly]
  cases anomaly <;>
    simp only [snd_add, snd_checkContext, snd_checkMaxSize, snd_checkExpectedSize,
      snd_checkEntropy, snd_findPatterns, lit_rat] <;>
    ring

theorem scoreToRisk_eq_critical_iff (score : ℚ) :
    scoreToRisk score = .critical ↔ 7 / 10 ≤ score := by
  rw [scoreToRisk]
  by_cases h : 7 / 10 ≤ score
  · exact iff_of_true (if_pos (decide_eq_true h)) h
  · refine iff_of_false ?_ h
    rw [if_neg (by simpa [PyArith.le, PyArith.lit] using h)]
    split
    · rintro ⟨⟩
    split
    · rintro ⟨⟩
    split <;> rintro ⟨⟩

/-- A library for plain texts. -/
def Sample.plainLib : ScanLib ℚ where
  py := .plain [] ""
  unicode := ⟨Char.isDigit, Char.isAlphanum⟩
  float := ⟨id, fun _ _ => "", fun _ => "", fun _ => "", .fin⟩
  setOrder := id

end VibeShield.ExfiltrationDetector
