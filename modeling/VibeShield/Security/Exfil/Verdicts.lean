import VibeShield.Security.Exfil.Scores

/-!
# What a verdict tells

In exact arithmetic, every finding of a scan but one adds at least a fifth to the score
(`Evidence`), so the risk goes by the number of findings. The exception is what the output contains
of the context, which counts for little if it is little: an output that is rated as no risk has no
other findings, and less than a quarter of the context is found in it (`scan_verdict`).
-/

namespace VibeShield.ExfiltrationDetector

open PyArith PyNum

/-! ## Evidence -/

/-- Findings and what they add to the score: a fifth each, or more. -/
structure Evidence where
  findings : List String
  score : ℚ
  weight : (findings.length : ℚ) / 5 ≤ score
  none : findings = [] → score = 0

namespace Evidence

/-- No findings. -/
def nil : Evidence := ⟨[], 0, by norm_num, fun _ => rfl⟩

/-- A finding. -/
def single (finding : String) (score : ℚ) (h : 1 / 5 ≤ score) : Evidence where
  findings := [finding]
  score := score
  weight := by simpa using h
  none h := absurd h (List.cons_ne_nil _ _)

/-- What two checks have found. -/
def append (e f : Evidence) : Evidence where
  findings := e.findings ++ f.findings
  score := e.score + f.score
  weight := by
    rw [List.length_append, Nat.cast_add, add_div]
    exact add_le_add e.weight f.weight
  none h := by
    obtain ⟨he, hf⟩ := List.append_eq_nil_iff.1 h
    rw [e.none he, f.none hf, add_zero]

theorem score_nonneg (e : Evidence) : 0 ≤ e.score :=
  (div_nonneg (Nat.cast_nonneg _) (by norm_num)).trans e.weight

end Evidence

/-- Whatever has been found so far, the check adds the evidence. -/
def Contributes (check : Tally ℚ → Tally ℚ) (e : Evidence) : Prop :=
  ∀ t, check t = (t.1 ++ e.findings, t.2 + e.score)

theorem contributes_nil : Contributes id .nil :=
  fun _ => Prod.ext (List.append_nil _).symm (add_zero _).symm

theorem contributes_add (finding : String) {score : ℚ} (h : 1 / 5 ≤ score) :
    Contributes (fun t => t.add finding score) (.single finding score h) := fun _ => rfl

theorem Contributes.comp {check check' : Tally ℚ → Tally ℚ} {e e' : Evidence}
    (h : Contributes check e) (h' : Contributes check' e') :
    Contributes (fun t => check' (check t)) (e.append e') := by
  intro t
  refine (congrArg check' (h t)).trans ((h' _).trans ?_)
  exact Prod.ext (List.append_assoc ..) (add_assoc ..)

/-- A check that is made in some cases. -/
theorem exists_contributes_ite {c : Prop} [Decidable c] {check : Tally ℚ → Tally ℚ}
    (h : c → ∃ e, Contributes check e) :
    ∃ e, Contributes (fun t => if c then check t else t) e := by
  by_cases hc : c
  · obtain ⟨e, he⟩ := h hc
    exact ⟨e, fun t => (if_pos hc).trans (he t)⟩
  · exact ⟨.nil, fun t => (if_neg hc).trans (contributes_nil t)⟩

/-- A finding with a score that may be raised. -/
theorem exists_contributes_raise {c : Prop} [Decidable c] (finding : String) :
    ∃ e, Contributes (fun t =>
      let t := t.add finding (lit (3 / 10))
      if c then (t.1, PyNum.add t.2 (lit (1 / 5))) else t) e := by
  have hbase : (1 : ℚ) / 5 ≤ 3 / 10 := by norm_num
  have hraised : (1 : ℚ) / 5 ≤ 3 / 10 + 1 / 5 := by norm_num
  by_cases hc : c
  · refine ⟨.single finding _ hraised, fun t => (if_pos hc).trans ?_⟩
    exact Prod.ext rfl (add_assoc t.2 (3 / 10) (1 / 5))
  · exact ⟨.single finding _ hbase, fun t => if_neg hc⟩

section Checks

variable (lib : ScanLib ℚ) (d : ExfiltrationDetector ℚ) (output : String)

theorem exists_contributes_findPatterns (patterns : List (Regex × String)) (tag : String)
    {score : String → ℚ} (hscore : ∀ desc, 1 / 5 ≤ score desc) :
    ∃ e, Contributes (findPatterns lib patterns tag score output) e := by
  induction patterns with
  | nil => exact ⟨.nil, contributes_nil⟩
  | cons p patterns ih =>
    obtain ⟨e, he⟩ := ih
    by_cases hfound : p.1.search lib.unicode output = true
    · refine ⟨_, fun t => (?_ : _ = _).trans
        (((contributes_add s!"[{tag}] {p.2}" (hscore p.2)).comp he) t)⟩
      rw [findPatterns, List.foldl_cons, if_pos hfound]
      rfl
    · refine ⟨e, fun t => (?_ : _ = _).trans (he t)⟩
      rw [findPatterns, List.foldl_cons, if_neg hfound]
      rfl

theorem exists_contributes_checkEntropy (maxEntropy : ℚ) :
    ∃ e, Contributes (checkEntropy lib d maxEntropy) e :=
  exists_contributes_ite fun _ => exists_contributes_raise _

/-- An unexpected size counts for a fifth at least, as it is more than three times the expected
    one. -/
theorem exists_contributes_checkExpectedSize {expectedSize : Option ℤ}
    (hexpected : ∀ n, expectedSize = some n → 0 ≤ n) :
    ∃ e, Contributes (checkExpectedSize lib expectedSize output) e := by
  have hnonneg : 0 ≤ expectedSize.getD 0 := by
    cases expectedSize with
    | none => exact le_refl 0
    | some n => exact hexpected n rfl
  refine exists_contributes_ite fun h => ⟨_, contributes_add _ ?_⟩
  generalize expectedSize.getD 0 = expected at hnonneg h
  have hpos : 0 < expected := lt_of_le_of_ne hnonneg h.1.symm
  have hratio : (3 : ℚ) ≤ (output.length : ℚ) / (expected : ℚ) := by
    have hsize : ((expected * 3 : ℤ) : ℚ) ≤ ((output.length : ℤ) : ℚ) := Int.cast_le.2 h.2.le
    push_cast at hsize
    rw [le_div_iff₀ (Int.cast_pos.2 hpos)]
    linarith
  rw [pyMin_eq_min, max_eq_left (show (1 : ℤ) ≤ expected from hpos)]
  refine le_min ?_ (by norm_num)
  change (1 : ℚ) / 5 ≤ 1 / 5 * ((output.length : ℚ) / (expected : ℚ) / 3)
  linarith

theorem exists_contributes_checkMaxSize : ∃ e, Contributes (checkMaxSize d output) e :=
  exists_contributes_ite fun _ => ⟨_, contributes_add _ (by norm_num)⟩

/-- Adding a sign of a structure. -/
def addAnomaly (anomaly : Option String) (t : Tally ℚ) : Tally ℚ :=
  match anomaly with
  | some anomaly => t.add s!"[STRUCTURE] {anomaly}" (lit (1 / 5))
  | none => t

theorem exists_contributes_addAnomaly (anomaly : Option String) :
    ∃ e, Contributes (addAnomaly anomaly) e := by
  cases anomaly with
  | some anomaly => exact ⟨_, contributes_add _ (le_refl _)⟩
  | none => exact ⟨.nil, contributes_nil⟩

/-! ## The context -/

/-- How much of the context the output is found to contain, in percent. -/
def leaked (contextData : Option String) : ℚ :=
  if 50 < (contextData.getD "").length then checkDataFingerprint lib output (contextData.getD "")
  else 0

/-- The finding for it, if there is one, and its score. -/
def leak (contextData : Option String) : Tally ℚ := checkContext lib contextData output ([], 0)

theorem checkContext_eq (contextData : Option String) (t : Tally ℚ) :
    checkContext lib contextData output t =
      (t.1 ++ (leak lib output contextData).1, t.2 + (leak lib output contextData).2) := by
  refine Prod.ext ?_ (snd_checkContext lib t output contextData)
  rw [leak, checkContext, checkContext]
  dsimp only
  split
  · split
    · rfl
    · exact (List.append_nil _).symm
  · exact (List.append_nil _).symm

/-- What is found of the context counts according to how much it is. -/
theorem leak_cases (contextData : Option String) :
    (leaked lib output contextData ≤ 0 ∧ leak lib output contextData = ([], 0)) ∨
    0 < leaked lib output contextData ∧ (leak lib output contextData).1.length = 1 ∧
      (leak lib output contextData).2 =
        min (leaked lib output contextData / 100 * (2 / 5)) (2 / 5) := by
  rw [leak, leaked, checkContext]
  dsimp only
  by_cases hlong : 50 < (contextData.getD "").length
  · rw [if_pos hlong, if_pos hlong]
    cases hlt : lt (lit 0) (checkDataFingerprint lib output (contextData.getD "") : ℚ) with
    | true =>
      rw [if_pos rfl]
      refine .inr ⟨of_decide_eq_true hlt, rfl, ?_⟩
      rw [snd_add, zero_add, pyMin_eq_min]
      rfl
    | false =>
      rw [if_neg Bool.false_ne_true]
      exact .inl ⟨not_lt.1 (of_decide_eq_false hlt), rfl⟩
  · rw [if_neg hlong, if_neg hlong]
    exact .inl ⟨le_refl 0, rfl⟩

/-- Nothing is found in an empty output. -/
theorem leak_empty (contextData : Option String) : leak lib "" contextData = ([], 0) := by
  have hfingerprint (context : String) : (checkDataFingerprint lib "" context : ℚ) = 0 :=
    if_pos (.inr (.inl rfl))
  have hleaked : leaked lib "" contextData = 0 := by
    rw [leaked, hfingerprint, ite_self]
  obtain ⟨_, h⟩ | ⟨hpos, _⟩ := leak_cases lib "" contextData
  · exact h
  · exact absurd hpos (by rw [hleaked]; exact lt_irrefl 0)

end Checks

/-! ## The verdict -/

theorem scoreToRisk_eq_none_iff (score : ℚ) : scoreToRisk score = .none ↔ score < 1 / 10 := by
  rw [scoreToRisk]
  simp only [PyArith.le, lit_rat, decide_eq_true_eq]
  split_ifs with h₁ h₂ h₃ h₄
  · exact iff_of_false (by rintro ⟨⟩) (by linarith)
  · exact iff_of_false (by rintro ⟨⟩) (by linarith)
  · exact iff_of_false (by rintro ⟨⟩) (by linarith)
  · exact iff_of_false (by rintro ⟨⟩) (by linarith)
  · exact iff_of_true rfl (not_le.1 h₄)

/-- The score from which on a risk is not low. -/
theorem scoreToRisk_matters_iff (score : ℚ) :
    scoreToRisk score ≠ .none ∧ scoreToRisk score ≠ .low ↔ 3 / 10 ≤ score := by
  rw [scoreToRisk]
  simp only [PyArith.le, lit_rat, decide_eq_true_eq]
  split_ifs with h₁ h₂ h₃ h₄
  · exact iff_of_true (by simp) (by linarith)
  · exact iff_of_true (by simp) (by linarith)
  · exact iff_of_true (by simp) h₃
  · exact iff_of_false (by simp) h₃
  · exact iff_of_false (by simp) h₃

theorem scoreToRisk_blocks_iff (score : ℚ) :
    scoreToRisk score = .high ∨ scoreToRisk score = .critical ↔ 1 / 2 ≤ score := by
  rw [scoreToRisk]
  simp only [PyArith.le, lit_rat, decide_eq_true_eq]
  split_ifs with h₁ h₂ h₃ h₄
  · exact iff_of_true (.inr rfl) (by linarith)
  · exact iff_of_true (.inl rfl) h₂
  · exact iff_of_false (by simp) h₂
  · exact iff_of_false (by simp) h₂
  · exact iff_of_false (by simp) h₂

/-- The checks before the context is looked at. -/
def before (lib : ScanLib ℚ) (d : ExfiltrationDetector ℚ) (output : String)
    (expectedSize : Option ℤ) (t : Tally ℚ) : Tally ℚ :=
  checkMaxSize d output <| checkExpectedSize lib expectedSize output <|
    checkEntropy lib d (maxShannonEntropy lib d output.toList) <|
    findPatterns lib (covertPatterns lib.unicode) "COVERT" (fun _ => lit (1 / 4)) output <|
    findPatterns lib (piiPatterns lib.unicode) "PII" piiScore output <|
    findPatterns lib secretPatterns "SECRET" secretScore output t

theorem exists_contributes_before (lib : ScanLib ℚ) (d : ExfiltrationDetector ℚ) (output : String)
    {expectedSize : Option ℤ} (hexpected : ∀ n, expectedSize = some n → 0 ≤ n) :
    ∃ e, Contributes (before lib d output expectedSize) e := by
  have hsecret (desc : String) : (1 : ℚ) / 5 ≤ secretScore desc := by
    rw [secretScore]
    split
    · norm_num
    · split <;> norm_num
  have hpii (desc : String) : (1 : ℚ) / 5 ≤ piiScore desc := by
    rw [piiScore]
    split <;> norm_num
  have hcovert (_ : String) : (1 : ℚ) / 5 ≤ lit (1 / 4) := by norm_num
  obtain ⟨_, h₁⟩ := exists_contributes_findPatterns lib output secretPatterns "SECRET" hsecret
  obtain ⟨_, h₂⟩ := exists_contributes_findPatterns lib output (piiPatterns lib.unicode) "PII" hpii
  obtain ⟨_, h₃⟩ :=
    exists_contributes_findPatterns lib output (covertPatterns lib.unicode) "COVERT" hcovert
  obtain ⟨_, h₄⟩ := exists_contributes_checkEntropy lib d (maxShannonEntropy lib d output.toList)
  obtain ⟨_, h₅⟩ := exists_contributes_checkExpectedSize lib output hexpected
  obtain ⟨_, h₆⟩ := exists_contributes_checkMaxSize d output
  exact ⟨_, ((((h₁.comp h₂).comp h₃).comp h₄).comp h₅).comp h₆⟩

/-- A scan finds evidence before and after it looks at the context. -/
theorem exists_evidence (lib : ScanLib ℚ) (d : ExfiltrationDetector ℚ) (output : String)
    {expectedSize : Option ℤ} (hexpected : ∀ n, expectedSize = some n → 0 ≤ n)
    (contextData : Option String) :
    ∃ (e e' : Evidence) (r : ExfilResult ℚ),
      scan lib d output expectedSize contextData = .ok r ∧
      r.findings = e.findings ++ (leak lib output contextData).1 ++ e'.findings ∧
      r.risk = scoreToRisk (min (e.score + (leak lib output contextData).2 + e'.score) 1) ∧
      r.score = round (min (e.score + (leak lib output contextData).2 + e'.score) 1) 3 := by
  by_cases houtput : output = ""
  · subst houtput
    refine ⟨.nil, .nil, _, if_pos rfl, ?_⟩
    rw [leak_empty]
    exact ⟨rfl, by decide +kernel, by decide +kernel⟩
  obtain ⟨e, he⟩ := exists_contributes_before lib d output hexpected
  obtain ⟨anomaly, hanomaly⟩ := exists_checkStructuralAnomaly_eq_ok lib output
  obtain ⟨e', he'⟩ := exists_contributes_addAnomaly anomaly
  have htally : addAnomaly anomaly (checkContext lib contextData output
      (before lib d output expectedSize ([], lit 0))) =
      (e.findings ++ (leak lib output contextData).1 ++ e'.findings,
        e.score + (leak lib output contextData).2 + e'.score) := by
    rw [he, checkContext_eq, he', List.nil_append, lit_rat, zero_add]
  refine ⟨e, e', ?_⟩
  rw [scan, if_neg houtput]
  dsimp only
  rw [hanomaly]
  refine ⟨_, rfl, ?_⟩
  rw [pyMin_eq_min]
  rw [before] at htally
  obtain _ | anomaly := anomaly
  · rw [addAnomaly] at htally
    dsimp only
    rw [htally]
    exact ⟨rfl, rfl, rfl⟩
  · rw [addAnomaly] at htally
    dsimp only
    rw [htally]
    exact ⟨rfl, rfl, rfl⟩

theorem round_mem_Icc {q : ℚ} (h : q ∈ Set.Icc 0 1) : (round q 3 : ℚ) ∈ Set.Icc 0 1 := by
  obtain ⟨hnonneg, hle⟩ := h
  have hlower : 0 ≤ roundHalfEven (q * 10 ^ 3) := le_roundHalfEven (by push_cast; positivity)
  have hupper : roundHalfEven (q * 10 ^ 3) ≤ 1000 := roundHalfEven_le (by push_cast; linarith)
  have hlower' : (0 : ℚ) ≤ roundHalfEven (q * 10 ^ 3) := Int.cast_nonneg hlower
  have hupper' : (roundHalfEven (q * 10 ^ 3) : ℚ) ≤ 1000 := by exact_mod_cast hupper
  change (roundHalfEven (q * 10 ^ 3) : ℚ) / 10 ^ 3 ∈ Set.Icc 0 1
  rw [Set.mem_Icc, le_div_iff₀ (by norm_num), div_le_iff₀ (by norm_num)]
  constructor <;> linarith

section Verdict

variable (lib : ScanLib ℚ) (output : String) (contextData : Option String)

theorem leak_nonneg : 0 ≤ (leak lib output contextData).2 := by
  obtain ⟨_, h⟩ | ⟨hpos, _, h⟩ := leak_cases lib output contextData
  · rw [h]
  · rw [h]
    exact le_min (by positivity) (by norm_num)

theorem length_leak_le : (leak lib output contextData).1.length ≤ 1 := by
  obtain ⟨_, h⟩ | ⟨_, h, _⟩ := leak_cases lib output contextData
  · rw [h]
    exact Nat.zero_le 1
  · exact h.le

/-- What is found of the context is not enough for a risk if it is less than a quarter. -/
theorem leak_lt_iff :
    (leak lib output contextData).2 < 1 / 10 ↔ leaked lib output contextData < 25 := by
  obtain ⟨hle, h⟩ | ⟨hpos, _, h⟩ := leak_cases lib output contextData
  · rw [h]
    exact iff_of_true (by norm_num) (by linarith)
  · rw [h, min_lt_iff, or_iff_left (by norm_num)]
    constructor <;> intro hlt <;> linarith

/-- The evidence is not enough for a risk exactly if there is none, and little of the context. -/
theorem total_lt_iff (e e' : Evidence) :
    e.score + (leak lib output contextData).2 + e'.score < 1 / 10 ↔
      e.findings ++ (leak lib output contextData).1 ++ e'.findings =
        (leak lib output contextData).1 ∧ leaked lib output contextData < 25 := by
  have hleak := leak_nonneg lib output contextData
  rw [← leak_lt_iff]
  constructor
  · intro hlt
    have hscore := e.score_nonneg
    have hscore' := e'.score_nonneg
    have hlength : e.findings.length = 0 := by
      have hweight := e.weight
      have hlt' : (e.findings.length : ℚ) < 1 := by linarith
      exact Nat.lt_one_iff.1 (by exact_mod_cast hlt')
    have hlength' : e'.findings.length = 0 := by
      have hweight := e'.weight
      have hlt' : (e'.findings.length : ℚ) < 1 := by linarith
      exact Nat.lt_one_iff.1 (by exact_mod_cast hlt')
    rw [List.length_eq_zero_iff.1 hlength, List.length_eq_zero_iff.1 hlength', List.nil_append,
      List.append_nil]
    exact ⟨rfl, by linarith⟩
  · rintro ⟨heq, hlt⟩
    have hlength := congrArg List.length heq
    rw [List.length_append, List.length_append] at hlength
    rw [e.none (List.length_eq_zero_iff.1 (by omega)),
      e'.none (List.length_eq_zero_iff.1 (by omega))]
    linarith

/-- All findings but one add a fifth. -/
theorem le_total (e e' : Evidence) {n : ℕ} (h : n + 1 ≤
    (e.findings ++ (leak lib output contextData).1 ++ e'.findings).length) :
    (n : ℚ) / 5 ≤ e.score + (leak lib output contextData).2 + e'.score := by
  have hleak := leak_nonneg lib output contextData
  have hlength := length_leak_le lib output contextData
  rw [List.length_append, List.length_append] at h
  have hcount : n ≤ e.findings.length + e'.findings.length := by omega
  have hcount' : (n : ℚ) ≤ e.findings.length + e'.findings.length := by exact_mod_cast hcount
  have hweight := e.weight
  have hweight' := e'.weight
  linarith

end Verdict

/-- The score is between zero and one. An output is rated as no risk exactly if nothing is found
    but less than a quarter of the context; with three findings the risk is not low, with four the
    output is blocked, and with five the risk is critical. -/
theorem scan_verdict (lib : ScanLib ℚ) (d : ExfiltrationDetector ℚ) (output : String)
    {expectedSize : Option ℤ} (hexpected : ∀ n, expectedSize = some n → 0 ≤ n)
    (contextData : Option String) :
    ∃ r, scan lib d output expectedSize contextData = .ok r ∧ r.score ∈ Set.Icc 0 1 ∧
      (r.risk = .none ↔ r.findings = (leak lib output contextData).1 ∧
        leaked lib output contextData < 25) ∧
      (3 ≤ r.findings.length → r.risk ≠ .none ∧ r.risk ≠ .low) ∧
      (4 ≤ r.findings.length → r.risk = .high ∨ r.risk = .critical) ∧
      (5 ≤ r.findings.length → r.risk = .critical) := by
  obtain ⟨e, e', r, hscan, hfindings, hrisk, hscore⟩ :=
    exists_evidence lib d output hexpected contextData
  have hleak := leak_nonneg lib output contextData
  have hnonneg : 0 ≤ e.score + (leak lib output contextData).2 + e'.score :=
    add_nonneg (add_nonneg e.score_nonneg hleak) e'.score_nonneg
  have htotal {n : ℕ} (h : n + 1 ≤ r.findings.length) :
      (n : ℚ) / 5 ≤ e.score + (leak lib output contextData).2 + e'.score :=
    le_total lib output contextData e e' (hfindings ▸ h)
  refine ⟨r, hscan, ?_, ?_, ?_, ?_, ?_⟩
  · rw [hscore]
    exact round_mem_Icc ⟨le_min hnonneg zero_le_one, min_le_right _ _⟩
  · rw [hrisk, scoreToRisk_eq_none_iff, min_lt_iff, or_iff_left (by norm_num), total_lt_iff,
      hfindings]
  · intro h
    rw [hrisk, scoreToRisk_matters_iff, le_min_iff]
    have hle := htotal h
    push_cast at hle
    exact ⟨by linarith, by norm_num⟩
  · intro h
    rw [hrisk, scoreToRisk_blocks_iff, le_min_iff]
    have hle := htotal h
    push_cast at hle
    exact ⟨by linarith, by norm_num⟩
  · intro h
    rw [hrisk, scoreToRisk_eq_critical_iff, le_min_iff]
    have hle := htotal h
    push_cast at hle
    exact ⟨by linarith, by norm_num⟩

theorem Sample.greeting_verdict : ∃ r,
    scan Sample.plainLib default "hello" (some 100) none = .ok r ∧
    r.score ∈ Set.Icc 0 1 ∧ (4 ≤ r.findings.length → r.risk = .high ∨ r.risk = .critical) := by
  have hexpected : ∀ n, some (100 : ℤ) = some n → 0 ≤ n := by
    rintro n ⟨⟩
    norm_num
  obtain ⟨r, hscan, hscore, _, _, hblocked, _⟩ :=
    scan_verdict Sample.plainLib default "hello" hexpected none
  exact ⟨r, hscan, hscore, hblocked⟩

end VibeShield.ExfiltrationDetector
