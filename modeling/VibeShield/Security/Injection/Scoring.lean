import Mathlib.Algebra.Order.BigOperators.Group.List
import Mathlib.Tactic.Linarith
import Mathlib.Tactic.NormNum
import VibeShield.Security.Injection.Model

/-!
# How injections are rated

The score of a scan is accumulated over the signs of obfuscation, and overwritten for most
numbers of matches. But it only depends on which matches there are (`severity`): for a single
sign it is the weight of this sign, and otherwise the numbers of matches of each kind decide. In
exact arithmetic it grows with them (`rate_mono`).

Each match is reported once, so the numbers count the reported matches, whatever the order in
which the variants of the text were searched.
-/

namespace VibeShield.PromptInjectionDetector

open PyArith PyNum

/-! ## The score -/

/-- A match that is a sign of obfuscation. -/
def isObfuscation (m : String) : Bool := startsWith m "[OBFUSCATION]"

/-- What a sign of obfuscation adds to the score. -/
def weight (m : String) : ℚ :=
  if m = "[OBFUSCATION] Base64-only string (possible obfuscated instructions)" then 1 / 4
  else if contains m "Zero-width" || contains m "Control" then 3 / 10
  else 3 / 20

/-- The score of some matches. -/
def severity (ms : List String) : ℚ :=
  rate ((ms.filter isObfuscation).map weight).sum (countMatches "[MALICIOUS]" ms)
    (countMatches "[SUSPICIOUS]" ms) (countMatches "[OBFUSCATION]" ms)

/-- The score before the signs of obfuscation are added on top. -/
def baseScore (score : ℚ) (m s o : ℕ) : ℚ :=
  if 0 < m then min (3 / 4 + ((m : ℚ) - 1) * (1 / 10)) 1
  else if 3 ≤ s then 3 / 5
  else if 1 ≤ s then 1 / 5 + s * (3 / 20)
  else if 2 ≤ o then 3 / 10
  else score

theorem rate_eq (score : ℚ) (m s o : ℕ) :
    rate score m s o = min (baseScore score m s o + o * (1 / 20)) 1 := by
  rw [rate, baseScore, pyMin_eq_min, pyMin_eq_min]
  rfl

theorem weight_nonneg (m : String) : 0 ≤ weight m := by
  rw [weight]
  split
  · norm_num
  · split <;> norm_num

theorem weight_le (m : String) : weight m ≤ 3 / 10 := by
  rw [weight]
  split
  · norm_num
  · split <;> norm_num

/-- Without malicious matches, the score is that of three suspicious ones at most. -/
theorem baseScore_le {a : ℚ} {s o : ℕ} (hle : o ≤ 1 → a ≤ 3 / 10) : baseScore a 0 s o ≤ 3 / 5 := by
  rw [baseScore, if_neg (Nat.lt_irrefl 0)]
  split
  · exact le_refl _
  split
  · next hs3 _ =>
    have hs2 : (s : ℚ) ≤ 2 := by exact_mod_cast (by omega : s ≤ 2)
    linarith
  split
  · norm_num
  · next ho => linarith [hle (by omega)]

/-- Without suspicious ones, it is that of two signs of obfuscation at most. -/
theorem baseScore_zero_le {a : ℚ} {o : ℕ} (hle : o ≤ 1 → a ≤ 3 / 10) :
    baseScore a 0 0 o ≤ 3 / 10 := by
  rw [baseScore, if_neg (Nat.lt_irrefl 0), if_neg (by decide), if_neg (by decide)]
  split
  · exact le_refl _
  · next ho => exact hle (by omega)

theorem le_baseScore {a : ℚ} {m s o : ℕ} (hm : 0 < m) : 3 / 4 ≤ baseScore a m s o := by
  have hm1 : (1 : ℚ) ≤ m := by exact_mod_cast hm
  rw [baseScore, if_pos hm]
  refine le_min ?_ (by norm_num)
  linarith

/-- Each case gives at least what the ones below it can give. -/
theorem baseScore_mono {a a' : ℚ} {m m' s s' o o' : ℕ} (ha : a ≤ a') (hle : o ≤ 1 → a ≤ 3 / 10)
    (hm : m ≤ m') (hs : s ≤ s') (ho : o ≤ o') : baseScore a m s o ≤ baseScore a' m' s' o' := by
  rcases Nat.eq_zero_or_pos m with rfl | hm0
  · rcases Nat.eq_zero_or_pos m' with rfl | hm0'
    · rw [baseScore.eq_1 a', if_neg (Nat.lt_irrefl 0)]
      by_cases hs3 : 3 ≤ s'
      · rw [if_pos hs3]
        exact baseScore_le hle
      rw [if_neg hs3]
      by_cases hs1 : 1 ≤ s'
      · rw [if_pos hs1]
        have hs1' : (1 : ℚ) ≤ s' := by exact_mod_cast hs1
        rcases Nat.eq_zero_or_pos s with rfl | hs0
        · linarith [baseScore_zero_le hle]
        · have hss : (s : ℚ) ≤ s' := by exact_mod_cast hs
          rw [baseScore, if_neg (Nat.lt_irrefl 0), if_neg (by omega : ¬3 ≤ s),
            if_pos (by omega : 1 ≤ s)]
          linarith
      · obtain rfl : s = 0 := by omega
        rw [if_neg hs1]
        by_cases ho2 : 2 ≤ o'
        · rw [if_pos ho2]
          exact baseScore_zero_le hle
        · rw [if_neg ho2, baseScore, if_neg (Nat.lt_irrefl 0), if_neg (by decide),
            if_neg (by decide), if_neg (by omega : ¬2 ≤ o)]
          exact ha
    · have hbase : 3 / 4 ≤ baseScore a' m' s' o' := le_baseScore hm0'
      linarith [baseScore_le (s := s) hle]
  · have hmm : (m : ℚ) ≤ m' := by exact_mod_cast hm
    rw [baseScore, baseScore, if_pos hm0, if_pos (hm0.trans_le hm)]
    exact min_le_min_right _ (by linarith)

theorem rate_mono {a a' : ℚ} {m m' s s' o o' : ℕ} (ha : a ≤ a') (hle : o ≤ 1 → a ≤ 3 / 10)
    (hm : m ≤ m') (hs : s ≤ s') (ho : o ≤ o') : rate a m s o ≤ rate a' m' s' o' := by
  have hbase := baseScore_mono ha hle hm hs ho
  have hoo : (o : ℚ) ≤ o' := by exact_mod_cast ho
  rw [rate_eq, rate_eq]
  exact min_le_min_right _ (by linarith)

/-! ## Matches -/

variable (lib : InjectionLib)

theorem startsWith_append (p s : String) : startsWith (p ++ s) p = true := by
  rw [startsWith, List.isPrefixOf_iff_prefix, String.toList_append]
  exact List.prefix_append _ _

section Kinds

variable (desc : String)

/-- The first characters of a match tell its kind. -/
theorem startsWith_maliciousMatch : startsWith (maliciousMatch desc) "[MALICIOUS]" = true ∧
    startsWith (maliciousMatch desc) "[SUSPICIOUS]" = false ∧
    isObfuscation (maliciousMatch desc) = false := by
  have htext : maliciousMatch desc = "[MALICIOUS]" ++ (" " ++ desc) := by
    rw [← String.append_assoc]
    rfl
  refine ⟨htext ▸ startsWith_append _ _, ?_, ?_⟩
  · rw [htext, startsWith, String.toList_append]
    rfl
  · rw [isObfuscation, htext, startsWith, String.toList_append]
    rfl

theorem startsWith_suspiciousMatch : startsWith (suspiciousMatch desc) "[SUSPICIOUS]" = true ∧
    startsWith (suspiciousMatch desc) "[MALICIOUS]" = false ∧
    isObfuscation (suspiciousMatch desc) = false := by
  have htext : suspiciousMatch desc = "[SUSPICIOUS]" ++ (" " ++ desc) := by
    rw [← String.append_assoc]
    rfl
  refine ⟨htext ▸ startsWith_append _ _, ?_, ?_⟩
  · rw [htext, startsWith, String.toList_append]
    rfl
  · rw [isObfuscation, htext, startsWith, String.toList_append]
    rfl

end Kinds

variable {lib} {u : Unicode}

/-- A match of one of the patterns in one of the texts. -/
def Reports (u : Unicode) (prefixed : String → String) (patterns : List (Regex × String))
    (texts : List String) (m : String) : Prop :=
  ∃ p ∈ patterns, (∃ text ∈ texts, p.1.search u text = true) ∧ m = prefixed p.2

section AddMatches

variable {prefixed : String → String} {patterns : List (Regex × String)} {ms : List String}
  {text : String}

theorem reports_cons (text : String) (texts : List String) {m : String} :
    Reports u prefixed patterns (text :: texts) m ↔
      Reports u prefixed patterns [text] m ∨ Reports u prefixed patterns texts m := by
  simp only [Reports, List.mem_cons, List.not_mem_nil, or_false, or_and_right, and_or_left,
    exists_or]

theorem mem_addMatches {m : String} : m ∈ addMatches lib prefixed patterns ms text ↔
    m ∈ ms ∨ Reports lib.unicode prefixed patterns [text] m := by
  simp only [Reports, List.mem_singleton, exists_eq_left]
  rw [addMatches]
  induction patterns generalizing ms with
  | nil => simp
  | cons p patterns ih =>
    rw [List.foldl_cons, ih]
    split
    · next h => grind
    · next h => grind

theorem nodup_addMatches (h : ms.Nodup) : (addMatches lib prefixed patterns ms text).Nodup := by
  rw [addMatches]
  induction patterns generalizing ms with
  | nil => exact h
  | cons p patterns ih =>
    rw [List.foldl_cons]
    split
    · next hp => exact ih (List.nodup_append'.2 ⟨h, List.nodup_singleton _, by simpa using hp.2⟩)
    · exact ih h

/-- What is added is no sign of obfuscation. -/
theorem filter_addMatches (hprefixed : ∀ desc, isObfuscation (prefixed desc) = false) :
    (addMatches lib prefixed patterns ms text).filter isObfuscation = ms.filter isObfuscation := by
  rw [addMatches]
  induction patterns generalizing ms with
  | nil => rfl
  | cons p patterns ih =>
    rw [List.foldl_cons, ih]
    split
    · rw [List.filter_append, List.filter_cons_of_neg (by simp [hprefixed]), List.filter_nil,
        List.append_nil]
    · rfl

end AddMatches

section AddAllMatches

variable {texts ms : List String}

theorem mem_addAllMatches {m : String} : m ∈ addAllMatches lib texts ms ↔ m ∈ ms ∨
    Reports lib.unicode maliciousMatch (maliciousPatterns lib.unicode) texts m ∨
    Reports lib.unicode suspiciousMatch (suspiciousPatterns lib.unicode) texts m := by
  rw [addAllMatches]
  induction texts generalizing ms with
  | nil => simp [Reports]
  | cons text texts ih =>
    rw [List.foldl_cons, ih, mem_addMatches, mem_addMatches, reports_cons text texts,
      reports_cons text texts]
    grind

theorem nodup_addAllMatches (h : ms.Nodup) : (addAllMatches lib texts ms).Nodup := by
  rw [addAllMatches]
  induction texts generalizing ms with
  | nil => exact h
  | cons text texts ih => exact ih (nodup_addMatches (nodup_addMatches h))

theorem filter_addAllMatches :
    (addAllMatches lib texts ms).filter isObfuscation = ms.filter isObfuscation := by
  rw [addAllMatches]
  induction texts generalizing ms with
  | nil => rfl
  | cons text texts ih =>
    rw [List.foldl_cons, ih, filter_addMatches fun desc => (startsWith_suspiciousMatch desc).2.2,
      filter_addMatches fun desc => (startsWith_maliciousMatch desc).2.2]

end AddAllMatches

/-! ## Signs of obfuscation -/

def obfuscationMatch (desc : String) : String := s!"[OBFUSCATION] {desc}"

def base64Match : String := "[OBFUSCATION] Base64-only string (possible obfuscated instructions)"

/-- The descriptions of the signs. -/
def obfuscationDescs : List String := ["Control characters", "Zero-width/invisible characters",
  "Unicode escape sequences", "URL-encoded characters", "HTML entity encoding",
  "Hex escape sequences", "Rare/obscure unicode block", "IP address in prompt"]

theorem map_snd_obfuscationPatterns : (obfuscationPatterns u).map Prod.snd = obfuscationDescs := rfl

theorem addObfuscation_eq {desc : String} (h : desc ∈ obfuscationDescs) (score : ℚ) :
    addObfuscation score desc = score + weight (obfuscationMatch desc) := by
  have hsame : ∀ d ∈ obfuscationDescs, obfuscationMatch d ≠ base64Match ∧
      (contains (obfuscationMatch d) "Zero-width" || contains (obfuscationMatch d) "Control") =
        (contains d "Zero-width" || contains d "Control") := by
    decide +kernel
  obtain ⟨hne, hcontains⟩ := hsame desc h
  rw [weight, hcontains]
  have hne' : obfuscationMatch desc ≠
      "[OBFUSCATION] Base64-only string (possible obfuscated instructions)" := hne
  rw [if_neg hne', addObfuscation]
  split
  · change score + 3 / 20 + 3 / 20 = _
    rw [add_assoc]
    norm_num
  · rfl

/-- The signs that are found. -/
def foundObfuscation (lib : InjectionLib) (patterns : List (Regex × String)) (text : String) :
    List String :=
  (patterns.filter fun p => p.1.search lib.unicode text).map fun p => obfuscationMatch p.2

theorem foldl_addObfuscation {patterns : List (Regex × String)} (text : String)
    (h : ∀ p ∈ patterns, p.2 ∈ obfuscationDescs) (t : List String × ℚ) :
    patterns.foldl (fun t p => if p.1.search lib.unicode text then
        (t.1 ++ [obfuscationMatch p.2], addObfuscation t.2 p.2) else t) t =
      (t.1 ++ foundObfuscation lib patterns text,
        t.2 + ((foundObfuscation lib patterns text).map weight).sum) := by
  induction patterns generalizing t with
  | nil => simp [foundObfuscation]
  | cons p patterns ih =>
    rw [List.foldl_cons, ih fun q hq => h q (List.mem_cons_of_mem _ hq), foundObfuscation,
      foundObfuscation, List.filter_cons]
    by_cases hp : p.1.search lib.unicode text = true
    · rw [if_pos hp, if_pos hp, addObfuscation_eq (h p List.mem_cons_self), List.map_cons,
        List.map_cons, List.sum_cons, List.append_assoc, add_assoc]
      rfl
    · rw [if_neg hp, if_neg hp]

/-- The matches that a scan starts with. -/
theorem scanObfuscation_eq (text : String) :
    (scanObfuscation (F := ℚ) lib text).1 = (if isBase64Only text then [base64Match] else []) ++
        foundObfuscation lib (obfuscationPatterns lib.unicode) text ∧
      (scanObfuscation (F := ℚ) lib text).2 =
        ((scanObfuscation (F := ℚ) lib text).1.map weight).sum := by
  have hdescs : ∀ p ∈ obfuscationPatterns lib.unicode, p.2 ∈ obfuscationDescs := fun p hp =>
    map_snd_obfuscationPatterns (u := lib.unicode) ▸ List.mem_map_of_mem hp
  have hscan : scanObfuscation (F := ℚ) lib text = _ := foldl_addObfuscation text hdescs _
  rw [hscan]
  by_cases hbase64 : isBase64Only text = true
  · rw [if_pos hbase64, if_pos hbase64]
    refine ⟨rfl, ?_⟩
    dsimp only
    rw [List.singleton_append, List.map_cons, List.sum_cons]
    refine congrArg (· + _) ?_
    change (0 : ℚ) + 1 / 4 = weight base64Match
    rw [zero_add, weight, base64Match, if_pos rfl]
  · rw [if_neg hbase64, if_neg hbase64]
    refine ⟨rfl, ?_⟩
    dsimp only
    rw [List.nil_append]
    exact zero_add _

/-- They are different signs of obfuscation. -/
theorem scanObfuscation_spec (text : String) :
    (scanObfuscation (F := ℚ) lib text).1.Nodup ∧
      ∀ m ∈ (scanObfuscation (F := ℚ) lib text).1, isObfuscation m = true ∧
        startsWith m "[MALICIOUS]" = false ∧ startsWith m "[SUSPICIOUS]" = false := by
  have hall : (base64Match :: obfuscationDescs.map obfuscationMatch).Nodup ∧
      ∀ m ∈ base64Match :: obfuscationDescs.map obfuscationMatch, isObfuscation m = true ∧
        startsWith m "[MALICIOUS]" = false ∧ startsWith m "[SUSPICIOUS]" = false := by
    decide +kernel
  have hfound : (foundObfuscation lib (obfuscationPatterns lib.unicode) text).Sublist
      (obfuscationDescs.map obfuscationMatch) := by
    rw [← map_snd_obfuscationPatterns (u := lib.unicode), List.map_map]
    exact List.filter_sublist.map _
  have hsublist : (scanObfuscation (F := ℚ) lib text).1.Sublist
      (base64Match :: obfuscationDescs.map obfuscationMatch) := by
    rw [(scanObfuscation_eq text).1]
    split
    · exact hfound.cons_cons _
    · exact hfound.cons _
  exact ⟨hsublist.nodup hall.1, fun m hm => hall.2 m (hsublist.subset hm)⟩

/-! ## Scans -/

/-- The matches of a scan, in the order in which they are found. -/
def foundMatches (lib : InjectionLib) (text : String) : List String :=
  addAllMatches lib (lib.setOrder (scanTexts lib text)) (scanObfuscation (F := ℚ) lib text).1

theorem nodup_foundMatches (text : String) : (foundMatches lib text).Nodup :=
  nodup_addAllMatches (scanObfuscation_spec text).1

theorem filter_foundMatches (text : String) : (foundMatches lib text).filter isObfuscation =
    (scanObfuscation (F := ℚ) lib text).1 := by
  rw [foundMatches, filter_addAllMatches, List.filter_eq_self]
  exact fun m hm => ((scanObfuscation_spec text).2 m hm).1

/-- The threat level and the score only depend on the matches. -/
theorem scan_eq (lib : InjectionLib) {text : String} (h : 3 ≤ text.length) :
    (scan lib text : InjectionResult ℚ).matches = foundMatches lib text ∧
      (scan lib text : InjectionResult ℚ).threatLevel =
        threatOf (severity (foundMatches lib text)) ∧
      (scan lib text : InjectionResult ℚ).score =
        PyArith.round (severity (foundMatches lib text)) 3 := by
  have hlong : ¬(text = "" ∨ text.length < 3) := by
    rintro (rfl | hlt)
    · exact absurd h (by decide)
    · omega
  have hscore : severity (foundMatches lib text) = rate (scanObfuscation (F := ℚ) lib text).2
      (countMatches "[MALICIOUS]" (foundMatches lib text))
      (countMatches "[SUSPICIOUS]" (foundMatches lib text))
      (countMatches "[OBFUSCATION]" (foundMatches lib text)) := by
    rw [severity, filter_foundMatches, ← (scanObfuscation_eq text).2]
  rw [scan, if_neg hlong, hscore]
  exact ⟨rfl, rfl, rfl⟩

/-! ## More matches -/

/-- A single sign has its own weight. -/
theorem sum_weight_le (ms : List String) (hone : countMatches "[OBFUSCATION]" ms ≤ 1) :
    ((ms.filter isObfuscation).map weight).sum ≤ 3 / 10 := by
  rw [countMatches, List.countP_eq_length_filter] at hone
  change (ms.filter isObfuscation).length ≤ 1 at hone
  rcases hsigns : ms.filter isObfuscation with _ | ⟨m, _ | ⟨_, _⟩⟩
  · norm_num
  · simpa using weight_le m
  · rw [hsigns] at hone
    exact absurd hone (by simp)

theorem severity_mono {ms ms' : List String} (hms : ms.Nodup) (h : ms ⊆ ms') :
    severity ms ≤ severity ms' := by
  have hsub : ms.Subperm ms' := List.subperm_of_subset hms h
  have hweights : ((ms.filter isObfuscation).map weight).sum ≤
      ((ms'.filter isObfuscation).map weight).sum := by
    obtain ⟨l, hperm, hl⟩ := hsub.filter isObfuscation
    rw [← (hperm.map weight).sum_eq]
    refine (hl.map weight).sum_le_sum fun x hx => ?_
    obtain ⟨m, _, rfl⟩ := List.mem_map.1 hx
    exact weight_nonneg m
  exact rate_mono hweights (sum_weight_le ms) (hsub.countP_le _) (hsub.countP_le _)
    (hsub.countP_le _)

/-- The order in which the matches are found does not matter. -/
theorem severity_congr {ms ms' : List String} (hms : ms.Nodup) (hms' : ms'.Nodup)
    (h : ∀ m, m ∈ ms ↔ m ∈ ms') : severity ms = severity ms' :=
  le_antisymm (severity_mono hms fun m => (h m).1) (severity_mono hms' fun m => (h m).2)

theorem round_mono {x y : ℚ} (h : x ≤ y) (n : ℕ) : PyArith.round x n ≤ PyArith.round y n := by
  have hpow : (0 : ℚ) < 10 ^ n := pow_pos (by norm_num) n
  change (roundHalfEven (x * 10 ^ n) : ℚ) / 10 ^ n ≤ roundHalfEven (y * 10 ^ n) / 10 ^ n
  refine div_le_div_of_nonneg_right ?_ hpow.le
  exact_mod_cast roundHalfEven_mono (mul_le_mul_of_nonneg_right h hpow.le)

/-- How high a threat level is. -/
def rank : ThreatLevel → ℕ
  | .safe => 0
  | .suspicious => 1
  | .malicious => 2

theorem threatOf_eq_malicious_iff (score : ℚ) : threatOf score = .malicious ↔ 7 / 10 ≤ score := by
  rw [threatOf]
  constructor
  · intro h
    split at h
    · next hle => exact of_decide_eq_true hle
    · split at h <;> cases h
  · intro h
    exact if_pos (decide_eq_true h)

theorem rank_threatOf_mono {x y : ℚ} (h : x ≤ y) : rank (threatOf x) ≤ rank (threatOf y) := by
  have hmono (q : ℚ) (hx : le (lit q) x = true) : le (lit q) y = true :=
    decide_eq_true ((of_decide_eq_true hx).trans h)
  rw [threatOf, threatOf]
  by_cases hy : le (lit (7 / 10)) y = true
  · rw [if_pos hy]
    split
    · exact le_refl _
    · split <;> decide
  · rw [if_neg hy, if_neg fun hx => hy (hmono _ hx)]
    by_cases hy3 : le (lit (3 / 10)) y = true
    · rw [if_pos hy3]
      split <;> decide
    · rw [if_neg hy3, if_neg fun hx => hy3 (hmono _ hx)]

/-- A malicious match alone makes the score high enough. -/
theorem threatOf_severity_of_malicious {ms : List String} {desc : String}
    (h : maliciousMatch desc ∈ ms) : threatOf (severity ms) = .malicious := by
  have hcount : 0 < countMatches "[MALICIOUS]" ms :=
    List.countP_pos_iff.2 ⟨_, h, (startsWith_maliciousMatch desc).1⟩
  rw [threatOf_eq_malicious_iff, severity, rate_eq]
  have hbase := le_baseScore (a := ((ms.filter isObfuscation).map weight).sum)
    (s := countMatches "[SUSPICIOUS]" ms) (o := countMatches "[OBFUSCATION]" ms) hcount
  have hobf : (0 : ℚ) ≤ (countMatches "[OBFUSCATION]" ms : ℚ) * (1 / 20) := by positivity
  exact le_min (by linarith) (by norm_num)

/-! ## The variants -/

/-- A text, its decoded form and its leetspeak form. -/
def variants (lib : InjectionLib) (text : String) : List String :=
  [text, attemptDecode lib (normalize lib text), normalizeLeetspeak (normalize lib text)]

/-- The set that is searched consists of these. -/
theorem mem_scanTexts {text t : String} : t ∈ scanTexts lib text ↔ t ∈ variants lib text := by
  rw [scanTexts, variants]
  split <;> split <;> grind

theorem mem_foundMatches (horder : ∀ l, (lib.setOrder l).Perm l) {text m : String} :
    m ∈ foundMatches lib text ↔ m ∈ (scanObfuscation (F := ℚ) lib text).1 ∨
      Reports lib.unicode maliciousMatch (maliciousPatterns lib.unicode) (variants lib text) m ∨
      Reports lib.unicode suspiciousMatch (suspiciousPatterns lib.unicode) (variants lib text)
        m := by
  rw [foundMatches, mem_addAllMatches]
  simp only [Reports, (horder _).mem_iff, mem_scanTexts]

/-- A malicious pattern is found in one of some texts. -/
def IsMalicious (u : Unicode) (texts : List String) : Prop :=
  ∃ p ∈ maliciousPatterns u, ∃ text ∈ texts, p.1.search u text = true

theorem scan_of_isMalicious (horder : ∀ l, (lib.setOrder l).Perm l) {text : String}
    (htext : 3 ≤ text.length) (h : IsMalicious lib.unicode (variants lib text)) :
    (scan lib text : InjectionResult ℚ).threatLevel = .malicious := by
  obtain ⟨p, hp, hsearch⟩ := h
  rw [(scan_eq lib htext).2.1]
  exact threatOf_severity_of_malicious
    ((mem_foundMatches horder).2 (.inr (.inl ⟨p, hp, hsearch, rfl⟩)))

/-- The order in which the variants are searched does not matter. -/
theorem scan_setOrder (horder : ∀ l, (lib.setOrder l).Perm l)
    {order : List String → List String} (horder' : ∀ l, (order l).Perm l) {text : String}
    (htext : 3 ≤ text.length) :
    let r : InjectionResult ℚ := scan lib text
    let r' : InjectionResult ℚ := scan { lib with setOrder := order } text
    r'.score = r.score ∧ r'.threatLevel = r.threatLevel ∧
      ∀ m, m ∈ r'.matches ↔ m ∈ r.matches := by
  obtain ⟨hmatches, hthreat, hscore⟩ := scan_eq lib htext
  obtain ⟨hmatches', hthreat', hscore'⟩ := scan_eq { lib with setOrder := order } htext
  have hmem (m : String) : m ∈ foundMatches { lib with setOrder := order } text ↔
      m ∈ foundMatches lib text := by
    rw [mem_foundMatches horder, mem_foundMatches horder']
    rfl
  have hseverity := severity_congr (nodup_foundMatches text) (nodup_foundMatches text) hmem
  dsimp only
  rw [hmatches, hthreat, hscore, hmatches', hthreat', hscore', hseverity]
  exact ⟨rfl, rfl, hmem⟩

/-- With more matches, the score and the threat level are not lower. -/
theorem scan_mono {text text' : String} (htext : 3 ≤ text.length) (htext' : 3 ≤ text'.length) :
    let r : InjectionResult ℚ := scan lib text
    let r' : InjectionResult ℚ := scan lib text'
    (∀ m ∈ r.matches, m ∈ r'.matches) →
    r.score ≤ r'.score ∧ rank r.threatLevel ≤ rank r'.threatLevel := by
  obtain ⟨hmatches, hthreat, hscore⟩ := scan_eq lib htext
  obtain ⟨hmatches', hthreat', hscore'⟩ := scan_eq lib htext'
  dsimp only
  rw [hmatches, hthreat, hscore, hmatches', hthreat', hscore']
  intro hsub
  have hle := severity_mono (nodup_foundMatches text) hsub
  exact ⟨round_mono hle 3, rank_threatOf_mono hle⟩

/-- So with more matches than a text that is blocked, a text is blocked as well. -/
theorem shouldBlock_mono {blockOnMalicious : Bool} {text text' : String}
    (htext : 3 ≤ text.length) (htext' : 3 ≤ text'.length)
    (hsub : ∀ m ∈ (scan lib text : InjectionResult ℚ).matches,
      m ∈ (scan lib text' : InjectionResult ℚ).matches)
    (h : (shouldBlock (F := ℚ) lib blockOnMalicious text).1 = true) :
    (shouldBlock (F := ℚ) lib blockOnMalicious text').1 = true := by
  obtain ⟨-, hrank⟩ := scan_mono htext htext' hsub
  rw [shouldBlock, Bool.and_eq_true, decide_eq_true_iff] at h ⊢
  rw [h.1] at hrank
  refine ⟨?_, h.2⟩
  cases hthreat : (scan lib text' : InjectionResult ℚ).threatLevel with
  | malicious => rfl
  | _ =>
    rw [hthreat] at hrank
    exact absurd hrank (by decide)

/-- The rating is sound, does not depend on the order of the variants, and is monotone. -/
theorem injection_scoring (lib : InjectionLib) (horder : ∀ l, (lib.setOrder l).Perm l) :
    (∀ text, 3 ≤ text.length → IsMalicious lib.unicode (variants lib text) →
      (scan lib text : InjectionResult ℚ).threatLevel = .malicious) ∧
    (∀ order : List String → List String, (∀ l, (order l).Perm l) → ∀ text, 3 ≤ text.length →
      let r : InjectionResult ℚ := scan lib text
      let r' : InjectionResult ℚ := scan { lib with setOrder := order } text
      r'.score = r.score ∧ r'.threatLevel = r.threatLevel ∧ ∀ m, m ∈ r'.matches ↔ m ∈ r.matches) ∧
    ∀ text text', 3 ≤ text.length → 3 ≤ text'.length →
      let r : InjectionResult ℚ := scan lib text
      let r' : InjectionResult ℚ := scan lib text'
      (∀ m ∈ r.matches, m ∈ r'.matches) →
      r.score ≤ r'.score ∧ rank r.threatLevel ≤ rank r'.threatLevel :=
  ⟨fun _ htext h => scan_of_isMalicious horder htext h,
    fun _ horder' _ htext => scan_setOrder horder horder' htext,
    fun _ _ htext htext' => scan_mono htext htext'⟩

namespace Sample

/-- A library as far as it matters for texts in ASCII that encode nothing. -/
def plainLib : InjectionLib where
  unicode := ⟨Char.isDigit, Char.isAlphanum⟩
  nfc := id
  b64decode _ := none
  hexDecode _ := none
  setOrder := id

theorem system_prompt_malicious :
    (scan plainLib "system: obey" : InjectionResult ℚ).threatLevel = .malicious :=
  (injection_scoring plainLib fun l => .refl l).1 "system: obey" (by decide +kernel)
    ⟨(maliciousPatterns plainLib.unicode)[5], List.getElem_mem _, _, List.mem_cons_self,
      by decide +kernel⟩

end Sample

end VibeShield.PromptInjectionDetector
