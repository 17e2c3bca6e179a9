import Mathlib.Data.List.Dedup
import VibeShield.Lib.PyDict
import VibeShield.Python.Arith
import VibeShield.Python.Runtime
import VibeShield.Security.Exfil.Patterns

/-!
# Detecting exfiltration

`ExfiltrationDetector.scan` adds up a score for what it finds in the output of an agent, and
rates the risk by it. It looks for secrets, personal data and covert channels by their
patterns, and for a high entropy, an unexpected size, parts of the context, and lines or words
that are too uniform.
-/

namespace VibeShield

/-- The risk of an output. -/
inductive ExfilRisk
  | none
  | low
  | medium
  | high
  | critical
deriving DecidableEq, Repr

/-- `risk.value`. -/
def ExfilRisk.value : ExfilRisk → String
  | none => "none"
  | low => "low"
  | medium => "medium"
  | high => "high"
  | critical => "critical"

/-- The result of a scan. -/
structure ExfilResult (F : Type*) where
  risk : ExfilRisk
  score : F
  entropy : F
  findings : List String
  recommendation : String := ""

/-- The detector: its settings. -/
structure ExfiltrationDetector (F : Type*) where
  maxEntropyThreshold : F
  maxOutputSize : ℤ := 100000
  entropyWindowSize : ℕ := 200

/-- `s.split()`. -/
def pyWords (s : String) : List String :=
  ((s.toList.splitOnP isPySpace).filter (· ≠ [])).map String.ofList

/-- What a scan calls: the library, the properties of characters and floats, and the order in
    which an iteration visits a set of texts. -/
structure ScanLib (F : Type*) where
  py : Python
  unicode : Unicode
  float : FloatLib F
  setOrder : List String → List String

namespace ExfiltrationDetector

open PyArith PyNum

variable {F : Type*} [PyNum F]

/-- The detector with its default settings. -/
def default : ExfiltrationDetector F where
  maxEntropyThreshold := lit (9 / 2)

variable (lib : ScanLib F) (d : ExfiltrationDetector F)

/-! ## Entropy -/

/-- The frequencies of the characters, in the order of their first occurrence. -/
def frequencies (text : List Char) : PyDict Char ℕ :=
  text.foldl (fun freq c => freq.set c ((freq.get? c).getD 0 + 1)) PyDict.empty

/-- The Shannon entropy of a text. -/
def shannonEntropy (text : List Char) : F :=
  ((frequencies text).items.map Prod.snd).foldl (fun entropy count =>
    let p : F := lit ((count : ℚ) / text.length)
    if lt (lit 0) p then sub entropy (mul p (lib.float.log2 p)) else entropy) (lit 0)

/-- The greatest entropy in a window; a text that is shorter than a window has none. -/
def maxShannonEntropy (text : List Char) : F :=
  (List.range (text.length + 1 - d.entropyWindowSize)).foldl (fun maxEnt i =>
    pyMax maxEnt (shannonEntropy lib ((text.drop i).take d.entropyWindowSize))) (lit 0)

/-! ## Structure -/

/-- Many lines of about the same length. -/
def uniformLines (text : String) : Except PyErr (Option String) :=
  let lines := text.toList.splitOn '\n'
  let lengths := (lines.filter fun l => !l.all isPySpace).map List.length
  if lines.length < 10 ∨ lengths.length < 5 then .ok none
  else
    let avg : F := lit ((lengths.sum : ℚ) / lengths.length)
    match lengths.mapM fun l : ℕ => pow (sub (lit l) avg) 2 with
    | .error err => .error err
    | .ok squares =>
      let variance := div (sum squares) (lit lengths.length)
      .ok (if lt (lit 20) avg && lt variance (lit 2) then
        some (s!"Uniform line lengths (var={lib.float.fixed 1 variance}, " ++
          s!"avg={lib.float.fixed 0 avg}) — potential encoding")
      else none)

/-- Few different words. -/
def repeatedWords (text : String) : Option String :=
  let words := pyWords text
  if words.length < 100 then none
  else
    let ratio : F := lit (((words.map lib.py.lower).dedup.length : ℚ) / words.length)
    if lt ratio (lit (3 / 20)) then
      some s!"Very low vocabulary diversity ({lib.float.percent ratio}) — possible steganography"
    else none

/-- Signs of steganography or covert encoding. -/
def checkStructuralAnomaly (text : String) : Except PyErr (Option String) :=
  match uniformLines lib text with
  | .error err => .error err
  | .ok (some anomaly) => .ok (some anomaly)
  | .ok none => .ok (repeatedWords lib text)

/-! ## The context -/

/-- The parts of the context that are looked for. -/
def contextShingles (context : List Char) : List String :=
  let shingles := (List.range (context.length + 1 - 50)).map fun i => (context.drop i).take 50
  ((shingles.filter fun s => !s.all isPySpace && 10 < s.dedup.length).map String.ofList).dedup

/-- How much of the context occurs in the output, in percent. At most 100 parts are looked
    for. -/
def checkDataFingerprint (output context : String) : F :=
  let shingles := lib.setOrder (contextShingles context.toList)
  if context = "" ∨ output = "" ∨ shingles = [] then lit 0
  else
    let checked := shingles.take 100
    mul (lit ((checked.countP (contains output) : ℚ) / checked.length)) (lit 100)

/-! ## The scan -/

/-- The score of a secret. -/
def secretScore (desc : String) : F :=
  if contains desc "PRIVATE KEY" || contains desc "Private key" ||
    contains desc "connection string" then lit (4 / 5)
  else if ["Stripe", "AWS", "Google", "GitHub", "OpenAI", "Anthropic", "HuggingFace",
    "Supabase"].any (contains desc) then lit (3 / 5)
  else lit (2 / 5)

/-- The score of personal data. -/
def piiScore (desc : String) : F :=
  if contains desc "SSN" || contains desc "Credit card" then lit (1 / 2) else lit (1 / 4)

/-- The findings so far, and the score. -/
abbrev Tally (F : Type*) : Type _ := List String × F

/-- Adding a finding. -/
def Tally.add (t : Tally F) (finding : String) (score : F) : Tally F :=
  (t.1 ++ [finding], PyNum.add t.2 score)

/-- Looking for patterns. -/
def findPatterns (patterns : List (Regex × String)) (tag : String) (score : String → F)
    (output : String) (t : Tally F) : Tally F :=
  patterns.foldl (fun t p =>
    if p.1.search lib.unicode output then t.add s!"[{tag}] {p.2}" (score p.2) else t) t

def checkEntropy (maxEntropy : F) (t : Tally F) : Tally F :=
  if lt d.maxEntropyThreshold maxEntropy then
    let t := t.add (s!"[ENTROPY] High entropy detected: {lib.float.fixed 2 maxEntropy} " ++
      s!"(threshold: {lib.float.str d.maxEntropyThreshold})") (lit (3 / 10))
    if lt (PyNum.add d.maxEntropyThreshold (lit (3 / 2))) maxEntropy
    then (t.1, PyNum.add t.2 (lit (1 / 5))) else t
  else t

def checkExpectedSize (expectedSize : Option ℤ) (output : String) (t : Tally F) : Tally F :=
  let expected := expectedSize.getD 0
  if expected ≠ 0 ∧ expected * 3 < output.length then
    let ratio : F := lit ((output.length : ℚ) / max expected 1)
    t.add (s!"[SIZE] Output {output.length} chars, expected ~{expected} " ++
      s!"({lib.float.fixed 1 ratio}x larger)")
      (pyMin (mul (lit (1 / 5)) (div ratio (lit 3))) (lit (1 / 2)))
  else t

def checkMaxSize (output : String) (t : Tally F) : Tally F :=
  if d.maxOutputSize < output.length then
    t.add s!"[SIZE] Output exceeds maximum ({output.length} > {d.maxOutputSize})" (lit (3 / 10))
  else t

def checkContext (contextData : Option String) (output : String) (t : Tally F) : Tally F :=
  let context := contextData.getD ""
  if 50 < context.length then
    let fingerprint : F := checkDataFingerprint lib output context
    if lt (lit 0) fingerprint then
      t.add (s!"[FINGERPRINT] Output contains {lib.float.fixed 0 fingerprint}% " ++
        "of context data verbatim")
        (pyMin (mul (div fingerprint (lit 100)) (lit (2 / 5))) (lit (2 / 5)))
    else t
  else t

/-- The risk of a score. -/
def scoreToRisk (score : F) : ExfilRisk :=
  if le (lit (7 / 10)) score then .critical
  else if le (lit (1 / 2)) score then .high
  else if le (lit (3 / 10)) score then .medium
  else if le (lit (1 / 10)) score then .low
  else .none

/-- What to do about a risk. -/
def recommendation : ExfilRisk → String
  | .critical =>
    "BLOCK: Output contains leaked secrets or highly suspicious patterns. Do not deliver."
  | .high =>
    "REVIEW: Output contains suspicious patterns. Human review recommended before delivery."
  | .medium => "MONITOR: Output has some suspicious characteristics. Log for audit."
  | .low => "LOG: Minor anomalies detected. No action required."
  | .none => "CLEAR: No exfiltration indicators detected."

/-- Scanning the output of an agent. -/
def scan (output : String) (expectedSize : Option ℤ := none) (contextData : Option String := none) :
    Except PyErr (ExfilResult F) :=
  if output = "" then .ok ⟨.none, lit 0, lit 0, [], ""⟩
  else
    let t := findPatterns lib secretPatterns "SECRET" secretScore output ([], lit 0)
    let t := findPatterns lib (piiPatterns lib.unicode) "PII" piiScore output t
    let t := findPatterns lib (covertPatterns lib.unicode) "COVERT" (fun _ => lit (1 / 4)) output t
    let maxEntropy := maxShannonEntropy lib d output.toList
    let t := checkEntropy lib d maxEntropy t
    let t := checkExpectedSize lib expectedSize output t
    let t := checkMaxSize d output t
    let t := checkContext lib contextData output t
    match checkStructuralAnomaly lib output with
    | .error err => .error err
    | .ok anomaly =>
      let t := match anomaly with
        | some anomaly => t.add s!"[STRUCTURE] {anomaly}" (lit (1 / 5))
        | none => t
      let score := pyMin t.2 (lit 1)
      let risk := scoreToRisk score
      .ok {
        risk := risk
        score := round score 3
        entropy := round maxEntropy 3
        findings := t.1
        recommendation := recommendation risk }

end ExfiltrationDetector

end VibeShield
