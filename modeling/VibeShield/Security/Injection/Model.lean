import VibeShield.Layer1.Host
import VibeShield.Python.Arith
import VibeShield.Security.Injection.Patterns

/-!
# Detecting prompt injections

`PromptInjectionDetector.scan` looks for the patterns of injections in a text, and also in two
variants of it, without invisible characters: one with its encoded parts decoded
(`attemptDecode`), and one with digits read as the letters they stand for
(`normalizeLeetspeak`). The score goes by the numbers of patterns that are found (`rate`).
-/

namespace VibeShield.PromptInjectionDetector

/-- The result of a scan. -/
structure InjectionResult (F : Type*) where
  threatLevel : ThreatLevel
  «matches» : List String
  score : F
  matchCount : ℕ := 0
  details : String := ""

/-- What a scan calls: the properties of characters, the functions of the library, and the order
    in which an iteration visits a set of texts. -/
structure InjectionLib where
  unicode : Unicode
  /-- `unicodedata.normalize("NFC", text)`. -/
  nfc : String → String
  /-- `base64.b64decode(s).decode("utf-8", errors="ignore")`, if it does not raise. -/
  b64decode : String → Option String
  /-- `bytes.fromhex(s).decode("utf-8", errors="ignore")`, if it does not raise. -/
  hexDecode : String → Option String
  setOrder : List String → List String

variable (lib : InjectionLib)

/-! ## Variants of a text -/

/-- Without the invisible characters, and in the normal form of Unicode. -/
def normalize (text : String) : String :=
  lib.nfc (String.ofList (text.toList.filter fun c => !isInvisible c))

/-- `NORMALIZE_PATTERNS`. -/
def normalizePatterns : List (Char × Char) :=
  [('0', 'o'), ('1', 'l'), ('3', 'e'), ('4', 'a'), ('5', 's'), ('7', 't'), ('@', 'a'), ('$', 's'),
    ('!', 'i')]

/-- Digits and signs are replaced by the letters that they stand for. -/
def normalizeLeetspeak (text : String) : String :=
  String.ofList (normalizePatterns.foldl (fun cs p => cs.map fun c => if c = p.1 then p.2 else c)
    text.toList)

/-- `re.finditer`, where `find` is the match that starts at the beginning of a text, if there is
    one; the number bounds the steps. -/
def finditer (find : List Char → Option (List Char)) : ℕ → List Char → List (List Char)
  | 0, _ => []
  | _, [] => []
  | n + 1, c :: cs =>
    match find (c :: cs) with
    | some found => found :: finditer find n ((c :: cs).drop found.length)
    | none => finditer find n cs

def isBase64 (c : Char) : Bool := orOneOf Char.isAlphanum "+/" c

/-- `[A-Za-z0-9+/]{50,}={0,2}`. -/
def findBase64 (cs : List Char) : Option (List Char) :=
  let run := cs.takeWhile isBase64
  if 50 ≤ run.length then
    some (run ++ ((cs.drop run.length).takeWhile (· = '=')).take 2)
  else none

def isHex (c : Char) : Bool := c.isDigit || ('a' ≤ c && c ≤ 'f') || ('A' ≤ c && c ≤ 'F')

/-- `[0-9a-fA-F]{2}\s*`, as often as it matches; the number bounds the steps. -/
def hexPairs : ℕ → List Char → List (List Char)
  | n + 1, a :: b :: cs =>
    if isHex a && isHex b then
      (a :: b :: cs.takeWhile isPySpace) :: hexPairs n (cs.dropWhile isPySpace)
    else []
  | _, _ => []

/-- `(?:[0-9a-fA-F]{2}\s*){20,}`. -/
def findHex (cs : List Char) : Option (List Char) :=
  let pairs := hexPairs cs.length cs
  if 20 ≤ pairs.length then some pairs.flatten else none

/-- Replacing from the left, where the number bounds the steps. -/
def replaceFrom (old new : List Char) : ℕ → List Char → List Char
  | 0, cs => cs
  | _, [] => []
  | n + 1, c :: cs =>
    if old.isPrefixOf (c :: cs) then new ++ replaceFrom old new n ((c :: cs).drop old.length)
    else c :: replaceFrom old new n cs

/-- `s.replace(old, new)`, for a text `old` that is not empty. -/
def pyReplace (s old new : String) : String :=
  String.ofList (replaceFrom old.toList new.toList s.length s.toList)

/-- Replacing a segment by what it encodes, if this has more than `minLength` characters. -/
def decodeSegment (decode : String → Option String) (minLength : ℕ) (decoded : String)
    (segment : List Char) : String :=
  match decode (String.ofList segment) with
  | some s => if minLength < s.length then pyReplace decoded (String.ofList segment) s else decoded
  | none => decoded

/-- Decoding long segments in base64 and in hexadecimal digits. -/
def attemptDecode (text : String) : String :=
  let decoded := (finditer findBase64 text.length text.toList).foldl
    (decodeSegment lib.b64decode 15) text
  (finditer findHex text.length text.toList).foldl
    (decodeSegment (fun s => lib.hexDecode (pyReplace s " " "")) 10) decoded

/-- The set of texts that are searched. -/
def scanTexts (text : String) : List String :=
  let normalized := normalize lib text
  let decoded := attemptDecode lib normalized
  let leetNormalized := normalizeLeetspeak normalized
  [text] ++ (if decoded ≠ text then [decoded] else []) ++
    if leetNormalized ≠ text ∧ leetNormalized ≠ decoded then [leetNormalized] else []

/-! ## Matches -/

/-- Whether a text is in base64 as a whole: `[A-Za-z0-9+/]+=*`. -/
def isBase64Only (text : String) : Bool :=
  let cs := (pyStrip text).toList
  (cs.takeWhile isBase64 ≠ [] && (cs.dropWhile isBase64).all (· = '=')) && 16 ≤ cs.length

open PyArith PyNum

variable {F : Type*} [PyNum F]

/-- The score of a sign of obfuscation, added to a score. -/
def addObfuscation (score : F) (desc : String) : F :=
  let score := add score (lit (3 / 20))
  if contains desc "Zero-width" || contains desc "Control" then add score (lit (3 / 20)) else score

/-- The signs of obfuscation in a text, and their score. -/
def scanObfuscation (text : String) : List String × F :=
  (obfuscationPatterns lib.unicode).foldl (fun t p =>
    if p.1.search lib.unicode text then
      (t.1 ++ [s!"[OBFUSCATION] {p.2}"], addObfuscation t.2 p.2) else t)
    (if isBase64Only text then
      (["[OBFUSCATION] Base64-only string (possible obfuscated instructions)"],
        add (lit 0) (lit (1 / 4)))
    else ([], lit 0))

/-- Adding the patterns that are found in a text to the matches, if they are not among them. -/
def addMatches (prefixed : String → String) (patterns : List (Regex × String))
    («matches» : List String) (text : String) : List String :=
  patterns.foldl (fun ms p =>
    if p.1.search lib.unicode text ∧ prefixed p.2 ∉ ms then ms ++ [prefixed p.2] else ms) «matches»

def maliciousMatch (desc : String) : String := s!"[MALICIOUS] {desc}"

def suspiciousMatch (desc : String) : String := s!"[SUSPICIOUS] {desc}"

/-- Looking for the patterns in the texts. -/
def addAllMatches (texts : List String) («matches» : List String) : List String :=
  texts.foldl (fun ms text =>
    addMatches lib suspiciousMatch (suspiciousPatterns lib.unicode)
      (addMatches lib maliciousMatch (maliciousPatterns lib.unicode) ms text) text) «matches»

/-! ## The score -/

/-- The score for the numbers of malicious and suspicious patterns and of signs of obfuscation;
    `score` is the score of the latter. -/
def rate (score : F) (maliciousCount suspiciousCount obfuscationCount : ℕ) : F :=
  let score :=
    if 0 < maliciousCount then
      pyMin (add (lit (3 / 4)) (mul (lit ((maliciousCount : ℚ) - 1)) (lit (1 / 10)))) (lit 1)
    else if 3 ≤ suspiciousCount then lit (3 / 5)
    else if 1 ≤ suspiciousCount then add (lit (1 / 5)) (mul (lit suspiciousCount) (lit (3 / 20)))
    else if 2 ≤ obfuscationCount then lit (3 / 10)
    else score
  pyMin (add score (mul (lit obfuscationCount) (lit (1 / 20)))) (lit 1)

/-- The threat level of a score. -/
def threatOf (score : F) : ThreatLevel :=
  if le (lit (7 / 10)) score then .malicious
  else if le (lit (3 / 10)) score then .suspicious
  else .safe

/-- The number of matches of a kind. -/
def countMatches (kind : String) («matches» : List String) : ℕ :=
  «matches».countP fun m => startsWith m kind

/-- Scanning a text. -/
def scan (text : String) : InjectionResult F :=
  if text = "" ∨ text.length < 3 then ⟨.safe, [], lit 0, 0, ""⟩
  else
    let (obfuscations, score) := scanObfuscation (F := F) lib text
    let «matches» := addAllMatches lib (lib.setOrder (scanTexts lib text)) obfuscations
    let maliciousCount := countMatches "[MALICIOUS]" «matches»
    let suspiciousCount := countMatches "[SUSPICIOUS]" «matches»
    let obfuscationCount := countMatches "[OBFUSCATION]" «matches»
    let score := rate score maliciousCount suspiciousCount obfuscationCount
    { threatLevel := threatOf score
      «matches» := «matches»
      score := round score 3
      matchCount := List.length «matches»
      details := if «matches» ≠ [] then s!"{maliciousCount} malicious, {suspiciousCount} " ++
          s!"suspicious, {obfuscationCount} obfuscation patterns matched"
        else "No threats detected" }

/-- Whether a text is to be blocked, with the result of the scan. -/
def shouldBlock (blockOnMalicious : Bool) (text : String) : Bool × InjectionResult F :=
  let result := scan lib text
  (decide (result.threatLevel = .malicious) && blockOnMalicious, result)

end VibeShield.PromptInjectionDetector
