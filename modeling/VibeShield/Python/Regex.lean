import Mathlib.Data.Nat.Notation

/-!
# Regular expressions

The part of `re` that the detectors use: characters of a class, sequences,
alternatives, repetitions and word boundaries (`Regex`), and `re.search` as far as it tells
if there is a match (`Regex.search`). A match may take any of the ways in which its parts
can match, so it is computed as the list of all ends of a match (`Regex.ends`).

A match needs a number of characters (`minLength_le_of_search`), and certain ones
(`fits_of_search`).

With `(?i)`, a character is compared in all its cases (`ignoreCase`); among them are the
four letters outside ASCII that have a case in it.
-/

namespace VibeShield

/-- What the classes `\d` and `\b` refer to. -/
structure Unicode where
  /-- `c.isdecimal()`. -/
  isDecimal : Char → Bool
  /-- `c.isalnum()`. -/
  isAlnum : Char → Bool

/-- A character of a word. -/
def Unicode.isWord (u : Unicode) (c : Char) : Bool := u.isAlnum c || c = '_'

/-- A regular expression. -/
inductive Regex
  /-- A character of a class. -/
  | char (p : Char → Bool)
  /-- `\b`. -/
  | boundary
  | empty
  | seq (r s : Regex)
  | alt (r s : Regex)
  /-- At least `min` repetitions, and at most `max` ones if there is a bound. -/
  | rep (r : Regex) (min : ℕ) (max : Option ℕ)

namespace Regex

/-- A position in a text: the character before it, if any, and the rest of the text. -/
abbrev Pos : Type := Option Char × List Char

/-- Repeating a step `n` times. -/
def times (step : Pos → List Pos) : ℕ → Pos → List Pos
  | 0, p => [p]
  | n + 1, p => (step p).flatMap (times step n)

/-- Repeating a step up to `n` times, as long as it goes ahead. -/
def upTo (step : Pos → List Pos) : ℕ → Pos → List Pos
  | 0, p => [p]
  | n + 1, p => p :: ((step p).filter fun q => q.2.length < p.2.length).flatMap (upTo step n)

/-- The ends of all matches that start at a position. -/
def ends (u : Unicode) : Regex → Pos → List Pos
  | char p, (_, c :: cs) => if p c then [(some c, cs)] else []
  | char _, (_, []) => []
  | boundary, (b, cs) => if b.any u.isWord ≠ cs.head?.any u.isWord then [(b, cs)] else []
  | empty, p => [p]
  | seq r s, p => (ends u r p).flatMap (ends u s)
  | alt r s, p => ends u r p ++ ends u s p
  | rep r min max, p => (times (ends u r) min p).flatMap fun q =>
      -- Every further repetition takes a character.
      upTo (ends u r) (max.elim q.2.length (· - min)) q

/-- Whether there is a match from a position on. -/
def searchFrom (u : Unicode) (r : Regex) : Option Char → List Char → Bool
  | b, [] => !(ends u r (b, [])).isEmpty
  | b, c :: cs => !(ends u r (b, c :: cs)).isEmpty || searchFrom u r (some c) cs

/-- Whether `re.search(r, text)` finds a match. -/
def search (u : Unicode) (r : Regex) (text : String) : Bool := searchFrom u r none text.toList

/-! ## What a match needs -/

/-- The number of characters that a match has at least. -/
def minLength : Regex → ℕ
  | char _ => 1
  | boundary => 0
  | empty => 0
  | seq r s => r.minLength + s.minLength
  | alt r s => min r.minLength s.minLength
  | rep r n _ => n * r.minLength

/-- Whether some characters are enough for a match. -/
def fits (cs : List Char) : Regex → Bool
  | char p => cs.any p
  | boundary => true
  | empty => true
  | seq r s => r.fits cs && s.fits cs
  | alt r s => r.fits cs || s.fits cs
  | rep r n _ => n = 0 || r.fits cs

section Needs

variable {u : Unicode} {r : Regex} {p q : Pos} {step : Pos → List Pos} {n m : ℕ}

theorem suffix_of_mem_times (hstep : ∀ p, ∀ q ∈ step p, q.2 <:+ p.2) (h : q ∈ times step n p) :
    q.2 <:+ p.2 := by
  induction n generalizing p with
  | zero => exact List.mem_singleton.1 h ▸ List.suffix_refl _
  | succ n ih =>
    obtain ⟨t, ht, hq⟩ := List.mem_flatMap.1 h
    exact (ih hq).trans (hstep p t ht)

theorem suffix_of_mem_upTo (hstep : ∀ p, ∀ q ∈ step p, q.2 <:+ p.2) (h : q ∈ upTo step n p) :
    q.2 <:+ p.2 := by
  induction n generalizing p with
  | zero => exact List.mem_singleton.1 h ▸ List.suffix_refl _
  | succ n ih =>
    rcases List.mem_cons.1 h with rfl | h
    · exact List.suffix_refl _
    · obtain ⟨t, ht, hq⟩ := List.mem_flatMap.1 h
      exact (ih hq).trans (hstep p t (List.mem_filter.1 ht).1)

/-- A match takes characters from the front of the text. -/
theorem suffix_of_mem_ends (h : q ∈ ends u r p) : q.2 <:+ p.2 := by
  induction r generalizing p q with
  | char f =>
    obtain ⟨b, cs⟩ := p
    cases cs with
    | nil => cases h
    | cons c cs =>
      rw [ends] at h
      split at h
      · exact List.mem_singleton.1 h ▸ List.suffix_cons c cs
      · cases h
  | boundary =>
    rw [ends] at h
    split at h
    · exact List.mem_singleton.1 h ▸ List.suffix_refl _
    · cases h
  | empty => exact List.mem_singleton.1 h ▸ List.suffix_refl _
  | seq r s ihr ihs =>
    obtain ⟨t, ht, hq⟩ := List.mem_flatMap.1 h
    exact (ihs hq).trans (ihr ht)
  | alt r s ihr ihs =>
    rcases List.mem_append.1 h with h | h
    · exact ihr h
    · exact ihs h
  | rep r min max ih =>
    obtain ⟨t, ht, hq⟩ := List.mem_flatMap.1 h
    exact (suffix_of_mem_upTo (fun _ _ => ih) hq).trans (suffix_of_mem_times (fun _ _ => ih) ht)

theorem length_of_mem_times (hstep : ∀ p, ∀ q ∈ step p, q.2.length + m ≤ p.2.length)
    (h : q ∈ times step n p) : q.2.length + n * m ≤ p.2.length := by
  induction n generalizing p with
  | zero => exact List.mem_singleton.1 h ▸ by simp
  | succ n ih =>
    obtain ⟨t, ht, hq⟩ := List.mem_flatMap.1 h
    have hfirst := hstep p t ht
    have hrest := ih hq
    rw [Nat.succ_mul]
    omega

theorem length_of_mem_ends (h : q ∈ ends u r p) : q.2.length + r.minLength ≤ p.2.length := by
  induction r generalizing p q with
  | char f =>
    obtain ⟨b, cs⟩ := p
    cases cs with
    | nil => cases h
    | cons c cs =>
      rw [ends] at h
      split at h
      · exact List.mem_singleton.1 h ▸ Nat.le_refl _
      · cases h
  | boundary => exact (suffix_of_mem_ends h).length_le
  | empty => exact (suffix_of_mem_ends h).length_le
  | seq r s ihr ihs =>
    obtain ⟨t, ht, hq⟩ := List.mem_flatMap.1 h
    have hfirst := ihr ht
    have hsecond := ihs hq
    rw [minLength]
    omega
  | alt r s ihr ihs =>
    rw [minLength]
    rcases List.mem_append.1 h with h | h
    · have hlength := ihr h
      omega
    · have hlength := ihs h
      omega
  | rep r min max ih =>
    obtain ⟨t, ht, hq⟩ := List.mem_flatMap.1 h
    have htimes := length_of_mem_times (fun _ _ => ih) ht
    have hupTo := (suffix_of_mem_upTo (fun _ _ => suffix_of_mem_ends) hq).length_le
    rw [minLength]
    omega

theorem fits_of_mem_ends {cs : List Char} (h : q ∈ ends u r p) (hp : ∀ c ∈ p.2, c ∈ cs) :
    r.fits cs = true := by
  induction r generalizing p q with
  | char f =>
    obtain ⟨b, ds⟩ := p
    cases ds with
    | nil => cases h
    | cons c ds =>
      rw [ends] at h
      split at h
      · next hc => exact List.any_eq_true.2 ⟨c, hp c List.mem_cons_self, hc⟩
      · cases h
  | boundary => rfl
  | empty => rfl
  | seq r s ihr ihs =>
    obtain ⟨t, ht, hq⟩ := List.mem_flatMap.1 h
    have hsuffix := suffix_of_mem_ends ht
    rw [fits, ihr ht hp, ihs hq fun c hc => hp c (hsuffix.subset hc)]
    rfl
  | alt r s ihr ihs =>
    rw [fits, Bool.or_eq_true]
    rcases List.mem_append.1 h with h | h
    · exact .inl (ihr h hp)
    · exact .inr (ihs h hp)
  | rep r min max ih =>
    obtain ⟨t, ht, -⟩ := List.mem_flatMap.1 h
    rw [fits, Bool.or_eq_true]
    cases min with
    | zero => exact .inl rfl
    | succ n =>
      obtain ⟨t', ht', -⟩ := List.mem_flatMap.1 ht
      exact .inr (ih ht' hp)

theorem exists_of_searchFrom {b : Option Char} {cs : List Char} (h : searchFrom u r b cs = true) :
    ∃ p q, p.2 <:+ cs ∧ q ∈ ends u r p := by
  have hends {p : Pos} (hp : (!(ends u r p).isEmpty) = true) : ∃ q, q ∈ ends u r p := by
    rwa [Bool.not_eq_true', List.isEmpty_eq_false_iff_exists_mem] at hp
  induction cs generalizing b with
  | nil =>
    obtain ⟨q, hq⟩ := hends h
    exact ⟨_, q, List.suffix_refl _, hq⟩
  | cons c cs ih =>
    rw [searchFrom, Bool.or_eq_true] at h
    rcases h with h | h
    · obtain ⟨q, hq⟩ := hends h
      exact ⟨_, q, List.suffix_refl _, hq⟩
    · obtain ⟨p, q, hp, hq⟩ := ih h
      exact ⟨p, q, hp.trans (List.suffix_cons c cs), hq⟩

/-- A text in which a pattern is found is long enough for it. -/
theorem minLength_le_of_search {text : String} (h : search u r text = true) :
    r.minLength ≤ text.length := by
  obtain ⟨p, q, hp, hq⟩ := exists_of_searchFrom h
  have hlength := length_of_mem_ends hq
  have hsuffix := hp.length_le
  rw [String.length_toList] at hsuffix
  omega

/-- It has the characters that the pattern needs. -/
theorem fits_of_search {text : String} {cs : List Char} (h : search u r text = true)
    (hcs : ∀ c ∈ text.toList, c ∈ cs) : r.fits cs = true := by
  obtain ⟨p, q, hp, hq⟩ := exists_of_searchFrom h
  exact fits_of_mem_ends hq fun c hc => hcs c (hp.subset hc)

end Needs

/-! ## Notation of patterns -/

/-- A sequence. -/
def cat (rs : List Regex) : Regex := rs.foldr seq empty

/-- Alternatives, at least one. -/
def alts (r : Regex) (rs : List Regex) : Regex := rs.foldl alt r

/-- `r?`. -/
def opt (r : Regex) : Regex := rep r 0 (some 1)

/-- `r*`. -/
def star (r : Regex) : Regex := rep r 0 none

/-- `r{n,}`. -/
def atLeast (n : ℕ) (r : Regex) : Regex := rep r n none

/-- `r{n}`. -/
def exactly (n : ℕ) (r : Regex) : Regex := rep r n (some n)

/-- The characters of `s`, one after the other. -/
def lit (s : String) : Regex := cat (s.toList.map fun c => char (· = c))

end Regex

/-- A class of characters, and some others. -/
def orOneOf (p : Char → Bool) (others : String) (c : Char) : Bool := p c || c ∈ others.toList

/-- A class of ASCII characters with `(?i)`. -/
def ignoreCase (p : Char → Bool) (c : Char) : Bool :=
  p c || p c.toLower || p c.toUpper ||
    (c ∈ ['\u0130', '\u0131'] && (p 'i' || p 'I')) || (c = '\u017f' && (p 's' || p 'S')) ||
    (c = '\u212a' && (p 'k' || p 'K'))

/-- The characters of `s` with `(?i)`. -/
def Regex.ilit (s : String) : Regex := cat (s.toList.map fun c => char (ignoreCase (· = c)))

end VibeShield
