import Mathlib.Data.List.Nodup
import Mathlib.Data.Set.Function
import VibeShield.Python.Runtime

/-!
# JSON texts of plain values

`jsonText` writes `None`, booleans, integers, floats without fraction, strings of
printable ASCII characters that need no escape, lists, and dictionaries with such
strings as keys, as `json.dumps` does with sorted keys and without blanks, and `jsonLine`
writes them as it does by default. On other values they are not defined. The characters of
such a text are printable (`printable_jsonLine`). `Python.plain` is the library with the
first encoder and a table of digests, to run the program on concrete values.
-/

namespace VibeShield

/-- The text of a string without characters that have to be escaped. -/
def jsonString (s : String) : Option String :=
  if s.toList.all fun c => 32 ≤ c.toNat ∧ c.toNat < 127 ∧ c ≠ '\"' ∧ c ≠ '\\' then
    some ("\"" ++ s ++ "\"")
  else none

/-- Inserting a key and the text of its pair, in the order of the keys. -/
def insertKey (p : String × String) : List (String × String) → List (String × String)
  | [] => [p]
  | q :: l => if p.1.toList < q.1.toList then p :: q :: l else q :: insertKey p l

/-- The text of a dictionary, given its keys and the texts of its pairs. -/
def jsonObject (ps : List (String × String)) : String :=
  "\x7b" ++ String.intercalate "," ((ps.foldr insertKey []).map Prod.snd) ++ "\x7d"

mutual

/-- The text of a value. -/
def jsonText : PyVal → Option String
  | .none => some "null"
  | .bool b => some (if b then "true" else "false")
  | .int n => some (toString n)
  | .float (.fin q) =>
    if q.den = 1 ∧ q.num.natAbs < 10000000000000000 then some (toString q.num ++ ".0") else none
  | .float _ => none
  | .str s => jsonString s
  | .list vs => (jsonTexts vs).map fun ts => "[" ++ String.intercalate "," ts ++ "]"
  | .dict items => (jsonPairs items).map jsonObject
  | .object _ => none

/-- The texts of the values of a list. -/
def jsonTexts : List PyVal → Option (List String)
  | [] => some []
  | v :: vs => do return (← jsonText v) :: (← jsonTexts vs)

/-- The keys of a dictionary and the texts of its pairs. -/
def jsonPairs : List (PyVal × PyVal) → Option (List (String × String))
  | [] => some []
  | (.str k, v) :: ps => do
    return (k, (← jsonString k) ++ ":" ++ (← jsonText v)) :: (← jsonPairs ps)
  | _ :: _ => none

end

mutual

/-- The text of a value with the keys in their order, and with blanks. -/
def jsonLine : PyVal → Option String
  | .list vs => (jsonLines vs).map fun ts => "[" ++ String.intercalate ", " ts ++ "]"
  | .dict items =>
    (jsonLinePairs items).map fun ts => "\x7b" ++ String.intercalate ", " ts ++ "\x7d"
  | v => jsonText v

/-- The texts of the values of a list. -/
def jsonLines : List PyVal → Option (List String)
  | [] => some []
  | v :: vs => do return (← jsonLine v) :: (← jsonLines vs)

/-- The texts of the pairs of a dictionary. -/
def jsonLinePairs : List (PyVal × PyVal) → Option (List String)
  | [] => some []
  | (.str k, v) :: ps => do
    return ((← jsonString k) ++ ": " ++ (← jsonLine v)) :: (← jsonLinePairs ps)
  | _ :: _ => none

end

/-- The text of a dictionary opens with a brace. -/
theorem head?_jsonText_dict {items : List (PyVal × PyVal)} {t : String}
    (h : jsonText (.dict items) = some t) : t.toList.head? = some '{' := by
  rw [jsonText, Option.map_eq_some_iff] at h
  obtain ⟨ps, _, rfl⟩ := h
  simp [jsonObject]

/-- `json.dumps`, which raises on a value without a text. -/
def jsonDumps (v : PyVal) : Except PyErr String :=
  match jsonText v with
  | some t => .ok t
  | none => .error ⟨.typeError, "Object is not JSON serializable"⟩

theorem jsonDumps_eq_ok {v : PyVal} {t : String} : jsonDumps v = .ok t ↔ jsonText v = some t := by
  rw [jsonDumps]
  cases jsonText v with
  | none => exact ⟨fun h => absurd h nofun, fun h => absurd h nofun⟩
  | some u =>
    exact ⟨fun h => congrArg some (Except.ok.inj h), fun h => congrArg _ (Option.some.inj h)⟩

theorem isSome_jsonPairs_cons (k : String) (v : PyVal) (ps : List (PyVal × PyVal)) :
    (jsonPairs ((.str k, v) :: ps)).isSome =
      ((jsonString k).isSome && (jsonText v).isSome && (jsonPairs ps).isSome) := by
  rw [jsonPairs]
  cases jsonString k with
  | none => rfl
  | some key =>
    cases jsonText v with
    | none => rfl
    | some t => cases jsonPairs ps <;> rfl

theorem isSome_jsonLinePairs_cons (k : String) (v : PyVal) (ps : List (PyVal × PyVal)) :
    (jsonLinePairs ((.str k, v) :: ps)).isSome =
      ((jsonString k).isSome && (jsonLine v).isSome && (jsonLinePairs ps).isSome) := by
  rw [jsonLinePairs]
  cases jsonString k with
  | none => rfl
  | some key =>
    cases jsonLine v with
    | none => rfl
    | some t => cases jsonLinePairs ps <;> rfl

/-! ## The characters of a text -/

/-- All characters are ASCII and none is a control character. -/
def Printable (s : String) : Prop := ∀ c ∈ s.toList, 32 ≤ c.toNat ∧ c.toNat < 127

instance (s : String) : Decidable (Printable s) := List.decidableBAll _ _

theorem Printable.append {s t : String} (hs : Printable s) (ht : Printable t) :
    Printable (s ++ t) := by
  intro c hc
  rw [String.toList_append] at hc
  exact (List.mem_append.1 hc).elim (hs c) (ht c)

theorem Printable.intercalate {sep : String} (hsep : Printable sep) {ts : List String}
    (hts : ∀ t ∈ ts, Printable t) : Printable (String.intercalate sep ts) := by
  induction ts with
  | nil => exact fun c hc => absurd hc List.not_mem_nil
  | cons t ts ih =>
    rw [List.forall_mem_cons] at hts
    cases ts with
    | nil =>
      rw [String.intercalate_singleton]
      exact hts.1
    | cons u us =>
      rw [String.intercalate_cons_cons]
      exact (hts.1.append hsep).append (ih hts.2)

theorem printable_quote : Printable "\"" := by
  decide

theorem jsonString_eq_some {s t : String} (h : jsonString s = some t) :
    Printable s ∧ t = "\"" ++ s ++ "\"" := by
  rw [jsonString] at h
  split_ifs at h with hs
  refine ⟨fun c hc => ?_, (Option.some.inj h).symm⟩
  have hc := List.all_eq_true.1 hs c hc
  simp only [decide_eq_true_eq] at hc
  exact ⟨hc.1, hc.2.1⟩

theorem printable_toString (n : ℤ) : Printable (toString n) := by
  have hnat (m : ℕ) : Printable m.repr := by
    intro c hc
    rw [Nat.repr, String.toList_ofList] at hc
    have hdigit := Nat.isDigit_of_mem_toDigits (by decide) (by decide) hc
    rw [Char.isDigit] at hdigit
    simp only [Bool.and_eq_true, decide_eq_true_eq] at hdigit
    have h₁ : 48 ≤ c.toNat := hdigit.1
    have h₂ : c.toNat ≤ 57 := hdigit.2
    omega
  rw [Int.toString_eq_repr]
  cases n with
  | ofNat m => exact hnat m
  | negSucc m => exact Printable.append (by decide) (hnat _)

mutual

/-- The text of a value is printable. -/
theorem printable_jsonLine : ∀ (v : PyVal) {t : String}, jsonLine v = some t → Printable t
  | .none, t, h => by
    obtain rfl := Option.some.inj h
    decide
  | .bool b, t, h => by
    obtain rfl := Option.some.inj h
    cases b <;> decide
  | .int n, t, h => by
    obtain rfl := Option.some.inj h
    exact printable_toString n
  | .float x, t, h => by
    change jsonText (.float x) = some t at h
    cases x with
    | fin q =>
      rw [jsonText] at h
      split_ifs at h
      obtain rfl := Option.some.inj h
      exact (printable_toString q.num).append (by decide)
    | negZero => exact absurd h nofun
    | inf => exact absurd h nofun
    | negInf => exact absurd h nofun
    | nan => exact absurd h nofun
  | .str s, t, h => by
    obtain ⟨hs, rfl⟩ := jsonString_eq_some h
    exact (printable_quote.append hs).append printable_quote
  | .list vs, t, h => by
    rw [jsonLine, Option.map_eq_some_iff] at h
    obtain ⟨ts, hts, rfl⟩ := h
    exact (Printable.append (by decide)
      (.intercalate (by decide) (printable_jsonLines vs hts))).append (by decide)
  | .dict items, t, h => by
    rw [jsonLine, Option.map_eq_some_iff] at h
    obtain ⟨ts, hts, rfl⟩ := h
    exact (Printable.append (by decide)
      (.intercalate (by decide) (printable_jsonLinePairs items hts))).append (by decide)
  | .object r, t, h => absurd h nofun

theorem printable_jsonLines : ∀ (vs : List PyVal) {ts : List String}, jsonLines vs = some ts →
    ∀ t ∈ ts, Printable t
  | [], ts, h => by
    obtain rfl := Option.some.inj h
    exact fun t ht => absurd ht List.not_mem_nil
  | v :: vs, ts, h => by
    simp only [jsonLines, Option.bind_eq_bind, Option.bind_eq_some_iff, Option.pure_def,
      Option.some.injEq] at h
    obtain ⟨t, ht, ts, hts, rfl⟩ := h
    exact List.forall_mem_cons.2 ⟨printable_jsonLine v ht, printable_jsonLines vs hts⟩

theorem printable_jsonLinePairs : ∀ (items : List (PyVal × PyVal)) {ts : List String},
    jsonLinePairs items = some ts → ∀ t ∈ ts, Printable t
  | [], ts, h => by
    obtain rfl := Option.some.inj h
    exact fun t ht => absurd ht List.not_mem_nil
  | (.str k, v) :: ps, ts, h => by
    simp only [jsonLinePairs, Option.bind_eq_bind, Option.bind_eq_some_iff, Option.pure_def,
      Option.some.injEq] at h
    obtain ⟨key, hkey, t, ht, ts, hts, rfl⟩ := h
    obtain ⟨hk, rfl⟩ := jsonString_eq_some hkey
    have hquoted := (printable_quote.append hk).append printable_quote
    refine List.forall_mem_cons.2 ⟨?_, printable_jsonLinePairs ps hts⟩
    exact (hquoted.append (by decide)).append (printable_jsonLine v ht)

end

/-- Parsing the texts of the values `vs`. -/
def Sample.parseLine (vs : List PyVal) (text : String) : Except PyErr PyVal :=
  match vs.find? fun v => jsonLine v = some text with
  | some v => .ok v
  | none => .error ⟨.jsonDecodeError, "Expecting value"⟩

/-- Matching a name with a pattern of letters, `*` and `?`. -/
def globMatch : List Char → List Char → Bool
  | [], name => name.isEmpty
  | '*' :: pattern, name => name.tails.any (globMatch pattern)
  | '?' :: pattern, name => !name.isEmpty && globMatch pattern name.tail
  | c :: pattern, name => name.head? = some c && globMatch pattern name.tail

namespace Python

/-- The library on plain values, ASCII strings and patterns without brackets:
    `digests` lists the hashes of the strings that are hashed, and `zero` is the
    hash of any other string. -/
def plain (digests : List (String × String)) (zero : String) : Python where
  sha256 s := (digests.lookup s).getD zero
  dumps := jsonDumps
  loads _ := .error ⟨.jsonDecodeError, "Expecting value"⟩
  str v := (jsonText v).getD ""
  lower s := String.ofList (s.toList.map Char.toLower)
  fnmatch name pattern := globMatch pattern.toList name.toList

variable {digests : List (String × String)} {zero : String}

/-- The hash of a string of the table is in the table, too. -/
theorem sha256_plain_of_mem {t : String} (ht : t ∈ digests.map Prod.fst) :
    (t, (plain digests zero).sha256 t) ∈ digests := by
  change (t, (digests.lookup t).getD zero) ∈ digests
  cases h : digests.lookup t with
  | none =>
    obtain ⟨p, hp, rfl⟩ := List.mem_map.1 ht
    exact absurd (List.lookup_eq_none_iff.1 h p hp) (by simp)
  | some d =>
    obtain ⟨ps, qs, hdigests, _⟩ := List.lookup_eq_some_iff.1 h
    rw [hdigests]
    simp

/-- If the table lists no hash twice, it has no collisions. -/
theorem injOn_plain (hnodup : (digests.map Prod.snd).Nodup) :
    Set.InjOn (plain digests zero).sha256 {t | t ∈ digests.map Prod.fst} := fun _ ht _ hu h =>
  congrArg Prod.fst (List.inj_on_of_nodup_map hnodup (sha256_plain_of_mem ht)
    (sha256_plain_of_mem hu) h)

/-- A hash is in the table or the one of the strings that are not. -/
theorem sha256_plain_mem (t : String) :
    (plain digests zero).sha256 t ∈ zero :: digests.map Prod.snd := by
  by_cases ht : t ∈ digests.map Prod.fst
  · exact .tail _ (List.mem_map.2 ⟨_, sha256_plain_of_mem ht, rfl⟩)
  · change (digests.lookup t).getD zero ∈ _
    rw [List.lookup_eq_none_iff.2 fun p hp => ?_]
    · exact List.mem_cons_self
    · rw [bne_iff_ne]
      rintro rfl
      exact ht (List.mem_map_of_mem hp)

end Python

end VibeShield
