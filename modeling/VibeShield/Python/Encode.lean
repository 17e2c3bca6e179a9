import Mathlib.Data.Nat.Notation

/-!
# Texts in ASCII

`jsonQuote` writes a string as `json.dumps` does, which escapes what is not
printable ASCII, and `b64encode` is `base64.b64encode`.
-/

namespace VibeShield

/-- The four hexadecimal digits of a number. -/
def hex4 (n : ℕ) : List Char :=
  [Nat.digitChar (n / 4096 % 16), Nat.digitChar (n / 256 % 16), Nat.digitChar (n / 16 % 16),
    Nat.digitChar (n % 16)]

/-- A character in a JSON string; one outside the basic plane is written as two
    surrogates. -/
def jsonEscape (c : Char) : List Char :=
  match c with
  | '\"' => ['\\', '\"']
  | '\\' => ['\\', '\\']
  | '\n' => ['\\', 'n']
  | '\r' => ['\\', 'r']
  | '\t' => ['\\', 't']
  | '\x0c' => ['\\', 'f']
  | '\x08' => ['\\', 'b']
  | c =>
    let n := c.toNat
    if 32 ≤ n ∧ n < 127 then [c]
    else if n < 0x10000 then '\\' :: 'u' :: hex4 n
    else
      '\\' :: 'u' :: hex4 (0xd800 + (n - 0x10000) / 0x400) ++
        '\\' :: 'u' :: hex4 (0xdc00 + (n - 0x10000) % 0x400)

/-- `json.dumps(s)`. -/
def jsonQuote (s : String) : String :=
  "\"" ++ String.ofList (s.toList.flatMap jsonEscape) ++ "\""

/-! ## Base64 -/

/-- The alphabet. -/
def b64Alphabet : String := "ABCDEFGHIJKLMNOPQRSTUVWXYZabcdefghijklmnopqrstuvwxyz0123456789+/"

/-- The character that stands for six bits. -/
def b64Char (n : ℕ) : Char := b64Alphabet.toList.getD n '='

/-- `base64.b64encode(bs).decode()`: three bytes at a time. -/
def b64encode : List UInt8 → List Char
  | a :: b :: c :: bs =>
    b64Char (a.toNat / 4) :: b64Char (a.toNat % 4 * 16 + b.toNat / 16) ::
      b64Char (b.toNat % 16 * 4 + c.toNat / 64) :: b64Char (c.toNat % 64) :: b64encode bs
  | [a, b] => [b64Char (a.toNat / 4), b64Char (a.toNat % 4 * 16 + b.toNat / 16),
      b64Char (b.toNat % 16 * 4), '=']
  | [a] => [b64Char (a.toNat / 4), b64Char (a.toNat % 4 * 16), '=', '=']
  | [] => []

theorem b64Char_mem (n : ℕ) : b64Char n ∈ '=' :: b64Alphabet.toList := by
  rw [b64Char, List.getD_eq_getElem?_getD]
  cases h : b64Alphabet.toList[n]? with
  | none => exact List.mem_cons_self
  | some c => exact .tail _ (List.mem_of_getElem? h)

/-- Nothing but the alphabet and the padding occurs. -/
theorem mem_b64encode {bs : List UInt8} {c : Char} (hc : c ∈ b64encode bs) :
    c ∈ '=' :: b64Alphabet.toList := by
  induction bs using b64encode.induct with
  | case1 a b d bs ih =>
    simp only [b64encode, List.mem_cons (a := c)] at hc
    rcases hc with rfl | rfl | rfl | rfl | hc
    · exact b64Char_mem _
    · exact b64Char_mem _
    · exact b64Char_mem _
    · exact b64Char_mem _
    · exact ih hc
  | case2 a b =>
    simp only [b64encode, List.mem_cons (a := c), List.not_mem_nil, or_false] at hc
    rcases hc with rfl | rfl | rfl | rfl
    · exact b64Char_mem _
    · exact b64Char_mem _
    · exact b64Char_mem _
    · exact List.mem_cons_self
  | case3 a =>
    simp only [b64encode, List.mem_cons (a := c), List.not_mem_nil, or_false] at hc
    rcases hc with rfl | rfl | rfl | rfl
    · exact b64Char_mem _
    · exact b64Char_mem _
    · exact List.mem_cons_self
    · exact List.mem_cons_self
  | case4 => exact absurd hc List.not_mem_nil

example : String.ofList (b64encode [77, 97]) = "TWE=" := by decide

end VibeShield
