import Mathlib.Algebra.Order.Field.Basic
import Mathlib.Algebra.Order.Field.Rat
import VibeShield.Python.Value

/-!
# Arithmetic of floats

The operations on floats that the program uses (`PyArith`), without laws: what is
proved about a type with these operations holds of IEEE doubles. The rationals
are such a type, for exact arithmetic.
-/

namespace VibeShield

/-- A type of numbers that the program may compute with. -/
class PyArith (F : Type*) where
  /-- A literal. -/
  lit : ℚ → F
  sub : F → F → F
  mul : F → F → F
  div : F → F → F
  /-- `x ** n`, which raises if the result is out of range. -/
  pow : F → ℕ → Except PyErr F
  /-- `sum(xs)`. -/
  sum : List F → F
  /-- `round(x, n)`. -/
  round : F → ℕ → F
  /-- `x == 0`. -/
  isZero : F → Bool
  lt : F → F → Bool
  le : F → F → Bool

/-- What is not an integer when truncated. -/
inductive NonFinite
  | infinity
  | nan

/-- The exception raised for it. -/
def NonFinite.err : NonFinite → PyErr
  | infinity => ⟨.otherException "OverflowError", "cannot convert float infinity to integer"⟩
  | nan => ⟨.valueError, "cannot convert float NaN to integer"⟩

/-- Numbers that are compared in a linear order which subtraction respects. So are
    floats, except NaN. -/
class PyArith.Ordered (F : Type*) [PyArith F] [LinearOrder F] : Prop where
  lt_iff (x y : F) : PyArith.lt x y = true ↔ x < y
  sub_le_sub (x y z : F) : x ≤ y → PyArith.sub x z ≤ PyArith.sub y z

/-- Differences and literals are ordered like what they stand for. So are those of
    floats, except NaN. -/
class PyArith.Clock (F : Type*) [PyArith F] [LinearOrder F] : Prop
    extends PyArith.Ordered F where
  sub_le_sub_left (x y z : F) : x ≤ y → PyArith.sub z y ≤ PyArith.sub z x
  zero_le_sub (x y : F) : y ≤ x → PyArith.lit 0 ≤ PyArith.sub x y
  lit_le_lit (p q : ℚ) : p ≤ q → PyArith.lit (F := F) p ≤ PyArith.lit q

/-- The operations that the rate limiter and the detectors use besides. -/
class PyNum (F : Type*) extends PyArith F where
  add : F → F → F
  /-- `int(x)`. -/
  trunc : F → Except NonFinite ℤ

/-- The functions on floats that are used without a definition. -/
structure FloatLib (F : Type*) where
  /-- `math.log2`. -/
  log2 : F → F
  /-- The float with a number of decimals, as an f-string formats it. -/
  fixed : ℕ → F → String
  /-- The float as a percentage without decimals. -/
  percent : F → String
  /-- `str(x)`. -/
  str : F → String
  /-- The value of a float in a dictionary. -/
  value : F → PyFloat

/-- `min(x, y)`. -/
def pyMin {F : Type*} [PyArith F] (x y : F) : F := if PyArith.lt y x then y else x

/-- `max(x, y)`. -/
def pyMax {F : Type*} [PyArith F] (x y : F) : F := if PyArith.lt x y then y else x

section Order

variable {F : Type*} [PyArith F] [LinearOrder F] [PyArith.Ordered F]

theorem pyMin_eq_min (x y : F) : pyMin x y = min x y := by
  rw [pyMin]
  rcases lt_or_ge y x with h | h
  · rw [if_pos ((PyArith.Ordered.lt_iff y x).2 h), min_eq_right h.le]
  · rw [if_neg fun hlt => not_lt.2 h ((PyArith.Ordered.lt_iff y x).1 hlt), min_eq_left h]

theorem pyMax_eq_max (x y : F) : pyMax x y = max x y := by
  rw [pyMax]
  rcases lt_or_ge x y with h | h
  · rw [if_pos ((PyArith.Ordered.lt_iff x y).2 h), max_eq_right h.le]
  · rw [if_neg fun hlt => not_lt.2 h ((PyArith.Ordered.lt_iff x y).1 hlt), max_eq_left h]

end Order

/-- Rounding to an integer, halves to the even one. -/
def roundHalfEven (q : ℚ) : ℤ :=
  if q - q.floor < 1 / 2 then q.floor
  else if 1 / 2 < q - q.floor then q.floor + 1
  else if q.floor % 2 = 0 then q.floor else q.floor + 1

/-- Rounding does not cross an integer. -/
theorem le_roundHalfEven {n : ℤ} {q : ℚ} (h : n ≤ q) : n ≤ roundHalfEven q := by
  have hfloor : n ≤ q.floor := Rat.le_floor_iff.2 h
  rw [roundHalfEven]
  split
  · exact hfloor
  split
  · omega
  split <;> omega

theorem roundHalfEven_le {n : ℤ} {q : ℚ} (h : q ≤ n) : roundHalfEven q ≤ n := by
  rcases h.lt_or_eq with hlt | rfl
  · have hfloor : q.floor < n := Rat.floor_lt_iff.2 hlt
    rw [roundHalfEven]
    split
    · omega
    split
    · omega
    split <;> omega
  · rw [roundHalfEven, Rat.floor_intCast, sub_self, if_pos one_half_pos]

theorem floor_le_roundHalfEven (q : ℚ) : q.floor ≤ roundHalfEven q :=
  le_roundHalfEven (Rat.floor_le q)

theorem roundHalfEven_le_floor_add_one (q : ℚ) : roundHalfEven q ≤ q.floor + 1 :=
  roundHalfEven_le (Rat.lt_floor_add_one q).le

theorem roundHalfEven_mono {q q' : ℚ} (h : q ≤ q') : roundHalfEven q ≤ roundHalfEven q' := by
  have hfloor : q.floor ≤ q'.floor := Rat.le_floor_iff.2 ((Rat.floor_le q).trans h)
  rcases hfloor.lt_or_eq with hlt | heq
  · exact (roundHalfEven_le_floor_add_one q).trans (hlt.trans_le (floor_le_roundHalfEven q'))
  · -- The fractional parts are in order as well.
    have hfrac : q - q.floor ≤ q' - q.floor := sub_le_sub_right h _
    rw [roundHalfEven, roundHalfEven, ← heq]
    by_cases hdown : q - q.floor < 1 / 2
    · rw [if_pos hdown]
      split
      · exact le_refl _
      split
      · omega
      split <;> omega
    · rw [if_neg hdown, if_neg fun hdown' => hdown (hfrac.trans_lt hdown')]
      by_cases hup : 1 / 2 < q - q.floor
      · rw [if_pos hup, if_pos (hup.trans_le hfrac)]
      · rw [if_neg hup]
        by_cases hup' : 1 / 2 < q' - q.floor
        · rw [if_pos hup']
          split <;> omega
        · rw [if_neg hup']

/-- Exact arithmetic. -/
instance : PyArith ℚ where
  lit q := q
  sub x y := x - y
  mul x y := x * y
  div x y := x / y
  pow x n := .ok (x ^ n)
  sum xs := xs.sum
  round x n := roundHalfEven (x * 10 ^ n) / 10 ^ n
  isZero x := x = 0
  lt x y := x < y
  le x y := x ≤ y

@[simp] theorem PyArith.lit_rat (q : ℚ) : (lit q : ℚ) = q := rfl

instance : PyArith.Ordered ℚ where
  lt_iff _ _ := decide_eq_true_iff
  sub_le_sub _ _ z h := sub_le_sub_right h z

instance : PyArith.Clock ℚ where
  sub_le_sub_left _ _ z h := sub_le_sub_left h z
  zero_le_sub _ _ := sub_nonneg.2
  lit_le_lit _ _ := id

instance : PyNum ℚ where
  add x y := x + y
  trunc x := .ok (x.num.tdiv x.den)

end VibeShield
