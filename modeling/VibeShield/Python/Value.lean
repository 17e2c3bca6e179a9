import Mathlib.Data.Rat.Defs

/-!
# Python values

What the program stores and compares without knowing its type: the fields of an
audit entry, the values a JSON text stands for (`PyVal`), and the exceptions that
end a call (`PyErr`). A Python string is a `String`.

Numbers are compared as `==` does it: `True`, `1` and `1.0` are equal and, as
keys of a dictionary, one key (`PyVal.toInt?`).
-/

namespace VibeShield

/-! ## Exceptions -/

/-- The classes of exceptions that some `except` clause of the program tells apart. -/
inductive ExcClass
  | valueError
  /-- `json.JSONDecodeError`, a `ValueError`. -/
  | jsonDecodeError
  /-- `UnicodeDecodeError`, a `ValueError`. -/
  | unicodeDecodeError
  | typeError
  | attributeError
  | runtimeError
  | osError
  /-- Another subclass of `Exception`. -/
  | otherException (name : String)
  /-- A `BaseException` outside `Exception`, e.g. `KeyboardInterrupt`. -/
  | baseException (name : String)
deriving DecidableEq, Repr

/-- An exception: its class and its text. -/
structure PyErr where
  cls : ExcClass
  msg : String
deriving DecidableEq, Repr

/-- Whether `except Exception` catches it. -/
def PyErr.isException (e : PyErr) : Bool :=
  match e.cls with
  | .baseException _ => false
  | _ => true

/-- Whether `except ValueError` catches it. -/
def PyErr.isValueError (e : PyErr) : Bool :=
  match e.cls with
  | .valueError | .jsonDecodeError | .unicodeDecodeError => true
  | _ => false

/-! ## Values -/

/-- A float. The finite ones are rationals, except for the negative zero. -/
inductive PyFloat
  | fin (q : ℚ)
  | negZero
  | inf
  | negInf
  | nan
deriving DecidableEq, Repr

/-- A value: of one of the types JSON texts stand for, or an object of which only the
    representation is known. Such an object has no operations; tuples and bytes, which have some,
    are not modelled. A string holds no lone surrogates. -/
inductive PyVal
  | none
  | bool (b : Bool)
  | int (n : ℤ)
  | float (x : PyFloat)
  | str (s : String)
  | list (vs : List PyVal)
  | dict (items : List (PyVal × PyVal))
  | object (repr : String)

/-- The integer a float is equal to. -/
def PyFloat.toInt? : PyFloat → Option ℤ
  | .fin q => if q.den = 1 then some q.num else .none
  | .negZero => some 0
  | _ => .none

namespace PyVal

/-- The integer a value is equal to: `v == n` exactly if `v.toInt? = some n`. -/
def toInt? : PyVal → Option ℤ
  | bool b => some (if b then 1 else 0)
  | int n => some n
  | float x => x.toInt?
  | _ => .none

/-- The string a value is equal to. -/
def toStr? : PyVal → Option String
  | str s => some s
  | _ => .none

/-- `isinstance(v, dict)`. -/
def isDict : PyVal → Bool
  | dict _ => true
  | _ => false

@[simp] theorem toInt?_int (n : ℤ) : (int n).toInt? = some n := rfl

@[simp] theorem toStr?_str (s : String) : (str s).toStr? = some s := rfl

theorem toStr?_eq_some_iff {v : PyVal} {s : String} : v.toStr? = some s ↔ v = str s := by
  cases v <;> simp [toStr?]

/-- The truth value of `bool(v)`. -/
def truthy : PyVal → Bool
  | none => false
  | bool b => b
  | int n => n ≠ 0
  | float x => x.toInt? ≠ some 0
  | str s => s ≠ ""
  | list vs => !vs.isEmpty
  | dict items => !items.isEmpty
  | object _ => true

/-- Whether JSON can express the value, and it is nested at most `n` deep. -/
def isJson : ℕ → PyVal → Bool
  | _, none | _, bool _ | _, int _ | _, float _ | _, str _ => true
  | n + 1, list vs => vs.all (isJson n)
  | n + 1, dict items => items.all fun p => p.1.toStr?.isSome && isJson n p.2
  | _, _ => false

/-- The value of a dictionary at a string key, `d.get(key)`. -/
def dictGet? (items : List (PyVal × PyVal)) (key : String) : Option PyVal :=
  (items.find? fun p => p.1.toStr? = some key).map Prod.snd

theorem dictGet?_cons (k : String) (v : PyVal) (items : List (PyVal × PyVal))
    (key : String) :
    dictGet? ((.str k, v) :: items) key = if k = key then some v else dictGet? items key := by
  rw [dictGet?, dictGet?, List.find?_cons]
  by_cases h : k = key
  · simp [h, PyVal.toStr?]
  · simp [h, PyVal.toStr?]

/-- A JSON value: what JSON can express, where no key occurs twice. -/
inductive Json : PyVal → Prop
  | none : Json .none
  | bool (b : Bool) : Json (.bool b)
  | int (n : ℤ) : Json (.int n)
  | float (x : PyFloat) : Json (.float x)
  | str (s : String) : Json (.str s)
  | list (vs : List PyVal) (hvs : ∀ v ∈ vs, Json v) : Json (.list vs)
  | dict (items : List (PyVal × PyVal)) (hkeys : ∀ p ∈ items, ∃ k, p.1 = .str k)
      (hnodup : (items.map Prod.fst).Pairwise (· ≠ ·)) (hitems : ∀ p ∈ items, Json p.2) :
      Json (.dict items)

end PyVal

/-! ## Strings -/

/-- The characters `str.isspace` accepts. -/
def isPySpace (c : Char) : Bool :=
  c.toNat ∈ [9, 10, 11, 12, 13, 28, 29, 30, 31, 32, 133, 160, 5760, 8192, 8193, 8194, 8195, 8196,
    8197, 8198, 8199, 8200, 8201, 8202, 8232, 8233, 8239, 8287, 12288]

/-- `s.strip()`. -/
def pyStrip (s : String) : String :=
  String.ofList ((s.toList.dropWhile isPySpace).reverse.dropWhile isPySpace).reverse

/-- `part in s.split(sep)`, for a separator of one character. -/
def inSplit (part : String) (sep : Char) (s : String) : Bool :=
  part.toList ∈ s.toList.splitOn sep

/-- `s.startswith(p)`. -/
def startsWith (s p : String) : Bool := p.toList.isPrefixOf s.toList

/-- `sub in s`. -/
def contains (s sub : String) : Bool := s.toList.tails.any sub.toList.isPrefixOf

/-- `re.match(r"^…$", s)`, where the pattern between the anchors matches exactly the
    strings that `p` accepts: `$` also matches before a newline at the end. -/
def matchesLine (p : List Char → Bool) (s : String) : Bool :=
  p s.toList || (s.toList.getLast? = some '\n' && p s.toList.dropLast)

/-- `s[:n]`. -/
def slice (s : String) (n : ℕ) : String := String.ofList (s.toList.take n)

end VibeShield
