import VibeShield.Python.Value

/-!
# The library and the operating system

What the program calls but does not contain. `Python` are the functions of the
standard library whose results the proofs treat as given, `Os` is a file system
as a call finds it. Neither has laws: a theorem that relies on one has it as a
hypothesis.
-/

namespace VibeShield

/-- The functions of the standard library that are used without a definition. -/
structure Python where
  /-- `hashlib.sha256(s.encode()).hexdigest()`. -/
  sha256 : String → String
  /-- `json.dumps(v, sort_keys=True, separators=(",", ":"))`. -/
  dumps : PyVal → Except PyErr String
  /-- `json.loads(s)`. -/
  loads : String → Except PyErr PyVal
  /-- `str(v)`, also for the parts of an f-string. The limits of the interpreter on the depth of
      values and the digits of integers, at which it raises, are left out. -/
  str : PyVal → String
  /-- `s.lower()`. -/
  lower : String → String
  /-- `fnmatch.fnmatch(name, pattern)`. -/
  fnmatch : String → String → Bool

/-- `json.dumps` writes what JSON can express, if it is not nested too deep. -/
def Python.WritesJson (py : Python) : Prop :=
  ∀ v : PyVal, v.isJson 8 = true → ∃ text, py.dumps v = .ok text

/-- A file system. -/
structure Os where
  /-- `os.path.realpath`. -/
  realpath : String → Except PyErr String
  /-- `os.path.exists`. -/
  pathExists : String → Bool
  /-- The lines an iteration over the text file yields, and the exception that
      ends it early, if there is one; a file that cannot be opened has no lines. -/
  readLines : String → List String × Option PyErr

/-- `os.path.join` of two POSIX paths. -/
def pathJoin (base target : String) : String :=
  if startsWith target "/" then target
  else if base = "" ∨ base.toList.getLast? = some '/' then base ++ target
  else base ++ "/" ++ target

/-- `os.path.dirname` of a POSIX path. -/
def pathDirname (p : String) : String :=
  -- The head, up to the last slash, loses its slashes at the end unless it has no others.
  let head := p.toList.reverse.dropWhile (· ≠ '/')
  String.ofList (if head.all (· = '/') then head else head.dropWhile (· = '/')).reverse

example : pathDirname "/tmp/seccomp.json" = "/tmp" ∧ pathDirname "/a" = "/" := by decide

end VibeShield
