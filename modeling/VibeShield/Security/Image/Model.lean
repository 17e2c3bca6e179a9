import VibeShield.Lib.PyDict
import VibeShield.Python.Runtime

/-!
# The image verifier

The verifier keeps a manifest for every image that is trusted (`ImageVerifier.addTrusted`,
`ImageVerifier.removeTrusted`) and checks a reference to an image against them
(`ImageVerifier.verify`): its digest, and its signature, if the verifier requires one.

The tools it runs for that, podman and cosign, answer as they like. A verification records
which of them it ran and what they answered (`ToolRun`).
-/

namespace VibeShield

/-- The status of a verification. -/
inductive VerificationStatus
  | verified
  | digestMismatch
  | signatureInvalid
  | cosignUnavailable
  | imageNotFound
  | unknown
deriving DecidableEq, Repr

/-- A trusted image. -/
structure ImageManifest where
  name : String
  pinnedDigest : String
  cosignKey : Option String := none
  allowedArchitectures : List String := ["linux/amd64", "linux/arm64"]

/-- The result of a verification. -/
structure VerificationResult where
  status : VerificationStatus
  image : String
  digest : String
  expectedDigest : String
  details : String := ""

/-! ## Tools -/

/-- A tool that the verifier runs, with its arguments. -/
inductive ImageTool
  /-- `podman image inspect imageRef --format "{{.Digest}}"`. -/
  | inspect (imageRef : String)
  /-- `cosign verify --key publicKey imageRef`. -/
  | cosign (publicKey imageRef : String)
deriving DecidableEq

/-- What comes of running a tool. -/
inductive ToolAnswer
  | exit (returncode : ℤ) (stdout : String)
  /-- The tool is not installed: `FileNotFoundError`. -/
  | notFound
  /-- Another exception. -/
  | failed (err : PyErr)

/-- A tool that was run, and its answer. -/
structure ToolRun where
  tool : ImageTool
  answer : ToolAnswer

/-- A computation that runs tools. -/
abbrev ToolM := EStateM PyErr (List ToolRun)

/-- Running a tool that answers what `tools` says. -/
def runTool (tools : ImageTool → ToolAnswer) (tool : ImageTool) : ToolM ToolAnswer := do
  modify (· ++ [⟨tool, tools tool⟩])
  return tools tool

/-- The digest that podman reports. -/
def ToolAnswer.digest? : ToolAnswer → Option String
  | exit returncode stdout =>
    if returncode = 0 ∧ pyStrip stdout ≠ "" then some (pyStrip stdout) else none
  | notFound | failed _ => none

/-! ## References -/

/-- What is left of a text without the matches of `[:@].*`; `inMatch` tells whether one is
    going on, which ends before a newline. -/
def subRef (inMatch : Bool) : List Char → List Char
  | [] => []
  | c :: cs =>
    if inMatch ∧ c ≠ '\n' then subRef true cs
    else if c = ':' ∨ c = '@' then subRef true cs
    else c :: subRef false cs

/-- `re.sub(r"[:@].*", "", imageRef)`. -/
def strippedName (imageRef : String) : String := String.ofList (subRef false imageRef.toList)

/-- `imageRef.split("@")[1]`, for a reference with an `@`. -/
def providedDigest (imageRef : String) : String :=
  String.ofList ((imageRef.toList.dropWhile (· ≠ '@')).tail.takeWhile (· ≠ '@'))

/-! ## The verifier -/

/-- The image verifier. -/
structure ImageVerifier where
  trusted : PyDict String ImageManifest
  requireSignature : Bool

namespace ImageVerifier

/-- The verifier at first. -/
def new (requireSignature : Bool) : ImageVerifier := ⟨PyDict.empty, requireSignature⟩

/-- Adding a trusted image with a pinned digest. -/
def addTrusted (v : ImageVerifier) (name digest : String) (cosignKey : Option String)
    (allowedArchitectures : Option (List String)) : ImageVerifier :=
  let manifest : ImageManifest :=
    { name := name
      pinnedDigest := digest
      cosignKey := cosignKey
      allowedArchitectures := allowedArchitectures.getD ["linux/amd64", "linux/arm64"] }
  { v with trusted := v.trusted.set name manifest }

/-- Removing a trusted image. -/
def removeTrusted (v : ImageVerifier) (name : String) : ImageVerifier :=
  { v with trusted := v.trusted.erase name }

variable (tools : ImageTool → ToolAnswer)

/-- The digest of an image, as podman reports it. -/
def inspectDigest (imageRef : String) : ToolM (Option String) := do
  match ← runTool tools (.inspect imageRef) with
  | .failed err => if err.isException then return none else throw err
  | answer => return answer.digest?

/-- Verifying the signature of an image. -/
def verifyCosign (imageRef publicKey : String) : ToolM VerificationStatus := do
  match ← runTool tools (.cosign publicKey imageRef) with
  | .exit returncode _ => return if returncode = 0 then .verified else .signatureInvalid
  | .notFound => return .cosignUnavailable
  | .failed err => if err.isException then return .unknown else throw err

/-- The last steps of `verify`: the signature, if it has to be checked, and the result. -/
def verifySignature (v : ImageVerifier) (imageRef : String) (manifest : ImageManifest)
    (actualDigest : String) : ToolM VerificationResult := do
  let refused (sigResult : VerificationStatus) : VerificationResult :=
    { status := sigResult
      image := imageRef
      digest := actualDigest
      expectedDigest := manifest.pinnedDigest
      details := "Cosign signature verification failed" }
  let verified : VerificationResult :=
    { status := .verified
      image := imageRef
      digest := actualDigest
      expectedDigest := manifest.pinnedDigest
      details := "Image integrity verified" }
  let publicKey := manifest.cosignKey.getD ""
  if publicKey ≠ "" ∧ v.requireSignature then
    let sigResult ← verifyCosign tools imageRef publicKey
    if sigResult ≠ .verified then return refused sigResult else return verified
  else return verified

/-- Verifying a reference to an image against the manifests. -/
def verify (v : ImageVerifier) (imageRef : String) : ToolM VerificationResult := do
  match v.trusted.get? (strippedName imageRef) with
  | none =>
    return {
      status := .imageNotFound
      image := imageRef
      digest := ""
      expectedDigest := ""
      details := s!"Image '{strippedName imageRef}' is not in the trusted manifest" }
  | some manifest =>
    if '@' ∈ imageRef.toList then
      if providedDigest imageRef ≠ manifest.pinnedDigest then
        return {
          status := .digestMismatch
          image := imageRef
          digest := providedDigest imageRef
          expectedDigest := manifest.pinnedDigest
          details := "Provided digest does not match pinned digest" }
      else verifySignature tools v imageRef manifest (providedDigest imageRef)
    else
      match ← inspectDigest tools imageRef with
      | none =>
        return {
          status := .imageNotFound
          image := imageRef
          digest := ""
          expectedDigest := manifest.pinnedDigest
          details := "Could not inspect image digest" }
      | some actualDigest =>
        if actualDigest ≠ manifest.pinnedDigest then
          return {
            status := .digestMismatch
            image := imageRef
            digest := actualDigest
            expectedDigest := manifest.pinnedDigest
            details := "Image digest does not match pinned digest — possible tampering" }
        else verifySignature tools v imageRef manifest actualDigest

end ImageVerifier

/-! ## Calls -/

/-- A call that changes which images are trusted. -/
inductive TrustCall
  | add (name digest : String) (cosignKey : Option String)
      (allowedArchitectures : Option (List String))
  | remove (name : String)

namespace TrustCall

/-- The image that a call is about. -/
def name : TrustCall → String
  | add name _ _ _ => name
  | remove name => name

/-- The verifier after a call. -/
def exec (v : ImageVerifier) : TrustCall → ImageVerifier
  | add name digest cosignKey archs => v.addTrusted name digest cosignKey archs
  | remove name => v.removeTrusted name

/-- The verifier after a list of calls. -/
def execAll (requireSignature : Bool) (calls : List TrustCall) : ImageVerifier :=
  calls.foldl exec (ImageVerifier.new requireSignature)

end TrustCall

end VibeShield
