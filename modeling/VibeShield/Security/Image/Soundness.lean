import Mathlib.Data.List.Induction
import Mathlib.Data.List.TakeWhile
import VibeShield.Lib.Trace
import VibeShield.Security.Image.Model

/-!
# What a verified image has passed

A verification succeeds exactly if the manifest of the stripped name pins the digest that is
provided or inspected, and the signature is not checked or valid
(`ImageVerifier.verifies_iff`). What a verified image should have passed is `Justified`: the
manifest in force for the name of the image (`imageName`) pins the whole digest, and cosign
has verified the signature if one is required.

The two differ if signatures are required and the manifest has no key, if the reference has
a second `@`, behind which the digest goes on, and if the stripped name is not that of the
image, since a registry with a port contains a colon (`verify_justified_iff`).
-/

namespace VibeShield

/-! ## References -/

/-- The name in a reference: the text before the digest, and before the tag. The colon of a
    tag has no slash behind it, the one of a port has. -/
def nameChars : List Char → List Char
  | [] => []
  | c :: cs =>
    if c = '@' ∨ c = ':' ∧ '/' ∉ cs.takeWhile (· ≠ '@') then [] else c :: nameChars cs

/-- The name of the image that a reference is about. -/
def imageName (imageRef : String) : String := String.ofList (nameChars imageRef.toList)

/-- The text after the first `@`. -/
def digestText (imageRef : String) : String :=
  String.ofList (imageRef.toList.dropWhile (· ≠ '@')).tail

example : imageName "host:5000/base:1.0@sha256:abc" = "host:5000/base" ∧
    strippedName "host:5000/base:1.0@sha256:abc" = "host" := by decide

theorem notMem_tail_dropWhile_iff (l : List Char) :
    '@' ∉ (l.dropWhile (· ≠ '@')).tail ↔ l.count '@' ≤ 1 := by
  induction l with
  | nil => simp
  | cons c l ih =>
    by_cases hc : c = '@'
    · simp [hc, List.count_eq_zero]
    · rw [List.dropWhile_cons_of_pos (by simpa using hc), List.count_cons_of_ne hc, ih]

/-- What is provided as the digest is all of it if there is no second `@`. -/
theorem digestText_eq_iff (imageRef : String) :
    digestText imageRef = providedDigest imageRef ↔ imageRef.toList.count '@' ≤ 1 := by
  rw [digestText, providedDigest, String.ofList_inj, eq_comm,
    List.takeWhile_eq_self_iff, ← notMem_tail_dropWhile_iff]
  constructor
  · intro h hmem
    simpa using h '@' hmem
  · intro h c hc
    simp only [decide_eq_true_eq, ne_eq]
    rintro rfl
    exact h hc

/-! ## Manifests -/

/-- The manifest is in force for the name: the last call about it added it. -/
def InForce (calls : List TrustCall) (name : String) (manifest : ImageManifest) : Prop :=
  ∃ before digest cosignKey archs after,
    calls = before ++ .add name digest cosignKey archs :: after ∧
    (∀ c ∈ after, c.name ≠ name) ∧
    manifest = ⟨name, digest, cosignKey, archs.getD ["linux/amd64", "linux/arm64"]⟩

/-- A call changes what is trusted under its own name only. -/
theorem TrustCall.get?_exec (v : ImageVerifier) (c : TrustCall) {name : String}
    (h : c.name ≠ name) : (c.exec v).trusted.get? name = v.trusted.get? name := by
  cases c with
  | add n digest cosignKey archs => exact (PyDict.get?_set ..).trans (if_neg h.symm)
  | remove n => exact (PyDict.get?_erase ..).trans (if_neg h.symm)

theorem inForce_concat {calls : List TrustCall} {c : TrustCall} {name : String}
    {manifest : ImageManifest} :
    InForce (calls ++ [c]) name manifest ↔
      (c.name ≠ name ∧ InForce calls name manifest) ∨
      ∃ digest cosignKey archs, c = .add name digest cosignKey archs ∧
        manifest = ⟨name, digest, cosignKey, archs.getD ["linux/amd64", "linux/arm64"]⟩ := by
  constructor
  · rintro ⟨before, digest, cosignKey, archs, after, hcalls, hafter, hmanifest⟩
    rcases List.eq_nil_or_concat after with rfl | ⟨after, c', rfl⟩
    · obtain ⟨-, hc⟩ := List.append_inj' hcalls rfl
      exact .inr ⟨digest, cosignKey, archs, List.head_eq_of_cons_eq hc, hmanifest⟩
    · rw [List.concat_eq_append, ← List.cons_append, ← List.append_assoc] at hcalls
      obtain ⟨hbefore, hc⟩ := List.append_inj' hcalls rfl
      obtain rfl := List.head_eq_of_cons_eq hc
      rw [List.concat_eq_append, List.forall_mem_append] at hafter
      exact .inl ⟨hafter.2 _ List.mem_cons_self, before, digest, cosignKey, archs, after, hbefore,
        hafter.1, hmanifest⟩
  · rintro (⟨hc, before, digest, cosignKey, archs, after, rfl, hafter, hmanifest⟩ |
      ⟨digest, cosignKey, archs, rfl, hmanifest⟩)
    · refine ⟨before, digest, cosignKey, archs, after ++ [c], by simp, ?_, hmanifest⟩
      exact List.forall_mem_append.2 ⟨hafter, List.forall_mem_singleton.2 hc⟩
    · exact ⟨calls, digest, cosignKey, archs, [], rfl, fun _ h => absurd h List.not_mem_nil,
        hmanifest⟩

/-- What is trusted are the manifests in force. -/
theorem get?_execAll (requireSignature : Bool) (calls : List TrustCall) (name : String)
    (manifest : ImageManifest) :
    (TrustCall.execAll requireSignature calls).trusted.get? name = some manifest ↔
      InForce calls name manifest := by
  induction calls using List.reverseRecOn with
  | nil =>
    refine iff_of_false nofun ?_
    rintro ⟨before, digest, cosignKey, archs, after, hcalls, -⟩
    exact absurd hcalls.symm (by simp)
  | append_singleton calls c ih =>
    rw [TrustCall.execAll, List.foldl_concat, inForce_concat, ← ih]
    by_cases hc : c.name = name
    · rw [or_iff_right fun h => h.1 hc]
      cases c with
      | add n digest cosignKey archs =>
        obtain rfl : n = name := hc
        refine (Eq.congr_left ((PyDict.get?_set ..).trans (if_pos rfl))).trans ?_
        simp [eq_comm]
      | remove n =>
        obtain rfl : n = name := hc
        refine (Eq.congr_left ((PyDict.get?_erase ..).trans (if_pos rfl))).trans ?_
        simp
    · rw [TrustCall.get?_exec _ _ hc, or_iff_left, and_iff_right hc, TrustCall.execAll]
      rintro ⟨digest, cosignKey, archs, rfl, -⟩
      exact hc rfl

theorem requireSignature_execAll (requireSignature : Bool) (calls : List TrustCall) :
    (TrustCall.execAll requireSignature calls).requireSignature = requireSignature := by
  induction calls using List.reverseRecOn with
  | nil => rfl
  | append_singleton calls c ih =>
    rw [TrustCall.execAll, List.foldl_concat]
    cases c <;> exact ih

/-! ## Verifications -/

section Verify

variable (tools : ImageTool → ToolAnswer) (imageRef : String)

/-- The digest that is provided or inspected is the pinned one. -/
def DigestPasses (manifest : ImageManifest) : Prop :=
  if '@' ∈ imageRef.toList then providedDigest imageRef = manifest.pinnedDigest
  else (tools (.inspect imageRef)).digest? = some manifest.pinnedDigest

/-- The manifest has a key for signatures. -/
def ImageManifest.Keyed (manifest : ImageManifest) : Prop := manifest.cosignKey.getD "" ≠ ""

instance (manifest : ImageManifest) : Decidable manifest.Keyed :=
  inferInstanceAs (Decidable (_ ≠ _))

/-- The tool that checks the signature. -/
def signatureTool (manifest : ImageManifest) : ImageTool :=
  .cosign (manifest.cosignKey.getD "") imageRef

/-- If the signature has to be checked, cosign verifies it. -/
def SignaturePasses (requireSignature : Bool) (manifest : ImageManifest) : Prop :=
  manifest.Keyed ∧ requireSignature = true →
    ∃ stdout, tools (signatureTool imageRef manifest) = .exit 0 stdout

/-- Running the tool. -/
def runOf (tool : ImageTool) : ToolRun := ⟨tool, tools tool⟩

/-- The runs for the digest. -/
def digestRuns : List ToolRun :=
  if '@' ∈ imageRef.toList then [] else [runOf tools (.inspect imageRef)]

/-- The runs for the signature. -/
def signatureRuns (requireSignature : Bool) (manifest : ImageManifest) : List ToolRun :=
  if manifest.Keyed ∧ requireSignature = true then
    [runOf tools (signatureTool imageRef manifest)]
  else []

namespace ImageVerifier

variable (v : ImageVerifier)

/-- The image is verified, in the runs `runs`. -/
def Verifies (runs : List ToolRun) : Prop :=
  ∃ r, v.verify tools imageRef [] = .ok r runs ∧ r.status = .verified

theorem runTool_run (tool : ImageTool) (runs : List ToolRun) :
    runTool tools tool runs = .ok (tools tool) (runs ++ [runOf tools tool]) := rfl

theorem verifyCosign_iff (publicKey : String) (runs runs' : List ToolRun) :
    verifyCosign tools imageRef publicKey runs = .ok .verified runs' ↔
      (∃ stdout, tools (.cosign publicKey imageRef) = .exit 0 stdout) ∧
        runs' = runs ++ [runOf tools (.cosign publicKey imageRef)] := by
  rw [verifyCosign, bind_of_ok (runTool_run tools _ runs)]
  cases tools (.cosign publicKey imageRef) with
  | exit returncode stdout =>
    dsimp only
    by_cases hzero : returncode = 0
    · rw [if_pos hzero, and_iff_right ⟨stdout, by rw [hzero]⟩]
      exact ⟨fun h => by cases h; rfl, fun h => by rw [h]; rfl⟩
    · rw [if_neg hzero]
      exact iff_of_false nofun fun ⟨⟨_, h⟩, _⟩ => hzero (ToolAnswer.exit.inj h).1
  | notFound => exact iff_of_false nofun fun ⟨⟨_, h⟩, _⟩ => nomatch h
  | failed err =>
    refine iff_of_false (fun h => ?_) fun ⟨⟨_, h⟩, _⟩ => nomatch h
    dsimp only at h
    split at h <;> cases h

/-- The last steps verify the image if the signature passes. -/
theorem verifySignature_iff (manifest : ImageManifest) (actualDigest : String)
    (runs runs' : List ToolRun) :
    (∃ r, verifySignature tools v imageRef manifest actualDigest runs = .ok r runs' ∧
        r.status = .verified) ↔
      SignaturePasses tools imageRef v.requireSignature manifest ∧
        runs' = runs ++ signatureRuns tools imageRef v.requireSignature manifest := by
  rw [verifySignature, SignaturePasses, signatureRuns]
  dsimp only
  by_cases hcheck : manifest.Keyed ∧ v.requireSignature = true
  · rw [if_pos (show _ ≠ "" ∧ _ from hcheck), if_pos hcheck, imp_iff_right hcheck, signatureTool,
      ← verifyCosign_iff]
    cases hcosign : verifyCosign tools imageRef (manifest.cosignKey.getD "") runs with
    | error err runs'' =>
      rw [bind_of_error hcosign]
      exact iff_of_false (fun ⟨_, h, _⟩ => nomatch h) nofun
    | ok status runs'' =>
      rw [bind_of_ok hcosign]
      by_cases hstatus : status = .verified
      · rw [if_neg (not_not_intro hstatus), hstatus]
        exact ⟨fun ⟨r, h, _⟩ => by cases h; rfl, fun h => ⟨_, by cases h; rfl, rfl⟩⟩
      · rw [if_pos hstatus]
        refine iff_of_false (fun ⟨r, h, hr⟩ => ?_) fun h => ?_
        · cases h
          exact hstatus hr
        · cases h
          exact hstatus rfl
  · rw [if_neg (show ¬(_ ≠ "" ∧ _) from hcheck), if_neg hcheck, List.append_nil,
      and_iff_right fun h => absurd h hcheck]
    exact ⟨fun ⟨r, h, _⟩ => by cases h; rfl, fun h => ⟨_, by rw [h]; rfl, rfl⟩⟩

theorem inspectDigest_eq (runs : List ToolRun) :
    inspectDigest tools imageRef runs =
        .ok (tools (.inspect imageRef)).digest? (runs ++ [runOf tools (.inspect imageRef)]) ∨
      (∃ err, inspectDigest tools imageRef runs =
        .error err (runs ++ [runOf tools (.inspect imageRef)])) ∧
        (tools (.inspect imageRef)).digest? = none := by
  rw [inspectDigest, bind_of_ok (runTool_run tools _ runs)]
  cases tools (.inspect imageRef) with
  | exit returncode stdout => exact .inl rfl
  | notFound => exact .inl rfl
  | failed err =>
    dsimp only
    split
    · exact .inl rfl
    · exact .inr ⟨⟨err, rfl⟩, rfl⟩

/-- An image is verified exactly if the manifest of the stripped name pins its digest, and
    its signature passes. -/
theorem verifies_iff (runs : List ToolRun) :
    v.Verifies tools imageRef runs ↔
      ∃ manifest, v.trusted.get? (strippedName imageRef) = some manifest ∧
        DigestPasses tools imageRef manifest ∧
        SignaturePasses tools imageRef v.requireSignature manifest ∧
        runs = digestRuns tools imageRef ++
          signatureRuns tools imageRef v.requireSignature manifest := by
  rw [Verifies, verify]
  cases v.trusted.get? (strippedName imageRef) with
  | none =>
    refine iff_of_false (fun ⟨r, h, hr⟩ => ?_) fun ⟨_, h, _⟩ => nomatch h
    cases h
    cases hr
  | some manifest =>
    simp only [Option.some.injEq, exists_eq_left', DigestPasses, digestRuns]
    by_cases hat : '@' ∈ imageRef.toList
    · simp only [if_pos hat]
      by_cases hdigest : providedDigest imageRef = manifest.pinnedDigest
      · rw [if_neg (not_not_intro hdigest), verifySignature_iff, and_iff_right hdigest]
      · rw [if_pos hdigest]
        refine iff_of_false (fun ⟨r, h, hr⟩ => ?_) fun h => hdigest h.1
        cases h
        cases hr
    · simp only [if_neg hat]
      rcases inspectDigest_eq tools imageRef [] with hinspect | ⟨⟨err, hinspect⟩, hnone⟩
      · rw [bind_of_ok hinspect]
        cases (tools (.inspect imageRef)).digest? with
        | none =>
          refine iff_of_false (fun ⟨r, h, hr⟩ => ?_) nofun
          cases h
          cases hr
        | some actualDigest =>
          dsimp only
          rw [Option.some.injEq]
          by_cases hdigest : actualDigest = manifest.pinnedDigest
          · rw [if_neg (not_not_intro hdigest), verifySignature_iff, and_iff_right hdigest]
            rfl
          · rw [if_pos hdigest]
            refine iff_of_false (fun ⟨r, h, hr⟩ => ?_) fun h => hdigest h.1
            cases h
            cases hr
      · rw [bind_of_error hinspect, hnone]
        exact iff_of_false (fun ⟨_, h, _⟩ => nomatch h) nofun

end ImageVerifier

/-! ## Soundness -/

/-- The digest of the image: all of the text after the first `@`, or what podman has reported
    in the runs. -/
def HasDigest (runs : List ToolRun) (digest : String) : Prop :=
  if '@' ∈ imageRef.toList then digestText imageRef = digest
  else ∃ answer, ⟨.inspect imageRef, answer⟩ ∈ runs ∧ answer.digest? = some digest

/-- In the runs, cosign has verified the signature with the key of a trusted image. -/
def CosignVerified (calls : List TrustCall) (runs : List ToolRun) : Prop :=
  ∃ name manifest key stdout, InForce calls name manifest ∧ manifest.cosignKey = some key ∧
    ⟨.cosign key imageRef, .exit 0 stdout⟩ ∈ runs

/-- What a verified image should have passed. -/
def Justified (calls : List TrustCall) (requireSignature : Bool) (runs : List ToolRun) : Prop :=
  ∃ manifest, InForce calls (imageName imageRef) manifest ∧
    HasDigest imageRef runs manifest.pinnedDigest ∧
    (requireSignature = true → CosignVerified imageRef calls runs)

/-- If the manifest of the stripped name lets the image pass, then it has a key if signatures
    are required. Moreover the reference has no second `@`, or, if its name is not the
    stripped one, the manifest of this name pins the digest as well. -/
def ChecksSuffice (calls : List TrustCall) (requireSignature : Bool) : Prop :=
  ∀ manifest, InForce calls (strippedName imageRef) manifest →
    DigestPasses tools imageRef manifest →
    SignaturePasses tools imageRef requireSignature manifest →
    (requireSignature = true → manifest.Keyed) ∧
    if imageName imageRef = strippedName imageRef then imageRef.toList.count '@' ≤ 1
    else ∃ other, InForce calls (imageName imageRef) other ∧ other.pinnedDigest =
      if '@' ∈ imageRef.toList then digestText imageRef else manifest.pinnedDigest

variable {tools imageRef} {calls : List TrustCall} {requireSignature : Bool}
  {manifest : ImageManifest}

theorem inForce_unique {name : String} {other : ImageManifest}
    (h : InForce calls name manifest) (h' : InForce calls name other) : manifest = other := by
  rw [← get?_execAll false] at h h'
  exact Option.some.inj (h.symm.trans h')

theorem hasDigest_iff (hdigest : DigestPasses tools imageRef manifest) (digest : String) :
    HasDigest imageRef (digestRuns tools imageRef ++
        signatureRuns tools imageRef requireSignature manifest) digest ↔
      digest = if '@' ∈ imageRef.toList then digestText imageRef else manifest.pinnedDigest := by
  rw [HasDigest]
  by_cases hat : '@' ∈ imageRef.toList
  · rw [if_pos hat, if_pos hat, eq_comm]
  · rw [DigestPasses, if_neg hat] at hdigest
    rw [if_neg hat, if_neg hat, digestRuns, if_neg hat]
    constructor
    · rintro ⟨answer, hmem, hanswer⟩
      rcases List.mem_append.1 hmem with hmem | hmem
      · rw [List.mem_singleton] at hmem
        obtain rfl := (ToolRun.mk.inj hmem).2
        exact Option.some.inj (hanswer.symm.trans hdigest)
      · rw [signatureRuns] at hmem
        split at hmem
        · exact nomatch (ToolRun.mk.inj (List.mem_singleton.1 hmem)).1
        · exact nomatch hmem
    · rintro rfl
      exact ⟨_, List.mem_append_left _ List.mem_cons_self, hdigest⟩

theorem cosignVerified_iff {name : String} (hmanifest : InForce calls name manifest)
    (hsignature : SignaturePasses tools imageRef true manifest) :
    CosignVerified imageRef calls (digestRuns tools imageRef ++
      signatureRuns tools imageRef true manifest) ↔ manifest.Keyed := by
  rw [signatureRuns]
  constructor
  · rintro ⟨_, _, key, stdout, -, -, hmem⟩
    rcases List.mem_append.1 hmem with hmem | hmem
    · rw [digestRuns] at hmem
      split at hmem
      · exact nomatch hmem
      · exact nomatch (ToolRun.mk.inj (List.mem_singleton.1 hmem)).1
    · split at hmem
      · next hcheck => exact hcheck.1
      · exact nomatch hmem
  · intro hkeyed
    obtain ⟨stdout, hstdout⟩ := hsignature ⟨hkeyed, rfl⟩
    rw [if_pos ⟨hkeyed, rfl⟩]
    have hmem : runOf tools (signatureTool imageRef manifest) =
        ⟨.cosign (manifest.cosignKey.getD "") imageRef, .exit 0 stdout⟩ := by
      rw [runOf, hstdout, signatureTool]
    refine ⟨name, manifest, manifest.cosignKey.getD "", stdout, hmanifest, ?_,
      List.mem_append_right _ (hmem ▸ List.mem_cons_self)⟩
    cases hkey : manifest.cosignKey with
    | none => exact absurd (congrArg (Option.getD · "") hkey) hkeyed
    | some key => rfl

/-- For the runs of an image that passes, what it should have passed is decided by its key
    and its reference. -/
theorem justified_iff (hmanifest : InForce calls (strippedName imageRef) manifest)
    (hdigest : DigestPasses tools imageRef manifest)
    (hsignature : SignaturePasses tools imageRef requireSignature manifest) :
    Justified imageRef calls requireSignature (digestRuns tools imageRef ++
        signatureRuns tools imageRef requireSignature manifest) ↔
      (requireSignature = true → manifest.Keyed) ∧
      if imageName imageRef = strippedName imageRef then imageRef.toList.count '@' ≤ 1
      else ∃ other, InForce calls (imageName imageRef) other ∧ other.pinnedDigest =
        if '@' ∈ imageRef.toList then digestText imageRef else manifest.pinnedDigest := by
  have hsigned : (requireSignature = true → CosignVerified imageRef calls
      (digestRuns tools imageRef ++ signatureRuns tools imageRef requireSignature manifest)) ↔
      (requireSignature = true → manifest.Keyed) := by
    refine imp_congr_right fun hrequire => ?_
    subst hrequire
    exact cosignVerified_iff hmanifest hsignature
  simp only [Justified, hasDigest_iff hdigest, hsigned]
  by_cases hname : imageName imageRef = strippedName imageRef
  · rw [if_pos hname, hname]
    have hwhole : manifest.pinnedDigest =
        (if '@' ∈ imageRef.toList then digestText imageRef else manifest.pinnedDigest) ↔
        imageRef.toList.count '@' ≤ 1 := by
      by_cases hat : '@' ∈ imageRef.toList
      · rw [DigestPasses, if_pos hat] at hdigest
        rw [if_pos hat, ← hdigest, eq_comm, digestText_eq_iff]
      · rw [if_neg hat, List.count_eq_zero.2 hat]
        exact iff_of_true rfl (Nat.zero_le 1)
    constructor
    · rintro ⟨other, hother, hdigest, hkeyed⟩
      obtain rfl := inForce_unique hmanifest hother
      exact ⟨hkeyed, hwhole.1 hdigest⟩
    · rintro ⟨hkeyed, hcount⟩
      exact ⟨manifest, hmanifest, hwhole.2 hcount, hkeyed⟩
  · rw [if_neg hname]
    exact ⟨fun ⟨other, hother, hdigest, hkeyed⟩ => ⟨hkeyed, other, hother, hdigest⟩,
      fun ⟨hkeyed, other, hother, hdigest⟩ => ⟨other, hother, hdigest, hkeyed⟩⟩

end Verify

/-- After any calls, a verification of the reference has passed all that it should have passed
    exactly if the checks suffice. -/
theorem verify_justified_iff (calls : List TrustCall) (requireSignature : Bool)
    (tools : ImageTool → ToolAnswer) (imageRef : String) :
    (∀ runs, (TrustCall.execAll requireSignature calls).Verifies tools imageRef runs →
        Justified imageRef calls requireSignature runs) ↔
      ChecksSuffice tools imageRef calls requireSignature := by
  simp only [ImageVerifier.verifies_iff, get?_execAll, requireSignature_execAll]
  constructor
  · intro h manifest hmanifest hdigest hsignature
    exact (justified_iff hmanifest hdigest hsignature).1
      (h _ ⟨manifest, hmanifest, hdigest, hsignature, rfl⟩)
  · rintro h _ ⟨manifest, hmanifest, hdigest, hsignature, rfl⟩
    exact (justified_iff hmanifest hdigest hsignature).2 (h manifest hmanifest hdigest hsignature)

namespace Sample

/-- No tool is installed. -/
def noTools : ImageTool → ToolAnswer := fun _ => .notFound

/-- A trusted image without a key. -/
def trustBase : List TrustCall := [.add "vibeshield/base" "sha256:abc" none none]

/-- An image without a signature is verified although one is required, and so is one with
    another digest. -/
theorem unsigned_verified :
    (∃ runs, (TrustCall.execAll true trustBase).Verifies noTools "vibeshield/base@sha256:abc"
        runs ∧ ¬Justified "vibeshield/base@sha256:abc" trustBase true runs) ∧
    ∃ runs, (TrustCall.execAll false trustBase).Verifies noTools
      "vibeshield/base@sha256:abc@sha256:evil" runs ∧
      ¬Justified "vibeshield/base@sha256:abc@sha256:evil" trustBase false runs := by
  refine ⟨⟨[], ⟨_, rfl, rfl⟩, ?_⟩, [], ⟨_, rfl, rfl⟩, ?_⟩
  · rintro ⟨-, -, -, hsigned⟩
    obtain ⟨-, -, key, stdout, -, -, hmem⟩ := hsigned rfl
    exact nomatch hmem
  · rintro ⟨manifest, hmanifest, hdigest, -⟩
    rw [← get?_execAll false] at hmanifest
    have hpinned : manifest.pinnedDigest = "sha256:abc" :=
      congrArg ImageManifest.pinnedDigest (Option.some.inj (hmanifest.symm.trans rfl))
    rw [HasDigest, if_pos (by decide), hpinned] at hdigest
    exact absurd hdigest (by decide)

end Sample

end VibeShield
