import VibeShield.Lib.Machine
import VibeShield.Security.Image.Soundness

/-!
# Sessions of the image verifier

The verifier as a machine (`images`): images are trusted or not trusted any more, and references
are verified, in any order. An answer about a name depends on the calls about this name alone
(`image_names_isolated`), the list of trusted images is the list of the manifests in force
(`trusted_listed`), and a verification runs no tool for an image that is not trusted, and cosign
only for a digest that passes (`verify_runs`).
-/

namespace VibeShield

/-- What is listed of a trusted image. -/
structure TrustedRow where
  name : String
  digest : String
  cosignEnabled : Bool
  architectures : List String
deriving DecidableEq

/-- The row of a manifest. -/
def ImageManifest.row (m : ImageManifest) : TrustedRow where
  name := m.name
  digest := m.pinnedDigest
  cosignEnabled := m.cosignKey.isSome
  architectures := m.allowedArchitectures

/-- Listing all trusted images. -/
def ImageVerifier.listTrusted (v : ImageVerifier) : List TrustedRow :=
  v.trusted.items.map fun p => p.2.row

/-- A call in a session: for a verification with what the tools answer. -/
inductive ImageCall
  | trust (c : TrustCall)
  | verify (imageRef : String) (tools : ImageTool → ToolAnswer)

/-- The verifier as a machine, which answers a verification with its outcome. -/
def images :
    Machine ImageVerifier ImageCall (Option (EStateM.Result PyErr (List ToolRun)
      VerificationResult)) where
  step v
    | .trust c => (c.exec v, none)
    | .verify imageRef tools => (v, some (v.verify tools imageRef []))

/-- Whether a call is about the images of a name. -/
def ImageCall.isAbout (name : String) : ImageCall → Bool
  | trust c => c.name = name
  | verify imageRef _ => strippedName imageRef = name

/-- The calls of a session that change which images are trusted. -/
def ImageCall.trust? : ImageCall → Option TrustCall
  | trust c => some c
  | verify _ _ => none

/-! ## Names -/

/-- Two verifiers that do not differ about the images of a name. -/
structure SameAbout (name : String) (v w : ImageVerifier) : Prop where
  trusted : v.trusted.get? name = w.trusted.get? name
  requireSignature : v.requireSignature = w.requireSignature

theorem SameAbout.equivalence (name : String) : Equivalence (SameAbout name) where
  refl _ := ⟨rfl, rfl⟩
  symm h := ⟨h.trusted.symm, h.requireSignature.symm⟩
  trans h h' := ⟨h.trusted.trans h'.trusted, h.requireSignature.trans h'.requireSignature⟩

/-- A call does not touch the verifier but for what it is about. -/
theorem TrustCall.requireSignature_exec (v : ImageVerifier) (c : TrustCall) :
    (c.exec v).requireSignature = v.requireSignature := by
  cases c <;> rfl

theorem TrustCall.sameAbout_exec {name : String} {v w : ImageVerifier} (h : SameAbout name v w)
    (c : TrustCall) : SameAbout name (c.exec v) (c.exec w) := by
  refine ⟨?_, ?_⟩
  · by_cases hc : c.name = name
    · subst hc
      cases c with
      | add n digest cosignKey archs =>
        simp [exec, ImageVerifier.addTrusted, TrustCall.name, PyDict.get?_set]
      | remove n => simp [exec, ImageVerifier.removeTrusted, TrustCall.name, PyDict.get?_erase]
    · rw [get?_exec v c hc, get?_exec w c hc, h.trusted]
  · rw [requireSignature_exec, requireSignature_exec, h.requireSignature]

theorem SameAbout.verify {imageRef : String} {v w : ImageVerifier}
    (h : SameAbout (strippedName imageRef) v w) (tools : ImageTool → ToolAnswer) :
    v.verify tools imageRef = w.verify tools imageRef := by
  simp only [ImageVerifier.verify, ImageVerifier.verifySignature, h.trusted, h.requireSignature]

theorem images_unwinding (name : String) :
    images.Unwinding (ImageCall.isAbout name) (SameAbout name) where
  equiv := SameAbout.equivalence name
  low_step {v w c} hc h := by
    cases c with
    | trust c => exact ⟨rfl, c.sameAbout_exec h⟩
    | verify imageRef tools =>
      obtain rfl : strippedName imageRef = name := of_decide_eq_true hc
      refine ⟨congrArg some ?_, h⟩
      exact congrFun (h.verify tools) []
  high_step {v c} hc := by
    cases c with
    | trust c =>
      have hne : c.name ≠ name := of_decide_eq_false hc
      exact ⟨(c.get?_exec v hne).symm, (c.requireSignature_exec v).symm⟩
    | verify imageRef tools => exact (SameAbout.equivalence name).refl v

/-- In every session, what is answered about the images of a name, and which tools are run for
    it, is the same as if the calls about all other images were left out. -/
theorem image_names_isolated (name : String) (requireSignature : Bool) (cs : List ImageCall) :
    images.observed (ImageCall.isAbout name) (.new requireSignature) cs =
      images.observed (ImageCall.isAbout name) (.new requireSignature)
        (cs.filter (ImageCall.isAbout name)) :=
  (images_unwinding name).observed_eq_filter ((SameAbout.equivalence name).refl _)

/-! ## The list -/

/-- A session leads where its calls that change the trust lead. -/
theorem images_run (requireSignature : Bool) (cs : List ImageCall) :
    images.run (.new requireSignature) cs =
      TrustCall.execAll requireSignature (cs.filterMap ImageCall.trust?) := by
  induction cs using List.reverseRecOn with
  | nil => rfl
  | append_singleton cs c ih =>
    rw [Machine.run_concat, ih, List.filterMap_append, TrustCall.execAll, TrustCall.execAll,
      List.foldl_append]
    cases c <;> rfl

/-- After any session, the list of trusted images has one row for each name that has a manifest in
    force, namely that of the manifest, and no others. -/
theorem trusted_listed (requireSignature : Bool) (cs : List ImageCall) :
    let rows := (images.run (.new requireSignature) cs).listTrusted
    (rows.map TrustedRow.name).Nodup ∧ ∀ row,
      row ∈ rows ↔ ∃ manifest,
        InForce (cs.filterMap ImageCall.trust?) row.name manifest ∧ row = manifest.row := by
  intro rows
  have hrows : rows = (TrustCall.execAll requireSignature
      (cs.filterMap ImageCall.trust?)).trusted.items.map fun p => p.2.row := by
    rw [← images_run]
    rfl
  have hforce {name : String} {manifest : ImageManifest} :
      (name, manifest) ∈ (TrustCall.execAll requireSignature
        (cs.filterMap ImageCall.trust?)).trusted.items ↔
      InForce (cs.filterMap ImageCall.trust?) name manifest := by
    rw [PyDict.mem_items_iff, get?_execAll]
  -- A manifest carries the name it is filed under.
  have hname {name : String} {manifest : ImageManifest}
      (h : InForce (cs.filterMap ImageCall.trust?) name manifest) : manifest.name = name := by
    obtain ⟨_, _, _, _, _, _, _, rfl⟩ := h
    rfl
  constructor
  · have hkeys : rows.map TrustedRow.name = (TrustCall.execAll requireSignature
        (cs.filterMap ImageCall.trust?)).trusted.items.map Prod.fst := by
      rw [hrows, List.map_map]
      exact List.map_congr_left fun p hp => hname (hforce.1 hp)
    rw [hkeys]
    exact (TrustCall.execAll requireSignature (cs.filterMap ImageCall.trust?)).trusted.nodup
  · intro row
    rw [hrows, List.mem_map]
    constructor
    · rintro ⟨⟨name, manifest⟩, hmem, rfl⟩
      have h := hforce.1 hmem
      refine ⟨manifest, ?_, rfl⟩
      change InForce _ manifest.name manifest
      rwa [hname h]
    · rintro ⟨manifest, h, rfl⟩
      exact ⟨(manifest.name, manifest), hforce.2 h, rfl⟩

/-! ## The tools -/

section Tools

variable (tools : ImageTool → ToolAnswer) (imageRef : String)

namespace ImageVerifier

theorem endState_verifyCosign (publicKey : String) (runs : List ToolRun) :
    endState (verifyCosign tools imageRef publicKey runs) =
      runs ++ [runOf tools (.cosign publicKey imageRef)] := by
  rw [verifyCosign, bind_of_ok (runTool_run tools _ runs)]
  cases tools (.cosign publicKey imageRef) with
  | exit returncode stdout => rfl
  | notFound => rfl
  | failed err =>
    dsimp only
    split <;> rfl

theorem endState_verifySignature (v : ImageVerifier) (manifest : ImageManifest)
    (actualDigest : String) (runs : List ToolRun) :
    endState (verifySignature tools v imageRef manifest actualDigest runs) =
      runs ++ signatureRuns tools imageRef v.requireSignature manifest := by
  rw [verifySignature, signatureRuns]
  dsimp only
  by_cases hcheck : manifest.Keyed ∧ v.requireSignature = true
  · rw [if_pos (show _ ≠ "" ∧ _ from hcheck), if_pos hcheck]
    have hend := endState_verifyCosign tools imageRef (manifest.cosignKey.getD "") runs
    cases hcosign : verifyCosign tools imageRef (manifest.cosignKey.getD "") runs with
    | error err runs' =>
      rw [hcosign] at hend
      rw [bind_of_error hcosign]
      exact hend
    | ok status runs' =>
      rw [hcosign] at hend
      rw [bind_of_ok hcosign]
      split <;> exact hend
  · rw [if_neg (show ¬(_ ≠ "" ∧ _) from hcheck), if_neg hcheck, List.append_nil]
    rfl

end ImageVerifier

instance (manifest : ImageManifest) : Decidable (DigestPasses tools imageRef manifest) :=
  inferInstanceAs (Decidable
    (if '@' ∈ imageRef.toList then providedDigest imageRef = manifest.pinnedDigest
      else (tools (.inspect imageRef)).digest? = some manifest.pinnedDigest))

/-- The runs of a verification by the manifest. -/
def verifyRuns (requireSignature : Bool) (manifest : ImageManifest) : List ToolRun :=
  digestRuns tools imageRef ++
    if DigestPasses tools imageRef manifest then
      signatureRuns tools imageRef requireSignature manifest
    else []

open ImageVerifier in
theorem endState_verify (v : ImageVerifier) :
    endState (v.verify tools imageRef []) =
      ((v.trusted.get? (strippedName imageRef)).map
        (verifyRuns tools imageRef v.requireSignature)).getD [] := by
  rw [verify]
  cases v.trusted.get? (strippedName imageRef) with
  | none => rfl
  | some manifest =>
    simp only [Option.map_some, Option.getD_some, verifyRuns, digestRuns, DigestPasses]
    by_cases hat : '@' ∈ imageRef.toList
    · simp only [if_pos hat]
      by_cases hdigest : providedDigest imageRef = manifest.pinnedDigest
      · rw [if_neg (not_not_intro hdigest), if_pos hdigest, endState_verifySignature]
      · rw [if_pos hdigest, if_neg hdigest]
        rfl
    · simp only [if_neg hat]
      obtain hinspect | ⟨⟨err, hinspect⟩, hnone⟩ := inspectDigest_eq tools imageRef []
      · rw [bind_of_ok hinspect]
        cases (tools (.inspect imageRef)).digest? with
        | none => rfl
        | some actualDigest =>
          dsimp only
          by_cases hdigest : actualDigest = manifest.pinnedDigest
          · rw [if_neg (not_not_intro hdigest), if_pos (congrArg some hdigest),
              endState_verifySignature]
            rfl
          · rw [if_pos hdigest, if_neg fun h => hdigest (Option.some.inj h)]
            rfl
      · rw [bind_of_error hinspect, hnone]
        rfl

/-- Which tools a verification runs, in any session and whether it returns or raises an exception:
    none if the name has no manifest in force; else podman, if the reference has no digest, and
    then cosign, only if the digest passes and the signature has to be checked. -/
theorem verify_runs (requireSignature : Bool) (cs : List ImageCall) :
    let runs := endState ((images.run (.new requireSignature) cs).verify tools imageRef [])
    (∀ manifest, InForce (cs.filterMap ImageCall.trust?) (strippedName imageRef) manifest →
      runs = verifyRuns tools imageRef requireSignature manifest) ∧
    ((∀ manifest, ¬InForce (cs.filterMap ImageCall.trust?) (strippedName imageRef) manifest) →
      runs = []) := by
  intro runs
  have hruns : runs =
      (((TrustCall.execAll requireSignature (cs.filterMap ImageCall.trust?)).trusted.get?
        (strippedName imageRef)).map (verifyRuns tools imageRef requireSignature)).getD [] := by
    have h := endState_verify tools imageRef
      (TrustCall.execAll requireSignature (cs.filterMap ImageCall.trust?))
    rw [requireSignature_execAll, ← images_run] at h
    rw [← images_run]
    exact h
  constructor
  · intro manifest h
    rw [hruns, (get?_execAll ..).2 h]
    rfl
  · intro h
    have hnone : (TrustCall.execAll requireSignature (cs.filterMap ImageCall.trust?)).trusted.get?
        (strippedName imageRef) = none :=
      Option.eq_none_iff_forall_not_mem.2 fun manifest hmem => h manifest ((get?_execAll ..).1 hmem)
    rw [hruns, hnone]
    rfl

end Tools

end VibeShield
