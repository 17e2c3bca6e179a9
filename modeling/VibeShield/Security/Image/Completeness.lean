import VibeShield.Security.Image.Soundness

/-!
# Whether trusted images are verified

An image that is trusted with a digest is to be verified by this digest, and by every tag for
which podman reports it (`Recognized`), if no signatures are required. The name that the
verifier looks up ends before the first colon of the reference. So it is the one that was added
if this has no colon; a registry with a port has one (`trusted_image_recognized_iff`).
-/

namespace VibeShield

/-- A part of a reference to an image: a name, a digest or a tag. None of them contains an `@`
    or a newline. -/
structure RefPart (s : String) : Prop where
  at_notMem : '@' ∉ s.toList
  newline_notMem : '\n' ∉ s.toList

/-- The image with the name and the digest is verified, with these tools: by the digest, and by
    every tag for which podman reports the digest. -/
structure Recognized (tools : ImageTool → ToolAnswer) (v : ImageVerifier) (name digest : String) :
    Prop where
  byDigest : ∃ runs, v.Verifies tools (name ++ "@" ++ digest) runs
  byTag : ∀ tag, RefPart tag →
    (tools (.inspect (name ++ ":" ++ tag))).digest? = some digest →
      ∃ runs, v.Verifies tools (name ++ ":" ++ tag) runs

/-- The name before the first colon. -/
def beforeColon (name : String) : String := String.ofList (name.toList.takeWhile (· ≠ ':'))

/-! ## Stripped names -/

theorem subRef_true {l : List Char} (h : '\n' ∉ l) : subRef true l = [] := by
  induction l with
  | nil => rfl
  | cons c l ih =>
    rw [List.mem_cons, not_or] at h
    rw [subRef, if_pos ⟨rfl, Ne.symm h.1⟩, ih h.2]

/-- A name is stripped of what follows it, and of what follows its first colon. -/
theorem subRef_append {n rest : List Char} {c : Char} (hc : c = ':' ∨ c = '@')
    (hn : '@' ∉ n ∧ '\n' ∉ n) (hrest : '\n' ∉ rest) :
    subRef false (n ++ c :: rest) = n.takeWhile (· ≠ ':') := by
  induction n with
  | nil => rw [List.nil_append, subRef, if_neg (by simp), if_pos hc, subRef_true hrest]; rfl
  | cons d n ih =>
    obtain ⟨hat, hnewline⟩ := hn
    rw [List.mem_cons, not_or] at hat hnewline
    rw [List.cons_append, subRef, if_neg (by simp)]
    by_cases hd : d = ':'
    · have htail : '\n' ∉ n ++ c :: rest := by
        rw [List.mem_append, List.mem_cons, not_or, not_or]
        refine ⟨hnewline.2, ?_, hrest⟩
        rcases hc with rfl | rfl <;> decide
      rw [if_pos (.inl hd), subRef_true htail, List.takeWhile_cons_of_neg (by simpa using hd)]
    · rw [if_neg (not_or.2 ⟨hd, Ne.symm hat.1⟩), ih ⟨hat.2, hnewline.2⟩,
        List.takeWhile_cons_of_pos (by simpa using hd)]

/-- What is looked up for a name with a digest or a tag. -/
theorem strippedName_append {name sep rest : String} {c : Char} (hsep : sep.toList = [c])
    (hc : c = ':' ∨ c = '@') (hname : RefPart name) (hrest : RefPart rest) :
    strippedName (name ++ sep ++ rest) = beforeColon name := by
  rw [strippedName, beforeColon, String.toList_append, String.toList_append, hsep,
    List.append_assoc, List.singleton_append,
    subRef_append hc ⟨hname.at_notMem, hname.newline_notMem⟩ hrest.newline_notMem]

theorem providedDigest_append {name digest : String} (hname : RefPart name)
    (hdigest : RefPart digest) : providedDigest (name ++ "@" ++ digest) = digest := by
  have hskip : ((name ++ "@" ++ digest).toList.dropWhile (· ≠ '@')) = '@' :: digest.toList := by
    rw [String.toList_append, String.toList_append, List.append_assoc,
      List.dropWhile_append_of_pos fun c hc => ?_]
    · rfl
    · exact decide_eq_true fun h => hname.at_notMem (h ▸ hc)
  rw [providedDigest, hskip, List.tail_cons, List.takeWhile_eq_self_iff.2 fun c hc => ?_,
    String.ofList_toList]
  exact decide_eq_true fun h => hdigest.at_notMem (h ▸ hc)

/-- A name without a colon is looked up as it is. -/
theorem beforeColon_eq_self {name : String} (h : ':' ∉ name.toList) : beforeColon name = name := by
  rw [beforeColon, List.takeWhile_eq_self_iff.2 fun c hc => ?_, String.ofList_toList]
  exact decide_eq_true fun hcolon => h (hcolon ▸ hc)

/-! ## Verifications -/

variable {calls : List TrustCall} {name digest : String} {tools : ImageTool → ToolAnswer}

/-- Without signatures, a reference is verified exactly if the digest passes. -/
theorem exists_verifies_iff {imageRef : String} :
    (∃ runs, (TrustCall.execAll false calls).Verifies tools imageRef runs) ↔
      ∃ manifest, InForce calls (strippedName imageRef) manifest ∧
        DigestPasses tools imageRef manifest := by
  simp only [ImageVerifier.verifies_iff, get?_execAll, requireSignature_execAll]
  constructor
  · rintro ⟨_, manifest, hmanifest, hdigest, -⟩
    exact ⟨manifest, hmanifest, hdigest⟩
  · rintro ⟨manifest, hmanifest, hdigest⟩
    exact ⟨_, manifest, hmanifest, hdigest, fun h => absurd h.2 Bool.false_ne_true, rfl⟩

theorem verifies_digest_iff (hname : RefPart name) (hdigest : RefPart digest) :
    (∃ runs, (TrustCall.execAll false calls).Verifies tools (name ++ "@" ++ digest) runs) ↔
      ∃ manifest, InForce calls (beforeColon name) manifest ∧ manifest.pinnedDigest = digest := by
  have hat : '@' ∈ (name ++ "@" ++ digest).toList := by
    rw [String.toList_append, String.toList_append]
    exact List.mem_append_left _ (List.mem_append_right _ List.mem_cons_self)
  have hstripped : strippedName (name ++ "@" ++ digest) = beforeColon name :=
    strippedName_append rfl (.inr rfl) hname hdigest
  rw [exists_verifies_iff, hstripped]
  refine exists_congr fun manifest => and_congr_right fun _ => ?_
  rw [DigestPasses, if_pos hat, providedDigest_append hname hdigest, eq_comm]

theorem verifies_tag_iff {tag : String} (hname : RefPart name) (htag : RefPart tag)
    (hinspect : (tools (.inspect (name ++ ":" ++ tag))).digest? = some digest) :
    (∃ runs, (TrustCall.execAll false calls).Verifies tools (name ++ ":" ++ tag) runs) ↔
      ∃ manifest, InForce calls (beforeColon name) manifest ∧ manifest.pinnedDigest = digest := by
  have hat : '@' ∉ (name ++ ":" ++ tag).toList := by
    rw [String.toList_append, String.toList_append, List.mem_append, List.mem_append, not_or,
      not_or]
    exact ⟨⟨hname.at_notMem, by decide⟩, htag.at_notMem⟩
  have hstripped : strippedName (name ++ ":" ++ tag) = beforeColon name :=
    strippedName_append rfl (.inl rfl) hname htag
  rw [exists_verifies_iff, hstripped]
  refine exists_congr fun manifest => and_congr_right fun _ => ?_
  rw [DigestPasses, if_neg hat, hinspect, Option.some_inj, eq_comm]

/-- After any calls, a trusted image is verified by its digest and its tags if and only if its
    name has no colon, or the name before the first colon is trusted with the same digest. -/
theorem trusted_image_recognized_iff (calls : List TrustCall) (tools : ImageTool → ToolAnswer)
    (name : String) (manifest : ImageManifest) (hmanifest : InForce calls name manifest)
    (hname : RefPart name) (hdigest : RefPart manifest.pinnedDigest) :
    Recognized tools (TrustCall.execAll false calls) name manifest.pinnedDigest ↔
      ':' ∉ name.toList ∨ ∃ other, InForce calls (beforeColon name) other ∧
        other.pinnedDigest = manifest.pinnedDigest := by
  have hcolon : (':' ∉ name.toList ∨ ∃ other, InForce calls (beforeColon name) other ∧
      other.pinnedDigest = manifest.pinnedDigest) ↔
        ∃ other, InForce calls (beforeColon name) other ∧
          other.pinnedDigest = manifest.pinnedDigest := by
    refine or_iff_right_of_imp fun h => ⟨manifest, ?_, rfl⟩
    rwa [beforeColon_eq_self h]
  rw [hcolon]
  constructor
  · exact fun h => (verifies_digest_iff hname hdigest).1 h.byDigest
  · exact fun h => ⟨(verifies_digest_iff hname hdigest).2 h,
      fun tag htag hinspect => (verifies_tag_iff hname htag hinspect).2 h⟩

namespace Sample

/-- A trusted image in a registry with a port. -/
def trustPort : List TrustCall := [.add "host:5000/repo" "sha256:abc" none none]

theorem refPart_digest : RefPart "sha256:abc" := ⟨by decide, by decide⟩

/-- It is not verified. -/
theorem port_not_recognized :
    InForce trustPort "host:5000/repo"
      ⟨"host:5000/repo", "sha256:abc", none, ["linux/amd64", "linux/arm64"]⟩ ∧
    ¬Recognized noTools (TrustCall.execAll false trustPort) "host:5000/repo" "sha256:abc" := by
  refine ⟨⟨[], _, none, none, [], rfl, fun _ h => absurd h List.not_mem_nil, rfl⟩, fun h => ?_⟩
  obtain ⟨manifest, hmanifest, -⟩ :=
    (verifies_digest_iff ⟨by decide, by decide⟩ refPart_digest).1 h.byDigest
  rw [← get?_execAll false] at hmanifest
  cases hmanifest

/-- One without a port is. -/
theorem base_recognized :
    Recognized noTools (TrustCall.execAll false trustBase) "vibeshield/base" "sha256:abc" :=
  (trusted_image_recognized_iff trustBase noTools "vibeshield/base"
    ⟨"vibeshield/base", "sha256:abc", none, ["linux/amd64", "linux/arm64"]⟩
    ⟨[], _, none, none, [], rfl, fun _ h => absurd h List.not_mem_nil, rfl⟩
    ⟨by decide, by decide⟩ refPart_digest).2 (.inl (by decide))

end Sample

end VibeShield
