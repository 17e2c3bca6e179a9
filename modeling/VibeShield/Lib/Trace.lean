import Mathlib.Order.Defs.Unbundled
import VibeShield.Lib.Refusal

/-!
# What a computation records

A state may keep a list of what has been done, its trace. `Appends trace P x` says that from
all states the computation `x` only appends to the trace, and only items with the property
`P`, whether it returns or raises an exception. `Preserves part x` says that the computation
leaves a part of the state as it is. As with `Ensures`, there is a rule for each way in which
computations are composed. Exactly what is appended is told by `Returns` for computations that
return, by `Raises` for those that raise an exception, and by `Logs` for both. `Leads R x` is the
general case: the states before and after the computation are related by `R`, which may be any
reflexive and transitive relation.
-/

universe u

variable {ε σ α β : Type u}

/-- The state in which a run of a computation ends. -/
def endState : EStateM.Result ε σ α → σ
  | .ok _ s => s
  | .error _ s => s

/-- A run that ends in the state `s`. -/
def endsIn (x : Except ε α) (s : σ) : EStateM.Result ε σ α :=
  match x with
  | .ok a => .ok a s
  | .error e => .error e s

@[simp] theorem endState_endsIn (x : Except ε α) (s : σ) : endState (endsIn x s) = s := by
  cases x with
  | ok a => rfl
  | error e => rfl

theorem bind_of_ok {x : EStateM ε σ α} {f : α → EStateM ε σ β} {s s' : σ} {a : α}
    (h : x s = .ok a s') : (x >>= f) s = f a s' := by
  change EStateM.bind x f s = _
  rw [EStateM.bind, h]

theorem bind_of_error {x : EStateM ε σ α} {f : α → EStateM ε σ β} {s s' : σ} {e : ε}
    (h : x s = .error e s') : (x >>= f) s = .error e s' := by
  change EStateM.bind x f s = _
  rw [EStateM.bind, h]

/-- A computation without a state ends where it has begun. -/
theorem ofExcept_apply (x : Except ε α) (s : σ) :
    (MonadExcept.ofExcept x : EStateM ε σ α) s = endsIn x s := by
  cases x with
  | ok a => rfl
  | error e => rfl

/-- A sequence that returns, taken apart. -/
theorem exists_of_bind_eq_ok {x : EStateM ε σ α} {f : α → EStateM ε σ β} {s s'' : σ} {b : β}
    (h : (x >>= f) s = .ok b s'') : ∃ a s', x s = .ok a s' ∧ f a s' = .ok b s'' := by
  cases hxs : x s with
  | error e s' =>
    rw [bind_of_error hxs] at h
    cases h
  | ok a s' =>
    rw [bind_of_ok hxs] at h
    exact ⟨a, s', rfl, h⟩

/-- A sequence ends as another one does that has no state, if its parts do. -/
theorem exists_bind_eq_endsIn {x : EStateM ε σ α} {f : α → EStateM ε σ β} {y : Except ε α}
    {g : α → Except ε β} {s : σ} (hx : ∃ s', x s = endsIn y s')
    (hf : ∀ a s', x s = .ok a s' → ∃ s'', f a s' = endsIn (g a) s'') :
    ∃ s'', (x >>= f) s = endsIn (y >>= g) s'' := by
  obtain ⟨s', hs'⟩ := hx
  cases y with
  | error e => exact ⟨s', bind_of_error hs'⟩
  | ok a =>
    obtain ⟨s'', hs''⟩ := hf a s' hs'
    exact ⟨s'', (bind_of_ok hs').trans hs''⟩

/-- Catching an exception does not take back what has been done. -/
theorem endState_tryCatch {x : EStateM ε σ α} {handle : ε → EStateM ε σ α}
    (hhandle : ∀ e s, endState (handle e s) = s) (s : σ) :
    endState (tryCatch x handle s) = endState (x s) := by
  change endState (EStateM.tryCatch x handle s) = _
  delta EStateM.tryCatch
  cases x s with
  | ok a s' => rfl
  | error e s' => exact hhandle e s'

/-- All that the computation appends to the trace has the property `P`. -/
def Appends {τ : Type*} (trace : σ → List τ) (P : τ → Prop) (x : EStateM ε σ α) : Prop :=
  ∀ s, ∃ ts, trace (endState (x s)) = trace s ++ ts ∧ ∀ t ∈ ts, P t

namespace Appends

variable {τ : Type*} {trace : σ → List τ} {P : τ → Prop} {x : EStateM ε σ α}
  {f : α → EStateM ε σ β}

/-- A computation that leaves the trace as it is. -/
theorem of_eq (h : ∀ s, trace (endState (x s)) = trace s) : Appends trace P x :=
  fun s => ⟨[], by rw [h, List.append_nil], fun _ ht => absurd ht List.not_mem_nil⟩

theorem mono {Q : τ → Prop} (hx : Appends trace P x) (h : ∀ t, P t → Q t) :
    Appends trace Q x := by
  intro s
  obtain ⟨ts, hts, hP⟩ := hx s
  exact ⟨ts, hts, fun t ht => h t (hP t ht)⟩

theorem pure (a : α) : Appends trace P (Pure.pure a : EStateM ε σ α) := of_eq fun _ => rfl

theorem throw (e : ε) : Appends trace P (MonadExcept.throw e : EStateM ε σ α) :=
  of_eq fun _ => rfl

theorem get : Appends trace P (MonadState.get : EStateM ε σ σ) := of_eq fun _ => rfl

/-- An update of the rest of the state. -/
theorem modify {g : σ → σ} (hg : ∀ s, trace (g s) = trace s) :
    Appends trace P (modify g : EStateM ε σ PUnit) := of_eq hg

/-- A computation without a state. -/
theorem ofExcept (x : Except ε α) : Appends trace P (MonadExcept.ofExcept x : EStateM ε σ α) := by
  cases x with
  | ok a => exact pure a
  | error e => exact throw e

/-- The second part appends to what the first one leaves; its argument is known to have a
    property that the first part ensures. -/
theorem bind_of_ensures {V : α → Prop} (hx : Appends trace P x) (hV : Ensures x V)
    (hf : ∀ a, V a → Appends trace P (f a)) : Appends trace P (x >>= f) := by
  intro s
  obtain ⟨ts, hts, hP⟩ := hx s
  cases hxs : x s with
  | error e s' =>
    rw [bind_of_error hxs]
    rw [hxs] at hts
    exact ⟨ts, hts, hP⟩
  | ok a s' =>
    rw [bind_of_ok hxs]
    rw [hxs] at hts
    obtain ⟨ts', hts', hP'⟩ := hf a (hV s a s' hxs) s'
    refine ⟨ts ++ ts', ?_, fun t ht => (List.mem_append.1 ht).elim (hP t) (hP' t)⟩
    rw [hts', ← List.append_assoc]
    exact congrArg (· ++ ts') hts

theorem bind (hx : Appends trace P x) (hf : ∀ a, Appends trace P (f a)) :
    Appends trace P (x >>= f) :=
  hx.bind_of_ensures Ensures.any fun a _ => hf a

/-- What is in the trace stays there. -/
theorem mem_of_mem (hx : Appends trace P x) {s : σ} {t : τ} (ht : t ∈ trace s) :
    t ∈ trace (endState (x s)) := by
  obtain ⟨ts, hts, _⟩ := hx s
  rw [hts]
  exact List.mem_append_left _ ht

/-- What is in the trace at the end was there before, or has the property. -/
theorem of_mem (hx : Appends trace P x) {s : σ} {t : τ} (ht : t ∈ trace (endState (x s))) :
    t ∈ trace s ∨ P t := by
  obtain ⟨ts, hts, hP⟩ := hx s
  rw [hts] at ht
  exact (List.mem_append.1 ht).imp_right (hP t)

end Appends

/-- The computation leaves the part of the state as it is. -/
def Preserves {τ : Type*} (part : σ → τ) (x : EStateM ε σ α) : Prop :=
  ∀ s, part (endState (x s)) = part s

namespace Preserves

variable {τ : Type*} {part : σ → τ} {x : EStateM ε σ α} {f : α → EStateM ε σ β}

theorem pure (a : α) : Preserves part (Pure.pure a : EStateM ε σ α) := fun _ => rfl

theorem get : Preserves part (MonadState.get : EStateM ε σ σ) := fun _ => rfl

/-- A computation without a state. -/
theorem ofExcept (x : Except ε α) : Preserves part (MonadExcept.ofExcept x : EStateM ε σ α) := by
  intro s
  cases x with
  | ok a => rfl
  | error e => rfl

theorem bind (hx : Preserves part x) (hf : ∀ a, Preserves part (f a)) :
    Preserves part (x >>= f) := by
  intro s
  have hs := hx s
  cases hxs : x s with
  | error e s' =>
    rw [bind_of_error hxs]
    rw [hxs] at hs
    exact hs
  | ok a s' =>
    rw [bind_of_ok hxs]
    rw [hxs] at hs
    exact (hf a s').trans hs

end Preserves

/-! ## Exactly what is appended -/

/-- From the states with `I`, the computation returns, and appends `ts` to the trace; its
    value has the property `V`, and it keeps `I`. -/
def Returns {τ : Type*} (I : σ → Prop) (trace : σ → List τ) (x : EStateM ε σ α)
    (V : α → Prop) (ts : List τ) : Prop :=
  ∀ s, I s → ∃ a s', x s = .ok a s' ∧ V a ∧ I s' ∧ trace s' = trace s ++ ts

/-- From the states with `I`, the computation raises an exception, after it has appended `ts`
    to the trace. -/
def Raises {τ : Type*} (I : σ → Prop) (trace : σ → List τ) (x : EStateM ε σ α)
    (ts : List τ) : Prop :=
  ∀ s, I s → ∃ e s', x s = .error e s' ∧ I s' ∧ trace s' = trace s ++ ts

/-- From the states with `I`, the computation appends `ts` to the trace, whether it returns
    or raises an exception. -/
def Logs {τ : Type*} (I : σ → Prop) (trace : σ → List τ) (x : EStateM ε σ α)
    (ts : List τ) : Prop :=
  ∀ s, I s → trace (endState (x s)) = trace s ++ ts

section Exactly

variable {τ : Type*} {I : σ → Prop} {trace : σ → List τ} {x : EStateM ε σ α}
  {f : α → EStateM ε σ β} {V : α → Prop} {W : β → Prop} {ts ts' : List τ}

namespace Returns

theorem logs (hx : Returns I trace x V ts) : Logs I trace x ts := by
  intro s hs
  obtain ⟨a, s', hxs, _, _, htrace⟩ := hx s hs
  rw [hxs]
  exact htrace

theorem pure {a : α} (ha : V a) : Returns I trace (Pure.pure a : EStateM ε σ α) V [] :=
  fun s hs => ⟨a, s, rfl, ha, hs, (List.append_nil _).symm⟩

/-- An update of the rest of the state. -/
theorem modify {g : σ → σ} (hI : ∀ s, I s → I (g s)) (hg : ∀ s, trace (g s) = trace s) :
    Returns I trace (modify g : EStateM ε σ PUnit) (fun _ => True) [] :=
  fun s hs => ⟨⟨⟩, g s, rfl, trivial, hI s hs, by rw [hg, List.append_nil]⟩

theorem get : Returns I trace (MonadState.get : EStateM ε σ σ) (fun _ => True) [] :=
  fun s hs => ⟨s, s, rfl, trivial, hs, (List.append_nil _).symm⟩

/-- A computation without a state that succeeds. -/
theorem ofExcept {y : Except ε α} {a : α} (hy : y = .ok a) :
    Returns I trace (MonadExcept.ofExcept y : EStateM ε σ α) (· = a) [] := by
  rw [hy]
  exact pure rfl

theorem bind (hx : Returns I trace x V ts) (hf : ∀ a, V a → Returns I trace (f a) W ts') :
    Returns I trace (x >>= f) W (ts ++ ts') := by
  intro s hs
  obtain ⟨a, s', hxs, ha, hs', htrace⟩ := hx s hs
  obtain ⟨b, s'', hfs, hb, hs'', htrace'⟩ := hf a ha s' hs'
  refine ⟨b, s'', (bind_of_ok hxs).trans hfs, hb, hs'', ?_⟩
  rw [htrace', htrace, List.append_assoc]

theorem bind_raises (hx : Returns I trace x V ts) (hf : ∀ a, V a → Raises I trace (f a) ts') :
    Raises I trace (x >>= f) (ts ++ ts') := by
  intro s hs
  obtain ⟨a, s', hxs, ha, hs', htrace⟩ := hx s hs
  obtain ⟨e, s'', hfs, hs'', htrace'⟩ := hf a ha s' hs'
  refine ⟨e, s'', (bind_of_ok hxs).trans hfs, hs'', ?_⟩
  rw [htrace', htrace, List.append_assoc]

theorem bind_logs (hx : Returns I trace x V ts) (hf : ∀ a, V a → Logs I trace (f a) ts') :
    Logs I trace (x >>= f) (ts ++ ts') := by
  intro s hs
  obtain ⟨a, s', hxs, ha, hs', htrace⟩ := hx s hs
  rw [bind_of_ok hxs, hf a ha s' hs', htrace, List.append_assoc]

/-! A part that appends nothing is passed over. -/

theorem skip (hx : Returns I trace x V []) (hf : ∀ a, V a → Returns I trace (f a) W ts) :
    Returns I trace (x >>= f) W ts :=
  hx.bind hf

theorem skip_raises (hx : Returns I trace x V []) (hf : ∀ a, V a → Raises I trace (f a) ts) :
    Raises I trace (x >>= f) ts :=
  hx.bind_raises hf

theorem skip_logs (hx : Returns I trace x V []) (hf : ∀ a, V a → Logs I trace (f a) ts) :
    Logs I trace (x >>= f) ts :=
  hx.bind_logs hf

/-- A part at the end that appends nothing. -/
theorem bind_silent (hx : Returns I trace x V ts) (hf : ∀ a, V a → Returns I trace (f a) W []) :
    Returns I trace (x >>= f) W ts := by
  simpa using hx.bind hf

/-- An exception at the end. -/
theorem bind_throw (hx : Returns I trace x V ts) (hf : ∀ a, V a → Raises I trace (f a) []) :
    Raises I trace (x >>= f) ts := by
  simpa using hx.bind_raises hf

end Returns

namespace Raises

theorem logs (hx : Raises I trace x ts) : Logs I trace x ts := by
  intro s hs
  obtain ⟨e, s', hxs, _, htrace⟩ := hx s hs
  rw [hxs]
  exact htrace

theorem throw (e : ε) : Raises I trace (MonadExcept.throw e : EStateM ε σ α) [] :=
  fun s hs => ⟨e, s, rfl, hs, (List.append_nil _).symm⟩

/-- A computation without a state that fails. -/
theorem ofExcept {y : Except ε α} {e : ε} (hy : y = .error e) :
    Raises I trace (MonadExcept.ofExcept y : EStateM ε σ α) [] := by
  rw [hy]
  exact throw e

/-- What would come next is not run. -/
theorem bind (hx : Raises I trace x ts) : Raises I trace (x >>= f) ts := by
  intro s hs
  obtain ⟨e, s', hxs, hs', htrace⟩ := hx s hs
  exact ⟨e, s', bind_of_error hxs, hs', htrace⟩

end Raises

/-- A computation that keeps the trace. -/
theorem Preserves.logs (hx : Preserves trace x) : Logs I trace x [] := by
  intro s _
  rw [hx s, List.append_nil]

end Exactly

/-! ## Parts that are not looked at -/

/-- The computation takes no notice of the change `g` of the state: it ends in the same way, in a
    state that is changed by `g`. -/
def Oblivious (g : σ → σ) (x : EStateM ε σ α) : Prop :=
  ∀ s, x (g s) = match x s with
    | .ok a s' => .ok a (g s')
    | .error e s' => .error e (g s')

namespace Oblivious

variable {g : σ → σ} {x : EStateM ε σ α} {f : α → EStateM ε σ β}

theorem pure (a : α) : Oblivious g (Pure.pure a : EStateM ε σ α) := fun _ => rfl

theorem throw (e : ε) : Oblivious g (MonadExcept.throw e : EStateM ε σ α) := fun _ => rfl

theorem modify {h : σ → σ} (hg : ∀ s, h (g s) = g (h s)) :
    Oblivious g (modify h : EStateM ε σ PUnit) := by
  intro s
  exact congrArg (EStateM.Result.ok PUnit.unit) (hg s)

theorem ofExcept (y : Except ε α) : Oblivious g (MonadExcept.ofExcept y : EStateM ε σ α) := by
  intro s
  cases y with
  | ok a => rfl
  | error e => rfl

theorem bind (hx : Oblivious g x) (hf : ∀ a, Oblivious g (f a)) : Oblivious g (x >>= f) := by
  intro s
  have hs := hx s
  cases hxs : x s with
  | ok a s' =>
    rw [hxs] at hs
    rw [bind_of_ok hs, bind_of_ok hxs]
    exact hf a s'
  | error e s' =>
    rw [hxs] at hs
    rw [bind_of_error hs, bind_of_error hxs]

theorem tryCatch {handle : ε → EStateM ε σ α} (hx : Oblivious g x)
    (hhandle : ∀ e, Oblivious g (handle e)) : Oblivious g (MonadExcept.tryCatch x handle) := by
  intro s
  have hs := hx s
  change EStateM.tryCatch x handle (g s) = match EStateM.tryCatch x handle s with
    | .ok a s' => .ok a (g s')
    | .error e s' => .error e (g s')
  delta EStateM.tryCatch
  dsimp only
  rw [hs]
  cases x s with
  | ok a s' => rfl
  | error e s' => exact hhandle e s'

/-- How the computation ends does not depend on what `g` changes. -/
theorem endsIn_iff (hx : Oblivious g x) (s : σ) :
    ∃ y : Except ε α, x s = endsIn y (endState (x s)) ∧
      x (g s) = endsIn y (g (endState (x s))) := by
  have hs := hx s
  cases hxs : x s with
  | ok a s' =>
    rw [hxs] at hs
    exact ⟨.ok a, rfl, hs⟩
  | error e s' =>
    rw [hxs] at hs
    exact ⟨.error e, rfl, hs⟩

end Oblivious

/-! ## What a computation leads to -/

/-- The state that the computation leaves, however it ends, is related to the one it has found. -/
def Leads (R : σ → σ → Prop) (x : EStateM ε σ α) : Prop := ∀ s, R s (endState (x s))

namespace Leads

variable {R : σ → σ → Prop} {x : EStateM ε σ α} {f : α → EStateM ε σ β}

section Refl

variable [Std.Refl R]

theorem pure (a : α) : Leads R (Pure.pure a : EStateM ε σ α) := fun s => Std.Refl.refl s

theorem throw (e : ε) : Leads R (MonadExcept.throw e : EStateM ε σ α) := fun s => Std.Refl.refl s

theorem get : Leads R (MonadState.get : EStateM ε σ σ) := fun s => Std.Refl.refl s

/-- A computation without a state. -/
theorem ofExcept (y : Except ε α) : Leads R (MonadExcept.ofExcept y : EStateM ε σ α) := by
  cases y with
  | ok a => exact pure a
  | error e => exact throw e

end Refl

theorem modify {g : σ → σ} (hg : ∀ s, R s (g s)) : Leads R (modify g : EStateM ε σ PUnit) := hg

theorem bind [IsTrans σ R] (hx : Leads R x) (hf : ∀ a, Leads R (f a)) : Leads R (x >>= f) := by
  intro s
  have hs := hx s
  cases hxs : x s with
  | error e s' =>
    rw [bind_of_error hxs]
    rw [hxs] at hs
    exact hs
  | ok a s' =>
    rw [bind_of_ok hxs]
    rw [hxs] at hs
    exact IsTrans.trans _ _ _ hs (hf a s')

end Leads
