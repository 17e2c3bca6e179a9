import Mathlib.Logic.Basic

/-!
# When a computation refuses

A computation with a state and exceptions (`EStateM`) *refuses* if it ends in an
exception. A sequence of checks refuses if one of them does, but what a check
finds depends on what the ones before it did to the state. `RefusesIff I x c V`
says that from all states of the invariant `I` the computation `x` refuses exactly
if `c` holds, in particular regardless of the rest of the state; it keeps the
invariant, and its value has the property `V`.

The rules compose such statements along the computation (`RefusesIff.bind`), and
`RefusesIff.refuses_iff` reads the condition off at the end. What a computation that does
not refuse returns is stated by `Ensures`, with similar rules.
-/

universe u

variable {ε σ α β : Type u}

/-- The computation ends in an exception. -/
def Refuses (x : EStateM ε σ α) (s : σ) : Prop := ∃ e s', x s = .error e s'

/-- A value that is returned, with the state that the computation leaves. -/
theorem exists_of_run'_eq_some {x : EStateM ε σ α} {s : σ} {a : α} (h : x.run' s = some a) :
    ∃ s', x s = .ok a s' := by
  delta EStateM.run' EStateM.run at h
  cases hxs : x s with
  | error e s' =>
    rw [hxs] at h
    cases h
  | ok b s' =>
    rw [hxs] at h
    exact ⟨s', by rw [Option.some.inj h]⟩

/-- An update of the state at the beginning. -/
theorem refuses_modify_bind {g : σ → σ} {f : PUnit → EStateM ε σ α} {s : σ} :
    Refuses (modify g >>= f) s ↔ Refuses (f ⟨⟩) (g s) := Iff.rfl

/-- From the states with `I`, the computation refuses exactly if `c` holds; it
    keeps `I`, and its value has the property `V`. -/
def RefusesIff (I : σ → Prop) (x : EStateM ε σ α) (c : Prop) (V : α → Prop) : Prop :=
  ∀ s, I s → match x s with
    | .ok a s' => ¬c ∧ V a ∧ I s'
    | .error _ s' => c ∧ I s'

/-- The condition of a refusal, read off. -/
theorem RefusesIff.refuses_iff {I : σ → Prop} {x : EStateM ε σ α} {c : Prop} {V : α → Prop}
    (hx : RefusesIff I x c V) {s : σ} (hs : I s) : Refuses x s ↔ c := by
  have h := hx s hs
  rw [Refuses]
  cases hxs : x s with
  | ok a s' =>
    rw [hxs] at h
    exact iff_of_false (fun ⟨_, _, h'⟩ => absurd h' nofun) h.1
  | error e s' =>
    rw [hxs] at h
    exact iff_of_true ⟨e, s', rfl⟩ h.1

namespace RefusesIff

variable {I : σ → Prop} {x : EStateM ε σ α} {f : α → EStateM ε σ β} {c d : Prop}
  {V : α → Prop} {W : β → Prop}

/-- The condition and the property of the value may be rewritten. -/
theorem congr (hx : RefusesIff I x c V) (hc : c ↔ d) {V' : α → Prop} (hV : ∀ a, V a → V' a) :
    RefusesIff I x d V' := by
  intro s hs
  have h := hx s hs
  cases hxs : x s with
  | ok a s' =>
    rw [hxs] at h
    exact ⟨fun hd => h.1 (hc.2 hd), hV a h.2.1, h.2.2⟩
  | error e s' =>
    rw [hxs] at h
    exact ⟨hc.1 h.1, h.2⟩

theorem pure {a : α} (ha : V a) : RefusesIff I (Pure.pure a : EStateM ε σ α) False V :=
  fun _ hs => ⟨not_false, ha, hs⟩

theorem throw (e : ε) : RefusesIff I (MonadExcept.throw e : EStateM ε σ α) True V :=
  fun _ hs => ⟨trivial, hs⟩

/-- A sequence refuses if its first part does, or else the second. -/
theorem bind (hx : RefusesIff I x c V) (hf : ∀ a, ¬c → V a → RefusesIff I (f a) d W) :
    RefusesIff I (x >>= f) (c ∨ d) W := by
  intro s hs
  have h := hx s hs
  -- The second part runs from the state that the first one leaves, which meets `I`.
  change match EStateM.bind x f s with
    | .ok b s' => ¬(c ∨ d) ∧ W b ∧ I s'
    | .error _ s' => (c ∨ d) ∧ I s'
  rw [EStateM.bind]
  cases hxs : x s with
  | error e s' =>
    rw [hxs] at h
    exact ⟨.inl h.1, h.2⟩
  | ok a s' =>
    rw [hxs] at h
    obtain ⟨hc, ha, hs'⟩ := h
    have h' := hf a hc ha s' hs'
    dsimp only
    cases hfs : f a s' with
    | error e s'' =>
      rw [hfs] at h'
      exact ⟨.inr h'.1, h'.2⟩
    | ok b s'' =>
      rw [hfs] at h'
      exact ⟨not_or.2 ⟨hc, h'.1⟩, h'.2⟩

/-- A part that is only run if `p` holds. -/
theorem whenever {p : Prop} [Decidable p] {x : EStateM ε σ PUnit} {V : PUnit → Prop}
    (hx : p → RefusesIff I x c V) (hV : V ⟨⟩) :
    RefusesIff I (if p then x else Pure.pure ⟨⟩) (p ∧ c) V := by
  by_cases hp : p
  · rw [if_pos hp]
    exact (hx hp).congr (by rw [and_iff_right hp]) fun _ => id
  · rw [if_neg hp]
    exact (pure hV).congr (iff_of_false not_false fun h => hp h.1) fun _ => id

/-- A check that raises an exception if `p` holds. -/
theorem check (p : Prop) [Decidable p] (e : ε) :
    RefusesIff I (if p then MonadExcept.throw e else Pure.pure ⟨⟩ : EStateM ε σ PUnit) p
      fun _ => True :=
  (whenever (fun _ => throw e) trivial).congr (and_iff_left trivial) fun _ => id

theorem modify {g : σ → σ} (hg : ∀ s, I s → I (g s)) :
    RefusesIff I (modify g : EStateM ε σ PUnit) False fun _ => True :=
  fun s hs => ⟨not_false, trivial, hg s hs⟩

/-- What is read of the state meets the invariant. -/
theorem get : RefusesIff I (MonadState.get : EStateM ε σ σ) False I :=
  fun _ hs => ⟨not_false, hs, hs⟩

end RefusesIff

/-- A computation without a state. -/
theorem RefusesIff.ofExcept {I : σ → Prop} {x : Except ε α} {c : Prop} {V : α → Prop}
    (hok : ∀ a, x = .ok a → ¬c ∧ V a) (herror : ∀ e, x = .error e → c) :
    RefusesIff I (MonadExcept.ofExcept x : EStateM ε σ α) c V := by
  intro s hs
  cases x with
  | ok a => exact ⟨(hok a rfl).1, (hok a rfl).2, hs⟩
  | error e => exact ⟨herror e rfl, hs⟩

/-! ## What is returned -/

/-- From any state, what the computation returns has the property `V`. -/
def Ensures (x : EStateM ε σ α) (V : α → Prop) : Prop := ∀ s a s', x s = .ok a s' → V a

namespace Ensures

variable {x : EStateM ε σ α} {f : α → EStateM ε σ β} {V V' : α → Prop} {W : β → Prop}

theorem any : Ensures x fun _ => True := fun _ _ _ _ => trivial

theorem mono (hx : Ensures x V) (h : ∀ a, V a → V' a) : Ensures x V' :=
  fun s a s' ha => h a (hx s a s' ha)

theorem pure {a : α} (ha : V a) : Ensures (Pure.pure a : EStateM ε σ α) V := by
  rintro s _ _ ⟨⟩
  exact ha

theorem throw (e : ε) : Ensures (MonadExcept.throw e : EStateM ε σ α) V :=
  fun _ _ _ h => absurd h nofun

/-- What the second part returns may be shown knowing what the first part has returned. -/
theorem bind (hx : Ensures x V) (hf : ∀ a, V a → Ensures (f a) W) : Ensures (x >>= f) W := by
  intro s b s'' h
  change EStateM.bind x f s = _ at h
  rw [EStateM.bind] at h
  cases hxs : x s with
  | error e s' =>
    rw [hxs] at h
    exact absurd h nofun
  | ok a s' =>
    rw [hxs] at h
    exact hf a (hx s a s' hxs) s' b s'' h

theorem ite {p : Prop} [Decidable p] {x y : EStateM ε σ α} (hx : p → Ensures x V)
    (hy : ¬p → Ensures y V) : Ensures (if p then x else y) V := by
  by_cases hp : p
  · rw [if_pos hp]
    exact hx hp
  · rw [if_neg hp]
    exact hy hp

/-- A check that raises an exception if `p` holds. -/
theorem check (p : Prop) [Decidable p] (e : ε) :
    Ensures (if p then MonadExcept.throw e else Pure.pure ⟨⟩ : EStateM ε σ PUnit)
      fun _ => ¬p :=
  ite (fun _ => throw e) fun hp => pure hp

/-- A computation without a state. -/
theorem ofExcept {x : Except ε α} (h : ∀ a, x = .ok a → V a) :
    Ensures (MonadExcept.ofExcept x : EStateM ε σ α) V := by
  cases x with
  | ok a => exact pure (h a rfl)
  | error e => exact throw e

end Ensures

/-- A sequence fails if its second part always does. -/
theorem exists_bind_eq_error {x : Except ε α} {f : α → Except ε β}
    (hf : ∀ a, ∃ e, f a = .error e) : ∃ e, (x >>= f) = .error e := by
  cases x with
  | error e => exact ⟨e, rfl⟩
  | ok a => exact hf a

/-- If a sequence succeeds, so do its parts. -/
theorem Except.exists_of_bind_eq_ok {x : Except ε α} {f : α → Except ε β} {b : β}
    (h : x >>= f = .ok b) : ∃ a, x = .ok a ∧ f a = .ok b := by
  cases x with
  | ok a => exact ⟨a, rfl, h⟩
  | error e => cases h

/-- A sequence fails as another one does whose second part fails more often. -/
theorem Except.bind_eq_error_of_imp {γ : Type u} {x : Except ε α} {f : α → Except ε β}
    {g : α → Except ε γ} {e : ε} (hfg : ∀ a, f a = .error e → g a = .error e)
    (h : x >>= f = .error e) : x >>= g = .error e := by
  cases x with
  | ok a => exact hfg a h
  | error e' =>
    cases h
    rfl

/-- Only the first part of a sequence fails if the second one does not. -/
theorem Except.eq_error_of_bind_pure {x : Except ε α} {f : α → β} {e : ε}
    (h : (x >>= fun a => pure (f a)) = .error e) : x = .error e := by
  cases x with
  | ok a => cases h
  | error e' =>
    cases h
    rfl

section Lists

variable {ε : Type*} {α : Type*} {β : Type*}

/-- A list of such computations that all succeed. -/
theorem mapM_eq_ok {f : α → Except ε β} {g : α → β} {l : List α}
    (h : ∀ a ∈ l, f a = .ok (g a)) : l.mapM f = .ok (l.map g) := by
  induction l with
  | nil => rfl
  | cons a l ih =>
    rw [List.mapM_cons, h a List.mem_cons_self, ih fun b hb => h b (List.mem_cons_of_mem _ hb)]
    rfl

/-- If one of them fails, so does the list. -/
theorem exists_mapM_eq_error {f : α → Except ε β} {l : List α}
    (h : ∃ a ∈ l, ∃ e, f a = .error e) : ∃ e, l.mapM f = .error e := by
  induction l with
  | nil =>
    obtain ⟨a, ha, _⟩ := h
    exact absurd ha List.not_mem_nil
  | cons a l ih =>
    rw [List.mapM_cons]
    cases hfa : f a with
    | error e => exact ⟨e, rfl⟩
    | ok b =>
      obtain ⟨a', ha', e, he⟩ := h
      rcases List.mem_cons.1 ha' with rfl | ha'
      · exact absurd (hfa.symm.trans he) nofun
      · obtain ⟨e', he'⟩ := ih ⟨a', ha', e, he⟩
        rw [he']
        exact ⟨e', rfl⟩

/-- If the list fails, one of them does. -/
theorem exists_of_mapM_eq_error {f : α → Except ε β} {l : List α} {e : ε}
    (h : l.mapM f = .error e) : ∃ a ∈ l, f a = .error e := by
  induction l with
  | nil => cases h
  | cons a l ih =>
    rw [List.mapM_cons] at h
    cases hfa : f a with
    | error e' =>
      rw [hfa] at h
      cases h
      exact ⟨a, List.mem_cons_self, hfa⟩
    | ok b =>
      rw [hfa] at h
      cases hl : l.mapM f with
      | ok bs =>
        rw [hl] at h
        cases h
      | error e' =>
        rw [hl] at h
        cases h
        obtain ⟨a', ha', herror⟩ := ih hl
        exact ⟨a', List.mem_cons_of_mem _ ha', herror⟩

end Lists
