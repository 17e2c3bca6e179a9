import Mathlib.Data.List.Induction
import Mathlib.Logic.Function.Basic

/-!
# Deterministic machines and their runs

A machine answers every input with an output and a next state (`Machine.step`).
A run feeds it a list of inputs: `Machine.run` is the state it ends in,
`Machine.events` what happened on the way, one event an input.

Two rules carry all that is proved about runs:

* `Machine.history_induction`: a relation between the history so far and the
  state, kept by every step, holds at the end of every run. The steps may be
  restricted by a guard, a condition on the state before a step and its input;
* `Machine.invariant`: the same for a predicate of the state alone.

Where a predicate comes from that holds at the end of a run is told by `Machine.since_of_run`. For
inputs that are pairwise related, e.g. by their times, there is `Machine.pairwise_induction`.

Two machines are compared by running them side by side
(`Machine.par`): if their steps keep a relation and answer alike, so do their runs
(`Machine.outputs_eq_of_simulation`). In a family of machines (`Machine.family`), every
one runs on the inputs that concern it (`Machine.outputsAt_family`); this is also how a part of a
machine is compared with a machine of its own (`Machine.simulates_at`). That some inputs do not
interfere with the answers to the others is proved by unwinding (`Machine.Unwinding`).
-/

/-- A deterministic machine with states `σ`, inputs `ι` and outputs `ο`. -/
structure Machine (σ ι ο : Type*) where
  /-- The next state and the output. -/
  step : σ → ι → σ × ο

namespace Machine

variable {σ ι ο : Type*}

/-- One step of a run. -/
structure Event (σ ι ο : Type*) where
  /-- The state before the step. -/
  pre : σ
  /-- What the machine is given. -/
  input : ι
  /-- What it answers. -/
  output : ο
  /-- The state after the step. -/
  post : σ

variable (M : Machine σ ι ο)

/-- The step of `M` from `s` on the input `i`. -/
def event (s : σ) (i : ι) : Event σ ι ο := ⟨s, i, (M.step s i).2, (M.step s i).1⟩

/-- The state after the inputs `is`, from `s`. -/
def run (s : σ) : List ι → σ
  | [] => s
  | i :: is => run (M.step s i).1 is

/-- The steps taken on the inputs `is`, from `s`. -/
def events (s : σ) : List ι → List (Event σ ι ο)
  | [] => []
  | i :: is => M.event s i :: events (M.step s i).1 is

/-- The answers to the inputs `is`, from `s`. -/
def outputs (s : σ) (is : List ι) : List ο := (M.events s is).map Event.output

/-- Every step of the run on `is` from `s` meets the guard `G`. -/
def Guarded (G : σ → ι → Prop) (s : σ) (is : List ι) : Prop :=
  ∀ ev ∈ M.events s is, G ev.pre ev.input

variable {M}

theorem run_append (s : σ) (is js : List ι) : M.run s (is ++ js) = M.run (M.run s is) js := by
  induction is generalizing s with
  | nil => rfl
  | cons i is ih => exact ih _

theorem events_append (s : σ) (is js : List ι) :
    M.events s (is ++ js) = M.events s is ++ M.events (M.run s is) js := by
  induction is generalizing s with
  | nil => rfl
  | cons i is ih => exact congrArg _ (ih _)

theorem run_concat (s : σ) (is : List ι) (i : ι) :
    M.run s (is ++ [i]) = (M.step (M.run s is) i).1 :=
  run_append s is [i]

theorem events_concat (s : σ) (is : List ι) (i : ι) :
    M.events s (is ++ [i]) = M.events s is ++ [M.event (M.run s is) i] :=
  events_append s is [i]

theorem length_events (s : σ) (is : List ι) : (M.events s is).length = is.length := by
  induction is generalizing s with
  | nil => rfl
  | cons i is ih => rw [events, List.length_cons, ih, List.length_cons]

theorem map_input_events (s : σ) (is : List ι) : (M.events s is).map Event.input = is := by
  induction is generalizing s with
  | nil => rfl
  | cons i is ih => exact congrArg (i :: ·) (ih _)

theorem guarded_append {G : σ → ι → Prop} {s : σ} {is js : List ι} :
    M.Guarded G s (is ++ js) ↔ M.Guarded G s is ∧ M.Guarded G (M.run s is) js := by
  simp only [Guarded, events_append, List.mem_append, or_imp, forall_and]

/-- A relation between the history and the state that holds at the start and
    is kept by every guarded step holds at the end of every guarded run. -/
theorem history_induction {G : σ → ι → Prop} {P : List (Event σ ι ο) → σ → Prop} {s : σ}
    (hinit : P [] s)
    (hstep : ∀ evs t i, G t i → P evs t → P (evs ++ [M.event t i]) (M.step t i).1)
    (is : List ι) (hG : M.Guarded G s is) : P (M.events s is) (M.run s is) := by
  induction is using List.reverseRecOn with
  | nil => exact hinit
  | append_singleton is i ih =>
    obtain ⟨hG, hi⟩ := guarded_append.1 hG
    rw [events_concat, run_concat]
    exact hstep _ _ i (hi _ List.mem_cons_self) (ih hG)

/-- A predicate of the state kept by every guarded step is kept by every
    guarded run. -/
theorem invariant {G : σ → ι → Prop} {P : σ → Prop} {s : σ} (hinit : P s)
    (hstep : ∀ t i, G t i → P t → P (M.step t i).1) (is : List ι) (hG : M.Guarded G s is) :
    P (M.run s is) :=
  history_induction (P := fun _ => P) hinit (fun _ => hstep) is hG

/-- Every step of a run starts where the inputs before it lead. -/
theorem exists_prefix_of_mem_events {s : σ} {is : List ι} {ev : Event σ ι ο}
    (h : ev ∈ M.events s is) :
    ∃ js i ks, is = js ++ i :: ks ∧ ev = M.event (M.run s js) i := by
  induction is generalizing s with
  | nil => exact absurd h List.not_mem_nil
  | cons i is ih =>
    rcases List.mem_cons.1 h with rfl | h
    · exact ⟨[], i, is, rfl, rfl⟩
    · obtain ⟨js, j, ks, rfl, rfl⟩ := ih h
      exact ⟨i :: js, j, ks, rfl, rfl⟩

/-- The guard of a run speaks of every input and the state that the ones before it lead to. -/
theorem guarded_iff {G : σ → ι → Prop} {s : σ} {is : List ι} :
    M.Guarded G s is ↔ ∀ js i, js ++ [i] <+: is → G (M.run s js) i := by
  constructor
  · rintro h js i ⟨ks, rfl⟩
    have hsingle := (guarded_append.1 (guarded_append.1 h).1).2
    exact hsingle _ List.mem_cons_self
  · intro h ev hev
    obtain ⟨js, i, ks, rfl, rfl⟩ := exists_prefix_of_mem_events hev
    exact h js i ⟨ks, by rw [List.append_assoc, List.singleton_append]⟩

/-- If a condition on the inputs so far and the next one says exactly when a property of the
    inputs so far is kept, the property holds of all prefixes exactly if the condition does. -/
theorem forall_prefix_iff {P : List ι → Prop} {Q : List ι → ι → Prop} {is : List ι} (hinit : P [])
    (hstep : ∀ js i, js ++ [i] <+: is → P js → (P (js ++ [i]) ↔ Q js i)) :
    (∀ js, js <+: is → P js) ↔ ∀ js i, js ++ [i] <+: is → Q js i := by
  refine ⟨fun h js i hi => ?_, fun h js => ?_⟩
  · exact (hstep js i hi (h js ((List.prefix_append js [i]).trans hi))).1 (h _ hi)
  · induction js using List.reverseRecOn with
    | nil => exact fun _ => hinit
    | append_singleton js i ih =>
      exact fun hi => (hstep js i hi (ih ((List.prefix_append js [i]).trans hi))).2 (h js i hi)

/-- If the guard says exactly which steps keep a predicate, the predicate holds all
    along a run exactly if the run is guarded. -/
theorem invariant_iff_guarded {G : σ → ι → Prop} {P : σ → Prop} {s : σ} (hinit : P s)
    (hstep : ∀ t i, P t → (P (M.step t i).1 ↔ G t i)) (is : List ι) :
    (∀ js, js <+: is → P (M.run s js)) ↔ M.Guarded G s is := by
  rw [guarded_iff]
  refine forall_prefix_iff (P := fun js => P (M.run s js)) hinit fun js i _ hP => ?_
  rw [run_concat]
  exact hstep _ i hP

/-- If only inputs with the property `Q` bring a predicate about, and it holds at the end of a run,
    it has held all along or since such an input. -/
theorem since_of_run {P : σ → Prop} {Q : ι → Prop} {s : σ} {is : List ι}
    (hstep : ∀ t, ∀ i ∈ is, P (M.step t i).1 → P t ∨ Q i) (h : P (M.run s is)) :
    (∀ js, js <+: is → P (M.run s js)) ∨
      ∃ js i ks, is = js ++ i :: ks ∧ Q i ∧ ∀ ls, ls <+: ks → P (M.run s (js ++ i :: ls)) := by
  induction is using List.reverseRecOn with
  | nil =>
    refine .inl fun js hjs => ?_
    rw [List.prefix_nil.1 hjs]
    exact h
  | append_singleton is i ih =>
    have hlast : P (M.step (M.run s is) i).1 := by rwa [← run_concat]
    rcases hstep _ i (by simp) hlast with hP | hQ
    · obtain hall | ⟨js, j, ks, rfl, hj, hsince⟩ :=
        ih (fun t j hj => hstep t j (List.mem_append_left _ hj)) hP
      · refine .inl fun js hjs => ?_
        rcases List.prefix_concat_iff.1 hjs with rfl | hjs
        · exact h
        · exact hall js hjs
      · refine .inr ⟨js, j, ks ++ [i], by simp, hj, fun ls hls => ?_⟩
        rcases List.prefix_concat_iff.1 hls with rfl | hls
        · simpa using h
        · exact hsince ls hls
    · refine .inr ⟨is, i, [], rfl, hQ, fun ls hls => ?_⟩
      rw [List.prefix_nil.1 hls]
      exact h

/-! ## Ordered inputs -/

theorem input_mem_of_mem_events {s : σ} {is : List ι} {ev : Event σ ι ο}
    (h : ev ∈ M.events s is) : ev.input ∈ is := by
  obtain ⟨js, i, ks, rfl, rfl⟩ := exists_prefix_of_mem_events h
  exact List.mem_append_right js List.mem_cons_self

/-- A guard may be strengthened by what holds of the inputs. -/
theorem Guarded.and_forall {G : σ → ι → Prop} {Q : ι → Prop} {s : σ} {is : List ι}
    (hG : M.Guarded G s is) (hQ : ∀ i ∈ is, Q i) : M.Guarded (fun s i => G s i ∧ Q i) s is :=
  fun ev hev => ⟨hG ev hev, hQ _ (input_mem_of_mem_events hev)⟩

/-- A relation between the history and the state that holds at the start, and is
    kept by every step whose input has the property `Q` and is related to all
    inputs before it, holds at the end of every run on such inputs. -/
theorem pairwise_induction {Q : ι → Prop} {R : ι → ι → Prop}
    {P : List (Event σ ι ο) → σ → Prop} {s : σ} (hinit : P [] s)
    (hstep : ∀ evs t i, Q i → (∀ ev ∈ evs, R ev.input i) → P evs t →
      P (evs ++ [M.event t i]) (M.step t i).1)
    (is : List ι) (hQ : ∀ i ∈ is, Q i) (hR : is.Pairwise R) : P (M.events s is) (M.run s is) := by
  induction is using List.reverseRecOn with
  | nil => exact hinit
  | append_singleton is i ih =>
    obtain ⟨his, _, hi⟩ := List.pairwise_append.1 hR
    rw [events_concat, run_concat]
    refine hstep _ _ i (hQ i (by simp)) (fun ev hev => ?_)
      (ih (fun j hj => hQ j (List.mem_append_left _ hj)) his)
    exact hi _ (input_mem_of_mem_events hev) i (List.mem_singleton_self i)

/-! ## Two machines side by side -/

variable {τ π : Type*}

/-- Two machines on the same inputs. -/
def par (M : Machine σ ι ο) (N : Machine τ ι π) : Machine (σ × τ) ι (ο × π) where
  step s i := (((M.step s.1 i).1, (N.step s.2 i).1), (M.step s.1 i).2, (N.step s.2 i).2)

/-- If the guarded steps of two machines keep a relation of their states and
    answer alike, their guarded runs answer alike. -/
theorem outputs_eq_of_simulation {N : Machine τ ι ο} {R : σ → τ → Prop} {G : σ × τ → ι → Prop}
    (hstep : ∀ s t i, R s t → G (s, t) i →
      (M.step s i).2 = (N.step t i).2 ∧ R (M.step s i).1 (N.step t i).1)
    {s : σ} {t : τ} (hR : R s t) (is : List ι) (hG : (M.par N).Guarded G (s, t) is) :
    M.outputs s is = N.outputs t is := by
  induction is generalizing s t with
  | nil => rfl
  | cons i is ih =>
    obtain ⟨hout, hR'⟩ := hstep s t i hR (hG _ List.mem_cons_self)
    have htail : M.outputs (M.step s i).1 is = N.outputs (N.step t i).1 is :=
      ih hR' fun ev hev => hG ev (List.mem_cons_of_mem _ hev)
    exact congrArg₂ List.cons hout htail

/-- The states that the runs end in are related as well. -/
theorem run_of_simulation {N : Machine τ ι ο} {R : σ → τ → Prop} {G : σ × τ → ι → Prop}
    (hstep : ∀ s t i, R s t → G (s, t) i →
      (M.step s i).2 = (N.step t i).2 ∧ R (M.step s i).1 (N.step t i).1)
    {s : σ} {t : τ} (hR : R s t) (is : List ι) (hG : (M.par N).Guarded G (s, t) is) :
    R (M.run s is) (N.run t is) := by
  induction is generalizing s t with
  | nil => exact hR
  | cons i is ih =>
    obtain ⟨_, hR'⟩ := hstep s t i hR (hG _ List.mem_cons_self)
    exact ih hR' fun ev hev => hG ev (List.mem_cons_of_mem _ hev)

/-- If the steps of two machines on related inputs keep a relation of their states, and are
    answered by related outputs, so are their runs. -/
theorem forall₂_outputs {κ : Type*} {N : Machine τ κ π} {R : σ → τ → Prop} {I : ι → κ → Prop}
    {O : ο → π → Prop}
    (hstep : ∀ s t i j, R s t → I i j →
      O (M.step s i).2 (N.step t j).2 ∧ R (M.step s i).1 (N.step t j).1)
    {s : σ} {t : τ} (hR : R s t) {is : List ι} {js : List κ} (hI : List.Forall₂ I is js) :
    List.Forall₂ O (M.outputs s is) (N.outputs t js) := by
  induction hI generalizing s t with
  | nil => exact .nil
  | cons hij _ ih =>
    obtain ⟨hout, hR'⟩ := hstep s t _ _ hR hij
    exact .cons hout (ih hR')

/-! ## Families of machines -/

variable {κ : Type*} [DecidableEq κ]

/-- The answers to the inputs with the key `k`. -/
def outputsAt (M : Machine σ ι ο) (key : ι → κ) (k : κ) (s : σ) (is : List ι) : List ο :=
  ((M.events s is).filter fun ev => key ev.input = k).map Event.output

theorem outputsAt_cons (key : ι → κ) (k : κ) (s : σ) (i : ι) (is : List ι) :
    M.outputsAt key k s (i :: is) = if key i = k
      then (M.step s i).2 :: M.outputsAt key k (M.step s i).1 is
      else M.outputsAt key k (M.step s i).1 is := by
  by_cases hi : key i = k
  · rw [if_pos hi, outputsAt, events, List.filter_cons_of_pos (by simp [event, hi])]
    rfl
  · rw [if_neg hi, outputsAt, events, List.filter_cons_of_neg (by simp [event, hi])]
    rfl

theorem outputsAt_append (key : ι → κ) (k : κ) (s : σ) (is js : List ι) :
    M.outputsAt key k s (is ++ js) =
      M.outputsAt key k s is ++ M.outputsAt key k (M.run s is) js := by
  rw [outputsAt, events_append, List.filter_append, List.map_append]
  rfl

/-- Machines that answer alike do so at every key. -/
theorem outputsAt_congr {N : Machine τ ι ο} (key : ι → κ) (k : κ) {s : σ} {t : τ} {is : List ι}
    (h : M.outputs s is = N.outputs t is) :
    M.outputsAt key k s is = N.outputsAt key k t is := by
  induction is generalizing s t with
  | nil => rfl
  | cons i is ih =>
    obtain ⟨hout, htail⟩ := List.cons.inj h
    rw [outputsAt_cons, outputsAt_cons, ih htail, show (M.step s i).2 = (N.step t i).2 from hout]

/-- A machine that does on the inputs with the key `k` what another one does, and is left as it is
    by the others, as far as the relation `R` of their states tells, answers the inputs with this
    key like the other one. -/
theorem simulates_at {N : Machine τ ι ο} {key : ι → κ} {k : κ} {R : σ → τ → Prop}
    (hat : ∀ s t i, key i = k → R s t →
      (M.step s i).2 = (N.step t i).2 ∧ R (M.step s i).1 (N.step t i).1)
    (hother : ∀ s t i, key i ≠ k → R s t → R (M.step s i).1 t)
    {s : σ} {t : τ} (hR : R s t) (is : List ι) :
    M.outputsAt key k s is = N.outputs t (is.filter fun i => key i = k) ∧
      R (M.run s is) (N.run t (is.filter fun i => key i = k)) := by
  induction is generalizing s t with
  | nil => exact ⟨rfl, hR⟩
  | cons i is ih =>
    rw [outputsAt_cons]
    by_cases hi : key i = k
    · obtain ⟨hout, hR'⟩ := hat s t i hi hR
      obtain ⟨houtputs, hrun⟩ := ih hR'
      rw [if_pos hi, List.filter_cons_of_pos (by simpa using hi), hout, houtputs]
      exact ⟨rfl, hrun⟩
    · rw [if_neg hi, List.filter_cons_of_neg (by simpa using hi)]
      exact ih (hother s t i hi hR)

/-- A machine for every key, run on the inputs with this key. -/
def family (M : κ → Machine σ ι ο) (key : ι → κ) : Machine (κ → σ) ι ο where
  step s i :=
    let next := (M (key i)).step (s (key i)) i
    (Function.update s (key i) next.1, next.2)

/-- The machine at a key is where it is when it is run on its inputs alone. -/
theorem family_simulates (M : κ → Machine σ ι ο) (key : ι → κ) (k : κ) (s : κ → σ)
    (is : List ι) : (family M key).outputsAt key k s is =
        (M k).outputs (s k) (is.filter fun i => key i = k) ∧
      (family M key).run s is k = (M k).run (s k) (is.filter fun i => key i = k) := by
  refine simulates_at (R := fun (s : κ → σ) t => s k = t) (fun s t i hi hR => ?_)
    (fun s t i hi hR => ?_) rfl is
  · subst hi hR
    exact ⟨rfl, Function.update_self (key i) _ s⟩
  · exact (Function.update_of_ne (Ne.symm hi) _ s).trans hR

theorem outputsAt_family (M : κ → Machine σ ι ο) (key : ι → κ) (k : κ) (s : κ → σ)
    (is : List ι) : (family M key).outputsAt key k s is =
      (M k).outputs (s k) (is.filter fun i => key i = k) :=
  (family_simulates M key k s is).1

theorem run_family (M : κ → Machine σ ι ο) (key : ι → κ) (k : κ) (s : κ → σ) (is : List ι) :
    (family M key).run s is k = (M k).run (s k) (is.filter fun i => key i = k) :=
  (family_simulates M key k s is).2

/-! ## Noninterference -/

/-- What is seen of a run by an observer of the inputs that `low` accepts: these inputs,
    with the answers to them. -/
def observed (M : Machine σ ι ο) (low : ι → Bool) (s : σ) (is : List ι) : List (ι × ο) :=
  ((M.events s is).filter fun ev => low ev.input).map fun ev => (ev.input, ev.output)

theorem observed_cons_of_low {low : ι → Bool} {i : ι} (hi : low i = true) (s : σ)
    (is : List ι) : M.observed low s (i :: is) =
      (i, (M.step s i).2) :: M.observed low (M.step s i).1 is := by
  rw [observed, events, List.filter_cons_of_pos (by exact hi)]
  rfl

theorem observed_cons_of_high {low : ι → Bool} {i : ι} (hi : low i = false) (s : σ)
    (is : List ι) : M.observed low s (i :: is) = M.observed low (M.step s i).1 is := by
  rw [observed, events, List.filter_cons_of_neg (by simp [event, hi])]
  rfl

/-- What an observer sees does not change if the other inputs are left out, if in guarded runs
    these keep a relation of the states, for the inputs to come, that lets the inputs that are
    seen be answered alike. -/
theorem observed_eq_filter_of_guarded {low : ι → Bool} {G : σ → ι → Prop}
    {R : List ι → σ → σ → Prop}
    (hlow : ∀ s t i is, low i = true → G s i → R (i :: is) s t →
      (M.step s i).2 = (M.step t i).2 ∧ R is (M.step s i).1 (M.step t i).1)
    (hhigh : ∀ s t i is, low i = false → G s i → R (i :: is) s t → R is (M.step s i).1 t)
    {s t : σ} {is : List ι} (hR : R is s t) (hG : M.Guarded G s is) :
    M.observed low s is = M.observed low t (is.filter low) := by
  induction is generalizing s t with
  | nil => rfl
  | cons i is ih =>
    have hi := hG _ List.mem_cons_self
    have htail : M.Guarded G (M.step s i).1 is := fun ev hev => hG ev (List.mem_cons_of_mem _ hev)
    cases hseen : low i with
    | true =>
      obtain ⟨hout, hnext⟩ := hlow s t i is hseen hi hR
      rw [List.filter_cons_of_pos hseen, observed_cons_of_low hseen, observed_cons_of_low hseen,
        hout, ih hnext htail]
    | false =>
      rw [List.filter_cons_of_neg (Bool.not_eq_true _ |>.mpr hseen), observed_cons_of_high hseen,
        ih (hhigh s t i is hseen hi hR) htail]

/-- States related by `R` look alike to the observer of the inputs that `low` accepts. -/
structure Unwinding (M : Machine σ ι ο) (low : ι → Bool) (R : σ → σ → Prop) : Prop where
  equiv : Equivalence R
  /-- What the observer sees is the same in related states, and keeps them related. -/
  low_step : ∀ {s t i}, low i = true → R s t →
    (M.step s i).2 = (M.step t i).2 ∧ R (M.step s i).1 (M.step t i).1
  /-- What the observer does not see leads to a related state. -/
  high_step : ∀ {s i}, low i = false → R s (M.step s i).1

namespace Unwinding

variable {low : ι → Bool} {R : σ → σ → Prop} {s t : σ} {is js : List ι}

/-- The observer sees the run on the inputs it knows of, as if there were no others. -/
theorem observed_eq_filter (h : M.Unwinding low R) (hR : R s t) :
    M.observed low s is = M.observed low t (is.filter low) :=
  observed_eq_filter_of_guarded (G := fun _ _ => True) (R := fun _ => R)
    (fun _ _ _ _ hi _ hR => h.low_step hi hR)
    (fun _ _ _ _ hi _ hR => h.equiv.trans (h.equiv.symm (h.high_step hi)) hR) hR
    fun _ _ => trivial

/-- Runs that differ in what the observer does not see look alike. -/
theorem observed_eq (h : M.Unwinding low R) (hR : R s t)
    (hfilter : is.filter low = js.filter low) :
    M.observed low s is = M.observed low t js := by
  rw [h.observed_eq_filter hR, hfilter]
  exact (h.observed_eq_filter (h.equiv.refl t)).symm

end Unwinding

end Machine
