import VibeShield.Security.RateLimit.Model

/-!
# The sliding window counter

A `SlidingWindowCounter` allows a request if fewer than `max_requests` were allowed in the window
that ends with it. It keeps the times of the requests it allowed, and takes them from the front
of the list as long as they lie before the window. As the clock does not go back, the list is
sorted, so what is left are the times in the window (`Windowed`), and they can be counted in the
history (`slidingWindow_counts`).

The last request allowed in an interval finds fewer than `max_requests` in the window before it,
which covers the interval up to it. So there are no more of them in any interval that is not longer
than the window.
-/

namespace VibeShield

/-- A sliding window counter. -/
structure SlidingWindowCounter (F : Type*) where
  maxRequests : ℤ
  windowSeconds : F
  timestamps : List F

variable {F : Type*}

/-- A counter that has not allowed anything yet. -/
def SlidingWindowCounter.new (maxRequests : ℤ) (windowSeconds : F) : SlidingWindowCounter F :=
  ⟨maxRequests, windowSeconds, []⟩

section Model

variable [PyArith F]

open PyArith

namespace SlidingWindowCounter

variable (w : SlidingWindowCounter F) (now : F)

/-- The timestamps without those at the front that lie before the window. -/
def prune : List F := w.timestamps.dropWhile fun t => lt t (sub now w.windowSeconds)

/-- Whether a request is allowed, and the number of requests in the window. -/
def allow : SlidingWindowCounter F × Bool × ℕ :=
  let timestamps := w.prune now
  let currentCount := timestamps.length
  if w.maxRequests ≤ currentCount then
    (⟨w.maxRequests, w.windowSeconds, timestamps⟩, false, currentCount)
  else (⟨w.maxRequests, w.windowSeconds, timestamps ++ [now]⟩, true, currentCount + 1)

end SlidingWindowCounter

/-- The counter as a machine, on the readings of the clock. -/
def slidingWindow (F : Type*) [PyArith F] : Machine (SlidingWindowCounter F) F (Bool × ℕ) where
  step w now := w.allow now

end Model

/-! ## The history -/

/-- What happens to a counter. -/
abbrev WindowEvent (F : Type*) : Type _ := Machine.Event (SlidingWindowCounter F) F (Bool × ℕ)

/-- The times of the calls that were allowed. -/
def allowedTimes (evs : List (WindowEvent F)) : List F :=
  (evs.filter fun ev => ev.output.1).map Machine.Event.input

theorem allowedTimes_concat (evs : List (WindowEvent F)) (ev : WindowEvent F) :
    allowedTimes (evs ++ [ev]) = allowedTimes evs ++ if ev.output.1 then [ev.input] else [] := by
  rw [allowedTimes, List.filter_append, List.map_append, allowedTimes]
  cases h : ev.output.1 <;> simp [h]

theorem exists_of_mem_allowedTimes {evs : List (WindowEvent F)} {t : F}
    (h : t ∈ allowedTimes evs) : ∃ ev ∈ evs, ev.input = t := by
  obtain ⟨ev, hev, rfl⟩ := List.mem_map.1 h
  exact ⟨ev, (List.mem_filter.1 hev).1, rfl⟩

variable [LinearOrder F]

/-- The number of calls that were allowed from `s` to `t`. -/
def allowedCalls (s t : F) (evs : List (WindowEvent F)) : ℕ :=
  (allowedTimes evs).countP fun u => s ≤ u ∧ u ≤ t

theorem allowedCalls_concat (s t : F) (evs : List (WindowEvent F)) (ev : WindowEvent F) :
    allowedCalls s t (evs ++ [ev]) = allowedCalls s t evs +
      if ev.output.1 ∧ s ≤ ev.input ∧ ev.input ≤ t then 1 else 0 := by
  rw [allowedCalls, allowedTimes_concat, List.countP_append, allowedCalls]
  cases h : ev.output.1 with
  | false => simp
  | true => simp [List.countP_singleton]

/-- In a longer interval there are no fewer calls. -/
theorem allowedCalls_mono {s s' t t' : F} {evs : List (WindowEvent F)} (hs : s' ≤ s)
    (ht : ∀ u ∈ allowedTimes evs, u ≤ t → u ≤ t') :
    allowedCalls s t evs ≤ allowedCalls s' t' evs := by
  refine List.countP_mono_left fun u hu h => ?_
  obtain ⟨hsu, hut⟩ := of_decide_eq_true h
  exact decide_eq_true ⟨hs.trans hsu, ht u hu hut⟩

/-! ## The window -/

variable [PyArith F] [PyArith.Ordered F]

open PyArith

/-- Of a sorted list, what lies before the window is at the front. -/
theorem prune_eq_filter {w : SlidingWindowCounter F} (h : w.timestamps.Pairwise (· ≤ ·)) (now : F) :
    w.prune now = w.timestamps.filter fun t => sub now w.windowSeconds ≤ t := by
  obtain ⟨maxRequests, windowSeconds, timestamps⟩ := w
  change timestamps.dropWhile (fun t => lt t (sub now windowSeconds)) =
    timestamps.filter fun t => sub now windowSeconds ≤ t
  replace h : timestamps.Pairwise (· ≤ ·) := h
  induction timestamps with
  | nil => rfl
  | cons t ts ih =>
    obtain ⟨hle, hsorted⟩ := List.pairwise_cons.1 h
    rcases lt_or_ge t (sub now windowSeconds) with hlt | hge
    · have hdrop : lt t (sub now windowSeconds) = true := (PyArith.Ordered.lt_iff _ _).2 hlt
      rw [List.dropWhile_cons, if_pos hdrop, List.filter_cons_of_neg (by simpa using hlt),
        ih hsorted]
    · have hkeep : ¬lt t (sub now windowSeconds) = true := by
        rw [PyArith.Ordered.lt_iff]
        exact not_lt.2 hge
      rw [List.dropWhile_cons, if_neg hkeep]
      refine (List.filter_eq_self.2 fun u hu => decide_eq_true ?_).symm
      rcases List.mem_cons.1 hu with rfl | hu
      · exact hge
      · exact hge.trans (hle u hu)

/-- The history and what the counter keeps of it. -/
structure Windowed (maxRequests : ℤ) (windowSeconds : F) (evs : List (WindowEvent F))
    (w : SlidingWindowCounter F) : Prop where
  eq : w = ⟨maxRequests, windowSeconds, w.timestamps⟩
  sorted : w.timestamps.Pairwise (· ≤ ·)
  mem : ∀ t ∈ w.timestamps, t ∈ allowedTimes evs
  kept : ∀ now, (∀ ev ∈ evs, ev.input ≤ now) →
    (w.timestamps.filter fun t => sub now windowSeconds ≤ t) =
      (allowedTimes evs).filter fun t => sub now windowSeconds ≤ t

variable {maxRequests : ℤ} {windowSeconds now : F} {evs : List (WindowEvent F)}
  {w : SlidingWindowCounter F}

theorem Windowed.prune_eq (h : Windowed maxRequests windowSeconds evs w) (now : F) :
    w.prune now = w.timestamps.filter fun t => sub now windowSeconds ≤ t := by
  rw [prune_eq_filter h.sorted, h.eq]

/-- What is left is what was allowed in the window. -/
theorem Windowed.length_prune (h : Windowed maxRequests windowSeconds evs w)
    (hevs : ∀ ev ∈ evs, ev.input ≤ now) :
    (w.prune now).length = allowedCalls (sub now windowSeconds) now evs := by
  rw [h.prune_eq, h.kept now hevs, ← List.countP_eq_length_filter]
  refine List.countP_congr fun t ht => ?_
  obtain ⟨ev, hev, rfl⟩ := exists_of_mem_allowedTimes ht
  simp [hevs ev hev]

omit [PyArith.Ordered F] in
theorem Windowed.allow_eq (h : Windowed maxRequests windowSeconds evs w) (now : F) :
    w.allow now = if maxRequests ≤ (w.prune now).length then
        (⟨maxRequests, windowSeconds, w.prune now⟩, false, (w.prune now).length)
      else (⟨maxRequests, windowSeconds, w.prune now ++ [now]⟩, true,
        (w.prune now).length + 1) := by
  rw [SlidingWindowCounter.allow, h.eq]

/-- A call is allowed if there are fewer allowed calls in the window, and counts them. -/
theorem Windowed.output (h : Windowed maxRequests windowSeconds evs w)
    (hevs : ∀ ev ∈ evs, ev.input ≤ now) :
    let out := ((slidingWindow F).step w now).2
    (out.1 = true ↔ (allowedCalls (sub now windowSeconds) now evs : ℤ) < maxRequests) ∧
      out.2 = allowedCalls (sub now windowSeconds) now evs + if out.1 then 1 else 0 := by
  change ((w.allow now).2.1 = true ↔ _) ∧ (w.allow now).2.2 = _ + if (w.allow now).2.1 then 1 else 0
  rw [h.allow_eq, h.length_prune hevs]
  split
  · next hle => exact ⟨iff_of_false Bool.false_ne_true (not_lt.2 hle), rfl⟩
  · next hle => exact ⟨iff_of_true rfl (not_le.1 hle), rfl⟩

theorem Windowed.step (h : Windowed maxRequests windowSeconds evs w)
    (hevs : ∀ ev ∈ evs, ev.input ≤ now) :
    Windowed maxRequests windowSeconds (evs ++ [(slidingWindow F).event w now])
      ((slidingWindow F).step w now).1 := by
  have hprune := h.prune_eq now
  have hsorted : (w.prune now).Pairwise (· ≤ ·) := by
    rw [hprune]
    exact h.sorted.filter _
  have hmem (t : F) (ht : t ∈ w.prune now) : t ∈ allowedTimes evs := by
    rw [hprune] at ht
    exact h.mem t (List.mem_filter.1 ht).1
  -- What lies before the window now also lies before a later one.
  have hkept (now' : F) (hle : now ≤ now') :
      ((w.prune now).filter fun t => sub now' windowSeconds ≤ t) =
        (allowedTimes evs).filter fun t => sub now' windowSeconds ≤ t := by
    rw [← h.kept now' fun ev hev => (hevs ev hev).trans hle, hprune, List.filter_filter]
    refine List.filter_congr fun t _ => ?_
    have hlater := PyArith.Ordered.sub_le_sub now now' windowSeconds hle
    exact Bool.eq_iff_iff.2 (by simpa using hlater.trans)
  have hnow (now' : F) (h' : ∀ ev ∈ evs ++ [(slidingWindow F).event w now], ev.input ≤ now') :
      now ≤ now' := h' _ (List.mem_append_right _ List.mem_cons_self)
  have hstep : ((slidingWindow F).step w now).1 = (w.allow now).1 := rfl
  have htimes : allowedTimes (evs ++ [(slidingWindow F).event w now]) =
      allowedTimes evs ++ if (w.allow now).2.1 then [now] else [] := allowedTimes_concat _ _
  rw [hstep]
  by_cases hle : maxRequests ≤ (w.prune now).length
  · have hallow := (h.allow_eq now).trans (if_pos hle)
    rw [hallow] at htimes ⊢
    rw [if_neg Bool.false_ne_true, List.append_nil] at htimes
    refine ⟨rfl, hsorted, ?_, fun now' h' => ?_⟩
    · rwa [htimes]
    · rw [htimes]
      exact hkept now' (hnow now' h')
  · have hallow := (h.allow_eq now).trans (if_neg hle)
    rw [hallow] at htimes ⊢
    rw [if_pos rfl] at htimes
    refine ⟨rfl, ?_, fun t ht => ?_, fun now' h' => ?_⟩
    · refine List.pairwise_append.2 ⟨hsorted, List.pairwise_singleton _ _, fun t ht u hu => ?_⟩
      obtain ⟨ev, hev, rfl⟩ := exists_of_mem_allowedTimes (hmem t ht)
      exact List.mem_singleton.1 hu ▸ hevs ev hev
    · rw [htimes]
      exact List.mem_append.2 ((List.mem_append.1 ht).imp_left (hmem t))
    · rw [htimes, List.filter_append, List.filter_append, hkept now' (hnow now' h')]

/-- In an interval that is not longer than the window, at most `max_requests` calls are allowed:
    a call that is allowed finds fewer of them in the window, which covers the interval up to
    it. -/
theorem Windowed.count_step (h : Windowed maxRequests windowSeconds evs w)
    (hevs : ∀ ev ∈ evs, ev.input ≤ now) {a b : F} (hab : sub b windowSeconds ≤ a)
    (hcount : (allowedCalls a b evs : ℤ) ≤ maxRequests) :
    (allowedCalls a b (evs ++ [(slidingWindow F).event w now]) : ℤ) ≤ maxRequests := by
  rw [allowedCalls_concat]
  split
  · next hnow =>
    obtain ⟨hallowed, _, hle⟩ : ((slidingWindow F).step w now).2.1 = true ∧ a ≤ now ∧ now ≤ b :=
      hnow
    have hwindow : sub now windowSeconds ≤ a :=
      (PyArith.Ordered.sub_le_sub now b windowSeconds hle).trans hab
    have hcovered : allowedCalls a b evs ≤ allowedCalls (sub now windowSeconds) now evs := by
      refine allowedCalls_mono hwindow fun u hu _ => ?_
      obtain ⟨ev, hev, rfl⟩ := exists_of_mem_allowedTimes hu
      exact hevs ev hev
    have hfewer := (h.output hevs).1.1 hallowed
    omega
  · exact hcount

theorem windowed_run (maxRequests : ℤ) (hmax : 0 ≤ maxRequests) (windowSeconds : F)
    (nows : List F) (hnows : nows.Pairwise (· ≤ ·)) :
    Windowed maxRequests windowSeconds
        ((slidingWindow F).events (.new maxRequests windowSeconds) nows)
        ((slidingWindow F).run (.new maxRequests windowSeconds) nows) ∧
      ∀ a b, sub b windowSeconds ≤ a →
        (allowedCalls a b ((slidingWindow F).events (.new maxRequests windowSeconds) nows) : ℤ) ≤
          maxRequests :=
  Machine.pairwise_induction (M := slidingWindow F) (Q := fun _ => True)
    (P := fun evs w => Windowed maxRequests windowSeconds evs w ∧
      ∀ a b, sub b windowSeconds ≤ a → (allowedCalls a b evs : ℤ) ≤ maxRequests)
    ⟨⟨rfl, List.Pairwise.nil, fun _ ht => ht, fun _ _ => rfl⟩, fun _ _ _ => hmax⟩
    (fun _ _ _ _ hevs h => ⟨h.1.step hevs, fun a b hab => h.1.count_step hevs hab (h.2 a b hab)⟩)
    nows (fun _ _ => trivial) hnows

/-- A call is allowed exactly if fewer than `max_requests` were allowed in the window that ends with
    it, and tells the number of those, with itself if it is allowed. In no interval that is
    not longer than the window there are more than `max_requests`. -/
theorem slidingWindow_counts (maxRequests : ℤ) (hmax : 0 ≤ maxRequests) (windowSeconds : F)
    (nows : List F) (hnows : nows.Pairwise (· ≤ ·)) :
    (∀ js now, js ++ [now] <+: nows →
      let evs := (slidingWindow F).events (.new maxRequests windowSeconds) js
      let out := ((slidingWindow F).step
        ((slidingWindow F).run (.new maxRequests windowSeconds) js) now).2
      (out.1 = true ↔ (allowedCalls (sub now windowSeconds) now evs : ℤ) < maxRequests) ∧
        out.2 = allowedCalls (sub now windowSeconds) now evs + if out.1 then 1 else 0) ∧
    ∀ a b, sub b windowSeconds ≤ a →
      (allowedCalls a b ((slidingWindow F).events (.new maxRequests windowSeconds) nows) : ℤ) ≤
        maxRequests := by
  refine ⟨fun js now hjs => ?_, (windowed_run maxRequests hmax windowSeconds nows hnows).2⟩
  obtain ⟨hsorted, _, hle⟩ := List.pairwise_append.1 (hnows.sublist hjs.sublist)
  refine (windowed_run maxRequests hmax windowSeconds js hsorted).1.output fun ev hev => ?_
  exact hle _ (Machine.input_mem_of_mem_events hev) now List.mem_cons_self

namespace Sample

/-- Two requests are allowed in ten seconds: the third one in the window from 1 to 11 is not. -/
theorem two_in_ten_seconds :
    ((slidingWindow ℚ).outputs (.new 2 10) [0, 1, 11, 11] =
      [(true, 1), (true, 2), (true, 2), (false, 2)]) ∧
    ∀ a b : ℚ, b - 10 ≤ a →
      (allowedCalls a b ((slidingWindow ℚ).events (.new 2 10) [0, 1, 11, 11]) : ℤ) ≤ 2 :=
  ⟨by decide +kernel, (slidingWindow_counts 2 (by decide) 10 [0, 1, 11, 11]
    (by decide +kernel)).2⟩

end Sample

end VibeShield
