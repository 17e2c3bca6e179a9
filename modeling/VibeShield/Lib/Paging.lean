import Mathlib.Data.List.Count
import Mathlib.Data.List.Nodup

/-!
# Pages of a filtered list

A *page* is a window of the elements of a list that pass a filter (`page`). A *scan* looks for
one in a single pass (`scan`): each element is skipped, counted, ends the scan or makes it fail
(`Verdict`), the first `offset` that are counted are passed over, and the scan ends when
`limit` more are found.

`scan_eq_page_iff` says when a scan that counts all elements which pass the filter finds the
page: it must not fail, and must neither stop nor count an element that does not pass
(`Strays`) at or before any element that is on the page or that it finds (`Undisturbed`).
-/

namespace Paging

variable {α ε : Type*}

/-- What a scan does with an element, unless it fails there. -/
inductive Verdict
  | skip
  | stop
  | count
deriving DecidableEq

/-- The elements that pass the filter, from the position `offset` on and at most `limit`. -/
def page (q : α → Bool) (offset limit : ℕ) (as : List α) : List α :=
  ((as.filter q).drop offset).take limit

/-- The elements that a scan finds. -/
def scan (f : α → Except ε Verdict) : ℕ → ℕ → List α → Except ε (List α)
  | _, 0, _ => .ok []
  | _, _ + 1, [] => .ok []
  | offset, limit + 1, a :: as =>
    match f a with
    | .error err => .error err
    | .ok .skip => scan f offset (limit + 1) as
    | .ok .stop => .ok []
    | .ok .count =>
      match offset with
      | 0 => (scan f 0 limit as).map (a :: ·)
      | offset + 1 => scan f offset (limit + 1) as

section Scan

variable {f : α → Except ε Verdict} {offset limit : ℕ} {a : α} {as : List α}

@[simp] theorem scan_limit_zero : scan f offset 0 as = .ok [] := by cases as <;> rfl

@[simp] theorem scan_nil : scan f offset limit [] = .ok [] := by cases limit <;> rfl

theorem scan_cons_of_error {err : ε} (ha : f a = .error err) :
    scan f offset (limit + 1) (a :: as) = .error err := by simp only [scan, ha]

theorem scan_cons_of_stop (ha : f a = .ok .stop) :
    scan f offset (limit + 1) (a :: as) = .ok [] := by simp only [scan, ha]

theorem scan_cons_of_skip (ha : f a = .ok .skip) :
    scan f offset (limit + 1) (a :: as) = scan f offset (limit + 1) as := by simp only [scan, ha]

theorem scan_zero_cons_of_count (ha : f a = .ok .count) :
    scan f 0 (limit + 1) (a :: as) = (scan f 0 limit as).map (a :: ·) := by simp only [scan, ha]

theorem scan_succ_cons_of_count (ha : f a = .ok .count) :
    scan f (offset + 1) (limit + 1) (a :: as) = scan f offset (limit + 1) as := by
  simp only [scan, ha]

end Scan

/-! ## Pages -/

section Page

variable {q : α → Bool} {offset limit : ℕ} {a : α} {as : List α}

@[simp] theorem page_nil : page q offset limit [] = [] := by simp [page]

@[simp] theorem page_limit_zero : page q offset 0 as = [] := List.take_zero

theorem page_cons_of_neg (ha : q a = false) :
    page q offset limit (a :: as) = page q offset limit as := by
  rw [page, List.filter_cons_of_neg (by simp [ha]), page]

theorem page_zero_cons_of_pos (ha : q a = true) :
    page q 0 (limit + 1) (a :: as) = a :: page q 0 limit as := by
  rw [page, List.filter_cons_of_pos ha, List.drop_zero, List.take_succ_cons, page, List.drop_zero]

theorem page_succ_cons_of_pos (ha : q a = true) :
    page q (offset + 1) limit (a :: as) = page q offset limit as := by
  rw [page, List.filter_cons_of_pos ha, List.drop_succ_cons, page]

/-- Only elements that pass the filter are on a page. -/
theorem of_mem_page (h : a ∈ page q offset limit as) : q a = true :=
  (List.mem_filter.1 (List.mem_of_mem_drop (List.mem_of_mem_take h))).2

/-- Consecutive pages neither repeat nor lose an element. -/
theorem page_append_page (q : α → Bool) (offset limit limit' : ℕ) (as : List α) :
    page q offset limit as ++ page q (offset + limit) limit' as =
      page q offset (limit + limit') as := by
  rw [page, page, page, List.take_add, List.drop_drop]

end Page

/-! ## Positions -/

/-- `P` holds of every element and the elements before it. -/
def Throughout (P : List α → α → Prop) (as : List α) : Prop :=
  ∀ pre a post, as = pre ++ a :: post → P pre a

theorem throughout_nil (P : List α → α → Prop) : Throughout P [] := fun _ _ _ h =>
  absurd h.symm (List.append_ne_nil_of_right_ne_nil _ (List.cons_ne_nil _ _))

theorem throughout_cons {P : List α → α → Prop} {a : α} {as : List α} :
    Throughout P (a :: as) ↔ P [] a ∧ Throughout (fun pre => P (a :: pre)) as := by
  refine ⟨fun h => ⟨h [] a as rfl, fun pre x post heq => h (a :: pre) x post ?_⟩, fun h => ?_⟩
  · rw [heq, List.cons_append]
  · rintro (_ | ⟨b, pre⟩) x post heq
    · obtain ⟨rfl, rfl⟩ := List.cons.inj heq
      exact h.1
    · obtain ⟨rfl, rfl⟩ := List.cons.inj heq
      exact h.2 pre x post rfl

theorem throughout_congr {P Q : List α → α → Prop} {as : List α} (h : ∀ pre a, P pre a ↔ Q pre a) :
    Throughout P as ↔ Throughout Q as :=
  ⟨fun hP pre a post heq => (h pre a).1 (hP pre a post heq),
    fun hQ pre a post heq => (h pre a).2 (hQ pre a post heq)⟩

theorem throughout_and {P Q : List α → α → Prop} {as : List α} :
    Throughout (fun pre a => P pre a ∧ Q pre a) as ↔ Throughout P as ∧ Throughout Q as :=
  ⟨fun h => ⟨fun pre a post heq => (h pre a post heq).1,
      fun pre a post heq => (h pre a post heq).2⟩,
    fun h pre a post heq => ⟨h.1 pre a post heq, h.2 pre a post heq⟩⟩

/-- The element behind `pre` is on the page. -/
def OnPage (q : α → Bool) (offset limit : ℕ) (pre : List α) (a : α) : Prop :=
  q a = true ∧ offset ≤ pre.countP q ∧ pre.countP q < offset + limit

section Scan

variable (f : α → Except ε Verdict)

/-- Whether an element is counted. -/
def counts (a : α) : Bool :=
  match f a with
  | .ok .count => true
  | _ => false

/-- The scan comes to the element behind `pre`, unless it fails. -/
def Reached (offset limit : ℕ) (pre : List α) : Prop :=
  0 < limit ∧ (∀ b ∈ pre, f b ≠ .ok .stop) ∧ pre.countP (counts f) < offset + limit

/-- The scan finds the element behind `pre`, unless it fails. -/
def Found (offset limit : ℕ) (pre : List α) (a : α) : Prop :=
  Reached f offset limit pre ∧ counts f a = true ∧ offset ≤ pre.countP (counts f)

/-- The scan stops at the element, or counts it though it does not pass the filter. -/
def Strays (q : α → Bool) (a : α) : Prop :=
  f a = .ok .stop ∨ (counts f a = true ∧ q a = false)

/-- No element makes the scan fail, and none leads it astray at or before an element that is
    on the page or that it finds. -/
structure Undisturbed (q : α → Bool) (offset limit : ℕ) (as : List α) : Prop where
  total : Throughout (fun pre a => Reached f offset limit pre → ∀ err, f a ≠ .error err) as
  straight : Throughout (fun pre a => Found f offset limit pre a ∨ OnPage q offset limit pre a →
    ∀ b ∈ pre ++ [a], ¬Strays f q b) as

/-! ### After one more element -/

variable {f} {q : α → Bool} {offset limit : ℕ} {a x : α} {pre as : List α}

theorem onPage_cons_of_neg (ha : q a = false) :
    OnPage q offset limit (a :: pre) x ↔ OnPage q offset limit pre x := by
  rw [OnPage, OnPage, List.countP_cons_of_neg (by simp [ha])]

theorem onPage_succ_cons_of_pos (ha : q a = true) :
    OnPage q (offset + 1) limit (a :: pre) x ↔ OnPage q offset limit pre x := by
  rw [OnPage, OnPage, List.countP_cons_of_pos ha]
  refine and_congr_right fun _ => ?_
  omega

theorem onPage_zero_cons_of_pos (ha : q a = true) :
    OnPage q 0 (limit + 1) (a :: pre) x ↔ OnPage q 0 limit pre x := by
  rw [OnPage, OnPage, List.countP_cons_of_pos ha]
  refine and_congr_right fun _ => ?_
  omega

theorem counts_eq_true : counts f a = true ↔ f a = .ok .count := by
  rw [counts]
  split
  · next h => exact iff_of_true rfl h
  · next h => exact iff_of_false Bool.false_ne_true h

theorem counts_eq_false : counts f a = false ↔ f a ≠ .ok .count := by
  rw [Ne, ← counts_eq_true, Bool.not_eq_true]

theorem not_reached_limit_zero : ¬Reached f offset 0 pre := fun h => absurd h.1 (Nat.lt_irrefl 0)

theorem reached_nil : Reached f offset (limit + 1) [] :=
  ⟨limit.succ_pos, fun _ h => absurd h List.not_mem_nil, Nat.succ_pos _⟩

theorem not_reached_cons_of_stop (ha : f a = .ok .stop) : ¬Reached f offset limit (a :: pre) :=
  fun h => h.2.1 a List.mem_cons_self ha

theorem reached_cons_of_skip (ha : f a = .ok .skip) :
    Reached f offset limit (a :: pre) ↔ Reached f offset limit pre := by
  have hc : counts f a = false := counts_eq_false.2 (by rw [ha]; nofun)
  rw [Reached, Reached, List.countP_cons_of_neg (by simp [hc]), List.forall_mem_cons,
    and_iff_right (show f a ≠ .ok .stop by rw [ha]; nofun)]

theorem reached_succ_cons_of_count (ha : f a = .ok .count) :
    Reached f (offset + 1) limit (a :: pre) ↔ Reached f offset limit pre := by
  rw [Reached, Reached, List.countP_cons_of_pos (counts_eq_true.2 ha), List.forall_mem_cons,
    and_iff_right (show f a ≠ .ok .stop by rw [ha]; nofun)]
  refine and_congr_right fun _ => and_congr_right fun _ => ?_
  omega

theorem reached_zero_cons_of_count (ha : f a = .ok .count) :
    Reached f 0 (limit + 1) (a :: pre) ↔ Reached f 0 limit pre := by
  rw [Reached, Reached, List.countP_cons_of_pos (counts_eq_true.2 ha), List.forall_mem_cons,
    and_iff_right (show f a ≠ .ok .stop by rw [ha]; nofun), and_left_comm,
    and_left_comm (a := 0 < limit)]
  refine and_congr_right fun _ => ?_
  omega

theorem found_cons_of_skip (ha : f a = .ok .skip) :
    Found f offset limit (a :: pre) x ↔ Found f offset limit pre x := by
  have hc : counts f a = false := counts_eq_false.2 (by rw [ha]; nofun)
  rw [Found, Found, reached_cons_of_skip ha, List.countP_cons_of_neg (by simp [hc])]

theorem found_succ_cons_of_count (ha : f a = .ok .count) :
    Found f (offset + 1) limit (a :: pre) x ↔ Found f offset limit pre x := by
  rw [Found, Found, reached_succ_cons_of_count ha, List.countP_cons_of_pos (counts_eq_true.2 ha),
    Nat.succ_le_succ_iff]

theorem found_zero_cons_of_count (ha : f a = .ok .count) :
    Found f 0 (limit + 1) (a :: pre) x ↔ Found f 0 limit pre x := by
  rw [Found, Found, reached_zero_cons_of_count ha]
  simp

/-! ### Empty pages -/

theorem page_eq_nil_iff :
    page q offset limit as = [] ↔ Throughout (fun pre a => ¬OnPage q offset limit pre a) as := by
  induction as generalizing offset limit with
  | nil => exact iff_of_true page_nil (throughout_nil _)
  | cons a as ih =>
    rw [throughout_cons]
    cases ha : q a with
    | false =>
      rw [page_cons_of_neg ha, ih, and_iff_right fun h => Bool.false_ne_true (ha.symm.trans h.1)]
      exact throughout_congr fun pre x => not_congr (onPage_cons_of_neg ha).symm
    | true =>
      cases offset with
      | succ offset =>
        rw [page_succ_cons_of_pos ha, ih, and_iff_right fun h => Nat.not_succ_le_zero _ h.2.1]
        exact throughout_congr fun pre x => not_congr (onPage_succ_cons_of_pos ha).symm
      | zero =>
        cases limit with
        | zero =>
          refine iff_of_true page_limit_zero ⟨fun h => ?_, fun pre x post _ h => ?_⟩
          · exact absurd h.2.2 (Nat.not_lt_zero _)
          · exact absurd h.2.2 (Nat.not_lt_zero _)
        | succ limit =>
          rw [page_zero_cons_of_pos ha]
          refine iff_of_false (List.cons_ne_nil _ _) fun h => h.1 ⟨ha, Nat.zero_le _, ?_⟩
          exact Nat.succ_pos _

theorem scan_eq_nil_iff :
    scan f offset limit as = .ok [] ↔
      Throughout (fun pre a => Reached f offset limit pre → ∀ err, f a ≠ .error err) as ∧
        Throughout (fun pre a => ¬Found f offset limit pre a) as := by
  induction as generalizing offset limit with
  | nil =>
    refine iff_of_true ?_ ⟨throughout_nil _, throughout_nil _⟩
    cases limit <;> rfl
  | cons a as ih =>
    cases limit with
    | zero =>
      exact iff_of_true rfl ⟨fun _ _ _ _ h => absurd h not_reached_limit_zero,
        fun _ _ _ _ h => absurd h.1 not_reached_limit_zero⟩
    | succ limit =>
      rw [throughout_cons, throughout_cons]
      rcases ha : f a with err | (_ | _ | _)
      · rw [scan_cons_of_error ha]
        exact iff_of_false nofun fun h => h.1.1 reached_nil err rfl
      · -- Skipped: the same is asked of the elements behind it.
        rw [scan_cons_of_skip ha, ih]
        refine and_congr ?_ ?_
        · rw [and_iff_right (by rintro _ err ⟨⟩)]
          exact throughout_congr fun pre x => imp_congr (reached_cons_of_skip ha).symm Iff.rfl
        · rw [and_iff_right fun h => absurd (ha.symm.trans (counts_eq_true.1 h.2.1)) nofun]
          exact throughout_congr fun pre x => not_congr (found_cons_of_skip ha).symm
      · -- Stopped: no element behind it is reached.
        refine iff_of_true (scan_cons_of_stop ha) ⟨⟨?_, ?_⟩, ?_, ?_⟩
        · rintro _ err ⟨⟩
        · exact fun pre x post _ h => absurd h (not_reached_cons_of_stop ha)
        · exact fun h => absurd (ha.symm.trans (counts_eq_true.1 h.2.1)) nofun
        · exact fun pre x post _ h => not_reached_cons_of_stop ha h.1
      · cases offset with
        | zero =>
          rw [scan_zero_cons_of_count ha]
          refine iff_of_false ?_ fun h => h.2.1 ⟨reached_nil, counts_eq_true.2 ha, Nat.zero_le _⟩
          cases scan f 0 limit as with
          | error err => nofun
          | ok xs => exact fun h => List.cons_ne_nil _ _ (Except.ok.inj h)
        | succ offset =>
          rw [scan_succ_cons_of_count ha, ih]
          refine and_congr ?_ ?_
          · rw [and_iff_right (by rintro _ err ⟨⟩)]
            exact throughout_congr fun pre x =>
              imp_congr (reached_succ_cons_of_count ha).symm Iff.rfl
          · rw [and_iff_right fun h => Nat.not_succ_le_zero _ h.2.2]
            exact throughout_congr fun pre x => not_congr (found_succ_cons_of_count ha).symm

/-! ### First elements -/

/-- The first element of a page has `offset` elements that pass the filter before it. -/
theorem exists_of_page_eq_cons {xs : List α} (h : page q offset limit as = x :: xs) :
    ∃ pre post, as = pre ++ x :: post ∧ pre.countP q = offset := by
  induction as generalizing offset with
  | nil => exact absurd (page_nil.symm.trans h) (List.cons_ne_nil _ _).symm
  | cons a as ih =>
    cases ha : q a with
    | false =>
      obtain ⟨pre, post, rfl, hpre⟩ := ih ((page_cons_of_neg ha).symm.trans h)
      refine ⟨a :: pre, post, rfl, ?_⟩
      rw [List.countP_cons_of_neg (by simp [ha]), hpre]
    | true =>
      cases offset with
      | succ offset =>
        obtain ⟨pre, post, rfl, hpre⟩ := ih ((page_succ_cons_of_pos ha).symm.trans h)
        refine ⟨a :: pre, post, rfl, ?_⟩
        rw [List.countP_cons_of_pos ha, hpre]
      | zero =>
        cases limit with
        | zero => exact absurd (page_limit_zero.symm.trans h) (List.cons_ne_nil _ _).symm
        | succ limit =>
          obtain ⟨rfl, _⟩ := List.cons.inj ((page_zero_cons_of_pos ha).symm.trans h)
          exact ⟨[], as, rfl, rfl⟩

/-- The first element that a scan finds has `offset` elements that are counted before it. -/
theorem exists_of_scan_eq_cons {xs : List α} (h : scan f offset limit as = .ok (x :: xs)) :
    ∃ pre post, as = pre ++ x :: post ∧ pre.countP (counts f) = offset := by
  induction as generalizing offset with
  | nil => exact absurd (Except.ok.inj (scan_nil.symm.trans h)).symm (List.cons_ne_nil _ _)
  | cons a as ih =>
    cases limit with
    | zero =>
      exact absurd (Except.ok.inj (scan_limit_zero.symm.trans h)).symm (List.cons_ne_nil _ _)
    | succ limit =>
      rcases ha : f a with err | (_ | _ | _)
      · cases (scan_cons_of_error ha).symm.trans h
      · obtain ⟨pre, post, rfl, hpre⟩ := ih ((scan_cons_of_skip ha).symm.trans h)
        refine ⟨a :: pre, post, rfl, ?_⟩
        rw [List.countP_cons_of_neg (by rw [counts_eq_true, ha]; nofun), hpre]
      · cases (scan_cons_of_stop ha).symm.trans h
      · cases offset with
        | succ offset =>
          obtain ⟨pre, post, rfl, hpre⟩ := ih ((scan_succ_cons_of_count ha).symm.trans h)
          refine ⟨a :: pre, post, rfl, ?_⟩
          rw [List.countP_cons_of_pos (counts_eq_true.2 ha), hpre]
        | zero =>
          rw [scan_zero_cons_of_count ha] at h
          cases hscan : scan f 0 limit as with
          | error err => cases hscan ▸ h
          | ok found =>
            rw [hscan] at h
            obtain ⟨rfl, _⟩ := List.cons.inj (Except.ok.inj h)
            exact ⟨[], as, rfl, rfl⟩

/-! ## When a scan finds the page -/

theorem undisturbed_iff :
    Undisturbed f q offset limit as ↔
      Throughout (fun pre a => Reached f offset limit pre → ∀ err, f a ≠ .error err) as ∧
        Throughout (fun pre a => Found f offset limit pre a ∨ OnPage q offset limit pre a →
          ∀ b ∈ pre ++ [a], ¬Strays f q b) as :=
  ⟨fun h => ⟨h.total, h.straight⟩, fun h => ⟨h.1, h.2⟩⟩

/-- Behind an element that leads it astray a scan must find nothing, and nothing may be on
    the page. -/
theorem undisturbed_cons_of_strays (ha : Strays f q a) :
    Undisturbed f q offset limit (a :: as) ↔
      scan f offset limit (a :: as) = .ok [] ∧ page q offset limit (a :: as) = [] := by
  rw [undisturbed_iff, scan_eq_nil_iff, page_eq_nil_iff, and_assoc]
  refine and_congr_right fun _ => Iff.trans ⟨fun h => ?_, fun h => ?_⟩ throughout_and
  · intro pre x post heq
    have hmem : a ∈ pre ++ [x] := by
      cases pre with
      | nil => exact (List.cons.inj heq).1 ▸ List.mem_singleton_self _
      | cons b pre => exact (List.cons.inj heq).1 ▸ List.mem_cons_self
    exact not_or.1 fun hx => h pre x post heq hx a hmem ha
  · intro pre x post heq hx
    exact absurd hx (not_or.2 (h pre x post heq))

/-- An element that does not lead it astray only moves the page on. -/
theorem undisturbed_cons {offset' limit' : ℕ} (herr : ∀ err, f a ≠ .error err)
    (ha : ¬Strays f q a)
    (hpage : ∀ pre x, OnPage q offset limit (a :: pre) x ↔ OnPage q offset' limit' pre x)
    (hreached : ∀ pre, Reached f offset limit (a :: pre) ↔ Reached f offset' limit' pre)
    (hfound : ∀ pre x, Found f offset limit (a :: pre) x ↔ Found f offset' limit' pre x) :
    Undisturbed f q offset limit (a :: as) ↔ Undisturbed f q offset' limit' as := by
  rw [undisturbed_iff, undisturbed_iff, throughout_cons, throughout_cons,
    and_iff_right fun _ => herr, and_iff_right fun _ => by simpa using ha]
  refine and_congr ?_ ?_
  · exact throughout_congr fun pre x => imp_congr (hreached pre) Iff.rfl
  · refine throughout_congr fun pre x => imp_congr (or_congr (hfound pre x) (hpage pre x)) ?_
    rw [List.cons_append, List.forall_mem_cons, and_iff_right ha]

theorem undisturbed_limit_zero : Undisturbed f q offset 0 as := by
  refine undisturbed_iff.2 ⟨fun pre x post _ h => absurd h not_reached_limit_zero, ?_⟩
  rintro pre x post _ (h | h)
  · exact absurd h.1 not_reached_limit_zero
  · exact absurd h.2.1 (Nat.not_le_of_lt h.2.2)

section Counted

variable (ha : f a = .ok .count) (hqa : q a = true)
include ha hqa

theorem not_strays : ¬Strays f q a := by
  rintro (h | ⟨_, h⟩)
  · exact absurd (ha.symm.trans h) nofun
  · exact Bool.false_ne_true (h.symm.trans hqa)

theorem undisturbed_zero_cons :
    Undisturbed f q 0 (limit + 1) (a :: as) ↔ Undisturbed f q 0 limit as :=
  undisturbed_cons (fun _ h => absurd (ha.symm.trans h) nofun) (not_strays ha hqa)
    (fun _ _ => onPage_zero_cons_of_pos hqa) (fun _ => reached_zero_cons_of_count ha)
    fun _ _ => found_zero_cons_of_count ha

theorem undisturbed_succ_cons :
    Undisturbed f q (offset + 1) limit (a :: as) ↔ Undisturbed f q offset limit as :=
  undisturbed_cons (fun _ h => absurd (ha.symm.trans h) nofun) (not_strays ha hqa)
    (fun _ _ => onPage_succ_cons_of_pos hqa) (fun _ => reached_succ_cons_of_count ha)
    fun _ _ => found_succ_cons_of_count ha

end Counted

/-- After an element that is counted and does not pass the filter, a scan finds the page only
    if both are empty: an element would have to be first on both, with as many elements that
    pass before it as are counted. -/
theorem scan_cons_eq_page_iff (hq : ∀ a, q a = true → f a = .ok .count) (hnodup : (a :: as).Nodup)
    (ha : f a = .ok .count) (hqa : q a = false) :
    scan f offset (limit + 1) (a :: as) = .ok (page q offset (limit + 1) (a :: as)) ↔
      scan f offset (limit + 1) (a :: as) = .ok [] ∧ page q offset (limit + 1) (a :: as) = [] := by
  refine ⟨fun h => ?_, fun h => h.1.trans (congrArg Except.ok h.2.symm)⟩
  cases hpage : page q offset (limit + 1) (a :: as) with
  | nil => exact ⟨h.trans (congrArg Except.ok hpage), rfl⟩
  | cons x xs =>
    rw [hpage] at h
    obtain ⟨pre₁, post₁, heq₁, hpre₁⟩ := exists_of_scan_eq_cons h
    obtain ⟨pre₂, post₂, heq₂, hpre₂⟩ := exists_of_page_eq_cons hpage
    have hqx : q x = true := of_mem_page (hpage ▸ List.mem_cons_self)
    -- The element occurs only once, so both see it at one position, which is behind `a`.
    obtain rfl : pre₂ = pre₁ := by
      have hx := (List.nodup_cons.1 (List.nodup_middle.1 (heq₂ ▸ hnodup))).1
      rw [List.mem_append, not_or] at hx
      exact ((List.append_cons_inj_of_notMem hx.1 hx.2).1 (heq₂.symm.trans heq₁)).1
    cases pre₂ with
    | nil => exact absurd ((List.cons.inj heq₁).1 ▸ hqx) (by simp [hqa])
    | cons b pre =>
      obtain ⟨rfl, rfl⟩ := List.cons.inj heq₁
      rw [List.countP_cons_of_pos (counts_eq_true.2 ha)] at hpre₁
      rw [List.countP_cons_of_neg (by simp [hqa])] at hpre₂
      have hle : pre.countP q ≤ pre.countP (counts f) :=
        List.countP_mono_left fun y _ hy => counts_eq_true.2 (hq y hy)
      omega

/-- A scan that counts whatever passes the filter finds the page if and only if nothing
    disturbs it. -/
theorem scan_eq_page_iff (hq : ∀ a, q a = true → f a = .ok .count) (hnodup : as.Nodup) :
    scan f offset limit as = .ok (page q offset limit as) ↔ Undisturbed f q offset limit as := by
  induction as generalizing offset limit with
  | nil =>
    rw [undisturbed_iff, scan_nil, page_nil]
    exact iff_of_true rfl ⟨throughout_nil _, throughout_nil _⟩
  | cons a as ih =>
    have hnodup' := (List.nodup_cons.1 hnodup).2
    cases limit with
    | zero =>
      rw [scan_limit_zero, page_limit_zero]
      exact iff_of_true rfl undisturbed_limit_zero
    | succ limit =>
      rcases ha : f a with err | (_ | _ | _)
      · rw [scan_cons_of_error ha]
        refine iff_of_false nofun fun h => ?_
        exact (throughout_cons.1 h.total).1 reached_nil err ha
      · -- The element is skipped, so it does not pass the filter.
        have hqa : q a = false := by
          rw [Bool.eq_false_iff]
          exact fun h => absurd (ha.symm.trans (hq a h)) nofun
        rw [scan_cons_of_skip ha, page_cons_of_neg hqa, ih hnodup', undisturbed_cons]
        · exact fun err h => absurd (ha.symm.trans h) nofun
        · rintro (h | ⟨h, _⟩)
          · exact absurd (ha.symm.trans h) nofun
          · exact absurd (ha.symm.trans (counts_eq_true.1 h)) nofun
        · exact fun pre x => onPage_cons_of_neg hqa
        · exact fun pre => reached_cons_of_skip ha
        · exact fun pre x => found_cons_of_skip ha
      · rw [undisturbed_cons_of_strays (.inl ha), scan_cons_of_stop ha, and_iff_right rfl]
        exact ⟨fun h => (Except.ok.inj h).symm, fun h => congrArg Except.ok h.symm⟩
      · cases hqa : q a with
        | false =>
          rw [undisturbed_cons_of_strays (.inr ⟨counts_eq_true.2 ha, hqa⟩)]
          exact scan_cons_eq_page_iff hq hnodup ha hqa
        | true =>
          cases offset with
          | zero =>
            rw [scan_zero_cons_of_count ha, page_zero_cons_of_pos hqa,
              undisturbed_zero_cons ha hqa, ← ih hnodup']
            cases scan f 0 limit as with
            | error err => exact iff_of_false nofun nofun
            | ok found => simp [Except.map]
          | succ offset =>
            rw [scan_succ_cons_of_count ha, page_succ_cons_of_pos hqa,
              undisturbed_succ_cons ha hqa, ih hnodup']

/-- Nothing disturbs a scan that counts what passes the filter, if nothing passes it behind an
    element at which the scan stops. -/
theorem undisturbed_of_pairwise (hq : ∀ a, q a = true → f a = .ok .count)
    (htotal : ∀ a ∈ as, ∀ err, f a ≠ .error err)
    (hcount : ∀ a ∈ as, f a = .ok .count → q a = true)
    (hstop : as.Pairwise fun a b => f a = .ok .stop → q b = false) :
    Undisturbed f q offset limit as := by
  refine ⟨fun pre a post has _ => htotal a (has ▸ by simp), ?_⟩
  rintro pre a post rfl hor b hb (hbstop | ⟨hbcounts, hqb⟩)
  · -- The scan does not find an element from the stop on, and none there is on the page.
    rcases List.mem_append.1 hb with hpre | hlast
    · rcases hor with ⟨⟨_, hnostop, _⟩, _, _⟩ | ⟨hqa, _⟩
      · exact hnostop b hpre hbstop
      · have hqa' := (List.pairwise_append.1 hstop).2.2 b hpre a List.mem_cons_self hbstop
        cases hqa.symm.trans hqa'
    · obtain rfl := List.mem_singleton.1 hlast
      rcases hor with ⟨_, hcounts, _⟩ | ⟨hqb, _⟩
      · cases hbstop.symm.trans (counts_eq_true.1 hcounts)
      · cases hbstop.symm.trans (hq b hqb)
  · have hmem : b ∈ pre ++ a :: post := by
      rw [List.append_cons]
      exact List.mem_append_left post hb
    cases hqb.symm.trans (hcount b hmem (counts_eq_true.1 hbcounts))

end Scan

end Paging
