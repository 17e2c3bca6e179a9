import Mathlib.Algebra.BigOperators.Group.List.Basic
import Mathlib.Algebra.Group.Prod
import VibeShield.Lib.Paging
import VibeShield.Python.Json
import VibeShield.Security.Egress.Trail

/-!
# The volumes in the trail

The events of an agent are to tell how many bytes its connections sent and received, in
total. A query returns one event for each call of the agent (`getEvents_reports`). But the
volumes of a connection are only in the text of its event, and the numbers in it are always
zero (`volume_run`), so the totals are right only if they are zero (`volumes_faithful_iff`).
-/

namespace VibeShield

open Paging

variable {F : Type*}

/-! ## Queries -/

namespace EgressProxy

theorem findEvents_eq (q : EgressEvent F → Bool) (limit : ℤ)
    (results events : List (EgressEvent F)) :
    findEvents q limit results events =
      results ++ page q 0 (limit - results.length).toNat events := by
  induction events generalizing results with
  | nil => rw [findEvents, page_nil, List.append_nil]
  | cons e events ih =>
    rw [findEvents]
    split
    · next hlimit =>
      rw [Int.toNat_of_nonpos (by omega), page_limit_zero, List.append_nil]
    · next hlimit =>
      have hsucc : (limit - results.length).toNat =
          (limit - (results ++ [e]).length).toNat + 1 := by
        rw [List.length_append, List.length_singleton]
        omega
      by_cases hq : q e = true
      · rw [if_pos hq, ih, hsucc, page_zero_cons_of_pos hq, List.append_assoc,
          List.singleton_append]
      · rw [if_neg hq, ih, page_cons_of_neg (by simpa using hq)]

/-- A query returns a page of the events, the last one first. -/
theorem getEvents_eq (p : EgressProxy F) (agentId decision : Option String) (limit : ℤ) :
    p.getEvents agentId decision limit =
      page (fun e => passesFilter agentId e.agentId && passesFilter decision e.decision) 0
        limit.toNat p.events.reverse := by
  rw [getEvents, findEvents_eq, List.nil_append, List.length_nil, Nat.cast_zero, sub_zero]

theorem mem_of_mem_getEvents {p : EgressProxy F} {agentId decision : Option String} {limit : ℤ}
    {e : EgressEvent F} (h : e ∈ p.getEvents agentId decision limit) : e ∈ p.events := by
  rw [getEvents_eq] at h
  have hmem := List.mem_of_mem_filter (List.mem_of_mem_drop (List.mem_of_mem_take h))
  exact List.mem_reverse.1 hmem

/-- With a large limit, a query for an agent returns all its events. -/
theorem getEvents_agent {p : EgressProxy F} {a : String} (ha : a ≠ "") {limit : ℤ}
    (hlimit : p.events.length ≤ limit) :
    p.getEvents (some a) none limit = (p.events.filter (·.agentId = a)).reverse := by
  have hfilter : (fun e : EgressEvent F => passesFilter (some a) e.agentId &&
      passesFilter none e.decision) = fun e => decide (e.agentId = a) := by
    ext1 e
    simp [passesFilter, ha]
  have hlength := List.length_filter_le (fun e : EgressEvent F => e.agentId = a) p.events.reverse
  rw [List.length_reverse] at hlength
  rw [getEvents_eq, hfilter, page, List.drop_zero, List.take_of_length_le (by omega),
    List.filter_reverse]

/-- A trail that is not too long is kept as a whole. -/
theorem Keeps.eq {p : EgressProxy F} {trail : List (EgressEvent F)} (h : p.Keeps trail)
    (htrail : trail.length ≤ 5000) : p.events = trail := by
  have hle := h.le_length
  exact h.suffix.eq_of_length_le (by omega)

end EgressProxy

/-! ## The events of an agent -/

variable [PyArith F] {py : Python}

/-- Whether a call leaves an event of the agent. -/
def EgressOp.isBy (a : String) (op : EgressOp) : Bool := op.subject.any (·.1 = a)

omit [PyArith F] in
theorem Leaves.isBy_iff
    {ev : Machine.Event (EgressProxy F) (EgressCall F) (Option EgressDecision)}
    {e : EgressEvent F} (h : Leaves ev e) (a : String) :
    ev.input.op.isBy a = true ↔ decide (e.agentId = a) = true := by
  rw [EgressOp.isBy, h.subject, Option.any_some]

/-- After at most 5000 calls, a query for an agent returns one event for each of its calls,
    with the decision that was returned. -/
theorem getEvents_reports (py : Python) (maxSize rate : ℤ) {cs : List (EgressCall F)}
    (hcs : cs.length ≤ 5000) {a : String} (ha : a ≠ "") {limit : ℤ} (hlimit : cs.length ≤ limit) :
    List.Forall₂ Leaves
      (((egress F py).events (.new maxSize rate) cs).filter fun ev => ev.input.op.isBy a)
      (((egress F py).run (.new maxSize rate) cs).getEvents (some a) none limit).reverse := by
  obtain ⟨trail, hleaves, hkeeps⟩ := trailed_run py maxSize rate cs
  have hlength : trail.length ≤ cs.length := by
    rw [← hleaves.length_eq, ← Machine.length_events (M := egress F py) (.new maxSize rate) cs]
    exact List.length_filter_le _ _
  have hevents := hkeeps.eq (hlength.trans hcs)
  have hby := List.rel_filter (fun _ _ h => h.isBy_iff a) hleaves
  rw [List.filter_filter] at hby
  rw [EgressProxy.getEvents_agent ha (by rw [hevents]; omega), List.reverse_reverse, hevents]
  convert hby using 2
  ext1 ev
  rcases hsubject : ev.input.op.subject with _ | subject <;> simp [EgressOp.isBy, hsubject]

/-! ## Volumes -/

/-- The volumes that an operation logs for the agent. -/
def EgressOp.volume (a : String) : EgressOp → ℤ × ℤ
  | logConnection agentId _ _ bytesSent bytesReceived _ =>
    if agentId = a then (bytesSent, bytesReceived) else 0
  | _ => 0

/-- The volumes that the calls log for the agent, in total. -/
def loggedVolume (a : String) (cs : List (EgressCall F)) : ℤ × ℤ :=
  (cs.map fun c => c.op.volume a).sum

/-- The volumes of the events that a query for the agent returns, in total. -/
def EgressProxy.reportedVolume (p : EgressProxy F) (a : String) (limit : ℤ) : ℤ × ℤ :=
  ((p.getEvents (some a) none limit).map EgressEvent.volume).sum

/-- A call leaves events without volumes, if there are no others. -/
theorem volume_step {p : EgressProxy F} {c : EgressCall F} (h : ∀ e ∈ p.events, e.volume = 0) :
    ∀ e ∈ ((egress F py).step p c).1.events, e.volume = 0 := by
  rcases hsubject : c.op.subject with _ | subject
  · rwa [events_step_of_subject_none hsubject]
  · have hlogged : c.op.subject.isSome = true := Option.isSome_iff_exists.2 ⟨subject, hsubject⟩
    obtain ⟨e, hleaves, hvolume⟩ :
        ∃ e, Leaves ((egress F py).event p c) e ∧ e.volume = 0 := exists_leaves hlogged
    intro e' he'
    rw [show ((egress F py).step p c).1.events = retained (p.events ++ [e]) from hleaves.events]
      at he'
    rcases List.mem_append.1 ((retained_isSuffix _).mem he') with hmem | hmem
    · exact h e' hmem
    · rwa [List.mem_singleton.1 hmem]

theorem volume_run (py : Python) (maxSize rate : ℤ) (cs : List (EgressCall F)) :
    ∀ e ∈ ((egress F py).run (.new maxSize rate) cs).events, e.volume = 0 :=
  Machine.invariant (M := egress F py) (G := fun _ _ => True)
    (P := fun p => ∀ e ∈ p.events, e.volume = 0) (fun _ h => absurd h List.not_mem_nil)
    (fun _ _ _ h => volume_step h) cs fun _ _ => trivial

/-- In every run, the reported volumes of an agent are the logged ones if and only if these are
    zero. -/
theorem volumes_faithful_iff (py : Python) (maxSize rate : ℤ) (cs : List (EgressCall F))
    (a : String) (limit : ℤ) :
    ((egress F py).run (.new maxSize rate) cs).reportedVolume a limit = loggedVolume a cs ↔
      loggedVolume a cs = 0 := by
  have hzero : ((egress F py).run (.new maxSize rate) cs).reportedVolume a limit = 0 := by
    rw [EgressProxy.reportedVolume]
    apply List.sum_eq_zero
    intro volume hvolume
    obtain ⟨e, he, rfl⟩ := List.mem_map.1 hvolume
    exact volume_run py maxSize rate cs e (EgressProxy.mem_of_mem_getEvents he)
  rw [hzero, eq_comm]

namespace Sample

/-- One connection of an agent, with 100 bytes sent and 50 received. -/
def logCalls : List (EgressCall ℚ) :=
  [⟨.logConnection "a1" "api.test.com" 443 100 50 "t1", fun _ => 0⟩]

/-- Its event reports none of them. -/
theorem volume_lost :
    logCalls.length ≤ 5000 ∧
      ((egress ℚ (.plain [] "")).run (.new 1048576 60) logCalls).reportedVolume "a1" 1 ≠
        loggedVolume "a1" logCalls := by
  decide

end Sample

end VibeShield
